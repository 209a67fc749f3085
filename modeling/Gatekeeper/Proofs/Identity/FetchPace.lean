import Gatekeeper.Proofs.Identity.KeyHistory

/-!
# Pace of key fetches

How far the fetches of the published set lie apart. The cache knows its last
attempt, and asks for no other one before the least interval is over. Two kinds
of fetches are forgotten: those that bring no set while none is kept, and those
that bring a set which the token of the call spoils. After such a fetch the same
token makes another one, however soon it comes.
-/

namespace Gatekeeper

/-! ### The last attempt -/

namespace KeyCache

/-- The last attempt that the cache knows of. -/
def lastAttempt? (cache : KeyCache) : Option Nat :=
  cache.map KeptKeySet.lastAttempt

/-- A kept set is fetched again for a token that finds no key in it, or a key
when the set is old, and only after the least interval. -/
theorem lookUp_eq_fetch_iff {kept : KeptKeySet} {refreshInterval now : Nat}
    {keyId : Option String} {serving : Option VerificationKey} :
    KeyCache.lookUp (some kept) refreshInterval now keyId = .fetch serving ↔
      minRefreshInterval ≤ now - kept.lastAttempt ∧
        kept.set.find keyId = .ok serving ∧
        (serving = none ∨ refreshInterval ≤ now - kept.fetchedAt) := by
  unfold lookUp
  rcases found : kept.set.find keyId with fault | (_ | key)
  · simp [found]
  · by_cases due : minRefreshInterval ≤ now - kept.lastAttempt
    · simp only [found, due, decide_true, if_true, KeyLookup.fetch.injEq,
        Except.ok.injEq, true_and]
      constructor
      · rintro rfl
        exact ⟨rfl, .inl rfl⟩
      · exact And.left
    · simp [found, due]
  · by_cases due : minRefreshInterval ≤ now - kept.lastAttempt
    · by_cases old : refreshInterval ≤ now - kept.fetchedAt
      · simp [found, due, old]
      · simp only [found, due, old, decide_true, and_true, if_false,
          reduceCtorEq, Except.ok.injEq, or_false, true_and, false_iff]
        rintro ⟨rfl, unserved⟩
        cases unserved
    · simp [found, due]

/-- A fetch is asked for only when the least interval has passed. -/
theorem due_of_lookUp {cache : KeyCache} {refreshInterval now attempt : Nat}
    {keyId : Option String} {serving : Option VerificationKey}
    (lookedUp : cache.lookUp refreshInterval now keyId = .fetch serving)
    (attempted : cache.lastAttempt? = some attempt) :
    attempt + minRefreshInterval ≤ now := by
  cases cache with
  | none => cases attempted
  | some kept =>
      have due := (lookUp_eq_fetch_iff.mp lookedUp).1
      have isLast : kept.lastAttempt = attempt := Option.some.inj attempted
      rw [isLast, minRefreshInterval] at due
      rw [minRefreshInterval]
      omega

/-- Where a fetch is asked for, it is asked for at any later time as well. -/
theorem lookUp_fetch_of_le {cache : KeyCache} {refreshInterval now later : Nat}
    {keyId : Option String} {serving : Option VerificationKey}
    (lookedUp : cache.lookUp refreshInterval now keyId = .fetch serving)
    (ordered : now ≤ later) :
    cache.lookUp refreshInterval later keyId = .fetch serving := by
  cases cache with
  | none => exact lookedUp
  | some kept =>
      obtain ⟨due, found, unserved | old⟩ := lookUp_eq_fetch_iff.mp lookedUp
      · exact lookUp_eq_fetch_iff.mpr ⟨by omega, found, .inl unserved⟩
      · exact lookUp_eq_fetch_iff.mpr ⟨by omega, found, .inr (by omega)⟩

/-- A set in which the selected key is usable, or none is selected, is an
attempt that the cache knows of. -/
theorem lastAttempt?_take_of_find {cache : KeyCache} {now : Nat}
    {keyId : Option String} {serving selected : Option VerificationKey}
    {set : KeySet} (found : set.find keyId = .ok selected) :
    (cache.take now keyId serving (.ok set)).2.lastAttempt? = some now := by
  cases selected with
  | none => simp [take, found, lastAttempt?]
  | some key =>
      rw [take_of_selected found]
      rfl

end KeyCache

/-! ### What a call leaves of its fetch -/

namespace KeyCall

/-- The call asked for the published set. -/
def Fetches (call : KeyCall) : Prop :=
  call.brought ≠ []

/-- The call made a fetch that the cache does not know of: it brought no set
while none was kept, or a set that the token of the call spoils. -/
def Forgets (call : KeyCall) : Prop :=
  call.Fetches ∧
    ((call.received = [] ∧ call.before = none) ∨
      ∃ set ∈ call.received, call.spoils set = true)

variable {call : KeyCall}

theorem forgets_iff_of_failed (received : call.received = []) :
    call.Forgets ↔ call.Fetches ∧ call.before = none := by
  simp [Forgets, received]

theorem forgets_iff_of_received {set : KeySet}
    (received : call.received = [set]) :
    call.Forgets ↔ call.Fetches ∧ call.spoils set = true := by
  simp [Forgets, received]

end KeyCall

namespace PublishedKeys.Goes

variable {provider : PublishedKeys} {call : KeyCall}

theorem brought_length_le_one (goes : provider.Goes call) :
    call.brought.length ≤ 1 := by
  cases goes with
  | unexamined fault examined answer brought after => simp [brought]
  | refused token fault examined lookedUp answer brought after => simp [brought]
  | served token key examined lookedUp answer brought after => simp [brought]
  | fetched token serving exchange key examined lookedUp taken answer brought =>
      simp [brought]

theorem after_eq_of_not_fetches (goes : provider.Goes call)
    (idle : ¬ call.Fetches) : call.after = call.before := by
  cases goes with
  | unexamined fault examined answer brought after => exact after
  | refused token fault examined lookedUp answer brought after => exact after
  | served token key examined lookedUp answer brought after => exact after
  | fetched token serving exchange key examined lookedUp taken answer brought =>
      exact absurd (by simp [KeyCall.Fetches, brought]) idle

/-- A call fetches when the look-up of its token asks for that. -/
theorem fetches_of_lookUp (goes : provider.Goes call) {token : ExaminedToken}
    {serving : Option VerificationKey}
    (examined : ExaminedToken.ofText call.token = .ok token)
    (asked : call.before.lookUp provider.refreshInterval call.now token.keyId =
      .fetch serving) : call.Fetches := by
  cases goes with
  | unexamined fault unexamined answer brought after =>
      rw [examined] at unexamined
      cases unexamined
  | refused other fault alsoExamined refused answer brought after =>
      obtain rfl := Except.ok.inj (examined.symm.trans alsoExamined)
      rw [asked] at refused
      cases refused
  | served other key alsoExamined found answer brought after =>
      obtain rfl := Except.ok.inj (examined.symm.trans alsoExamined)
      rw [asked] at found
      cases found
  | fetched other kept exchange key alsoExamined lookedUp taken answer
      brought =>
      simp [KeyCall.Fetches, brought]

/-- What a fetch brings decides whether it is forgotten. A forgotten one leaves
the cache as it was, and any other one is the last attempt from then on. -/
theorem after_of_fetches (goes : provider.Goes call)
    (fetches : call.Fetches) :
    (call.Forgets ∧ call.after = call.before) ∨
      (¬ call.Forgets ∧ call.after.lastAttempt? = some call.now) := by
  obtain ⟨token, serving, exchange, examined, -, brought, after, -⟩ :=
    goes.exists_take fetches
  cases arrived : KeySet.ofExchange exchange with
  | error fault =>
      rw [KeyCall.forgets_iff_of_failed
        (KeyCall.received_of_failed brought arrived), after, arrived]
      cases before : call.before with
      | none => exact .inl ⟨⟨fetches, rfl⟩, rfl⟩
      | some kept =>
          refine .inr ⟨?_, rfl⟩
          rintro ⟨-, ⟨⟩⟩
  | ok set =>
      rw [KeyCall.forgets_iff_of_received
        (KeyCall.received_of_arrived brought arrived),
        KeyCall.spoils_of_examined examined, after, arrived]
      rcases found : set.find token.keyId with fault | selected
      · rw [KeyCache.take_of_unusable found]
        exact .inl ⟨⟨fetches, rfl⟩, rfl⟩
      · refine .inr ⟨?_, KeyCache.lastAttempt?_take_of_find found⟩
        rintro ⟨-, ⟨⟩⟩

end PublishedKeys.Goes

/-! ### Runs -/

namespace PublishedKeys

variable {State : Type} {provider : PublishedKeys}

theorem map_now_calls (fetch : State → Http.Exchange × State)
    (requests : List (Nat × String)) (state : KeyCache × State) :
    (provider.calls fetch requests state).map KeyCall.now =
      requests.map Prod.fst := by
  induction requests generalizing state with
  | nil => rfl
  | cons request rest ih =>
      obtain ⟨now, token⟩ := request
      simp only [calls, call, List.map_cons, ih]

namespace Linked

variable {cache : KeyCache} {calls past idle rest : List KeyCall}
  {call : KeyCall}

/-- The calls behind a call follow on what it left. -/
theorem behind (linked : provider.Linked cache (past ++ call :: rest)) :
    provider.Goes call ∧ provider.Linked call.after rest := by
  induction past generalizing cache with
  | nil => exact linked.2
  | cons first others ih => exact ih linked.2.2

/-- Calls that fetch nothing leave the cache to the next one as it was. -/
theorem before_eq_of_idle
    (linked : provider.Linked cache (idle ++ call :: rest))
    (unasked : ∀ other ∈ idle, ¬ other.Fetches) : call.before = cache := by
  induction idle generalizing cache with
  | nil => exact linked.1
  | cons first others ih =>
      obtain ⟨before, goes, linked⟩ := linked
      have unmoved : first.after = cache := by
        rw [goes.after_eq_of_not_fetches (unasked first List.mem_cons_self),
          before]
      rw [unmoved] at linked
      exact ih linked fun other member =>
        unasked other (List.mem_cons_of_mem first member)

/-- Once the cache knows of an attempt it never knows only of earlier ones. -/
theorem exists_attempt_since {since attempt : Nat}
    (linked : provider.Linked cache calls)
    (attempted : cache.lastAttempt? = some attempt) (recent : since ≤ attempt)
    (late : ∀ call ∈ calls, since ≤ call.now) :
    ∀ call ∈ calls, ∃ attempt, call.before.lastAttempt? = some attempt ∧
      since ≤ attempt := by
  induction calls generalizing cache attempt with
  | nil =>
      intro call member
      cases member
  | cons first others ih =>
      obtain ⟨before, goes, linked⟩ := linked
      have firstLate : since ≤ first.now := late first List.mem_cons_self
      have othersLate : ∀ call ∈ others, since ≤ call.now :=
        fun call member => late call (List.mem_cons_of_mem first member)
      rw [← before] at attempted
      intro call member
      rcases List.mem_cons.mp member with rfl | member
      · exact ⟨attempt, attempted, recent⟩
      · by_cases fetches : first.Fetches
        · rcases goes.after_of_fetches fetches with ⟨-, after⟩ | ⟨-, marked⟩
          · rw [← after] at attempted
            exact ih linked attempted recent othersLate call member
          · exact ih linked marked firstLate othersLate call member
        · rw [← goes.after_eq_of_not_fetches fetches] at attempted
          exact ih linked attempted recent othersLate call member

/-- Any fetch that is not forgotten keeps its distance from every later one. -/
theorem pairwise_distance (linked : provider.Linked cache calls)
    (ordered : (calls.map KeyCall.now).Pairwise (· ≤ ·)) :
    calls.Pairwise fun first second =>
      first.Fetches → ¬ first.Forgets → second.Fetches →
        first.now + minRefreshInterval ≤ second.now := by
  induction calls generalizing cache with
  | nil => exact List.Pairwise.nil
  | cons first others ih =>
      obtain ⟨-, goes, linked⟩ := linked
      rw [List.map_cons, List.pairwise_cons] at ordered
      obtain ⟨earliest, ordered⟩ := ordered
      refine List.pairwise_cons.mpr ⟨?_, ih linked ordered⟩
      intro second member fetches remembered alsoFetches
      rcases goes.after_of_fetches fetches with
        ⟨forgotten, -⟩ | ⟨-, marked⟩
      · exact absurd forgotten remembered
      · have late : ∀ call ∈ others, first.now ≤ call.now :=
          fun call present => earliest call.now (List.mem_map_of_mem present)
        obtain ⟨attempt, attempted, since⟩ := linked.exists_attempt_since
          marked (Nat.le_refl first.now) late second member
        obtain ⟨token, serving, _, -, lookedUp, -⟩ :=
          (linked.goes member).exists_take alsoFetches
        have due := KeyCache.due_of_lookUp lookedUp attempted
        omega

/-- After a forgotten fetch the same token fetches again, unless another fetch
came first. -/
theorem fetches_again {first second : KeyCall}
    (linked : provider.Linked cache
      (past ++ first :: (idle ++ second :: rest)))
    (forgotten : first.Forgets) (unasked : ∀ other ∈ idle, ¬ other.Fetches)
    (same : second.token = first.token) (ordered : first.now ≤ second.now) :
    second.Fetches := by
  obtain ⟨goes, linked⟩ := linked.behind
  have unmoved : first.after = first.before := by
    rcases goes.after_of_fetches forgotten.1 with ⟨-, after⟩ | ⟨remembered, -⟩
    · exact after
    · exact absurd forgotten remembered
  have before : second.before = first.before := by
    rw [linked.before_eq_of_idle unasked, unmoved]
  obtain ⟨token, serving, _, examined, lookedUp, -⟩ :=
    goes.exists_take forgotten.1
  have lookedUpAgain : second.before.lookUp provider.refreshInterval second.now
      token.keyId = .fetch serving := by
    rw [before]
    exact KeyCache.lookUp_fetch_of_le lookedUp ordered
  exact linked.behind.1.fetches_of_lookUp (by rw [same]; exact examined)
    lookedUpAgain

end Linked

/-- Over any run from an empty cache, a call makes at most one fetch, and a
fetch that is not forgotten keeps the least interval from every later one. So
all fetches keep it from each other exactly when the forgotten ones do. A
forgotten fetch is made again by the next call with its token. -/
theorem fetch_pace_of_calls (provider : PublishedKeys)
    (fetch : State → Http.Exchange × State) (requests : List (Nat × String))
    (network : State) (ordered : (requests.map Prod.fst).Pairwise (· ≤ ·)) :
    (∀ call ∈ provider.calls fetch requests (none, network),
      call.brought.length ≤ 1) ∧
    ((provider.calls fetch requests (none, network)).Pairwise
      fun first second => first.Fetches → ¬ first.Forgets → second.Fetches →
        first.now + minRefreshInterval ≤ second.now) ∧
    (((provider.calls fetch requests (none, network)).Pairwise
        fun first second => first.Fetches → second.Fetches →
          first.now + minRefreshInterval ≤ second.now) ↔
      (provider.calls fetch requests (none, network)).Pairwise
        fun first second => first.Forgets → second.Fetches →
          first.now + minRefreshInterval ≤ second.now) ∧
    ∀ past first idle second rest,
      provider.calls fetch requests (none, network) =
        past ++ first :: (idle ++ second :: rest) →
      first.Forgets → (∀ other ∈ idle, ¬ other.Fetches) →
      second.token = first.token → second.Fetches := by
  have linked := provider.linked_calls fetch requests (none, network)
  rw [← provider.map_now_calls fetch requests (none, network)] at ordered
  generalize provider.calls fetch requests (none, network) = calls
    at linked ordered ⊢
  have distance := linked.pairwise_distance ordered
  refine ⟨?_, distance, ⟨?_, ?_⟩, ?_⟩
  · intro call member
    exact (linked.goes member).brought_length_le_one
  · intro paced
    refine paced.imp ?_
    intro first second apart forgotten fetches
    exact apart forgotten.1 fetches
  · intro forgottenPaced
    refine (distance.and forgottenPaced).imp ?_
    rintro first second ⟨remembered, forgotten⟩ fetches alsoFetches
    by_cases forgets : first.Forgets
    · exact forgotten forgets alsoFetches
    · exact remembered fetches forgets alsoFetches
  · intro past first idle second rest split forgotten unasked same
    subst split
    have later : first.now ≤ second.now := by
      simp only [List.map_append, List.map_cons, List.pairwise_append,
        List.pairwise_cons] at ordered
      exact ordered.2.1.1 second.now (by simp)
    exact linked.fetches_again forgotten unasked same later

end PublishedKeys

/-! ### A provider without a set

The endpoint does not answer, so that no set is ever kept and no attempt is
known of.
-/

namespace Sample

/-- A call with the sample token whose fetch brings nothing. -/
def unansweredCall (now : Nat) : KeyCall :=
  ⟨now, token, none, .error (.unavailable FetchFault.unanswered.message),
    [.unanswered], none⟩

/-- The sample token comes twice within a second. -/
def hurriedRequests : List (Nat × String) :=
  [(1700000000, token), (1700000001, token)]

theorem call_unanswered (now : Nat) :
    provider.call scripted now token (none, []) =
      (unansweredCall now, none, []) := by
  have taken : KeyCache.take none now none none
      (KeySet.ofExchange (scripted []).1) =
        (.error (.unavailable FetchFault.unanswered.message), none) := rfl
  rw [PublishedKeys.call_of_fetch examined_token rfl taken]
  rfl

theorem calls_hurried :
    provider.calls scripted hurriedRequests (none, []) =
      [unansweredCall 1700000000, unansweredCall 1700000001] := by
  rw [hurriedRequests, PublishedKeys.calls, call_unanswered]
  dsimp only
  rw [PublishedKeys.calls, call_unanswered]
  dsimp only [PublishedKeys.calls]

theorem forgets_unansweredCall (now : Nat) : (unansweredCall now).Forgets :=
  ⟨List.cons_ne_nil _ _, .inl ⟨rfl, rfl⟩⟩

end Sample

/-- Nothing keeps a provider without a kept set from fetching: it makes a fetch
for each of two calls within a second. -/
theorem fetches_within_a_second :
    ∃ first second,
      Sample.provider.calls Sample.scripted Sample.hurriedRequests (none, []) =
          [first, second] ∧
        first.Fetches ∧ second.Fetches ∧
        ¬ first.now + minRefreshInterval ≤ second.now :=
  ⟨_, _, Sample.calls_hurried,
    (Sample.forgets_unansweredCall 1700000000).1,
    (Sample.forgets_unansweredCall 1700000001).1, by decide⟩

/-- The second of these fetches follows from the first one. -/
theorem fetch_pace_of_sample :
    (Sample.hurriedRequests.map Prod.fst).Pairwise (· ≤ ·) ∧
      (Sample.unansweredCall 1700000000).Forgets ∧
      (Sample.unansweredCall 1700000001).Fetches := by
  have ordered : (Sample.hurriedRequests.map Prod.fst).Pairwise (· ≤ ·) := by
    decide
  have forgotten := Sample.forgets_unansweredCall 1700000000
  obtain ⟨-, -, -, again⟩ := PublishedKeys.fetch_pace_of_calls Sample.provider
    Sample.scripted Sample.hurriedRequests [] ordered
  exact ⟨ordered, forgotten,
    again [] _ [] _ [] Sample.calls_hurried forgotten (by simp) rfl⟩

end Gatekeeper
