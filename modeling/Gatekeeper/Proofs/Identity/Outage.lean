import Gatekeeper.Proofs.Identity.FetchPace

/-!
# Outages of the endpoint of the key set

What calls do while no fetch brings a set. The kept set and the time of its
fetch stay, however long that lasts, and a token that selects a usable key of it
is judged under that key. A call is unavailable only through its own fetch, and
only when nothing is kept for its token.
-/

namespace Gatekeeper

/-! ### Failed fetches -/

namespace KeySet

theorem find_eq_ok_none_iff {set : KeySet} {keyId : Option String} :
    set.find keyId = .ok none ↔ ∀ key, ¬ set.Selects keyId key := by
  simp only [← select?_eq_some_iff]
  unfold find
  cases set.select? keyId with
  | none => simp
  | some key => cases used : key.verificationKey? <;> simp [used]

/-- An exchange brings no set when it is no success with the body of one. -/
theorem exists_ofExchange_eq_error_iff {exchange : Http.Exchange} :
    (∃ fault, KeySet.ofExchange exchange = .error fault) ↔
      ∀ status body, exchange = .answered status body →
        200 ≤ status → status < 300 → KeySet.ofBytes? body.bytes = none := by
  constructor
  · rintro ⟨fault, failed⟩ status body rfl least most
    cases read : KeySet.ofBytes? body.bytes with
    | none => rfl
    | some set =>
        have success : Http.isSuccess status = true := by
          simp [Http.isSuccess, least, most]
        rw [ofExchange_eq_ok_iff.mpr
          ⟨status, body, rfl, success, read⟩] at failed
        cases failed
  · intro unread
    cases arrived : KeySet.ofExchange exchange with
    | error fault => exact ⟨fault, rfl⟩
    | ok set =>
        obtain ⟨status, body, rfl, success, read⟩ :=
          ofExchange_eq_ok_iff.mp arrived
        simp only [Http.isSuccess, Bool.and_eq_true,
          decide_eq_true_eq] at success
        rw [unread status body rfl success.1 success.2] at read
        cases read

end KeySet

namespace KeyCall

/-- The call made a fetch that brought no set: it was not answered, its status
was no success, or its body is no key set. -/
def FetchFails (call : KeyCall) : Prop :=
  ∃ exchange, call.brought = [exchange] ∧
    ∀ status body, exchange = .answered status body →
      200 ≤ status → status < 300 → KeySet.ofBytes? body.bytes = none

/-- Before the call no key is kept that its token selects. -/
def LacksKey (call : KeyCall) : Prop :=
  ∀ kept token, call.before = some kept →
    ExaminedToken.ofText call.token = .ok token →
      ∀ key, ¬ kept.set.Selects token.keyId key

variable {call : KeyCall}

theorem fetchFails_of_brought {exchange : Http.Exchange}
    (brought : call.brought = [exchange]) :
    call.FetchFails ↔ ∃ fault, KeySet.ofExchange exchange = .error fault := by
  rw [FetchFails, brought, KeySet.exists_ofExchange_eq_error_iff]
  simp only [List.cons.injEq, and_true, exists_eq_left']

theorem not_fetchFails_of_unasked (brought : call.brought = []) :
    ¬ call.FetchFails := by
  rintro ⟨exchange, asked, -⟩
  rw [brought] at asked
  cases asked

end KeyCall

/-! ### One call -/

theorem KeyCache.take_of_failed {cache : KeyCache} {now : Nat}
    {keyId : Option String} {kept : Option VerificationKey}
    {fault : FetchFault} :
    cache.take now keyId kept (.error fault) =
      ((match kept with
          | some key => .ok key
          | none => .error (.unavailable fault.message)),
        cache.markAttempt now) :=
  rfl

/-- A usable key of the kept set is found, or serves if a fetch fails. -/
theorem KeyCache.lookUp_of_selected {kept : KeptKeySet}
    {keyId : Option String} {key : VerificationKey}
    (found : kept.set.find keyId = .ok (some key)) (refreshInterval now : Nat) :
    KeyCache.lookUp (some kept) refreshInterval now keyId = .found key ∨
      KeyCache.lookUp (some kept) refreshInterval now keyId =
        .fetch (some key) := by
  unfold KeyCache.lookUp
  simp only [found]
  split
  · exact .inr rfl
  · exact .inl rfl

/-- With a set that arrived no call is unavailable. -/
theorem KeyCache.take_ne_unavailable {cache : KeyCache} {now : Nat}
    {keyId : Option String} {kept : Option VerificationKey} {set : KeySet}
    (detail : String) :
    (cache.take now keyId kept (.ok set)).1 ≠ .error (.unavailable detail) := by
  rcases found : set.find keyId with fault | (_ | key) <;>
    simp [take, found, TokenFault.failure]

/-- The verdict on a token under a key is never that the provider is
unavailable. -/
theorem mapError_failure_ne_unavailable {judged : Except TokenFault Claims}
    (detail : String) :
    judged.mapError TokenFault.failure ≠ .error (.unavailable detail) := by
  cases judged with
  | error fault => simp [Except.mapError, TokenFault.failure]
  | ok claims => simp [Except.mapError]

namespace PublishedKeys.Goes

variable {provider : PublishedKeys} {call : KeyCall}

/-- A failed fetch changes nothing but the time of the last attempt. -/
theorem after_of_fetchFails (goes : provider.Goes call)
    (fails : call.FetchFails) :
    call.after = call.before.map fun kept =>
      { kept with lastAttempt := call.now } := by
  obtain ⟨token, serving, exchange, -, -, brought, after, -⟩ :=
    goes.exists_take fun unasked =>
      KeyCall.not_fetchFails_of_unasked unasked fails
  obtain ⟨fault, failed⟩ := (KeyCall.fetchFails_of_brought brought).mp fails
  rw [after, failed, KeyCache.take_of_failed]
  rfl

private theorem unavailable_iff_of_unasked (judged : Except TokenFault Claims)
    (answer : call.answer = judged.mapError TokenFault.failure)
    (brought : call.brought = []) :
    (∃ detail, call.answer = .error (.unavailable detail)) ↔
      call.FetchFails ∧ call.LacksKey := by
  constructor
  · rintro ⟨detail, unavailable⟩
    rw [answer] at unavailable
    exact absurd unavailable (mapError_failure_ne_unavailable detail)
  · rintro ⟨fails, -⟩
    exact absurd fails (KeyCall.not_fetchFails_of_unasked brought)

/-- The key that serves when a fetch fails is the kept one. -/
theorem lacksKey_iff_of_lookUp {token : ExaminedToken}
    {serving : Option VerificationKey}
    (examined : ExaminedToken.ofText call.token = .ok token)
    (lookedUp : call.before.lookUp provider.refreshInterval call.now
      token.keyId = .fetch serving) :
    call.LacksKey ↔ serving = none := by
  cases before : call.before with
  | none =>
      rw [before] at lookedUp
      constructor
      · intro lacks
        exact (KeyLookup.fetch.inj lookedUp).symm
      · rintro rfl kept other isKept
        rw [before] at isKept
        cases isKept
  | some kept =>
      rw [before] at lookedUp
      have found := (KeyCache.lookUp_eq_fetch_iff.mp lookedUp).2.1
      constructor
      · intro lacks
        have unfound := KeySet.find_eq_ok_none_iff.mpr
          (lacks kept token before examined)
        exact Except.ok.inj (found.symm.trans unfound)
      · rintro rfl other alsoToken isKept alsoExamined
        obtain rfl := Option.some.inj (before.symm.trans isKept)
        obtain rfl := Except.ok.inj (examined.symm.trans alsoExamined)
        exact KeySet.find_eq_ok_none_iff.mp found

/-- A call is unavailable when its own fetch fails and nothing is kept for its
token, and only then. -/
theorem unavailable_iff (goes : provider.Goes call) :
    (∃ detail, call.answer = .error (.unavailable detail)) ↔
      call.FetchFails ∧ call.LacksKey := by
  cases goes with
  | unexamined fault examined answer brought after =>
      exact unavailable_iff_of_unasked (.error fault) answer brought
  | refused token fault examined lookedUp answer brought after =>
      exact unavailable_iff_of_unasked (.error fault) answer brought
  | served token key examined lookedUp answer brought after =>
      exact unavailable_iff_of_unasked _ answer brought
  | fetched token serving exchange key examined lookedUp taken answer brought =>
      rw [KeyCall.fetchFails_of_brought brought,
        lacksKey_iff_of_lookUp examined lookedUp, answer]
      cases arrived : KeySet.ofExchange exchange with
      | error fault =>
          rw [arrived, KeyCache.take_of_failed] at taken
          obtain ⟨rfl, -⟩ := Prod.mk.inj taken
          cases serving with
          | none => simp [Except.bind]
          | some key =>
              simp [Except.bind, mapError_failure_ne_unavailable]
      | ok set =>
          rw [arrived] at taken
          constructor
          · rintro ⟨detail, unavailable⟩
            cases key with
            | error failure =>
                obtain rfl := Except.error.inj unavailable
                exact absurd (congrArg Prod.fst taken)
                  (KeyCache.take_ne_unavailable detail)
            | ok key =>
                exact absurd unavailable
                  (mapError_failure_ne_unavailable detail)
          · rintro ⟨⟨fault, failed⟩, -⟩
            cases failed

/-- While fetches fail, a token that selects a usable key of the kept set is
judged under that key. -/
theorem answer_of_selected (goes : provider.Goes call) {kept : KeptKeySet}
    {token : ExaminedToken} {published : PublishedKey} {key : VerificationKey}
    (failing : call.Fetches → call.FetchFails)
    (before : call.before = some kept)
    (examined : ExaminedToken.ofText call.token = .ok token)
    (selects : kept.set.Selects token.keyId published)
    (usable : published.verificationKey? = some key) :
    call.answer = authenticateUnderKey provider.rules key call.now
      call.token := by
  have found : kept.set.find token.keyId = .ok (some key) :=
    KeySet.find_eq_ok_some_iff.mpr ⟨published, selects, usable⟩
  have lookedUp := KeyCache.lookUp_of_selected found provider.refreshInterval
    call.now
  rw [← before] at lookedUp
  rw [authenticateUnderKey, examined]
  cases goes with
  | unexamined fault unexamined answer brought after =>
      rw [examined] at unexamined
      cases unexamined
  | refused other fault alsoExamined refused answer brought after =>
      obtain rfl := Except.ok.inj (examined.symm.trans alsoExamined)
      rw [refused] at lookedUp
      obtain isFound | isServing := lookedUp
      · cases isFound
      · cases isServing
  | served other used alsoExamined served answer brought after =>
      obtain rfl := Except.ok.inj (examined.symm.trans alsoExamined)
      rw [served] at lookedUp
      obtain isFound | isServing := lookedUp
      · obtain rfl := KeyLookup.found.inj isFound
        exact answer
      · cases isServing
  | fetched other serving exchange used alsoExamined asked taken answer
      brought =>
      obtain rfl := Except.ok.inj (examined.symm.trans alsoExamined)
      rw [asked] at lookedUp
      obtain isFound | isServing := lookedUp
      · cases isFound
      · obtain rfl := KeyLookup.fetch.inj isServing
        have fails := failing (by simp [KeyCall.Fetches, brought])
        obtain ⟨fault, failed⟩ :=
          (KeyCall.fetchFails_of_brought brought).mp fails
        rw [failed, KeyCache.take_of_failed] at taken
        obtain ⟨rfl, -⟩ := Prod.mk.inj taken
        exact answer

end PublishedKeys.Goes

/-! ### Runs -/

namespace PublishedKeys

variable {State : Type} {provider : PublishedKeys}

/-- While fetches fail, every call finds and leaves the kept set of the start,
with the time of its fetch. -/
theorem Linked.fetched?_of_outage {cache : KeyCache} {calls : List KeyCall}
    (linked : provider.Linked cache calls)
    (failing : ∀ call ∈ calls, call.Fetches → call.FetchFails) :
    ∀ call ∈ calls, call.before.fetched? = cache.fetched? ∧
      call.after.fetched? = cache.fetched? := by
  induction calls generalizing cache with
  | nil =>
      intro call member
      cases member
  | cons first others ih =>
      obtain ⟨before, goes, linked⟩ := linked
      have after : first.after.fetched? = cache.fetched? := by
        by_cases fetches : first.Fetches
        · have fails := failing first List.mem_cons_self fetches
          rw [goes.after_of_fetchFails fails, ← before]
          exact KeyCache.fetched?_markAttempt
        · rw [goes.after_eq_of_not_fetches fetches, before]
      intro call member
      rcases List.mem_cons.mp member with rfl | member
      · exact ⟨by rw [before], after⟩
      · rw [← after]
        exact ih linked (fun other present =>
          failing other (List.mem_cons_of_mem first present)) call member

/-- In any run a failed fetch changes nothing but the time of the last attempt,
and a call is unavailable just when its own fetch fails and no key is kept for
its token. From where all fetches fail on, every call finds and leaves the kept
set of that point with the time of its fetch, and each token that selects a
usable key of it is judged under that key at the time of its call. -/
theorem outage_of_calls (provider : PublishedKeys)
    (fetch : State → Http.Exchange × State) (requests : List (Nat × String))
    (state : KeyCache × State) :
    (∀ call ∈ provider.calls fetch requests state,
      (call.FetchFails → call.after = call.before.map fun kept =>
        { kept with lastAttempt := call.now }) ∧
      ((∃ detail, call.answer = .error (.unavailable detail)) ↔
        call.FetchFails ∧ call.LacksKey)) ∧
    ∀ (past : List KeyCall) (first : KeyCall) (rest : List KeyCall),
      provider.calls fetch requests state = past ++ first :: rest →
      (∀ call ∈ first :: rest, call.Fetches → call.FetchFails) →
      ∀ call ∈ first :: rest,
        call.before.fetched? = first.before.fetched? ∧
        call.after.fetched? = first.before.fetched? ∧
        ∀ (kept : KeptKeySet) (token : ExaminedToken)
          (published : PublishedKey) (key : VerificationKey),
          first.before = some kept →
          ExaminedToken.ofText call.token = .ok token →
          kept.set.Selects token.keyId published →
          published.verificationKey? = some key →
          call.answer =
              authenticateUnderKey provider.rules key call.now call.token ∧
            ∀ detail, call.answer ≠ .error (.unavailable detail) := by
  have linked := provider.linked_calls fetch requests state
  refine ⟨?_, ?_⟩
  · intro call member
    have goes := linked.goes member
    exact ⟨goes.after_of_fetchFails, goes.unavailable_iff⟩
  · intro past first rest split failing call member
    rw [split] at linked
    obtain ⟨firstGoes, restLinked⟩ := linked.behind
    have outage : provider.Linked first.before (first :: rest) :=
      ⟨rfl, firstGoes, restLinked⟩
    obtain ⟨before, after⟩ := outage.fetched?_of_outage failing call member
    refine ⟨before, after, ?_⟩
    intro kept token published key isKept examined selects usable
    obtain ⟨current, isCurrent, sameSet⟩ : ∃ current,
        call.before = some current ∧ current.set = kept.set := by
      rw [isKept] at before
      obtain ⟨current, isCurrent, same⟩ := Option.map_eq_some_iff.mp before
      exact ⟨current, isCurrent, congrArg Prod.fst same⟩
    rw [← sameSet] at selects
    have answer := (outage.goes member).answer_of_selected
      (failing call member) isCurrent examined selects usable
    refine ⟨answer, ?_⟩
    intro detail
    rw [answer, authenticateUnderKey, examined]
    exact mapError_failure_ne_unavailable detail

end PublishedKeys

/-! ### An outage after the first fetch -/

namespace Sample

def keptSet (attempt : Nat) : KeptKeySet :=
  ⟨publishedSet, 1700000000, attempt⟩

/-- The sample token comes when the kept set is old and the endpoint is gone. -/
def outageRequests : List (Nat × String) :=
  [(1700000000, token), (1700000400, token)]

def fetchingCall : KeyCall :=
  ⟨1700000000, token, none, .ok claims, [.answered 200 publishedBody],
    some (keptSet 1700000000)⟩

def outageCall : KeyCall :=
  ⟨1700000400, token, some (keptSet 1700000000), .ok claims, [.unanswered],
    some (keptSet 1700000400)⟩

theorem calls_outage :
    provider.calls scripted outageRequests
        (none, [.answered 200 publishedBody]) =
      [fetchingCall] ++ outageCall :: [] := by
  have selected := find_publishedSet.1
  have taken : KeyCache.take none 1700000000 none none
      (KeySet.ofExchange (scripted [.answered 200 publishedBody]).1) =
      (.ok key, some (keptSet 1700000000)) := by
    rw [scripted, ofExchange_bodies.1]
    exact KeyCache.take_of_selected selected
  have lookedUp : KeyCache.lookUp (some (keptSet 1700000000))
      provider.refreshInterval 1700000400 none = .fetch (some key) :=
    KeyCache.lookUp_eq_fetch_iff.mpr
      ⟨by decide, selected, .inr (by decide)⟩
  have failed : KeyCache.take (some (keptSet 1700000000)) 1700000400 none
      (some key) (KeySet.ofExchange (scripted []).1) =
      (.ok key, some (keptSet 1700000400)) := by
    rw [scripted, KeySet.ofExchange, KeyCache.take_of_failed]
    simp [KeyCache.markAttempt, keptSet]
  rw [outageRequests, PublishedKeys.calls,
    PublishedKeys.call_of_accepted examined_token rfl taken
      (judge_token _ (by decide))]
  dsimp only [scripted]
  rw [PublishedKeys.calls,
    PublishedKeys.call_of_accepted examined_token lookedUp failed
      (judge_token _ (by decide))]
  dsimp only [PublishedKeys.calls]
  rfl

end Sample

/-- The fetch of the second call fails, and its token is judged under the key of
the first one. -/
theorem outage_of_sample :
    Sample.outageCall.FetchFails ∧
      Sample.outageCall.after = some (Sample.keptSet 1700000400) ∧
      Sample.outageCall.answer = authenticateUnderKey Sample.provider.rules
        Sample.key 1700000400 Sample.token := by
  have fails : Sample.outageCall.FetchFails :=
    ⟨_, rfl, fun status body answered => by cases answered⟩
  obtain ⟨-, outage⟩ := PublishedKeys.outage_of_calls Sample.provider
    Sample.scripted Sample.outageRequests
    (none, [.answered 200 Sample.publishedBody])
  have failing : ∀ call ∈ [Sample.outageCall],
      call.Fetches → call.FetchFails := by
    intro call member _
    rw [List.mem_singleton.mp member]
    exact fails
  obtain ⟨-, -, judged⟩ := outage _ _ _ Sample.calls_outage failing _
    List.mem_cons_self
  obtain ⟨published, selects, usable⟩ :=
    KeySet.find_eq_ok_some_iff.mp Sample.find_publishedSet.1
  exact ⟨fails, rfl, (judged _ _ published Sample.key rfl
    Sample.examined_token selects usable).1⟩

end Gatekeeper
