import Gatekeeper.Proofs.Token.Acceptance

/-!
# History of the kept key set

What the provider of published keys keeps over any run of calls. A call either
leaves the kept set alone or asks for the published one, and a set that it
receives is kept unless the token of that very call selects a key in it that
cannot be used. Such a set is dropped, and the older one stays in use.
-/

namespace Gatekeeper

open Gatekeeper.Json

/-! ### Sets -/

namespace KeySet

/-- A token with a key id selects the first key with that id. A token without
one selects the only key of the set. -/
def Selects (set : KeySet) (keyId : Option String) (key : PublishedKey) :
    Prop :=
  match keyId with
  | some id =>
      key.id = some id ∧ ∃ before after, set.keys = before ++ key :: after ∧
        ∀ other ∈ before, other.id ≠ some id
  | none => set.keys = [key]

theorem select?_eq_some_iff {set : KeySet} {keyId : Option String}
    {key : PublishedKey} :
    set.select? keyId = some key ↔ set.Selects keyId key := by
  unfold select? Selects
  cases keyId with
  | some id => simp [List.find?_eq_some_iff_append]
  | none =>
      rcases set.keys with _ | ⟨first, _ | ⟨second, rest⟩⟩ <;> simp

theorem find_eq_ok_some_iff {set : KeySet} {keyId : Option String}
    {usable : VerificationKey} :
    set.find keyId = .ok (some usable) ↔
      ∃ key, set.Selects keyId key ∧ key.verificationKey? = some usable := by
  simp only [← select?_eq_some_iff]
  unfold find
  cases set.select? keyId with
  | none => simp
  | some key => cases used : key.verificationKey? <;> simp [used]

theorem find_eq_error_iff {set : KeySet} {keyId : Option String}
    {fault : TokenFault} :
    set.find keyId = .error fault ↔
      fault = .unusableKey keyId ∧
        ∃ key, set.Selects keyId key ∧ key.verificationKey? = none := by
  simp only [← select?_eq_some_iff]
  unfold find
  cases set.select? keyId with
  | none => simp
  | some key =>
      cases used : key.verificationKey? <;> simp [used, eq_comm]

theorem ofExchange_eq_ok_iff {exchange : Http.Exchange} {set : KeySet} :
    KeySet.ofExchange exchange = .ok set ↔
      ∃ status body, exchange = .answered status body ∧
        Http.isSuccess status = true ∧
          KeySet.ofBytes? body.bytes = some set := by
  cases exchange with
  | unanswered => simp [ofExchange]
  | cutShort status =>
      cases success : Http.isSuccess status <;> simp [ofExchange, success]
  | answered status body =>
      cases success : Http.isSuccess status with
      | false => simp [ofExchange, success]
      | true =>
          simp only [ofExchange, success, if_true, Http.Exchange.answered.injEq]
          constructor
          · intro brought
            cases read : KeySet.ofBytes? body.bytes with
            | none => simp [read] at brought
            | some other =>
                simp only [read, Except.ok.injEq] at brought
                subst brought
                exact ⟨status, body, ⟨rfl, rfl⟩, success, read⟩
          · rintro ⟨_, _, ⟨rfl, rfl⟩, -, read⟩
            simp [read]

end KeySet

/-! ### The cache -/

namespace KeyCache

def set? (cache : KeyCache) : Option KeySet :=
  cache.map KeptKeySet.set

/-- The kept set with the time of its fetch. -/
def fetched? (cache : KeyCache) : Option (KeySet × Nat) :=
  cache.map fun kept => (kept.set, kept.fetchedAt)

theorem set?_eq_fetched? {cache : KeyCache} :
    cache.set? = cache.fetched?.map Prod.fst := by
  cases cache <;> rfl

theorem fetched?_markAttempt {cache : KeyCache} {now : Nat} :
    (cache.markAttempt now).fetched? = cache.fetched? := by
  cases cache <;> rfl

/-- A key that is found, or that serves if a fetch fails, is the one that the
token selects in the kept set. -/
theorem find_of_lookUp {cache : KeyCache} {refreshInterval now : Nat}
    {keyId : Option String} {key : VerificationKey}
    (lookedUp : cache.lookUp refreshInterval now keyId = .found key ∨
      cache.lookUp refreshInterval now keyId = .fetch (some key)) :
    ∃ set, cache.set? = some set ∧ set.find keyId = .ok (some key) := by
  cases cache with
  | none => simp [lookUp] at lookedUp
  | some kept =>
      refine ⟨kept.set, rfl, ?_⟩
      unfold lookUp at lookedUp
      cases found : kept.set.find keyId with
      | error fault => simp [found] at lookedUp
      | ok selected =>
          cases selected with
          | none =>
              simp only [found] at lookedUp
              split at lookedUp <;> simp at lookedUp
          | some usable =>
              simp only [found] at lookedUp
              split at lookedUp <;> simp at lookedUp <;> rw [lookedUp]

theorem lookUp_of_missing {kept : KeptKeySet} {refreshInterval now : Nat}
    {keyId : Option String} (missing : kept.set.find keyId = .ok none)
    (due : minRefreshInterval ≤ now - kept.lastAttempt) :
    KeyCache.lookUp (some kept) refreshInterval now keyId = .fetch none := by
  simp [lookUp, missing, due]

theorem lookUp_of_fresh {kept : KeptKeySet} {refreshInterval now : Nat}
    {keyId : Option String} {key : VerificationKey}
    (found : kept.set.find keyId = .ok (some key))
    (fresh : now - kept.fetchedAt < refreshInterval) :
    KeyCache.lookUp (some kept) refreshInterval now keyId = .found key := by
  simp [lookUp, found, Nat.not_le.mpr fresh]

theorem lookUp_of_stale {kept : KeptKeySet} {refreshInterval now : Nat}
    {keyId : Option String} {key : VerificationKey}
    (found : kept.set.find keyId = .ok (some key))
    (stale : refreshInterval ≤ now - kept.fetchedAt)
    (due : minRefreshInterval ≤ now - kept.lastAttempt) :
    KeyCache.lookUp (some kept) refreshInterval now keyId =
      .fetch (some key) := by
  simp [lookUp, found, stale, due]

theorem take_of_selected {cache : KeyCache} {now : Nat}
    {keyId : Option String} {kept : Option VerificationKey} {set : KeySet}
    {key : VerificationKey} (found : set.find keyId = .ok (some key)) :
    cache.take now keyId kept (.ok set) = (.ok key, some ⟨set, now, now⟩) := by
  simp [take, found]

theorem take_of_unusable {cache : KeyCache} {now : Nat}
    {keyId : Option String} {kept : Option VerificationKey} {set : KeySet}
    {fault : TokenFault} (found : set.find keyId = .error fault) :
    cache.take now keyId kept (.ok set) = (.error fault.failure, cache) := by
  simp [take, found]

/-- Taking an answer keeps a set that arrived, unless the key that the token
selects in it is unusable. -/
theorem fetched?_take {cache : KeyCache} {now : Nat} {keyId : Option String}
    {kept : Option VerificationKey} {answer : Except FetchFault KeySet} :
    (cache.take now keyId kept answer).2.fetched? =
      match answer with
      | .ok set =>
          if (set.find keyId).isOk then some (set, now) else cache.fetched?
      | .error _ => cache.fetched? := by
  cases answer with
  | error fault => exact fetched?_markAttempt
  | ok set =>
      rcases found : set.find keyId with fault | (_ | key) <;>
        simp [take, found, fetched?, Except.isOk, Except.toBool]

theorem set?_take {cache : KeyCache} {now : Nat} {keyId : Option String}
    {kept : Option VerificationKey} {answer : Except FetchFault KeySet} :
    (cache.take now keyId kept answer).2.set? =
      match answer with
      | .ok set => if (set.find keyId).isOk then some set else cache.set?
      | .error _ => cache.set? := by
  rw [set?_eq_fetched?, fetched?_take, set?_eq_fetched?]
  cases answer with
  | error fault => rfl
  | ok set =>
      dsimp only
      split <;> rfl

/-- A key that comes with an answer is the one that the token selects in the
set that is kept from then on. -/
theorem find_of_take {cache : KeyCache} {now : Nat} {keyId : Option String}
    {kept : Option VerificationKey} {answer : Except FetchFault KeySet}
    {key : VerificationKey}
    (keptIsSelected : kept = some key →
      ∃ set, cache.set? = some set ∧ set.find keyId = .ok (some key))
    (taken : (cache.take now keyId kept answer).1 = .ok key) :
    ∃ set, (cache.take now keyId kept answer).2.set? = some set ∧
      set.find keyId = .ok (some key) := by
  cases answer with
  | error fault =>
      rw [set?_take]
      apply keptIsSelected
      cases kept with
      | none => simp [take] at taken
      | some other => simpa [take] using taken
  | ok set =>
      rcases found : set.find keyId with fault | (_ | other)
      · simp [take, found] at taken
      · simp [take, found] at taken
      · simp only [take, found, Except.ok.injEq] at taken
        subst taken
        exact ⟨set, by simp [take, found, set?], found⟩

end KeyCache

/-! ### Calls -/

/-- One call to the provider: when and for which token it was made, what was
kept before, what it answered, what its fetches brought, and what was kept
after. -/
structure KeyCall where
  now : Nat
  token : String
  before : KeyCache
  answer : Authentication
  brought : List Http.Exchange
  after : KeyCache

/-- A fetch that makes a note of what it brings. -/
def noting {State Note : Type} (note : Http.Exchange → Note)
    (fetch : State → Http.Exchange × State) :
    List Note × State → Http.Exchange × List Note × State :=
  fun (notes, state) =>
    let (exchange, state) := fetch state
    (exchange, notes ++ [note exchange], state)

namespace PublishedKeys

variable {State : Type}

/-- Make one call, and note it. -/
def call (provider : PublishedKeys) (fetch : State → Http.Exchange × State)
    (now : Nat) (token : String) (state : KeyCache × State) :
    KeyCall × KeyCache × State :=
  let (answer, cache, brought, network) :=
    provider.authenticate (noting id fetch) now token
      (state.1, [], state.2)
  (⟨now, token, state.1, answer, brought, cache⟩, cache, network)

/-- Make calls one after the other, and note them. -/
def calls (provider : PublishedKeys) (fetch : State → Http.Exchange × State) :
    List (Nat × String) → KeyCache × State → List KeyCall
  | [], _ => []
  | (now, token) :: rest, state =>
      let (made, state) := provider.call fetch now token state
      made :: calls provider fetch rest state

/-- How a call goes: the header of its token is refused, the look-up refuses
the token or finds its key, or the set is fetched and the answer taken. -/
inductive Goes (provider : PublishedKeys) (call : KeyCall) : Prop where
  | unexamined (fault : TokenFault)
      (examined : ExaminedToken.ofText call.token = .error fault)
      (answer : call.answer = .error fault.failure)
      (brought : call.brought = [])
      (after : call.after = call.before)
  | refused (token : ExaminedToken) (fault : TokenFault)
      (examined : ExaminedToken.ofText call.token = .ok token)
      (lookedUp : call.before.lookUp provider.refreshInterval call.now
        token.keyId = .refused fault)
      (answer : call.answer = .error fault.failure)
      (brought : call.brought = [])
      (after : call.after = call.before)
  | served (token : ExaminedToken) (key : VerificationKey)
      (examined : ExaminedToken.ofText call.token = .ok token)
      (lookedUp : call.before.lookUp provider.refreshInterval call.now
        token.keyId = .found key)
      (answer : call.answer =
        (token.judge provider.rules call.now key).mapError TokenFault.failure)
      (brought : call.brought = [])
      (after : call.after = call.before)
  | fetched (token : ExaminedToken) (kept : Option VerificationKey)
      (exchange : Http.Exchange) (key : Except IdentityFailure VerificationKey)
      (examined : ExaminedToken.ofText call.token = .ok token)
      (lookedUp : call.before.lookUp provider.refreshInterval call.now
        token.keyId = .fetch kept)
      (taken : call.before.take call.now token.keyId kept
        (KeySet.ofExchange exchange) = (key, call.after))
      (answer : call.answer = key.bind fun key =>
        (token.judge provider.rules call.now key).mapError TokenFault.failure)
      (brought : call.brought = [exchange])

section

variable {provider : PublishedKeys} {fetch : State → Http.Exchange × State}
  {now : Nat} {token : String} {cache : KeyCache} {network : State}

theorem call_of_unexamined {fault : TokenFault}
    (examined : ExaminedToken.ofText token = .error fault) :
    provider.call fetch now token (cache, network) =
      (⟨now, token, cache, .error fault.failure, [], cache⟩, cache,
        network) := by
  simp [call, authenticate, examined]

variable {header : ExaminedToken}

theorem call_of_refused {fault : TokenFault}
    (examined : ExaminedToken.ofText token = .ok header)
    (lookedUp : cache.lookUp provider.refreshInterval now header.keyId =
      .refused fault) :
    provider.call fetch now token (cache, network) =
      (⟨now, token, cache, .error fault.failure, [], cache⟩, cache,
        network) := by
  simp [call, authenticate, keyFor, examined, lookedUp]

theorem call_of_found {key : VerificationKey}
    (examined : ExaminedToken.ofText token = .ok header)
    (lookedUp : cache.lookUp provider.refreshInterval now header.keyId =
      .found key) :
    provider.call fetch now token (cache, network) =
      (⟨now, token, cache,
          (header.judge provider.rules now key).mapError TokenFault.failure,
          [], cache⟩, cache, network) := by
  simp [call, authenticate, keyFor, examined, lookedUp]

theorem call_of_fetch {kept : Option VerificationKey}
    {key : Except IdentityFailure VerificationKey} {after : KeyCache}
    (examined : ExaminedToken.ofText token = .ok header)
    (lookedUp : cache.lookUp provider.refreshInterval now header.keyId =
      .fetch kept)
    (taken : cache.take now header.keyId kept
      (KeySet.ofExchange (fetch network).1) = (key, after)) :
    provider.call fetch now token (cache, network) =
      (⟨now, token, cache,
          key.bind fun key =>
            (header.judge provider.rules now key).mapError TokenFault.failure,
          [(fetch network).1], after⟩, after, (fetch network).2) := by
  cases key <;>
    simp [call, authenticate, keyFor, noting, examined, lookedUp, taken,
      Except.bind]

theorem call_of_accepted {serving : Option VerificationKey}
    {key : VerificationKey} {after : KeyCache} {claims : Claims}
    (examined : ExaminedToken.ofText token = .ok header)
    (lookedUp : cache.lookUp provider.refreshInterval now header.keyId =
      .fetch serving)
    (taken : cache.take now header.keyId serving
      (KeySet.ofExchange (fetch network).1) = (.ok key, after))
    (judged : header.judge provider.rules now key = .ok claims) :
    provider.call fetch now token (cache, network) =
      (⟨now, token, cache, .ok claims, [(fetch network).1], after⟩, after,
        (fetch network).2) := by
  rw [call_of_fetch examined lookedUp taken]
  simp [Except.bind, judged, Except.mapError]

end

theorem goes_call (provider : PublishedKeys)
    (fetch : State → Http.Exchange × State) (now : Nat) (token : String)
    (state : KeyCache × State) :
    provider.Goes (provider.call fetch now token state).1 := by
  obtain ⟨cache, network⟩ := state
  cases examined : ExaminedToken.ofText token with
  | error fault =>
      rw [call_of_unexamined examined]
      exact .unexamined fault examined rfl rfl rfl
  | ok header =>
      cases lookedUp :
          cache.lookUp provider.refreshInterval now header.keyId with
      | refused fault =>
          rw [call_of_refused examined lookedUp]
          exact .refused header fault examined lookedUp rfl rfl rfl
      | found key =>
          rw [call_of_found examined lookedUp]
          exact .served header key examined lookedUp rfl rfl rfl
      | fetch kept =>
          rcases taken : cache.take now header.keyId kept
            (KeySet.ofExchange (fetch network).1) with ⟨key, after⟩
          rw [call_of_fetch examined lookedUp taken]
          exact .fetched header kept (fetch network).1 key examined lookedUp
            taken rfl rfl

/-- Making notes of what fetches bring changes nothing else. -/
theorem authenticate_noting {Note : Type} (provider : PublishedKeys)
    (note : Http.Exchange → Note) (fetch : State → Http.Exchange × State)
    (now : Nat) (token : String) (cache : KeyCache) (notes : List Note)
    (network : State) :
    ∃ brought : List Http.Exchange,
      provider.authenticate (noting note fetch) now token
          (cache, notes, network) =
        ((provider.authenticate fetch now token (cache, network)).1,
          (provider.authenticate fetch now token (cache, network)).2.1,
          notes ++ brought.map note,
          (provider.authenticate fetch now token (cache, network)).2.2) := by
  cases examined : ExaminedToken.ofText token with
  | error fault => exact ⟨[], by simp [authenticate, examined]⟩
  | ok header =>
      cases lookedUp :
          cache.lookUp provider.refreshInterval now header.keyId with
      | refused fault =>
          exact ⟨[], by simp [authenticate, keyFor, examined, lookedUp]⟩
      | found key =>
          exact ⟨[], by simp [authenticate, keyFor, examined, lookedUp]⟩
      | fetch kept =>
          refine ⟨[(fetch network).1], ?_⟩
          rcases taken : cache.take now header.keyId kept
            (KeySet.ofExchange (fetch network).1) with ⟨failure | key, after⟩
          · simp [authenticate, keyFor, noting, examined, lookedUp, taken]
          · simp [authenticate, keyFor, noting, examined, lookedUp, taken]

theorem authenticate_eq_call (provider : PublishedKeys)
    (fetch : State → Http.Exchange × State) (now : Nat) (token : String)
    (state : KeyCache × State) :
    provider.authenticate fetch now token state =
      ((provider.call fetch now token state).1.answer,
        (provider.call fetch now token state).2) := by
  obtain ⟨brought, noted⟩ :=
    provider.authenticate_noting id fetch now token state.1 [] state.2
  simp only [call, noted]

end PublishedKeys

/-! ### What a call does to the kept set -/

namespace KeyCall

/-- The sets that a call received. -/
def received (call : KeyCall) : List KeySet :=
  call.brought.filterMap fun exchange => (KeySet.ofExchange exchange).toOption

/-- The token of a call selects a key in a set, and the key is unusable. -/
def spoils (call : KeyCall) (set : KeySet) : Bool :=
  match ExaminedToken.ofText call.token with
  | .error _ => false
  | .ok token => !(set.find token.keyId).isOk

/-- The received sets that the token of the call does not spoil. -/
def stored (call : KeyCall) : List KeySet :=
  call.received.filter fun set => !call.spoils set

section

variable {call : KeyCall} {exchange : Http.Exchange} {set : KeySet}

theorem received_of_idle (brought : call.brought = []) :
    call.received = [] := by
  rw [received, brought, List.filterMap_nil]

theorem received_of_failed {fault : FetchFault}
    (brought : call.brought = [exchange])
    (failed : KeySet.ofExchange exchange = .error fault) :
    call.received = [] := by
  simp [received, brought, failed, Except.toOption]

theorem received_of_arrived (brought : call.brought = [exchange])
    (arrived : KeySet.ofExchange exchange = .ok set) :
    call.received = [set] := by
  simp [received, brought, arrived, Except.toOption]

theorem brought_ne_nil_of_mem (member : set ∈ call.received) :
    call.brought ≠ [] := by
  intro brought
  rw [received_of_idle brought] at member
  cases member

theorem spoils_of_examined {token : ExaminedToken}
    (examined : ExaminedToken.ofText call.token = .ok token) :
    call.spoils set = !(set.find token.keyId).isOk := by
  rw [spoils, examined]

end

/-- The token of a call is valid under the key that it selects in a set. -/
def IsVerifiedBy (call : KeyCall) (rules : TokenRules) (set : KeySet)
    (claims : Claims) : Prop :=
  ∃ token published key, ExaminedToken.ofText call.token = .ok token ∧
    set.Selects token.keyId published ∧
    published.verificationKey? = some key ∧
    token.judge rules call.now key = .ok claims

end KeyCall

namespace PublishedKeys.Goes

variable {provider : PublishedKeys} {call : KeyCall}

/-- What a call goes through that asks for the published set: it has looked its
token up in vain, and takes the answer. -/
theorem exists_take (goes : provider.Goes call) (asked : call.brought ≠ []) :
    ∃ token serving exchange, ExaminedToken.ofText call.token = .ok token ∧
      call.before.lookUp provider.refreshInterval call.now token.keyId =
        .fetch serving ∧
      call.brought = [exchange] ∧
      let taken := call.before.take call.now token.keyId serving
        (KeySet.ofExchange exchange)
      call.after = taken.2 ∧
        call.answer = taken.1.bind fun key =>
          (token.judge provider.rules call.now key).mapError
            TokenFault.failure := by
  cases goes with
  | unexamined fault examined answer brought after =>
      exact absurd brought asked
  | refused token fault examined lookedUp answer brought after =>
      exact absurd brought asked
  | served token key examined lookedUp answer brought after =>
      exact absurd brought asked
  | fetched token serving exchange key examined lookedUp taken answer brought =>
      refine ⟨token, serving, exchange, examined, lookedUp, brought, ?_⟩
      rw [taken]
      exact ⟨rfl, answer⟩

private theorem fetched?_after_of_unasked (brought : call.brought = [])
    (after : call.after = call.before) :
    call.after.fetched? =
      (call.stored.getLast?.map (·, call.now)).or call.before.fetched? := by
  simp [KeyCall.stored, KeyCall.received_of_idle brought, after]

/-- After a call the set that it stored is kept, fetched at the time of the
call, or else what was kept before. -/
theorem fetched?_after (goes : provider.Goes call) :
    call.after.fetched? =
      (call.stored.getLast?.map (·, call.now)).or call.before.fetched? := by
  cases goes with
  | unexamined fault examined answer brought after =>
      exact fetched?_after_of_unasked brought after
  | refused token fault examined lookedUp answer brought after =>
      exact fetched?_after_of_unasked brought after
  | served token key examined lookedUp answer brought after =>
      exact fetched?_after_of_unasked brought after
  | fetched token kept exchange key examined lookedUp taken answer brought =>
      have after : (call.before.take call.now token.keyId kept
          (KeySet.ofExchange exchange)).2 = call.after :=
        congrArg Prod.snd taken
      rw [← after, KeyCache.fetched?_take]
      cases arrived : KeySet.ofExchange exchange with
      | error fault =>
          simp [KeyCall.stored, KeyCall.received_of_failed brought arrived]
      | ok set =>
          cases usable : (set.find token.keyId).isOk <;>
            simp [KeyCall.stored, KeyCall.received_of_arrived brought arrived,
              KeyCall.spoils_of_examined examined, usable]

/-- After a call the set that it stored is kept, or else the set from before. -/
theorem set?_after (goes : provider.Goes call) :
    call.after.set? = call.stored.getLast?.or call.before.set? := by
  rw [KeyCache.set?_eq_fetched?, goes.fetched?_after, KeyCache.set?_eq_fetched?]
  cases call.stored.getLast? <;> rfl

/-- A call receives at most one set. -/
theorem received_eq_of_mem (goes : provider.Goes call) {set : KeySet}
    (member : set ∈ call.received) : call.received = [set] := by
  obtain ⟨_, _, exchange, -, -, brought, -⟩ :=
    goes.exists_take (KeyCall.brought_ne_nil_of_mem member)
  cases arrived : KeySet.ofExchange exchange with
  | error fault =>
      rw [KeyCall.received_of_failed brought arrived] at member
      cases member
  | ok other =>
      rw [KeyCall.received_of_arrived brought arrived] at member ⊢
      rw [List.mem_singleton.mp member]

/-- A set that the call spoils is dropped: what was kept before stays. -/
theorem set?_after_of_spoiled (goes : provider.Goes call) {set : KeySet}
    (received : set ∈ call.received) (spoiled : call.spoils set = true) :
    call.after.set? = call.before.set? := by
  have only := goes.received_eq_of_mem received
  have nothing : call.stored = [] := by
    simp [KeyCall.stored, only, spoiled]
  rw [goes.set?_after, nothing, List.getLast?_nil, Option.none_or]

/-- The received set is kept, when it is spoiled only if it was kept before. -/
theorem set?_after_of_received (goes : provider.Goes call)
    (harmless : ∀ set ∈ call.received, call.spoils set = true →
      call.before.set? = some set) :
    call.after.set? = call.received.getLast?.or call.before.set? := by
  cases sets : call.received with
  | nil =>
      rw [goes.set?_after]
      simp [KeyCall.stored, sets]
  | cons set others =>
      have received : set ∈ call.received := by
        rw [sets]
        exact List.mem_cons_self
      have only := goes.received_eq_of_mem received
      rw [only] at sets
      obtain rfl : others = [] := (List.cons.inj sets).2.symm
      rw [List.getLast?_singleton, Option.some_or]
      cases spoiled : call.spoils set with
      | false =>
          rw [goes.set?_after]
          simp [KeyCall.stored, only, spoiled]
      | true =>
          rw [goes.set?_after_of_spoiled received spoiled]
          exact harmless set received spoiled

private theorem isVerifiedBy_of_find {token : ExaminedToken} {set : KeySet}
    {key : VerificationKey} {claims : Claims}
    (examined : ExaminedToken.ofText call.token = .ok token)
    (found : set.find token.keyId = .ok (some key))
    (judged : (token.judge provider.rules call.now key).mapError
      TokenFault.failure = .ok claims) :
    call.IsVerifiedBy provider.rules set claims := by
  obtain ⟨published, selects, usable⟩ := KeySet.find_eq_ok_some_iff.mp found
  refine ⟨token, published, key, examined, selects, usable, ?_⟩
  cases judgement : token.judge provider.rules call.now key with
  | error fault => simp [judgement, Except.mapError] at judged
  | ok others => simpa [judgement, Except.mapError] using judged

/-- An accepted token is valid under the key that it selects in the set that is
kept after the call. -/
theorem isVerifiedBy_of_accepted (goes : provider.Goes call) {claims : Claims}
    (accepted : call.answer = .ok claims) :
    ∃ set, call.after.set? = some set ∧
      call.IsVerifiedBy provider.rules set claims := by
  cases goes with
  | unexamined fault examined answer brought after =>
      rw [answer] at accepted
      cases accepted
  | refused token fault examined lookedUp answer brought after =>
      rw [answer] at accepted
      cases accepted
  | served token key examined lookedUp answer brought after =>
      obtain ⟨set, kept, found⟩ := KeyCache.find_of_lookUp (.inl lookedUp)
      rw [answer] at accepted
      exact ⟨set, by rw [after, kept],
        isVerifiedBy_of_find examined found accepted⟩
  | fetched token kept exchange key examined lookedUp taken answer brought =>
      rw [answer] at accepted
      cases key with
      | error failure => cases accepted
      | ok key =>
          have fallback : kept = some key → ∃ set,
              call.before.set? = some set ∧
                set.find token.keyId = .ok (some key) := by
            rintro rfl
            exact KeyCache.find_of_lookUp (.inr lookedUp)
          obtain ⟨set, isKept, found⟩ :=
            KeyCache.find_of_take fallback (congrArg Prod.fst taken)
          rw [taken] at isKept
          exact ⟨set, isKept, isVerifiedBy_of_find examined found accepted⟩

end PublishedKeys.Goes

/-! ### Runs -/

namespace PublishedKeys

variable {State : Type} {provider : PublishedKeys}

/-- Calls that follow each other, the first of them on a cache. -/
def Linked (provider : PublishedKeys) : KeyCache → List KeyCall → Prop
  | _, [] => True
  | cache, call :: rest =>
      call.before = cache ∧ provider.Goes call ∧
        Linked provider call.after rest

theorem linked_calls (fetch : State → Http.Exchange × State)
    (requests : List (Nat × String)) (state : KeyCache × State) :
    provider.Linked state.1 (provider.calls fetch requests state) := by
  induction requests generalizing state with
  | nil => trivial
  | cons request rest ih =>
      obtain ⟨now, token⟩ := request
      refine ⟨rfl, provider.goes_call fetch now token state, ?_⟩
      exact ih (provider.call fetch now token state).2

namespace Linked

variable {cache : KeyCache} {calls past rest : List KeyCall} {call : KeyCall}

theorem goes (linked : provider.Linked cache calls) (member : call ∈ calls) :
    provider.Goes call := by
  induction calls generalizing cache with
  | nil => cases member
  | cons first others ih =>
      obtain ⟨-, goes, linked⟩ := linked
      rcases List.mem_cons.mp member with rfl | member
      · exact goes
      · exact ih linked member

/-- When each call keeps the last of some sets, or else what was kept before,
then after a run the last of all these sets is kept. -/
theorem set?_after_eq_getLast? (linked : provider.Linked cache calls)
    {sets : KeyCall → List KeySet}
    (keeps : ∀ call ∈ calls,
      call.after.set? = (sets call).getLast?.or call.before.set?)
    (split : calls = past ++ call :: rest) :
    call.after.set? =
      ((past ++ [call]).flatMap sets).getLast?.or cache.set? := by
  -- By induction on the calls before it, for any cache that they start on.
  induction past generalizing cache calls with
  | nil =>
      subst split
      obtain ⟨before, -, -⟩ := linked
      have kept := keeps call (by simp)
      rw [before] at kept
      simpa using kept
  | cons first others ih =>
      subst split
      obtain ⟨before, -, linked⟩ := linked
      have firstKept := keeps first (by simp)
      have otherKeeps : ∀ other ∈ others ++ call :: rest,
          other.after.set? = (sets other).getLast?.or other.before.set? :=
        fun other member => keeps other (List.mem_cons_of_mem first member)
      rw [ih linked otherKeeps rfl, firstKept, before]
      simp [List.getLast?_append, Option.or_assoc]

end Linked

/-- Over any run from an empty cache, the kept set is the last received one
that its call did not spoil. It is the last received one after every call, so
that every accepted token is valid under a key of that, exactly when each
spoiled set was the kept one already. In any run an accepted token is valid
under the key that it selects in the set kept after its call. -/
theorem kept_set_of_calls (provider : PublishedKeys)
    (fetch : State → Http.Exchange × State) (requests : List (Nat × String))
    (network : State) :
    (∀ past call rest,
      provider.calls fetch requests (none, network) = past ++ call :: rest →
      call.after.set? =
        ((past ++ [call]).flatMap KeyCall.stored).getLast?) ∧
    ((∀ past call rest,
      provider.calls fetch requests (none, network) = past ++ call :: rest →
      call.after.set? =
          ((past ++ [call]).flatMap KeyCall.received).getLast? ∧
        ∀ claims, call.answer = .ok claims → ∃ set,
          ((past ++ [call]).flatMap KeyCall.received).getLast? = some set ∧
            call.IsVerifiedBy provider.rules set claims) ↔
      ∀ call ∈ provider.calls fetch requests (none, network),
        ∀ set ∈ call.received, call.spoils set = true →
          call.before.set? = some set) ∧
    ∀ call ∈ provider.calls fetch requests (none, network),
      ∀ claims, call.answer = .ok claims → ∃ set,
        call.after.set? = some set ∧
          call.IsVerifiedBy provider.rules set claims := by
  have linked := provider.linked_calls fetch requests (none, network)
  generalize provider.calls fetch requests (none, network) = calls at linked ⊢
  have keeps : ∀ call ∈ calls, call.after.set? =
      call.stored.getLast?.or call.before.set? :=
    fun call member => (linked.goes member).set?_after
  refine ⟨?_, ⟨?_, ?_⟩, ?_⟩
  · intro past call rest split
    simpa [KeyCache.set?] using linked.set?_after_eq_getLast? keeps split
  · -- A spoiled set is the last received one, and the kept set has not changed.
    intro newest call member set received spoiled
    obtain ⟨past, rest, split⟩ := List.append_of_mem member
    have kept := (newest past call rest split).1
    rw [(linked.goes member).set?_after_of_spoiled received spoiled] at kept
    rw [kept]
    simp [(linked.goes member).received_eq_of_mem received]
  · -- Now every call keeps what it receives, so the run keeps the last of it.
    intro harmless past call rest split
    have newestKept : ∀ call ∈ calls, call.after.set? =
        call.received.getLast?.or call.before.set? :=
      fun call member =>
        (linked.goes member).set?_after_of_received (harmless call member)
    have member : call ∈ calls := by simp [split]
    have kept : call.after.set? =
        ((past ++ [call]).flatMap KeyCall.received).getLast? := by
      simpa [KeyCache.set?] using
        linked.set?_after_eq_getLast? newestKept split
    refine ⟨kept, fun claims accepted => ?_⟩
    obtain ⟨set, isKept, verified⟩ :=
      (linked.goes member).isVerifiedBy_of_accepted accepted
    exact ⟨set, kept.symm.trans isKept, verified⟩
  · intro call member claims accepted
    exact (linked.goes member).isVerifiedBy_of_accepted accepted

end PublishedKeys

/-! ### A dropped key

The published set changes from one with the key of the sample token to one
whose only key is unusable. Any token with the id of that key spoils the new
set, and the sample token is accepted as before.
-/

namespace Sample

/-- The modulus of the sample key as it is published. -/
def modulusLetters : List Char :=
  letters (modulus * 16) 342

/-- A set with the sample key alone. -/
def publishedSet : KeySet :=
  ⟨[⟨none, .rsa (String.ofList modulusLetters) "AQAB"⟩]⟩

def publishedBody : List UInt8 :=
  Text.Utf8.encode "\x7b\"keys\":[\x7b\"kty\":\"RSA\",\"n\":\"" ++
    modulusLetters.flatMap Text.Utf8.encodeChar ++
    Text.Utf8.encode "\",\"e\":\"AQAB\"\x7d]\x7d"

/-- A set whose only key is not in the form of published keys. -/
def nextSet : KeySet :=
  ⟨[⟨some "next", .rsa "!" "AQAB"⟩]⟩

def nextBody : List UInt8 :=
  Text.Utf8.encode
    "\x7b\"keys\":[\x7b\"kty\":\"RSA\",\"kid\":\"next\",\"n\":\"!\",\"e\":\"AQAB\"\x7d]\x7d"

/-- The parts of a token with the header `{"alg":"RS256","kid":"next"}`
and no signature to speak of. -/
def nextParts : TokenParts :=
  ⟨letters (0x7b22616c67223a225253323536222c226b6964223a226e657874227d * 16) 38,
    ['e', '3', '0'], ['A', 'A']⟩

def nextToken : String :=
  String.ofList
    (nextParts.header ++ '.' :: nextParts.payload ++ '.' :: nextParts.signature)

def provider : PublishedKeys :=
  ⟨⟨none, none, "sub", 0⟩, 300⟩

/-- Exchanges that come one after the other. -/
def scripted : List Http.Exchange → Http.Exchange × List Http.Exchange
  | [] => (.unanswered, [])
  | exchange :: rest => (exchange, rest)

/-- What the bodies, their keys and the header are read as. -/
theorem set_readings :
    KeySet.ofBytes? publishedBody = some publishedSet ∧
      KeySet.ofBytes? nextBody = some nextSet ∧
      Base64.urlSafe.decode? modulusLetters =
        some (Rsa.bytesOf 256 modulus) ∧
      PublishedKey.decode? "AQAB" = some [1, 0, 1] ∧
      Rsa.PublicKey.ofBytes? (Rsa.bytesOf 256 modulus) [1, 0, 1] =
        some ⟨modulus, 65537⟩ ∧
      PublishedKey.verificationKey? ⟨some "next", .rsa "!" "AQAB"⟩ = none ∧
      (TokenHeader.decode nextParts.header).toOption =
        some ⟨.rs256, some "next"⟩ := by
  decide +kernel

theorem ofExchange_bodies :
    KeySet.ofExchange (.answered 200 publishedBody) = .ok publishedSet ∧
      KeySet.ofExchange (.answered 200 nextBody) = .ok nextSet := by
  obtain ⟨published, next, -⟩ := set_readings
  simp [KeySet.ofExchange, Http.isSuccess, published, next]

theorem find_publishedSet :
    publishedSet.find none = .ok (some key) ∧
      publishedSet.find (some "next") = .ok none := by
  obtain ⟨-, -, modulusBytes, exponentBytes, isKey, -⟩ := set_readings
  have decoded : PublishedKey.decode? (String.ofList modulusLetters) =
      some (Rsa.bytesOf 256 modulus) := by
    rw [PublishedKey.decode?, String.toList_ofList, modulusBytes]
  constructor
  · refine KeySet.find_eq_ok_some_iff.mpr ⟨_, rfl, ?_⟩
    simp [PublishedKey.verificationKey?, decoded, exponentBytes, isKey, key]
  · simp [KeySet.find, KeySet.select?, publishedSet]

theorem find_nextSet (keyId : Option String)
    (selecting : keyId = some "next" ∨ keyId = none) :
    nextSet.find keyId = .error (.unusableKey keyId) := by
  obtain ⟨-, -, -, -, -, unusable, -⟩ := set_readings
  refine KeySet.find_eq_error_iff.mpr
    ⟨rfl, ⟨some "next", .rsa "!" "AQAB"⟩, ?_, unusable⟩
  rcases selecting with rfl | rfl
  · exact ⟨rfl, [], [], rfl, by simp⟩
  · rfl

theorem examined_nextToken :
    ExaminedToken.ofText nextToken =
      .ok ⟨nextParts, ⟨.deterministic, .sha256⟩, some "next"⟩ := by
  obtain ⟨-, -, -, -, -, -, decoded⟩ := set_readings
  have split : TokenParts.ofText? nextToken = some nextParts :=
    TokenParts.ofText?_eq_some_iff.mpr
      ⟨String.toList_ofList, by simp [nextParts], by simp [nextParts]⟩
  exact ExaminedToken.ofText_eq_ok_iff.mpr
    ⟨split, ⟨.rs256, some "next"⟩, eq_ok_of_toOption decoded, rfl, rfl⟩

end Sample

/-- A key is accepted after a set without it was received: the sample token is
valid, a token with the id of an unusable key brings the next set, and the
sample token is valid still. In the set that was received last it selects a key
that cannot be used. -/
theorem dropped_key_accepted :
    ∃ first second third,
      Sample.provider.calls Sample.scripted
          [(1700000000, Sample.token), (1700000010, Sample.nextToken),
            (1700000011, Sample.token)]
          (none, [.answered 200 Sample.publishedBody,
            .answered 200 Sample.nextBody]) = [first, second, third] ∧
        first.received = [Sample.publishedSet] ∧
        second.received = [Sample.nextSet] ∧ third.received = [] ∧
        third.answer = .ok Sample.claims ∧
        third.after.set? = some Sample.publishedSet ∧
        ¬ third.IsVerifiedBy Sample.provider.rules Sample.nextSet
          Sample.claims := by
  obtain ⟨selected, unselected⟩ := Sample.find_publishedSet
  have nextUnusable := Sample.find_nextSet (some "next") (.inl rfl)
  have firstTaken :
      KeyCache.take none 1700000000 none none
        (KeySet.ofExchange (Sample.scripted
          [.answered 200 Sample.publishedBody,
            .answered 200 Sample.nextBody]).1) =
        (.ok Sample.key,
          some ⟨Sample.publishedSet, 1700000000, 1700000000⟩) := by
    rw [Sample.scripted, Sample.ofExchange_bodies.1]
    exact KeyCache.take_of_selected selected
  have secondLookedUp :
      KeyCache.lookUp (some ⟨Sample.publishedSet, 1700000000, 1700000000⟩)
        Sample.provider.refreshInterval 1700000010 (some "next") =
        .fetch none :=
    KeyCache.lookUp_of_missing unselected (by decide)
  have secondTaken :
      KeyCache.take (some ⟨Sample.publishedSet, 1700000000, 1700000000⟩)
        1700000010 (some "next") none
        (KeySet.ofExchange
          (Sample.scripted [.answered 200 Sample.nextBody]).1) =
        (.error (TokenFault.unusableKey (some "next")).failure,
          some ⟨Sample.publishedSet, 1700000000, 1700000000⟩) := by
    rw [Sample.scripted, Sample.ofExchange_bodies.2]
    exact KeyCache.take_of_unusable nextUnusable
  have thirdLookedUp :
      KeyCache.lookUp (some ⟨Sample.publishedSet, 1700000000, 1700000000⟩)
        Sample.provider.refreshInterval 1700000011 none =
        .found Sample.key :=
    KeyCache.lookUp_of_fresh selected (by decide)
  rw [PublishedKeys.calls,
    PublishedKeys.call_of_fetch Sample.examined_token rfl firstTaken]
  dsimp only [Sample.scripted]
  rw [PublishedKeys.calls,
    PublishedKeys.call_of_fetch Sample.examined_nextToken secondLookedUp
      secondTaken]
  dsimp only [Sample.scripted]
  rw [PublishedKeys.calls,
    PublishedKeys.call_of_found Sample.examined_token thirdLookedUp]
  dsimp only [PublishedKeys.calls]
  refine ⟨_, _, _, rfl, ?_, ?_, rfl, ?_, rfl, ?_⟩
  · simp [KeyCall.received, Sample.ofExchange_bodies.1, Except.toOption]
  · simp [KeyCall.received, Sample.ofExchange_bodies.2, Except.toOption]
  · rw [Sample.judge_token _ (by omega)]
    rfl
  · rintro ⟨token, published, key, examined, selects, usable, -⟩
    rw [Sample.examined_token] at examined
    obtain rfl := Except.ok.inj examined
    have found := KeySet.find_eq_ok_some_iff.mpr ⟨published, selects, usable⟩
    rw [Sample.find_nextSet none (.inr rfl)] at found
    cases found

end Gatekeeper
