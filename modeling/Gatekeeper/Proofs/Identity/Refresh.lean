import Gatekeeper.Proofs.Identity.FetchPace
import Mathlib.Data.List.Induction

/-!
# Refreshing the kept key set

When a call over a kept set asks for the published one. An attempt has to be
due, and the set has to be old or to lack a usable key for the token. But a
token that selects a key which cannot be used is refused before that is looked
at, however old the set is. The times of a kept set are those of the last fetch
that was not forgotten and of the call that stored the set.
-/

namespace Gatekeeper

/-! ### Usable keys -/

namespace KeySet

variable {set : KeySet} {keyId : Option String}

def SelectsUsable (set : KeySet) (keyId : Option String) : Prop :=
  ∃ key, set.Selects keyId key ∧ key.verificationKey? ≠ none

def SelectsUnusable (set : KeySet) (keyId : Option String) : Prop :=
  ∃ key, set.Selects keyId key ∧ key.verificationKey? = none

theorem exists_find_eq_ok_iff :
    (∃ serving, set.find keyId = .ok serving) ↔
      ¬ set.SelectsUnusable keyId := by
  constructor
  · rintro ⟨serving, found⟩ unusable
    rw [find_eq_error_iff.mpr ⟨rfl, unusable⟩] at found
    cases found
  · intro usable
    cases found : set.find keyId with
    | error fault => exact absurd (find_eq_error_iff.mp found).2 usable
    | ok serving => exact ⟨serving, rfl⟩

theorem selectsUsable_iff :
    set.SelectsUsable keyId ↔ ∃ key, set.find keyId = .ok (some key) := by
  simp only [find_eq_ok_some_iff, SelectsUsable, Option.ne_none_iff_exists']
  constructor
  · rintro ⟨published, selects, key, usable⟩
    exact ⟨key, published, selects, usable⟩
  · rintro ⟨key, published, selects, usable⟩
    exact ⟨published, selects, key, usable⟩

theorem not_selectsUsable_of_unusable (unusable : set.SelectsUnusable keyId) :
    ¬ set.SelectsUsable keyId := by
  intro usable
  obtain ⟨key, found⟩ := selectsUsable_iff.mp usable
  exact exists_find_eq_ok_iff.mp ⟨_, found⟩ unusable

end KeySet

/-! ### When a call fetches -/

namespace KeyCall

/-- The documented reasons for a fetch over a kept set: the header of the token
names an accepted algorithm, an attempt is due, and the set is old or has no
usable key for the token. -/
def ShouldFetch (call : KeyCall) (refreshInterval : Nat) (kept : KeptKeySet) :
    Prop :=
  ∃ token, ExaminedToken.ofText call.token = .ok token ∧
    minRefreshInterval ≤ call.now - kept.lastAttempt ∧
    (refreshInterval ≤ call.now - kept.fetchedAt ∨
      ¬ kept.set.SelectsUsable token.keyId)

/-- An attempt is due, but the token selects an unusable key of the kept set. -/
def IsPinned (call : KeyCall) (kept : KeptKeySet) : Prop :=
  ∃ token, ExaminedToken.ofText call.token = .ok token ∧
    minRefreshInterval ≤ call.now - kept.lastAttempt ∧
    kept.set.SelectsUnusable token.keyId

theorem IsPinned.shouldFetch {call : KeyCall} {kept : KeptKeySet}
    (pinned : call.IsPinned kept) (refreshInterval : Nat) :
    call.ShouldFetch refreshInterval kept := by
  obtain ⟨token, examined, due, unusable⟩ := pinned
  exact ⟨token, examined, due,
    .inr (KeySet.not_selectsUsable_of_unusable unusable)⟩

end KeyCall

namespace PublishedKeys.Goes

variable {provider : PublishedKeys} {call : KeyCall} {kept : KeptKeySet}

/-- Over a kept set a call fetches for the documented reasons, unless its token
selects an unusable key. -/
theorem fetches_iff (goes : provider.Goes call)
    (before : call.before = some kept) :
    call.Fetches ↔
      call.ShouldFetch provider.refreshInterval kept ∧
        ¬ call.IsPinned kept := by
  constructor
  · intro fetches
    obtain ⟨token, serving, _, examined, asked, -⟩ :=
      goes.exists_take fetches
    rw [before] at asked
    obtain ⟨due, found, reason⟩ := KeyCache.lookUp_eq_fetch_iff.mp asked
    refine ⟨⟨token, examined, due, ?_⟩, ?_⟩
    · rcases reason with rfl | old
      · right
        intro usable
        obtain ⟨key, alsoFound⟩ := KeySet.selectsUsable_iff.mp usable
        rw [found] at alsoFound
        cases alsoFound
      · exact .inl old
    · rintro ⟨other, alsoExamined, -, unusable⟩
      obtain rfl := Except.ok.inj (examined.symm.trans alsoExamined)
      exact KeySet.exists_find_eq_ok_iff.mp ⟨serving, found⟩ unusable
  · rintro ⟨⟨token, examined, due, reason⟩, unpinned⟩
    obtain ⟨serving, found⟩ := KeySet.exists_find_eq_ok_iff.mpr
      fun unusable => unpinned ⟨token, examined, due, unusable⟩
    have needed : serving = none ∨
        provider.refreshInterval ≤ call.now - kept.fetchedAt := by
      rcases reason with old | useless
      · exact .inr old
      · cases serving with
        | none => exact .inl rfl
        | some key =>
            exact absurd (KeySet.selectsUsable_iff.mpr ⟨key, found⟩) useless
    have asked : call.before.lookUp provider.refreshInterval call.now
        token.keyId = .fetch serving := by
      rw [before]
      exact KeyCache.lookUp_eq_fetch_iff.mpr ⟨due, found, needed⟩
    exact goes.fetches_of_lookUp examined asked

end PublishedKeys.Goes

/-! ### The times of a kept set -/

namespace KeyCall

variable {Value : Type}

/-- The value is the one that the last of the writing calls wrote. -/
def IsLastOf (Writes : KeyCall → Value → Prop) (calls : List KeyCall)
    (value : Value) : Prop :=
  ∃ earlier writing idle, calls = earlier ++ writing :: idle ∧
    Writes writing value ∧ ∀ other ∈ idle, ∀ later, ¬ Writes other later

theorem IsLastOf.append {Writes : KeyCall → Value → Prop}
    {calls : List KeyCall} {value : Value}
    (isLast : IsLastOf Writes calls value) {call : KeyCall}
    (unwritten : ∀ later, ¬ Writes call later) :
    IsLastOf Writes (calls ++ [call]) value := by
  obtain ⟨earlier, writing, idle, rfl, writes, unwrittenSince⟩ := isLast
  refine ⟨earlier, writing, idle ++ [call], by simp, writes, ?_⟩
  intro other member
  rcases List.mem_append.mp member with early | late
  · exact unwrittenSince other early
  · rw [List.mem_singleton.mp late]
    exact unwritten

/-- The call made a fetch at a time, and the cache knows of it. -/
def Attempts (call : KeyCall) (time : Nat) : Prop :=
  call.Fetches ∧ ¬ call.Forgets ∧ call.now = time

/-- The call stored a set that it received at a time. -/
def Stores (call : KeyCall) (fetched : KeySet × Nat) : Prop :=
  call.stored.getLast? = some fetched.1 ∧ call.now = fetched.2

end KeyCall

namespace PublishedKeys

variable {Value State : Type} {provider : PublishedKeys}

/-- A part of the cache that calls write or leave alone is what the last of the
writing calls wrote. -/
theorem Linked.isLastOf_of_held {cache : KeyCache} {past rest : List KeyCall}
    {call : KeyCall} {part : KeyCache → Option Value}
    {Writes : KeyCall → Value → Prop} {value : Value}
    (linked : provider.Linked cache (past ++ call :: rest))
    (writes : ∀ other, provider.Goes other →
      (∃ value, Writes other value ∧ part other.after = some value) ∨
        (∀ value, ¬ Writes other value) ∧ part other.after = part other.before)
    (empty : part cache = none) (held : part call.before = some value) :
    KeyCall.IsLastOf Writes past value := by
  -- By induction on the past from its end, for whatever call comes after it.
  induction past using List.reverseRecOn generalizing call rest with
  | nil =>
      have before : call.before = cache := linked.1
      rw [before, empty] at held
      cases held
  | append_singleton earlier last ih =>
      rw [List.append_assoc, List.singleton_append] at linked
      obtain ⟨goes, next⟩ := linked.behind
      have before : call.before = last.after := next.1
      rw [before] at held
      rcases writes last goes with
        ⟨written, isWritten, after⟩ | ⟨unwritten, after⟩
      · obtain rfl := Option.some.inj (after.symm.trans held)
        exact ⟨earlier, last, [], rfl, isWritten, by simp⟩
      · rw [after] at held
        exact (ih linked held).append unwritten

theorem Goes.attempts_or_unchanged {call : KeyCall}
    (goes : provider.Goes call) :
    (∃ time, call.Attempts time ∧ call.after.lastAttempt? = some time) ∨
      (∀ time, ¬ call.Attempts time) ∧
        call.after.lastAttempt? = call.before.lastAttempt? := by
  by_cases fetches : call.Fetches
  · rcases goes.after_of_fetches fetches with
      ⟨forgotten, after⟩ | ⟨remembered, after⟩
    · exact .inr ⟨fun time attempts => attempts.2.1 forgotten, by rw [after]⟩
    · exact .inl ⟨call.now, ⟨fetches, remembered, rfl⟩, after⟩
  · refine .inr ⟨fun time attempts => fetches attempts.1, ?_⟩
    rw [goes.after_eq_of_not_fetches fetches]

theorem Goes.stores_or_unchanged {call : KeyCall} (goes : provider.Goes call) :
    (∃ fetched, call.Stores fetched ∧ call.after.fetched? = some fetched) ∨
      (∀ fetched, ¬ call.Stores fetched) ∧
        call.after.fetched? = call.before.fetched? := by
  have after := goes.fetched?_after
  cases stored : call.stored.getLast? with
  | none =>
      rw [stored] at after
      refine .inr ⟨fun fetched stores => ?_, after⟩
      rw [KeyCall.Stores, stored] at stores
      cases stores.1
  | some set =>
      rw [stored] at after
      exact .inl ⟨(set, call.now), ⟨stored, rfl⟩, after⟩

/-- In any run from an empty cache, and for whatever token and time, a call over
a kept set fetches for the documented reasons, unless an attempt is due and the
token selects an unusable key of the set; just then it differs from them. The
last attempt of the kept set is the last fetch that was not forgotten, and the
set with the time of its fetch is the last one that was stored. -/
theorem refresh_of_calls (provider : PublishedKeys)
    (fetch : State → Http.Exchange × State) (requests : List (Nat × String))
    (network : State) {past rest : List KeyCall} {call : KeyCall}
    {kept : KeptKeySet}
    (split : provider.calls fetch requests (none, network) =
      past ++ call :: rest)
    (before : call.before = some kept) :
    (call.Fetches ↔
      call.ShouldFetch provider.refreshInterval kept ∧ ¬ call.IsPinned kept) ∧
    ((call.Fetches ↔ call.ShouldFetch provider.refreshInterval kept) ↔
      ¬ call.IsPinned kept) ∧
    KeyCall.IsLastOf KeyCall.Attempts past kept.lastAttempt ∧
    KeyCall.IsLastOf KeyCall.Stores past (kept.set, kept.fetchedAt) := by
  have linked := provider.linked_calls fetch requests (none, network)
  rw [split] at linked
  have goes := linked.behind.1
  have fetches := goes.fetches_iff before
  refine ⟨fetches, ?_, ?_, ?_⟩
  · rw [fetches]
    constructor
    · intro documented pinned
      exact (documented.mpr (pinned.shouldFetch provider.refreshInterval)).2
        pinned
    · intro unpinned
      exact and_iff_left unpinned
  · have held : call.before.lastAttempt? = some kept.lastAttempt := by
      rw [before]
      rfl
    exact linked.isLastOf_of_held
      (fun other goes => goes.attempts_or_unchanged) rfl held
  · have held : call.before.fetched? = some (kept.set, kept.fetchedAt) := by
      rw [before]
      rfl
    exact linked.isLastOf_of_held
      (fun other goes => goes.stores_or_unchanged) rfl held

end PublishedKeys

/-! ### A set that is never refreshed

The published set has two keys, of which neither can be used. A token that names
one of them makes no fetch, however old the kept set is.
-/

namespace Sample

def unusablePair : KeySet :=
  ⟨[⟨some "next", .rsa "!" "AQAB"⟩, ⟨some "other", .rsa "!" "AQAB"⟩]⟩

def pairBody : List UInt8 :=
  Text.Utf8.encode
    ("\x7b\"keys\":[\x7b\"kty\":\"RSA\",\"kid\":\"next\",\"n\":\"!\",\"e\":\"AQAB\"\x7d," ++
      "\x7b\"kty\":\"RSA\",\"kid\":\"other\",\"n\":\"!\",\"e\":\"AQAB\"\x7d]\x7d")

/-- What the body and its keys are read as. -/
theorem pair_readings :
    KeySet.ofBytes? pairBody = some unusablePair ∧
      PublishedKey.verificationKey? ⟨some "next", .rsa "!" "AQAB"⟩ = none := by
  decide +kernel

theorem ofExchange_pairBody :
    KeySet.ofExchange (.answered 200 pairBody) = .ok unusablePair := by
  simp [KeySet.ofExchange, Http.isSuccess, pair_readings.1]

theorem selectsUnusable_unusablePair :
    unusablePair.SelectsUnusable (some "next") :=
  ⟨_, ⟨rfl, [], _, rfl, by simp⟩, pair_readings.2⟩

def keptPair : KeptKeySet :=
  ⟨unusablePair, 1700000000, 1700000000⟩

def pairRequests : List (Nat × String) :=
  [(1700000000, token), (1700000400, nextToken)]

/-- A call that stores the pair; its token names neither key. -/
def pairCall : KeyCall :=
  ⟨1700000000, token, none, .error (TokenFault.unknownKey none).failure,
    [.answered 200 pairBody], some keptPair⟩

/-- A call whose token names the first key of the pair. -/
def pinnedCall : KeyCall :=
  ⟨1700000400, nextToken, some keptPair,
    .error (TokenFault.unusableKey (some "next")).failure, [], some keptPair⟩

theorem calls_pair :
    provider.calls scripted pairRequests
        (none, [.answered 200 pairBody, .answered 200 nextBody]) =
      [pairCall, pinnedCall] := by
  have unselected : unusablePair.find none = .ok none := rfl
  have unusable : unusablePair.find (some "next") =
      .error (.unusableKey (some "next")) :=
    KeySet.find_eq_error_iff.mpr ⟨rfl, selectsUnusable_unusablePair⟩
  have taken : KeyCache.take none 1700000000 none none
      (KeySet.ofExchange (scripted
        [.answered 200 pairBody, .answered 200 nextBody]).1) =
      (.error (TokenFault.unknownKey none).failure, some keptPair) := by
    rw [scripted, ofExchange_pairBody]
    simp [KeyCache.take, unselected, keptPair]
  have refused : KeyCache.lookUp (some keptPair) provider.refreshInterval
      1700000400 (some "next") = .refused (.unusableKey (some "next")) := by
    simp [KeyCache.lookUp, keptPair, unusable]
  rw [pairRequests, PublishedKeys.calls,
    PublishedKeys.call_of_fetch examined_token rfl taken]
  dsimp only
  rw [PublishedKeys.calls,
    PublishedKeys.call_of_refused examined_nextToken refused]
  dsimp only [PublishedKeys.calls]
  rfl

theorem isPinned_pinnedCall : pinnedCall.IsPinned keptPair :=
  ⟨_, examined_nextToken, by decide, selectsUnusable_unusablePair⟩

end Sample

/-- The kept set is old and an attempt is due, but the call makes no fetch. -/
theorem old_set_kept :
    Sample.provider.calls Sample.scripted Sample.pairRequests
        (none, [.answered 200 Sample.pairBody, .answered 200 Sample.nextBody]) =
      [Sample.pairCall, Sample.pinnedCall] ∧
    Sample.pinnedCall.before = some Sample.keptPair ∧
    Sample.provider.refreshInterval ≤
      Sample.pinnedCall.now - Sample.keptPair.fetchedAt ∧
    Sample.pinnedCall.ShouldFetch Sample.provider.refreshInterval
      Sample.keptPair ∧
    ¬ Sample.pinnedCall.Fetches :=
  ⟨Sample.calls_pair, rfl, by decide,
    Sample.isPinned_pinnedCall.shouldFetch Sample.provider.refreshInterval,
    fun fetches => fetches rfl⟩

/-- The documented reasons fail at that call alone, and the times of its set are
those of the first one. -/
theorem refresh_of_sample :
    (¬ (Sample.pinnedCall.Fetches ↔
      Sample.pinnedCall.ShouldFetch Sample.provider.refreshInterval
        Sample.keptPair)) ∧
    KeyCall.IsLastOf KeyCall.Attempts [Sample.pairCall] 1700000000 ∧
    KeyCall.IsLastOf KeyCall.Stores [Sample.pairCall]
      (Sample.unusablePair, 1700000000) := by
  have split : Sample.provider.calls Sample.scripted Sample.pairRequests
      (none, [.answered 200 Sample.pairBody, .answered 200 Sample.nextBody]) =
      [Sample.pairCall] ++ Sample.pinnedCall :: [] :=
    Sample.calls_pair
  obtain ⟨-, documented, attempted, stored⟩ := PublishedKeys.refresh_of_calls
    Sample.provider Sample.scripted Sample.pairRequests _ split rfl
  exact ⟨fun same => documented.mp same Sample.isPinned_pinnedCall, attempted,
    stored⟩

end Gatekeeper
