import Gatekeeper.Proofs.Identity.CacheHistory
import Gatekeeper.Proofs.Interleaving

/-!
# Interleaved calls of the claims cache

Calls of the cache that overlap in any way. A call looks its token up at its
start. Where it finds nothing it waits for the provider, and claims that the
provider answers with are put in under the time that the call read at its start.
However the calls interleave, and whatever their clocks say, the cache stays
within its capacity, and what it answers was put in by an earlier call and has
expired by neither the claims nor the time to live. Where several entries are
the closest to their expiry, any of them may be the one that goes.
-/

namespace Gatekeeper

/-- A call for a token, with the time that it read at its start. -/
structure CacheCall where
  now : Nat
  token : String
deriving DecidableEq, Repr

/-- The cache with the calls that wait for the provider. -/
structure SharedCache where
  cache : ClaimsCache
  waiting : List CacheCall

/-- What happens in one step of a call. -/
inductive CacheEvent where
  | found (call : CacheCall) (claims : Claims)
  | missed (call : CacheCall)
  | accepted (call : CacheCall) (claims : Claims)
  | refused (call : CacheCall) (failure : IdentityFailure)

/-- The answer to a call, in the step that ends it. -/
def CacheEvent.answer? : CacheEvent → Option Authentication
  | .found _ claims => some (.ok claims)
  | .missed _ => none
  | .accepted _ claims => some (.ok claims)
  | .refused _ failure => some (.error failure)

namespace ClaimsCache

/-- What may be left of a cache once there is room. Nothing goes from one that
is not full, and otherwise one entry does, before which no other expires. -/
inductive MayEvict (cache : ClaimsCache) (capacity : Nat) :
    ClaimsCache → Prop
  | room (room : cache.length < capacity) : MayEvict cache capacity cache
  | soonest {entry : TokenDigest × CachedClaims}
      (full : capacity ≤ cache.length) (member : entry ∈ cache)
      (least : ∀ other ∈ cache, entry.2.expiresAt ≤ other.2.expiresAt) :
      MayEvict cache capacity (cache.remove entry.1)

/-- What may be left of a cache once claims were put in. -/
inductive MayPut (limits : CacheLimits) (cache : ClaimsCache)
    (digest : TokenDigest) (claims : Claims) (now : Nat) : ClaimsCache → Prop
  | expired (expired : min claims.expiresAt (now + limits.ttl) ≤ now) :
      MayPut limits cache digest claims now cache
  | lasting {rest : ClaimsCache}
      (lasting : now < min claims.expiresAt (now + limits.ttl))
      (evicted : MayEvict (cache.purge limits.capacity now) limits.capacity
        rest) :
      MayPut limits cache digest claims now
        ((digest, ⟨claims, min claims.expiresAt (now + limits.ttl)⟩) ::
          rest.remove digest)

end ClaimsCache

/-- The steps of calls. At any time a call may begin, and the provider may
answer any call that waits for it, in any way. -/
inductive CacheStep (limits : CacheLimits) :
    SharedCache → CacheEvent → SharedCache → Prop
  | found {cache after : ClaimsCache} {waiting : List CacheCall}
      {claims : Claims} (call : CacheCall)
      (got : cache.get (tokenDigest call.token) call.now =
        (some claims, after)) :
      CacheStep limits ⟨cache, waiting⟩ (.found call claims) ⟨after, waiting⟩
  | missed {cache after : ClaimsCache} {waiting : List CacheCall}
      (call : CacheCall)
      (got : cache.get (tokenDigest call.token) call.now = (none, after)) :
      CacheStep limits ⟨cache, waiting⟩ (.missed call)
        ⟨after, call :: waiting⟩
  | accepted {cache rest : ClaimsCache} (before after : List CacheCall)
      (call : CacheCall) (claims : Claims)
      (put : ClaimsCache.MayPut limits cache (tokenDigest call.token) claims
        call.now rest) :
      CacheStep limits ⟨cache, before ++ call :: after⟩
        (.accepted call claims) ⟨rest, before ++ after⟩
  | refused {cache : ClaimsCache} (before after : List CacheCall)
      (call : CacheCall) (failure : IdentityFailure) :
      CacheStep limits ⟨cache, before ++ call :: after⟩
        (.refused call failure) ⟨cache, before ++ after⟩

theorem CacheLimits.isEnabled_iff {limits : CacheLimits} :
    limits.isEnabled = true ↔ 0 < limits.ttl ∧ 0 < limits.capacity := by
  simp [isEnabled]

namespace ClaimsCache

/-! ### Evicting -/

theorem exists_soonest? {cache : ClaimsCache} (nonempty : cache ≠ []) :
    ∃ soonest, cache.soonest? = some soonest ∧ soonest ∈ cache ∧
      ∀ other ∈ cache, soonest.2.expiresAt ≤ other.2.expiresAt := by
  induction cache with
  | nil => exact absurd rfl nonempty
  | cons first rest ih =>
      cases rest with
      | nil => exact ⟨first, rfl, by simp, by simp⟩
      | cons second others =>
          obtain ⟨soonest, isSoonest, member, least⟩ := ih (by simp)
          simp only [soonest?] at isSoonest ⊢
          rw [isSoonest]
          by_cases sooner : soonest.2.expiresAt < first.2.expiresAt
          · refine ⟨soonest, if_pos sooner, List.mem_cons_of_mem _ member, ?_⟩
            intro other isOther
            rcases List.mem_cons.mp isOther with rfl | later
            · exact Nat.le_of_lt sooner
            · exact least other later
          · refine ⟨first, if_neg sooner, List.mem_cons_self, ?_⟩
            intro other isOther
            rcases List.mem_cons.mp isOther with rfl | later
            · exact Nat.le_refl _
            · exact Nat.le_trans (Nat.le_of_not_lt sooner) (least other later)

theorem mayEvict_evict {cache : ClaimsCache} {capacity : Nat}
    (roomy : 0 < capacity) :
    MayEvict cache capacity (cache.evict capacity) := by
  unfold evict
  by_cases room : cache.length < capacity
  · rw [if_pos room]
    exact .room room
  · have full := Nat.le_of_not_lt room
    obtain ⟨entry, isSoonest, member, least⟩ :=
      exists_soonest?
        (List.ne_nil_of_length_pos (Nat.lt_of_lt_of_le roomy full))
    rw [if_neg room, isSoonest]
    exact .soonest full member least

theorem mayPut_put {cache : ClaimsCache} {limits : CacheLimits}
    (enabled : limits.isEnabled = true) (digest : TokenDigest)
    (claims : Claims) (now : Nat) :
    MayPut limits cache digest claims now
      (cache.put limits digest claims now) := by
  unfold put
  by_cases expired : min claims.expiresAt (now + limits.ttl) ≤ now
  · simp only [if_pos expired]
    exact .expired expired
  · simp only [if_neg expired]
    exact .lasting (Nat.lt_of_not_le expired)
      (mayEvict_evict (CacheLimits.isEnabled_iff.mp enabled).2)

/-- A call that nothing interrupts takes these steps. -/
theorem exists_run_of_authenticate {State : Type} {limits : CacheLimits}
    (enabled : limits.isEnabled = true) (inner : Authenticator State)
    (now : Nat) (token : String) (cache : ClaimsCache) (state : State)
    (waiting : List CacheCall) :
    ∃ events, Run (CacheStep limits) ⟨cache, waiting⟩ events
        ⟨(authenticate limits inner now token (cache, state)).2.1, waiting⟩ ∧
      events.getLast?.bind CacheEvent.answer? =
        some (authenticate limits inner now token (cache, state)).1 := by
  unfold authenticate
  simp only [enabled, Bool.not_true, Bool.false_eq_true, if_false]
  rcases got : cache.get (tokenDigest token) now with ⟨_ | claims, rest⟩
  · have missed : Run (CacheStep limits) ⟨cache, waiting⟩
        [.missed ⟨now, token⟩] ⟨rest, ⟨now, token⟩ :: waiting⟩ :=
      .single (.missed ⟨now, token⟩ got)
    rcases asked : inner now token state with ⟨failure | claims, after⟩
    · exact ⟨_, missed.next (.refused [] waiting _ failure), rfl⟩
    · exact ⟨_, missed.next (.accepted [] waiting _ claims
        (mayPut_put enabled _ claims now)), rfl⟩
  · exact ⟨_, .single (.found ⟨now, token⟩ got), rfl⟩

/-! ### Capacity -/

theorem length_remove_le (cache : ClaimsCache) (digest : TokenDigest) :
    (cache.remove digest).length ≤ cache.length :=
  List.length_filter_le _ _

theorem length_get_le (cache : ClaimsCache) (digest : TokenDigest)
    (now : Nat) : (cache.get digest now).2.length ≤ cache.length := by
  unfold get
  split
  · exact Nat.le_refl _
  · split
    · exact Nat.le_refl _
    · exact length_remove_le cache digest

theorem length_purge_le (cache : ClaimsCache) (capacity now : Nat) :
    (cache.purge capacity now).length ≤ cache.length := by
  unfold purge
  split
  · exact Nat.le_refl _
  · exact List.length_filter_le _ _

theorem length_remove_lt {cache : ClaimsCache}
    {entry : TokenDigest × CachedClaims} (member : entry ∈ cache) :
    (cache.remove entry.1).length < cache.length :=
  List.length_filter_lt_length_iff_exists.mpr ⟨entry, member, by simp⟩

/-- An eviction leaves room for one entry. -/
theorem MayEvict.length_lt {cache rest : ClaimsCache} {capacity : Nat}
    (evicted : MayEvict cache capacity rest)
    (within : cache.length ≤ capacity) : rest.length < capacity := by
  cases evicted with
  | room room => exact room
  | soonest full member least =>
      exact Nat.lt_of_lt_of_le (length_remove_lt member) within

theorem MayPut.length_le {cache rest : ClaimsCache} {limits : CacheLimits}
    {digest : TokenDigest} {claims : Claims} {now : Nat}
    (put : MayPut limits cache digest claims now rest)
    (within : cache.length ≤ limits.capacity) :
    rest.length ≤ limits.capacity := by
  cases put with
  | expired expired => exact within
  | @lasting roomy lasting evicted =>
      have purged :
          (cache.purge limits.capacity now).length ≤ limits.capacity :=
        Nat.le_trans (length_purge_le cache limits.capacity now) within
      have fewer := evicted.length_lt purged
      have removed := length_remove_le roomy digest
      rw [List.length_cons]
      omega

end ClaimsCache

namespace CacheStep

variable {limits : CacheLimits} {state next : SharedCache} {event : CacheEvent}

theorem length_le (moved : CacheStep limits state event next)
    (within : state.cache.length ≤ limits.capacity) :
    next.cache.length ≤ limits.capacity := by
  cases moved with
  | @found cache after _ _ call got | @missed cache after _ call got =>
      have shrunk := cache.length_get_le (tokenDigest call.token) call.now
      rw [got] at shrunk
      exact Nat.le_trans shrunk within
  | accepted _ _ call claims put => exact put.length_le within
  | refused => exact within

end CacheStep

/-! ### Origin -/

theorem ClaimsCache.MayEvict.subset {cache rest : ClaimsCache} {capacity : Nat}
    (evicted : MayEvict cache capacity rest) : rest ⊆ cache := by
  cases evicted with
  | room room => exact List.Subset.refl cache
  | soonest full member least => exact remove_subset

theorem ClaimsCache.MayPut.origin {cache rest : ClaimsCache}
    {limits : CacheLimits} {token : String} {claims : Claims} {now : Nat}
    (put : MayPut limits cache (tokenDigest token) claims now rest)
    {entry : TokenDigest × CachedClaims} (member : entry ∈ rest) :
    entry ∈ cache ∨
      entry = entryFor limits now token claims ∧ now < entry.2.expiresAt := by
  cases put with
  | expired expired => exact .inl member
  | lasting lasting evicted =>
      rcases List.mem_cons.mp member with rfl | old
      · exact .inr ⟨rfl, lasting⟩
      · exact .inl (purge_subset (evicted.subset (remove_subset old)))

namespace CacheStep

variable {limits : CacheLimits} {state next : SharedCache} {event : CacheEvent}

/-- Each entry after a step was there before, unless the step put it in. -/
theorem mem_cache (moved : CacheStep limits state event next)
    {entry : TokenDigest × CachedClaims} (member : entry ∈ next.cache) :
    entry ∈ state.cache ∨ ∃ call claims, event = .accepted call claims ∧
      entry = ClaimsCache.entryFor limits call.now call.token claims ∧
      call.now < entry.2.expiresAt := by
  cases moved with
  | found call got | missed call got =>
      left
      apply ClaimsCache.get_subset
      rw [got]
      exact member
  | accepted before after call claims put =>
      rcases put.origin member with old | ⟨new, lasting⟩
      · exact .inl old
      · exact .inr ⟨_, _, rfl, new, lasting⟩
  | refused => exact .inl member

end CacheStep

namespace CacheEvent

/-- An earlier call put an entry in, for claims that the provider answered it
with. -/
def PutIn (limits : CacheLimits) (events : List CacheEvent)
    (entry : TokenDigest × CachedClaims) : Prop :=
  ∃ call claims, .accepted call claims ∈ events ∧
    entry = ClaimsCache.entryFor limits call.now call.token claims ∧
    call.now < entry.2.expiresAt

theorem PutIn.append {limits : CacheLimits} {events : List CacheEvent}
    {entry : TokenDigest × CachedClaims} (known : PutIn limits events entry)
    (event : CacheEvent) : PutIn limits (events ++ [event]) entry := by
  obtain ⟨call, claims, accepted, isEntry, lasting⟩ := known
  exact ⟨call, claims, List.mem_append_left _ accepted, isEntry, lasting⟩

end CacheEvent

/-! ### Runs -/

namespace ClaimsCache

variable {limits : CacheLimits} {events : List CacheEvent}
  {state : SharedCache}

theorem length_le_of_run
    (run : Run (CacheStep limits) ⟨[], []⟩ events state) :
    state.cache.length ≤ limits.capacity := by
  refine run.keeps (fun _ state => state.cache.length ≤ limits.capacity)
    (Nat.zero_le _) ?_
  intro past state event next within moved
  exact moved.length_le within

theorem putIn_of_run (run : Run (CacheStep limits) ⟨[], []⟩ events state) :
    ∀ entry ∈ state.cache, CacheEvent.PutIn limits events entry := by
  refine run.keeps (fun events state =>
    ∀ entry ∈ state.cache, CacheEvent.PutIn limits events entry) ?_ ?_
  · intro entry member
    cases member
  · intro past state event next known moved entry member
    rcases moved.mem_cache member with
      old | ⟨call, claims, rfl, isEntry, lasting⟩
    · exact (known entry old).append event
    · exact ⟨call, claims, by simp, isEntry, lasting⟩

/-- What is found was put in by an earlier call with the same digest. -/
theorem exists_accepted_of_found {past rest : List CacheEvent}
    {call : CacheCall} {claims : Claims}
    (run : Run (CacheStep limits) ⟨[], []⟩
      (past ++ .found call claims :: rest) state) :
    ∃ earlier : CacheCall, .accepted earlier claims ∈ past ∧
      tokenDigest earlier.token = tokenDigest call.token ∧
      earlier.now < min claims.expiresAt (earlier.now + limits.ttl) ∧
      call.now < claims.expiresAt ∧ call.now < earlier.now + limits.ttl := by
  obtain ⟨before, after, upTo, moved⟩ := run.exists_step
  cases moved with
  | found call got =>
      obtain ⟨expiresAt, member, unexpired⟩ :=
        exists_entry_of_get (congrArg Prod.fst got)
      obtain ⟨earlier, others, accepted, isEntry, lasting⟩ :=
        putIn_of_run upTo _ member
      simp only [entryFor, Prod.mk.injEq, CachedClaims.mk.injEq] at isEntry
      obtain ⟨sameDigest, rfl, rfl⟩ := isEntry
      have beforeBoth := Nat.lt_min.mp unexpired
      exact ⟨earlier, accepted, sameDigest.symm, lasting, beforeBoth.1,
        beforeBoth.2⟩

/-- However calls interleave and whatever their clocks say, an enabled cache
stays within its capacity, and claims that it finds were put in by an earlier
call with the same digest and have not expired by the clock of the call that
finds them. So nothing is found for a token that the provider has only ever
refused. Calls that nothing interrupts are among the interleavings: after any
run one more call may be made as a whole. -/
theorem found_of_interleaving (enabled : limits.isEnabled = true)
    (run : Run (CacheStep limits) ⟨[], []⟩ events state) :
    state.cache.length ≤ limits.capacity ∧
    (∀ past call claims rest, events = past ++ .found call claims :: rest →
      ∃ earlier : CacheCall, .accepted earlier claims ∈ past ∧
        tokenDigest earlier.token = tokenDigest call.token ∧
        earlier.now < min claims.expiresAt (earlier.now + limits.ttl) ∧
        call.now < claims.expiresAt ∧ call.now < earlier.now + limits.ttl) ∧
    (∀ digest,
      (∀ call claims, .accepted call claims ∈ events →
        tokenDigest call.token ≠ digest) →
      ∀ call claims, .found call claims ∈ events →
        tokenDigest call.token ≠ digest) ∧
    ∀ (Inside : Type) (inner : Authenticator Inside) (now : Nat)
      (token : String) (inside : Inside), ∃ further,
      Run (CacheStep limits) ⟨[], []⟩ (events ++ further)
        ⟨(authenticate limits inner now token (state.cache, inside)).2.1,
          state.waiting⟩ ∧
      further.getLast?.bind CacheEvent.answer? =
        some (authenticate limits inner now token (state.cache, inside)).1 := by
  have origin : ∀ past call claims rest,
      events = past ++ .found call claims :: rest →
      ∃ earlier : CacheCall, .accepted earlier claims ∈ past ∧
        tokenDigest earlier.token = tokenDigest call.token ∧
        earlier.now < min claims.expiresAt (earlier.now + limits.ttl) ∧
        call.now < claims.expiresAt ∧
        call.now < earlier.now + limits.ttl := by
    intro past call claims rest split
    subst split
    exact exists_accepted_of_found run
  refine ⟨length_le_of_run run, origin, ?_, ?_⟩
  · intro digest refused call claims found same
    obtain ⟨past, rest, split⟩ := List.append_of_mem found
    obtain ⟨earlier, accepted, sameDigest, -⟩ :=
      origin past call claims rest split
    have known : .accepted earlier claims ∈ events := by
      rw [split]
      exact List.mem_append_left _ accepted
    exact refused earlier claims known (sameDigest.trans same)
  · intro Inside inner now token inside
    obtain ⟨further, call, ends⟩ := exists_run_of_authenticate enabled inner now
      token state.cache inside state.waiting
    exact ⟨further, run.append call, ends⟩

end ClaimsCache

/-! ### Two misses of one token

Two calls miss the same token, and the one with the later clock is answered
first. The other then puts its claims in under its earlier clock, and a third
call finds them.
-/

namespace Sample

def shownClaims : Claims :=
  ⟨"mallory", "mallory", 1800000000, []⟩

def aheadCall : CacheCall := ⟨1700000050, "token"⟩

def behindCall : CacheCall := ⟨1700000000, "token"⟩

def laterCall : CacheCall := ⟨1700000059, "token"⟩

def twoMisses : List CacheEvent :=
  [.missed aheadCall, .missed behindCall, .accepted aheadCall shownClaims,
    .accepted behindCall shownClaims]

def twoMissesCache : ClaimsCache :=
  [(tokenDigest "token", ⟨shownClaims, 1700000060⟩)]

theorem run_twoMisses :
    Run (CacheStep ⟨60, 1⟩) ⟨[], []⟩
      (twoMisses ++ [.found laterCall shownClaims]) ⟨twoMissesCache, []⟩ := by
  have firstPut : ClaimsCache.put [] ⟨60, 1⟩ (tokenDigest "token")
      shownClaims 1700000050 =
        [(tokenDigest "token", ⟨shownClaims, 1700000110⟩)] := by
    simp [ClaimsCache.put, ClaimsCache.purge, ClaimsCache.evict,
      ClaimsCache.remove, shownClaims]
  have secondPut : ClaimsCache.put
      [(tokenDigest "token", ⟨shownClaims, 1700000110⟩)] ⟨60, 1⟩
      (tokenDigest "token") shownClaims 1700000000 = twoMissesCache := by
    simp [ClaimsCache.put, ClaimsCache.purge, ClaimsCache.evict,
      ClaimsCache.soonest?, ClaimsCache.remove, shownClaims, twoMissesCache]
  have got : ClaimsCache.get twoMissesCache (tokenDigest laterCall.token)
      laterCall.now = (some shownClaims, twoMissesCache) := by
    simp [ClaimsCache.get, twoMissesCache, laterCall]
  have bothMissed : Run (CacheStep ⟨60, 1⟩) ⟨[], []⟩
      [.missed aheadCall, .missed behindCall]
      ⟨[], [behindCall, aheadCall]⟩ :=
    .next (.single (.missed aheadCall rfl)) (.missed behindCall rfl)
  have firstAnswered := bothMissed.next
    (.accepted [behindCall] [] aheadCall shownClaims
      (ClaimsCache.mayPut_put rfl _ _ _))
  have bothAnswered := firstAnswered.next
    (.accepted [] [] behindCall shownClaims
      (ClaimsCache.mayPut_put rfl _ _ _))
  rw [aheadCall, firstPut, behindCall, secondPut] at bothAnswered
  exact bothAnswered.next (.found laterCall got)

end Sample

theorem found_of_interleaving_of_sample :
    Run (CacheStep ⟨60, 1⟩) ⟨[], []⟩
        (Sample.twoMisses ++ [.found Sample.laterCall Sample.shownClaims])
        ⟨Sample.twoMissesCache, []⟩ ∧
      Sample.twoMissesCache.length ≤ 1 ∧
      ∃ earlier : CacheCall,
        .accepted earlier Sample.shownClaims ∈ Sample.twoMisses ∧
          Sample.laterCall.now < earlier.now + 60 := by
  obtain ⟨within, origin, -⟩ :=
    ClaimsCache.found_of_interleaving rfl Sample.run_twoMisses
  obtain ⟨earlier, accepted, -, -, -, fresh⟩ := origin _ _ _ [] rfl
  exact ⟨Sample.run_twoMisses, within, earlier, accepted, fresh⟩

end Gatekeeper
