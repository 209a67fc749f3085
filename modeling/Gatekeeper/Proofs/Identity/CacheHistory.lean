import Gatekeeper.Identity.ClaimsCache

/-!
# History of the claims cache

Where the entries of the cache and its answers come from. An entry is put in
only after the provider behind the cache accepted the token, and it lasts no
longer than the claims and the time to live. An answer comes from an entry that
has not expired, or from the provider in the same call.
-/

namespace Gatekeeper

namespace ClaimsCache

/-! ### Entries -/

theorem remove_subset {cache : ClaimsCache} {digest : TokenDigest} :
    cache.remove digest ⊆ cache :=
  List.filter_sublist.subset

theorem purge_subset {cache : ClaimsCache} {capacity now : Nat} :
    cache.purge capacity now ⊆ cache := by
  unfold purge
  split
  · exact List.Subset.refl cache
  · exact List.filter_sublist.subset

theorem evict_subset {cache : ClaimsCache} {capacity : Nat} :
    cache.evict capacity ⊆ cache := by
  unfold evict
  split
  · exact List.Subset.refl cache
  · split
    · exact List.Subset.refl cache
    · exact remove_subset

/-- The entry that claims are remembered in at a time. -/
def entryFor (limits : CacheLimits) (now : Nat) (token : String)
    (claims : Claims) : TokenDigest × CachedClaims :=
  (tokenDigest token, ⟨claims, min claims.expiresAt (now + limits.ttl)⟩)

/-- An entry that is there after claims were put in was there before, or is the
one for these claims, which has not expired yet. -/
theorem mem_of_mem_put {cache : ClaimsCache} {limits : CacheLimits}
    {token : String} {claims : Claims} {now : Nat}
    {entry : TokenDigest × CachedClaims}
    (member : entry ∈ cache.put limits (tokenDigest token) claims now) :
    entry ∈ cache ∨
      entry = entryFor limits now token claims ∧ now < entry.2.expiresAt := by
  unfold put at member
  dsimp only at member
  split at member
  · exact .inl member
  · rename_i lasting
    rcases List.mem_cons.mp member with rfl | old
    · exact .inr ⟨rfl, Nat.lt_of_not_le lasting⟩
    · exact .inl (purge_subset (evict_subset (remove_subset old)))

theorem put_subset {cache : ClaimsCache} {limits : CacheLimits}
    {token : String} {claims : Claims} {now : Nat} :
    cache.put limits (tokenDigest token) claims now ⊆
      entryFor limits now token claims :: cache := by
  intro entry member
  rcases mem_of_mem_put member with old | ⟨rfl, -⟩
  · exact List.mem_cons_of_mem _ old
  · exact List.mem_cons_self

theorem get_subset {cache : ClaimsCache} {digest : TokenDigest} {now : Nat} :
    (cache.get digest now).2 ⊆ cache := by
  unfold get
  split
  · exact List.Subset.refl cache
  · split
    · exact List.Subset.refl cache
    · exact remove_subset

/-- Claims that are found belong to an entry that has not expired. -/
theorem exists_entry_of_get {cache : ClaimsCache} {digest : TokenDigest}
    {now : Nat} {claims : Claims}
    (found : (cache.get digest now).1 = some claims) :
    ∃ expiresAt, (digest, ⟨claims, expiresAt⟩) ∈ cache ∧ now < expiresAt := by
  unfold get at found
  split at found
  · cases found
  · rename_i entry lookedUp
    split at found
    · rename_i unexpired
      obtain ⟨before, after, split, -⟩ := List.lookup_eq_some_iff.mp lookedUp
      obtain rfl := Option.some.inj found
      exact ⟨entry.expiresAt, by simp [split], unexpired⟩
    · cases found

/-! ### Answers -/

variable {State : Type} {limits : CacheLimits} {inner : Authenticator State}
  {now : Nat} {token : String} {cache : ClaimsCache} {state : State}

/-- The cache cannot answer for a token, so that the provider is asked. -/
def Misses (limits : CacheLimits) (cache : ClaimsCache) (now : Nat)
    (token : String) : Prop :=
  limits.isEnabled = false ∨ (cache.get (tokenDigest token) now).1 = none

/-- Where the cache misses, the provider decides. -/
theorem authenticate_of_misses (misses : Misses limits cache now token) :
    (authenticate limits inner now token (cache, state)).1 =
      (inner now token state).1 := by
  unfold authenticate
  cases enabled : limits.isEnabled with
  | false => rfl
  | true =>
      simp only [Bool.not_true, Bool.false_eq_true, if_false]
      rcases misses with disabled | unfound
      · rw [enabled] at disabled
        cases disabled
      · rcases found : cache.get (tokenDigest token) now with ⟨entry, rest⟩
        rw [found] at unfound
        simp only at unfound
        subst unfound
        rcases inner now token state with ⟨failure | claims, after⟩
        · rfl
        · rfl

/-- Where an enabled cache finds claims, they are the answer. -/
theorem authenticate_of_found {claims : Claims}
    (enabled : limits.isEnabled = true)
    (found : (cache.get (tokenDigest token) now).1 = some claims) :
    (authenticate limits inner now token (cache, state)).1 = .ok claims := by
  unfold authenticate
  simp only [enabled, Bool.not_true, Bool.false_eq_true, if_false]
  rcases got : cache.get (tokenDigest token) now with ⟨remembered, rest⟩
  rw [got] at found
  simp only at found
  subst found
  rfl

/-- A call is answered from the cache, or by the provider where the cache
misses. -/
theorem accepted_of_authenticate {claims : Claims}
    (accepted : (authenticate limits inner now token (cache, state)).1 =
      .ok claims) :
    (∃ expiresAt, (tokenDigest token, ⟨claims, expiresAt⟩) ∈ cache ∧
      now < expiresAt) ∨
    (Misses limits cache now token ∧
      (inner now token state).1 = .ok claims) := by
  unfold authenticate at accepted
  cases enabled : limits.isEnabled with
  | false =>
      simp only [enabled, Bool.not_false, if_true] at accepted
      exact .inr ⟨.inl enabled, accepted⟩
  | true =>
      simp only [enabled, Bool.not_true, Bool.false_eq_true,
        if_false] at accepted
      rcases found : cache.get (tokenDigest token) now with
        ⟨_ | remembered, rest⟩
      · rcases asked : inner now token state with ⟨failure | others, after⟩
        · simp [found, asked] at accepted
        · simp only [found, asked, Except.ok.injEq] at accepted
          subst accepted
          exact .inr ⟨.inr (by rw [found]), rfl⟩
      · simp only [found, Except.ok.injEq] at accepted
        subst accepted
        exact .inl (exists_entry_of_get (by rw [found]))

/-- An entry that is there after a call was there before, or the call put it in
for the claims that the provider answered. -/
theorem mem_of_authenticate {entry : TokenDigest × CachedClaims}
    (member : entry ∈
      (authenticate limits inner now token (cache, state)).2.1) :
    entry ∈ cache ∨ ∃ claims, Misses limits cache now token ∧
      (inner now token state).1 = .ok claims ∧
      entry = entryFor limits now token claims := by
  unfold authenticate at member
  cases enabled : limits.isEnabled with
  | false =>
      simp only [enabled, Bool.not_false, if_true] at member
      exact .inl member
  | true =>
      simp only [enabled, Bool.not_true, Bool.false_eq_true, if_false] at member
      have kept : (cache.get (tokenDigest token) now).2 ⊆ cache := get_subset
      rcases found : cache.get (tokenDigest token) now with
        ⟨_ | remembered, rest⟩
      · rw [found] at kept
        rcases asked : inner now token state with ⟨failure | claims, after⟩
        · simp only [found, asked] at member
          exact .inl (kept member)
        · simp only [found, asked] at member
          rcases List.mem_cons.mp (put_subset member) with new | old
          · exact .inr ⟨claims, .inr (by rw [found]), rfl, new⟩
          · exact .inl (kept old)
      · rw [found] at kept
        simp only [found] at member
        exact .inl (kept member)

end ClaimsCache

end Gatekeeper
