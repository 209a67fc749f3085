/-!
# Looking up entries

Entries are held in a list and found by their keys. The first entry of a key
counts, so where keys are distinct every entry is found.
-/

namespace Gatekeeper

variable {Key Value : Type} [BEq Key] [LawfulBEq Key] [DecidableEq Key]
  {key other : Key} {entries : List (Key × Value)}

theorem lookup_cons_eq_ite (key other : Key) (value : Value)
    (rest : List (Key × Value)) :
    List.lookup other ((key, value) :: rest) =
      if other = key then some value else rest.lookup other := by
  by_cases same : other = key
  · simp [same]
  · simp [same, List.lookup_cons, beq_eq_false_iff_ne.mpr same]

theorem lookup_filter_same :
    (entries.filter fun entry => entry.1 ≠ key).lookup key = none := by
  rw [List.lookup_eq_none_iff]
  intro entry kept
  have different : entry.1 ≠ key := by
    simpa using (List.mem_filter.mp kept).2
  exact bne_iff_ne.mpr different.symm

theorem lookup_filter_of_ne (different : other ≠ key) :
    (entries.filter fun entry => entry.1 ≠ key).lookup other =
      entries.lookup other := by
  induction entries with
  | nil => rfl
  | cons entry entries ih =>
      obtain ⟨own, value⟩ := entry
      by_cases same : own = key
      · have apart : other ≠ own := by simpa [same] using different
        rw [List.filter_cons_of_neg (by simpa using same), lookup_cons_eq_ite,
          if_neg apart, ih]
      · rw [List.filter_cons_of_pos (by simpa using same), lookup_cons_eq_ite,
          lookup_cons_eq_ite, ih]

end Gatekeeper
