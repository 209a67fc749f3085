import Gatekeeper.Proofs.Text.Words
import Gatekeeper.Target

/-!
# Segments of paths

How a path names an object. The part of a path before its query and its
fragment is the prefix and what lies below it, and the first two segments of
that are the type and the id of the object. The rules read exactly these paths
as named ones, and every other path as the default object.
-/

namespace Gatekeeper

open Gatekeeper.Text

/-! ### Segments -/

theorem words_of_unslashed {segment : List Char} (nonempty : segment ≠ [])
    (plain : '/' ∉ segment) : words (· = '/') segment = [segment] := by
  refine words_of_plain nonempty ?_
  intro character member
  simp only [decide_eq_false_iff_not]
  rintro rfl
  exact plain member

/-- A text starts with a segment, perhaps behind slashes, and nothing follows
the segment or a slash does. -/
structure StartsWithSegment (text segment following : List Char) : Prop where
  split : ∃ slashes, text = slashes ++ (segment ++ following) ∧
    ∀ character ∈ slashes, character = '/'
  nonempty : segment ≠ []
  plain : '/' ∉ segment
  ends : following = [] ∨ following.head? = some '/'

theorem startsWithSegment_iff {text segment following : List Char} :
    StartsWithSegment text segment following ↔
      StartsWithWord (· = '/') text segment following := by
  constructor
  · rintro ⟨⟨slashes, split, all⟩, nonempty, plain, ends⟩
    refine ⟨⟨slashes, split, by simpa using all⟩, nonempty, ?_, ?_⟩
    · intro character member
      simp only [decide_eq_false_iff_not]
      rintro rfl
      exact plain member
    · rintro first rest rfl
      simpa using ends
  · rintro ⟨⟨slashes, split, all⟩, nonempty, plain, ends⟩
    refine ⟨⟨slashes, split, by simpa using all⟩, nonempty, ?_, ?_⟩
    · intro member
      simpa using plain '/' member
    · cases following with
      | nil => exact .inl rfl
      | cons first rest =>
          have slash : first = '/' := by simpa using ends first rest rfl
          exact .inr (by rw [slash]; rfl)

theorem StartsWithSegment.words_eq {text segment following : List Char}
    (starts : StartsWithSegment text segment following) :
    words (· = '/') text = segment :: words (· = '/') following :=
  (startsWithSegment_iff.mp starts).words_eq

theorem exists_startsWithSegment {text segment : List Char}
    {others : List (List Char)}
    (found : words (· = '/') text = segment :: others) :
    ∃ following, StartsWithSegment text segment following ∧
      words (· = '/') following = others := by
  obtain ⟨following, starts, rest⟩ := words_eq_cons_iff.mp found
  exact ⟨following, startsWithSegment_iff.mpr starts, rest⟩

/-! ### Paths -/

/-- What a path is before its query and its fragment. -/
structure IsBare (bare path : List Char) : Prop where
  unqueried : '?' ∉ bare
  unmarked : '#' ∉ bare
  cut : ∃ rest, path = bare ++ rest ∧
    (rest = [] ∨ rest.head? = some '?' ∨ rest.head? = some '#')

namespace TargetRules

theorem isBare_iff {bare path : List Char} :
    IsBare bare path ↔ barePath path = bare := by
  constructor
  · rintro ⟨unqueried, unmarked, rest, rfl, ends⟩
    unfold barePath
    rw [List.takeWhile_append_of_pos]
    · rcases ends with rfl | query | mark
      · simp
      · obtain ⟨rest, rfl⟩ := List.head?_eq_some_iff.mp query
        simp
      · obtain ⟨rest, rfl⟩ := List.head?_eq_some_iff.mp mark
        simp
    · intro character member
      simp only [ne_eq, decide_not, Bool.and_eq_true, Bool.not_eq_true',
        decide_eq_false_iff_not]
      constructor
      · rintro rfl
        exact unqueried member
      · rintro rfl
        exact unmarked member
  · rintro rfl
    have plain : ∀ character ∈ barePath path,
        character ≠ '?' ∧ character ≠ '#' := by
      intro character member
      simpa using List.mem_takeWhile_imp member
    refine ⟨fun member => (plain _ member).1 rfl,
      fun member => (plain _ member).2 rfl,
      path.dropWhile (fun c => c ≠ '?' && c ≠ '#'),
      List.takeWhile_append_dropWhile.symm, ?_⟩
    cases rest : path.dropWhile (fun c => c ≠ '?' && c ≠ '#') with
    | nil => exact .inl rfl
    | cons character others =>
        have cut := of_dropWhile_eq_cons rest
        simp only [ne_eq, decide_not, Bool.and_eq_false_iff,
          Bool.not_eq_false', decide_eq_true_eq] at cut
        rcases cut with rfl | rfl
        · exact .inr (.inl rfl)
        · exact .inr (.inr rfl)

/-- What a bare path has below the prefix, which it is or goes on from with a
slash. Every path lies below a single slash. -/
def IsBelow (rules : TargetRules) (bare rest : List Char) : Prop :=
  rules.pathPrefix = "/" ∧ rest = bare ∨
    rules.pathPrefix ≠ "/" ∧ bare = rules.pathPrefix.toList ++ rest ∧
      (rest = [] ∨ rest.head? = some '/')

theorem below?_eq_some_iff {rules : TargetRules} {bare rest : List Char} :
    rules.below? bare = some rest ↔ rules.IsBelow bare rest := by
  unfold below? IsBelow
  by_cases root : rules.pathPrefix = "/"
  · simp [root, eq_comm]
  · simp only [root, if_false, Option.bind_eq_some_iff, false_and, ne_eq,
      not_false_eq_true, true_and, false_or,
      Option.ite_none_right_eq_some, Option.some.injEq, Bool.or_eq_true,
      List.isEmpty_iff, decide_eq_true_eq, stripLead?_eq_some_iff]
    constructor
    · rintro ⟨below, rfl, ends, rfl⟩
      exact ⟨rfl, ends⟩
    · rintro ⟨rfl, ends⟩
      exact ⟨rest, rfl, ends, rfl⟩

/-- A path names an object by the first two segments of what it has below the
prefix: its type and its id. -/
def Names (rules : TargetRules) (path : String) (kind id : List Char) : Prop :=
  ∃ bare rest following others, IsBare bare path.toList ∧
    rules.IsBelow bare rest ∧ StartsWithSegment rest kind following ∧
    StartsWithSegment following id others

/-- The segments that a path has below the prefix, when it lies there. -/
def segments? (rules : TargetRules) (path : String) :
    Option (List (List Char)) :=
  (rules.below? (barePath path.toList)).map (words (· = '/'))

variable {rules : TargetRules} {path : String} {kind id : List Char}

theorem names_iff :
    rules.Names path kind id ↔
      ∃ others, rules.segments? path = some (kind :: id :: others) := by
  simp only [segments?, Option.map_eq_some_iff]
  constructor
  · rintro ⟨bare, rest, following, others, isBare, below, first, second⟩
    rw [isBare_iff] at isBare
    subst isBare
    exact ⟨_, rest, below?_eq_some_iff.mpr below, by
      rw [first.words_eq, second.words_eq]⟩
  · rintro ⟨others, rest, below, found⟩
    obtain ⟨following, first, found⟩ := exists_startsWithSegment found
    obtain ⟨after, second, -⟩ := exists_startsWithSegment found
    exact ⟨_, rest, following, after, isBare_iff.mpr rfl,
      below?_eq_some_iff.mp below, first, second⟩

/-- A path names one object at most. -/
theorem Names.unique {otherKind otherId : List Char}
    (named : rules.Names path kind id)
    (alsoNamed : rules.Names path otherKind otherId) :
    kind = otherKind ∧ id = otherId := by
  obtain ⟨others, found⟩ := names_iff.mp named
  obtain ⟨_, alsoFound⟩ := names_iff.mp alsoNamed
  rw [found] at alsoFound
  simp only [Option.some.injEq, List.cons.injEq] at alsoFound
  exact ⟨alsoFound.1, alsoFound.2.1⟩

theorem object_eq_segments? (rules : TargetRules) (path : String) :
    rules.object path =
      match rules.segments? path with
      | some (kind :: id :: _) => String.ofList (kind ++ ':' :: id)
      | _ => rules.defaultObject := rfl

theorem object_of_names (named : rules.Names path kind id) :
    rules.object path = String.ofList (kind ++ ':' :: id) := by
  obtain ⟨others, found⟩ := names_iff.mp named
  rw [object_eq_segments?, found]

theorem object_of_nameless
    (nameless : ¬ ∃ kind id, rules.Names path kind id) :
    rules.object path = rules.defaultObject := by
  rw [object_eq_segments?]
  cases found : rules.segments? path with
  | none => rfl
  | some segments =>
      rcases segments with _ | ⟨kind, _ | ⟨id, others⟩⟩
      · rfl
      · rfl
      · exact absurd ⟨kind, id, names_iff.mpr ⟨others, found⟩⟩ nameless

/-- Paths with the same segments have the same object. -/
theorem object_congr_segments? {other : String}
    (same : rules.segments? path = rules.segments? other) :
    rules.object path = rules.object other := by
  rw [object_eq_segments?, object_eq_segments?, same]

end TargetRules

end Gatekeeper
