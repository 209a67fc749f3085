import Gatekeeper.Proofs.Text.Utf8
import Gatekeeper.Proofs.Text.Words
import Gatekeeper.Url.Basic

/-!
# Text behind a URL

Where text goes that is written behind the tail of a URL. It goes to the last
part there is: the fragment, or else the query, or else the path. Plain names
behind a path end the path that is read, whatever segments they stand behind.
-/

namespace Gatekeeper.Url

open Gatekeeper.Text

/-! ### Parts of a tail -/

/-- The path, the query and the fragment of a tail with text behind the last of
them. -/
def extendTail (more : List Char) :
    List Char × Option (List Char) × Option (List Char) →
      List Char × Option (List Char) × Option (List Char)
  | (path, query, some fragment) => (path, query, some (fragment ++ more))
  | (path, some query, none) => (path, some (query ++ more), none)
  | (path, none, none) => (path ++ more, none, none)

theorem splitTail_append {more : List Char} (unhashed : '#' ∉ more)
    (unasked : '?' ∉ more) (tail : List Char) :
    splitTail (tail ++ more) = extendTail more (splitTail tail) := by
  unfold splitTail
  rw [splitFirst?_append unhashed]
  cases splitFirst? '#' tail with
  | none =>
      simp only [Option.map_none, splitFirst?_append unasked]
      cases splitFirst? '?' tail with
      | none => rfl
      | some parts => rfl
  | some parts =>
      obtain ⟨front, fragment⟩ := parts
      simp only [Option.map_some]
      cases splitFirst? '?' front with
      | none => rfl
      | some parts => rfl

/-- Whether a tail has a query, and whether it has a fragment. -/
def marks (tail : List Char) : Bool × Bool :=
  ((splitTail tail).2.1.isSome, (splitTail tail).2.2.isSome)

theorem marks_append {more : List Char} (unhashed : '#' ∉ more)
    (unasked : '?' ∉ more) (tail : List Char) :
    marks (tail ++ more) = marks tail := by
  unfold marks
  rw [splitTail_append unhashed unasked]
  rcases splitTail tail with ⟨path, _ | query, _ | fragment⟩ <;> rfl

/-! ### Plain names -/

theorem toNat_lt_of_isAlphanumericAscii {character : Char}
    (inName : isAlphanumericAscii character = true) :
    character.toNat < 0x80 := by
  have code : character.val.toNat = character.toNat := rfl
  simp only [isAlphanumericAscii, isAlphaAscii, isLowerAscii, isDigitAscii,
    Char.le_def, UInt32.le_iff_toNat_le, Bool.or_eq_true, Bool.and_eq_true,
    decide_eq_true_eq, code, Char.reduceVal, UInt32.reduceToNat] at inName
  omega

/-- What a name has of each of its characters: none of them is escaped anywhere,
starts a dotted segment, separates anything or is blank. -/
theorem name_readings {character : Char}
    (inName : isAlphanumericAscii character = true) :
    0x20 < character.toNat ∧ character.toNat < 0x7F ∧
      isPathEscaped character = false ∧
      lowerAscii character ≠ '.' ∧ lowerAscii character ≠ '%' ∧
      character ≠ '/' ∧ character ≠ '\\' := by
  have ascii := toNat_lt_of_isAlphanumericAscii inName
  revert inName
  exact Utf8.of_codes (by decide) ascii

variable {inClass : Char → Bool}

theorem escape_append (first second : List Char) :
    escape inClass (first ++ second) =
      escape inClass first ++ escape inClass second :=
  List.flatMap_append

theorem escape_of_plain {text : List Char}
    (plain : ∀ character ∈ text, 0x20 < character.toNat ∧
      character.toNat < 0x7F ∧ inClass character = false) :
    escape inClass text = text := by
  induction text with
  | nil => rfl
  | cons character rest ih =>
      rw [List.forall_mem_cons] at plain
      obtain ⟨⟨low, high, outside⟩, others⟩ := plain
      have kept : ¬ (character.toNat ≤ 0x1F ∨ 0x7F ≤ character.toNat) := by
        omega
      have alone : escape inClass [character] = [character] := by
        simp [escape, outside, not_or.mp kept]
      rw [← List.singleton_append, escape_append, alone, ih others]

/-! ### Segments -/

theorem takeSegments_of_undotted {segments : List (List Char)}
    (undotted : ∀ segment ∈ segments,
      isSingleDot segment = false ∧ isDoubleDot segment = false)
    (done : List (List Char)) :
    takeSegments done segments = done ++ segments := by
  induction segments generalizing done with
  | nil => simp [takeSegments]
  | cons segment segments ih =>
      rw [List.forall_mem_cons] at undotted
      obtain ⟨⟨single, double⟩, others⟩ := undotted
      cases segments with
      | nil => simp [takeSegments, single, double]
      | cons next rest =>
          have taken := ih others (done ++ [segment])
          simp only [takeSegments, single, double, Bool.false_eq_true, if_false,
            taken, List.append_assoc, List.singleton_append]

/-- What stands before segments without dots takes none of them back. -/
theorem exists_takeSegments_append {segments : List (List Char)}
    (undotted : ∀ segment ∈ segments,
      isSingleDot segment = false ∧ isDoubleDot segment = false)
    (someSegment : segments ≠ []) (done before : List (List Char)) :
    ∃ kept, takeSegments done (before ++ segments) = kept ++ segments := by
  induction before generalizing done with
  | nil => exact ⟨done, takeSegments_of_undotted undotted done⟩
  | cons segment before ih =>
      obtain ⟨next, rest, isNext⟩ := List.exists_cons_of_ne_nil
        (List.append_ne_nil_of_right_ne_nil before someSegment)
      rw [isNext] at ih
      rw [List.cons_append, isNext]
      unfold takeSegments
      split
      · exact ih _
      · split
        · exact ih _
        · exact ih _

/-- Names behind slashes. -/
def slashed (names : List (List Char)) : List Char :=
  names.flatMap ('/' :: ·)

variable {names : List (List Char)}

theorem undotted_of_name {name : List Char}
    (plain : ∀ character ∈ name, isAlphanumericAscii character = true) :
    isSingleDot name = false ∧ isDoubleDot name = false := by
  cases name with
  | nil => decide
  | cons first rest =>
      obtain ⟨-, -, -, noDot, noSign, -⟩ :=
        name_readings (plain first (by simp))
      simp [isSingleDot, isDoubleDot, ← String.toList_inj, noDot, noSign]

theorem splitAll_slashed {special : Bool} {name : List Char}
    (plain : ∀ word ∈ name :: names, ∀ character ∈ word,
      isAlphanumericAscii character = true) :
    splitAll (isSlash special) (name ++ slashed names) = name :: names := by
  have whole {word : List Char}
      (inWord : ∀ character ∈ word, isAlphanumericAscii character = true) :
      splitAll (isSlash special) word = [word] := by
    refine splitAll_of_plain fun character member => ?_
    obtain ⟨-, -, -, -, -, noSlash, noBackslash⟩ :=
      name_readings (inWord character member)
    simp [isSlash, noSlash, noBackslash]
  induction names generalizing name with
  | nil => simpa [slashed] using whole (plain name (by simp))
  | cons next names ih =>
      rw [List.forall_mem_cons] at plain
      have separates : isSlash special '/' = true := by simp [isSlash]
      change splitAll _ (name ++ '/' :: (next ++ slashed names)) = _
      rw [splitAll_append_separator separates, whole plain.1, ih plain.2]
      rfl

/-- What names behind slashes have of each character: none of them is blank or
escaped behind a path, and none splits a tail. -/
theorem slashed_readings
    (plain : ∀ name ∈ names, ∀ character ∈ name,
      isAlphanumericAscii character = true)
    {character : Char} (member : character ∈ slashed names) :
    0x20 < character.toNat ∧ character.toNat < 0x7F ∧
      isQueryEscaped true character = false ∧
      isFragmentEscaped character = false ∧
      character ≠ '#' ∧ character ≠ '?' := by
  obtain ⟨name, isName, held⟩ := List.mem_flatMap.mp member
  have kind : isAlphanumericAscii character = true ∨ character = '/' := by
    rcases List.mem_cons.mp held with slash | inName
    · exact .inr slash
    · exact .inl (plain name isName character inName)
  have ascii : character.toNat < 0x80 := by
    rcases kind with inName | rfl
    · exact toNat_lt_of_isAlphanumericAscii inName
    · decide
  revert kind
  exact Utf8.of_codes (by decide) ascii

/-- Names behind a path end the path that is read. -/
theorem slashed_suffix_pathText {special : Bool}
    (plain : ∀ name ∈ names, ∀ character ∈ name,
      isAlphanumericAscii character = true)
    (someName : names ≠ []) (text : List Char) :
    slashed names <:+ pathText special (text ++ slashed names) := by
  obtain ⟨name, rest, rfl⟩ := List.exists_cons_of_ne_nil someName
  have undotted : ∀ segment ∈ name :: rest,
      isSingleDot segment = false ∧ isDoubleDot segment = false :=
    fun segment member => undotted_of_name (plain segment member)
  have kept : ∀ segment ∈ name :: rest,
      '/' :: escape isPathEscaped segment = '/' :: segment := by
    intro segment member
    rw [escape_of_plain fun character held => ?_]
    obtain ⟨low, high, outside, -⟩ :=
      name_readings (plain segment member character held)
    exact ⟨low, high, outside⟩
  have written (before : List (List Char)) :
      slashed (name :: rest) <:+
        (before ++ (name :: rest)).flatMap fun segment =>
        '/' :: escape isPathEscaped segment := by
    rw [List.flatMap_append, List.flatMap_congr kept]
    exact List.suffix_append _ _
  have separates : isSlash special '/' = true := by simp [isSlash]
  cases text with
  | nil =>
      have taken := takeSegments_of_undotted undotted []
      change _ <:+ pathText special ('/' :: (name ++ slashed rest))
      simp only [pathText, separates, if_true, splitAll_slashed plain, taken]
      exact written []
  | cons first text =>
      have taken (body : List Char) :
          ∃ before, takeSegments [] (splitAll (isSlash special)
            (body ++ slashed (name :: rest))) = before ++ (name :: rest) := by
        change ∃ before, takeSegments [] (splitAll (isSlash special)
          (body ++ '/' :: (name ++ slashed rest))) = _
        rw [splitAll_append_separator separates, splitAll_slashed plain]
        exact exists_takeSegments_append undotted someName [] _
      -- a slash in front of the path ends none of its segments
      by_cases lead : isSlash special first = true
      · obtain ⟨before, segments⟩ := taken text
        simp only [List.cons_append, pathText, lead, if_true, segments]
        exact written before
      · obtain ⟨before, segments⟩ := taken (first :: text)
        rw [List.cons_append] at segments
        simp only [List.cons_append, pathText, lead, Bool.false_eq_true,
          if_false, segments]
        exact written before

end Gatekeeper.Url
