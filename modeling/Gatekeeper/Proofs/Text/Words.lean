import Gatekeeper.Text.Blank
import Mathlib.Data.List.Basic
import Mathlib.Data.List.TakeWhile

/-!
# Words

The words of a text are what stands between its separators. No word crosses a
separator, and separators before, between and behind the words are all that the
words leave out.
-/

namespace Gatekeeper.Text

theorem of_dropWhile_eq_cons {inClass : Char → Bool}
    {text rest : List Char} {first : Char}
    (dropped : text.dropWhile inClass = first :: rest) :
    inClass first = false := by
  have outside := List.head?_dropWhile_not inClass text
  rw [dropped] at outside
  exact outside

/-- What is dropped from the end of a text, behind what is left. -/
theorem dropTrailing_append_reverse (inClass : Char → Bool)
    (text : List Char) :
    dropTrailing inClass text ++ (text.reverse.takeWhile inClass).reverse =
      text := by
  rw [dropTrailing, ← List.reverse_append, List.takeWhile_append_dropWhile,
    List.reverse_reverse]

/-- What is dropped from the end of a text are characters of the class. -/
theorem exists_trailing (inClass : Char → Bool) (text : List Char) :
    ∃ trailing, (∀ character ∈ trailing, inClass character = true) ∧
      dropTrailing inClass text ++ trailing = text := by
  refine ⟨_, fun character member => ?_,
    dropTrailing_append_reverse inClass text⟩
  exact List.mem_takeWhile_imp (List.mem_reverse.mp member)

theorem dropTrailing_of_last {inClass : Char → Bool} {text : List Char}
    (outside : ∀ last, text.getLast? = some last → inClass last = false) :
    dropTrailing inClass text = text := by
  cases reversed : text.reverse with
  | nil => rw [dropTrailing, reversed, List.reverse_eq_nil_iff.mp reversed]; rfl
  | cons last rest =>
      have whole : text = rest.reverse ++ [last] := by
        rw [← List.reverse_reverse text, reversed, List.reverse_cons]
      have isOutside := outside last (by rw [whole, List.getLast?_concat])
      rw [dropTrailing, reversed, List.dropWhile_cons, isOutside,
        if_neg Bool.false_ne_true, ← reversed, List.reverse_reverse]

/-- What is left of a text does not end within what is dropped. -/
theorem of_getLast?_dropTrailing {inClass : Char → Bool} {text : List Char}
    {last : Char} (left : (dropTrailing inClass text).getLast? = some last) :
    inClass last = false := by
  have outside := List.head?_dropWhile_not inClass text.reverse
  rw [dropTrailing, List.getLast?_reverse] at left
  rw [left] at outside
  exact outside

theorem getLast?_dropWhile {inClass : Char → Bool} {text : List Char}
    (left : text.dropWhile inClass ≠ []) :
    (text.dropWhile inClass).getLast? = text.getLast? := by
  have split := List.takeWhile_append_dropWhile (p := inClass) (l := text)
  rw [← split, List.getLast?_append_of_ne_nil _ left, split]

section Stops

variable {inClass : Char → Bool} {text more : List Char}

theorem takeWhile_of_stops
    (stops : ∀ first ∈ more.head?, inClass first = false) :
    more.takeWhile inClass = [] := by
  cases more with
  | nil => rfl
  | cons first rest =>
      exact List.takeWhile_cons_of_neg (by simp [stops first rfl])

theorem dropWhile_of_stops
    (stops : ∀ first ∈ more.head?, inClass first = false) :
    more.dropWhile inClass = more := by
  cases more with
  | nil => rfl
  | cons first rest =>
      exact List.dropWhile_cons_of_neg (by simp [stops first rfl])

theorem takeWhile_append_of_stops
    (all : ∀ character ∈ text, inClass character = true)
    (stops : ∀ first ∈ more.head?, inClass first = false) :
    (text ++ more).takeWhile inClass = text := by
  rw [List.takeWhile_append_of_pos all, takeWhile_of_stops stops,
    List.append_nil]

theorem dropWhile_append_of_all_stops
    (all : ∀ character ∈ text, inClass character = true)
    (stops : ∀ first ∈ more.head?, inClass first = false) :
    (text ++ more).dropWhile inClass = more := by
  rw [List.dropWhile_append_of_pos all, dropWhile_of_stops stops]

/-- What stands behind a text that is dropped from stays behind it. -/
theorem dropWhile_append_of_stops
    (stops : ∀ first ∈ more.head?, inClass first = false) :
    (text ++ more).dropWhile inClass = text.dropWhile inClass ++ more := by
  rw [List.dropWhile_append]
  split
  · rename_i dropped
    rw [dropWhile_of_stops stops, List.isEmpty_iff.mp dropped, List.nil_append]
  · rfl

end Stops

section Filters

variable {inClass isKept : Char → Bool}
  (dropped : ∀ character, isKept character = false → inClass character = true)

include dropped

theorem filter_dropWhile (text : List Char) :
    (text.dropWhile inClass).filter isKept =
      (text.filter isKept).dropWhile inClass := by
  induction text with
  | nil => rfl
  | cons character rest ih =>
      cases kept : isKept character with
      | false =>
          rw [List.dropWhile_cons_of_pos (dropped character kept), ih,
            List.filter_cons_of_neg (by simp [kept])]
      | true =>
          rw [List.filter_cons_of_pos kept]
          cases within : inClass character with
          | true =>
              rw [List.dropWhile_cons_of_pos within,
                List.dropWhile_cons_of_pos within, ih]
          | false =>
              have outside : ¬ inClass character = true := by simp [within]
              rw [List.dropWhile_cons_of_neg outside,
                List.dropWhile_cons_of_neg outside,
                List.filter_cons_of_pos kept]

theorem filter_dropTrailing (text : List Char) :
    (dropTrailing inClass text).filter isKept =
      dropTrailing inClass (text.filter isKept) := by
  rw [dropTrailing, dropTrailing, List.filter_reverse,
    filter_dropWhile dropped, List.filter_reverse]

/-- What does not count at the ends of a text may also go out of it first. -/
theorem filter_trimBoth (text : List Char) :
    (trimBoth inClass text).filter isKept =
      trimBoth inClass (text.filter isKept) := by
  rw [trimBoth, trimBoth, filter_dropTrailing dropped,
    filter_dropWhile dropped]

end Filters

theorem splitAll_eq_splitOnP (isSeparator : Char → Bool) (text : List Char) :
    splitAll isSeparator text = text.splitOnP isSeparator := by
  induction text with
  | nil => rfl
  | cons character rest ih =>
      rw [List.splitOnP_cons_eq_if_modifyHead, splitAll, ih]
      cases parts : rest.splitOnP isSeparator with
      | nil => exact absurd parts (List.splitOnP_ne_nil _ _)
      | cons part parts => rfl

section Parts

variable {isSeparator : Char → Bool} {separator : Char} {text : List Char}

/-- No part crosses a separator. -/
theorem splitAll_append_separator (separates : isSeparator separator = true)
    (before after : List Char) :
    splitAll isSeparator (before ++ separator :: after) =
      splitAll isSeparator before ++ splitAll isSeparator after := by
  rw [splitAll_eq_splitOnP, splitAll_eq_splitOnP, splitAll_eq_splitOnP,
    List.splitOnP_append_cons before after separates]

theorem splitAll_of_plain
    (plain : ∀ character ∈ text, isSeparator character = false) :
    splitAll isSeparator text = [text] := by
  rw [splitAll_eq_splitOnP, List.splitOnP_eq_singleton plain]

theorem splitFirst?_eq_none_iff :
    splitFirst? separator text = none ↔ separator ∉ text := by
  induction text with
  | nil => simp [splitFirst?]
  | cons character rest ih =>
      by_cases same : character = separator
      · simp [splitFirst?, same]
      · simp [splitFirst?, same, ih, Ne.symm same]

/-- A text without the separator goes to what stands behind the first one. -/
theorem splitFirst?_append {more : List Char} (absent : separator ∉ more) :
    splitFirst? separator (text ++ more) =
      (splitFirst? separator text).map fun (before, after) =>
        (before, after ++ more) := by
  cases found : splitFirst? separator text with
  | none =>
      have unseparated := splitFirst?_eq_none_iff.mp found
      exact splitFirst?_eq_none_iff.mpr (by simp [unseparated, absent])
  | some parts =>
      obtain ⟨before, after⟩ := parts
      obtain ⟨rfl, first⟩ := splitFirst?_eq_some_iff.mp found
      exact splitFirst?_eq_some_iff.mpr ⟨by simp, first⟩

end Parts

section Words

variable {isSeparator : Char → Bool} {separator : Char}

/-- No word crosses a separator. -/
theorem words_append_separator (separates : isSeparator separator = true)
    (before after : List Char) :
    words isSeparator (before ++ separator :: after) =
      words isSeparator before ++ words isSeparator after := by
  unfold words
  rw [splitAll_append_separator separates, List.filter_append]

@[simp]
theorem words_nil : words isSeparator [] = [] := rfl

theorem words_cons_separator (separates : isSeparator separator = true)
    (text : List Char) :
    words isSeparator (separator :: text) = words isSeparator text := by
  simpa using words_append_separator separates [] text

/-- Separators before a text add no word. -/
theorem words_append_of_separators {separators : List Char}
    (all : ∀ character ∈ separators, isSeparator character = true)
    (text : List Char) :
    words isSeparator (separators ++ text) = words isSeparator text := by
  induction separators with
  | nil => rfl
  | cons separator rest ih =>
      rw [List.cons_append, words_cons_separator (all separator (by simp))]
      exact ih fun character member => all character (by simp [member])

/-- Nor do separators behind it. -/
theorem words_append_separators {separators : List Char}
    (all : ∀ character ∈ separators, isSeparator character = true)
    (text : List Char) :
    words isSeparator (text ++ separators) = words isSeparator text := by
  cases separators with
  | nil => rw [List.append_nil]
  | cons separator rest =>
      have unworded : words isSeparator (rest ++ []) = [] :=
        words_append_of_separators
          (fun character member => all character (by simp [member])) []
      rw [List.append_nil] at unworded
      rw [words_append_separator (all separator (by simp)), unworded,
        List.append_nil]

theorem words_of_plain {text : List Char} (nonempty : text ≠ [])
    (plain : ∀ character ∈ text, isSeparator character = false) :
    words isSeparator text = [text] := by
  unfold words
  rw [splitAll_of_plain plain]
  simp [nonempty]

theorem words_dropWhile (text : List Char) :
    words isSeparator (text.dropWhile isSeparator) =
      words isSeparator text := by
  have leading : ∀ character ∈ text.takeWhile isSeparator,
      isSeparator character = true := by
    intro character member
    exact List.mem_takeWhile_imp member
  calc
    words isSeparator (text.dropWhile isSeparator) =
        words isSeparator
          (text.takeWhile isSeparator ++ text.dropWhile isSeparator) :=
      (words_append_of_separators leading _).symm
    _ = words isSeparator text := by rw [List.takeWhile_append_dropWhile]

theorem words_dropTrailing (text : List Char) :
    words isSeparator (dropTrailing isSeparator text) =
      words isSeparator text := by
  obtain ⟨trailing, all, whole⟩ := exists_trailing isSeparator text
  calc
    words isSeparator (dropTrailing isSeparator text) =
        words isSeparator (dropTrailing isSeparator text ++ trailing) :=
      (words_append_separators all _).symm
    _ = words isSeparator text := by rw [whole]

theorem words_trimBoth (text : List Char) :
    words isSeparator (trimBoth isSeparator text) = words isSeparator text := by
  rw [trimBoth, words_dropTrailing, words_dropWhile]

/-- A text starts with a word, perhaps behind separators, and nothing follows
the word or a separator does. -/
structure StartsWithWord (isSeparator : Char → Bool)
    (text word following : List Char) : Prop where
  split : ∃ separators, text = separators ++ (word ++ following) ∧
    ∀ character ∈ separators, isSeparator character = true
  nonempty : word ≠ []
  plain : ∀ character ∈ word, isSeparator character = false
  ends : ∀ first rest, following = first :: rest → isSeparator first = true

variable {text word following : List Char}

theorem StartsWithWord.words_eq
    (starts : StartsWithWord isSeparator text word following) :
    words isSeparator text = word :: words isSeparator following := by
  obtain ⟨separators, rfl, all⟩ := starts.split
  have alone := words_of_plain starts.nonempty starts.plain
  rw [words_append_of_separators all]
  cases following with
  | nil => rw [List.append_nil, alone, words_nil]
  | cons first rest =>
      have separates := starts.ends first rest rfl
      rw [words_append_separator separates, alone,
        words_cons_separator separates]
      rfl

theorem exists_startsWithWord {first : Char} {rest : List Char}
    (left : text.dropWhile isSeparator = first :: rest) :
    ∃ word following, StartsWithWord isSeparator text word following := by
  -- the word is what stands between the first separators and the next one
  refine ⟨(first :: rest).takeWhile fun character => !isSeparator character,
    (first :: rest).dropWhile fun character => !isSeparator character,
    ⟨text.takeWhile isSeparator, ?_, ?_⟩, ?_, ?_, ?_⟩
  · rw [List.takeWhile_append_dropWhile, ← left,
      List.takeWhile_append_dropWhile]
  · intro character member
    exact List.mem_takeWhile_imp member
  · simp [of_dropWhile_eq_cons left]
  · intro character member
    simpa using List.mem_takeWhile_imp member
  · intro next others split
    simpa using of_dropWhile_eq_cons split

theorem words_eq_nil_iff :
    words isSeparator text = [] ↔
      ∀ character ∈ text, isSeparator character = true := by
  constructor
  · intro unworded
    cases left : text.dropWhile isSeparator with
    | nil => exact List.dropWhile_eq_nil_iff.mp left
    | cons first rest =>
        obtain ⟨word, following, starts⟩ := exists_startsWithWord left
        rw [starts.words_eq] at unworded
        cases unworded
  · intro separators
    have unworded := words_append_of_separators separators []
    rwa [List.append_nil, words_nil] at unworded

theorem words_eq_cons_iff {others : List (List Char)} :
    words isSeparator text = word :: others ↔
      ∃ following, StartsWithWord isSeparator text word following ∧
        words isSeparator following = others := by
  constructor
  · intro found
    cases left : text.dropWhile isSeparator with
    | nil =>
        rw [words_eq_nil_iff.mpr (List.dropWhile_eq_nil_iff.mp left)] at found
        cases found
    | cons first rest =>
        obtain ⟨held, following, starts⟩ := exists_startsWithWord left
        rw [starts.words_eq] at found
        obtain ⟨rfl, rest⟩ := List.cons.inj found
        exact ⟨following, starts, rest⟩
  · rintro ⟨following, starts, rfl⟩
    exact starts.words_eq

end Words

end Gatekeeper.Text
