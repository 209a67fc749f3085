import Gatekeeper.Proofs.Url.Paths
import Gatekeeper.Proofs.Url.Reading

/-!
# Names below a URL

Where a URL of the web leads with names written behind it, in place of the
slashes at its end. The scheme, the host and the port stay the same, and the
names end the last part that the URL has. Only where the text goes no further
than the host and a blank stands at its end, which alone does not count there,
no URL is read: with names behind it the blank belongs to the host.
-/

namespace Gatekeeper.Url

open Gatekeeper.Text

/-- A URL as it is written, with names behind it. -/
def below (written : String) (names : List (List Char)) : String :=
  String.ofList (dropTrailing (· = '/') written.toList ++ slashed names)

/-- The last part of a URL that there is. -/
def lastPart (url : Url) : String :=
  (url.fragment.or url.query).getD url.path

/-- A URL that leads where a base does, with names at its end. -/
structure Extends (names : List (List Char)) (url base : Url) : Prop where
  scheme : url.scheme = base.scheme
  host : url.host = base.host
  port : url.port = base.port
  query : url.query.isSome = base.query.isSome
  fragment : url.fragment.isSome = base.fragment.isSome
  ends : slashed names <:+ url.lastPart.toList

/-- The last character that counts within the text of a URL is a blank. -/
def EndsInBlank (text : List Char) : Prop :=
  ∃ blank, (counted text).getLast? = some blank ∧ isBlankEnd blank = true

/-- The text of a URL goes no further than the host, and it ends in a blank. -/
structure EndsInBlankHost (text : List Char) : Prop where
  blank : EndsInBlank text
  bare : ∀ scheme rest, splitScheme? (cleaned text) = some (scheme, rest) →
    ∀ character ∈ rest.dropWhile (isSlash true),
      endsAuthority true character = false

/-! ### Names behind a tail -/

variable {names : List (List Char)}

theorem suffix_escape {inClass : Char → Bool} {more : List Char}
    (plain : ∀ character ∈ more, 0x20 < character.toNat ∧
      character.toNat < 0x7F ∧ inClass character = false)
    (text : List Char) : more <:+ escape inClass (text ++ more) := by
  rw [escape_append, escape_of_plain plain]
  exact List.suffix_append _ _

theorem marks_webUrl (scheme : String) (tail : List Char)
    (named : Option Host × Option Nat) :
    ((webUrl scheme tail named).query.isSome,
      (webUrl scheme tail named).fragment.isSome) = marks tail := by
  unfold webUrl marks
  rcases splitTail tail with ⟨path, query, fragment⟩
  simp only [build, Option.isSome_map]

section Names

variable (plain : ∀ name ∈ names, ∀ character ∈ name,
    isAlphanumericAscii character = true)

include plain

theorem unmarked_of_names : '#' ∉ slashed names ∧ '?' ∉ slashed names := by
  refine ⟨fun member => ?_, fun member => ?_⟩
  · exact (slashed_readings plain member).2.2.2.2.1 rfl
  · exact (slashed_readings plain member).2.2.2.2.2 rfl

variable {scheme : String} (web : IsWebScheme scheme) (someName : names ≠ [])

include web someName

/-- Names are behind the fragment, or else the query, or else the path. -/
theorem suffix_lastPart (tail : List Char) (named : Option Host × Option Nat) :
    slashed names <:+
      (webUrl scheme (tail ++ slashed names) named).lastPart.toList := by
  obtain ⟨unhashed, unasked⟩ := unmarked_of_names plain
  unfold webUrl
  rw [splitTail_append unhashed unasked]
  rcases splitTail tail with ⟨path, query, _ | fragment⟩
  · cases query with
    | none =>
        simp only [lastPart, extendTail, build, Option.map_none, Option.none_or,
          Option.getD_none, String.toList_ofList]
        exact slashed_suffix_pathText plain someName path
    | some query =>
        simp only [lastPart, extendTail, build, Option.map_none, Option.none_or,
          Option.map_some, Option.getD_some, String.toList_ofList,
          web.isSpecial.1]
        refine suffix_escape (fun character member => ?_) query
        obtain ⟨low, high, outside, -⟩ := slashed_readings plain member
        exact ⟨low, high, outside⟩
  · simp only [lastPart, extendTail, build, Option.map_some, Option.some_or,
      Option.getD_some, String.toList_ofList]
    refine suffix_escape (fun character member => ?_) fragment
    obtain ⟨low, high, -, outside, -⟩ := slashed_readings plain member
    exact ⟨low, high, outside⟩

/-- A URL extends another one with the same parts in its tail. -/
theorem extends_of_marks {tail kept : List Char}
    (same : marks kept = marks tail) (named : Option Host × Option Nat) :
    Extends names (webUrl scheme (kept ++ slashed names) named)
      (webUrl scheme tail named) := by
  obtain ⟨unhashed, unasked⟩ := unmarked_of_names plain
  have marked : marks (kept ++ slashed names) = marks tail := by
    rw [marks_append unhashed unasked, same]
  rw [← marks_webUrl scheme _ named, ← marks_webUrl scheme tail named] at marked
  obtain ⟨query, fragment⟩ := Prod.mk.inj marked
  exact ⟨rfl, rfl, rfl, query, fragment,
    suffix_lastPart plain web someName kept named⟩

end Names

/-! ### The end of a text -/

variable {text : List Char}

/-- What is read of a text that more is written behind, once the slashes at its
end are dropped. -/
def carrier (text : List Char) : List Char :=
  (counted (dropTrailing (· = '/') text)).dropWhile isBlankEnd

/-- A text that ends in slashes is read with them and in full. -/
theorem cleaned_of_slashes {slashes : List Char}
    (slashed : ∀ character ∈ slashes, character = '/')
    (someSlash : slashes ≠ [])
    (whole : dropTrailing (· = '/') text ++ slashes = text) :
    cleaned text = carrier text ++ slashes ∧ ¬ EndsInBlank text := by
  have visible : ∀ character ∈ slashes, isBlankEnd character = false := by
    intro character member
    rw [slashed character member]
    decide
  have isCleaned : cleaned (dropTrailing (· = '/') text ++ slashes) =
      carrier text ++ slashes := cleaned_append visible someSlash
  rw [whole] at isCleaned
  refine ⟨isCleaned, ?_⟩
  rintro ⟨last, isLast, isBlank⟩
  rw [← whole, counted_append, counted_of_visible visible,
    List.getLast?_append_of_ne_nil _ someSlash] at isLast
  rw [visible last (List.mem_of_getLast? isLast)] at isBlank
  cases isBlank

/-- A text that ends in no slash is read without the blanks at its end. -/
theorem exists_blanks (whole : dropTrailing (· = '/') text = text)
    (someText : cleaned text ≠ []) :
    ∃ blanks, (∀ character ∈ blanks, isBlankEnd character = true) ∧
      carrier text = cleaned text ++ blanks ∧
      (EndsInBlank text ↔ blanks ≠ []) := by
  obtain ⟨blanks, blank, trimmed⟩ := exists_trailing isBlankEnd
    ((counted text).dropWhile isBlankEnd)
  rw [← trimBoth, ← cleaned_eq_trimBoth] at trimmed
  have isCarrier : carrier text = cleaned text ++ blanks := by
    rw [carrier, whole, trimmed]
  have sameLast :
      (cleaned text ++ blanks).getLast? = (counted text).getLast? := by
    rw [trimmed]
    refine getLast?_dropWhile ?_
    rw [← trimmed]
    exact List.append_ne_nil_of_left_ne_nil someText _
  refine ⟨blanks, blank, isCarrier, ?_⟩
  unfold EndsInBlank
  rw [← sameLast]
  constructor
  · rintro ⟨last, isLast, isBlank⟩ rfl
    rw [List.append_nil, cleaned_eq_trimBoth] at isLast
    rw [of_getLast?_dropTrailing isLast] at isBlank
    cases isBlank
  · intro someBlank
    rw [List.getLast?_append_of_ne_nil _ someBlank]
    exact ⟨_, List.getLast?_eq_some_getLast someBlank,
      blank _ (List.getLast_mem someBlank)⟩

theorem blank_endings {character : Char}
    (isBlank : isBlankEnd character = true) :
    endsAuthority true character = false ∧ character ≠ '#' ∧
      character ≠ '?' :=
  Utf8.of_codes (by decide) (toNat_lt_of_blank isBlank)

variable {scheme : String} {front location tail : List Char}

/-- The slashes at the end of a URL of the web are slashes of its tail. -/
theorem WebFront.exists_kept (isFront : WebFront scheme front location)
    {slashes opened : List Char}
    (slashed : ∀ character ∈ slashes, character = '/')
    (split : front ++ (location ++ tail) = opened ++ slashes) :
    ∃ kept, opened = front ++ (location ++ kept) ∧ tail = kept ++ slashes := by
  rw [← List.append_assoc, List.append_eq_append_iff] at split
  rcases split with ⟨kept, isOpened, isTail⟩ | ⟨excess, isFrontText, isSlashes⟩
  · exact ⟨kept, by rw [isOpened, List.append_assoc], isTail⟩
  · by_cases goesOn : excess = []
    · subst goesOn
      refine ⟨[], ?_, isSlashes.symm⟩
      rw [List.append_nil, isFrontText, List.append_nil]
    · -- such a slash would be a character of the host
      have sameLast := congrArg List.getLast? isFrontText
      rw [List.getLast?_append_of_ne_nil _ isFront.named,
        List.getLast?_append_of_ne_nil _ goesOn,
        List.getLast?_eq_some_getLast goesOn] at sameLast
      have outside := isFront.inner _ (List.mem_of_getLast? sameLast)
      have inSlashes : excess.getLast goesOn ∈ slashes := by
        rw [isSlashes]
        exact List.mem_append_left _ (List.getLast_mem goesOn)
      rw [slashed _ inSlashes] at outside
      cases outside

theorem IsTail.append {first second : List Char} (isFirst : IsTail first)
    (isSecond : IsTail second) : IsTail (first ++ second) := by
  cases first with
  | nil => exact isSecond
  | cons character rest => exact isFirst

theorem IsTail.of_append {first second : List Char}
    (isTail : IsTail (first ++ second)) : IsTail first := by
  cases first with
  | nil => rintro _ ⟨⟩
  | cons character rest => exact isTail

/-- A text goes no further than the host when it has no tail. -/
theorem WebFront.endsInBlankHost_iff
    (isFront : WebFront scheme front location) (isTail : IsTail tail)
    (split : cleaned text = front ++ (location ++ tail)) :
    EndsInBlankHost text ↔ tail = [] ∧ EndsInBlank text := by
  obtain ⟨rest, found, behind⟩ := isFront.splitScheme? tail
  rw [← split] at found
  constructor
  · intro ends
    refine ⟨?_, ends.blank⟩
    have bare := ends.bare scheme rest found
    rw [behind] at bare
    cases tail with
    | nil => rfl
    | cons first others =>
        have inside := bare first (by simp)
        rw [isTail first rfl] at inside
        cases inside
  · rintro ⟨rfl, blank⟩
    refine ⟨blank, fun otherScheme otherRest other => ?_⟩
    rw [found] at other
    obtain ⟨rfl, rfl⟩ := Prod.mk.inj (Option.some.inj other)
    rw [behind, List.append_nil]
    exact isFront.inner

/-! ### Names behind a URL -/

section Names

variable (plain : ∀ name ∈ names, ∀ character ∈ name,
    isAlphanumericAscii character = true) (someName : names ≠ [])

include plain someName

theorem cleaned_below (written : String) :
    cleaned (below written names).toList =
      carrier written.toList ++ slashed names := by
  have visible : ∀ character ∈ slashed names,
      isBlankEnd character = false := by
    intro character member
    have above := (slashed_readings plain member).1
    simp only [isBlankEnd, decide_eq_false_iff_not]
    omega
  obtain ⟨name, rest, rfl⟩ := List.exists_cons_of_ne_nil someName
  rw [below, String.toList_ofList]
  exact cleaned_append visible (by simp [slashed])

omit plain in
theorem isTail_slashed : IsTail (slashed names) := by
  obtain ⟨name, rest, rfl⟩ := List.exists_cons_of_ne_nil someName
  rintro _ ⟨⟩
  decide

/-- Behind a tail, names extend the URL. -/
theorem WebFront.exists_extends (isFront : WebFront scheme front location)
    {named : Option Host × Option Nat}
    (isNamed : authority? scheme location = some named) {written : String}
    {kept : List Char}
    (isTail : IsTail kept) (same : marks kept = marks tail)
    (isCarrier : carrier written.toList = front ++ (location ++ kept)) :
    ∃ url, Url.read? (below written names) = some url ∧
      url.Extends names (webUrl scheme tail named) := by
  have isWritten : cleaned (below written names).toList =
      front ++ (location ++ (kept ++ slashed names)) := by
    rw [cleaned_below plain someName, isCarrier]
    simp only [List.append_assoc]
  refine ⟨webUrl scheme (kept ++ slashed names) named, ?_,
    extends_of_marks plain isFront.web someName same named⟩
  rw [isFront.read? (isTail.append (isTail_slashed someName)) isWritten,
    isNamed, Option.map_some]

/-- Behind a blank that a host ends in, names leave no URL. -/
theorem WebFront.read?_of_blanks (isFront : WebFront scheme front location)
    {written : String} {blanks : List Char}
    (blank : ∀ character ∈ blanks, isBlankEnd character = true)
    (someBlank : blanks ≠ [])
    (isCarrier : carrier written.toList = front ++ (location ++ blanks)) :
    Url.read? (below written names) = none := by
  have longer : WebFront scheme front (location ++ blanks) := by
    refine ⟨isFront.web, isFront.opens,
      List.append_ne_nil_of_left_ne_nil isFront.named _, ?_⟩
    intro character member
    rcases List.mem_append.mp member with inHost | inBlanks
    · exact isFront.inner character inHost
    · exact (blank_endings (blank character inBlanks)).1
  have isWritten : cleaned (below written names).toList =
      front ++ ((location ++ blanks) ++ slashed names) := by
    rw [cleaned_below plain someName, isCarrier]
    simp only [List.append_assoc]
  have last :
      (location ++ blanks).getLast? = some (blanks.getLast someBlank) := by
    rw [List.getLast?_append_of_ne_nil _ someBlank,
      List.getLast?_eq_some_getLast someBlank]
  rw [longer.read? (isTail_slashed someName) isWritten,
    authority?_of_blank isFront.web.isSpecial.1
      (blank _ (List.getLast_mem someBlank)) last, Option.map_none]

/-- Names below a URL of the web leave no URL where its text ends in a blank
host, and extend it everywhere else. -/
theorem read?_below {written : String} {base : Url}
    (read : Url.read? written = some base) (web : IsWebScheme base.scheme) :
    EndsInBlankHost written.toList ∧ Url.read? (below written names) = none ∨
      ¬ EndsInBlankHost written.toList ∧
        ∃ url, Url.read? (below written names) = some url ∧
          url.Extends names base := by
  obtain ⟨front, location, tail, named, isFront, isTail, isText, isNamed,
    isBase⟩ := exists_webFront read web
  have someText : cleaned written.toList ≠ [] := by
    rw [isText]
    exact List.append_ne_nil_of_right_ne_nil _
      (List.append_ne_nil_of_left_ne_nil isFront.named _)
  rw [isFront.endsInBlankHost_iff isTail isText, isBase]
  obtain ⟨slashes, slashed, whole⟩ :=
    exists_trailing (· = '/') written.toList
  simp only [decide_eq_true_eq] at slashed
  by_cases someSlash : slashes = []
  · rw [someSlash, List.append_nil] at whole
    obtain ⟨blanks, blank, isCarrier, ends⟩ := exists_blanks whole someText
    rw [isText, List.append_assoc, List.append_assoc] at isCarrier
    rw [ends]
    by_cases inHost : tail = [] ∧ blanks ≠ []
    · obtain ⟨rfl, someBlank⟩ := inHost
      exact .inl ⟨⟨rfl, someBlank⟩,
        isFront.read?_of_blanks plain someName blank someBlank isCarrier⟩
    · -- the blanks belong to the tail, or there are none
      have isKept : IsTail (tail ++ blanks) := by
        cases tail with
        | nil =>
            have noBlank : blanks = [] :=
              Decidable.not_not.mp fun some => inHost ⟨rfl, some⟩
            rw [noBlank]
            exact isTail
        | cons first rest => exact isTail
      have same : marks (tail ++ blanks) = marks tail :=
        marks_append
          (fun member => (blank_endings (blank _ member)).2.1 rfl)
          (fun member => (blank_endings (blank _ member)).2.2 rfl) tail
      exact .inr ⟨inHost, isFront.exists_extends plain someName isNamed isKept
        same isCarrier⟩
  · -- the slashes that are dropped are the last ones of the tail
    obtain ⟨split, noBlank⟩ := cleaned_of_slashes slashed someSlash whole
    rw [isText] at split
    obtain ⟨kept, isCarrier, rfl⟩ := isFront.exists_kept slashed split
    have same : marks kept = marks (kept ++ slashes) := by
      refine (marks_append ?_ ?_ kept).symm <;> intro member <;>
        exact absurd (slashed _ member) (by decide)
    exact .inr ⟨fun ends => noBlank ends.2, isFront.exists_extends plain
      someName isNamed isTail.of_append same isCarrier⟩

end Names

end Gatekeeper.Url
