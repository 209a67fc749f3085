import Gatekeeper.Proofs.Text.Words
import Gatekeeper.Proofs.Url.Hosts

/-!
# URLs of the web

What a URL with a scheme of the web is read from. Tabs and line ends do not
count, and blanks at the ends do not. Of what is left, a scheme with its colon
and any number of slashes open the URL; then stands the text of a host and a
port, and behind it a tail with the path, the query and the fragment.
-/

namespace Gatekeeper.Url

open Gatekeeper.Text

/-! ### What counts of a text -/

/-- The characters of a URL that count within it. -/
def counted (text : List Char) : List Char :=
  text.filter fun character =>
    character ≠ '\t' && character ≠ '\n' && character ≠ '\r'

/-- What does not count within a URL is blank. -/
theorem counts_of_visible {character : Char}
    (visible : isBlankEnd character = false) :
    character ≠ '\t' ∧ character ≠ '\n' ∧ character ≠ '\r' := by
  refine ⟨?_, ?_, ?_⟩ <;> rintro rfl <;> exact absurd visible (by decide)

theorem cleaned_eq_trimBoth (text : List Char) :
    cleaned text = trimBoth isBlankEnd (counted text) := by
  have blank : ∀ character : Char,
      (character ≠ '\t' && character ≠ '\n' && character ≠ '\r') = false →
        isBlankEnd character = true := by
    intro character uncounted
    by_contra visible
    have counts := counts_of_visible (Bool.not_eq_true _ ▸ visible)
    simp [counts] at uncounted
  exact filter_trimBoth blank text

theorem counted_append (first second : List Char) :
    counted (first ++ second) = counted first ++ counted second :=
  List.filter_append ..

theorem counted_of_visible {text : List Char}
    (visible : ∀ character ∈ text, isBlankEnd character = false) :
    counted text = text := by
  refine List.filter_eq_self.mpr fun character member => ?_
  simp [counts_of_visible (visible character member)]

variable {text more : List Char}

/-- Where visible characters stand behind a text, nothing of its end is
trimmed. -/
theorem cleaned_append
    (visible : ∀ character ∈ more, isBlankEnd character = false)
    (someMore : more ≠ []) :
    cleaned (text ++ more) = (counted text).dropWhile isBlankEnd ++ more := by
  have stops : ∀ first ∈ more.head?, isBlankEnd first = false :=
    fun first head => visible first (List.mem_of_head? head)
  rw [cleaned_eq_trimBoth, trimBoth, counted_append,
    counted_of_visible visible, dropWhile_append_of_stops stops]
  refine dropTrailing_of_last fun last isLast => visible last ?_
  rw [List.getLast?_append_of_ne_nil _ someMore] at isLast
  exact List.mem_of_getLast? isLast

/-! ### Schemes -/

def IsWebScheme (scheme : String) : Prop :=
  scheme = "http" ∨ scheme = "https"

theorem IsWebScheme.isSpecial {scheme : String} (web : IsWebScheme scheme) :
    isSpecial scheme = true ∧ scheme ≠ "file" := by
  rcases web with rfl | rfl <;> decide

/-- A text that spells a scheme. -/
structure SpellsScheme (scheme : String) (letters : List Char) : Prop where
  starts : ∃ first ∈ letters.head?, isAlphaAscii first = true
  inner : ∀ character ∈ letters, isSchemeCharacter character = true
  folded : scheme = String.ofList (letters.map lowerAscii)

theorem splitScheme?_eq_some_iff {scheme : String} {rest : List Char} :
    splitScheme? text = some (scheme, rest) ↔
      ∃ letters, SpellsScheme scheme letters ∧
        text = letters ++ ':' :: rest := by
  constructor
  · intro found
    cases text with
    | nil => cases found
    | cons first others =>
        cases alpha : isAlphaAscii first with
        | false => simp [splitScheme?, alpha] at found
        | true =>
            simp only [splitScheme?, alpha, Bool.not_true, Bool.false_eq_true,
              if_false] at found
            have begins : isSchemeCharacter first = true := by
              simp [isSchemeCharacter, isAlphanumericAscii, alpha]
            split at found
            · rename_i behind dropped
              obtain ⟨rfl, rfl⟩ := Prod.mk.inj (Option.some.inj found)
              refine ⟨(first :: others).takeWhile isSchemeCharacter,
                ⟨⟨first, ?_, alpha⟩,
                  fun _ member => List.mem_takeWhile_imp member, rfl⟩, ?_⟩
              · rw [List.takeWhile_cons_of_pos begins]
                rfl
              · rw [← dropped, List.takeWhile_append_dropWhile]
            · cases found
  · rintro ⟨letters, spells, rfl⟩
    obtain ⟨first, head, alpha⟩ := spells.starts
    have stops : ∀ next ∈ (':' :: rest).head?,
        isSchemeCharacter next = false := by
      rintro _ ⟨⟩
      decide
    have taken := takeWhile_append_of_stops spells.inner stops
    have dropped := dropWhile_append_of_all_stops spells.inner stops
    cases letters with
    | nil => cases head
    | cons next letters =>
        obtain rfl := Option.some.inj head
        unfold splitScheme?
        rw [List.cons_append] at taken dropped ⊢
        simp only [alpha, taken, dropped, spells.folded]
        rfl

/-! ### Hosts and tails -/

/-- The part of a URL of the web in front of its tail: the scheme with its colon
and slashes behind it, and then a text that names a host. -/
structure WebFront (scheme : String) (front location : List Char) : Prop where
  web : IsWebScheme scheme
  opens : ∃ letters slashes, SpellsScheme scheme letters ∧
    (∀ character ∈ slashes, isSlash true character = true) ∧
    front = letters ++ ':' :: slashes
  named : location ≠ []
  inner : ∀ character ∈ location, endsAuthority true character = false

/-- The part of a URL of the web behind its host and port. -/
def IsTail (tail : List Char) : Prop :=
  ∀ first ∈ tail.head?, endsAuthority true first = true

/-- The URL of a host and a port with a tail behind them. -/
def webUrl (scheme : String) (tail : List Char)
    (named : Option Host × Option Nat) : Url :=
  let (path, query, fragment) := splitTail tail
  build scheme named.1 named.2 (pathText true path) query fragment

variable {scheme : String} {front location tail : List Char}

theorem endsAuthority_of_isSlash {character : Char}
    (isSlashed : isSlash true character = true) :
    endsAuthority true character = true := by
  simp only [isSlash, endsAuthority, Bool.or_eq_true] at isSlashed ⊢
  rcases isSlashed with slash | backslash
  · exact .inl (.inl (.inl slash))
  · exact .inr backslash

theorem WebFront.splitScheme? (isFront : WebFront scheme front location)
    (tail : List Char) :
    ∃ rest, Url.splitScheme? (front ++ (location ++ tail)) =
        some (scheme, rest) ∧
      rest.dropWhile (isSlash true) = location ++ tail := by
  obtain ⟨letters, slashes, spells, slashed, rfl⟩ := isFront.opens
  refine ⟨slashes ++ (location ++ tail),
    splitScheme?_eq_some_iff.mpr ⟨letters, spells, by simp⟩,
    dropWhile_append_of_all_stops slashed fun first head => ?_⟩
  have isFirst : first ∈ location := by
    rw [List.head?_append_of_ne_nil _ isFront.named] at head
    exact List.mem_of_mem_head? head
  by_contra isSlashed
  have ends := endsAuthority_of_isSlash (Bool.not_eq_false _ ▸ isSlashed)
  rw [isFront.inner first isFirst] at ends
  cases ends

/-- The host of a URL of the web stops where its tail starts. -/
theorem WebFront.takeWhile (isFront : WebFront scheme front location)
    (isTail : IsTail tail) :
    (location ++ tail).takeWhile (!endsAuthority true ·) = location ∧
      (location ++ tail).dropWhile (!endsAuthority true ·) = tail := by
  have inner : ∀ character ∈ location,
      (!endsAuthority true character) = true := by
    intro character member
    rw [isFront.inner character member]
    rfl
  have stops : ∀ first ∈ tail.head?, (!endsAuthority true first) = false := by
    intro first head
    rw [isTail first head]
    rfl
  exact ⟨takeWhile_append_of_stops inner stops,
    dropWhile_append_of_all_stops inner stops⟩

theorem readAuthority?_of_isSpecial (special : isSpecial scheme = true)
    (text : List Char) :
    readAuthority? scheme text =
      (authority? scheme (text.takeWhile (!endsAuthority true ·))).map
        (webUrl scheme (text.dropWhile (!endsAuthority true ·))) := by
  simp only [readAuthority?, special]
  rfl

theorem read?_of_isWebScheme {written : String} {rest : List Char}
    (web : IsWebScheme scheme)
    (found : Url.splitScheme? (cleaned written.toList) = some (scheme, rest)) :
    read? written = readAuthority? scheme (rest.dropWhile (isSlash true)) := by
  obtain ⟨special, noFile⟩ := web.isSpecial
  simp only [read?, found, Option.bind_some, if_neg noFile, special, if_true]

/-- What is read of a URL of the web. -/
theorem WebFront.read? {written : String}
    (isFront : WebFront scheme front location) (isTail : IsTail tail)
    (isWritten : cleaned written.toList = front ++ (location ++ tail)) :
    Url.read? written =
      (authority? scheme location).map (webUrl scheme tail) := by
  obtain ⟨rest, found, behind⟩ := isFront.splitScheme? tail
  obtain ⟨taken, dropped⟩ := isFront.takeWhile isTail
  rw [← isWritten] at found
  rw [read?_of_isWebScheme isFront.web found, behind,
    readAuthority?_of_isSpecial isFront.web.isSpecial.1, taken, dropped]

theorem readAuthority?_scheme {text : List Char} {url : Url}
    (read : readAuthority? scheme text = some url) : url.scheme = scheme := by
  obtain ⟨_, -, rfl⟩ := Option.map_eq_some_iff.mp read
  rfl

theorem readFile?_scheme {text : List Char} {url : Url}
    (read : readFile? text = some url) : url.scheme = "file" := by
  unfold readFile? at read
  split at read
  · split at read
    · dsimp only at read
      split at read
      · exact Option.some.inj read ▸ rfl
      · obtain ⟨_, -, rfl⟩ := Option.map_eq_some_iff.mp read
        rfl
    · exact Option.some.inj read ▸ rfl
  · exact Option.some.inj read ▸ rfl

/-- The scheme of a URL is the one in front of the colon. -/
theorem exists_splitScheme? {written : String} {url : Url}
    (read : Url.read? written = some url) :
    ∃ rest, Url.splitScheme? (cleaned written.toList) =
      some (url.scheme, rest) := by
  obtain ⟨⟨scheme, rest⟩, found, read⟩ := Option.bind_eq_some_iff.mp read
  refine ⟨rest, ?_⟩
  suffices same : url.scheme = scheme by rw [same, found]
  simp only at read
  split at read
  · rename_i isFile
    rw [readFile?_scheme read, isFile]
  · split at read
    · exact readAuthority?_scheme read
    · split at read
      · exact readAuthority?_scheme read
      · exact Option.some.inj read ▸ rfl
      · exact Option.some.inj read ▸ rfl

theorem authority?_nil (special : isSpecial scheme = true) :
    authority? scheme [] = none := by
  rw [authority?_of_special special]
  rfl

/-- A URL of the web is read from the text of a host and a tail behind it. -/
theorem exists_webFront {written : String} {url : Url}
    (read : Url.read? written = some url) (web : IsWebScheme url.scheme) :
    ∃ front location tail named, WebFront url.scheme front location ∧
      IsTail tail ∧ cleaned written.toList = front ++ (location ++ tail) ∧
      authority? url.scheme location = some named ∧
      url = webUrl url.scheme tail named := by
  obtain ⟨rest, found⟩ := exists_splitScheme? read
  obtain ⟨letters, spells, isWritten⟩ := splitScheme?_eq_some_iff.mp found
  rw [read?_of_isWebScheme web found,
    readAuthority?_of_isSpecial web.isSpecial.1] at read
  obtain ⟨named, isNamed, isUrl⟩ := Option.map_eq_some_iff.mp read
  obtain ⟨behind, isBehind⟩ :
      ∃ behind, behind = rest.dropWhile (isSlash true) :=
    ⟨_, rfl⟩
  rw [← isBehind] at isNamed isUrl
  refine ⟨letters ++ ':' :: rest.takeWhile (isSlash true),
    behind.takeWhile (!endsAuthority true ·),
    behind.dropWhile (!endsAuthority true ·), named, ⟨web,
      ⟨letters, _, spells, fun _ member => List.mem_takeWhile_imp member, rfl⟩,
      ?_, ?_⟩, ?_, ?_, isNamed, isUrl.symm⟩
  · intro unnamed
    rw [unnamed, authority?_nil web.isSpecial.1] at isNamed
    cases isNamed
  · intro character member
    simpa using List.mem_takeWhile_imp member
  · intro first head
    have outside := List.head?_dropWhile_not (!endsAuthority true ·) behind
    rw [Option.mem_def.mp head] at outside
    simpa using outside
  · rw [isWritten, isBehind, List.takeWhile_append_dropWhile, List.append_assoc,
      List.cons_append, List.takeWhile_append_dropWhile]

end Gatekeeper.Url
