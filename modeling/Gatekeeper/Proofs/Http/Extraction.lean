import Gatekeeper.Http.Credential
import Gatekeeper.Proofs.Text.Utf8
import Gatekeeper.Proofs.Text.Words
import Mathlib.Data.List.Forall2

/-!
# Extraction of credentials

Which header values bear a token. The grammar is one of bytes: a value that can
be read, and in it the scheme in either case and the token, with spaces and tabs
between them and around them. The token is taken as it stands.
-/

namespace Gatekeeper.Credential

open Gatekeeper.Http
open Gatekeeper.Text

/-! ### The grammar -/

/-- A space or a tab. -/
def IsSpaceByte (byte : UInt8) : Prop :=
  byte = 0x20 ∨ byte = 0x09

/-- Whether a byte is a lower case letter or its upper case one. -/
def SpellsLetter (byte : UInt8) (letter : Char) : Prop :=
  byte.toNat = letter.toNat ∨ byte.toNat + 0x20 = letter.toNat

def SpellsBearer (scheme : List UInt8) : Prop :=
  List.Forall₂ SpellsLetter scheme ['b', 'e', 'a', 'r', 'e', 'r']

/-- Whether a value is nothing but spaces and tabs. -/
def IsSpaceOnly (value : List UInt8) : Prop :=
  ∀ byte ∈ value, IsSpaceByte byte

structure IsWord (bytes : List UInt8) : Prop where
  nonempty : bytes ≠ []
  solid : ∀ byte ∈ bytes, ¬ IsSpaceByte byte

structure BearsToken (value token : List UInt8) : Prop where
  readable : ∀ byte ∈ value, byte = 0x09 ∨ (0x20 ≤ byte ∧ byte ≤ 0x7E)
  split : ∃ before scheme between after,
    value = before ++ (scheme ++ (between ++ (token ++ after))) ∧
      SpellsBearer scheme ∧ IsSpaceOnly before ∧ between ≠ [] ∧
      IsSpaceOnly between ∧ IsSpaceOnly after
  isWord : IsWord token

/-! ### Bytes and their characters -/

def characterOf (byte : UInt8) : Char :=
  Char.ofNat byte.toNat

theorem isReadableByte_iff {byte : UInt8} :
    HeaderValue.isReadableByte byte = true ↔
      byte = 0x09 ∨ (0x20 ≤ byte ∧ byte ≤ 0x7E) := by
  simp only [HeaderValue.isReadableByte, Bool.or_eq_true, decide_eq_true_eq,
    Bool.and_eq_true]
  have step : byte < 0x7F ↔ byte ≤ 0x7E := by
    simp only [UInt8.lt_iff_toNat_lt, UInt8.le_iff_toNat_le]
    show byte.toNat < 127 ↔ byte.toNat ≤ 126
    omega
  rw [step]

theorem isAscii_of_isReadableByte {byte : UInt8}
    (readable : HeaderValue.isReadableByte byte = true) :
    byte.toNat < 0x80 := by
  rcases isReadableByte_iff.mp readable with rfl | ⟨-, high⟩
  · decide
  · rw [UInt8.le_iff_toNat_le] at high
    exact Nat.lt_of_le_of_lt high (by decide)

theorem toNat_characterOf {byte : UInt8} (ascii : byte.toNat < 0x80) :
    (characterOf byte).toNat = byte.toNat :=
  Utf8.toNat_ofNat_of_ascii ascii

theorem isSpace_characterOf {byte : UInt8} (ascii : byte.toNat < 0x80) :
    isSpace (characterOf byte) = true ↔ IsSpaceByte byte := by
  simp only [isSpace, Bool.or_eq_true, decide_eq_true_eq, ← Char.toNat_inj,
    toNat_characterOf ascii, IsSpaceByte, ← UInt8.toNat_inj]
  rfl

theorem isLowerAscii_iff {letter : Char} :
    isLowerAscii letter = true ↔ 97 ≤ letter.toNat ∧ letter.toNat ≤ 122 := by
  simp [isLowerAscii, Char.le_def, UInt32.le_iff_toNat_le]

theorem lowerAscii_characterOf {byte : UInt8} (ascii : byte.toNat < 0x80)
    {letter : Char} (lower : isLowerAscii letter = true) :
    lowerAscii (characterOf byte) = letter ↔ SpellsLetter byte letter := by
  have code := toNat_characterOf ascii
  have range := isLowerAscii_iff.mp lower
  have upper : ('A' ≤ characterOf byte && characterOf byte ≤ 'Z') = true ↔
      65 ≤ byte.toNat ∧ byte.toNat ≤ 90 := by
    rw [← code]
    simp [Char.le_def, UInt32.le_iff_toNat_le]
  unfold lowerAscii SpellsLetter
  by_cases isUpper : 65 ≤ byte.toNat ∧ byte.toNat ≤ 90
  · rw [if_pos (upper.mpr isUpper), code, ← Char.toNat_inj,
      Utf8.toNat_ofNat_of_ascii (by omega)]
    omega
  · rw [if_neg (mt upper.mp isUpper), ← Char.toNat_inj, code]
    omega

theorem not_isSpaceByte_of_spellsLetter {byte : UInt8} {letter : Char}
    (spells : SpellsLetter byte letter) (lower : isLowerAscii letter = true) :
    ¬ IsSpaceByte byte := by
  have range := isLowerAscii_iff.mp lower
  unfold SpellsLetter at spells
  rintro (rfl | rfl)
  · rw [show (0x20 : UInt8).toNat = 0x20 from rfl] at spells
    omega
  · rw [show (0x09 : UInt8).toNat = 0x09 from rfl] at spells
    omega

/-! ### Schemes -/

theorem isLowerAscii_bearer :
    ∀ letter ∈ ['b', 'e', 'a', 'r', 'e', 'r'], isLowerAscii letter = true :=
  List.all_eq_true.mp (by decide)

theorem map_lowerAscii_eq_iff {scheme : List UInt8} {letters : List Char}
    (ascii : ∀ byte ∈ scheme, byte.toNat < 0x80)
    (lower : ∀ letter ∈ letters, isLowerAscii letter = true) :
    (scheme.map characterOf).map lowerAscii = letters ↔
      List.Forall₂ SpellsLetter scheme letters := by
  induction scheme generalizing letters with
  | nil => cases letters <;> simp
  | cons byte rest ih =>
      cases letters with
      | nil => simp
      | cons letter others =>
          rw [List.forall_mem_cons] at ascii lower
          rw [List.map_cons, List.map_cons, List.cons.injEq,
            List.forall₂_cons, ih ascii.2 lower.2,
            lowerAscii_characterOf ascii.1 lower.1]

theorem isBearerScheme_map {scheme : List UInt8}
    (ascii : ∀ byte ∈ scheme, byte.toNat < 0x80) :
    isBearerScheme (scheme.map characterOf) = true ↔ SpellsBearer scheme := by
  unfold isBearerScheme SpellsBearer
  rw [decide_eq_true_eq, map_lowerAscii_eq_iff ascii isLowerAscii_bearer]

theorem SpellsBearer.isWord {scheme : List UInt8}
    (spells : SpellsBearer scheme) : IsWord scheme := by
  constructor
  · rintro rfl
    cases spells
  · unfold SpellsBearer at spells
    have lower := isLowerAscii_bearer
    generalize ['b', 'e', 'a', 'r', 'e', 'r'] = letters at spells lower
    induction spells with
    | nil => simp
    | cons spellsFirst spellsRest ih =>
        rw [List.forall_mem_cons] at lower ⊢
        exact ⟨not_isSpaceByte_of_spellsLetter spellsFirst lower.1, ih lower.2⟩

/-! ### Words of readable values -/

section Words

variable {value : List UInt8}

theorem words_map_eq_nil_iff (ascii : ∀ byte ∈ value, byte.toNat < 0x80) :
    words isSpace (value.map characterOf) = [] ↔ IsSpaceOnly value := by
  rw [words_eq_nil_iff, List.forall_mem_map]
  exact forall₂_congr fun byte member => isSpace_characterOf (ascii byte member)

/-- The first word of a readable value, by its bytes. -/
theorem words_map_eq_cons_iff (ascii : ∀ byte ∈ value, byte.toNat < 0x80)
    {word : List Char} {others : List (List Char)} :
    words isSpace (value.map characterOf) = word :: others ↔
      ∃ before bytes following, value = before ++ (bytes ++ following) ∧
        IsSpaceOnly before ∧ IsWord bytes ∧
        (∀ first rest, following = first :: rest → IsSpaceByte first) ∧
        bytes.map characterOf = word ∧
        words isSpace (following.map characterOf) = others := by
  have spaced {byte : UInt8} (member : byte ∈ value) :=
    isSpace_characterOf (ascii byte member)
  rw [words_eq_cons_iff]
  constructor
  · rintro ⟨following, ⟨⟨separators, cut, all⟩, nonempty, plain, ends⟩, rest⟩
    obtain ⟨before, behind, rfl, rfl, uncut⟩ := List.map_eq_append_iff.mp cut
    obtain ⟨bytes, after, rfl, rfl, rfl⟩ := List.map_eq_append_iff.mp uncut
    rw [List.forall_mem_map] at all plain
    refine ⟨before, bytes, after, rfl, ?_, ⟨by simpa using nonempty, ?_⟩, ?_,
      rfl, rest⟩
    · intro byte member
      exact (spaced (by simp [member])).mp (all byte member)
    · intro byte member isSpaceByte
      have solid := plain byte member
      rw [(spaced (by simp [member])).mpr isSpaceByte] at solid
      cases solid
    · rintro first rest rfl
      exact (spaced (by simp)).mp (ends _ _ rfl)
  · rintro ⟨before, bytes, after, rfl, spaces, isWord, ends, rfl, rest⟩
    refine ⟨after.map characterOf, ⟨⟨before.map characterOf, by simp, ?_⟩,
      by simpa using isWord.nonempty, ?_, ?_⟩, rest⟩
    · rw [List.forall_mem_map]
      intro byte member
      exact (spaced (by simp [member])).mpr (spaces byte member)
    · rw [List.forall_mem_map]
      intro byte member
      rw [Bool.eq_false_iff, Ne, spaced (by simp [member])]
      exact isWord.solid byte member
    · intro first rest cut
      obtain ⟨byte, others, rfl, rfl, -⟩ := List.map_eq_cons_iff.mp cut
      exact (spaced (by simp)).mpr (ends byte others rfl)

theorem words_map_eq_pair_iff (ascii : ∀ byte ∈ value, byte.toNat < 0x80)
    {first second : List Char} :
    words isSpace (value.map characterOf) = [first, second] ↔
      ∃ before leading between trailing after,
        value = before ++ (leading ++ (between ++ (trailing ++ after))) ∧
          IsSpaceOnly before ∧ IsWord leading ∧ between ≠ [] ∧
          IsSpaceOnly between ∧ IsWord trailing ∧ IsSpaceOnly after ∧
          leading.map characterOf = first ∧
          trailing.map characterOf = second := by
  rw [words_map_eq_cons_iff ascii]
  constructor
  · rintro ⟨before, leading, following, rfl, spaces, isWord, ends, rfl, rest⟩
    have asciiRest : ∀ byte ∈ following, byte.toNat < 0x80 :=
      fun byte member => ascii byte (by simp [member])
    obtain ⟨between, trailing, after, rfl, apart, isSecond, -, rfl, none⟩ :=
      (words_map_eq_cons_iff asciiRest).mp rest
    have spacesAfter : IsSpaceOnly after :=
      (words_map_eq_nil_iff fun byte member =>
        asciiRest byte (by simp [member])).mp none
    refine ⟨before, leading, between, trailing, after, rfl, spaces, isWord, ?_,
      apart, isSecond, spacesAfter, rfl, rfl⟩
    -- the first word ends at a space, and the second one begins with none
    rintro rfl
    obtain ⟨byte, others, rfl⟩ := List.exists_cons_of_ne_nil isSecond.nonempty
    exact isSecond.solid byte (by simp) (ends byte _ rfl)
  · rintro ⟨before, leading, between, trailing, after, rfl, spaces, isWord,
      nonempty, apart, isSecond, spacesAfter, rfl, rfl⟩
    have asciiRest : ∀ byte ∈ between ++ (trailing ++ after),
        byte.toNat < 0x80 := by
      intro byte member
      exact ascii byte (List.mem_append_right _
        (List.mem_append_right _ member))
    refine ⟨before, leading, _, rfl, spaces, isWord, ?_, rfl,
      (words_map_eq_cons_iff asciiRest).mpr ⟨between, trailing, after, rfl,
        apart, isSecond, ?_, rfl, ?_⟩⟩
    · intro byte rest cut
      obtain ⟨space, others, rfl⟩ := List.exists_cons_of_ne_nil nonempty
      obtain ⟨rfl, -⟩ := List.cons.inj cut
      exact apart space (by simp)
    · rintro byte rest rfl
      exact spacesAfter byte (by simp)
    · exact (words_map_eq_nil_iff fun byte member =>
        asciiRest byte (by simp [member])).mpr spacesAfter

end Words

/-! ### Values -/

/-- The text of a readable value, byte by byte. -/
theorem text?_eq_some_iff {value : HeaderValue} {text : String} :
    value.text? = some text ↔
      (∀ byte ∈ value, HeaderValue.isReadableByte byte = true) ∧
        text.toList = value.map characterOf := by
  unfold HeaderValue.text?
  rw [Option.ite_none_right_eq_some, List.all_eq_true, Option.some.injEq,
    ← String.toList_inj, String.toList_ofList, eq_comm (a := text.toList)]
  rfl

/-- The token of a readable value is the text whose bytes it bears. -/
theorem encode_eq_iff {bytes : List UInt8} {token : String}
    (ascii : ∀ byte ∈ bytes, byte.toNat < 0x80) :
    Utf8.encode token = bytes ↔ token.toList = bytes.map characterOf := by
  have encoded := Utf8.encode_ofList_of_ascii ascii
  rw [← encoded, Utf8.encode_inj, ← String.toList_inj, String.toList_ofList,
    encoded]
  rfl

section Readable

variable {value : HeaderValue} {text : String} (read : value.text? = some text)

include read

theorem isAscii_of_text? : ∀ byte ∈ value, byte.toNat < 0x80 := by
  intro byte member
  exact isAscii_of_isReadableByte ((text?_eq_some_iff.mp read).1 byte member)

theorem ofText_eq_missing_iff : ofText text = .missing ↔ IsSpaceOnly value := by
  rw [← words_map_eq_nil_iff (isAscii_of_text? read),
    ← (text?_eq_some_iff.mp read).2]
  unfold ofText
  rcases words isSpace text.toList with
    _ | ⟨scheme, _ | ⟨held, _ | ⟨third, rest⟩⟩⟩
  · simp
  · simp
  · cases bearer : isBearerScheme scheme <;> simp [bearer]
  · simp

theorem ofText_eq_bearer_iff_bytes {token : String} :
    ofText text = .bearer token ↔ BearsToken value (Utf8.encode token) := by
  obtain ⟨readable, characters⟩ := text?_eq_some_iff.mp read
  have ascii := isAscii_of_text? read
  rw [ofText_eq_bearer_iff, characters]
  constructor
  · rintro ⟨scheme, pair, bearer⟩
    obtain ⟨before, leading, between, trailing, after, rfl, spaces, -, apart,
      spacesBetween, isWord, spacesAfter, rfl, held⟩ :=
        (words_map_eq_pair_iff ascii).mp pair
    have spelled : Utf8.encode token = trailing :=
      (encode_eq_iff fun byte member => ascii byte (by simp [member])).mpr
        held.symm
    have isBearer : SpellsBearer leading :=
      (isBearerScheme_map fun byte member => ascii byte (by simp [member])).mp
        bearer
    rw [spelled]
    exact ⟨fun byte member => isReadableByte_iff.mp (readable byte member),
      ⟨before, leading, between, after, rfl, isBearer, spaces, apart,
        spacesBetween, spacesAfter⟩, isWord⟩
  · rintro ⟨-, ⟨before, scheme, between, after, rfl, bearer, spaces, apart,
      spacesBetween, spacesAfter⟩, isWord⟩
    refine ⟨scheme.map characterOf, (words_map_eq_pair_iff ascii).mpr
      ⟨before, scheme, between, Utf8.encode token, after, rfl, spaces,
        bearer.isWord, apart, spacesBetween, isWord, spacesAfter, rfl, ?_⟩, ?_⟩
    · exact ((encode_eq_iff fun byte member => ascii byte (by
        simp [member])).mp rfl).symm
    · exact (isBearerScheme_map fun byte member =>
        ascii byte (by simp [member])).mpr bearer

end Readable

/-! ### Lists of values -/

theorem text?_eq_none_iff {value : HeaderValue} :
    value.text? = none ↔
      ¬ ∀ byte ∈ value, HeaderValue.isReadableByte byte = true := by
  simp [HeaderValue.text?]

/-- A value that cannot be read is neither of spaces nor bears a token. -/
theorem of_text?_eq_none {value : HeaderValue} (unread : value.text? = none) :
    ¬ IsSpaceOnly value ∧ ∀ token, ¬ BearsToken value token := by
  rw [text?_eq_none_iff] at unread
  constructor
  · intro spaces
    refine unread fun byte member => ?_
    rcases spaces byte member with rfl | rfl <;> decide
  · rintro token ⟨readable, -, -⟩
    exact unread fun byte member =>
      isReadableByte_iff.mpr (readable byte member)

/-- A borne token is ASCII, so it is the bytes of a text. -/
theorem BearsToken.exists_text {value token : List UInt8}
    (bears : BearsToken value token) : ∃ text, Utf8.encode text = token := by
  obtain ⟨readable, ⟨before, scheme, between, after, rfl, -⟩, -⟩ := bears
  refine ⟨_, Utf8.encode_ofList_of_ascii ?_⟩
  intro byte member
  exact isAscii_of_isReadableByte
    (isReadableByte_iff.mpr (readable byte (by simp [member])))

section Values

variable {values : List HeaderValue}

theorem ofValues_eq_bearer_iff {token : String} :
    ofValues values = .bearer token ↔
      ∃ value, values = [value] ∧ BearsToken value (Utf8.encode token) := by
  rcases values with _ | ⟨value, _ | ⟨second, rest⟩⟩
  · simp [ofValues]
  · cases read : value.text? with
    | none => simp [ofValues, read, (of_text?_eq_none read).2]
    | some text =>
        simp [ofValues, read, ofText_eq_bearer_iff_bytes read]
  · simp [ofValues]

theorem ofValues_eq_missing_iff :
    ofValues values = .missing ↔
      values = [] ∨ ∃ value, values = [value] ∧ IsSpaceOnly value := by
  rcases values with _ | ⟨value, _ | ⟨second, rest⟩⟩
  · simp [ofValues]
  · cases read : value.text? with
    | none => simp [ofValues, read, (of_text?_eq_none read).1]
    | some text => simp [ofValues, read, ofText_eq_missing_iff read]
  · simp [ofValues]

theorem exists_bearer_iff :
    (∃ token, ofValues values = .bearer token) ↔
      ∃ value token, values = [value] ∧ BearsToken value token := by
  simp only [ofValues_eq_bearer_iff]
  constructor
  · rintro ⟨text, value, single, bears⟩
    exact ⟨value, _, single, bears⟩
  · rintro ⟨value, token, single, bears⟩
    obtain ⟨text, rfl⟩ := bears.exists_text
    exact ⟨text, value, single, bears⟩

end Values

theorem eq_malformed_iff (credential : Credential) :
    credential = .malformed ↔
      ¬ (∃ token, credential = .bearer token) ∧ credential ≠ .missing := by
  cases credential <;> simp

/-- The credential of any list of authorization values. A token is borne by a
value that stands alone and follows the grammar, and it is taken byte for byte.
There is none without a value or with one that is spaces and tabs only. All else
is malformed, and so is every list of two values or more. -/
theorem extraction_exact (values : List HeaderValue) :
    (∀ token, ofValues values = .bearer token ↔
      ∃ value, values = [value] ∧ BearsToken value (Utf8.encode token)) ∧
    (ofValues values = .missing ↔
      values = [] ∨ ∃ value, values = [value] ∧ IsSpaceOnly value) ∧
    (ofValues values = .malformed ↔
      ¬ (∃ value token, values = [value] ∧ BearsToken value token) ∧
        ¬ (values = [] ∨ ∃ value, values = [value] ∧ IsSpaceOnly value)) ∧
    (∀ value token, BearsToken value token →
      ∃ text, ofValues [value] = .bearer text ∧ Utf8.encode text = token) ∧
    ∀ first second rest, ofValues (first :: second :: rest) = .malformed := by
  refine ⟨?_, ofValues_eq_missing_iff, ?_, ?_, ?_⟩
  · intro token
    exact ofValues_eq_bearer_iff
  · rw [eq_malformed_iff, exists_bearer_iff, Ne, ofValues_eq_missing_iff]
  · intro value token bears
    obtain ⟨text, rfl⟩ := bears.exists_text
    exact ⟨text, ofValues_eq_bearer_iff.mpr ⟨value, rfl, bears⟩, rfl⟩
  · intro first second rest
    rfl

end Gatekeeper.Credential
