import Gatekeeper.Text.Utf8

/-!
# Reading UTF-8 back

Decoding undoes encoding: every character is read back from its own bytes,
whatever follows them. So texts with the same bytes are the same, and the byte
of a line feed stands for a line feed only.
-/

namespace Gatekeeper.Text.Utf8

/-! ### Bytes of characters -/

theorem toNat_lt (character : Char) : character.toNat < 0x110000 := by
  have valid := character.valid
  simp only [UInt32.isValidChar, Nat.isValidChar] at valid
  show character.val.toNat < _
  omega

theorem not_surrogate (character : Char) :
    character.toNat < 0xD800 ∨ 0xDFFF < character.toNat := by
  have valid := character.valid
  simp only [UInt32.isValidChar, Nat.isValidChar] at valid
  show character.val.toNat < _ ∨ _ < character.val.toNat
  omega

theorem toNat_ofNat_eq (code : Nat) (small : code < 0x100) :
    (UInt8.ofNat code).toNat = code :=
  UInt8.toNat_ofNat_of_lt small

/-! ### Steps of the decoder -/

section Steps

variable {byte : UInt8} {bits missing low high digit : Nat}
  {rest : List UInt8}

theorem decodeFrom_of_alone (isLead : lead? byte = some ⟨bits, 0, low, high⟩) :
    decodeFrom none (byte :: rest) =
      some (Char.ofNat bits) :: decodeFrom none rest := by
  simp [decodeFrom, isLead]

theorem decodeFrom_of_lead
    (isLead : lead? byte = some ⟨bits, missing + 1, low, high⟩) :
    decodeFrom none (byte :: rest) =
      decodeFrom (some ⟨bits, missing + 1, low, high⟩) rest := by
  simp [decodeFrom, isLead]

/-- The last byte of a character completes its bits. -/
theorem decodeFrom_last (small : digit < 0x40) (above : low ≤ 0x80 + digit)
    (below : 0x80 + digit ≤ high) :
    decodeFrom (some ⟨bits, 1, low, high⟩)
        (UInt8.ofNat (0x80 + digit) :: rest) =
      some (Char.ofNat (bits * 0x40 + digit)) :: decodeFrom none rest := by
  have value := toNat_ofNat_eq (0x80 + digit) (by omega)
  simp only [decodeFrom, value, above, below, and_self, if_true,
    Nat.add_sub_cancel_left]

theorem decodeFrom_following (small : digit < 0x40)
    (above : low ≤ 0x80 + digit) (below : 0x80 + digit ≤ high) :
    decodeFrom (some ⟨bits, missing + 2, low, high⟩)
        (UInt8.ofNat (0x80 + digit) :: rest) =
      decodeFrom (some ⟨bits * 0x40 + digit, missing + 1, 0x80, 0xBF⟩)
        rest := by
  have value := toNat_ofNat_eq (0x80 + digit) (by omega)
  have more : ¬ missing + 2 = 1 := by omega
  simp only [decodeFrom, value, above, below, and_self, if_true, more, if_false,
    Nat.add_sub_cancel_left, Nat.reduceSubDiff]

end Steps

/-! ### First bytes -/

theorem lead?_of_one {code : Nat} (ascii : code < 0x80) :
    lead? (UInt8.ofNat code) = some ⟨code, 0, 0x80, 0xBF⟩ := by
  simp [lead?, toNat_ofNat_eq code (by omega), ascii]

theorem lead?_of_two (code : Nat) (least : 0x80 ≤ code)
    (most : code < 0x800) :
    lead? (UInt8.ofNat (0xC0 + code / 0x40)) =
      some ⟨code / 0x40, 1, 0x80, 0xBF⟩ := by
  have value := toNat_ofNat_eq (0xC0 + code / 0x40) (by omega)
  simp only [lead?, value]
  rw [if_neg (by omega), if_neg (by omega), if_pos (by omega),
    Nat.add_sub_cancel_left]

/-- The second byte of three lies in the range that the first one asks for,
which leaves out the surrogates. -/
theorem lead?_of_three (code : Nat) (least : 0x800 ≤ code)
    (most : code < 0x10000) (whole : code < 0xD800 ∨ 0xDFFF < code) :
    ∃ low high, lead? (UInt8.ofNat (0xE0 + code / 0x1000)) =
        some ⟨code / 0x1000, 2, low, high⟩ ∧
      low ≤ 0x80 + code / 0x40 % 0x40 ∧ 0x80 + code / 0x40 % 0x40 ≤ high := by
  have value := toNat_ofNat_eq (0xE0 + code / 0x1000) (by omega)
  simp only [lead?, value]
  rw [if_neg (by omega), if_neg (by omega), if_neg (by omega)]
  by_cases first : code / 0x1000 = 0
  · rw [if_pos (by omega), first]
    exact ⟨_, _, rfl, by omega, by omega⟩
  · rw [if_neg (by omega)]
    by_cases middle : code / 0x1000 = 0xD
    · rw [if_pos (by omega), middle]
      exact ⟨_, _, rfl, by omega, by omega⟩
    · rw [if_neg (by omega), if_pos (by omega), Nat.add_sub_cancel_left]
      exact ⟨_, _, rfl, by omega, by omega⟩

/-- The second byte of four lies in the range that the first one asks for,
which ends at the last character. -/
theorem lead?_of_four (code : Nat) (least : 0x10000 ≤ code)
    (most : code < 0x110000) :
    ∃ low high, lead? (UInt8.ofNat (0xF0 + code / 0x40000)) =
        some ⟨code / 0x40000, 3, low, high⟩ ∧
      low ≤ 0x80 + code / 0x1000 % 0x40 ∧
      0x80 + code / 0x1000 % 0x40 ≤ high := by
  have value := toNat_ofNat_eq (0xF0 + code / 0x40000) (by omega)
  simp only [lead?, value]
  rw [if_neg (by omega), if_neg (by omega), if_neg (by omega),
    if_neg (by omega), if_neg (by omega), if_neg (by omega)]
  by_cases first : code / 0x40000 = 0
  · rw [if_pos (by omega), first]
    exact ⟨_, _, rfl, by omega, by omega⟩
  · rw [if_neg (by omega)]
    by_cases inner : code / 0x40000 < 4
    · rw [if_pos (by omega), Nat.add_sub_cancel_left]
      exact ⟨_, _, rfl, by omega, by omega⟩
    · have last : code / 0x40000 = 4 := by omega
      rw [if_neg (by omega), if_pos (by omega), last]
      exact ⟨_, _, rfl, by omega, by omega⟩

/-! ### Characters and texts -/

theorem decodeFrom_encodeChar (character : Char) (rest : List UInt8) :
    decodeFrom none (encodeChar character ++ rest) =
      some character :: decodeFrom none rest := by
  have bounded := toNat_lt character
  have whole := not_surrogate character
  have back {code : Nat} (same : code = character.toNat) :
      Char.ofNat code = character := by rw [same, Char.ofNat_toNat]
  unfold encodeChar
  simp only
  split
  · rename_i ascii
    rw [List.singleton_append, decodeFrom_of_alone (lead?_of_one ascii),
      back rfl]
  · split
    · have isLead := lead?_of_two character.toNat (by omega)
        (by omega)
      simp only [List.cons_append, List.nil_append]
      rw [decodeFrom_of_lead isLead,
        decodeFrom_last (by omega) (by omega) (by omega), back (by omega)]
    · split
      · obtain ⟨low, high, isLead, above, below⟩ :=
          lead?_of_three character.toNat (by omega) (by omega) whole
        simp only [List.cons_append, List.nil_append]
        rw [decodeFrom_of_lead isLead,
          decodeFrom_following (by omega) above below,
          decodeFrom_last (by omega) (by omega) (by omega), back (by omega)]
      · obtain ⟨low, high, isLead, above, below⟩ :=
          lead?_of_four character.toNat (by omega) (by omega)
        simp only [List.cons_append, List.nil_append]
        rw [decodeFrom_of_lead isLead,
          decodeFrom_following (by omega) above below,
          decodeFrom_following (by omega) (by omega) (by omega),
          decodeFrom_last (by omega) (by omega) (by omega), back (by omega)]

theorem decode_encode (text : String) :
    decode (encode text) = symbols text := by
  unfold decode encode symbols
  induction text.toList with
  | nil => rfl
  | cons character rest ih =>
      rw [List.flatMap_cons, decodeFrom_encodeChar, ih, List.map_cons]

theorem decode?_encode (text : String) : decode? (encode text) = some text := by
  have kept (characters : List Char) :
      (characters.map some).mapM id = some characters := by
    induction characters with
    | nil => rfl
    | cons character rest ih =>
        rw [List.map_cons, List.mapM_cons, ih]
        rfl
  rw [decode?, decode_encode, symbols, kept, Option.map_some,
    String.ofList_toList]

theorem encode_inj {first second : String} :
    encode first = encode second ↔ first = second := by
  constructor
  · intro same
    have alike : symbols first = symbols second := by
      rw [← decode_encode, same, decode_encode]
    unfold symbols at alike
    rw [← String.toList_inj]
    exact (List.map_inj_right fun _ _ => Option.some.inj).mp alike
  · rintro rfl
    rfl

theorem encode_append (first second : String) :
    encode (first ++ second) = encode first ++ encode second := by
  rw [encode, String.toList_append, List.flatMap_append]
  rfl

/-! ### ASCII -/

theorem toNat_ofNat_of_ascii {code : Nat} (ascii : code < 0x80) :
    (Char.ofNat code).toNat = code := by
  rw [Char.ofNat, dif_pos (.inl (by omega))]
  rfl

/-- Bytes of ASCII are the bytes of the text that they spell one by one. -/
theorem encode_ofList_of_ascii {bytes : List UInt8}
    (ascii : ∀ byte ∈ bytes, byte.toNat < 0x80) :
    encode (String.ofList (bytes.map fun byte => Char.ofNat byte.toNat)) =
      bytes := by
  unfold encode
  rw [String.toList_ofList]
  induction bytes with
  | nil => rfl
  | cons byte rest ih =>
      rw [List.forall_mem_cons] at ascii
      have alone : encodeChar (Char.ofNat byte.toNat) = [byte] := by
        simp [encodeChar, toNat_ofNat_of_ascii ascii.1, ascii.1]
      rw [List.map_cons, List.flatMap_cons, alone, ih ascii.2]
      rfl

/-- A character of ASCII has one byte, which is its code. The bytes of every
other character are above those of ASCII. -/
theorem mem_encodeChar {character : Char} {byte : UInt8}
    (member : byte ∈ encodeChar character) :
    byte.toNat = character.toNat ∨ 0x80 ≤ byte.toNat := by
  have bounded := toNat_lt character
  have above {code : Nat} (least : 0x80 ≤ code) (small : code < 0x100)
      (same : byte = UInt8.ofNat code) : 0x80 ≤ byte.toNat := by
    rw [same, toNat_ofNat_eq _ small]
    exact least
  unfold encodeChar at member
  simp only at member
  split at member
  · rw [List.mem_singleton.mp member, toNat_ofNat_eq _ (by omega)]
    exact .inl rfl
  · right
    split at member
    · simp only [List.mem_cons, List.not_mem_nil, or_false] at member
      rcases member with same | same <;>
        exact above (by omega) (by omega) same
    · split at member
      · simp only [List.mem_cons, List.not_mem_nil, or_false] at member
        rcases member with same | same | same <;>
          exact above (by omega) (by omega) same
      · simp only [List.mem_cons, List.not_mem_nil, or_false] at member
        rcases member with same | same | same | same <;>
          exact above (by omega) (by omega) same

/-- The byte of a line feed stands for that character only. -/
theorem lineFeed_not_mem_encode {text : String}
    (unbroken : '\n' ∉ text.toList) :
    0x0A ∉ encode text := by
  unfold encode
  rw [List.mem_flatMap]
  rintro ⟨character, held, member⟩
  rcases mem_encodeChar member with same | above
  · have feed : character = '\n' := by
      rw [← Char.ofNat_toNat character, ← same]
      rfl
    exact unbroken (feed ▸ held)
  · exact absurd above (by decide)

/-! ### ASCII among other bytes -/

/-- What holds of every small code holds of the characters with these codes. -/
@[elab_as_elim]
theorem of_codes {P : Char → Prop} {bound : Nat}
    (codes : ∀ code < bound, P (Char.ofNat code)) {character : Char}
    (small : character.toNat < bound) : P character := by
  have held := codes character.toNat small
  rwa [Char.ofNat_toNat] at held

theorem lead?_of_ascii {byte : UInt8} (ascii : byte.toNat < 0x80) :
    lead? byte = some ⟨byte.toNat, 0, 0x80, 0xBF⟩ := by
  simp [lead?, ascii]

/-- What continues a character is no byte of ASCII. -/
theorem low_of_lead? {byte : UInt8} {lead : Lead}
    (isLead : lead? byte = some lead) : 0x80 ≤ lead.low := by
  unfold lead? at isLead
  simp only at isLead
  repeat' split at isLead
  all_goals simp only [Option.some.injEq, reduceCtorEq] at isLead
  all_goals simp [← isLead]

/-- So a byte of ASCII is read as its character wherever it stands. -/
theorem mem_decodeFrom {started : Option Lead} {bytes : List UInt8}
    {byte : UInt8} (begun : ∀ lead ∈ started, 0x80 ≤ lead.low)
    (ascii : byte.toNat < 0x80) (member : byte ∈ bytes) :
    some (Char.ofNat byte.toNat) ∈ decodeFrom started bytes := by
  have fresh : ∀ lead ∈ (none : Option Lead), 0x80 ≤ lead.low := by simp
  induction bytes generalizing started with
  | nil => cases member
  | cons first rest ih =>
      cases started with
      | none =>
          rcases List.mem_cons.mp member with rfl | later
          · rw [decodeFrom_of_alone (lead?_of_ascii ascii)]
            exact List.mem_cons_self
          · unfold decodeFrom
            split
            · exact List.mem_cons_of_mem _ (ih fresh later)
            · rename_i lead isLead
              split
              · exact List.mem_cons_of_mem _ (ih fresh later)
              · refine ih ?_ later
                rintro _ ⟨⟩
                exact low_of_lead? isLead
      | some lead =>
          have above := begun lead rfl
          unfold decodeFrom
          simp only
          split
          · rename_i continues
            have later : byte ∈ rest := by
              rcases List.mem_cons.mp member with rfl | later
              · omega
              · exact later
            split
            · exact List.mem_cons_of_mem _ (ih fresh later)
            · refine ih ?_ later
              intro next isNext
              simp [← Option.mem_some_iff.mp isNext]
          · rcases List.mem_cons.mp member with rfl | later
            · simp [lead?_of_ascii ascii]
            · split
              · exact List.mem_cons_of_mem _
                  (List.mem_cons_of_mem _ (ih fresh later))
              · rename_i next isLead
                split
                · exact List.mem_cons_of_mem _
                    (List.mem_cons_of_mem _ (ih fresh later))
                · refine List.mem_cons_of_mem _ (ih ?_ later)
                  rintro _ ⟨⟩
                  exact low_of_lead? isLead

theorem eq_map_some_of_mapM_id {symbols : List Symbol}
    {characters : List Char} (whole : symbols.mapM id = some characters) :
    symbols = characters.map some := by
  induction symbols generalizing characters with
  | nil =>
      obtain rfl := Option.some.inj whole
      rfl
  | cons symbol symbols ih =>
      simp only [List.mapM_cons, bind, pure, Option.bind_eq_some_iff,
        Option.some.injEq, id_eq] at whole
      obtain ⟨character, rfl, rest, isRest, rfl⟩ := whole
      rw [List.map_cons, ih isRest]

theorem mem_toList_of_decode? {bytes : List UInt8} {byte : UInt8}
    {text : String} (read : decode? bytes = some text)
    (ascii : byte.toNat < 0x80) (member : byte ∈ bytes) :
    Char.ofNat byte.toNat ∈ text.toList := by
  obtain ⟨characters, whole, rfl⟩ := Option.map_eq_some_iff.mp read
  have held : some (Char.ofNat byte.toNat) ∈ decode bytes :=
    mem_decodeFrom (by simp) ascii member
  rw [eq_map_some_of_mapM_id whole] at held
  obtain ⟨character, isHeld, same⟩ := List.mem_map.mp held
  rw [String.toList_ofList, ← Option.some.inj same]
  exact isHeld

end Gatekeeper.Text.Utf8
