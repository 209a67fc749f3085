import Gatekeeper.Proofs.Text.Utf8
import Gatekeeper.Url.Basic

/-!
# Blanks behind a host

No host and no port is read where a blank stands behind it. A blank survives the
decoding of a host, and a domain does not hold one in any form; a bracket is not
closed by one, and it is no digit of a port.
-/

namespace Gatekeeper

open Gatekeeper.Text

/-- A character that does not count at the ends of a URL. -/
def Url.isBlankEnd (character : Char) : Bool :=
  character.toNat ≤ 0x20

variable {blank : Char} {text : List Char}

/-! ### Blanks as bytes -/

theorem toNat_lt_of_blank (isBlank : Url.isBlankEnd blank = true) :
    blank.toNat < 0x21 :=
  Nat.lt_succ_of_le (of_decide_eq_true isBlank)

theorem encodeChar_of_blank (isBlank : Url.isBlankEnd blank = true) :
    Utf8.encodeChar blank = [UInt8.ofNat blank.toNat] := by
  have small := toNat_lt_of_blank isBlank
  simp only [Utf8.encodeChar, if_pos (show blank.toNat < 0x80 by omega)]

theorem mem_encode_of_blank (isBlank : Url.isBlankEnd blank = true)
    (held : blank ∈ text) :
    UInt8.ofNat blank.toNat ∈ Utf8.encode (String.ofList text) := by
  rw [Utf8.encode, String.toList_ofList, List.mem_flatMap]
  refine ⟨blank, held, ?_⟩
  rw [encodeChar_of_blank isBlank]
  exact List.mem_singleton_self _

namespace Host

/-- Decoding leaves every byte that no escape is written with. -/
theorem mem_percentDecode {bytes : List UInt8} {byte : UInt8}
    (noSign : byte ≠ 0x25)
    (noDigit : hexDigit? (Char.ofNat byte.toNat) = none)
    (member : byte ∈ bytes) : byte ∈ percentDecode bytes := by
  have kept {first : UInt8} {rest decoded : List UInt8}
      (ih : byte ∈ rest → byte ∈ decoded) (held : byte ∈ first :: rest) :
      byte ∈ first :: decoded := by
    rcases List.mem_cons.mp held with rfl | later
    · exact List.mem_cons_self
    · exact List.mem_cons_of_mem _ (ih later)
  fun_induction percentDecode bytes with
  | case1 => exact member
  | case2 high low rest lower upper isLower isUpper ih =>
      simp only [List.mem_cons, noSign, false_or] at member
      rcases member with rfl | rfl | later
      · rw [noDigit] at isUpper
        cases isUpper
      · rw [noDigit] at isLower
        cases isLower
      · exact List.mem_cons_of_mem _ (ih later)
  | case3 high low rest noEscape ih => exact kept ih member
  | case4 first high low rest isNoSign ih => exact kept ih member
  | case5 first rest isShort ih => exact kept ih member

end Host

/-! ### Domains -/

/-- A blank is folded to a space or to itself, and is refused in either form. -/
theorem isRefused_of_blank (isBlank : Url.isBlankEnd blank = true) :
    Domain.isRefused (Domain.foldCharacter blank) = true ∧
      Domain.isIgnored blank = false :=
  Utf8.of_codes (by decide) (toNat_lt_of_blank isBlank)

theorem fold?_of_blank (isBlank : Url.isBlankEnd blank = true)
    (held : blank ∈ text) : Domain.fold? text = none := by
  obtain ⟨refused, seen⟩ := isRefused_of_blank isBlank
  have refusedOne : ((text.filter (!Domain.isIgnored ·)).map
      Domain.foldCharacter).any Domain.isRefused = true := by
    rw [List.any_eq_true]
    refine ⟨_, List.mem_map_of_mem (List.mem_filter.mpr ⟨held, ?_⟩), refused⟩
    rw [seen]
    rfl
  simp only [Domain.fold?, refusedOne, if_true]

/-! ### Hosts and ports -/

/-- Blanks are no digits and no signs of any kind. -/
theorem blank_readings (isBlank : Url.isBlankEnd blank = true) :
    hexDigit? (Char.ofNat (UInt8.ofNat blank.toNat).toNat) = none ∧
      UInt8.ofNat blank.toNat ≠ 0x25 ∧
      (UInt8.ofNat blank.toNat).toNat = blank.toNat ∧
      isDigitAscii blank = false ∧ blank ≠ ']' ∧ blank ≠ '@' ∧ blank ≠ ':' :=
  Utf8.of_codes (by decide) (toNat_lt_of_blank isBlank)

/-- A blank is still there once the bytes of a host are decoded. -/
theorem mem_decoded_of_blank (isBlank : Url.isBlankEnd blank = true)
    (held : blank ∈ text) {decoded : String}
    (read : Utf8.decode? (Host.percentDecode
      (Utf8.encode (String.ofList text))) = some decoded) :
    blank ∈ decoded.toList := by
  obtain ⟨noDigit, noSign, code, -⟩ := blank_readings isBlank
  have small := toNat_lt_of_blank isBlank
  have survives := Host.mem_percentDecode noSign noDigit
    (mem_encode_of_blank isBlank held)
  have ascii : (UInt8.ofNat blank.toNat).toNat < 0x80 := by omega
  simpa only [code, Char.ofNat_toNat] using
    Utf8.mem_toList_of_decode? read ascii survives

theorem Host.ofText?_of_blank (isBlank : Url.isBlankEnd blank = true)
    (last : text.getLast? = some blank) : Host.ofText? text = none := by
  obtain ⟨-, -, -, -, noBracket, -⟩ := blank_readings isBlank
  unfold Host.ofText?
  split
  · rename_i rest
    rw [List.getLast?_cons, Option.some.injEq] at last
    refine if_neg fun closed => ?_
    rw [closed, Option.getD_some] at last
    exact noBracket last.symm
  · refine Option.bind_eq_none_iff.mpr fun decoded read => ?_
    have held := mem_decoded_of_blank isBlank (List.mem_of_getLast? last) read
    rw [fold?_of_blank isBlank held, Option.bind_none]

theorem Url.portNumber?_of_blank (isBlank : isBlankEnd blank = true)
    (held : blank ∈ text) : portNumber? text = none := by
  obtain ⟨-, -, -, noDigit, -⟩ := blank_readings isBlank
  have undigited : text.all isDigitAscii = false := by
    rw [List.all_eq_false]
    exact ⟨blank, held, by rw [noDigit]; decide⟩
  simp [portNumber?, undigited]

/-- A host and a port are what the text holds, with a colon between them. -/
theorem Url.splitPort_append (inBrackets : Bool) (text : List Char) :
    text = (splitPort inBrackets text).1 ++
      ((splitPort inBrackets text).2.map (':' :: ·)).getD [] := by
  induction text generalizing inBrackets with
  | nil => rfl
  | cons character rest ih =>
      unfold splitPort
      split
      · rename_i isColon
        have same : character = ':' := by
          simp only [Bool.and_eq_true, decide_eq_true_eq] at isColon
          exact isColon.1
        simp [same]
      · simpa using ih _

/-- What stands behind the user in the authority of a URL. -/
def Url.locationOf (text : List Char) : List Char × List Char :=
  match splitLast? '@' text with
  | none => ([], text)
  | some parts => parts

theorem Url.getLast?_locationOf (isBlank : isBlankEnd blank = true)
    (last : text.getLast? = some blank) :
    (locationOf text).2.getLast? = some blank := by
  obtain ⟨-, -, -, -, -, noAt, -⟩ := blank_readings isBlank
  unfold locationOf
  cases split : splitLast? '@' text with
  | none => exact last
  | some parts =>
      obtain ⟨userInfo, location⟩ := parts
      obtain ⟨rfl, -⟩ := splitLast?_eq_some_iff.mp split
      rw [List.getLast?_append, List.getLast?_cons] at last
      cases behind : location.getLast? with
      | none =>
          rw [behind] at last
          exact absurd (Option.some.inj last).symm noAt
      | some character =>
          rw [behind] at last
          exact last

/-- The authority of a URL of a special scheme names a host that is not empty,
and perhaps a port behind it. -/
theorem Url.authority?_of_special {scheme : String}
    (special : isSpecial scheme = true) (text : List Char) :
    authority? scheme text =
      if (splitPort false (locationOf text).2).1 = [] then none
      else (Host.ofText? (splitPort false (locationOf text).2).1).bind
        fun host =>
        (portNumber? ((splitPort false (locationOf text).2).2.getD [])).bind
          fun port => some (some host,
            if port = (specialPort? scheme).join then none else port) := by
  unfold authority? locationOf
  simp only [special, Bool.true_or, if_true, List.isEmpty_iff]
  cases splitLast? '@' text <;> rfl

/-- Nothing is read of the authority of a web URL that a blank ends. -/
theorem Url.authority?_of_blank {scheme : String}
    (special : isSpecial scheme = true) (isBlank : isBlankEnd blank = true)
    (last : text.getLast? = some blank) : authority? scheme text = none := by
  obtain ⟨-, -, -, -, -, -, noColon⟩ := blank_readings isBlank
  have behind := getLast?_locationOf isBlank last
  have parts := splitPort_append false (locationOf text).2
  rw [authority?_of_special special]
  cases port : (splitPort false (locationOf text).2).2 with
  | none =>
      rw [port, Option.map_none, Option.getD_none, List.append_nil] at parts
      rw [← parts, Host.ofText?_of_blank isBlank behind, Option.bind_none,
        ite_self]
  | some digits =>
      rw [port, Option.map_some, Option.getD_some] at parts
      rw [parts, List.getLast?_append, List.getLast?_cons] at behind
      cases ending : digits.getLast? with
      | none =>
          rw [ending] at behind
          exact absurd (Option.some.inj behind).symm noColon
      | some character =>
          rw [ending] at behind
          obtain rfl : character = blank := Option.some.inj behind
          rw [Option.getD_some,
            portNumber?_of_blank isBlank (List.mem_of_getLast? ending)]
          simp

end Gatekeeper
