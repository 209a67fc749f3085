/-!
# Base64

Reading is strict: a text of the right length over the alphabet, padding exactly
where the form asks for it, and no bits left over. So every byte string has one
text in each form.
-/

namespace Gatekeeper.Base64

/-- The two last letters of the alphabet, and whether texts are filled up to
groups of four. -/
structure Form where
  plus : Char
  slash : Char
  padded : Bool

def standard : Form := ⟨'+', '/', true⟩

/-- The form of tokens and of published keys. -/
def urlSafe : Form := ⟨'-', '_', false⟩

def Form.sextet? (form : Form) (letter : Char) : Option Nat :=
  if 'A' ≤ letter ∧ letter ≤ 'Z' then some (letter.toNat - 'A'.toNat)
  else if 'a' ≤ letter ∧ letter ≤ 'z' then some (letter.toNat - 'a'.toNat + 26)
  else if '0' ≤ letter ∧ letter ≤ '9' then some (letter.toNat - '0'.toNat + 52)
  else if letter = form.plus then some 62
  else if letter = form.slash then some 63
  else none

/-- The bytes of a run of sextets. A last group of two or three sextets ends in
zero bits. -/
def bytesOfSextets? : List Nat → Option (List UInt8)
  | [] => some []
  | [_] => none
  | [first, second] =>
      if second % 16 = 0 then
        some [UInt8.ofNat (first * 4 + second / 16)]
      else
        none
  | [first, second, third] =>
      if third % 4 = 0 then
        some [UInt8.ofNat (first * 4 + second / 16),
          UInt8.ofNat (second % 16 * 16 + third / 4)]
      else
        none
  | first :: second :: third :: fourth :: rest =>
      (bytesOfSextets? rest).map fun bytes =>
        UInt8.ofNat (first * 4 + second / 16) ::
          UInt8.ofNat (second % 16 * 16 + third / 4) ::
            UInt8.ofNat (third % 4 * 64 + fourth) :: bytes

/-- The letters of a text without its padding, when that is as long as the form
asks. -/
def Form.unpadded? (form : Form) (letters : List Char) : Option (List Char) :=
  if form.padded then
    let body := letters.takeWhile (· ≠ '=')
    let filling := letters.dropWhile (· ≠ '=')
    if filling.all (· = '=') ∧ filling.length < 3 ∧ letters.length % 4 = 0 then
      some body
    else
      none
  else
    some letters

def Form.decode? (form : Form) (letters : List Char) : Option (List UInt8) :=
  (form.unpadded? letters).bind fun body =>
    (body.mapM form.sextet?).bind bytesOfSextets?

end Gatekeeper.Base64
