/-!
# UTF-8

Bytes are read as symbols: a symbol is a character, or nothing where the bytes
are not UTF-8. One missing character stands for each longest run of bytes that
begins a character and does not complete it.
-/

namespace Gatekeeper.Text

/-- A character, or a place where the bytes are not UTF-8. -/
abbrev Symbol := Option Char

def symbols (text : String) : List Symbol :=
  text.toList.map some

namespace Utf8

def encodeChar (character : Char) : List UInt8 :=
  let code := character.toNat
  if code < 0x80 then
    [UInt8.ofNat code]
  else if code < 0x800 then
    [UInt8.ofNat (0xC0 + code / 0x40), UInt8.ofNat (0x80 + code % 0x40)]
  else if code < 0x10000 then
    [UInt8.ofNat (0xE0 + code / 0x1000),
      UInt8.ofNat (0x80 + code / 0x40 % 0x40), UInt8.ofNat (0x80 + code % 0x40)]
  else
    [UInt8.ofNat (0xF0 + code / 0x40000),
      UInt8.ofNat (0x80 + code / 0x1000 % 0x40),
      UInt8.ofNat (0x80 + code / 0x40 % 0x40), UInt8.ofNat (0x80 + code % 0x40)]

def encode (text : String) : List UInt8 :=
  text.toList.flatMap encodeChar

/-- What a first byte asks for: its own bits, how many bytes follow, and the
range of the byte right after it. -/
structure Lead where
  bits : Nat
  following : Nat
  low : Nat
  high : Nat

def lead? (byte : UInt8) : Option Lead :=
  let code := byte.toNat
  if code < 0x80 then some ⟨code, 0, 0x80, 0xBF⟩
  else if code < 0xC2 then none
  else if code < 0xE0 then some ⟨code - 0xC0, 1, 0x80, 0xBF⟩
  else if code = 0xE0 then some ⟨0, 2, 0xA0, 0xBF⟩
  else if code = 0xED then some ⟨0xD, 2, 0x80, 0x9F⟩
  else if code < 0xF0 then some ⟨code - 0xE0, 2, 0x80, 0xBF⟩
  else if code = 0xF0 then some ⟨0, 3, 0x90, 0xBF⟩
  else if code < 0xF4 then some ⟨code - 0xF0, 3, 0x80, 0xBF⟩
  else if code = 0xF4 then some ⟨4, 3, 0x80, 0x8F⟩
  else none

/-- Read bytes as symbols. `started` holds the bits read of an unfinished
character, how many bytes it still needs, and the range of the next one. -/
def decodeFrom : Option Lead → List UInt8 → List Symbol
  | none, [] => []
  | some _, [] => [none]
  | none, byte :: rest =>
      match lead? byte with
      | none => none :: decodeFrom none rest
      | some lead =>
          if lead.following = 0 then
            some (Char.ofNat lead.bits) :: decodeFrom none rest
          else
            decodeFrom (some lead) rest
  | some lead, byte :: rest =>
      let code := byte.toNat
      if lead.low ≤ code ∧ code ≤ lead.high then
        let bits := lead.bits * 0x40 + (code - 0x80)
        if lead.following = 1 then
          some (Char.ofNat bits) :: decodeFrom none rest
        else
          decodeFrom (some ⟨bits, lead.following - 1, 0x80, 0xBF⟩) rest
      else
        match lead? byte with
        | none => none :: none :: decodeFrom none rest
        | some next =>
            if next.following = 0 then
              none :: some (Char.ofNat next.bits) :: decodeFrom none rest
            else
              none :: decodeFrom (some next) rest

def decode (bytes : List UInt8) : List Symbol :=
  decodeFrom none bytes

/-- The text of bytes that are UTF-8 throughout. -/
def decode? (bytes : List UInt8) : Option String :=
  ((decode bytes).mapM id).map String.ofList

/-- The text of any bytes, with U+FFFD where they are not UTF-8. -/
def decodeLossy (bytes : List UInt8) : String :=
  String.ofList ((decode bytes).map fun symbol => symbol.getD '\uFFFD')

end Utf8

end Gatekeeper.Text
