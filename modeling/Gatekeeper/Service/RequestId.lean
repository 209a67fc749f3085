/-!
# Request ids

An id is a random UUID: sixteen bytes, of which six bits are fixed, in groups of
hexadecimal digits.
-/

namespace Gatekeeper.RequestId

def hexDigit (value : Nat) : Char :=
  if value < 10 then Char.ofNat ('0'.toNat + value)
  else Char.ofNat ('a'.toNat + (value - 10))

def hexText (bytes : List UInt8) : String :=
  String.ofList (bytes.flatMap fun byte =>
    [hexDigit (byte.toNat / 16), hexDigit (byte.toNat % 16)])

/-- The bits that say that an id is random. -/
def marked (bytes : List UInt8) : List UInt8 :=
  (bytes.modify 6 fun byte => byte &&& 0x0F ||| 0x40).modify 8 fun byte =>
    byte &&& 0x3F ||| 0x80

def ofBytes (bytes : List UInt8) : String :=
  let bytes := marked bytes
  "-".intercalate
    [hexText (bytes.take 4), hexText ((bytes.drop 4).take 2),
      hexText ((bytes.drop 6).take 2), hexText ((bytes.drop 8).take 2),
      hexText (bytes.drop 10)]

end Gatekeeper.RequestId
