import Gatekeeper.Codec.Der
import Gatekeeper.Crypto.Sha2

/-!
# RSA signatures

Verification of signatures under RSA public keys of 2048 to 8192 bits, with
deterministic padding or with probabilistic padding whose salt is as long as the
digest.
-/

namespace Gatekeeper.Rsa

open Gatekeeper.Sha2

structure PublicKey where
  modulus : Nat
  exponent : Nat
deriving DecidableEq, Repr

inductive Padding where
  | deterministic
  | probabilistic
deriving DecidableEq, Repr

/-- The number that bytes write, most significant first. -/
def numberOf (bytes : List UInt8) : Nat :=
  Text.digitsValue 256 (bytes.map UInt8.toNat)

/-- A number in `length` bytes, most significant first. -/
def bytesOf (length number : Nat) : List UInt8 :=
  (List.range length).map fun index =>
    UInt8.ofNat (number / Nat.pow 256 (length - 1 - index) % 256)

namespace PublicKey

def size (key : PublicKey) : Nat :=
  (Nat.log2 key.modulus + 8) / 8

def bitSize (key : PublicKey) : Nat :=
  Nat.log2 key.modulus + 1

/-- A key from its two numbers in bytes, neither with a leading zero. The
modulus is odd, takes at least 256 bytes and at most 8192 bits; the exponent is
odd, at least 3 and below `2 ^ 33`. -/
def ofBytes? (modulus exponent : List UInt8) : Option PublicKey :=
  let key : PublicKey := ⟨numberOf modulus, numberOf exponent⟩
  if modulus.head?.all (· ≠ 0) && exponent.head?.all (· ≠ 0) &&
      key.modulus % 2 = 1 && 256 ≤ modulus.length && key.bitSize ≤ 8192 &&
      key.exponent % 2 = 1 && 3 ≤ key.exponent &&
      key.exponent < Nat.pow 2 33 then
    some key
  else
    none

/-- A key from its DER form: a sequence of the two numbers and nothing else. -/
def ofDer? (der : List UInt8) : Option PublicKey := do
  let (body, after) ← Der.readExact? 0x30 der
  let (modulus, rest) ← Der.readPositive? body
  let (exponent, last) ← Der.readPositive? rest
  if after.isEmpty && last.isEmpty then ofBytes? modulus exponent else none

end PublicKey

/-- `base ^ exponent` modulo `modulus`, by squaring. `bits` bounds the binary
length of the exponent. -/
def powMod (modulus : Nat) : Nat → Nat → Nat → Nat
  | 0, _, _ => 1 % modulus
  | bits + 1, base, exponent =>
      if exponent = 0 then
        1 % modulus
      else
        let half := powMod modulus bits (base * base % modulus) (exponent / 2)
        if exponent % 2 = 1 then base * half % modulus else half

/-- The DER of the algorithm identifier of a digest, up to the digest itself. -/
def digestHeader (hash : Hash) : List UInt8 :=
  let (last, total, length) : UInt8 × UInt8 × UInt8 :=
    match hash with
    | .sha256 => (1, 0x31, 0x20)
    | .sha384 => (2, 0x41, 0x30)
    | .sha512 => (3, 0x51, 0x40)
  [0x30, total, 0x30, 0x0D, 0x06, 0x09, 0x60, 0x86, 0x48, 0x01, 0x65, 0x03,
    0x04, 0x02, last, 0x05, 0x00, 0x04, length]

/-- The one padded form of a digest that deterministic padding allows. -/
def deterministicBlock (hash : Hash) (size : Nat) (message : List UInt8) :
    List UInt8 :=
  let tail := 0 :: digestHeader hash ++ hash.digest message
  0 :: 1 :: List.replicate (size - 2 - tail.length) 0xFF ++ tail

/-- The mask of a seed: digests of the seed with a counter. -/
def mask (hash : Hash) (seed : List UInt8) (length : Nat) : List UInt8 :=
  ((List.range ((length + hash.size - 1) / hash.size)).flatMap fun counter =>
    hash.digest (seed ++ bytesOf 4 counter)).take length

/-- Whether a block is a probabilistic padding of a message, for a key of some
number of bits. -/
def isProbabilisticBlock (hash : Hash) (bitSize : Nat)
    (message block : List UInt8) : Bool :=
  let topBits := (bitSize - 1) % 8
  let (spare, encoded) :=
    if topBits = 0 then (block.take 1, block.drop 1) else ([], block)
  let topLimit := if topBits = 0 then 256 else Nat.pow 2 topBits
  let dataLength := encoded.length - hash.size - 1
  let masked := encoded.take dataLength
  let digest := (encoded.drop dataLength).take hash.size
  let unmasked := List.zipWith (· ^^^ ·) masked (mask hash digest dataLength)
  let data :=
    match unmasked with
    | [] => []
    | first :: rest => UInt8.ofNat (first.toNat % topLimit) :: rest
  let zeros := dataLength - hash.size - 1
  let salt := data.drop (zeros + 1)
  spare.all (· = 0) &&
    2 * hash.size + 2 ≤ encoded.length &&
    encoded.getLast? = some 0xBC &&
    masked.head?.all (fun first => first.toNat < topLimit) &&
    (data.take zeros).all (· = 0) &&
    data[zeros]? = some (1 : UInt8) &&
    hash.digest (List.replicate 8 0 ++ hash.digest message ++ salt) = digest

def verify (key : PublicKey) (padding : Padding) (hash : Hash)
    (message signature : List UInt8) : Bool :=
  let number := numberOf signature
  signature.length = key.size && number < key.modulus &&
    let block := bytesOf key.size (powMod key.modulus 40 number key.exponent)
    match padding with
    | .deterministic => block = deterministicBlock hash key.size message
    | .probabilistic => isProbabilisticBlock hash key.bitSize message block

end Gatekeeper.Rsa
