import Gatekeeper.Text.Blank

/-!
# The SHA-2 hash functions

One description for all of them: a word size, a number of rounds, the rotations
of the four mixing functions, and a starting state. The constants are the
leading bits of the fractional parts of the square and cube roots of the first
primes.
-/

namespace Gatekeeper.Sha2

/-- The greatest number whose `power`-th power is at most `bound`, from `bits`
binary digits. -/
def floorRoot (power bound : Nat) : Nat → Nat → Nat
  | 0, root => root
  | bits + 1, root =>
      let candidate := root + Nat.pow 2 bits
      floorRoot power bound bits
        (if Nat.pow candidate power ≤ bound then candidate else root)

/-- The first 64 bits of the fractional part of a root of a small number. -/
def rootFraction (power number : Nat) : Nat :=
  floorRoot power (number * Nat.pow 2 (64 * power)) 70 0 % Nat.pow 2 64

def isPrime (number : Nat) : Bool :=
  2 ≤ number && (List.range number).all fun divisor =>
    divisor < 2 || number % divisor ≠ 0

def primes : List Nat :=
  (List.range 410).filter isPrime

def roundConstants : List Nat :=
  primes.map (rootFraction 3)

/-- A word size of 32 or 64 bits and the amounts that its mixing functions
rotate by; the last amount of a small function is a shift. -/
structure Shape where
  wordBits : Nat
  rounds : Nat
  bigFirst : Nat × Nat × Nat
  bigSecond : Nat × Nat × Nat
  smallFirst : Nat × Nat × Nat
  smallSecond : Nat × Nat × Nat

def shape32 : Shape :=
  ⟨32, 64, (2, 13, 22), (6, 11, 25), (7, 18, 3), (17, 19, 10)⟩

def shape64 : Shape :=
  ⟨64, 80, (28, 34, 39), (14, 18, 41), (1, 8, 7), (19, 61, 6)⟩

namespace Shape

abbrev Word (shape : Shape) := BitVec shape.wordBits

def wordBytes (shape : Shape) : Nat := shape.wordBits / 8

/-- The leading bits of a 64 bit constant. -/
def leading (shape : Shape) (constant : Nat) : shape.Word :=
  BitVec.ofNat shape.wordBits (constant >>> (64 - shape.wordBits))

def big (shape : Shape) (amounts : Nat × Nat × Nat) (word : shape.Word) :
    shape.Word :=
  word.rotateRight amounts.1 ^^^ word.rotateRight amounts.2.1 ^^^
    word.rotateRight amounts.2.2

def small (shape : Shape) (amounts : Nat × Nat × Nat) (word : shape.Word) :
    shape.Word :=
  word.rotateRight amounts.1 ^^^ word.rotateRight amounts.2.1 ^^^
    (word >>> amounts.2.2)

structure State (shape : Shape) where
  a : shape.Word
  b : shape.Word
  c : shape.Word
  d : shape.Word
  e : shape.Word
  f : shape.Word
  g : shape.Word
  h : shape.Word

def State.ofList {shape : Shape} : List shape.Word → State shape
  | [a, b, c, d, e, f, g, h] => ⟨a, b, c, d, e, f, g, h⟩
  | _ => ⟨0, 0, 0, 0, 0, 0, 0, 0⟩

def State.toList {shape : Shape} (state : State shape) : List shape.Word :=
  [state.a, state.b, state.c, state.d, state.e, state.f, state.g, state.h]

/-- One round with its constant and message word added together. -/
def State.round {shape : Shape} (state : State shape) (input : shape.Word) :
    State shape :=
  let choice := (state.e &&& state.f) ^^^ (~~~state.e &&& state.g)
  let majority :=
    (state.a &&& state.b) ^^^ (state.a &&& state.c) ^^^ (state.b &&& state.c)
  let first := state.h + shape.big shape.bigSecond state.e + choice + input
  let second := shape.big shape.bigFirst state.a + majority
  { a := first + second, b := state.a, c := state.b, d := state.c
    e := state.d + first, f := state.e, g := state.f, h := state.g }

/-- Feed rounds from a window of the last sixteen message words. -/
def feed {shape : Shape} :
    List shape.Word → List shape.Word → State shape → State shape
  | [], _, state => state
  | _ :: _, [], state => state
  | constant :: constants, word :: window, state =>
      let next :=
        shape.small shape.smallSecond (window.getD 13 0) + window.getD 8 0 +
          shape.small shape.smallFirst (window.getD 0 0) + word
      feed constants (window ++ [next]) (state.round (constant + word))

/-- The words of a byte string, most significant byte first. -/
def words (shape : Shape) : Nat → List UInt8 → List shape.Word
  | 0, _ => []
  | count + 1, bytes =>
      BitVec.ofNat shape.wordBits
          (Text.digitsValue 256
            ((bytes.take shape.wordBytes).map UInt8.toNat)) ::
        shape.words count (bytes.drop shape.wordBytes)

/-- The bytes of a word, most significant byte first. -/
def wordToBytes (shape : Shape) (word : shape.Word) : List UInt8 :=
  (List.range shape.wordBytes).map fun index =>
    UInt8.ofNat ((word >>> (8 * (shape.wordBytes - 1 - index))).toNat % 256)

def blockBytes (shape : Shape) : Nat := 16 * shape.wordBytes

def compress (shape : Shape) (constants : List shape.Word) (state : State shape)
    (block : List UInt8) : State shape :=
  let mixed := feed constants (shape.words 16 block) state
  State.ofList (List.zipWith (· + ·) state.toList mixed.toList)

/-- Fill a message up to whole blocks: a one bit, zeros, and the length in
bits. -/
def fill (shape : Shape) (message : List UInt8) : List UInt8 :=
  let lengthBytes := 2 * shape.wordBytes
  let zeros :=
    (2 * shape.blockBytes -
      (message.length + 1 + lengthBytes) % shape.blockBytes) %
      shape.blockBytes
  let bitLength := 8 * message.length
  message ++ 0x80 :: List.replicate zeros 0 ++
    (List.range lengthBytes).map fun index =>
      UInt8.ofNat (bitLength / Nat.pow 256 (lengthBytes - 1 - index) % 256)

/-- Take the first `blocks` blocks of a filled message into the state. -/
def absorb (shape : Shape) (constants : List shape.Word) :
    Nat → List UInt8 → State shape → State shape
  | 0, _, state => state
  | blocks + 1, message, state =>
      absorb shape constants blocks (message.drop shape.blockBytes)
        (shape.compress constants state (message.take shape.blockBytes))

end Shape

inductive Hash where
  | sha256
  | sha384
  | sha512
deriving DecidableEq, Repr

namespace Hash

def shape : Hash → Shape
  | sha256 => shape32
  | sha384 => shape64
  | sha512 => shape64

def size : Hash → Nat
  | sha256 => 32
  | sha384 => 48
  | sha512 => 64

/-- The starting state: square roots of the first eight primes, or of the next
eight. -/
def start : (hash : Hash) → Shape.State hash.shape
  | sha256 =>
      .ofList ((primes.take 8).map fun prime =>
        shape32.leading (rootFraction 2 prime))
  | sha384 =>
      .ofList (((primes.drop 8).take 8).map fun prime =>
        shape64.leading (rootFraction 2 prime))
  | sha512 =>
      .ofList ((primes.take 8).map fun prime =>
        shape64.leading (rootFraction 2 prime))

def constants32 : List shape32.Word :=
  (roundConstants.take 64).map shape32.leading

def constants64 : List shape64.Word :=
  (roundConstants.take 80).map shape64.leading

def constants : (hash : Hash) → List hash.shape.Word
  | sha256 => constants32
  | sha384 => constants64
  | sha512 => constants64

def digest (hash : Hash) (message : List UInt8) : List UInt8 :=
  let filled := hash.shape.fill message
  let final :=
    hash.shape.absorb hash.constants (filled.length / hash.shape.blockBytes)
      filled hash.start
  (final.toList.flatMap hash.shape.wordToBytes).take hash.size

end Hash

end Gatekeeper.Sha2
