import Gatekeeper.Token.Key
import Mathlib.Algebra.Ring.Nat

/-!
# RSA signatures

What a signature is, without the algorithm that checks it: a number whose power
by the public exponent, modulo the modulus, is a padded form of the message. The
check decides this for every key with an exponent below `2 ^ 40`, and a key that
is read from a text or from a published key has a smaller one.
-/

namespace Gatekeeper.Rsa

open Gatekeeper.Sha2

/-! ### Powers -/

theorem sq_mod_pow_mod (modulus base half : Nat) :
    (base * base % modulus) ^ half % modulus = base ^ (2 * half) % modulus := by
  rw [← Nat.pow_mod, ← pow_two, ← pow_mul]

/-- Squaring computes the power when the bits suffice for the exponent. -/
theorem powMod_eq {modulus bits base exponent : Nat}
    (fits : exponent < 2 ^ bits) :
    powMod modulus bits base exponent = base ^ exponent % modulus := by
  induction bits generalizing base exponent with
  | zero =>
      obtain rfl : exponent = 0 := by simpa using fits
      rw [powMod, pow_zero]
  | succ bits ih =>
      unfold powMod
      by_cases zero : exponent = 0
      · subst zero
        rw [if_pos rfl, pow_zero]
      · have halfFits : exponent / 2 < 2 ^ bits := by
          rw [pow_succ] at fits
          omega
        simp only [zero, if_false, ih halfFits, sq_mod_pow_mod]
        rcases Nat.mod_two_eq_zero_or_one exponent with even | odd
        · have whole : 2 * (exponent / 2) = exponent := by omega
          rw [even, whole]
          rfl
        · have whole : 2 * (exponent / 2) + 1 = exponent := by omega
          rw [odd, if_pos rfl, Nat.mul_mod_mod, ← pow_succ', whole]

/-! ### Signatures -/

/-- A block is a padded form of a message under a key. -/
def Padding.Fits (padding : Padding) (hash : Hash) (key : PublicKey)
    (message block : List UInt8) : Prop :=
  match padding with
  | .deterministic => block = deterministicBlock hash key.size message
  | .probabilistic =>
      isProbabilisticBlock hash key.bitSize message block = true

/-- Bytes sign a message: there are as many as the modulus takes, the number
that they write is below it, and its power is a padded form of the message. -/
structure IsSignature (key : PublicKey) (padding : Padding) (hash : Hash)
    (message signature : List UInt8) : Prop where
  length : signature.length = key.size
  reduced : numberOf signature < key.modulus
  padded : padding.Fits hash key message
    (bytesOf key.size (numberOf signature ^ key.exponent % key.modulus))

theorem verify_eq_true_iff {key : PublicKey} {padding : Padding} {hash : Hash}
    {message signature : List UInt8} (small : key.exponent < 2 ^ 40) :
    verify key padding hash message signature = true ↔
      IsSignature key padding hash message signature := by
  have power : powMod key.modulus 40 (numberOf signature) key.exponent =
      numberOf signature ^ key.exponent % key.modulus := powMod_eq small
  unfold verify
  simp only [power, Bool.and_eq_true, decide_eq_true_eq]
  constructor
  · rintro ⟨⟨length, reduced⟩, padded⟩
    refine ⟨length, reduced, ?_⟩
    cases padding with
    | deterministic => simpa [Padding.Fits] using padded
    | probabilistic => exact padded
  · rintro ⟨length, reduced, padded⟩
    refine ⟨⟨length, reduced⟩, ?_⟩
    cases padding with
    | deterministic => simpa [Padding.Fits] using padded
    | probabilistic => exact padded

/-! ### Exponents of keys -/

theorem PublicKey.exponent_lt_of_ofBytes? {modulus exponent : List UInt8}
    {key : PublicKey} (read : ofBytes? modulus exponent = some key) :
    key.exponent < 2 ^ 40 := by
  unfold ofBytes? at read
  simp only [Option.ite_none_right_eq_some, Bool.and_eq_true,
    decide_eq_true_eq, Option.some.injEq] at read
  obtain ⟨⟨-, bounded⟩, rfl⟩ := read
  exact Nat.lt_trans bounded (by decide)

theorem PublicKey.exponent_lt_of_ofDer? {der : List UInt8} {key : PublicKey}
    (read : ofDer? der = some key) : key.exponent < 2 ^ 40 := by
  unfold ofDer? at read
  simp only [Option.bind_eq_bind, Option.bind_eq_some_iff,
    Option.ite_none_right_eq_some] at read
  obtain ⟨_, -, _, -, _, -, -, fromBytes⟩ := read
  exact exponent_lt_of_ofBytes? fromBytes

end Gatekeeper.Rsa

namespace Gatekeeper

/-- A text with a key in it has an RSA key, perhaps an ill-formed one. -/
theorem VerificationKey.exists_content_of_ofText {text : String}
    {key : VerificationKey} (loaded : ofText text = .ok key) :
    ∃ content, key = .rsa (Rsa.PublicKey.ofDer? content) := by
  unfold ofText at loaded
  cases found : Pem.Block.first? text with
  | none => simp [found] at loaded
  | some block =>
      cases read : Der.Value.readAll? (block.content.length + 1)
          block.content with
      | none => simp [found, read] at loaded
      | some values =>
          simp only [found, read] at loaded
          split at loaded
          · exact ⟨block.content, (Except.ok.inj loaded).symm⟩
          · split at loaded
            · split at loaded
              · cases searched : Der.findContentIn? values with
                | none => simp [searched] at loaded
                | some content =>
                    simp only [searched, Except.ok.injEq] at loaded
                    exact ⟨content, loaded.symm⟩
              · cases loaded
            · cases loaded

theorem VerificationKey.exponent_lt_of_ofText {text : String}
    {key : Rsa.PublicKey} (loaded : ofText text = .ok (.rsa (some key))) :
    key.exponent < 2 ^ 40 := by
  obtain ⟨content, isKey⟩ := exists_content_of_ofText loaded
  have read := VerificationKey.rsa.inj isKey
  exact Rsa.PublicKey.exponent_lt_of_ofDer? read.symm

theorem PublishedKey.exponent_lt_of_verificationKey? {published : PublishedKey}
    {key : Rsa.PublicKey}
    (usable : published.verificationKey? = some (.rsa (some key))) :
    key.exponent < 2 ^ 40 := by
  obtain ⟨id, material⟩ := published
  unfold verificationKey? at usable
  cases material with
  | rsa modulus exponent =>
      simp only [Option.bind_eq_bind, Option.bind_eq_some_iff,
        Option.some.injEq, VerificationKey.rsa.injEq] at usable
      obtain ⟨_, -, _, -, read⟩ := usable
      exact Rsa.PublicKey.exponent_lt_of_ofBytes? read
  | ellipticCurve x y => simp [Option.bind_eq_some_iff] at usable
  | secret value => simp at usable
  | curvePoint x => simp at usable

end Gatekeeper
