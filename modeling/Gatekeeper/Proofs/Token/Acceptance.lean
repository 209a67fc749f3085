import Gatekeeper.Service.Assembly
import Mathlib.Algebra.Ring.Nat

/-!
# Acceptance of tokens

When a token becomes claims. An accepted token has a header with an accepted
algorithm, a signature that verifies under the key that it selects, and a
payload within its times that agrees with the configured issuer and audience.
The characterizations are composed here from the check of a payload up to the
identity provider of a service, whichever source its keys come from.
-/

namespace Gatekeeper

open Gatekeeper.Json

/-! ### Payloads -/

/-- The time lies within the bounds of a payload, give or take the leeway. -/
structure TokenRules.IsTimely (rules : TokenRules) (now : Nat)
    (payload : Members) : Prop where
  unexpired : ∃ expiry, momentOf? (payload.get? "exp") = some expiry ∧
    now - rules.leeway ≤ expiry
  begun : ∀ start, momentOf? (payload.get? "nbf") = some start →
    start ≤ now + rules.leeway

private theorem any_lt_eq_false_iff {moment : Option Nat} {bound : Nat} :
    moment.any (bound < ·) = false ↔
      ∀ start, moment = some start → start ≤ bound := by
  cases moment with
  | none => simp
  | some start => simp

theorem TokenRules.checkPayload_eq_ok_iff {rules : TokenRules} {now : Nat}
    {payload : Members} :
    rules.checkPayload now payload = .ok () ↔
      rules.IsTimely now payload ∧
        agrees rules.issuer (payload.get? "iss") = true ∧
        agrees rules.audience (payload.get? "aud") = true := by
  unfold TokenRules.checkPayload
  cases expiryMember : momentOf? (payload.get? "exp") with
  | none =>
      simp only [reduceCtorEq, false_iff]
      rintro ⟨⟨⟨expiry, isExpiry, -⟩, -⟩, -⟩
      rw [expiryMember] at isExpiry
      cases isExpiry
  | some expiry =>
      by_cases expired : expiry < now - rules.leeway
      · simp only [expired, if_true, reduceCtorEq, false_iff]
        rintro ⟨⟨⟨other, isExpiry, late⟩, -⟩, -⟩
        rw [expiryMember] at isExpiry
        cases isExpiry
        omega
      · have unexpired : ∃ other,
            momentOf? (payload.get? "exp") = some other ∧
              now - rules.leeway ≤ other :=
          ⟨expiry, expiryMember, by omega⟩
        simp only [expired, if_false]
        cases immature :
            (momentOf? (payload.get? "nbf")).any (now + rules.leeway < ·) with
        | true =>
            simp only [if_true, reduceCtorEq, false_iff]
            rintro ⟨⟨-, begun⟩, -⟩
            rw [any_lt_eq_false_iff.mpr begun] at immature
            cases immature
        | false =>
            have begun := any_lt_eq_false_iff.mp immature
            have timely : rules.IsTimely now payload := ⟨unexpired, begun⟩
            cases issued : agrees rules.issuer (payload.get? "iss") <;>
              cases meant : agrees rules.audience (payload.get? "aud") <;>
              simp [timely]

/-- The payload of a token by its parts, whether or not the token is valid. -/
def TokenParts.members? (parts : TokenParts) : Option Members :=
  (Base64.urlSafe.decode? parts.payload).bind payloadOf?

/-- The payload that a token carries, whether or not the token is valid. -/
def carriedPayload? (token : String) : Option Members :=
  (TokenParts.ofText? token).bind TokenParts.members?

theorem TokenRules.validate_eq_ok_iff {rules : TokenRules} {now : Nat}
    {algorithm : AcceptedAlgorithm} {key : VerificationKey}
    {parts : TokenParts} {payload : Members} :
    rules.validate now algorithm key parts = .ok payload ↔
      parts.checkSignature algorithm key = .ok () ∧
        parts.members? = some payload ∧
        rules.checkPayload now payload = .ok () := by
  unfold TokenRules.validate TokenParts.members?
  cases parts.checkSignature algorithm key with
  | error fault => simp
  | ok =>
      cases Base64.urlSafe.decode? parts.payload with
      | none => simp
      | some bytes =>
          cases read : payloadOf? bytes with
          | none => simp [read]
          | some carried =>
              simp only [Option.bind_some, read, Option.some.injEq, true_and]
              constructor
              · intro valid
                cases checked : rules.checkPayload now carried with
                | error fault => simp [checked] at valid
                | ok =>
                    simp only [checked, Except.ok.injEq] at valid
                    subst valid
                    exact ⟨rfl, checked⟩
              · rintro ⟨rfl, checked⟩
                simp [checked]

/-- Claims expire when the payload says. -/
theorem TokenRules.expiresAt_of_claims {rules : TokenRules} {payload : Members}
    {claims : Claims} (derived : rules.claims payload = .ok claims) :
    ∃ number, payload.get? "exp" = some (.number number) ∧
      claims.expiresAt = wholeSeconds number := by
  unfold TokenRules.claims at derived
  split at derived
  · rename_i number expiry
    dsimp only at derived
    split at derived
    · cases derived
    · obtain rfl := Except.ok.inj derived
      exact ⟨number, expiry, rfl⟩
  · cases derived

/-! ### Tokens under one key -/

private theorem mapError_eq_ok_iff {Fault Failure Result : Type}
    {describe : Fault → Failure} {outcome : Except Fault Result}
    {result : Result} :
    outcome.mapError describe = .ok result ↔ outcome = .ok result := by
  cases outcome with
  | error fault => exact ⟨nofun, nofun⟩
  | ok other =>
      exact ⟨fun same => congrArg Except.ok (Except.ok.inj same),
        fun same => congrArg Except.ok (Except.ok.inj same)⟩

theorem ExaminedToken.ofText_eq_ok_iff {token : String}
    {examined : ExaminedToken} :
    ExaminedToken.ofText token = .ok examined ↔
      TokenParts.ofText? token = some examined.parts ∧
        ∃ header, TokenHeader.decode examined.parts.header = .ok header ∧
          header.algorithm.accepted? = some examined.algorithm ∧
          header.keyId = examined.keyId := by
  obtain ⟨parts, algorithm, keyId⟩ := examined
  unfold ExaminedToken.ofText TokenHeader.ofToken
  cases TokenParts.ofText? token with
  | none => simp
  | some split =>
      cases decoded : TokenHeader.decode split.header with
      | error fault =>
          simp only [decoded, Except.map, reduceCtorEq, Option.some.injEq,
            false_iff]
          rintro ⟨rfl, header, isHeader, -⟩
          rw [decoded] at isHeader
          cases isHeader
      | ok header =>
          simp only [decoded, Except.map, Option.some.injEq]
          cases accepted : header.algorithm.accepted? with
          | none =>
              simp only [reduceCtorEq, false_iff]
              rintro ⟨rfl, other, isHeader, isAccepted, -⟩
              rw [decoded] at isHeader
              cases isHeader
              rw [accepted] at isAccepted
              cases isAccepted
          | some named =>
              simp only [Except.ok.injEq, ExaminedToken.mk.injEq]
              constructor
              · rintro ⟨rfl, rfl, rfl⟩
                exact ⟨rfl, header, decoded, accepted, rfl⟩
              · rintro ⟨rfl, other, isHeader, isAccepted, rfl⟩
                rw [decoded] at isHeader
                cases isHeader
                rw [accepted] at isAccepted
                exact ⟨rfl, Option.some.inj isAccepted, rfl⟩

theorem ExaminedToken.judge_eq_ok_iff {token : ExaminedToken}
    {rules : TokenRules} {now : Nat} {key : VerificationKey}
    {claims : Claims} :
    token.judge rules now key = .ok claims ↔
      ∃ payload,
        rules.validate now token.algorithm key token.parts = .ok payload ∧
          rules.claims payload = .ok claims := by
  unfold ExaminedToken.judge
  cases rules.validate now token.algorithm key token.parts with
  | error fault => simp
  | ok payload => simp [mapError_eq_ok_iff]

theorem authenticateUnderKey_eq_ok_iff {rules : TokenRules}
    {key : VerificationKey} {now : Nat} {token : String} {claims : Claims} :
    authenticateUnderKey rules key now token = .ok claims ↔
      ∃ examined, ExaminedToken.ofText token = .ok examined ∧
        examined.judge rules now key = .ok claims := by
  unfold authenticateUnderKey
  cases ExaminedToken.ofText token with
  | error fault => simp
  | ok examined => simp [mapError_eq_ok_iff]

/-! ### A signed token

A token with a subject and an expiry and nothing else.
-/

namespace Sample

/-- The modulus of a key of 2048 bits. -/
def modulus : Nat :=
  0xddd1299c30a7e330e15e632959c0c7d1d33500acecc75c433c2bef0efe284285 * 2 ^ 1792 +
    0x0f9fe3b9f8c18bd9fd4dac8f34f7632472c9b16e9213865959dddd8197b0bb85 * 2 ^ 1536 +
    0xa6a74c6b937551c8ab69a5a32c95ceff0471a02a805161e8055a4468d44761b5 * 2 ^ 1280 +
    0x8add20d79fa663657f2e228d0f724f59693fba67464fc282866b94635e3717a2 * 2 ^ 1024 +
    0x731ceefe94ee538a13aed3ce811e1d6940d8133c205bf800572758d646c2f53e * 2 ^ 768 +
    0x6cd4e76bf0119b4839df5fc19499499d1f0a9aa26973d8c65983d8656d59ad69 * 2 ^ 512 +
    0xc45fdd6aa5438e6cf070076c0bc592e1635e502ac5b4773193ec1a464e51a7dd * 2 ^ 256 +
    0xd53cadfee8498df95ec8291417d54fd741e66a14eb2345951b96e0c1fac56e01

def key : VerificationKey :=
  .rsa (some ⟨modulus, 65537⟩)

def letter (sextet : Nat) : Char :=
  if sextet < 26 then Char.ofNat (sextet + 65)
  else if sextet < 52 then Char.ofNat (sextet + 71)
  else if sextet < 62 then Char.ofNat (sextet - 4)
  else if sextet = 62 then '-'
  else '_'

/-- The letters of the lowest sextets of a number. -/
def letters (number : Nat) : Nat → List Char
  | 0 => []
  | count + 1 => letter (number / 64 ^ count % 64) :: letters number count

private theorem letter_ne_dot : ∀ sextet < 64, letter sextet ≠ '.' := by
  decide

theorem dot_not_mem_letters (number count : Nat) :
    '.' ∉ letters number count := by
  induction count with
  | zero => simp [letters]
  | succ count ih =>
      have first : letter (number / 64 ^ count % 64) ≠ '.' :=
        letter_ne_dot _ (Nat.mod_lt _ (by omega))
      simp only [letters, List.mem_cons, not_or]
      exact ⟨first.symm, ih⟩

/-- The header `{"alg":"RS256"}`. -/
def header : List Char :=
  letters 0x7b22616c67223a225253323536227d 20

/-- The payload `{"sub":"mallory","exp":1800000000}`. -/
def payload : List Char :=
  letters (0x7b22737562223a226d616c6c6f7279222c22657870223a313830303030303030307d * 16) 46

def signature : List Char :=
  letters
    ((0x5d586782134298266e31481feaacca16b6efa2bfbcc9cbbdf42d0e74e3c10234 * 2 ^ 1792 +
      0x3682622a5916ac4905122d4f1e90b09b4674596e465936a64b04d24b654ff425 * 2 ^ 1536 +
      0xc5065f3175495e24644feb40e88d4bc0feea800db29a9f0f87edc510ca9e377d * 2 ^ 1280 +
      0x3883ae2a990a86526ef066abd57a09f704ffc0ff753eebf0f0871437dd76ead6 * 2 ^ 1024 +
      0xc1f73207b090bcb56caafde21401550a05bbde3ce72768024bf556c68f6a130d * 2 ^ 768 +
      0x204af6b32b55b1d93cebcfec31d3fe0aa903e3e583dd3310f5f693efacc43d63 * 2 ^ 512 +
      0x9f8d0a1fad5c0a3d06c8f36e2b06f80be9f8370cebae7018020670c5ee34a95c * 2 ^ 256 +
      0x091f73f7cff1a3db1087f81413cb7e560680f5bb7cee5f7aeccae68ab0802c07) * 16)
    342

def parts : TokenParts :=
  ⟨header, payload, signature⟩

def tokenText : List Char :=
  header ++ '.' :: payload ++ '.' :: signature

def token : String :=
  String.ofList tokenText

theorem ofText?_token : TokenParts.ofText? token = some parts :=
  TokenParts.ofText?_eq_some_iff.mpr
    ⟨String.toList_ofList, dot_not_mem_letters _ _, dot_not_mem_letters _ _⟩

theorem eq_ok_of_toOption {Fault Value : Type}
    {outcome : Except Fault Value} {value : Value}
    (succeeds : outcome.toOption = some value) : outcome = .ok value := by
  cases outcome with
  | error fault => cases succeeds
  | ok other => exact congrArg Except.ok (Option.some.inj succeeds)

/-- An expiry and a subject where members hold nothing else. -/
def expiryAndSubject? : Members → Option (Nat × String)
  | [("exp", .number (.natural expiry)), ("sub", .string subject)] =>
      some (expiry, subject)
  | _ => none

theorem eq_of_expiryAndSubject? {members : Members} {expiry : Nat}
    {subject : String}
    (shape : expiryAndSubject? members = some (expiry, subject)) :
    members = [("exp", .nat expiry), ("sub", .string subject)] := by
  unfold expiryAndSubject? at shape
  split at shape
  · cases shape
    rfl
  · cases shape

/-- What the parts are decoded to, and that the signature verifies. -/
theorem parts_readings :
    (TokenHeader.decode header).toOption = some ⟨.rs256, none⟩ ∧
      parts.members?.bind expiryAndSubject? = some (1800000000, "mallory") ∧
      (parts.checkSignature ⟨.deterministic, .sha256⟩ key).toOption =
        some () := by
  decide +kernel

theorem examined_token :
    ExaminedToken.ofText token =
      .ok ⟨parts, ⟨.deterministic, .sha256⟩, none⟩ :=
  ExaminedToken.ofText_eq_ok_iff.mpr
    ⟨ofText?_token, ⟨.rs256, none⟩, eq_ok_of_toOption parts_readings.1, rfl,
      rfl⟩

theorem checkSignature_parts :
    parts.checkSignature ⟨.deterministic, .sha256⟩ key = .ok () :=
  eq_ok_of_toOption parts_readings.2.2

theorem members?_parts :
    parts.members? =
      some [("exp", .nat 1800000000), ("sub", .string "mallory")] := by
  obtain ⟨members, read, shape⟩ :=
    Option.bind_eq_some_iff.mp parts_readings.2.1
  rw [read, eq_of_expiryAndSubject? shape]

def claims : Claims :=
  ⟨"mallory", "mallory", 1800000000, [("exp", .nat 1800000000)]⟩

/-- Under its key the token is good until it expires, whatever issuer and
audience are configured. -/
theorem judge_token (rules : TokenRules) {now : Nat}
    (early : now ≤ 1800000000) :
    ExaminedToken.judge ⟨parts, ⟨.deterministic, .sha256⟩, none⟩ rules now
      key = .ok claims := by
  refine ExaminedToken.judge_eq_ok_iff.mpr ⟨_,
    TokenRules.validate_eq_ok_iff.mpr
      ⟨checkSignature_parts, members?_parts, ?_⟩, ?_⟩
  · refine TokenRules.checkPayload_eq_ok_iff.mpr ⟨⟨?_, ?_⟩, ?_, ?_⟩
    · exact ⟨1800000000, rfl, by omega⟩
    · intro start isStart
      cases isStart
    · cases rules.issuer <;> rfl
    · cases rules.audience <;> rfl
  · have nameless :
        nonEmpty? (Members.get? [("exp", Json.nat 1800000000)]
          rules.usernameClaim) = none := by
      simp only [Members.get?, List.lookup_cons]
      cases rules.usernameClaim == "exp" <;> rfl
    have extra : Members.erase
        [("exp", Json.nat 1800000000), ("sub", .string "mallory")] "sub" =
          [("exp", Json.nat 1800000000)] := by
      simp [Members.erase]
    simp only [TokenRules.claims, extra, nameless]
    rfl

end Sample

/-! ### Tokens of a service -/

namespace IdentitySource

variable {Outside : Type}

def rules : IdentitySource → TokenRules
  | .published _ keys => keys.rules
  | .configured rules _ => rules

/-- The key that a source has for a token with a key id. A configured key is
for every token. -/
def keyFor (source : IdentitySource) (network : Network Outside) (now : Nat)
    (keyId : Option String) (state : KeyCache × Outside) :
    Except IdentityFailure VerificationKey × KeyCache × Outside :=
  match source with
  | .published url keys => keys.keyFor (network.fetchKeys url) now keyId state
  | .configured _ key => (.ok key, state)

end IdentitySource

theorem PublishedKeys.authenticate_eq_ok_iff {State : Type}
    {provider : PublishedKeys} {fetch : State → Http.Exchange × State}
    {now : Nat} {token : String} {state : KeyCache × State}
    {claims : Claims} :
    (provider.authenticate fetch now token state).1 = .ok claims ↔
      ∃ examined key, ExaminedToken.ofText token = .ok examined ∧
        (provider.keyFor fetch now examined.keyId state).1 = .ok key ∧
        examined.judge provider.rules now key = .ok claims := by
  unfold PublishedKeys.authenticate
  cases ExaminedToken.ofText token with
  | error fault => simp
  | ok examined =>
      rcases selected : provider.keyFor fetch now examined.keyId state with
        ⟨failure | key, after⟩
      · simp [selected]
      · simp [selected, mapError_eq_ok_iff]

/-- The identity provider of a service accepts a token when the source has a
key for it under which it is judged valid. -/
theorem Service.provider_eq_ok_iff {Outside : Type} {service : Service}
    {network : Network Outside} {now : Nat} {token : String}
    {state : KeyCache × Outside} {claims : Claims} :
    (service.provider network now token state).1 = .ok claims ↔
      ∃ examined key, ExaminedToken.ofText token = .ok examined ∧
        (service.identity.keyFor network now examined.keyId state).1 =
          .ok key ∧
        examined.judge service.identity.rules now key = .ok claims := by
  unfold Service.provider IdentitySource.keyFor IdentitySource.rules
  cases service.identity with
  | published url keys => exact PublishedKeys.authenticate_eq_ok_iff
  | configured rules key => simp [authenticateUnderKey_eq_ok_iff]

end Gatekeeper
