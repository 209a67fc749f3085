import Gatekeeper.Proofs.Crypto.Signature
import Gatekeeper.Proofs.Identity.KeyHistory

/-!
# Soundness of accepted tokens

What is known of a token once a provider has accepted it. Its header names an
accepted algorithm, its own text is signed by that algorithm under an RSA key
that the provider took from its configuration or from the set in use, and its
claims are those of the payload that was signed, within their times. A header
that names another algorithm is refused before any key is looked for.
-/

namespace Gatekeeper

open Gatekeeper.Json

/-! ### Genuine tokens -/

namespace SignatureAlgorithm

/-- The algorithms that tokens may be signed by. -/
def acceptedOnes : List SignatureAlgorithm :=
  [rs256, rs384, rs512, ps256, ps384, ps512]

theorem accepted?_eq_none_iff {algorithm : SignatureAlgorithm} :
    algorithm.accepted? = none ↔ algorithm ∉ acceptedOnes := by
  cases algorithm <;> decide

theorem mem_acceptedOnes {algorithm : SignatureAlgorithm}
    {accepted : AcceptedAlgorithm}
    (isAccepted : algorithm.accepted? = some accepted) :
    algorithm ∈ acceptedOnes := by
  by_contra other
  rw [accepted?_eq_none_iff.mpr other] at isAccepted
  cases isAccepted

end SignatureAlgorithm

/-- A payload supports claims at a time: it has not expired, it has begun, and
the claims are its own. -/
structure TokenRules.Supports (rules : TokenRules) (now : Nat)
    (payload : Members) (claims : Claims) : Prop where
  expiry : ∃ number, payload.get? "exp" = some (.number number) ∧
    ∀ seconds, number = .natural seconds →
      now ≤ seconds + rules.leeway ∧ claims.expiresAt = seconds
  start : ∀ seconds,
    payload.get? "nbf" = some (.number (.natural seconds)) →
      seconds ≤ now + rules.leeway
  claimed : rules.claims payload = .ok claims

/-- A token by its parts and its header is signed under a key, and its payload
supports claims. -/
structure IsGenuine (rules : TokenRules) (now : Nat) (token : String)
    (parts : TokenParts) (header : TokenHeader) (key : Rsa.PublicKey)
    (claims : Claims) : Prop where
  split : TokenHeader.ofToken token = .ok (parts, header)
  whole : token.toList = parts.signedText.toList ++ '.' :: parts.signature
  named : header.algorithm ∈ SignatureAlgorithm.acceptedOnes
  signed : ∃ algorithm signature,
    header.algorithm.accepted? = some algorithm ∧
      Base64.urlSafe.decode? parts.signature = some signature ∧
      Rsa.IsSignature key algorithm.padding algorithm.hash
        (Text.Utf8.encode parts.signedText) signature
  supported : ∃ payload, parts.members? = some payload ∧
    rules.Supports now payload claims

/-! ### Keys in texts -/

/-- A block of the tag for RSA keys holds the key itself. -/
theorem VerificationKey.ofText_of_first? {text : String}
    {content : List UInt8} {values : List Der.Value}
    (first : Pem.Block.first? text = some ⟨"RSA PUBLIC KEY", content⟩)
    (read : Der.Value.readAll? (content.length + 1) content = some values) :
    VerificationKey.ofText text =
      .ok (.rsa (Rsa.PublicKey.ofDer? content)) := by
  simp [VerificationKey.ofText, first, read]

/-! ### Judgement -/

theorem TokenParts.checkSignature_eq_ok_iff {parts : TokenParts}
    {algorithm : AcceptedAlgorithm} {key : VerificationKey} :
    parts.checkSignature algorithm key = .ok () ↔
      ∃ publicKey signature, key = .rsa (some publicKey) ∧
        Base64.urlSafe.decode? parts.signature = some signature ∧
        Rsa.verify publicKey algorithm.padding algorithm.hash
          (Text.Utf8.encode parts.signedText) signature = true := by
  unfold TokenParts.checkSignature
  cases key with
  | otherFamily => simp
  | rsa candidate =>
      cases decoded : Base64.urlSafe.decode? parts.signature with
      | none => simp
      | some signature =>
          cases candidate with
          | none => simp
          | some publicKey => simp

/-- A payload that passes its check supports the claims that are made of it. -/
theorem TokenRules.supports_of_checkPayload {rules : TokenRules} {now : Nat}
    {payload : Members} {claims : Claims}
    (checked : rules.checkPayload now payload = .ok ())
    (claimed : rules.claims payload = .ok claims) :
    rules.Supports now payload claims := by
  obtain ⟨timely, -, -⟩ := checkPayload_eq_ok_iff.mp checked
  obtain ⟨number, isExpiry, expiresAt⟩ := expiresAt_of_claims claimed
  refine ⟨⟨number, isExpiry, ?_⟩, ?_, claimed⟩
  · rintro seconds rfl
    obtain ⟨moment, isMoment, unexpired⟩ := timely.unexpired
    rw [isExpiry] at isMoment
    obtain rfl := Option.some.inj isMoment
    exact ⟨by omega, expiresAt⟩
  · intro seconds isStart
    apply timely.begun
    rw [isStart]
    rfl

/-- A token that is judged valid is genuine under an RSA key. -/
theorem ExaminedToken.exists_isGenuine {token : String}
    {examined : ExaminedToken} {rules : TokenRules} {now : Nat}
    {key : VerificationKey} {claims : Claims}
    (isExamined : ExaminedToken.ofText token = .ok examined)
    (judged : examined.judge rules now key = .ok claims)
    (small : ∀ publicKey, key = .rsa (some publicKey) →
      publicKey.exponent < 2 ^ 40) :
    ∃ publicKey header, key = .rsa (some publicKey) ∧
      header.keyId = examined.keyId ∧
      IsGenuine rules now token examined.parts header publicKey claims := by
  obtain ⟨split, header, isHeader, isAccepted, sameId⟩ :=
    ofText_eq_ok_iff.mp isExamined
  obtain ⟨payload, valid, claimed⟩ := judge_eq_ok_iff.mp judged
  obtain ⟨signed, carried, checked⟩ := TokenRules.validate_eq_ok_iff.mp valid
  obtain ⟨publicKey, signature, isKey, decoded, verified⟩ :=
    TokenParts.checkSignature_eq_ok_iff.mp signed
  have isSignature :=
    (Rsa.verify_eq_true_iff (small publicKey isKey)).mp verified
  refine ⟨publicKey, header, isKey, sameId, ?_, ?_,
    SignatureAlgorithm.mem_acceptedOnes isAccepted,
    ⟨examined.algorithm, signature, isAccepted, decoded, isSignature⟩,
    payload, carried, TokenRules.supports_of_checkPayload checked claimed⟩
  · simp [TokenHeader.ofToken, split, isHeader, Except.map]
  · rw [(TokenParts.ofText?_eq_some_iff.mp split).1, TokenParts.signedText,
      String.toList_ofList]

/-! ### The set in use -/

/-- The set that a call works with: the one that it received, or else the one
that was kept. -/
def KeyCall.used? (call : KeyCall) : Option KeySet :=
  call.received.getLast?.or call.before.set?

namespace PublishedKeys.Goes

variable {provider : PublishedKeys} {call : KeyCall} {claims : Claims}

/-- A call that receives a set in which its token selects an unusable key is
refused. -/
theorem not_spoils_of_accepted (goes : provider.Goes call)
    (accepted : call.answer = .ok claims) {set : KeySet}
    (received : set ∈ call.received) : call.spoils set = false := by
  obtain ⟨token, serving, exchange, examined, -, brought, -, answer⟩ :=
    goes.exists_take (KeyCall.brought_ne_nil_of_mem received)
  cases arrived : KeySet.ofExchange exchange with
  | error fault =>
      rw [KeyCall.received_of_failed brought arrived] at received
      cases received
  | ok other =>
      rw [KeyCall.received_of_arrived brought arrived] at received
      obtain rfl := List.mem_singleton.mp received
      cases found : set.find token.keyId with
      | ok selected =>
          rw [KeyCall.spoils_of_examined examined, found]
          rfl
      | error fault =>
          rw [answer, arrived, KeyCache.take_of_unusable found] at accepted
          cases accepted

/-- An accepted token is valid under the key that it selects in the set that
its call worked with. -/
theorem isVerifiedBy_used (goes : provider.Goes call)
    (accepted : call.answer = .ok claims) :
    ∃ set, call.used? = some set ∧
      call.IsVerifiedBy provider.rules set claims := by
  obtain ⟨set, isKept, verified⟩ := goes.isVerifiedBy_of_accepted accepted
  have unspoiled : ∀ set ∈ call.received, call.spoils set = true →
      call.before.set? = some set := by
    intro other received spoiled
    rw [goes.not_spoils_of_accepted accepted received] at spoiled
    cases spoiled
  rw [goes.set?_after_of_received unspoiled] at isKept
  exact ⟨set, isKept, verified⟩

end PublishedKeys.Goes

/-! ### Providers -/

/-- A token is refused for its header: it has none that can be read, or the
header names another algorithm. -/
theorem ExaminedToken.exists_fault_of_unaccepted {token : String}
    (unaccepted : ∀ parts header,
      TokenHeader.ofToken token = .ok (parts, header) →
        header.algorithm ∉ SignatureAlgorithm.acceptedOnes) :
    ∃ fault, ExaminedToken.ofText token = .error fault ∧
      ∀ parts header, TokenHeader.ofToken token = .ok (parts, header) →
        fault = .algorithm header.algorithm := by
  unfold ExaminedToken.ofText
  rcases read : TokenHeader.ofToken token with fault | ⟨parts, header⟩
  · exact ⟨.header fault, rfl, by simp⟩
  · have other := SignatureAlgorithm.accepted?_eq_none_iff.mpr
      (unaccepted parts header read)
    refine ⟨.algorithm header.algorithm, by simp [other], ?_⟩
    intro parts header same
    obtain ⟨rfl, rfl⟩ := Prod.mk.inj (Except.ok.inj same)
    rfl

/-- A token is accepted that is valid under the key that it selects in a
fetched set. -/
theorem PublishedKeys.authenticate_of_received {State : Type}
    {provider : PublishedKeys} {fetch : State → Http.Exchange × State}
    {now : Nat} {token : String} {cache : KeyCache} {network : State}
    {examined : ExaminedToken} {kept : Option VerificationKey} {set : KeySet}
    {key : VerificationKey} {claims : Claims}
    (isExamined : ExaminedToken.ofText token = .ok examined)
    (lookedUp : cache.lookUp provider.refreshInterval now examined.keyId =
      .fetch kept)
    (arrived : KeySet.ofExchange (fetch network).1 = .ok set)
    (found : set.find examined.keyId = .ok (some key))
    (judged : examined.judge provider.rules now key = .ok claims) :
    (provider.authenticate fetch now token (cache, network)).1 =
      .ok claims := by
  refine authenticate_eq_ok_iff.mpr ⟨examined, key, isExamined, ?_, judged⟩
  simp [keyFor, lookedUp, arrived, KeyCache.take_of_selected found]

/-- A token that a provider accepts is genuine. Under a configured key, that
key has signed it. With published keys it is signed by the key that its header
selects in the set that the call worked with. A token whose header does not
name an accepted algorithm is invalid for both, and nothing is fetched for
it. -/
theorem PublishedKeys.token_soundness {State : Type}
    (provider : PublishedKeys) (fetch : State → Http.Exchange × State)
    (now : Nat) (token : String) (state : KeyCache × State) :
    (∀ rules text key claims, VerificationKey.ofText text = .ok key →
      authenticateUnderKey rules key now token = .ok claims →
      ∃ publicKey parts header, key = .rsa (some publicKey) ∧
        IsGenuine rules now token parts header publicKey claims) ∧
    (∀ claims,
      (provider.authenticate fetch now token state).1 = .ok claims →
      ∃ set published publicKey parts header,
        (provider.call fetch now token state).1.used? = some set ∧
        set.Selects header.keyId published ∧
        published.verificationKey? = some (.rsa (some publicKey)) ∧
        IsGenuine provider.rules now token parts header publicKey claims) ∧
    ((∀ parts header, TokenHeader.ofToken token = .ok (parts, header) →
        header.algorithm ∉ SignatureAlgorithm.acceptedOnes) →
      ∃ fault : TokenFault,
        (∀ parts header, TokenHeader.ofToken token = .ok (parts, header) →
          fault = .algorithm header.algorithm) ∧
        (∀ rules key, authenticateUnderKey rules key now token =
          .error (.credentialInvalid fault.message)) ∧
        provider.authenticate fetch now token state =
          (.error (.credentialInvalid fault.message), state) ∧
        (provider.call fetch now token state).1.brought = []) := by
  refine ⟨?_, ?_, ?_⟩
  · intro rules text key claims loaded accepted
    obtain ⟨examined, isExamined, judged⟩ :=
      authenticateUnderKey_eq_ok_iff.mp accepted
    have small : ∀ publicKey, key = .rsa (some publicKey) →
        publicKey.exponent < 2 ^ 40 := by
      rintro publicKey rfl
      exact VerificationKey.exponent_lt_of_ofText loaded
    obtain ⟨publicKey, header, isKey, -, genuine⟩ :=
      ExaminedToken.exists_isGenuine isExamined judged small
    exact ⟨publicKey, examined.parts, header, isKey, genuine⟩
  · intro claims accepted
    rw [provider.authenticate_eq_call] at accepted
    have goes := provider.goes_call fetch now token state
    obtain ⟨set, used, examined, published, key, isExamined, selects, usable,
      judged⟩ := goes.isVerifiedBy_used accepted
    have small : ∀ publicKey, key = .rsa (some publicKey) →
        publicKey.exponent < 2 ^ 40 := by
      rintro publicKey rfl
      exact PublishedKey.exponent_lt_of_verificationKey? usable
    obtain ⟨publicKey, header, rfl, sameId, genuine⟩ :=
      ExaminedToken.exists_isGenuine isExamined judged small
    rw [← sameId] at selects
    exact ⟨set, published, publicKey, examined.parts, header, used, selects,
      usable, genuine⟩
  · intro unaccepted
    obtain ⟨fault, isFault, isAlgorithm⟩ :=
      ExaminedToken.exists_fault_of_unaccepted unaccepted
    refine ⟨fault, isAlgorithm, ?_, ?_, ?_⟩
    · intro rules key
      simp [authenticateUnderKey, isFault, TokenFault.failure]
    · simp [authenticate, isFault, TokenFault.failure]
    · obtain ⟨cache, network⟩ := state
      rw [call_of_unexamined isFault]

/-! ### The sample token

It is accepted under a key that stands in a text, and under the same key as it
is published.
-/

namespace Sample

/-- The sample key in DER, as a number of 270 bytes. -/
def keyNumber : Nat :=
  0x3082010a0282010100 * 2 ^ 2088 + modulus * 2 ^ 40 + 0x0203010001

def keyDer : List UInt8 :=
  Rsa.bytesOf 270 keyNumber

def keyLines : List Char :=
  "-----BEGIN RSA PUBLIC KEY-----\n".toList ++
    ((letters keyNumber 360).map fun letter =>
      if letter = '-' then '+' else if letter = '_' then '/' else letter) ++
    "\n-----END RSA PUBLIC KEY-----\n".toList

theorem key_readings :
    (((Pem.Block.next? keyLines).bind Prod.fst).map fun block =>
        (block.tag, block.content)) = some ("RSA PUBLIC KEY", keyDer) ∧
      (Der.Value.readAll? (keyDer.length + 1) keyDer).isSome = true ∧
      Rsa.PublicKey.ofDer? keyDer = some ⟨modulus, 65537⟩ := by
  decide +kernel

theorem ofText_keyLines :
    VerificationKey.ofText (String.ofList keyLines) = .ok key := by
  obtain ⟨read, wellFormed, isKey⟩ := key_readings
  obtain ⟨⟨tag, content⟩, isFirst, parts⟩ := Option.map_eq_some_iff.mp read
  obtain ⟨rfl, rfl⟩ := Prod.mk.inj parts
  obtain ⟨values, areValues⟩ := Option.isSome_iff_exists.mp wellFormed
  have first : Pem.Block.first? (String.ofList keyLines) =
      some ⟨"RSA PUBLIC KEY", keyDer⟩ := by
    rw [Pem.Block.first?, String.toList_ofList, isFirst]
  rw [VerificationKey.ofText_of_first? first areValues, isKey]
  rfl

theorem authenticate_token_published :
    (provider.authenticate scripted 1700000000 token
      (none, [.answered 200 publishedBody])).1 = .ok claims :=
  PublishedKeys.authenticate_of_received examined_token rfl
    ofExchange_bodies.1 find_publishedSet.1 (judge_token _ (by decide))

end Sample

theorem token_soundness_of_sample :
    VerificationKey.ofText (String.ofList Sample.keyLines) = .ok Sample.key ∧
      authenticateUnderKey ⟨none, none, "sub", 0⟩ Sample.key 1700000000
        Sample.token = .ok Sample.claims ∧
      (Sample.provider.authenticate Sample.scripted 1700000000 Sample.token
        (none, [.answered 200 Sample.publishedBody])).1 = .ok Sample.claims ∧
      (∃ publicKey parts header, Sample.key = .rsa (some publicKey) ∧
        IsGenuine ⟨none, none, "sub", 0⟩ 1700000000 Sample.token parts header
          publicKey Sample.claims) ∧
      ∃ set published publicKey parts header,
        (Sample.provider.call Sample.scripted 1700000000 Sample.token
          (none, [.answered 200 Sample.publishedBody])).1.used? = some set ∧
        set.Selects header.keyId published ∧
        published.verificationKey? = some (.rsa (some publicKey)) ∧
        IsGenuine Sample.provider.rules 1700000000 Sample.token parts header
          publicKey Sample.claims := by
  have accepted : authenticateUnderKey ⟨none, none, "sub", 0⟩ Sample.key
      1700000000 Sample.token = .ok Sample.claims :=
    authenticateUnderKey_eq_ok_iff.mpr
      ⟨_, Sample.examined_token, Sample.judge_token _ (by decide)⟩
  obtain ⟨configured, published, -⟩ :=
    Sample.provider.token_soundness Sample.scripted 1700000000 Sample.token
      (none, [.answered 200 Sample.publishedBody])
  exact ⟨Sample.ofText_keyLines, accepted, Sample.authenticate_token_published,
    configured _ _ _ _ Sample.ofText_keyLines accepted,
    published _ Sample.authenticate_token_published⟩

end Gatekeeper
