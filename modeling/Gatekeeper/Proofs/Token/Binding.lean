import Gatekeeper.Proofs.Token.Acceptance

/-!
# Binding of tokens to an issuer and an audience

What an accepted token says about its issuer and its audience. A member that
is a text, or an array of texts, has to name what is configured. Any other
member is left unread, and a token without the member is accepted as well.
-/

namespace Gatekeeper

open Gatekeeper.Json

/-- A member names a text when it is that text or an array with it. -/
def Names (member : Option Json) (text : String) : Prop :=
  member = some (.string text) ∨
    ∃ items, member = some (.array items) ∧ .string text ∈ items

/-- A member that is not read: it is missing, of another type, or an array
with an item that is no text. -/
def IsUnread : Option Json → Prop
  | some (.string _) => False
  | some (.array items) => ∃ item ∈ items, item.text? = none
  | _ => True

/-- A member names the text that is required of it, if there is one. -/
def Meets (required : Option String) (member : Option Json) : Prop :=
  ∀ text, required = some text → Names member text

/-- A text is required, and the member neither names it nor is read. -/
def Overlooks (required : Option String) (member : Option Json) : Prop :=
  ∃ text, required = some text ∧ ¬ Names member text ∧ IsUnread member

/-! ### Members -/

private theorem text?_eq_some_iff {item : Json} {text : String} :
    item.text? = some text ↔ item = .string text := by
  cases item <;> simp [Json.text?]

private theorem mapM_text?_eq_none_iff {items : List Json} :
    items.mapM Json.text? = none ↔ ∃ item ∈ items, item.text? = none := by
  induction items with
  | nil => simp
  | cons first rest ih =>
      rw [List.mapM_cons]
      cases read : first.text? with
      | none => simp [read]
      | some text =>
          cases others : rest.mapM Json.text? with
          | none =>
              obtain ⟨item, member, isNoText⟩ := ih.mp others
              simp only [bind, Option.bind, true_iff]
              exact ⟨item, List.mem_cons_of_mem first member, isNoText⟩
          | some texts =>
              have allRead : ¬ ∃ item ∈ rest, item.text? = none := by
                rw [← ih, others]
                simp
              simpa [bind, Option.bind, pure, read] using allRead

private theorem mem_texts_iff {items : List Json} {texts : List String}
    (read : items.mapM Json.text? = some texts) {text : String} :
    text ∈ texts ↔ .string text ∈ items := by
  induction items generalizing texts with
  | nil =>
      simp only [List.mapM_nil, pure, Option.some.injEq] at read
      subst read
      simp
  | cons first rest ih =>
      rw [List.mapM_cons] at read
      simp only [bind, pure, Option.bind_eq_some_iff,
        Option.some.injEq] at read
      obtain ⟨head, isHead, others, areOthers, rfl⟩ := read
      rw [text?_eq_some_iff] at isHead
      subst isHead
      simp [ih areOthers]

theorem namedBy?_eq_none_iff {member : Option Json} :
    namedBy? member = none ↔ IsUnread member := by
  cases member with
  | none => simp [namedBy?, IsUnread]
  | some value =>
      cases value <;> simp [namedBy?, IsUnread, mapM_text?_eq_none_iff]

theorem mem_namedBy?_iff {member : Option Json} {named : List String}
    (read : namedBy? member = some named) {text : String} :
    text ∈ named ↔ Names member text := by
  unfold Names
  cases member with
  | none => cases read
  | some value =>
      cases value with
      | string other =>
          simp only [namedBy?, Option.some.injEq] at read
          subst read
          simp [eq_comm]
      | array items => simpa using mem_texts_iff read
      | null | boolean | number | object => cases read

/-- The check passes a member that names what is required, and one that it
does not read. -/
theorem agrees_iff {required : Option String} {member : Option Json} :
    agrees required member = true ↔
      Meets required member ∨ Overlooks required member := by
  cases required with
  | none => simp [agrees, Meets]
  | some text =>
      have meets : Meets (some text) member ↔ Names member text := by
        simp [Meets]
      have overlooks : Overlooks (some text) member ↔
          ¬ Names member text ∧ IsUnread member := by
        simp [Overlooks]
      rw [meets, overlooks]
      cases read : namedBy? member with
      | none =>
          have unread := namedBy?_eq_none_iff.mp read
          simpa [agrees, read, unread] using Classical.em (Names member text)
      | some named =>
          have isRead : ¬ IsUnread member := by
            rw [← namedBy?_eq_none_iff, read]
            simp
          simp [agrees, read, isRead, mem_namedBy?_iff read]

theorem Overlooks.not_meets {required : Option String} {member : Option Json}
    (overlooked : Overlooks required member) : ¬ Meets required member := by
  obtain ⟨text, isRequired, unnamed, -⟩ := overlooked
  intro meets
  exact unnamed (meets text isRequired)

theorem meets_iff_not_overlooks {required : Option String}
    {member : Option Json} (passes : agrees required member = true) :
    Meets required member ↔ ¬ Overlooks required member := by
  rcases agrees_iff.mp passes with meets | overlooked
  · exact iff_of_true meets fun overlooked => overlooked.not_meets meets
  · exact iff_of_false overlooked.not_meets fun absent => absent overlooked

/-! ### Tokens -/

def TokenRules.unbound (rules : TokenRules) : TokenRules :=
  { rules with issuer := none, audience := none }

def IdentitySource.unbound : IdentitySource → IdentitySource
  | .published url keys =>
      .published url { keys with rules := keys.rules.unbound }
  | .configured rules key => .configured rules.unbound key

def Service.unbound (service : Service) : Service :=
  { service with identity := service.identity.unbound }

/-- The issuer and the audience that the rules require are each met by a
payload or overlooked in it. -/
def TokenRules.Passes (rules : TokenRules) (payload : Members) : Prop :=
  (Meets rules.issuer (payload.get? "iss") ∨
      Overlooks rules.issuer (payload.get? "iss")) ∧
    (Meets rules.audience (payload.get? "aud") ∨
      Overlooks rules.audience (payload.get? "aud"))

theorem TokenRules.checkPayload_iff_unbound {rules : TokenRules} {now : Nat}
    {payload : Members} :
    rules.checkPayload now payload = .ok () ↔
      rules.unbound.checkPayload now payload = .ok () ∧
        rules.Passes payload := by
  have timely : rules.unbound.IsTimely now payload ↔
      rules.IsTimely now payload :=
    ⟨fun ⟨unexpired, begun⟩ => ⟨unexpired, begun⟩,
      fun ⟨unexpired, begun⟩ => ⟨unexpired, begun⟩⟩
  rw [checkPayload_eq_ok_iff, checkPayload_eq_ok_iff, timely]
  simp [TokenRules.unbound, TokenRules.Passes, agrees, ← agrees_iff]

theorem ExaminedToken.judge_iff_unbound {token : ExaminedToken}
    {rules : TokenRules} {now : Nat} {key : VerificationKey}
    {claims : Claims} :
    token.judge rules now key = .ok claims ↔
      token.judge rules.unbound now key = .ok claims ∧
        ∃ payload, token.parts.members? = some payload ∧
          rules.Passes payload := by
  have sameClaims (payload : Members) :
      rules.unbound.claims payload = rules.claims payload := rfl
  simp only [judge_eq_ok_iff, TokenRules.validate_eq_ok_iff, sameClaims]
  constructor
  · rintro ⟨payload, ⟨signed, carried, checked⟩, claimed⟩
    obtain ⟨unboundChecked, passes⟩ :=
      TokenRules.checkPayload_iff_unbound.mp checked
    exact ⟨⟨payload, ⟨signed, carried, unboundChecked⟩, claimed⟩,
      payload, carried, passes⟩
  · rintro ⟨⟨payload, ⟨signed, carried, unboundChecked⟩, claimed⟩,
      other, alsoCarried, passes⟩
    have same : payload = other :=
      Option.some.inj (carried.symm.trans alsoCarried)
    subst same
    exact ⟨payload, ⟨signed, carried,
      TokenRules.checkPayload_iff_unbound.mpr ⟨unboundChecked, passes⟩⟩,
      claimed⟩

private theorem carriedPayload?_of_examined {token : String}
    {examined : ExaminedToken}
    (isExamined : ExaminedToken.ofText token = .ok examined) :
    carriedPayload? token = examined.parts.members? := by
  rw [carriedPayload?, (ExaminedToken.ofText_eq_ok_iff.mp isExamined).1,
    Option.bind_some]

private theorem IdentitySource.keyFor_unbound {Outside : Type}
    (source : IdentitySource) (network : Network Outside) (now : Nat)
    (keyId : Option String) (state : KeyCache × Outside) :
    source.unbound.keyFor network now keyId state =
      source.keyFor network now keyId state := by
  cases source <;> rfl

private theorem IdentitySource.rules_unbound (source : IdentitySource) :
    source.unbound.rules = source.rules.unbound := by
  cases source <;> rfl

theorem Service.provider_iff_unbound {Outside : Type} {service : Service}
    {network : Network Outside} {now : Nat} {token : String}
    {state : KeyCache × Outside} {claims : Claims} :
    (service.provider network now token state).1 = .ok claims ↔
      (service.unbound.provider network now token state).1 = .ok claims ∧
        ∃ payload, carriedPayload? token = some payload ∧
          service.identity.rules.Passes payload := by
  simp only [provider_eq_ok_iff, Service.unbound,
    IdentitySource.keyFor_unbound, IdentitySource.rules_unbound]
  constructor
  · rintro ⟨examined, key, isExamined, selected, judged⟩
    obtain ⟨unboundJudged, payload, carried, passes⟩ :=
      ExaminedToken.judge_iff_unbound.mp judged
    refine ⟨⟨examined, key, isExamined, selected, unboundJudged⟩,
      payload, ?_, passes⟩
    rw [carriedPayload?_of_examined isExamined, carried]
  · rintro ⟨⟨examined, key, isExamined, selected, unboundJudged⟩,
      payload, carried, passes⟩
    rw [carriedPayload?_of_examined isExamined] at carried
    exact ⟨examined, key, isExamined, selected,
      ExaminedToken.judge_iff_unbound.mpr
        ⟨unboundJudged, payload, carried, passes⟩⟩

/-- The configured issuer and audience bear on a token only through the two
members of its payload, which pass when they name what is required and also
when they are not read. So an accepted token is bound to the issuer and the
audience exactly when neither member was overlooked. -/
theorem Service.accepted_binding {Outside : Type} (service : Service)
    (network : Network Outside) (now : Nat) (token : String)
    (state : KeyCache × Outside) (claims : Claims) :
    ((service.provider network now token state).1 = .ok claims ↔
      (service.unbound.provider network now token state).1 = .ok claims ∧
        ∃ payload, carriedPayload? token = some payload ∧
          service.identity.rules.Passes payload) ∧
    ∀ payload, (service.provider network now token state).1 = .ok claims →
      carriedPayload? token = some payload →
      ((Meets service.identity.rules.issuer (payload.get? "iss") ∧
          Meets service.identity.rules.audience (payload.get? "aud")) ↔
        (¬ Overlooks service.identity.rules.issuer (payload.get? "iss") ∧
          ¬ Overlooks service.identity.rules.audience
            (payload.get? "aud"))) := by
  refine ⟨provider_iff_unbound, fun payload accepted carried => ?_⟩
  obtain ⟨-, other, alsoCarried, issuerPasses, audiencePasses⟩ :=
    provider_iff_unbound.mp accepted
  have same : payload = other :=
    Option.some.inj (carried.symm.trans alsoCarried)
  subst same
  rw [meets_iff_not_overlooks (agrees_iff.mpr issuerPasses),
    meets_iff_not_overlooks (agrees_iff.mpr audiencePasses)]

/-- A token without an issuer passes rules that require one. -/
theorem authenticate_without_issuer :
    ∃ payload,
      authenticateUnderKey ⟨some "https://idp.example.com", none, "sub", 0⟩
          Sample.key 1700000000 Sample.token = .ok Sample.claims ∧
        carriedPayload? Sample.token = some payload ∧
        payload.get? "iss" = none ∧
        ¬ Meets (some "https://idp.example.com") (payload.get? "iss") := by
  have carried := carriedPayload?_of_examined Sample.examined_token
  rw [Sample.members?_parts] at carried
  have accepted :
      authenticateUnderKey ⟨some "https://idp.example.com", none, "sub", 0⟩
        Sample.key 1700000000 Sample.token = .ok Sample.claims :=
    authenticateUnderKey_eq_ok_iff.mpr ⟨_, Sample.examined_token,
      Sample.judge_token _ (by omega)⟩
  have missing : Members.get?
      [("exp", Json.nat 1800000000), ("sub", .string "mallory")] "iss" =
        none := by
    simp [Members.get?, List.lookup_cons]
  refine ⟨_, accepted, carried, missing, ?_⟩
  rw [missing]
  intro meets
  simpa [Names] using meets "https://idp.example.com" rfl

end Gatekeeper
