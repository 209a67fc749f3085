import Gatekeeper.Decision.Engine
import Gatekeeper.Proofs.Relation.Grammar

/-!
# Law of decisions

When a request is allowed. An evaluation is split into an inquiry, which asks
the collaborators and knows nothing of the fallback policy, and the ending that
the policy gives to its outcome. The law follows from what an inquiry may bring
and from the endings that allow.
-/

namespace Gatekeeper

/-! ### Policies and endings -/

namespace FallbackPolicy

theorem onBackendUnavailable_eq_granted_iff {policy : FallbackPolicy} :
    policy.onBackendUnavailable = .granted ↔
      policy.environment = .nonProduction ∧ policy.allowFallback = true := by
  unfold onBackendUnavailable
  cases policy.environment <;> cases policy.allowFallback <;> simp

end FallbackPolicy

/-- An answer of the backend lets a request through: it says yes, or there is
none and the policy grants the fallback. -/
def CheckAnswer.Admits (policy : FallbackPolicy)
    (answer : CheckAnswer) : Prop :=
  answer = .ok true ∨
    ∃ detail, answer = .error (.unavailable detail) ∧
      policy.environment = .nonProduction ∧ policy.allowFallback = true

theorem Ending.ofAnswer_allows_iff {policy : FallbackPolicy}
    {principal : Principal} {answer : CheckAnswer} :
    (Ending.ofAnswer policy principal answer).decision = .allow ↔
      answer.Admits policy := by
  unfold CheckAnswer.Admits
  rw [← FallbackPolicy.onBackendUnavailable_eq_granted_iff]
  rcases answer with (detail | ⟨status, detail⟩ | detail) | (_ | _)
  · cases outcome : policy.onBackendUnavailable <;>
      simp [Ending.ofAnswer, Ending.withoutAnswer, outcome]
  · simp [Ending.ofAnswer]
  · simp [Ending.ofAnswer]
  · simp [Ending.ofAnswer]
  · simp [Ending.ofAnswer]

theorem CheckAnswer.admits_production_iff {policy : FallbackPolicy}
    {answer : CheckAnswer} (production : policy.environment = .production) :
    answer.Admits policy ↔ answer = .ok true := by
  simp [CheckAnswer.Admits, production]

theorem Ending.ofAnswer_principal (policy : FallbackPolicy)
    (principal : Principal) (answer : CheckAnswer) :
    (Ending.ofAnswer policy principal answer).principal = some principal := by
  rcases answer with (detail | ⟨status, detail⟩ | detail) | (_ | _)
  · cases outcome : policy.onBackendUnavailable <;>
      simp [Ending.ofAnswer, Ending.withoutAnswer, outcome]
  · rfl
  · rfl
  · rfl
  · rfl

theorem Verdict.isAllowed_iff {verdict : Verdict} :
    verdict.isAllowed = true ↔ verdict.record.decision = .allow := by
  simp [Verdict.isAllowed]

/-! ### Inquiries -/

/-- The outcome of an inquiry: an ending reached before the backend was asked,
or the caller with the answer of the backend. -/
abbrev Inquiry := Except Ending (Principal × CheckAnswer)

def Inquiry.ending (policy : FallbackPolicy) : Inquiry → Ending
  | .error ending => ending
  | .ok (principal, answer) => .ofAnswer policy principal answer

namespace Collaborators

variable {State Store : Type}

/-- Ask the identity provider and the backend about a request, as far as each
is needed. -/
def inquire (collaborators : Collaborators State) (request : AccessRequest)
    (state : State) : Inquiry × State :=
  match request.credential with
  | .missing => (.error (.deniedAtStart .credentialMissing none), state)
  | .malformed => (.error (.deniedAtStart .credentialMalformed none), state)
  | .bearer token =>
      let (authentication, state) := collaborators.authenticate token state
      match resolveCaller authentication with
      | .error ending => (.error ending, state)
      | .ok principal =>
          match formQuery principal request with
          | .error ending => (.error ending, state)
          | .ok query =>
              let (answer, state) := collaborators.check query state
              (.ok (principal, answer), state)

theorem decide_eq_inquire (collaborators : Collaborators State)
    (policy : FallbackPolicy) (request : AccessRequest) (state : State) :
    collaborators.decide policy request state =
      ((collaborators.inquire request state).1.ending policy,
        (collaborators.inquire request state).2) := by
  unfold decide inquire
  cases request.credential with
  | missing => rfl
  | malformed => rfl
  | bearer token =>
      cases resolved :
          resolveCaller (collaborators.authenticate token state).1 with
      | error ending => simp only [resolved, Inquiry.ending]
      | ok principal =>
          cases formed : formQuery principal request with
          | error ending => simp only [resolved, formed, Inquiry.ending]
          | ok query => simp only [resolved, formed, Inquiry.ending]

/-- The evaluation of a request in terms of its inquiry. -/
theorem evaluate_eq_inquire (collaborators : Collaborators State)
    (sink : AuditSink Store) (policy : FallbackPolicy) (now : Nat)
    (request : AccessRequest) (state : State) (store : Store) :
    collaborators.evaluate sink policy now request state store =
      (((collaborators.inquire request state).1.ending policy).verdict request
          now,
        (collaborators.inquire request state).2,
        sink.offer
          (((collaborators.inquire request state).1.ending policy).verdict
            request now).record store) := by
  simp only [evaluate, decide_eq_inquire]

end Collaborators

/-! ### What inquiries bring -/

theorem Principal.ofClaims_eq_ok_iff {claims : Claims} {principal : Principal} :
    Principal.ofClaims claims = .ok principal ↔
      ∃ canonicalId, Identifier.canonical claims.username = .ok canonicalId ∧
        principal = ⟨claims.username, canonicalId, claims⟩ := by
  unfold Principal.ofClaims
  cases Identifier.canonical claims.username <;> simp [eq_comm]

theorem resolveCaller_eq_ok_iff {authentication : Authentication}
    {principal : Principal} :
    resolveCaller authentication = .ok principal ↔
      ∃ claims, authentication = .ok claims ∧
        Principal.ofClaims claims = .ok principal := by
  rcases authentication with (detail | detail) | claims
  · simp [resolveCaller]
  · simp [resolveCaller]
  · cases named : Principal.ofClaims claims <;> simp [resolveCaller, named]

theorem resolveCaller_error_denies {authentication : Authentication}
    {ending : Ending}
    (unresolved : resolveCaller authentication = .error ending) :
    ending.decision = .deny := by
  rcases authentication with (detail | detail) | claims
  · cases unresolved
    rfl
  · cases unresolved
    rfl
  · cases named : Principal.ofClaims claims with
    | error invalid =>
        simp only [resolveCaller, named, Except.error.injEq] at unresolved
        subst unresolved
        rfl
    | ok principal => simp [resolveCaller, named] at unresolved

theorem formQuery_eq_ok_iff {principal : Principal} {request : AccessRequest}
    {query : RelationQuery} :
    formQuery principal request = .ok query ↔
      IsUser principal.canonicalId.toList ∧
        IsName isRelationCharacter request.relation.toList ∧
        IsObject request.object.toList ∧
        query = ⟨principal.canonicalId, request.relation, request.object⟩ := by
  rw [← RelationQuery.ofParts_eq_ok_iff]
  unfold formQuery
  rcases RelationQuery.ofParts principal.canonicalId request.relation
    request.object with (⟨text, fault⟩ | ⟨text, fault⟩ | ⟨text, fault⟩) | asked
  all_goals simp

theorem formQuery_error_denies {principal : Principal}
    {request : AccessRequest} {ending : Ending}
    (unformed : formQuery principal request = .error ending) :
    ending.decision = .deny := by
  unfold formQuery at unformed
  split at unformed
  · cases unformed
  · cases unformed
    rfl
  · cases unformed
    rfl

namespace Collaborators

variable {State Store : Type} {collaborators : Collaborators State}
  {request : AccessRequest} {state : State}

/-- The backend was asked for a bearer token whose claims name a caller, with a
query that follows the grammar. -/
theorem inquire_eq_ok_iff {principal : Principal} {answer : CheckAnswer} :
    (collaborators.inquire request state).1 = .ok (principal, answer) ↔
      ∃ token claims query, request.credential = .bearer token ∧
        (collaborators.authenticate token state).1 = .ok claims ∧
        Principal.ofClaims claims = .ok principal ∧
        formQuery principal request = .ok query ∧
        answer = (collaborators.check query
          (collaborators.authenticate token state).2).1 := by
  unfold inquire
  cases request.credential with
  | missing => simp
  | malformed => simp
  | bearer token =>
      cases resolved :
          resolveCaller (collaborators.authenticate token state).1 with
      | error ending =>
          simp only [resolved, reduceCtorEq, false_iff]
          rintro ⟨_, claims, query, ⟨⟩, authenticated, named, -⟩
          rw [resolveCaller_eq_ok_iff.mpr ⟨claims, authenticated, named⟩]
            at resolved
          cases resolved
      | ok caller =>
          obtain ⟨claims, authenticated, named⟩ :=
            resolveCaller_eq_ok_iff.mp resolved
          have onlyCaller : ∀ other, (∃ claims,
              (collaborators.authenticate token state).1 = .ok claims ∧
                Principal.ofClaims claims = .ok other) → caller = other := by
            intro other isCaller
            rw [resolveCaller_eq_ok_iff.mpr isCaller] at resolved
            exact (Except.ok.inj resolved).symm
          cases formed : formQuery caller request with
          | error ending =>
              simp only [resolved, formed, reduceCtorEq, false_iff]
              rintro ⟨_, others, query, ⟨⟩, alsoOk, alsoNamed, asked, -⟩
              have same := onlyCaller principal ⟨others, alsoOk, alsoNamed⟩
              subst same
              rw [formed] at asked
              cases asked
          | ok query =>
              simp only [resolved, formed, Except.ok.injEq, Prod.mk.injEq]
              constructor
              · rintro ⟨rfl, rfl⟩
                exact ⟨token, claims, query, rfl, authenticated, named, formed,
                  rfl⟩
              · rintro ⟨_, others, other, ⟨⟩, alsoOk, alsoNamed, asked, rfl⟩
                have same := onlyCaller principal ⟨others, alsoOk, alsoNamed⟩
                subst same
                rw [formed] at asked
                cases asked
                exact ⟨rfl, rfl⟩

theorem inquire_error_denies {ending : Ending}
    (ended : (collaborators.inquire request state).1 = .error ending) :
    ending.decision = .deny := by
  unfold inquire at ended
  cases credential : request.credential with
  | missing =>
      simp only [credential, Except.error.injEq] at ended
      subst ended
      rfl
  | malformed =>
      simp only [credential, Except.error.injEq] at ended
      subst ended
      rfl
  | bearer token =>
      cases resolved :
          resolveCaller (collaborators.authenticate token state).1 with
      | error early =>
          simp only [credential, resolved, Except.error.injEq] at ended
          subst ended
          exact resolveCaller_error_denies resolved
      | ok principal =>
          cases formed : formQuery principal request with
          | error early =>
              simp only [credential, resolved, formed,
                Except.error.injEq] at ended
              subst ended
              exact formQuery_error_denies formed
          | ok query => simp [credential, resolved, formed] at ended

/-! ### The law -/

theorem ending_allows_iff {policy : FallbackPolicy} :
    ((collaborators.inquire request state).1.ending policy).decision = .allow ↔
      ∃ principal answer,
        (collaborators.inquire request state).1 = .ok (principal, answer) ∧
          answer.Admits policy := by
  cases outcome : (collaborators.inquire request state).1 with
  | error ending =>
      have denied := inquire_error_denies outcome
      simp [Inquiry.ending, denied]
  | ok asked =>
      obtain ⟨principal, answer⟩ := asked
      simp only [Inquiry.ending, Ending.ofAnswer_allows_iff, Except.ok.injEq,
        Prod.mk.injEq]
      constructor
      · intro admits
        exact ⟨principal, answer, ⟨rfl, rfl⟩, admits⟩
      · rintro ⟨_, _, ⟨rfl, rfl⟩, admits⟩
        exact admits

/-- The caller that is handed on is the one that the backend admitted. -/
theorem evaluate_allowedPrincipal_iff {sink : AuditSink Store}
    {policy : FallbackPolicy} {now : Nat} {store : Store}
    {principal : Principal} :
    (collaborators.evaluate sink policy now request state
        store).1.allowedPrincipal = some principal ↔
      ∃ answer,
        (collaborators.inquire request state).1 = .ok (principal, answer) ∧
          answer.Admits policy := by
  rw [evaluate_eq_inquire]
  simp only [Verdict.allowedPrincipal, Option.ite_none_right_eq_some,
    Verdict.isAllowed_iff]
  constructor
  · rintro ⟨allowed, handed⟩
    obtain ⟨caller, answer, outcome, admits⟩ := ending_allows_iff.mp allowed
    rw [outcome] at handed
    have same := Option.some.inj
      ((Ending.ofAnswer_principal policy caller answer).symm.trans handed)
    subst same
    exact ⟨answer, outcome, admits⟩
  · rintro ⟨answer, outcome, admits⟩
    refine ⟨ending_allows_iff.mpr ⟨principal, answer, outcome, admits⟩, ?_⟩
    rw [outcome]
    exact Ending.ofAnswer_principal policy principal answer

/-- An inquiry moves the state by at most one authentication and one check. -/
theorem inquire_state :
    ((∀ token, request.credential ≠ .bearer token) ∧
      (collaborators.inquire request state).2 = state) ∨
    ∃ token, request.credential = .bearer token ∧
      ((collaborators.inquire request state).2 =
          (collaborators.authenticate token state).2 ∨
        ∃ query, (collaborators.inquire request state).2 =
          (collaborators.check query
            (collaborators.authenticate token state).2).2) := by
  unfold inquire
  cases request.credential with
  | missing => simp
  | malformed => simp
  | bearer token =>
      refine .inr ⟨token, rfl, ?_⟩
      cases resolved :
          resolveCaller (collaborators.authenticate token state).1 with
      | error ending => exact .inl (by simp [resolved])
      | ok principal =>
          cases formed : formQuery principal request with
          | error ending => exact .inl (by simp [resolved, formed])
          | ok query => exact .inr ⟨query, by simp [resolved, formed]⟩

/-- A request is allowed exactly when it bears a token, the identity provider
accepts it, its user name has a canonical id, the query follows the grammar,
and the backend says yes or is missing where the policy grants the fallback. -/
theorem evaluate_allows_iff (collaborators : Collaborators State)
    (sink : AuditSink Store) (policy : FallbackPolicy) (now : Nat)
    (request : AccessRequest) (state : State) (store : Store) :
    (collaborators.evaluate sink policy now request state store).1.isAllowed =
        true ↔
      ∃ token claims canonicalId, request.credential = .bearer token ∧
        (collaborators.authenticate token state).1 = .ok claims ∧
        Identifier.canonical claims.username = .ok canonicalId ∧
        IsName isRelationCharacter request.relation.toList ∧
        IsObject request.object.toList ∧
        CheckAnswer.Admits policy
          (collaborators.check ⟨canonicalId, request.relation, request.object⟩
            (collaborators.authenticate token state).2).1 := by
  rw [evaluate_eq_inquire, Verdict.isAllowed_iff]
  refine Iff.trans ending_allows_iff ?_
  simp only [inquire_eq_ok_iff, formQuery_eq_ok_iff,
    Principal.ofClaims_eq_ok_iff]
  constructor
  · rintro ⟨principal, answer, ⟨token, claims, query, bearer, authenticated,
      ⟨canonicalId, isCanonical, rfl⟩, ⟨-, relation, object, rfl⟩, rfl⟩, admits⟩
    exact ⟨token, claims, canonicalId, bearer, authenticated, isCanonical,
      relation, object, admits⟩
  · rintro ⟨token, claims, canonicalId, bearer, authenticated, isCanonical,
      relation, object, admits⟩
    exact ⟨_, _, ⟨token, claims, _, bearer, authenticated,
      ⟨canonicalId, isCanonical, rfl⟩,
      ⟨isUser_of_canonical isCanonical, relation, object, rfl⟩, rfl⟩, admits⟩

end Collaborators

end Gatekeeper
