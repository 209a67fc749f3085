import Gatekeeper.Proofs.Decision.Law
import Mathlib.Data.List.Forall2

/-!
# Reach of the fallback flag

What the flag of a policy can change over a run of evaluations. The questions
to the collaborators are noted with their answers, so that two runs can be
compared in everything that leaves the engine: verdicts with their records and
callers, questions, and what the sink has stored.
-/

namespace Gatekeeper

/-- A question to a collaborator with its answer. -/
inductive Question where
  | authenticate (token : String) (answer : Authentication)
  | check (query : RelationQuery) (answer : CheckAnswer)

/-- One evaluation of a run with the questions it asked. -/
structure Evaluation where
  verdict : Verdict
  questions : List Question

/-- The backend was asked and gave no answer. -/
def Evaluation.LacksAnswer (evaluation : Evaluation) : Prop :=
  ∃ query detail,
    .check query (.error (.unavailable detail)) ∈ evaluation.questions

/-- The identity provider failed, or the backend answered with a failure. -/
def Evaluation.HasFailure (evaluation : Evaluation) : Prop :=
  (∃ token failure,
    .authenticate token (.error failure) ∈ evaluation.questions) ∨
  (∃ query status detail,
    .check query (.error (.rejected status detail)) ∈ evaluation.questions) ∨
  ∃ query detail,
    .check query (.error (.malformed detail)) ∈ evaluation.questions

namespace Collaborators

variable {State Store : Type}

/-- Collaborators that note every question. -/
def noting (collaborators : Collaborators State) :
    Collaborators (List Question × State) where
  authenticate token := fun (questions, state) =>
    let (answer, state) := collaborators.authenticate token state
    (answer, questions ++ [.authenticate token answer], state)
  check query := fun (questions, state) =>
    let (answer, state) := collaborators.check query state
    (answer, questions ++ [.check query answer], state)

/-- Evaluate requests one after the other, each at its time. -/
def evaluations (collaborators : Collaborators State) (sink : AuditSink Store)
    (policy : FallbackPolicy) :
    List (Nat × AccessRequest) → State → Store →
      List Evaluation × State × Store
  | [], state, store => ([], state, store)
  | (now, request) :: rest, state, store =>
      let (verdict, (questions, state), store) :=
        collaborators.noting.evaluate sink policy now request ([], state) store
      let (others, state, store) :=
        evaluations collaborators sink policy rest state store
      (⟨verdict, questions⟩ :: others, state, store)

/-! ### The questions of an inquiry -/

def questions (collaborators : Collaborators State) (request : AccessRequest)
    (state : State) : List Question :=
  (collaborators.noting.inquire request ([], state)).2.1

theorem inquire_noting (collaborators : Collaborators State)
    (request : AccessRequest) (state : State) :
    collaborators.noting.inquire request ([], state) =
      ((collaborators.inquire request state).1,
        collaborators.questions request state,
        (collaborators.inquire request state).2) := by
  unfold questions inquire
  cases request.credential with
  | missing => rfl
  | malformed => rfl
  | bearer token =>
      cases resolved :
          resolveCaller (collaborators.authenticate token state).1 with
      | error ending => simp only [noting, resolved]
      | ok principal =>
          cases formed : formQuery principal request with
          | error ending => simp only [noting, resolved, formed]
          | ok query => simp only [noting, resolved, formed]

/-- Noting the questions of an evaluation changes nothing else. -/
theorem evaluate_noting (collaborators : Collaborators State)
    (sink : AuditSink Store) (policy : FallbackPolicy) (now : Nat)
    (request : AccessRequest) (state : State) (store : Store) :
    collaborators.noting.evaluate sink policy now request ([], state) store =
      let plain := collaborators.evaluate sink policy now request state store
      (plain.1, (collaborators.questions request state, plain.2.1),
        plain.2.2) := by
  simp only [evaluate_eq_inquire, inquire_noting]

variable {collaborators : Collaborators State} {request : AccessRequest}
  {state : State}

/-- A question to the identity provider is about the token of the request, and
gets the answer that resolves the caller. -/
theorem authenticate_mem_questions {token : String} {answer : Authentication}
    (asked : .authenticate token answer ∈
      collaborators.questions request state) :
    request.credential = .bearer token ∧
      answer = (collaborators.authenticate token state).1 := by
  unfold questions inquire at asked
  cases credential : request.credential with
  | missing => simp [credential] at asked
  | malformed => simp [credential] at asked
  | bearer held =>
      have only : token = held ∧
          answer = (collaborators.authenticate held state).1 := by
        simp only [credential] at asked
        cases resolved :
            resolveCaller (collaborators.authenticate held state).1 with
        | error ending => simpa [noting, resolved] using asked
        | ok principal =>
            cases formed : formQuery principal request with
            | error ending => simpa [noting, resolved, formed] using asked
            | ok query => simpa [noting, resolved, formed] using asked
      obtain ⟨rfl, rfl⟩ := only
      exact ⟨rfl, rfl⟩

/-- A question to the backend is the query of a resolved caller, and gets the
answer of the inquiry. -/
theorem check_mem_questions_iff {query : RelationQuery} {answer : CheckAnswer} :
    .check query answer ∈ collaborators.questions request state ↔
      ∃ principal,
        (collaborators.inquire request state).1 = .ok (principal, answer) ∧
          formQuery principal request = .ok query := by
  unfold questions inquire
  cases request.credential with
  | missing => simp
  | malformed => simp
  | bearer token =>
      cases resolved :
          resolveCaller (collaborators.authenticate token state).1 with
      | error ending => simp [noting, resolved]
      | ok principal =>
          cases formed : formQuery principal request with
          | error ending => simp [noting, resolved, formed]
          | ok formedQuery =>
              simp only [noting, resolved, formed, List.nil_append,
                List.cons_append, List.mem_cons, reduceCtorEq, false_or,
                Question.check.injEq, List.not_mem_nil, or_false,
                Except.ok.injEq, Prod.mk.injEq]
              constructor
              · rintro ⟨rfl, rfl⟩
                exact ⟨principal, ⟨rfl, rfl⟩, formed⟩
              · rintro ⟨_, ⟨rfl, rfl⟩, same⟩
                rw [formed] at same
                exact ⟨(Except.ok.inj same).symm, rfl⟩

end Collaborators

/-! ### One evaluation under two policies -/

/-- Two evaluations of a request, with the fallback granted and without. They
ask the same. They agree unless the backend gave no answer, and then only in
the decision, its reason and its severity. -/
structure DiffersByFallback (granting refusing : Evaluation) : Prop where
  questions : granting.questions = refusing.questions
  agrees : ¬ granting.LacksAnswer → granting.verdict = refusing.verdict
  differs : granting.LacksAnswer →
    granting.verdict.record.decision = .allow ∧
      granting.verdict.record.reason = .fallbackGranted ∧
      granting.verdict.record.severity = .elevated ∧
      refusing.verdict =
        { granting.verdict with
          record :=
            { granting.verdict.record with
              decision := .denyFallbackUnavailable
              reason := .fallbackDisabled
              severity := .normal } }

theorem Inquiry.ending_production (flag other : Bool) (outcome : Inquiry) :
    outcome.ending ⟨.production, flag⟩ =
      outcome.ending ⟨.production, other⟩ := by
  rcases outcome with ending | ⟨principal, answer⟩
  · rfl
  · rcases answer with (detail | ⟨status, detail⟩ | detail) | (_ | _) <;> rfl

namespace Collaborators

variable {State Store : Type} {collaborators : Collaborators State}
  {sink : AuditSink Store}

def evaluation (collaborators : Collaborators State) (policy : FallbackPolicy)
    (now : Nat) (request : AccessRequest) (state : State) : Evaluation :=
  ⟨((collaborators.inquire request state).1.ending policy).verdict request now,
    collaborators.questions request state⟩

theorem evaluations_cons (policy : FallbackPolicy) (now : Nat)
    (request : AccessRequest) (rest : List (Nat × AccessRequest))
    (state : State) (store : Store) :
    collaborators.evaluations sink policy ((now, request) :: rest) state store =
      let first := collaborators.evaluation policy now request state
      let others := collaborators.evaluations sink policy rest
        (collaborators.inquire request state).2
        (sink.offer first.verdict.record store)
      (first :: others.1, others.2) := by
  rw [evaluations, evaluate_noting, evaluate_eq_inquire]
  rfl

theorem lacksAnswer_evaluation_iff {policy : FallbackPolicy} {now : Nat}
    {request : AccessRequest} {state : State} :
    (collaborators.evaluation policy now request state).LacksAnswer ↔
      ∃ principal detail, (collaborators.inquire request state).1 =
        .ok (principal, .error (.unavailable detail)) := by
  unfold Evaluation.LacksAnswer evaluation
  simp only [check_mem_questions_iff]
  constructor
  · rintro ⟨query, detail, principal, outcome, -⟩
    exact ⟨principal, detail, outcome⟩
  · rintro ⟨principal, detail, outcome⟩
    obtain ⟨token, claims, query, -, -, -, formed, -⟩ :=
      inquire_eq_ok_iff.mp outcome
    exact ⟨query, detail, principal, outcome, formed⟩

theorem differsByFallback_evaluation (now : Nat) (request : AccessRequest)
    (state : State) :
    DiffersByFallback
      (collaborators.evaluation ⟨.nonProduction, true⟩ now request state)
      (collaborators.evaluation ⟨.nonProduction, false⟩ now request state) := by
  refine ⟨rfl, ?_, ?_⟩
  · intro answered
    rw [lacksAnswer_evaluation_iff] at answered
    unfold evaluation
    rcases outcome : (collaborators.inquire request state).1 with
      ending | ⟨principal, (detail | ⟨status, detail⟩ | detail) | (_ | _)⟩
    · rfl
    · exact absurd ⟨principal, detail, outcome⟩ answered
    · rfl
    · rfl
    · rfl
    · rfl
  · intro unanswered
    obtain ⟨principal, detail, outcome⟩ :=
      lacksAnswer_evaluation_iff.mp unanswered
    unfold evaluation
    rw [outcome]
    exact ⟨rfl, rfl, rfl, rfl⟩

theorem denied_of_hasFailure {policy : FallbackPolicy} {now : Nat}
    {request : AccessRequest} {state : State}
    (failed :
      (collaborators.evaluation policy now request state).HasFailure) :
    (collaborators.evaluation policy now request state).verdict.isAllowed =
      false := by
  rw [← Bool.not_eq_true, Verdict.isAllowed_iff]
  intro allowed
  obtain ⟨principal, answer, outcome, admits⟩ := ending_allows_iff.mp allowed
  have onlyAnswer : ∀ query other,
      .check query other ∈ collaborators.questions request state →
        other = answer := by
    intro query other asked
    obtain ⟨caller, sameOutcome, -⟩ := check_mem_questions_iff.mp asked
    rw [outcome] at sameOutcome
    exact (Prod.mk.inj (Except.ok.inj sameOutcome)).2.symm
  rcases failed with ⟨token, failure, asked⟩ | ⟨query, status, detail, asked⟩ |
    ⟨query, detail, asked⟩
  · obtain ⟨bearer, isFailure⟩ := authenticate_mem_questions asked
    obtain ⟨held, claims, _, alsoBearer, authenticated, -⟩ :=
      inquire_eq_ok_iff.mp outcome
    rw [bearer] at alsoBearer
    cases alsoBearer
    rw [← isFailure] at authenticated
    cases authenticated
  · rw [← onlyAnswer query _ asked] at admits
    rcases admits with isTrue | ⟨_, isUnavailable, -⟩
    · cases isTrue
    · cases isUnavailable
  · rw [← onlyAnswer query _ asked] at admits
    rcases admits with isTrue | ⟨_, isUnavailable, -⟩
    · cases isTrue
    · cases isUnavailable

/-! ### Runs under two policies -/

theorem evaluations_production (flag other : Bool)
    (requests : List (Nat × AccessRequest)) (state : State) (store : Store) :
    collaborators.evaluations sink ⟨.production, flag⟩ requests state store =
      collaborators.evaluations sink ⟨.production, other⟩ requests state
        store := by
  induction requests generalizing state store with
  | nil => rfl
  | cons head rest ih =>
      obtain ⟨now, request⟩ := head
      have same : collaborators.evaluation ⟨.production, flag⟩ now request
          state =
            collaborators.evaluation ⟨.production, other⟩ now request
              state := by
        unfold evaluation
        rw [Inquiry.ending_production flag other]
      simp only [evaluations_cons, same, ih]

theorem evaluations_nonProduction (requests : List (Nat × AccessRequest))
    (state : State) (store otherStore : Store) :
    let granting :=
      collaborators.evaluations sink ⟨.nonProduction, true⟩ requests state store
    let refusing :=
      collaborators.evaluations sink ⟨.nonProduction, false⟩ requests state
        otherStore
    List.Forall₂ DiffersByFallback granting.1 refusing.1 ∧
      granting.2.1 = refusing.2.1 := by
  -- The runs go on from one state, which the inquiry leaves under any policy,
  -- and from stores that may differ by now.
  induction requests generalizing state store otherStore with
  | nil => exact ⟨.nil, rfl⟩
  | cons head rest ih =>
      obtain ⟨now, request⟩ := head
      simp only [evaluations_cons]
      obtain ⟨others, sameState⟩ :=
        ih (collaborators.inquire request state).2 _ _
      exact ⟨.cons (differsByFallback_evaluation now request state) others,
        sameState⟩

/-- The store after a run is that before with the record of each evaluation
offered in turn. -/
theorem evaluations_store (policy : FallbackPolicy)
    (requests : List (Nat × AccessRequest)) (state : State) (store : Store) :
    (collaborators.evaluations sink policy requests state store).2.2 =
      (collaborators.evaluations sink policy requests state store).1.foldl
        (fun store evaluation => sink.offer evaluation.verdict.record store)
        store := by
  induction requests generalizing state store with
  | nil => rfl
  | cons head rest ih =>
      obtain ⟨now, request⟩ := head
      simp only [evaluations_cons, List.foldl_cons]
      exact ih _ _

theorem length_evaluations (policy : FallbackPolicy)
    (requests : List (Nat × AccessRequest)) (state : State) (store : Store) :
    (collaborators.evaluations sink policy requests state store).1.length =
      requests.length := by
  induction requests generalizing state store with
  | nil => rfl
  | cons head rest ih =>
      obtain ⟨now, request⟩ := head
      simp only [evaluations_cons, List.length_cons, ih]

theorem evaluations_denied_of_hasFailure (policy : FallbackPolicy)
    (requests : List (Nat × AccessRequest)) (state : State) (store : Store) :
    ∀ evaluation ∈
        (collaborators.evaluations sink policy requests state store).1,
      evaluation.HasFailure → evaluation.verdict.isAllowed = false := by
  induction requests generalizing state store with
  | nil =>
      intro evaluation member
      cases member
  | cons head rest ih =>
      obtain ⟨now, request⟩ := head
      intro evaluation member failed
      simp only [evaluations_cons, List.mem_cons] at member
      rcases member with rfl | member
      · exact denied_of_hasFailure failed
      · exact ih _ _ evaluation member failed

/-- The law of decisions, and how far the fallback flag reaches. In production
a run does not depend on the flag at all. Elsewhere the flag changes exactly the
verdicts of the requests that the backend gave no answer to. A failure of the
identity provider, and any other failure of the backend, is always denied. -/
theorem decision_law (collaborators : Collaborators State)
    (sink : AuditSink Store) :
    (∀ policy now request state store,
      (collaborators.evaluate sink policy now request state
          store).1.isAllowed = true ↔
        ∃ token claims canonicalId, request.credential = .bearer token ∧
          (collaborators.authenticate token state).1 = .ok claims ∧
          Identifier.canonical claims.username = .ok canonicalId ∧
          IsName isRelationCharacter request.relation.toList ∧
          IsObject request.object.toList ∧
          CheckAnswer.Admits policy
            (collaborators.check
              ⟨canonicalId, request.relation, request.object⟩
              (collaborators.authenticate token state).2).1) ∧
    (∀ policy requests state store, ∀ evaluation ∈
        (collaborators.evaluations sink policy requests state store).1,
      evaluation.HasFailure → evaluation.verdict.isAllowed = false) ∧
    (∀ flag other requests state store,
      collaborators.evaluations sink ⟨.production, flag⟩ requests state store =
        collaborators.evaluations sink ⟨.production, other⟩ requests state
          store) ∧
    (∀ requests state store,
      let granting := collaborators.evaluations sink ⟨.nonProduction, true⟩
        requests state store
      let refusing := collaborators.evaluations sink ⟨.nonProduction, false⟩
        requests state store
      List.Forall₂ DiffersByFallback granting.1 refusing.1 ∧
        granting.2.1 = refusing.2.1) ∧
    ∀ policy requests state store,
      (collaborators.evaluations sink policy requests state store).2.2 =
        (collaborators.evaluations sink policy requests state store).1.foldl
          (fun store evaluation => sink.offer evaluation.verdict.record store)
          store := by
  refine ⟨?_, ?_, ?_, ?_, ?_⟩
  · intro policy now request state store
    exact evaluate_allows_iff collaborators sink policy now request state store
  · intro policy requests state store
    exact evaluations_denied_of_hasFailure policy requests state store
  · intro flag other requests state store
    exact evaluations_production flag other requests state store
  · intro requests state store
    exact evaluations_nonProduction requests state store store
  · intro policy requests state store
    exact evaluations_store policy requests state store

end Collaborators

end Gatekeeper
