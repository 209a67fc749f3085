import Gatekeeper.Proofs.Decision.Coherence

/-!
# Failing audit sinks

What a run owes to its audit sink, which is nothing. Any of its appends may
fail, in any pattern. The verdicts, the callers that are handed on and the
questions to the collaborators are those of a run over any other sink, and the
sink holds exactly the records whose appends succeeded.
-/

namespace Gatekeeper

namespace AuditSink

variable {Store : Type}

/-- A sink in one moment: it works as usual, or its appends fail. -/
def whenever (sink : AuditSink Store) (works : Bool) : AuditSink Store where
  append record store := if works then sink.append record store else none

theorem offer_whenever (sink : AuditSink Store) (works : Bool)
    (record : DecisionRecord) (store : Store) :
    (sink.whenever works).offer record store =
      if works then sink.offer record store else store := by
  cases works with
  | false => rfl
  | true => rfl

end AuditSink

namespace Collaborators

variable {State Store Other Entry : Type} {collaborators : Collaborators State}
  {sink : AuditSink Store}

/-- Evaluate requests one after the other. Each comes with its time and with
whether the sink works at that time. -/
def recordings (collaborators : Collaborators State) (sink : AuditSink Store)
    (policy : FallbackPolicy) :
    List (Bool × Nat × AccessRequest) → State → Store →
      List Evaluation × State × Store
  | [], state, store => ([], state, store)
  | (works, now, request) :: rest, state, store =>
      let (verdict, (questions, state), store) :=
        collaborators.noting.evaluate (sink.whenever works) policy now request
          ([], state) store
      let (others, state, store) :=
        recordings collaborators sink policy rest state store
      (⟨verdict, questions⟩ :: others, state, store)

theorem recordings_cons (policy : FallbackPolicy) (works : Bool) (now : Nat)
    (request : AccessRequest) (rest : List (Bool × Nat × AccessRequest))
    (state : State) (store : Store) :
    collaborators.recordings sink policy ((works, now, request) :: rest) state
        store =
      let first := collaborators.evaluation policy now request state
      let others := collaborators.recordings sink policy rest
        (collaborators.inquire request state).2
        (if works then sink.offer first.verdict.record store else store)
      (first :: others.1, others.2) := by
  rw [recordings, evaluate_noting, evaluate_eq_inquire]
  simp only [AuditSink.offer_whenever]
  rfl

/-- Nothing but the store depends on the sink and on which appends fail. -/
theorem recordings_eq_evaluations (sink : AuditSink Store)
    (other : AuditSink Other) (policy : FallbackPolicy)
    (requests : List (Bool × Nat × AccessRequest)) (state : State)
    (store : Store) (otherStore : Other) :
    let failing := collaborators.recordings sink policy requests state store
    let sound := collaborators.evaluations other policy
      (requests.map Prod.snd) state otherStore
    failing.1 = sound.1 ∧ failing.2.1 = sound.2.1 := by
  -- The stores of the two runs drift apart, and neither is ever looked at.
  induction requests generalizing state store otherStore with
  | nil => exact ⟨rfl, rfl⟩
  | cons head rest ih =>
      obtain ⟨works, now, request⟩ := head
      simp only [recordings_cons, List.map_cons, evaluations_cons]
      obtain ⟨sameEvaluations, sameState⟩ :=
        ih (collaborators.inquire request state).2 _ _
      exact ⟨congrArg _ sameEvaluations, sameState⟩

theorem length_recordings (policy : FallbackPolicy)
    (requests : List (Bool × Nat × AccessRequest)) (state : State)
    (store : Store) :
    (collaborators.recordings sink policy requests state store).1.length =
      requests.length := by
  induction requests generalizing state store with
  | nil => rfl
  | cons head rest ih =>
      obtain ⟨works, now, request⟩ := head
      simp only [recordings_cons, List.length_cons, ih]

/-- The evaluations of a run whose appends succeeded. -/
def recorded (requests : List (Bool × Nat × AccessRequest))
    (evaluations : List Evaluation) : List Evaluation :=
  ((requests.zip evaluations).filter fun pair => pair.1.1).map Prod.snd

theorem entries_recordings {entries : Store → List Entry}
    {written : DecisionRecord → List Entry}
    (keeps : sink.Keeps entries written) (policy : FallbackPolicy)
    (requests : List (Bool × Nat × AccessRequest)) (state : State)
    (store : Store) :
    let run := collaborators.recordings sink policy requests state store
    entries run.2.2 =
      entries store ++ (recorded requests run.1).flatMap fun evaluation =>
        written evaluation.verdict.record := by
  induction requests generalizing state store with
  | nil => simp [recordings, recorded]
  | cons head rest ih =>
      obtain ⟨works, now, request⟩ := head
      simp only [recordings_cons, ih]
      cases works with
      | false => simp [recorded]
      | true => simp [recorded, keeps.entries_offer]

/-- Failing appends change nothing but the store. Whichever appends of a run
fail, its evaluations and the state it leaves are those of a run over any other
sink. Over a sink that keeps what it is given, the entries are those of the
records whose appends succeeded, in their order. -/
theorem evaluations_despite_failures (collaborators : Collaborators State)
    {entries : Store → List Entry} {written : DecisionRecord → List Entry}
    (keeps : sink.Keeps entries written) (policy : FallbackPolicy)
    (requests : List (Bool × Nat × AccessRequest)) (state : State)
    (store : Store) :
    let failing := collaborators.recordings sink policy requests state store
    (∀ (Other : Type) (other : AuditSink Other) (otherStore : Other),
      let sound := collaborators.evaluations other policy
        (requests.map Prod.snd) state otherStore
      failing.1 = sound.1 ∧
        failing.1.map (fun evaluation => evaluation.verdict.allowedPrincipal) =
          sound.1.map (fun evaluation => evaluation.verdict.allowedPrincipal) ∧
        failing.2.1 = sound.2.1) ∧
      failing.1.length = requests.length ∧
      entries failing.2.2 =
        entries store ++ (recorded requests failing.1).flatMap fun evaluation =>
          written evaluation.verdict.record := by
  refine ⟨?_, ?_, ?_⟩
  · intro Other other otherStore
    obtain ⟨sameEvaluations, sameState⟩ :=
      collaborators.recordings_eq_evaluations sink other policy requests state
        store otherStore
    exact ⟨sameEvaluations, congrArg _ sameEvaluations, sameState⟩
  · exact length_recordings policy requests state store
  · exact entries_recordings keeps policy requests state store

end Collaborators

/-- The append of the first of two records fails. The verdicts are those of a
run over a sink that works, and the second record alone is in the sink. -/
theorem evaluations_despite_failure_of_sample :
    let run := Sample.withoutBackend.recordings AuditSink.memory
      ⟨.nonProduction, true⟩
      [(false, 1700000000, Sample.anonymous), (true, 1700000001, Sample.named)]
      () []
    AuditSink.memory.Keeps id (fun record => [record]) ∧
      run.1 = (Sample.withoutBackend.evaluations AuditSink.memory
        ⟨.nonProduction, true⟩
        [(1700000000, Sample.anonymous), (1700000001, Sample.named)] () []).1 ∧
      run.2.2.map (fun record => (record.requestId, record.reason)) =
        [("second", .fallbackGranted)] := by
  obtain ⟨sound, -, -⟩ := Collaborators.evaluations_despite_failures
    Sample.withoutBackend AuditSink.keeps_memory ⟨.nonProduction, true⟩
    [(false, 1700000000, Sample.anonymous), (true, 1700000001, Sample.named)]
    () []
  exact ⟨AuditSink.keeps_memory, (sound _ AuditSink.memory []).1,
    by decide +kernel⟩

end Gatekeeper
