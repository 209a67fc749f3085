import Gatekeeper.Proofs.Decision.Fallback

/-!
# Coherence of decision records

What the records of a run tell about it. An evaluation ends in one of five
ways, each with the questions that were asked on the way there, and in each of
them the reason, the stage, the caller and the reachability of the backend fit
together. A sink that keeps what it is given holds exactly the records of the
run.
-/

namespace Gatekeeper

/-! ### Coherent records -/

namespace Reason

/-- The reasons to deny before a caller is resolved. -/
def unresolved : List Reason :=
  [.credentialMissing, .credentialMalformed, .credentialInvalid,
    .identityProviderUnavailable, .invalidIdentifier]

/-- The reasons that the backend gives. -/
def answered : List Reason :=
  [.backendAllowed, .backendDenied, .backendRejected]

/-- The reasons that the fallback policy gives. -/
def unanswered : List Reason :=
  [.fallbackUnavailable, .fallbackDisabled, .fallbackGranted]

end Reason

/-- The members of a record agree about how far its evaluation came. -/
structure DecisionRecord.IsCoherent (record : DecisionRecord) : Prop where
  start_iff : record.reason ∈ Reason.unresolved ↔ record.stage = .start
  unnamed_iff : record.stage = .start ↔ record.principal = none
  resolved_iff :
    record.reason = .invalidTarget ↔ record.stage = .identityResolved
  issued_iff : record.reason ∈ Reason.answered ↔ record.stage = .queryIssued
  reached_iff :
    record.stage = .queryIssued ↔ record.backendReachable = some true
  fallback_iff :
    record.reason ∈ Reason.unanswered ↔ record.stage = .fallbackEvaluated
  missed_iff :
    record.stage = .fallbackEvaluated ↔ record.backendReachable = some false
  allow_iff : record.decision = .allow ↔
    record.reason = .backendAllowed ∨ record.reason = .fallbackGranted
  refused_iff : record.decision = .denyFallbackUnavailable ↔
    record.reason = .fallbackUnavailable ∨ record.reason = .fallbackDisabled
  elevated_iff :
    record.severity = .elevated ↔ record.reason = .fallbackGranted

/-! ### Coherent evaluations -/

def Credential.token? : Credential → Option String
  | .bearer token => some token
  | _ => none

namespace Evaluation

/-- The tokens that the identity provider was asked about. -/
def tokens (evaluation : Evaluation) : List String :=
  evaluation.questions.filterMap fun
    | .authenticate token _ => some token
    | .check _ _ => none

/-- The queries that the backend was asked. -/
def queries (evaluation : Evaluation) : List RelationQuery :=
  evaluation.questions.filterMap fun
    | .authenticate _ _ => none
    | .check query _ => some query

/-- The record of an evaluation is coherent, belongs to its request, and tells
which questions were asked. -/
structure IsCoherent (now : Nat) (request : AccessRequest)
    (evaluation : Evaluation) : Prop where
  record : evaluation.verdict.record.IsCoherent
  requestId : evaluation.verdict.record.requestId = request.requestId
  relation : evaluation.verdict.record.relation = request.relation
  object : evaluation.verdict.record.object = request.object
  timestamp : evaluation.verdict.record.timestamp = now
  /-- The identity provider is asked once about a bearer token, and otherwise
  not at all. -/
  tokens : evaluation.tokens = request.credential.token?.toList
  asked_iff : (∃ query, evaluation.queries = [query]) ↔
    evaluation.verdict.record.stage = .queryIssued ∨
      evaluation.verdict.record.stage = .fallbackEvaluated
  unasked_iff : evaluation.queries = [] ↔
    evaluation.verdict.record.backendReachable = none
  /-- A query is about the caller, the relation and the object of the record. -/
  query : ∀ query ∈ evaluation.queries,
    evaluation.verdict.record.principal = some query.subject ∧
      evaluation.verdict.record.relation = query.relation ∧
      evaluation.verdict.record.object = query.object

end Evaluation

/-! ### How an evaluation ends -/

/-- The ending of an evaluation with the questions on the way to it. -/
inductive AccessRequest.Ends (request : AccessRequest)
    (policy : FallbackPolicy) : Ending → List Question → Prop
  | missing (credential : request.credential = .missing) :
      Ends request policy (.deniedAtStart .credentialMissing none) []
  | malformed (credential : request.credential = .malformed) :
      Ends request policy (.deniedAtStart .credentialMalformed none) []
  | unresolved (token : String) (authentication : Authentication)
      (reason : Reason) (detail : String)
      (credential : request.credential = .bearer token)
      (early : reason ∈ Reason.unresolved) :
      Ends request policy (.deniedAtStart reason (some detail))
        [.authenticate token authentication]
  | unasked (token : String) (authentication : Authentication)
      (principal : Principal) (detail : String)
      (credential : request.credential = .bearer token) :
      Ends request policy (.deniedUnasked principal .invalidTarget detail)
        [.authenticate token authentication]
  | asked (token : String) (authentication : Authentication)
      (principal : Principal) (answer : CheckAnswer)
      (credential : request.credential = .bearer token) :
      Ends request policy (.ofAnswer policy principal answer)
        [.authenticate token authentication,
          .check
            ⟨principal.canonicalId, request.relation, request.object⟩ answer]

/-- A caller that is not resolved is denied at the start. -/
theorem resolveCaller_eq_error {authentication : Authentication}
    {ending : Ending}
    (unresolved : resolveCaller authentication = .error ending) :
    ∃ reason detail, ending = .deniedAtStart reason (some detail) ∧
      reason ∈ Reason.unresolved := by
  rcases authentication with (detail | detail) | claims
  · exact ⟨_, _, (Except.error.inj unresolved).symm, by decide⟩
  · exact ⟨_, _, (Except.error.inj unresolved).symm, by decide⟩
  · cases named : Principal.ofClaims claims with
    | error invalid =>
        simp only [resolveCaller, named, Except.error.injEq] at unresolved
        exact ⟨_, _, unresolved.symm, by decide⟩
    | ok principal => simp [resolveCaller, named] at unresolved

/-- The query of a resolved caller fails for its relation or its object only:
a canonical id is the subject of a query. -/
theorem formQuery_eq_error {principal : Principal} {request : AccessRequest}
    {ending : Ending} (user : IsUser principal.canonicalId.toList)
    (unformed : formQuery principal request = .error ending) :
    ∃ detail, ending = .deniedUnasked principal .invalidTarget detail := by
  have subject : subjectFault? principal.canonicalId.toList = none :=
    subjectFault?_eq_none_iff.mpr user
  unfold formQuery RelationQuery.ofParts at unformed
  rw [subject] at unformed
  cases relation : relationFault? request.relation.toList with
  | some fault =>
      simp only [relation, Except.error.injEq] at unformed
      exact ⟨_, unformed.symm⟩
  | none =>
      cases object : objectFault? request.object.toList with
      | some fault =>
          simp only [relation, object, Except.error.injEq] at unformed
          exact ⟨_, unformed.symm⟩
      | none => simp [relation, object] at unformed

theorem isUser_of_resolveCaller {authentication : Authentication}
    {principal : Principal}
    (resolved : resolveCaller authentication = .ok principal) :
    IsUser principal.canonicalId.toList := by
  obtain ⟨claims, -, named⟩ := resolveCaller_eq_ok_iff.mp resolved
  obtain ⟨canonicalId, isCanonical, rfl⟩ :=
    Principal.ofClaims_eq_ok_iff.mp named
  exact isUser_of_canonical isCanonical

namespace Collaborators

variable {State Store Entry : Type}

theorem ends_inquire (collaborators : Collaborators State)
    (policy : FallbackPolicy) (request : AccessRequest) (state : State) :
    request.Ends policy
      ((collaborators.inquire request state).1.ending policy)
      (collaborators.questions request state) := by
  unfold questions inquire
  cases credential : request.credential with
  | missing => exact .missing credential
  | malformed => exact .malformed credential
  | bearer token =>
      cases resolved :
          resolveCaller (collaborators.authenticate token state).1 with
      | error ending =>
          obtain ⟨reason, detail, rfl, early⟩ :=
            resolveCaller_eq_error resolved
          simp only [noting, resolved, Inquiry.ending, List.nil_append]
          exact .unresolved token _ reason detail credential early
      | ok principal =>
          cases formed : formQuery principal request with
          | error ending =>
              obtain ⟨detail, rfl⟩ :=
                formQuery_eq_error (isUser_of_resolveCaller resolved) formed
              simp only [noting, resolved, formed, Inquiry.ending,
                List.nil_append]
              exact .unasked token _ principal detail credential
          | ok query =>
              obtain ⟨-, -, -, rfl⟩ := formQuery_eq_ok_iff.mp formed
              simp only [noting, resolved, formed, Inquiry.ending,
                List.nil_append, List.cons_append]
              exact .asked token _ principal _ credential

end Collaborators

/-! ### Endings give coherent records -/

theorem Ending.isCoherent_deniedAtStart {reason : Reason}
    (early : reason ∈ Reason.unresolved) (detail : Option String)
    (request : AccessRequest) (now : Nat) :
    ((Ending.deniedAtStart reason detail).verdict request
      now).record.IsCoherent := by
  simp only [Reason.unresolved, List.mem_cons, List.not_mem_nil,
    or_false] at early
  rcases early with rfl | rfl | rfl | rfl | rfl <;>
    constructor <;>
    simp [Ending.deniedAtStart, Ending.verdict, Reason.unresolved,
      Reason.answered, Reason.unanswered]

theorem Ending.isCoherent_deniedUnasked (principal : Principal)
    (detail : String) (request : AccessRequest) (now : Nat) :
    ((Ending.deniedUnasked principal .invalidTarget detail).verdict request
      now).record.IsCoherent := by
  constructor <;>
    simp [Ending.deniedUnasked, Ending.verdict, Reason.unresolved,
      Reason.answered, Reason.unanswered]

theorem Ending.isCoherent_ofAnswer (policy : FallbackPolicy)
    (principal : Principal) (answer : CheckAnswer) (request : AccessRequest)
    (now : Nat) :
    ((Ending.ofAnswer policy principal answer).verdict request
      now).record.IsCoherent := by
  rcases answer with (detail | ⟨status, detail⟩ | detail) | (_ | _)
  · cases outcome : policy.onBackendUnavailable <;>
      constructor <;>
      simp [Ending.ofAnswer, Ending.withoutAnswer, outcome, Ending.verdict,
        Reason.unresolved, Reason.answered, Reason.unanswered]
  all_goals
    constructor <;>
      simp [Ending.ofAnswer, Ending.verdict, Reason.unresolved,
        Reason.answered, Reason.unanswered]

/-- The backend was asked and answered, or did not. -/
theorem Ending.stage_ofAnswer (policy : FallbackPolicy) (principal : Principal)
    (answer : CheckAnswer) :
    ((Ending.ofAnswer policy principal answer).stage = .queryIssued ∨
        (Ending.ofAnswer policy principal answer).stage =
          .fallbackEvaluated) ∧
      (Ending.ofAnswer policy principal answer).backendReachable ≠ none := by
  rcases answer with (detail | ⟨status, detail⟩ | detail) | (_ | _)
  · cases outcome : policy.onBackendUnavailable <;>
      simp [Ending.ofAnswer, Ending.withoutAnswer, outcome]
  all_goals simp [Ending.ofAnswer]

/-- An ending that the backend was asked for has a reason of its answer or of
the fallback policy. -/
theorem Ending.reason_ofAnswer (policy : FallbackPolicy) (principal : Principal)
    (answer : CheckAnswer) :
    (Ending.ofAnswer policy principal answer).reason ∈
      Reason.answered ++ Reason.unanswered := by
  rcases answer with (detail | ⟨status, detail⟩ | detail) | (_ | _)
  · cases outcome : policy.onBackendUnavailable <;>
      simp [Ending.ofAnswer, Ending.withoutAnswer, outcome, Reason.answered,
        Reason.unanswered]
  all_goals simp [Ending.ofAnswer, Reason.answered]

/-- Whichever way an evaluation ends, it is coherent. -/
theorem AccessRequest.Ends.isCoherent {request : AccessRequest}
    {policy : FallbackPolicy} {ending : Ending} {questions : List Question}
    (ends : request.Ends policy ending questions) (now : Nat) :
    Evaluation.IsCoherent now request
      ⟨ending.verdict request now, questions⟩ := by
  cases ends with
  | missing credential =>
      refine ⟨Ending.isCoherent_deniedAtStart (by decide) none request now,
        rfl, rfl, rfl, rfl, ?_, ?_, ?_, ?_⟩ <;>
        simp [Evaluation.tokens, Evaluation.queries, credential,
          Credential.token?, Ending.verdict, Ending.deniedAtStart]
  | malformed credential =>
      refine ⟨Ending.isCoherent_deniedAtStart (by decide) none request now,
        rfl, rfl, rfl, rfl, ?_, ?_, ?_, ?_⟩ <;>
        simp [Evaluation.tokens, Evaluation.queries, credential,
          Credential.token?, Ending.verdict, Ending.deniedAtStart]
  | unresolved token authentication reason detail credential early =>
      refine ⟨Ending.isCoherent_deniedAtStart early (some detail) request now,
        rfl, rfl, rfl, rfl, ?_, ?_, ?_, ?_⟩ <;>
        simp [Evaluation.tokens, Evaluation.queries, credential,
          Credential.token?, Ending.verdict, Ending.deniedAtStart]
  | unasked token authentication principal detail credential =>
      refine ⟨Ending.isCoherent_deniedUnasked principal detail request now,
        rfl, rfl, rfl, rfl, ?_, ?_, ?_, ?_⟩ <;>
        simp [Evaluation.tokens, Evaluation.queries, credential,
          Credential.token?, Ending.verdict, Ending.deniedUnasked]
  | asked token authentication principal answer credential =>
      obtain ⟨reached, told⟩ := Ending.stage_ofAnswer policy principal answer
      have named := Ending.ofAnswer_principal policy principal answer
      refine ⟨Ending.isCoherent_ofAnswer policy principal answer request now,
        rfl, rfl, rfl, rfl, ?_, ?_, ?_, ?_⟩ <;>
        simp [Evaluation.tokens, Evaluation.queries, credential,
          Credential.token?, Ending.verdict, named, reached, told]

/-! ### Sinks that keep what they are given -/

/-- Appending never fails, and adds what is written of the record behind the
entries that are there. -/
def AuditSink.Keeps {Store Entry : Type} (sink : AuditSink Store)
    (entries : Store → List Entry) (written : DecisionRecord → List Entry) :
    Prop :=
  ∀ record store, ∃ after, sink.append record store = some after ∧
    entries after = entries store ++ written record

namespace AuditSink

variable {Store Entry : Type} {sink : AuditSink Store}
  {entries : Store → List Entry} {written : DecisionRecord → List Entry}

theorem keeps_memory : memory.Keeps id fun record => [record] :=
  fun _ _ => ⟨_, rfl, rfl⟩

theorem keeps_log :
    log.Keeps id fun record => [(record.severity, line record)] :=
  fun _ _ => ⟨_, rfl, rfl⟩

theorem keeps_file :
    file.Keeps id fun record => lineBytes record ++ [lineFeed] :=
  fun _ _ => ⟨_, rfl, List.append_assoc _ _ _⟩

theorem Keeps.entries_offer (keeps : sink.Keeps entries written)
    (record : DecisionRecord) (store : Store) :
    entries (sink.offer record store) = entries store ++ written record := by
  obtain ⟨after, appended, added⟩ := keeps record store
  simpa [offer, appended] using added

end AuditSink

/-! ### Runs -/

namespace Collaborators

variable {State Store Entry : Type} {sink : AuditSink Store}
  {entries : Store → List Entry} {written : DecisionRecord → List Entry}

/-- Over any run and any sink that keeps what it is given, the entries of the
sink are those of the returned records in their order. There is one evaluation
for each request, and it is coherent. -/
theorem evaluations_coherent (collaborators : Collaborators State)
    (keeps : sink.Keeps entries written) (policy : FallbackPolicy)
    (requests : List (Nat × AccessRequest)) (state : State) (store : Store) :
    let run := collaborators.evaluations sink policy requests state store
    List.Forall₂
        (fun request evaluation =>
          Evaluation.IsCoherent request.1 request.2 evaluation)
        requests run.1 ∧
      entries run.2.2 =
        entries store ++
          run.1.flatMap fun evaluation =>
            written evaluation.verdict.record := by
  induction requests generalizing state store with
  | nil => exact ⟨.nil, by simp [evaluations]⟩
  | cons head rest ih =>
      obtain ⟨now, request⟩ := head
      simp only [evaluations_cons]
      obtain ⟨others, added⟩ := ih (collaborators.inquire request state).2
        (sink.offer
          (collaborators.evaluation policy now request state).verdict.record
          store)
      refine ⟨.cons ?_ others, ?_⟩
      · exact (collaborators.ends_inquire policy request state).isCoherent now
      · rw [added, keeps.entries_offer]
        simp

end Collaborators

/-! ### A run without a backend

A request without a credential, and one with a token that the identity provider
accepts. The backend cannot be reached.
-/

namespace Sample

def withoutBackend : Collaborators Unit where
  authenticate token state := (.ok ⟨token, "", 1800000000, []⟩, state)
  check _ state := (.error (.unavailable "refused"), state)

def anonymous : AccessRequest :=
  ⟨"first", .missing, "viewer", "document:roadmap"⟩

def named : AccessRequest :=
  ⟨"second", .bearer "alice", "viewer", "document:roadmap"⟩

end Sample

/-- The sink holds the two records of the run, and they tell how far each
evaluation came. -/
theorem evaluations_coherent_of_sample :
    let run := Sample.withoutBackend.evaluations AuditSink.memory
      ⟨.nonProduction, true⟩
      [(1700000000, Sample.anonymous), (1700000001, Sample.named)] () []
    AuditSink.memory.Keeps id (fun record => [record]) ∧
      run.2.2 = run.1.flatMap (fun evaluation => [evaluation.verdict.record]) ∧
      run.2.2.map (fun record => (record.reason, record.stage)) =
        [(.credentialMissing, .start),
          (.fallbackGranted, .fallbackEvaluated)] := by
  obtain ⟨-, added⟩ := Collaborators.evaluations_coherent
    Sample.withoutBackend AuditSink.keeps_memory ⟨.nonProduction, true⟩
    [(1700000000, Sample.anonymous), (1700000001, Sample.named)] () []
  exact ⟨AuditSink.keeps_memory, added, by decide +kernel⟩

end Gatekeeper
