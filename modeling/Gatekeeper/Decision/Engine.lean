import Gatekeeper.Audit.Sink
import Gatekeeper.Decision.Policy
import Gatekeeper.Decision.Record
import Gatekeeper.Identity.Claims
import Gatekeeper.Relation.Answer
import Gatekeeper.Relation.Query

/-!
# Decision engine

An evaluation resolves the caller, asks the relation backend, and applies the
fallback policy when the backend cannot answer. It ends in exactly one record,
which is offered to the audit sink. The identity provider and the backend are
steps on a state of their own, which an evaluation threads through.
-/

namespace Gatekeeper

inductive Credential where
  | missing
  /-- There is an authorization header, and it is no usable bearer token. -/
  | malformed
  | bearer (token : String)
deriving DecidableEq, Repr

structure AccessRequest where
  requestId : String
  credential : Credential
  relation : String
  object : String
deriving DecidableEq, Repr

/-- The identity provider and the relation backend, over their common state. -/
structure Collaborators (State : Type) where
  authenticate : String → State → Authentication × State
  check : RelationQuery → State → CheckAnswer × State

structure Ending where
  decision : Decision
  reason : Reason
  stage : Stage
  detail : Option String
  backendReachable : Option Bool
  principal : Option Principal
deriving Repr

namespace Ending

/-- A denial before the caller was resolved. -/
def deniedAtStart (reason : Reason) (detail : Option String) : Ending :=
  ⟨.deny, reason, .start, detail, none, none⟩

/-- A denial of a resolved caller whose query was not issued. -/
def deniedUnasked (principal : Principal) (reason : Reason) (detail : String) :
    Ending :=
  ⟨.deny, reason, .identityResolved, some detail, none, some principal⟩

def withoutAnswer (policy : FallbackPolicy) (principal : Principal)
    (detail : String) :
    Ending :=
  match policy.onBackendUnavailable with
  | .forbidden =>
      ⟨.denyFallbackUnavailable, .fallbackUnavailable, .fallbackEvaluated,
        some detail, some false, some principal⟩
  | .disabled =>
      ⟨.denyFallbackUnavailable, .fallbackDisabled, .fallbackEvaluated,
        some detail, some false, some principal⟩
  | .granted =>
      ⟨.allow, .fallbackGranted, .fallbackEvaluated, some detail, some false,
        some principal⟩

def ofAnswer (policy : FallbackPolicy) (principal : Principal) :
    CheckAnswer → Ending
  | .ok true =>
      ⟨.allow, .backendAllowed, .queryIssued, none, some true, some principal⟩
  | .ok false =>
      ⟨.deny, .backendDenied, .queryIssued, none, some true, some principal⟩
  | .error (.unavailable detail) => withoutAnswer policy principal detail
  | .error failure =>
      ⟨.deny, .backendRejected, .queryIssued, some failure.message, some true,
        some principal⟩

end Ending

def resolveCaller (authentication : Authentication) : Except Ending Principal :=
  match authentication with
  | .error (.credentialInvalid detail) =>
      .error (.deniedAtStart .credentialInvalid (some detail))
  | .error (.unavailable detail) =>
      .error (.deniedAtStart .identityProviderUnavailable (some detail))
  | .ok claims =>
      match Principal.ofClaims claims with
      | .error invalid =>
          .error (.deniedAtStart .invalidIdentifier (some invalid.message))
      | .ok principal => .ok principal

def formQuery (principal : Principal) (request : AccessRequest) :
    Except Ending RelationQuery :=
  match RelationQuery.ofParts principal.canonicalId request.relation
    request.object with
  | .ok query => .ok query
  | .error (.subject text fault) =>
      .error (.deniedUnasked principal .invalidIdentifier
        (QueryFault.message (.subject text fault)))
  | .error fault =>
      .error (.deniedUnasked principal .invalidTarget fault.message)

/-- The result of one evaluation: its record, and the caller when resolution got
that far. -/
structure Verdict where
  record : DecisionRecord
  principal : Option Principal
deriving Repr

namespace Verdict

def isAllowed (verdict : Verdict) : Bool :=
  verdict.record.decision = .allow

/-- The caller to hand on; none on a denial. -/
def allowedPrincipal (verdict : Verdict) : Option Principal :=
  if verdict.isAllowed then verdict.principal else none

end Verdict

def Ending.verdict (ending : Ending) (request : AccessRequest) (now : Nat) :
    Verdict where
  record :=
    { requestId := request.requestId
      decision := ending.decision
      reason := ending.reason
      severity :=
        if ending.reason = .fallbackGranted then .elevated else .normal
      stage := ending.stage
      timestamp := now
      backendReachable := ending.backendReachable
      principal := ending.principal.map Principal.canonicalId
      relation := request.relation
      object := request.object
      detail := ending.detail }
  principal := ending.principal

namespace Collaborators

variable {State Store : Type}

/-- Decide a request. The identity provider is asked about a bearer token only,
and the backend about a well-formed query only. -/
def decide (collaborators : Collaborators State) (policy : FallbackPolicy)
    (request : AccessRequest) (state : State) : Ending × State :=
  match request.credential with
  | .missing => (.deniedAtStart .credentialMissing none, state)
  | .malformed => (.deniedAtStart .credentialMalformed none, state)
  | .bearer token =>
      let (authentication, state) := collaborators.authenticate token state
      match resolveCaller authentication with
      | .error ending => (ending, state)
      | .ok principal =>
          match formQuery principal request with
          | .error ending => (ending, state)
          | .ok query =>
              let (answer, state) := collaborators.check query state
              (.ofAnswer policy principal answer, state)

/-- Evaluate a request and offer its record to the sink. -/
def evaluate (collaborators : Collaborators State) (sink : AuditSink Store)
    (policy : FallbackPolicy) (now : Nat) (request : AccessRequest)
    (state : State) (store : Store) : Verdict × State × Store :=
  let (ending, state) := collaborators.decide policy request state
  let verdict := ending.verdict request now
  (verdict, state, sink.offer verdict.record store)

end Collaborators

end Gatekeeper
