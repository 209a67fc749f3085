import Gatekeeper.Json.Basic

/-!
# Decision records

The audit record of one evaluation. Reasons are written to the audit trail only,
never to the caller.
-/

namespace Gatekeeper

inductive Decision where
  | allow
  | deny
  /-- Denied because the backend was unreachable and the policy granted no
  fallback. -/
  | denyFallbackUnavailable
deriving DecidableEq, Repr

def Decision.name : Decision → String
  | allow => "ALLOW"
  | deny => "DENY"
  | denyFallbackUnavailable => "DENY_FALLBACK_UNAVAILABLE"

inductive Reason where
  | credentialMissing
  | credentialMalformed
  | credentialInvalid
  | identityProviderUnavailable
  | invalidIdentifier
  | invalidTarget
  | backendAllowed
  | backendDenied
  | backendRejected
  | fallbackUnavailable
  | fallbackDisabled
  | fallbackGranted
deriving DecidableEq, Repr

def Reason.name : Reason → String
  | credentialMissing => "CREDENTIAL_MISSING"
  | credentialMalformed => "CREDENTIAL_MALFORMED"
  | credentialInvalid => "CREDENTIAL_INVALID"
  | identityProviderUnavailable => "IDENTITY_PROVIDER_UNAVAILABLE"
  | invalidIdentifier => "INVALID_IDENTIFIER"
  | invalidTarget => "INVALID_TARGET"
  | backendAllowed => "BACKEND_ALLOWED"
  | backendDenied => "BACKEND_DENIED"
  | backendRejected => "BACKEND_REJECTED"
  | fallbackUnavailable => "FALLBACK_UNAVAILABLE"
  | fallbackDisabled => "FALLBACK_DISABLED"
  | fallbackGranted => "FALLBACK_GRANTED"

inductive Severity where
  | normal
  /-- Access was granted without an answer of the backend. -/
  | elevated
deriving DecidableEq, Repr

def Severity.name : Severity → String
  | normal => "normal"
  | elevated => "elevated"

inductive Stage where
  | start
  | identityResolved
  | queryIssued
  | fallbackEvaluated
deriving DecidableEq, Repr

def Stage.name : Stage → String
  | start => "START"
  | identityResolved => "IDENTITY_RESOLVED"
  | queryIssued => "QUERY_ISSUED"
  | fallbackEvaluated => "FALLBACK_EVALUATED"

structure DecisionRecord where
  requestId : String
  decision : Decision
  reason : Reason
  severity : Severity
  stage : Stage
  /-- Seconds since the epoch. -/
  timestamp : Nat
  /-- Absent when the backend was not consulted. -/
  backendReachable : Option Bool
  /-- The canonical id of the caller, once resolved. -/
  principal : Option String
  relation : String
  object : String
  detail : Option String
deriving DecidableEq, Repr

namespace DecisionRecord

/-- A member that is left out when it has no value. -/
def presentMember (name : String) : Option Json → Json.Members
  | none => []
  | some value => [(name, value)]

/-- The members of a record in their written order. -/
def members (record : DecisionRecord) : Json.Members :=
  [("request_id", .string record.requestId),
      ("decision", .string record.decision.name),
      ("reason", .string record.reason.name),
      ("severity", .string record.severity.name),
      ("stage", .string record.stage.name),
      ("timestamp", .nat record.timestamp)] ++
    presentMember "backend_reachable" (record.backendReachable.map .boolean) ++
    presentMember "principal" (record.principal.map .string) ++
    [("relation", .string record.relation),
      ("object", .string record.object)] ++
    presentMember "detail" (record.detail.map .string)

def toJson (record : DecisionRecord) : Json :=
  .object record.members

end DecisionRecord

end Gatekeeper
