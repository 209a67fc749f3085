/-!
# Fallback policy

What happens to a request when the relation backend cannot be consulted.
Production never falls back, and elsewhere access is granted only where the
operator asked for it.
-/

namespace Gatekeeper

inductive Environment where
  | production
  | nonProduction
deriving DecidableEq, Repr

def Environment.name : Environment → String
  | production => "production"
  | nonProduction => "non_production"

inductive FallbackOutcome where
  | forbidden
  | disabled
  | granted
deriving DecidableEq, Repr

structure FallbackPolicy where
  environment : Environment
  allowFallback : Bool
deriving DecidableEq, Repr

namespace FallbackPolicy

/-- Whether the operator's wish can take effect. -/
def isEffective (policy : FallbackPolicy) : Bool :=
  policy.environment ≠ .production && policy.allowFallback

def onBackendUnavailable (policy : FallbackPolicy) : FallbackOutcome :=
  match policy.environment with
  | .production => .forbidden
  | .nonProduction => if policy.allowFallback then .granted else .disabled

end FallbackPolicy

end Gatekeeper
