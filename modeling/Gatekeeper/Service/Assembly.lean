import Gatekeeper.Audit.Trail
import Gatekeeper.Config.Server
import Gatekeeper.Identity.ClaimsCache
import Gatekeeper.Identity.KeySet
import Gatekeeper.Relation.CheckClient
import Gatekeeper.Service.Answer
import Gatekeeper.Service.Tls

/-!
# Assembly of a service

A completed configuration becomes a service: an identity provider behind its
cache, a check client, an audit destination, a policy and the rules for targets.
What is built is told to the log.
-/

namespace Gatekeeper

open Gatekeeper.Config

inductive IdentitySource where
  | published (url : String) (keys : PublishedKeys)
  | configured (rules : TokenRules) (key : VerificationKey)
deriving Repr

structure Service where
  identity : IdentitySource
  limits : CacheLimits
  client : CheckClient
  audit : AuditDestination
  policy : FallbackPolicy
  target : TargetRules
deriving Repr

/-! ### Building -/

inductive AssemblyFault where
  | unreadableKey (path : String) (error : FileError)
  | key (fault : KeyTextFault)
  | audit (fault : AuditFileFault)
deriving DecidableEq, Repr

def AssemblyFault.message : AssemblyFault → String
  | unreadableKey path error =>
      "init identity provider: read idp public key '" ++ path ++ "': " ++
        error.message
  | key fault => "init identity provider: " ++ fault.message
  | audit fault => "init audit sink: " ++ fault.message

def info (text : String) : LogEntry := ⟨.info, text⟩

def warning (text : String) : LogEntry := ⟨.warning, text⟩

namespace IdentitySource

/-- What the log says before a source is built. -/
def announcement (config : IdentityConfig) : LogEntry :=
  match config.source with
  | .published =>
      info ("Verify tokens with signing keys from " ++ config.keySetUrl)
  | .localFile =>
      info ("Verify tokens with public key " ++ config.publicKeyPath)

def ofConfig (files : FileTree) (config : IdentityConfig) :
    Except AssemblyFault IdentitySource :=
  match config.source with
  | .published =>
      .ok (.published config.keySetUrl ⟨config.tokenRules,
        config.keySetRefresh⟩)
  | .localFile =>
      match files.read config.publicKeyPath with
      | .error error => .error (.unreadableKey config.publicKeyPath error)
      | .ok bytes =>
          match VerificationKey.ofText (Text.Utf8.decodeLossy bytes) with
          | .error fault => .error (.key fault)
          | .ok key => .ok (.configured config.tokenRules key)

end IdentitySource

def cacheAnnouncement (limits : CacheLimits) : List LogEntry :=
  if limits.isEnabled then
    [info ("Claims cache enabled, ttl " ++ toString limits.ttl ++
      "s, capacity " ++ toString limits.capacity)]
  else
    []

def clientOf (config : BackendConfig) : CheckClient :=
  ⟨config.url, config.store, present? config.model, present? config.token⟩

def clientAnnouncement (config : BackendConfig) : List LogEntry :=
  info ("Check permissions against store " ++ config.store ++ " at " ++
    config.url) ::
    if config.token.isEmpty then
      [warning ("No api_token for the authorization backend, checks are " ++
        "sent without credentials")]
    else
      []

def auditAnnouncement (config : AuditConfig) : LogEntry :=
  match config.target with
  | .log => info "Write audit records to the log"
  | .file => info ("Write audit records to " ++ config.path)

def openAudit (files : FileTree) (config : AuditConfig) :
    Except AuditFileFault (AuditDestination × FileTree) :=
  match config.target with
  | .log => .ok (.log, files)
  | .file => AuditDestination.openFile files config.path

def policyAnnouncement (policy : FallbackPolicy) : List LogEntry :=
  (if policy.allowFallback && policy.environment = .production then
    [warning ("allow_fallback is ignored in production, requests are denied " ++
      "while the authorization backend is unavailable")]
  else
    []) ++
    [if policy.isEffective then
      warning ("Fallback is enabled, requests are ALLOWED while the " ++
        "authorization backend is unavailable")
    else
      info ("Fallback is disabled, requests are denied while the " ++
        "authorization backend is unavailable")]

/-- What an assembly leaves: the lines that it logged, the files, and the
service unless it failed. -/
structure Assembled where
  log : List LogEntry
  files : FileTree
  result : Except AssemblyFault Service

def Service.assemble (config : ServerConfig) (files : FileTree) : Assembled :=
  let announced := [IdentitySource.announcement config.identity]
  match IdentitySource.ofConfig files config.identity with
  | .error fault => ⟨announced, files, .error fault⟩
  | .ok identity =>
      let limits : CacheLimits :=
        ⟨config.identity.cacheTtl, config.identity.cacheCapacity⟩
      let announced := announced ++ cacheAnnouncement limits ++
        clientAnnouncement config.backend ++ [auditAnnouncement config.audit]
      match openAudit files config.audit with
      | .error fault => ⟨announced, files, .error (.audit fault)⟩
      | .ok (audit, files) =>
          ⟨announced ++ policyAnnouncement config.policy, files,
            .ok { identity, limits, client := clientOf config.backend, audit,
                  policy := config.policy, target := config.target }⟩

/-! ### Running -/

/-- What a service is given to talk over: how its router reads patterns, and how
the identity provider and the relation backend are reached. -/
structure Network (Outside : Type) where
  scope : ScopeMatch
  fetchKeys : String → Outside → Http.Exchange × Outside
  sendCheck : CheckRequest → Outside → Http.Exchange × Outside

/-- What a running service remembers, and the state of what is around it. -/
structure Running (Outside : Type) where
  claims : ClaimsCache
  keys : KeyCache
  outside : Outside

namespace Service

variable {Outside : Type}

def provider (service : Service) (network : Network Outside) :
    Authenticator (KeyCache × Outside) :=
  match service.identity with
  | .published url keys => keys.authenticate (network.fetchKeys url)
  | .configured rules key =>
      fun now token state => (authenticateUnderKey rules key now token, state)

def collaborators (service : Service) (network : Network Outside) (now : Nat) :
    Collaborators (Running Outside) where
  authenticate token state :=
    let (answer, claims, keys, outside) :=
      ClaimsCache.authenticate service.limits (service.provider network) now
        token (state.claims, state.keys, state.outside)
    (answer, ⟨claims, keys, outside⟩)
  check query state :=
    let (answer, outside) :=
      service.client.check network.sendCheck query state.outside
    (answer, { state with outside })

def boundary (service : Service) (network : Network Outside) (now : Nat) :
    Boundary (Running Outside) AuditTrail where
  collaborators := service.collaborators network now
  sink := service.audit.sink
  policy := service.policy
  target := service.target
  scope := network.scope

def answer (service : Service) (network : Network Outside) (occasion : Occasion)
    (request : Http.Request) (state : Running Outside) (trail : AuditTrail) :
    Http.Response × Running Outside × AuditTrail :=
  (service.boundary network occasion.now).answer occasion request state trail

end Service

end Gatekeeper
