import Gatekeeper.Config.Audit
import Gatekeeper.Config.IdentityProvider
import Gatekeeper.Config.Logs
import Gatekeeper.Config.RelationBackend
import Gatekeeper.Config.Target
import Gatekeeper.Decision.Policy

/-!
# Configuration of the service
-/

namespace Gatekeeper.Config

structure ServerConfig where
  bind : String
  usesTls : Bool
  certificatePath : String
  keyPath : String
  keepAlive : Nat
  workers : Nat
  policy : FallbackPolicy
  logs : LogsConfig
  identity : IdentityConfig
  backend : BackendConfig
  audit : AuditConfig
  target : TargetRules
deriving DecidableEq, Repr

namespace ServerConfig

def standard : ServerConfig where
  bind := "127.0.0.1:7890"
  usesTls := false
  certificatePath := ""
  keyPath := ""
  keepAlive := 0
  workers := 0
  policy := ⟨.production, false⟩
  logs := Section.absent
  identity := Section.absent
  backend := Section.absent
  audit := Section.absent
  target := Section.absent

/-- Complete all options in the order of the sections. The first fault
counts. -/
def complete (context : Context) (config : ServerConfig) :
    Except Fault ServerConfig := do
  let bind ← context.expand "bind" config.bind
  if bind.isEmpty then
    throw .emptyBind
  let certificatePath ← context.expandPath "cert_path" config.certificatePath
    (PathText.join context.paths.keys "server.crt")
  let keyPath ← context.expandPath "key_path" config.keyPath
    (PathText.join context.paths.keys "server.key")
  let logs ← inSection "logs" (Section.complete context config.logs)
  let identity ← inSection "idp" (Section.complete context config.identity)
  let backend ← inSection "rebac" (Section.complete context config.backend)
  let audit ← inSection "audit" (Section.complete context config.audit)
  let target ← inSection "target" (Section.complete context config.target)
  .ok { config with
    bind, certificatePath, keyPath, logs, identity, backend, audit, target }

end ServerConfig

def environmentOf? (value : Toml.Value) : Option Environment :=
  value.choice?.bind fun text =>
    [Environment.production, .nonProduction].find? fun environment =>
      environment.name = text

instance : Section ServerConfig where
  names := ["bind", "ssl", "cert_path", "key_path", "keep_alive_secs",
    "workers", "environment", "allow_fallback", "logs", "idp", "rebac", "audit",
    "target"]
  absent := .standard
  ofMembers? members := do
    let text := Toml.Value.text?
    let natural := Toml.Value.natural?
    let boolean := Toml.Value.boolean?
    let absent := ServerConfig.standard
    let bind ← option? text "bind" absent.bind members
    let usesTls ← option? boolean "ssl" absent.usesTls members
    let certificatePath ←
      option? text "cert_path" absent.certificatePath members
    let keyPath ← option? text "key_path" absent.keyPath members
    let keepAlive ← option? natural "keep_alive_secs" absent.keepAlive members
    let workers ← option? natural "workers" absent.workers members
    let environment ←
      option? environmentOf? "environment" absent.policy.environment members
    let allowFallback ←
      option? boolean "allow_fallback" absent.policy.allowFallback members
    let logs ← option? sectionOf? "logs" absent.logs members
    let identity ← option? sectionOf? "idp" absent.identity members
    let backend ← option? sectionOf? "rebac" absent.backend members
    let audit ← option? sectionOf? "audit" absent.audit members
    let target ← option? sectionOf? "target" absent.target members
    let policy : FallbackPolicy := ⟨environment, allowFallback⟩
    some ⟨bind, usesTls, certificatePath, keyPath, keepAlive, workers, policy,
      logs, identity, backend, audit, target⟩
  complete := ServerConfig.complete
  toJson config :=
    .object [("bind", .string config.bind), ("ssl", .boolean config.usesTls),
      ("cert_path", .string config.certificatePath),
      ("key_path", .string config.keyPath),
      ("keep_alive_secs", .nat config.keepAlive),
      ("workers", .nat config.workers),
      ("environment", .string config.policy.environment.name),
      ("allow_fallback", .boolean config.policy.allowFallback),
      ("logs", Section.toJson config.logs),
      ("idp", Section.toJson config.identity),
      ("rebac", Section.toJson config.backend),
      ("audit", Section.toJson config.audit),
      ("target", Section.toJson config.target)]

end Gatekeeper.Config
