import Gatekeeper.Config.Section

/-!
# Audit trail
-/

namespace Gatekeeper.Config

inductive AuditTarget where
  | log
  | file
deriving DecidableEq, Repr

namespace AuditTarget

def name : AuditTarget → String
  | log => "log"
  | file => "file"

def ofName? (text : String) : Option AuditTarget :=
  [log, file].find? fun target => target.name = text

end AuditTarget

structure AuditConfig where
  target : AuditTarget
  path : String
deriving DecidableEq, Repr

namespace AuditConfig

def complete (context : Context) (config : AuditConfig) :
    Except Fault AuditConfig := do
  let path ← context.expandPath "audit.path" config.path
    (PathText.join context.paths.data "audit.log")
  .ok { config with path }

end AuditConfig

instance : Section AuditConfig where
  names := ["target", "path"]
  absent := ⟨.log, ""⟩
  ofMembers? members := do
    let target ←
      option? (fun value => value.choice?.bind AuditTarget.ofName?) "target"
        .log members
    let path ← option? Toml.Value.text? "path" "" members
    some ⟨target, path⟩
  complete := AuditConfig.complete
  toJson config :=
    .object [("target", .string config.target.name),
      ("path", .string config.path)]

end Gatekeeper.Config
