import Gatekeeper.Config.Section
import Gatekeeper.Url.Basic

/-!
# Relation backend
-/

namespace Gatekeeper.Config

open Gatekeeper.Text

structure BackendConfig where
  url : String
  store : String
  /-- The model that checks are pinned to; the latest one when empty. -/
  model : String
  /-- The key that checks carry; none when empty. -/
  token : String
  timeout : Nat
  connectTimeout : Nat
deriving DecidableEq, Repr

namespace BackendConfig

def standard : BackendConfig where
  url := "http://127.0.0.1:8080"
  store := ""
  model := ""
  token := ""
  timeout := 3
  connectTimeout := 2

def checkUrl (text : String) : Except Fault Unit :=
  match Url.read? text with
  | none => .error (.backendUrl text)
  | some url =>
      if url.scheme = "http" || url.scheme = "https" then .ok ()
      else .error (.backendUrlScheme url.scheme)

def checkStore (store : String) : Except Fault Unit :=
  if store.isEmpty then .error .missingStore
  else if store.toList.all isAlphanumericAscii then .ok ()
  else .error .storeCharacters

def complete (context : Context) (config : BackendConfig) :
    Except Fault BackendConfig := do
  let url ← context.expand "rebac.url" config.url
  let store ← context.expand "rebac.store_id" config.store
  let model ← context.expand "rebac.authorization_model_id" config.model
  let token ← context.expand "rebac.api_token" config.token
  checkUrl url
  checkStore store
  requirePositive "rebac.timeout_secs" config.timeout
  requirePositive "rebac.connect_timeout_secs" config.connectTimeout
  .ok { config with url, store, model, token }

/-- A secret as it is shown: only whether there is one. -/
def redacted (secret : String) : String :=
  if secret.isEmpty then "" else "******"

end BackendConfig

instance : Section BackendConfig where
  names := ["url", "store_id", "authorization_model_id", "api_token",
    "timeout_secs", "connect_timeout_secs"]
  absent := .standard
  ofMembers? members := do
    let text := Toml.Value.text?
    let natural := Toml.Value.natural?
    let absent := BackendConfig.standard
    let url ← option? text "url" absent.url members
    let store ← option? text "store_id" absent.store members
    let model ← option? text "authorization_model_id" absent.model members
    let token ← option? text "api_token" absent.token members
    let timeout ← option? natural "timeout_secs" absent.timeout members
    let connectTimeout ←
      option? natural "connect_timeout_secs" absent.connectTimeout members
    some ⟨url, store, model, token, timeout, connectTimeout⟩
  complete := BackendConfig.complete
  toJson config :=
    .object [("url", .string config.url), ("store_id", .string config.store),
      ("authorization_model_id", .string config.model),
      ("api_token", .string (BackendConfig.redacted config.token)),
      ("timeout_secs", .nat config.timeout),
      ("connect_timeout_secs", .nat config.connectTimeout)]

end Gatekeeper.Config
