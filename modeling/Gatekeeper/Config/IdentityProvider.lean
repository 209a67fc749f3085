import Gatekeeper.Config.Section
import Gatekeeper.Identity.Rules

/-!
# Identity provider
-/

namespace Gatekeeper.Config

inductive KeySource where
  /-- A key set that the provider publishes. -/
  | published
  /-- A public key in a local file. -/
  | localFile
deriving DecidableEq, Repr

namespace KeySource

def name : KeySource → String
  | published => "jwks"
  | localFile => "pem"

def ofName? (text : String) : Option KeySource :=
  [published, localFile].find? fun source => source.name = text

end KeySource

structure IdentityConfig where
  source : KeySource
  keySetUrl : String
  publicKeyPath : String
  issuer : String
  audience : String
  usernameClaim : String
  leeway : Nat
  timeout : Nat
  keySetRefresh : Nat
  /-- How long verified tokens are remembered; not at all when zero. -/
  cacheTtl : Nat
  cacheCapacity : Nat
deriving DecidableEq, Repr

namespace IdentityConfig

def standard : IdentityConfig where
  source := .published
  keySetUrl := ""
  publicKeyPath := ""
  issuer := ""
  audience := ""
  usernameClaim := "preferred_username"
  leeway := 30
  timeout := 5
  keySetRefresh := 300
  cacheTtl := 0
  cacheCapacity := 1024

def hasWebScheme (url : String) : Bool :=
  (Text.stripLead? "http://".toList url.toList).isSome ||
    (Text.stripLead? "https://".toList url.toList).isSome

/-- The path of the public key, when keys come from a file, or the refusal of
the URL of a key set. -/
def completeSource (context : Context) (config : IdentityConfig) :
    Except Fault IdentityConfig :=
  match config.source with
  | .published =>
      if config.keySetUrl.isEmpty then .error .missingKeySetUrl
      else if !hasWebScheme config.keySetUrl then .error .keySetUrlScheme
      else .ok config
  | .localFile =>
      if config.publicKeyPath.isEmpty then
        .ok { config with
          publicKeyPath := PathText.join context.paths.keys "idp_public.pem" }
      else
        .ok config

def complete (context : Context) (config : IdentityConfig) :
    Except Fault IdentityConfig := do
  let keySetUrl ← context.expand "idp.jwks_url" config.keySetUrl
  let publicKeyPath ← context.expand "idp.public_key_path" config.publicKeyPath
  let issuer ← context.expand "idp.issuer" config.issuer
  let audience ← context.expand "idp.audience" config.audience
  if config.usernameClaim.isEmpty then
    throw .emptyUsernameClaim
  requirePositive "idp.timeout_secs" config.timeout
  completeSource context
    { config with keySetUrl, publicKeyPath, issuer, audience }

/-- The rules for tokens. An empty issuer or audience asks for nothing. -/
def tokenRules (config : IdentityConfig) : TokenRules :=
  ⟨present? config.issuer, present? config.audience, config.usernameClaim,
    config.leeway⟩

end IdentityConfig

instance : Section IdentityConfig where
  names := ["kind", "jwks_url", "public_key_path", "issuer", "audience",
    "username_claim", "leeway_secs", "timeout_secs", "jwks_refresh_secs",
    "cache_ttl_secs", "cache_capacity"]
  absent := .standard
  ofMembers? members := do
    let text := Toml.Value.text?
    let natural := Toml.Value.natural?
    let absent := IdentityConfig.standard
    let source ← option? (fun value => value.choice?.bind KeySource.ofName?)
      "kind" absent.source members
    let keySetUrl ← option? text "jwks_url" absent.keySetUrl members
    let publicKeyPath ←
      option? text "public_key_path" absent.publicKeyPath members
    let issuer ← option? text "issuer" absent.issuer members
    let audience ← option? text "audience" absent.audience members
    let usernameClaim ←
      option? text "username_claim" absent.usernameClaim members
    let leeway ← option? natural "leeway_secs" absent.leeway members
    let timeout ← option? natural "timeout_secs" absent.timeout members
    let keySetRefresh ←
      option? natural "jwks_refresh_secs" absent.keySetRefresh members
    let cacheTtl ← option? natural "cache_ttl_secs" absent.cacheTtl members
    let cacheCapacity ←
      option? natural "cache_capacity" absent.cacheCapacity members
    some ⟨source, keySetUrl, publicKeyPath, issuer, audience, usernameClaim,
      leeway, timeout, keySetRefresh, cacheTtl, cacheCapacity⟩
  complete := IdentityConfig.complete
  toJson config :=
    .object [("kind", .string config.source.name),
      ("jwks_url", .string config.keySetUrl),
      ("public_key_path", .string config.publicKeyPath),
      ("issuer", .string config.issuer), ("audience", .string config.audience),
      ("username_claim", .string config.usernameClaim),
      ("leeway_secs", .nat config.leeway),
      ("timeout_secs", .nat config.timeout),
      ("jwks_refresh_secs", .nat config.keySetRefresh),
      ("cache_ttl_secs", .nat config.cacheTtl),
      ("cache_capacity", .nat config.cacheCapacity)]

end Gatekeeper.Config
