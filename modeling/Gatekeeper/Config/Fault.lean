import Gatekeeper.Config.Expansion
import Gatekeeper.Relation.Query

/-!
# Faults of a configuration

Why a configuration cannot be completed: an option names a variable that is not
set, or has a value that the service cannot run with.
-/

namespace Gatekeeper.Config

inductive Fault where
  | unset (option key : String)
  | emptyBind
  | emptyUsernameClaim
  | zeroDuration (option : String)
  | missingKeySetUrl
  | keySetUrlScheme
  | backendUrl (text : String)
  | backendUrlScheme (scheme : String)
  | missingStore
  | storeCharacters
  | prefixStart
  | defaultObject (text : String) (fault : PartFault)
  | relation (name text : String) (fault : PartFault)
  | within (name : String) (fault : Fault)
deriving DecidableEq, Repr

def Fault.message : Fault → String
  | unset option key =>
      "expand env value for '" ++ option ++ "': error looking key '" ++ key ++
        "' up: environment variable not found: environment variable not found"
  | emptyBind => "bind cannot be empty"
  | emptyUsernameClaim => "idp.username_claim should not be empty"
  | zeroDuration option => option ++ " should not be 0"
  | missingKeySetUrl => "idp.jwks_url is required when idp.kind is 'jwks'"
  | keySetUrlScheme => "idp.jwks_url should be an http or https url"
  | backendUrl text => "invalid rebac.url '" ++ text ++ "'"
  | backendUrlScheme scheme =>
      "invalid rebac.url scheme, expect 'http' or 'https', not '" ++ scheme ++
        "'"
  | missingStore => "rebac.store_id is required"
  | storeCharacters => "rebac.store_id should be alphanumeric"
  | prefixStart => "target.prefix should start with '/'"
  | defaultObject text fault =>
      "invalid target.default_object '" ++ text ++ "': " ++ fault.message
  | relation name text fault =>
      "invalid target." ++ name ++ " '" ++ text ++ "': " ++ fault.message
  | within name fault => name ++ ": " ++ fault.message

def expandOption (assignments : Variables) (option text : String) :
    Except Fault String :=
  match expand assignments text with
  | .ok expanded => .ok expanded
  | .error key => .error (.unset option key)

def inSection {α : Type} (name : String) (result : Except Fault α) :
    Except Fault α :=
  result.mapError (.within name)

end Gatekeeper.Config
