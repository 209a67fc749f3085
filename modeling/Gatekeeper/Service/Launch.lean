import Gatekeeper.CommandLine
import Gatekeeper.Config.Load
import Gatekeeper.Service.Assembly

/-!
# Launch

From the command line to a running service: load the configuration, set up the
log, build the service, and bind its address. Until the log is set up nothing is
logged.
-/

namespace Gatekeeper

open Gatekeeper.Config
open Gatekeeper.Text

/-! ### Addresses -/

/-- A number of sixteen bits in decimal digits, perhaps with a plus sign. -/
def portOf? (text : List Char) : Option Nat :=
  let digits := (stripLead? ['+'] text).getD text
  if digits.isEmpty || !digits.all isDigitAscii then none
  else if decimalValue digits < 65536 then some (decimalValue digits)
  else none

/-- Whether a host is one of the machine itself, or all of them. -/
def isOwnHost (host : List Char) : Bool :=
  match (splitAll (· = '.') host).mapM Host.byte? with
  | some [first, second, third, fourth] =>
      first = 127 || (first = 0 && second = 0 && third = 0 && fourth = 0)
  | _ =>
      host = "localhost".toList ||
        match stripLead? ['['] host with
        | none => false
        | some inside =>
            inside.getLast? = some ']' &&
              match Host.ipv6? inside.dropLast with
              | some pieces =>
                  pieces.dropLast.all (· = 0) && pieces.getLast?.any (· ≤ 1)
              | none => false

/-- Whether an address of the form `host:port` can be bound. -/
def canBind (address : String) : Bool :=
  match splitLast? ':' address.toList with
  | none => false
  | some (host, port) => isOwnHost host && (portOf? port).isSome

/-! ### Starting -/

inductive LaunchFault where
  | load (fault : LoadFault)
  | tls (fault : Tls.Fault)
  | assembly (fault : AssemblyFault)
  | bind (usesTls : Bool)
deriving DecidableEq, Repr

def LaunchFault.message : LaunchFault → String
  | load fault => fault.message
  | tls fault => "build server: " ++ fault.message
  | assembly fault => "build server: " ++ fault.message
  | bind true => "run restful server: bind with ssl"
  | bind false => "run restful server: bind without ssl"

def LaunchFault.report (fault : LaunchFault) : String :=
  "Error: " ++ fault.message

inductive Launch where
  /-- The configuration, to be printed. -/
  | printed (config : ServerConfig)
  | failed (log : List LogEntry) (fault : LaunchFault)
  | serving (log : List LogEntry) (config : ServerConfig) (service : Service)

def startServer (config : ServerConfig) (files : FileTree) :
    Launch × FileTree :=
  let visible := config.logs.level.filter
  let fail (log : List LogEntry) (fault : LaunchFault) : Launch :=
    .failed (visible (log ++ [⟨.error, fault.report⟩])) fault
  let tls :=
    if config.usesTls then Tls.load files config.keyPath config.certificatePath
    else .ok ()
  match tls with
  | .error fault => (fail [] (.tls fault), files)
  | .ok () =>
      let assembled := Service.assemble config files
      match assembled.result with
      | .error fault => (fail assembled.log (.assembly fault), assembled.files)
      | .ok service =>
          let binding :=
            if config.usesTls then
              [info ("Binding to https://" ++ config.bind)]
            else
              [warning ("Using HTTP (without SSL). Bearer tokens travel in " ++
                "clear text, DO NOT USE IN PRODUCTION"),
                info ("Binding to http://" ++ config.bind)]
          let log := assembled.log ++ binding
          if canBind config.bind then
            (.serving (visible (log ++ [info "Starting restful server"])) config
              service, assembled.files)
          else
            (fail log (.bind config.usesTls), assembled.files)

def configName : String := "authgate"

def launch (explain : String → String) (assignments : Variables) (isRoot : Bool)
    (arguments : Arguments) (files : FileTree) : Launch × FileTree :=
  let surroundings : Surroundings :=
    ⟨assignments, isRoot, arguments.configDirectory, arguments.dataDirectory⟩
  match
    Config.load (α := ServerConfig) explain surroundings configName files with
  | (.error fault, files) => (.failed [] (.load fault), files)
  | (.ok loaded, files) =>
      if arguments.printConfig then (.printed loaded.config, files)
      else startServer loaded.config files

end Gatekeeper
