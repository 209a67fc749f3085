import Gatekeeper.Http.Wire
import Gatekeeper.Service.Launch
import Gatekeeper.Service.RequestId
import Gatekeeper.Text.DateTime
import Std.Async.DNS
import Std.Async.TCP

/-!
# The program

Carries what the library decides out on the machine: it shows the library the
files that a configuration names, prints what is to be printed, and answers
requests one connection at a time. The library decides an answer from the
exchanges that it is given; when it asks for one more, the exchange is made and
the request is decided again. Connections are plain: a server that is only
reached over TLS counts as unreachable, and no TLS connections are accepted.
-/

namespace Gatekeeper.Program

open Gatekeeper.Config
open Gatekeeper.Http
open Std.Async
open Std.Net

/-! ### Surroundings -/

def bytesOf (path : String) : IO (List UInt8) := do
  try
    let bytes ← IO.FS.readBinFile path
    return bytes.toList
  catch _ => return []

/-- The ids of the user: the real one, the effective one, and others. -/
def readUserIds : IO (List String) := do
  let text := Text.Utf8.decodeLossy (← bytesOf "/proc/self/status")
  let ids := (text.splitOn "\n").findSome? fun line =>
    match Text.words (fun c => c = '\t' || c = ' ') line.toList with
    | label :: ids =>
        if label = "Uid:".toList then some (ids.map String.ofList) else none
    | [] => none
  return ids.getD []

/-- Whether the effective user is the administrator. -/
def readIsRoot : IO Bool := do
  return (← readUserIds)[1]? = some "0"

/-- The home directory that the system has on record for the real user. -/
def readRecordedHome : IO (Option String) := do
  let user := (← readUserIds).head?
  let text := Text.Utf8.decodeLossy (← bytesOf "/etc/passwd")
  return (text.splitOn "\n").findSome? fun line =>
    match line.splitOn ":" with
    | [_, _, id, _, _, home, _] => if some id = user then some home else none
    | _ => none

def readVariables : IO Variables := do
  let bytes ← bytesOf "/proc/self/environ"
  let entries := (bytes.splitOn 0).filterMap fun entry =>
    (Text.splitFirst? '=' (Text.Utf8.decodeLossy entry).toList).map
      fun (name, value) => (String.ofList name, String.ofList value)
  return ⟨entries, ← readRecordedHome⟩

/-- The locations on the way to one, and the location itself. -/
def locationsTo (location : List String) : List (List String) :=
  (List.range location.length).map fun length => location.take (length + 1)

/-- The location that names lead to, dots resolved. -/
def resolved (names : List String) : List String :=
  names.foldl (fun done name =>
    if name = "." then done
    else if name = ".." then done.dropLast else done ++ [name]) []

/-- Add what is on the machine at a path, and the directories on the way
there. -/
def addPath (tree : FileTree) (path : String) : IO FileTree := do
  let root := (← IO.currentDir) / "/"
  let start := tree.base (PathText.isAbsolute path)
  let mut tree := tree
  for location in locationsTo (resolved (start ++ PathText.names path)) do
    let place := root / "/".intercalate location
    if (← place.isDir) then
      tree := tree.put location .directory
    else if (← place.pathExists) then
      tree := tree.put location (.content (← bytesOf place.toString))
  return tree

/-- The files at some paths, as the library sees them. -/
def snapshot (paths : List String) : IO FileTree := do
  let working := PathText.names (← IO.currentDir).toString
  let entries :=
    (locationsTo working).map fun location => (location, FileEntry.directory)
  paths.foldlM addPath ⟨working, entries⟩

/-- Make the directories that are in a tree and not yet on the machine. -/
def makeDirectories (tree : FileTree) : IO Unit := do
  for (location, entry) in tree.entries do
    if entry = .directory then
      IO.FS.createDirAll ("/" ++ "/".intercalate location)

/-! ### Output -/

def currentMilliseconds : IO Nat := do
  let now ← Std.Time.Timestamp.now
  return now.toMillisecondsSinceUnixEpoch.toInt.toNat

def printEntry (entry : LogEntry) : IO Unit := do
  let now ← currentMilliseconds
  IO.println (Text.dateTime now ++ " [" ++ entry.level.label ++ "] " ++
    entry.text)
  (← IO.getStdout).flush

/-! ### Exchanges -/

inductive Question where
  | keys (url : String)
  | check (request : CheckRequest)

/-- The exchanges that were made, and the questions that none of them
answers. -/
structure Outside where
  made : List Exchange
  asked : List Question

def Outside.ask (question : Question) (outside : Outside) :
    Exchange × Outside :=
  match outside.made with
  | exchange :: rest => (exchange, { outside with made := rest })
  | [] => (.unanswered, { outside with asked := outside.asked ++ [question] })

def network : Network Outside where
  scope := literalScope
  fetchKeys url := Outside.ask (.keys url)
  sendCheck request := Outside.ask (.check request)

/-- Read a connection to its end. -/
partial def receiveAll (client : TCP.Socket.Client) (received : List UInt8) :
    Async (List UInt8) := do
  match (← client.recv? 65536) with
  | none => return received
  | some bytes => receiveAll client (received ++ bytes.toList)

def addressOf (address : IPAddr) (port : Nat) : SocketAddress :=
  match address with
  | .v4 address => .v4 ⟨address, UInt16.ofNat port⟩
  | .v6 address => .v6 ⟨address, UInt16.ofNat port⟩

/-- Send bytes to a host and read what comes back. -/
def exchangeWith (host : String) (port : Nat) (request : List UInt8) :
    IO Exchange := do
  try
    let addresses ← (DNS.getAddrInfo host (toString port)).block
    match addresses.toList with
    | [] => return .unanswered
    | address :: _ =>
        let client ← TCP.Socket.Client.mk
        (client.connect (addressOf address port)).block
        (client.send (ByteArray.mk request.toArray)).block
        let answer ← (receiveAll client []).block
        return Wire.readExchange answer
  catch _ => return .unanswered

def Question.exchange (question : Question) : IO Exchange := do
  match question with
  | .keys text =>
      match Url.read? text with
      | some url =>
          match url.scheme, url.host with
          | "http", some host =>
              let path := url.path ++ (url.query.map ("?" ++ ·)).getD ""
              exchangeWith host.text (url.port.getD 80)
                (Wire.writeRequest "GET" path host.text none none)
          | _, _ => return .unanswered
      | none => return .unanswered
  | .check request =>
      match request.host with
      | some host =>
          exchangeWith host.text (request.port.getD 80)
            (Wire.writeRequest "POST" request.path host.text
              request.authorization (some request.body))
      | none => return .unanswered

/-! ### Serving -/

structure Memory where
  running : Running Outside
  trail : AuditTrail

/-- Decide a request, making the exchanges that it takes. -/
partial def decide (service : Service) (occasion : Occasion) (request : Request)
    (memory : Memory) (made : List Exchange) : IO (Response × Memory) := do
  let running := { memory.running with outside := ⟨made, []⟩ }
  let (response, running, trail) :=
    service.answer network occasion request running memory.trail
  match running.outside.asked with
  | [] => return (response, ⟨running, trail⟩)
  | question :: _ =>
      let exchange ← question.exchange
      decide service occasion request memory (made ++ [exchange])

/-- Write the records of a request to where they go. -/
def writeRecords (service : Service) (before after : AuditTrail) : IO Unit := do
  for (severity, text) in after.lines.drop before.lines.length do
    printEntry ⟨if severity = .elevated then .warning else .info, text⟩
  match service.audit with
  | .log => return
  | .file location =>
      let added :=
        (after.files.bytesAt location).drop
          (before.files.bytesAt location).length
      let file ← IO.FS.Handle.mk ("/" ++ "/".intercalate location) .append
      file.write (ByteArray.mk added.toArray)
      file.flush

/-- Read a connection until the blank line behind the headers has come. -/
partial def receiveHead (client : TCP.Socket.Client) (received : List UInt8) :
    Async (Option (List UInt8)) := do
  match Wire.splitHead? received with
  | some (head, _) => return some head
  | none =>
      if 65536 < received.length then
        return none
      else
        match (← client.recv? 65536) with
        | none => return none
        | some bytes => receiveHead client (received ++ bytes.toList)

def serveConnection (service : Service) (client : TCP.Socket.Client)
    (memory : Memory) :
    IO Memory := do
  match (← (receiveHead client []).block).bind Wire.readRequest? with
  | none =>
      (client.send (ByteArray.mk
        (Wire.writeResponse (.empty 400) false).toArray)).block
      return memory
  | some request =>
      let random ← IO.getRandomBytes 16
      let now := (← currentMilliseconds) / 1000
      let occasion : Occasion := ⟨RequestId.ofBytes random.toList, now⟩
      let (response, after) ← decide service occasion request memory []
      writeRecords service memory.trail after.trail
      let bytes := Wire.writeResponse response (request.method = "HEAD")
      (client.send (ByteArray.mk bytes.toArray)).block
      client.shutdown.block
      return { after with trail := ⟨after.trail.files, []⟩ }

partial def serve (service : Service) (server : TCP.Socket.Server)
    (memory : Memory) :
    IO Unit := do
  let client ← server.accept.block
  let memory ← try serveConnection service client memory catch _ => pure memory
  serve service server memory

def listen (address : String) : IO TCP.Socket.Server := do
  let (host, port) :=
    match Text.splitLast? ':' address.toList with
    | some (host, port) => (String.ofList host, String.ofList port)
    | none => (address, "")
  let host :=
    if host.startsWith "[" then String.ofList (host.toList.drop 1).dropLast
    else host
  let addresses ← (DNS.getAddrInfo host port).block
  match addresses.toList with
  | [] => throw (IO.userError "no address")
  | found :: _ =>
      let server ← TCP.Socket.Server.mk
      server.bind (addressOf found (port.toNat?.getD 0))
      server.listen 128
      return server

/-! ### Running -/

def report (fault : LaunchFault) : IO UInt32 := do
  IO.eprintln fault.report
  return 1

/-- The paths that a configuration names. -/
def namedPaths (config : ServerConfig) : List String :=
  [config.certificatePath, config.keyPath, config.identity.publicKeyPath,
    config.audit.path]

/-- What is said of a file that holds no configuration. -/
def explain (_ : String) : String :=
  "not a configuration"

/-- Launch with the files on the machine: the configuration first, and then what
it names. -/
def launchHere (arguments : Arguments) : IO (Launch × FileTree) := do
  let assignments ← readVariables
  let isRoot ← readIsRoot
  let surroundings : Surroundings :=
    ⟨assignments, isRoot, arguments.configDirectory, arguments.dataDirectory⟩
  let own := match surroundings.paths? with
    | none => []
    | some paths =>
        [paths.config, paths.data,
          PathText.join paths.config (configName ++ ".toml")]
  let first ← snapshot own
  match
    Config.load (α := ServerConfig) explain surroundings configName first with
  | (.error fault, tree) => return (.failed [] (.load fault), tree)
  | (.ok loaded, _) =>
      let files ← snapshot (own ++ namedPaths loaded.config)
      return launch explain assignments isRoot arguments files

def run (arguments : Arguments) : IO UInt32 := do
  let (outcome, files) ← launchHere arguments
  makeDirectories files
  match outcome with
  | .printed config =>
      IO.println (Section.toJson config).indented
      return 0
  | .failed log fault =>
      log.forM printEntry
      report fault
  | .serving log config service =>
      log.forM printEntry
      let fault := LaunchFault.bind config.usesTls
      try
        if config.usesTls then
          throw (IO.userError "no TLS")
        let server ← listen config.bind
        serve service server ⟨⟨[], none, ⟨[], []⟩⟩, ⟨files, []⟩⟩
        return 0
      catch _ =>
        (config.logs.level.filter [⟨.error, fault.report⟩]).forM printEntry
        report fault

end Gatekeeper.Program

def main (arguments : List String) : IO UInt32 := do
  match Gatekeeper.Command.parse? arguments with
  | none =>
      IO.eprintln "Usage: authgate [OPTIONS]"
      return 2
  | some .help =>
      Gatekeeper.Command.helpLines.forM IO.println
      return 0
  | some .version =>
      IO.println ("authgate " ++ Gatekeeper.serviceVersion)
      return 0
  | some (.run arguments) => Gatekeeper.Program.run arguments
