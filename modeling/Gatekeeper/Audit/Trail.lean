import Gatekeeper.Audit.Sink
import Gatekeeper.FileTree

/-!
# Audit trail

Where the records of a service end up: as lines in the process log, or as lines
of a file that is opened once and only ever appended to.
-/

namespace Gatekeeper

inductive AuditDestination where
  | log
  | file (location : List String)
deriving DecidableEq, Repr

structure AuditTrail where
  files : FileTree
  lines : List (Severity × String)
deriving Repr

def AuditDestination.sink : AuditDestination → AuditSink AuditTrail
  | .log =>
      { append := fun record trail =>
          (AuditSink.log.append record trail.lines).map fun lines =>
            { trail with lines } }
  | .file location =>
      { append := fun record trail =>
          (AuditSink.file.append record (trail.files.bytesAt location)).map
            fun bytes =>
            { trail with files := trail.files.put location (.content bytes) } }

structure AuditFileFault where
  path : String
  error : FileError
deriving DecidableEq, Repr

def AuditFileFault.message (fault : AuditFileFault) : String :=
  "open audit file '" ++ fault.path ++ "': " ++ fault.error.message

def AuditDestination.openFile (files : FileTree) (path : String) :
    Except AuditFileFault (AuditDestination × FileTree) :=
  match files.openToAppend path with
  | .error error => .error ⟨path, error⟩
  | .ok (location, files) => .ok (.file location, files)

end Gatekeeper
