import Gatekeeper.Decision.Record
import Gatekeeper.Json.Writer
import Gatekeeper.Text.Utf8

/-!
# Audit sinks

A sink takes each record as one line of compact JSON. Appending may fail;
whoever appends goes on without the record.
-/

namespace Gatekeeper

/-- Where records go. `append` gives nothing when it fails. -/
structure AuditSink (Store : Type) where
  append : DecisionRecord → Store → Option Store

namespace AuditSink

/-- Append a record, or leave the store as it is. -/
def offer {Store : Type} (sink : AuditSink Store) (record : DecisionRecord)
    (store : Store) :
    Store :=
  (sink.append record store).getD store

/-- The line of a record, without the line feed that ends it. -/
def line (record : DecisionRecord) : String :=
  record.toJson.compact

def lineFeed : UInt8 := 0x0A

/-- The line of a record as it is written to a file. -/
def lineBytes (record : DecisionRecord) : List UInt8 :=
  Text.Utf8.encode (line record)

def memory : AuditSink (List DecisionRecord) where
  append record records := some (records ++ [record])

def broken (Store : Type) : AuditSink Store where
  append _ _ := none

/-- Write behind whatever the file holds. -/
def file : AuditSink (List UInt8) where
  append record bytes := some (bytes ++ lineBytes record ++ [lineFeed])

/-- Write lines to the process log, a warning where the severity is elevated. -/
def log : AuditSink (List (Severity × String)) where
  append record lines := some (lines ++ [(record.severity, line record)])

end AuditSink

end Gatekeeper
