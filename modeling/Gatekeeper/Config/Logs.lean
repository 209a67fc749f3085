import Gatekeeper.Config.Section

/-!
# Process log
-/

namespace Gatekeeper.Config

inductive LogLevel where
  | error
  | warning
  | info
  | debug
deriving DecidableEq, Repr

namespace LogLevel

def name : LogLevel → String
  | error => "error"
  | warning => "warning"
  | info => "info"
  | debug => "debug"

def ofName? (text : String) : Option LogLevel :=
  [error, warning, info, debug].find? fun level => level.name = text

def label : LogLevel → String
  | error => "ERROR"
  | warning => "WARN"
  | info => "INFO"
  | debug => "DEBUG"

/-- How much a level lets through. -/
def rank : LogLevel → Nat
  | error => 0
  | warning => 1
  | info => 2
  | debug => 3

end LogLevel

structure LogEntry where
  level : LogLevel
  text : String
deriving DecidableEq, Repr

def LogLevel.filter (level : LogLevel) (entries : List LogEntry) :
    List LogEntry :=
  entries.filter fun entry => decide (entry.level.rank ≤ level.rank)

structure LogsConfig where
  level : LogLevel
deriving DecidableEq, Repr

instance : Section LogsConfig where
  names := ["level"]
  absent := ⟨.info⟩
  ofMembers? members := do
    let level ←
      option? (fun value => value.choice?.bind LogLevel.ofName?) "level" .info
        members
    some ⟨level⟩
  complete _ config := .ok config
  toJson config := .object [("level", .string config.level.name)]

end Gatekeeper.Config
