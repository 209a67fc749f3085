import Gatekeeper.Text.Blank

/-!
# Command line

The options of the program. An option with a value takes the rest of its
argument behind an equals sign, or the next argument, which then does not look
like an option. No option is given twice.
-/

namespace Gatekeeper

structure Arguments where
  printConfig : Bool
  configDirectory : Option String
  dataDirectory : Option String
deriving DecidableEq, Repr

inductive Command where
  | run (arguments : Arguments)
  | help
  | version
deriving DecidableEq, Repr

namespace Command

inductive DirectoryOption where
  | config
  | data
deriving DecidableEq, Repr

def DirectoryOption.ofName? (name : String) : Option DirectoryOption :=
  match name with
  | "config-dir" => some .config
  | "data-dir" => some .data
  | _ => none

/-- Take the value of an option, unless it is empty or the option has one. -/
def setDirectory? (option : DirectoryOption) (value : String)
    (arguments : Arguments) :
    Option Arguments :=
  if value.isEmpty then
    none
  else
    match option with
    | .config =>
        if arguments.configDirectory.isSome then none
        else some { arguments with configDirectory := some value }
    | .data =>
        if arguments.dataDirectory.isSome then none
        else some { arguments with dataDirectory := some value }

/-- Whether an argument cannot be the value of an option. -/
def looksLikeOption (argument : String) : Bool :=
  argument.startsWith "-" && argument ≠ "-"

/-- An argument of the form `--name` or `--name=value`. -/
def longOption? (argument : String) : Option (String × Option String) :=
  match Text.stripLead? ['-', '-'] argument.toList with
  | none => none
  | some rest =>
      match Text.splitFirst? '=' rest with
      | none => some (String.ofList rest, none)
      | some (name, value) =>
          some (String.ofList name, some (String.ofList value))

def parseFrom? : List String → Arguments → Option Command
  | [], arguments => some (.run arguments)
  | argument :: rest, arguments =>
      if argument = "--" then
        if rest.isEmpty then some (.run arguments) else none
      else
        match longOption? argument with
        | some ("help", none) => some .help
        | some ("version", none) => some .version
        | some ("print-config", none) =>
            if arguments.printConfig then none
            else parseFrom? rest { arguments with printConfig := true }
        | some (name, value) =>
            match DirectoryOption.ofName? name, value, rest with
            | none, _, _ => none
            | some option, some value, rest =>
                match setDirectory? option value arguments with
                | none => none
                | some arguments => parseFrom? rest arguments
            | some _, none, [] => none
            | some option, none, value :: rest =>
                if looksLikeOption value then
                  none
                else
                  match setDirectory? option value arguments with
                  | none => none
                  | some arguments => parseFrom? rest arguments
        | none =>
            match argument.toList with
            | '-' :: 'h' :: _ => some .help
            | '-' :: 'V' :: _ => some .version
            | _ => none

/-- The command that arguments ask for; none when they are not understood. -/
def parse? (arguments : List String) : Option Command :=
  parseFrom? arguments ⟨false, none, none⟩

def helpLines : List String :=
  ["Fail-closed authentication and ReBAC authorization boundary for HTTP " ++
      "services",
    "",
    "Usage: authgate [OPTIONS]",
    "",
    "Options:",
    "      --print-config             Print server configuration data " ++
      "(JSON) and exit",
    "      --config-dir <CONFIG_DIR>  The config directory. " ++
      "Default: $AUTHGATE_CONFIG_DIR, /etc/authgate (root) or " ++
      "~/.config/authgate",
    "      --data-dir <DATA_DIR>      The data directory. " ++
      "Default: $AUTHGATE_DATA_DIR, /var/lib/authgate (root) or " ++
      "~/.local/share/authgate",
    "  -h, --help                     Print help",
    "  -V, --version                  Print version"]

end Command

end Gatekeeper
