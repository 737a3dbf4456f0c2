import NestLint.Config.Error
import NestLint.Filter
import NestLint.Json.Write
import NestLint.Lint.Diagnostic

/-!
The options of a rule. The first says whether the rule runs, the second which pieces of selectors
it looks at, and the third may give it another severity.
-/

namespace NestLint

inductive Action where
  | always
  | ignore
  | enabled (on : Bool)
  | null
deriving DecidableEq, Repr

namespace Action

def ofJson (rule : String) : Json → Except ConfigError Action
  | .string "always" => .ok .always
  | .string "ignore" => .ok .ignore
  | .bool on => .ok (.enabled on)
  | .null => .ok .null
  | other => .error (.invalidAction rule other.display)

def runs : Action → Bool
  | .always => true
  | .enabled on => on
  | .ignore | .null => false

end Action

namespace Filter

variable (engine : Pattern.Engine)

def entryOfJson (rule : String) : Json → Except ConfigError Entry
  | .string text =>
    match Entry.read? engine text.toList with
    | some entry => .ok entry
    | none => .error (.invalidPattern rule text)
  | other => .error (.invalidOptions rule other.display)

def entriesOfJson (rule : String) : Json → Except ConfigError (List Entry)
  | .array items => items.mapM (entryOfJson engine rule)
  | single => (entryOfJson engine rule single).map ([·])

def addMembers (rule : String) (filter : Filter) :
    List (String × Json) → Except ConfigError Filter
  | [] => .ok filter
  | (key, value) :: rest =>
    if key = "except" then
      match entriesOfJson engine rule value with
      | .ok entries => addMembers rule { filter with except := filter.except ++ entries } rest
      | .error e => .error e
    else if key = "only" then
      match entriesOfJson engine rule value with
      | .ok entries => addMembers rule { filter with only := filter.only ++ entries } rest
      | .error e => .error e
    else .error (.invalidOptions rule key)

def ofJson (rule : String) : Json → Except ConfigError Filter
  | .null => .ok {}
  | .object members => addMembers engine rule {} members
  | other => .error (.invalidOptions rule other.display)

end Filter

namespace Severity

/-- A severity by name, or by an object whose one key is the name and whose value is null. -/
def ofJson? : Json → Option Severity
  | .string "error" => some .error
  | .string "warning" => some .warning
  | .string "warn" => some .warning
  | .object [(name, .null)] => ofJson? (.string name)
  | _ => none

/-- The severity in the third option of a rule: an object with at most the one member that counts,
or an array of exactly one value. -/
def ofOption (rule : String) (option : Json) : Except ConfigError (Option Severity) :=
  let read (value : Json) : Except ConfigError (Option Severity) :=
    match ofJson? value with
    | some severity => .ok (some severity)
    | none => .error (.invalidSeverity rule value.display)
  match option with
  | .object _ =>
    match option.get? "severity" with
    | none | some .null => .ok none
    | some value => read value
  | .array [.null] => .ok none
  | .array [value] => read value
  | other => .error (.invalidSeverity rule other.display)

end Severity

end NestLint
