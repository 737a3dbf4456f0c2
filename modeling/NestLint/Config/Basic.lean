import NestLint.Config.Options
import NestLint.Json.Read
import NestLint.Toml.Read

/-!
Configurations: which rules run, and how. A setting is the first option of a rule alone, or a list
of its options. Settings come in the order of the names of their rules, and the first that is wrong
is the one that is reported.
-/

namespace NestLint

def nestingRule : String := "csstools/use-nesting"

def knownRules : List String := [nestingRule]

/-- The options of one rule. The first two are looked at only when the rule is set up. -/
structure Setting where
  action : Json
  options : Json := .null
  severity : Option Severity := none

/-- The setting of a rule as it is written; an empty list is taken for a first option that is not
known. -/
def Setting.ofJson (rule : String) : Json → Except ConfigError Setting
  | .array [] => .ok { action := .array [] }
  | .array [action] => .ok { action := action }
  | .array [action, options] => .ok { action := action, options := options }
  | .array (action :: options :: third :: _) =>
    (Severity.ofOption rule third).map fun severity =>
      { action := action, options := options, severity := severity }
  | action => .ok { action := action }

structure Config where
  /-- The settings by rule, in the order of their names. -/
  rules : List (String × Setting) := []

namespace Config

def rule? (config : Config) (name : String) : Option Setting :=
  (config.rules.find? fun (k, _) => k == name).map Prod.snd

def settings : List (String × Json) → Except ConfigError (List (String × Setting))
  | [] => .ok []
  | (name, value) :: rest =>
    if !knownRules.contains name then .error (.unknownRule name)
    else
      match Setting.ofJson name value with
      | .error e => .error e
      | .ok setting => (settings rest).map ((name, setting) :: ·)

def ofRules (rules : List (String × Json)) : Except ConfigError Config :=
  (settings rules).map fun rules => ⟨rules⟩

def rulesOf (depth : Nat) (draft : Json.Draft) : Option (List (String × Json)) :=
  match draft.value? depth with
  | some (.object members) => some members
  | _ => none

/-- The draft of the rules in an object; other members are passed over, but their keys must be
readable. The rules must not come twice. -/
def findRules : Option Json.Draft → List (Option String × Json.Draft) → Option (Option Json.Draft)
  | found, [] => some found
  | found, (key, draft) :: rest =>
    match key with
    | none => none
    | some key =>
      if key = "rules" then if found.isSome then none else findRules (some draft) rest
      else findRules found rest

def rulesDraft? : Json.Draft → Option (Option Json.Draft)
  | .object members => findRules none members
  | .array [] => some none
  | .array [rules] => some (some rules)
  | _ => none

def ofJson (text : String) : Except ConfigError Config :=
  match (Json.Draft.read text.toList).bind rulesDraft? with
  | none => .error .malformedJson
  | some none => .ok {}
  | some (some draft) =>
    match rulesOf (Json.maxDepth - 1) draft with
    | some rules => ofRules rules
    | none => .error .malformedJson

def ofToml (text : String) : Except ConfigError Config :=
  match Toml.parse text with
  | none => .error .malformedToml
  | some document =>
    match document.get? "rules" with
    | none => .ok {}
    | some (.object rules) => ofRules rules
    | some _ => .error .malformedToml

end Config

end NestLint
