/-!
What can be wrong with a configuration.
-/

namespace NestLint

inductive ConfigError where
  /-- The text is no JSON, or not of the right shape. -/
  | malformedJson
  /-- The text is no TOML, or not of the right shape. -/
  | malformedToml
  /-- The first option of a rule is none of those it knows. -/
  | invalidAction (rule actual : String)
  /-- The second option of a rule has the wrong shape. -/
  | invalidOptions (rule actual : String)
  /-- A filter entry is written as a pattern and is not one. -/
  | invalidPattern (rule pattern : String)
  | unknownRule (name : String)
  | invalidSeverity (rule actual : String)
deriving DecidableEq, Repr

namespace ConfigError

def optionMessage (rule actual : String) : String :=
  "Invalid option value \"" ++ actual ++ "\" for rule \"" ++ rule ++ "\""

def message : ConfigError → String
  | malformedJson => "Failed to parse JSON config"
  | malformedToml => "Failed to parse TOML config"
  | invalidAction rule actual => optionMessage rule actual
  | invalidOptions rule actual => optionMessage rule actual
  | invalidPattern rule pattern => optionMessage rule pattern
  | unknownRule name => "Unknown rule \"" ++ name ++ "\""
  | invalidSeverity rule actual =>
    "Invalid severity \"" ++ actual ++ "\" for rule \"" ++ rule ++ "\""

end ConfigError

end NestLint
