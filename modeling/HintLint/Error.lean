import HintLint.Json.Fault

/-!
The errors of the linter. Inspecting a node cannot fail; errors arise only where nodes and policies
arrive as text or as values. Each error belongs to one of two codes: something was configured
wrongly, or a node does not have the form that was agreed on.
-/

namespace HintLint

/-- Why a node or a policy was not accepted. -/
inductive Error where
  /-- A node of the given kind does not have the form of its kind. -/
  | contractViolation (kind detail : String)
  | unknownKind (kind : String)
  | invalidConfig (detail : String)
  /-- A text could not be read. -/
  | json (error : Json.Error)
deriving DecidableEq

namespace Error

/-- The kind named for a node that does not say its kind. -/
def noKind : String := "<unknown>"

/-- The stable number of an error's class. -/
inductive Code where
  | invalidConfig
  | contractViolation
deriving DecidableEq

/-- The number of a class of errors. -/
def Code.number : Code → Nat
  | invalidConfig => 2
  | contractViolation => 10

/-- The class of an error. -/
def code : Error → Code
  | contractViolation _ _ => .contractViolation
  | unknownKind _ => .contractViolation
  | invalidConfig _ => .invalidConfig
  | json _ => .invalidConfig

/-- The wording of an error. -/
def message : Error → String
  | contractViolation kind detail => "contract violation in " ++ kind ++ " node: " ++ detail
  | unknownKind kind => "unknown node kind '" ++ kind ++ "'"
  | invalidConfig detail => "invalid configuration: " ++ detail
  | json error => "JSON error: " ++ error.message

end Error

end HintLint
