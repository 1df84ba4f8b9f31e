import HintLint.Hint
import HintLint.Message

/-!
Findings: one for each banned type hint, located at the hint itself and not at the statement that
carries it.
-/

namespace HintLint

open Json

/-- Where a hint was found. -/
inductive Site where
  /-- At a parameter or a return. -/
  | functionSignature
  /-- At an assignment, inline or in a comment. -/
  | variableAssignment
deriving DecidableEq

namespace Site

/-- All sites, in their order. -/
def all : List Site := [functionSignature, variableAssignment]

/-- The place of a site among all sites. -/
def index : Site → Nat
  | functionSignature => 0
  | variableAssignment => 1

/-- The sites in their order. -/
def sort (sites : List Site) : List Site := sites.mergeSort fun a b => a.index ≤ b.index

/-- A site in the words of a message. -/
def text : Site → String
  | functionSignature => "function signatures"
  | variableAssignment => "variable assignments"

/-- The name of a site. -/
def name : Site → String
  | functionSignature => "function_signature"
  | variableAssignment => "variable_assignment"

/-- A site as its name. -/
def toValue (site : Site) : Value := .string site.name

/-- The shape of a site. -/
def decoder : Decoder Site := .name (all.map fun site => (site.name, site))

end Site

/-- A banned hint. -/
structure Finding where
  /-- What is reported. -/
  message : Message
  site : Site
  location : Position
  hint : Hint
deriving DecidableEq

namespace Finding

/-- The finding for a hint at a site. -/
def ofHint (site : Site) (hint : Hint) : Finding where
  message := .noTypeHints
  site
  location := hint.position
  hint

/-- The message in words. -/
def text (finding : Finding) : String := finding.message.render finding.site.text

/-- The finding on one line: location, code, rule and message. -/
def display (finding : Finding) : String :=
  finding.location.text ++ ": " ++ finding.message.code ++ " (" ++ finding.message.symbol ++ ") " ++
    finding.text

/-- A finding as a record. -/
def toValue (finding : Finding) : Value :=
  .object [
    ("rule_id", .string finding.message.symbol),
    ("msgid", .string finding.message.code),
    ("site", finding.site.toValue),
    ("location", finding.location.toValue),
    ("node", finding.hint.toValue)]

end Finding

end HintLint
