import HintLint.Decimal.Numeral
import HintLint.Log.Config
import HintLint.Pattern.Support
import HintLint.Text.Alphanumeric
import HintLint.Text.Blank
import HintLint.Text.Bytes

/-!
Directives. A directive sets the threshold of the events that it applies to: all events, those whose
target starts with a given text, or those that carry a given field. It may also ask for a span; the
events of an inspection are logged outside of any span, so such a directive applies to none of them.
The full form is `target[span{field=value}]=level`, where each part but one may be missing, and a
missing level means everything.

The places of the parts are found in the text without the blanks around it, and the parts are then
cut at those places from the text with its blanks. So blanks in front of a directive shift its
parts.
-/

namespace HintLint.Log

/-- The least level that is printed; nothing is printed without one. -/
abbrev Threshold := Option Level

namespace Threshold

/-- Whether a level is printed. -/
def admits (threshold : Threshold) (level : Level) : Bool :=
  threshold.any fun least => least.severity ≤ level.severity

/-- The threshold under which the given number of levels is printed. -/
def ofCount? : Nat → Option Threshold
  | 0 => some none
  | 1 => some (some .error)
  | 2 => some (some .warn)
  | 3 => some (some .info)
  | 4 => some (some .debug)
  | 5 => some (some .trace)
  | _ => none

/-- Reads a count: decimal digits, after a plus sign if there is one. -/
def count? (chars : List Char) : Option Nat :=
  let digits := match chars with
    | '+' :: digits => digits
    | digits => digits
  if !digits.isEmpty && digits.all Char.isDigit then
    some (digits.foldl (fun count c => 10 * count + Json.digitValue c) 0)
  else none

/-- Reads a threshold: a level's name in any case, `off`, or a number of levels to print. -/
def ofChars? (chars : List Char) : Option Threshold :=
  match count? chars with
  | some count => ofCount? count
  | none =>
    match (String.ofList chars).toLower with
    | "trace" => some (some .trace)
    | "debug" => some (some .debug)
    | "info" => some (some .info)
    | "warn" => some (some .warn)
    | "error" => some (some .error)
    | "off" => some none
    | _ => none

/-- Reads the threshold after an equals sign. Everything is printed if there is nothing to read. -/
def ofLevel? (chars : List Char) : Option Threshold :=
  if chars.isEmpty then some (some .trace) else ofChars? chars

end Threshold

/-- What a directive asks of an event besides its target. -/
inductive Requirement where
  | nothing
  /-- The event carries a field of this name. -/
  | field (name : String)
  /-- The event lies in a span, by name or by the value of a field. -/
  | span
deriving DecidableEq

namespace Requirement

/-- Whether an event with fields of the given names, outside of any span, has what is asked. -/
def isMet (fields : List String) : Requirement → Bool
  | nothing => true
  | field name => fields.contains name
  | span => false

/-- Whether a value can be asked of a field. It is a number or a pattern. -/
def isValue (chars : List Char) : Bool := Decimal.isNumeral chars || Pattern.isUsable chars

/-- Reads what is asked of a field. A value stands between the first equals sign and the second; a
field without a value is asked of the event itself. -/
def ofField? (chars : List Char) : Option Requirement :=
  match chars.span (· != '=') with
  | (_, '=' :: rest) => if isValue (rest.takeWhile (· != '=')) then some span else none
  | (name, _) => if name.isEmpty then none else some (field (String.ofList name))

/-- Whether the first of two requirements is the more specific one. A field counts more than
nothing, and of two fields the one with the greater name counts. -/
def exceeds : Requirement → Requirement → Bool
  | field _, nothing => true
  | field name, field other => other < name
  | _, _ => false

end Requirement

/-- The places of the parts of a directive, in bytes. -/
structure Outline where
  /-- Where the target ends. -/
  target : Nat
  /-- Whether a span is asked for by name. -/
  span : Bool := false
  /-- Where what is asked of a field starts and ends. -/
  field : Option (Nat × Nat) := none
  /-- Where the level starts. -/
  level : Option Nat := none
deriving DecidableEq

namespace Outline

/-- Whether a character may begin a target. -/
def mayStart (c : Char) : Bool := c == '-' || c == ':' || c == '_' || Text.isAlphanumeric c

/-- Finds the level behind what stands in brackets. -/
def afterBracket? (outline : Outline) (place : Nat) : List Char → Option Outline
  | [] => some outline
  | '=' :: _ => some { outline with level := some (place + 1) }
  | _ => none

/-- Finds the parts in brackets, after the opening bracket at the given place. -/
def inBracket? (place : Nat) (chars : List Char) : Option Outline :=
  let (name, rest) := chars.span fun c => c != ']' && c != '\x7b'
  let first := place + 1 + Text.byteCount name + 1
  match rest with
  | ']' :: rest => afterBracket? { target := place, span := true } first rest
  | '\x7b' :: rest =>
    let (field, rest) := rest.span (· != '\x7d')
    let last := first + Text.byteCount field
    match rest with
    | '\x7d' :: ']' :: rest =>
      if field.isEmpty then none
      else
        afterBracket? { target := place, span := !name.isEmpty, field := some (first, last) }
          (last + 2) rest
    | _ => none
  | _ => none

/-- Finds the parts of a directive without blanks around it. -/
def ofChars? (chars : List Char) : Option Outline :=
  if chars.head?.any fun c => c == '[' || mayStart c then
    let (target, rest) := chars.span fun c => c != '=' && c != '['
    let place := Text.byteCount target
    match rest with
    | '=' :: _ => some { target := place, level := some (place + 1) }
    | '[' :: rest => inBracket? place rest
    | _ => some { target := place }
  else none

/-- What the parts ask of an event. -/
def requirement? (outline : Outline) (chars : List Char) : Option Requirement :=
  match outline.field with
  | none => some (if outline.span then .span else .nothing)
  | some (first, last) => do
    let requirement ← Requirement.ofField? (← Text.cut first last chars)
    return if outline.span then .span else requirement

end Outline

/-- A threshold for the events that it applies to. -/
structure Directive where
  /-- How the target of an event must start. -/
  target : List Char
  requirement : Requirement
  threshold : Threshold
deriving DecidableEq

namespace Directive

/-- The text without the blanks around it. -/
def trim (chars : List Char) : List Char :=
  ((chars.dropWhile Text.blanks.contains).reverse.dropWhile Text.blanks.contains).reverse

/-- Reads a directive that is a threshold for all targets, or else a target alone. -/
def bare (chars : List Char) : Directive :=
  match Threshold.ofChars? chars with
  | some threshold => ⟨[], .nothing, threshold⟩
  | none => ⟨chars, .nothing, some .trace⟩

/-- Reads a directive. -/
def ofChars? (chars : List Char) : Option Directive := do
  let outline ← Outline.ofChars? (trim chars)
  let requirement ← outline.requirement? chars
  if outline.level.isNone && requirement = .nothing then return bare chars
  else
    let target ← Text.cut 0 outline.target chars
    let level ← match outline.level with
      | none => some []
      | some place => Text.dropBytes place chars
    return ⟨target, requirement, ← Threshold.ofLevel? level⟩

/-- Whether a directive applies to events with the given target and fields. -/
def applies (target : List Char) (fields : List String) (directive : Directive) : Bool :=
  directive.target.isPrefixOf target && directive.requirement.isMet fields

/-- Whether the first of two directives is the more specific one: its target is longer, or as long
and it asks for more. -/
def exceeds (directive other : Directive) : Bool :=
  other.target.length < directive.target.length ||
    (other.target.length == directive.target.length &&
      directive.requirement.exceeds other.requirement)

/-- The later of two directives, unless the earlier one is more specific. -/
def prefer (earlier : Option Directive) (later : Directive) : Option Directive :=
  match earlier with
  | some directive => if directive.exceeds later then earlier else some later
  | none => some later

end Directive

end HintLint.Log
