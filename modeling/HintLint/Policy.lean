import HintLint.Error
import HintLint.Json.Pair
import HintLint.Message

/-!
Which rules are active at which lines. A policy disables rules altogether or for spans of lines; a
key names a rule by its symbol or by its code. A span whose end lies before its start is inverted:
it covers no line, a valid policy has none, and `validate` names the first.
-/

namespace HintLint

open Json

/-- Decides whether a rule is active at a line. -/
abbrev Activation := String → UInt32 → Bool

/-- A span of lines, both ends included. -/
structure LineSpan where
  start : UInt32
  stop : UInt32
deriving DecidableEq

namespace LineSpan

/-- Whether a line lies in the span. -/
def contains (span : LineSpan) (line : UInt32) : Bool := span.start ≤ line && line ≤ span.stop

/-- Whether the end lies before the start. -/
def inverted (span : LineSpan) : Bool := span.stop < span.start

/-- A span as a record. -/
def toValue (span : LineSpan) : Value :=
  .object [("start", .ofWord span.start), ("end", .ofWord span.stop)]

/-- Reads a span. -/
def read : Reader LineSpan := fun levels text => do
  let ((start, stop), rest) ← readPair "LineRange" ⟨"start", Decoder.word.read, none⟩
    ⟨"end", Decoder.word.read, none⟩ levels text
  return (⟨start, stop⟩, rest)

end LineSpan

/-- What is disabled, by keys that name rules. -/
structure Policy where
  /-- Disabled everywhere. -/
  disabled : KeySet := ∅
  /-- Disabled for spans of lines. -/
  disabledLines : KeyMap (List LineSpan) := ∅
deriving DecidableEq

namespace Policy

/-- Whether a key names a rule, by symbol or by code. -/
def names (key rule : String) : Bool :=
  key = rule || (Checker.typeHints.message? key).any fun message => message.symbol = rule

/-- Whether the policy leaves a rule active at a line. -/
def isActive (policy : Policy) : Activation := fun rule line =>
  !(policy.disabled.keys.any fun key => names key rule) &&
    !(policy.disabledLines.entries.any fun entry =>
      names entry.1 rule && entry.2.any fun span => span.contains line)

/-- Disables a rule everywhere. -/
def disable (policy : Policy) (key : String) : Policy :=
  { policy with disabled := policy.disabled.insert key () }

/-- Adds a span of lines for a rule, inverted or not. -/
def addSpan (policy : Policy) (key : String) (span : LineSpan) : Policy :=
  let spans := (policy.disabledLines.get? key).getD []
  { policy with disabledLines := policy.disabledLines.insert key (spans ++ [span]) }

/-- The error for an inverted span. -/
def invertedError (key : String) (span : LineSpan) : Error :=
  .invalidConfig ("disabled line range " ++ toString span.start.toNat ++ ".." ++
    toString span.stop.toNat ++ " for '" ++ key ++ "' is inverted")

/-- Disables a rule for a span of lines, unless the span is inverted. -/
def disableLines (policy : Policy) (key : String) (span : LineSpan) : Except Error Policy :=
  if span.inverted then .error (invertedError key span) else .ok (policy.addSpan key span)

/-- The inverted span that comes first, by key and then by place in the key's list. -/
def firstInverted? (policy : Policy) : Option (String × LineSpan) :=
  policy.disabledLines.entries.findSome? fun entry =>
    (entry.2.find? LineSpan.inverted).map fun span => (entry.1, span)

/-- Checks that no span is inverted. -/
def validate (policy : Policy) : Except Error Unit :=
  match policy.firstInverted? with
  | some (key, span) => .error (invertedError key span)
  | none => .ok ()

/-- A policy as a record. -/
def toValue (policy : Policy) : Value :=
  .object [
    ("disabled", .array (policy.disabled.keys.map .string)),
    ("disabled_lines", .object (policy.disabledLines.entries.map fun entry =>
      (entry.1, .array (entry.2.map LineSpan.toValue))))]

/-- Reads a policy, valid or not. What is left out is empty. -/
def read : Reader Policy := fun levels text => do
  let ((keys, spans), rest) ← readPair "ActivationPolicy"
    ⟨"disabled", Decoder.string.list.read, some []⟩
    ⟨"disabled_lines", readMap (readList LineSpan.read), some ∅⟩ levels text
  return (⟨.ofKeys keys, spans⟩, rest)

/-- Reads a policy from text, valid or not. -/
def parse (text : String) : Except Json.Error Policy := Reader.parse read text

/-- Reads a valid policy from text. -/
def ofText (text : String) : Except Error Policy :=
  match parse text with
  | .error error => .error (.json error)
  | .ok policy => do
    policy.validate
    return policy

end Policy

end HintLint
