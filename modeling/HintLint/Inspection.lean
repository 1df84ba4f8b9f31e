import HintLint.Finding
import HintLint.Node
import HintLint.Policy

/-!
Inspecting nodes for type hints. An inspection asks once whether the rule is active at the node's
own line. If it is, every hint in a slot of the node is reported; if not, the node is skipped. What
was asked, what was found and what is worth logging are kept as one trace, which grows from node to
node.
-/

namespace HintLint

/-- A question to the activation, with its answer. -/
structure Query where
  rule : String
  line : UInt32
  answer : Bool
deriving DecidableEq

/-- Something worth logging. -/
inductive Event where
  /-- A node was skipped since the rule is not active at its line. -/
  | skipped (line : UInt32) (kind : Node.Kind)
  /-- A hint was found. -/
  | reported (site : Site) (hint : Hint)
deriving DecidableEq

/-- What was asked, found and logged so far. The findings are those in the sink. -/
structure Trace where
  queries : List Query := []
  findings : List Finding := []
  events : List Event := []
deriving DecidableEq

namespace Trace

/-- Asks whether the rule is active at the line of a node. If not, it is logged that the node is
skipped. -/
def ask (trace : Trace) (active : Activation) (kind : Node.Kind) (position : Position) :
    Bool × Trace :=
  let rule := Message.noTypeHints.symbol
  let answer := active rule position.line
  let asked := { trace with queries := trace.queries ++ [⟨rule, position.line, answer⟩] }
  if answer then (true, asked)
  else (false, { asked with events := asked.events ++ [.skipped position.line kind] })

/-- Logs a hint and hands its finding to the sink. -/
def report (site : Site) (trace : Trace) (hint : Hint) : Trace :=
  { trace with
    events := trace.events ++ [.reported site hint]
    findings := trace.findings ++ [.ofHint site hint] }

/-- Inspects the slots of a node. -/
def inspect (trace : Trace) (active : Activation) (kind : Node.Kind) (position : Position)
    (site : Site) (slots : List (Option Hint)) : Trace :=
  match trace.ask active kind position with
  | (true, asked) => (slots.filterMap id).foldl (report site) asked
  | (false, skipped) => skipped

end Trace

namespace Node

/-- Inspects a node after others. The parameters of a definition are a node of their own. -/
def visit (active : Activation) (trace : Trace) : Node → Trace
  | .parameters list =>
    trace.inspect active .parameters list.position .functionSignature list.slots
  | .annotatedAssignment statement =>
    trace.inspect active .annotatedAssignment statement.position .variableAssignment
      [statement.hint]
  | .assignment statement =>
    trace.inspect active .assignment statement.position .variableAssignment [statement.comment]
  | .definition statement =>
    trace.inspect active .definition statement.position .functionSignature [statement.returns]
  | .asyncDefinition statement =>
    trace.inspect active .asyncDefinition statement.position .functionSignature [statement.returns]

/-- Inspects nodes, one after the other. -/
def visitAll (active : Activation) (trace : Trace) (nodes : List Node) : Trace :=
  nodes.foldl (visit active) trace

/-- Inspects one node. -/
def inspect (active : Activation) (node : Node) : Trace := visit active {} node

/-- Inspects nodes, one after the other, from an empty sink. -/
def inspectAll (active : Activation) (nodes : List Node) : Trace := visitAll active {} nodes

end Node

end HintLint
