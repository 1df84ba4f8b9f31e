import HintLint.Log.Logger

/-!
What a run of inspections leaves behind. Each node is asked about once, at its own line and never at
that of a hint, and before anything of it is reported. It then adds a finding and an event for each of
its hints, or else the one event that it was skipped. The trace of a run is what was there before and
then the shares of the nodes in their order, in each of the three streams.
-/

namespace HintLint

namespace Node

/-- The position of the node itself. -/
def position : Node → Position
  | .parameters list => list.position
  | .annotatedAssignment statement => statement.position
  | .assignment statement => statement.position
  | .definition statement => statement.position
  | .asyncDefinition statement => statement.position

/-- The hint slots that are inspected with the node, in their order. -/
def slots : Node → List (Option Hint)
  | .parameters list =>
    (list.parameters.filter (·.kind ≠ .keywordOnly)).map (·.hint) ++
      list.star.toList.map (·.hint) ++
      (list.parameters.filter (·.kind = .keywordOnly)).map (·.hint) ++
      list.doubleStar.toList.map (·.hint)
  | .annotatedAssignment statement => [statement.hint]
  | .assignment statement => [statement.comment]
  | .definition statement => [statement.returns]
  | .asyncDefinition statement => [statement.returns]

/-- The site of the hints in a node's slots. -/
def site : Node → Site
  | .parameters _ | .definition _ | .asyncDefinition _ => .functionSignature
  | .annotatedAssignment _ | .assignment _ => .variableAssignment

/-- The hints in a node's slots. -/
def hints (node : Node) : List Hint := node.slots.filterMap id

/-- The question about a node, with its answer. -/
def query (active : Activation) (node : Node) : Query where
  rule := "no-type-hints"
  line := node.position.line
  answer := active "no-type-hints" node.position.line

/-- What is found at a node. -/
def findings (active : Activation) (node : Node) : List Finding :=
  if active "no-type-hints" node.position.line then
    node.hints.map fun hint =>
      { message := .noTypeHints, site := node.site, location := hint.position, hint }
  else []

/-- What is logged about a node, with the severity of each event. -/
def log (active : Activation) (node : Node) : List (Log.Level × Event) :=
  if active "no-type-hints" node.position.line then
    node.hints.map fun hint => (.trace, .reported node.site hint)
  else [(.debug, .skipped node.position.line node.kind)]

end Node

namespace Trace

/-- The events of a trace with their severity. -/
def log (trace : Trace) : List (Log.Level × Event) :=
  trace.events.map fun event => (event.level, event)

/-- Reporting hints one by one adds a finding and an event for each of them, and asks nothing. -/
theorem foldl_report (site : Site) (hints : List Hint) (trace : Trace) :
    hints.foldl (report site) trace =
      { trace with
        findings := trace.findings ++ hints.map (Finding.ofHint site)
        events := trace.events ++ hints.map (Event.reported site) } := by
  induction hints generalizing trace with
  | nil => simp
  | cons hint hints ih => simp [ih, report]

/-- The hints that an inspection reports. -/
def reportable (active : Activation) (position : Position) (slots : List (Option Hint)) :
    List Hint :=
  if active "no-type-hints" position.line then slots.filterMap id else []

section Inspect

variable (trace : Trace) (active : Activation) (kind : Node.Kind) (position : Position)

/-- Asking adds the question, finds nothing, and logs if the node is skipped. -/
theorem ask_adds :
    trace.ask active kind position =
      (active "no-type-hints" position.line,
        { queries := trace.queries ++
            [⟨"no-type-hints", position.line, active "no-type-hints" position.line⟩]
          findings := trace.findings
          events := trace.events ++
            if active "no-type-hints" position.line then [] else [.skipped position.line kind] }) := by
  have symbol : Message.noTypeHints.symbol = "no-type-hints" := rfl
  rw [ask, symbol]
  cases active "no-type-hints" position.line <;> simp

variable (site : Site) (slots : List (Option Hint))

/-- A node is inspected by asking about it first and then reporting its hints one by one. When the
answer is there, nothing of the node has been found yet; at every stage of reporting, the question
has been asked and no other one. -/
theorem inspect_asks_first :
    let asked := (trace.ask active kind position).2
    let hints := reportable active position slots
    asked.findings = trace.findings ∧
      trace.inspect active kind position site slots = hints.foldl (report site) asked ∧
      ∀ stage, ((hints.take stage).foldl (report site) asked).queries =
        trace.queries ++
          [⟨"no-type-hints", position.line, active "no-type-hints" position.line⟩] := by
  intro asked hints
  have added := trace.ask_adds active kind position
  have answered : trace.ask active kind position =
      (active "no-type-hints" position.line, asked) := by
    refine Prod.ext ?_ rfl
    rw [added]
  refine ⟨congrArg (·.2.findings) added, ?_, fun stage => ?_⟩
  · rw [inspect, answered]
    cases answer : active "no-type-hints" position.line <;> simp [hints, reportable, answer]
  · rw [foldl_report]
    exact congrArg (·.2.queries) added

end Inspect

end Trace

namespace Node

/-- The slots of parameters are those of the signature. -/
theorem slots_parameters (list : ParameterList) : (parameters list).slots = list.slots := by
  simp [slots, ParameterList.slots, ParameterList.inOrder]

theorem hints_parameters (list : ParameterList) :
    (parameters list).hints = list.inOrder.filterMap (·.hint) := by
  rw [hints, slots_parameters, ParameterList.slots, List.filterMap_map]
  rfl

/-- Every kind of node is inspected at its own position, for its own slots. -/
theorem visit_eq_inspect (active : Activation) (trace : Trace) (node : Node) :
    node.visit active trace =
      trace.inspect active node.kind node.position node.site node.slots := by
  cases node with
  | parameters list =>
    rw [slots_parameters]
    rfl
  | annotatedAssignment | assignment | definition | asyncDefinition => rfl

/-- One node adds its query, its findings and its events. -/
theorem visit_adds (active : Activation) (trace : Trace) (node : Node) :
    (node.visit active trace).queries = trace.queries ++ [node.query active] ∧
      (node.visit active trace).findings = trace.findings ++ node.findings active ∧
      (node.visit active trace).log = trace.log ++ node.log active := by
  rw [visit_eq_inspect,
    (trace.inspect_asks_first active node.kind node.position node.site node.slots).2.1,
    Trace.ask_adds, Trace.foldl_report, Trace.reportable]
  cases answer : active "no-type-hints" node.position.line with
  | true => simp [query, findings, log, Trace.log, answer, hints, Event.level, Finding.ofHint]
  | false => simp [query, findings, log, Trace.log, answer, Event.level]

/-- A run adds the shares of its nodes in their order. -/
theorem visitAll_adds (active : Activation) (trace : Trace) (nodes : List Node) :
    (visitAll active trace nodes).queries = trace.queries ++ nodes.map (query active) ∧
      (visitAll active trace nodes).findings = trace.findings ++ nodes.flatMap (findings active) ∧
      (visitAll active trace nodes).log = trace.log ++ nodes.flatMap (log active) := by
  induction nodes generalizing trace with
  | nil => simp [visitAll]
  | cons node nodes ih =>
    obtain ⟨queries, findings, log⟩ := visit_adds active trace node
    obtain ⟨laterQueries, laterFindings, laterLog⟩ := ih (node.visit active trace)
    refine ⟨?_, ?_, ?_⟩
    · rw [List.map_cons, List.append_cons, ← queries]
      exact laterQueries
    · rw [List.flatMap_cons, ← List.append_assoc, ← findings]
      exact laterFindings
    · rw [List.flatMap_cons, ← List.append_assoc, ← log]
      exact laterLog

/-- A run asks once about each node, at the node's own line. In front of what it finds stands what was
in the sink; it finds every hint of the nodes whose lines are active and logs each of these and each
node that is skipped, all in the order of the nodes. -/
theorem visitAll_onto_sink (active : Activation) (sink : List Finding) (nodes : List Node) :
    (visitAll active { findings := sink } nodes).queries = nodes.map (query active) ∧
      (visitAll active { findings := sink } nodes).findings =
        sink ++ nodes.flatMap (findings active) ∧
      (visitAll active { findings := sink } nodes).log = nodes.flatMap (log active) :=
  visitAll_adds active { findings := sink } nodes

end Node

end HintLint
