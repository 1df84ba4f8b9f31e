import HintLint.Proofs.InspectionTrace
import HintLint.Proofs.Json.RecordEdits
import HintLint.Proofs.NodeRoundTrip

/-!
Synchronous and asynchronous definitions differ by name only. Their records are read alike, down to
the mismatch where a value is refused, since no record looks at the member that names the kind. In a
run any definitions may be switched to the other kind: what is asked, what is found and what is
logged about hints stays the same, and a definition that is skipped is skipped under its other name.
-/

namespace HintLint

open Json

/-- The other kind of a definition. -/
def Node.Kind.switched : Kind → Kind
  | definition => asyncDefinition
  | asyncDefinition => definition
  | kind => kind

namespace Node

/-- A definition as one of the other kind. Other nodes stay as they are. -/
def switched : Node → Node
  | .definition statement => .asyncDefinition statement
  | .asyncDefinition statement => .definition statement
  | node => node

/-- A node, switched if it has a mark. -/
def switchedIf (mark : Bool) (node : Node) : Node := if mark then node.switched else node

/-- Nodes of which those with a mark are switched. -/
def switchMarked (marked : List (Node × Bool)) : List Node :=
  marked.map fun (node, mark) => node.switchedIf mark

/-- What is logged about a node at one level. -/
def loggedAt (active : Activation) (level : Log.Level) (node : Node) : List Event :=
  ((node.log active).filter (·.1 = level)).map Prod.snd

end Node

/-- The events of a trace at one level. -/
def Trace.loggedAt (trace : Trace) (level : Log.Level) : List Event :=
  (trace.log.filter (·.1 = level)).map Prod.snd

/-! Reading definitions. -/

/-- The record of a definition does not look at the kind. -/
theorem Definition.ofMembers_kind (item : Value) (members : List (String × Value)) :
    record.ofMembers (changing Node.kindKey (fun _ => item) members) = record.ofMembers members := by
  refine Record.ofMembers_changing_unasked rfl fun draft kept => ?_
  have position : Position.record.ofMembers (changing Node.kindKey (fun _ => item) kept) =
      Position.record.ofMembers kept :=
    Record.ofMembers_changing_unasked rfl fun _ _ => rfl
  simp only [record, position]

namespace Node

theorem namesKind_of_last {value : Value} {tag : String}
    (last : value.last? kindKey = some (.string tag)) : NamesKind (.string tag) value.canonical := by
  cases value with
  | object members =>
    refine ⟨_, rfl, has_equal.mpr ?_⟩
    rw [Value.under_canonical, show (under kindKey members).getLast? = _ from last]
    rfl
  | _ => cases last

/-- A value that names one kind of definition and the same value with the name of the other are both
read, as the same definition, or both refused, for the same mismatch. -/
theorem ofValue_definition {value : Value}
    (named : value.last? kindKey = some (.string Kind.definition.tag)) :
    (∃ statement, ofValue value = .ok (.definition statement) ∧
      ofValue (Value.replace kindKey (.string Kind.asyncDefinition.tag) value) =
        .ok (.asyncDefinition statement)) ∨
    ∃ cause : Mismatch,
      ofValue value = .error (.contractViolation Kind.definition.tag cause.message) ∧
      ofValue (Value.replace kindKey (.string Kind.asyncDefinition.tag) value) =
        .error (.contractViolation Kind.asyncDefinition.tag cause.message) := by
  have replaced : (Value.replace kindKey (.string Kind.asyncDefinition.tag) value).canonical =
      Value.replace kindKey (.string Kind.asyncDefinition.tag) value.canonical :=
    Value.onMembers_sortable (Value.canonicalMembers_replacing rfl kindKey) value
  obtain ⟨sorted, shown, has⟩ := namesKind_of_last named
  have renamed : NamesKind (.string Kind.asyncDefinition.tag)
      (Value.replace kindKey (.string Kind.asyncDefinition.tag) value).canonical := by
    refine ⟨changing kindKey (fun _ => .string Kind.asyncDefinition.tag) sorted, ?_, ?_⟩
    · rw [replaced, shown]
      rfl
    · rw [has_equal, under_changing_self, has_equal.mp has]
      rfl
  have own : ofValue value = ((Definition.record.ofMembers sorted).map Node.definition).mapError
      fun cause => .contractViolation Kind.definition.tag cause.message := by
    rw [ofValue_of_kind (namesKind_of_last named), shown]
    rfl
  have other : ofValue (Value.replace kindKey (.string Kind.asyncDefinition.tag) value) =
      ((Definition.record.ofMembers sorted).map Node.asyncDefinition).mapError
        fun cause => .contractViolation Kind.asyncDefinition.tag cause.message := by
    rw [ofValue_of_kind renamed, replaced, shown, ← Definition.ofMembers_kind]
    rfl
  rw [own, other]
  cases Definition.record.ofMembers sorted with
  | ok statement => exact .inl ⟨statement, rfl, rfl⟩
  | error cause => exact .inr ⟨cause, rfl, rfl⟩

/-! Runs over definitions. -/

section Switched

variable (active : Activation) (mark : Bool) (node : Node)

theorem position_switchedIf : (node.switchedIf mark).position = node.position := by
  cases mark <;> cases node <;> rfl

theorem hints_switchedIf : (node.switchedIf mark).hints = node.hints := by
  cases mark <;> cases node <;> rfl

theorem site_switchedIf : (node.switchedIf mark).site = node.site := by
  cases mark <;> cases node <;> rfl

theorem kind_switchedIf :
    (node.switchedIf mark).kind = if mark then node.kind.switched else node.kind := by
  cases mark <;> cases node <;> rfl

theorem query_switchedIf : (node.switchedIf mark).query active = node.query active := by
  rw [query, query, position_switchedIf]

theorem findings_switchedIf : (node.switchedIf mark).findings active = node.findings active := by
  rw [findings, findings, position_switchedIf, hints_switchedIf, site_switchedIf]

theorem loggedAt_trace :
    node.loggedAt active .trace =
      if active "no-type-hints" node.position.line then node.hints.map (.reported node.site)
      else [] := by
  unfold loggedAt log
  split <;> simp [List.filter_map, Function.comp_def]

theorem loggedAt_debug :
    node.loggedAt active .debug =
      if active "no-type-hints" node.position.line then []
      else [.skipped node.position.line node.kind] := by
  unfold loggedAt log
  split <;> simp [List.filter_map, Function.comp_def]

theorem loggedAt_trace_switchedIf :
    (node.switchedIf mark).loggedAt active .trace = node.loggedAt active .trace := by
  rw [loggedAt_trace, loggedAt_trace, position_switchedIf, hints_switchedIf, site_switchedIf]

end Switched

section Run

variable (active : Activation) (sink : List Finding) (nodes : List Node)

/-- At each level a run logs the shares of its nodes in their order. -/
theorem visitAll_loggedAt (level : Log.Level) :
    (visitAll active { findings := sink } nodes).loggedAt level =
      nodes.flatMap (loggedAt active level) := by
  have logged := (visitAll_adds active { findings := sink } nodes).2.2
  rw [Trace.loggedAt, logged]
  simp only [Trace.log, List.map_nil, List.nil_append, List.filter_flatMap, List.map_flatMap]
  rfl

/-- The nodes that a run skips are logged with their kinds. -/
theorem visitAll_loggedAt_debug :
    (visitAll active { findings := sink } nodes).loggedAt .debug =
      (nodes.filter fun node => !active "no-type-hints" node.position.line).map
        fun node => .skipped node.position.line node.kind := by
  rw [visitAll_loggedAt]
  induction nodes with
  | nil => rfl
  | cons node nodes ih =>
    rw [List.flatMap_cons, ih, loggedAt_debug, List.filter_cons]
    cases active "no-type-hints" node.position.line <;> rfl

end Run

/-- Synchronous and asynchronous definitions are told apart by name only. A value that names the one
kind is read as the same value with the name of the other is: it holds the same definition, or it is
refused in the same words. In a run over nodes of which any definitions are switched to the other
kind, the findings, the queries and what is logged about hints are the same, and where a node is
skipped only the kind that is logged differs. -/
theorem definitions_told_apart_by_name_only :
    (∀ value : Value, value.last? "kind" = some (.string "function_def") →
      let switched := Value.replace "kind" (.string "async_function_def") value
      (∀ statement, ofValue value = .ok (.definition statement) ↔
        ofValue switched = .ok (.asyncDefinition statement)) ∧
      (∀ detail, ofValue value = .error (.contractViolation "function_def" detail) ↔
        ofValue switched = .error (.contractViolation "async_function_def" detail)) ∧
      ((∃ statement, ofValue value = .ok (.definition statement)) ∨
        ∃ detail, ofValue value = .error (.contractViolation "function_def" detail))) ∧
    ∀ (active : Activation) (sink : List Finding) (marked : List (Node × Bool)),
      let before := visitAll active { findings := sink } (marked.map Prod.fst)
      let after := visitAll active { findings := sink } (switchMarked marked)
      let skipped := marked.filter fun (node, _) => !active "no-type-hints" node.position.line
      after.findings = before.findings ∧
      after.queries = before.queries ∧
      after.loggedAt .trace = before.loggedAt .trace ∧
      before.loggedAt .debug =
        skipped.map (fun (node, _) => .skipped node.position.line node.kind) ∧
      after.loggedAt .debug = skipped.map fun (node, mark) =>
        .skipped node.position.line (if mark then node.kind.switched else node.kind) := by
  refine ⟨fun value named => ?_, fun active sink marked => ⟨?_, ?_, ?_, ?_, ?_⟩⟩
  · intro switched
    obtain ⟨statement, own, other⟩ | ⟨cause, own, other⟩ := ofValue_definition named
    · have other : ofValue switched = .ok (.asyncDefinition statement) := other
      simp [own, other]
    · have own : ofValue value = .error (.contractViolation "function_def" cause.message) := own
      have other : ofValue switched =
        .error (.contractViolation "async_function_def" cause.message) := other
      simp [own, other]
  · rw [(visitAll_adds ..).2.1, (visitAll_adds ..).2.1, switchMarked, List.flatMap_map,
      List.flatMap_map]
    simp only [findings_switchedIf]
  · rw [(visitAll_adds ..).1, (visitAll_adds ..).1, switchMarked, List.map_map, List.map_map]
    simp only [Function.comp_def, query_switchedIf]
  · rw [visitAll_loggedAt, visitAll_loggedAt, switchMarked, List.flatMap_map, List.flatMap_map]
    simp only [loggedAt_trace_switchedIf]
  · rw [visitAll_loggedAt_debug, List.filter_map, List.map_map]
    rfl
  · rw [visitAll_loggedAt_debug, switchMarked, List.filter_map, List.map_map]
    simp only [Function.comp_def, position_switchedIf, kind_switchedIf]

/-- A definition with two hints. -/
def annotated : Definition where
  position := ⟨3, 4⟩
  name := "fetch"
  parameters := {
    position := ⟨3, 14⟩
    parameters := [{ name := "url", position := ⟨3, 14⟩, hint := some ⟨"str", ⟨3, 19⟩⟩ }] }
  returns := some ⟨"bytes", ⟨3, 27⟩⟩

theorem definitions_told_apart_by_name_only_annotated :
    ofValue (Value.replace "kind" (.string "async_function_def")
      (Node.definition annotated).toValue) = .ok (.asyncDefinition annotated) ∧
    (visitAll (fun _ _ => false) {}
        (switchMarked [(.definition annotated, true), (.definition annotated, false)])).loggedAt
      .debug = [.skipped 3 .asyncDefinition, .skipped 3 .definition] :=
  ⟨((definitions_told_apart_by_name_only.1 (Node.definition annotated).toValue rfl).1
      annotated).mp (ofValue_toValue _),
    (definitions_told_apart_by_name_only.2 (fun _ _ => false) []
      [(.definition annotated, true), (.definition annotated, false)]).2.2.2.2⟩

end Node

end HintLint
