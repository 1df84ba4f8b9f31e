import HintLint.Proofs.InspectionTrace
import HintLint.Proofs.NodeShape

/-!
From a value straight to the findings. The values of the hints can be picked out of the value of a
node without decoding it: under the keys of its slots, and for parameters in the order of the
signature. An inspection of the decoded node finds one hint for each of them and nothing else, so
what the rest of the value says makes no difference.
-/

namespace HintLint

open Json

namespace Json.Value

/-- What stands under a key, unless that is `null`. -/
def filled? (key : String) (value : Value) : Option Value :=
  match value.last? key with
  | some .null => none
  | found => found

/-- The items of the list under a key. -/
def listed (key : String) (value : Value) : List Value :=
  match value.last? key with
  | some (.array items) => items
  | _ => []

/-- Whether the value is a name, alone or as a key. -/
def isNamed (name : String) : Value → Bool
  | .string text => text = name
  | value => (value.last? name).isSome

/-- Whether the parameter of this value is keyword-only. A parameter that does not say its kind is
not. -/
def keywordOnly (value : Value) : Bool := (value.last? "kind").any (isNamed "keyword_only")

/-- The values of all parameters in the order of the signature. -/
def parametersInOrder (value : Value) : List Value :=
  (value.listed "params").filter (!·.keywordOnly) ++ (value.filled? "vararg").toList ++
    (value.listed "params").filter (·.keywordOnly) ++ (value.filled? "kwarg").toList

/-- Both values have the same source, line and column. -/
def SameHint (first second : Value) : Prop :=
  first.last? "source" = second.last? "source" ∧ first.last? "line" = second.last? "line" ∧
    first.last? "col" = second.last? "col"

end Json.Value

namespace Node.Kind

/-- The values of the hints in the value of a node of this kind, in the order of the slots. The
parameters of a definition are not looked at. -/
def hintsIn : Kind → Value → List Value
  | parameters, value => value.parametersInOrder.filterMap (·.filled? "annotation")
  | annotatedAssignment, value => (value.filled? "annotation").toList
  | assignment, value => (value.filled? "type_annotation").toList
  | definition, value | asyncDefinition, value => (value.filled? "returns").toList

/-- The site of the hints in nodes of this kind. -/
def site : Kind → Site
  | parameters | definition | asyncDefinition => .functionSignature
  | annotatedAssignment | assignment => .variableAssignment

end Node.Kind

/-- The value has the source and the position of the hint. -/
def Hint.ShownBy (value : Value) (hint : Hint) : Prop :=
  value.last? "source" = some (.string hint.source) ∧
    value.last? "line" = some (.ofWord hint.position.line) ∧
    value.last? "col" = some (.ofWord hint.position.column)

/-- The finding is about the hint that the value shows, at the hint's own position. -/
def Finding.IsAbout (site : Site) (value : Value) (finding : Finding) : Prop :=
  finding.message = .noTypeHints ∧ finding.site = site ∧
    finding.location = finding.hint.position ∧ finding.hint.ShownBy value

/-! What sorted members have can be found among the members as they were. -/

namespace Json

theorem Has.last {key : String} {shape : Value → Prop} {members : List (String × Value)}
    (has : Has key shape (Value.canonicalMembers [] members)) :
    ∃ found, (Value.object members).last? key = some found ∧ shape found.canonical := by
  obtain ⟨sorted, single, shaped⟩ := has
  have last := Value.last_canonical key (.object members)
  simp only [Value.canonical, Value.last?, single, List.getLast?_singleton] at last
  obtain ⟨found, same, rfl⟩ := Option.map_eq_some_iff.mp last.symm
  exact ⟨found, same, shaped⟩

theorem Has.last_string {key text : String} {members : List (String × Value)}
    (has : Has key (· = .string text) (Value.canonicalMembers [] members)) :
    (Value.object members).last? key = some (.string text) := by
  obtain ⟨found, last, same⟩ := has.last
  rw [last, Value.canonical_eq_string.mp same]

theorem Has.last_word {key : String} {word : UInt32} {members : List (String × Value)}
    (has : Has key (· = .ofWord word) (Value.canonicalMembers [] members)) :
    (Value.object members).last? key = some (.ofWord word) := by
  obtain ⟨found, last, same⟩ := has.last
  rw [last, Value.canonical_eq_number.mp same]
  rfl

/-- A slot that is filled after sorting was filled before, and with the value of the same thing. -/
theorem Has.filled {α : Type} {key : String} {shape : α → Value → Prop} {slot : Option α}
    {members : List (String × Value)} {related : Value → α → Prop}
    (has : Has key (Slot shape slot) (Value.canonicalMembers [] members))
    (solid : ∀ a, ¬ shape a .null) (relates : ∀ {value a}, shape a value.canonical → related value a) :
    Option.Rel related ((Value.object members).filled? key) slot := by
  obtain ⟨found, last, held⟩ := has.last
  simp only [Value.filled?, last]
  generalize shown : found.canonical = sorted at held
  cases held with
  | empty =>
    rw [Value.canonical_eq_null.mp shown]
    exact .none
  | @filled a _ shaped =>
    subst shown
    cases found with
    | null => exact absurd shaped (solid a)
    | _ => exact .some (relates shaped)

theorem Has.listed {α : Type} {key : String} {shape : α → Value → Prop} {list : List α}
    {members : List (String × Value)}
    (has : Has key (ListOf shape list) (Value.canonicalMembers [] members)) :
    List.Forall₂ (fun value a => shape a value.canonical)
      ((Value.object members).listed key) list := by
  obtain ⟨found, last, sorted, shown, each⟩ := has.last
  obtain ⟨items, rfl, rfl⟩ := Value.canonical_eq_array.mp shown
  rw [List.forall₂_map_left_iff] at each
  simpa only [Value.listed, last] using each

/-- Sorting does not change what a value names. -/
theorem isNamed_canonical (name : String) (value : Value) :
    value.canonical.isNamed name = value.isNamed name := by
  cases value with
  | object members =>
    have last := Value.last_canonical name (.object members)
    simp only [Value.canonical] at last
    simp [Value.canonical, Value.isNamed, last]
  | _ => simp [Value.canonical, Value.isNamed, Value.last?]

theorem Named.isNamed {name other : String} {value : Value} (named : Named name value) :
    value.isNamed other = decide (name = other) := by
  cases named <;> by_cases same : name = other <;> simp [Value.isNamed, Value.last?, under, same]

end Json

/-! Each record is found in its value. -/

theorem Hint.shownBy {hint : Hint} {value : Value} (written : hint.Written value.canonical) :
    hint.ShownBy value := by
  obtain ⟨sorted, shown, source, line, column⟩ := written
  obtain ⟨members, rfl, rfl⟩ := Value.canonical_eq_object.mp shown
  exact ⟨source.last_string, line.last_word, column.last_word⟩

/-- Values with the same source, line and column show one hint. -/
theorem Hint.eq_of_same {first second : Value} {hint other : Hint}
    (same : first.SameHint second) (shown : hint.ShownBy first) (otherShown : other.ShownBy second) :
    hint = other := by
  obtain ⟨sources, lines, columns⟩ := same
  obtain ⟨source, ⟨line, column⟩⟩ := hint
  obtain ⟨otherSource, ⟨otherLine, otherColumn⟩⟩ := other
  rw [shown.1, otherShown.1, Option.some.injEq, Value.string.injEq] at sources
  rw [shown.2.1, otherShown.2.1, Option.some.injEq] at lines
  rw [shown.2.2, otherShown.2.2, Option.some.injEq] at columns
  cases sources
  cases Value.ofWord_injective lines
  cases Value.ofWord_injective columns
  rfl

theorem Hint.not_written_null (hint : Hint) : ¬ hint.Written .null := by
  rintro ⟨members, same, -⟩
  cases same

namespace Parameter

theorem not_written_null (parameter : Parameter) : ¬ parameter.Written .null := by
  rintro ⟨members, same, -⟩
  cases same

theorem keywordOnly_iff {parameter : Parameter} {value : Value}
    (written : parameter.Written value.canonical) :
    value.keywordOnly = true ↔ parameter.kind = .keywordOnly := by
  obtain ⟨sorted, shown, -, -, kind, -⟩ := written
  obtain ⟨members, rfl, rfl⟩ := Value.canonical_eq_object.mp shown
  rcases kind with ⟨absent, positional⟩ | given
  · have none := Value.last_canonical "kind" (.object members)
    simp only [Value.canonical, Value.last?, absent, List.getLast?_nil] at none
    simp [Value.keywordOnly, Value.last?, Option.map_eq_none_iff.mp none.symm, positional]
  · obtain ⟨found, last, named⟩ := given.last
    have only : found.isNamed "keyword_only" = decide (parameter.kind.name = "keyword_only") := by
      rw [← isNamed_canonical, named.isNamed]
    simp only [Value.keywordOnly, last, Option.any_some, only, decide_eq_true_eq]
    exact ⟨fun same => Kind.name_injective same, fun same => congrArg Kind.name same⟩

theorem hint_shown {parameter : Parameter} {value : Value}
    (written : parameter.Written value.canonical) :
    Option.Rel Hint.ShownBy (value.filled? "annotation") parameter.hint := by
  obtain ⟨sorted, shown, -, -, -, hint⟩ := written
  obtain ⟨members, rfl, rfl⟩ := Value.canonical_eq_object.mp shown
  exact hint.filled Hint.not_written_null Hint.shownBy

end Parameter

theorem forall₂_toList {α β : Type} {related : α → β → Prop} {first : Option α} {second : Option β}
    (both : Option.Rel related first second) :
    List.Forall₂ related first.toList second.toList := by
  cases both with
  | none => exact .nil
  | some same => exact .cons same .nil

namespace ParameterList

/-- The values of the parameters, put into the order of the signature, are those of the parameters
in that order. -/
theorem inOrder_written {list : ParameterList} {members : List (String × Value)}
    (within : list.In (Value.canonicalMembers [] members)) :
    List.Forall₂ (fun value parameter => Parameter.Written parameter value.canonical)
      (Value.object members).parametersInOrder list.inOrder := by
  obtain ⟨-, parameters, star, doubleStar⟩ := within
  have listed := parameters.listed
  have starred := forall₂_toList (star.filled Parameter.not_written_null id)
  have doubleStarred := forall₂_toList (doubleStar.filled Parameter.not_written_null id)
  have others := List.rel_filter (p := (!·.keywordOnly)) (q := (·.kind ≠ .keywordOnly))
    (fun value parameter written => by simp [← Parameter.keywordOnly_iff written]) listed
  have only := List.rel_filter (p := (·.keywordOnly)) (q := (·.kind = .keywordOnly))
    (fun value parameter written => by simp [Parameter.keywordOnly_iff written]) listed
  exact List.rel_append (List.rel_append (List.rel_append others starred) only) doubleStarred

theorem hints_shown {list : ParameterList} {members : List (String × Value)}
    (within : list.In (Value.canonicalMembers [] members)) :
    List.Forall₂ Hint.ShownBy (Node.Kind.parameters.hintsIn (.object members))
      (Node.parameters list).hints := by
  rw [Node.hints_parameters]
  refine List.rel_filterMap ?_ (inOrder_written within)
  exact fun _ _ written => Parameter.hint_shown written

end ParameterList

namespace Node

theorem site_eq_kind (node : Node) : node.site = node.kind.site := by
  cases node <;> rfl

/-- A slot that stands alone shows its hint, if it has one. -/
theorem slot_shown {key : String} {slot : Option Hint} {members : List (String × Value)}
    (has : Has key (Slot Hint.Written slot) (Value.canonicalMembers [] members)) :
    List.Forall₂ Hint.ShownBy ((Value.object members).filled? key).toList ([slot].filterMap id) := by
  have single : [slot].filterMap id = slot.toList := by cases slot <;> rfl
  rw [single]
  exact forall₂_toList (has.filled Hint.not_written_null Hint.shownBy)

/-- The hints of a node are those that its value shows, one by one. -/
theorem hints_shown {node : Node} {members : List (String × Value)}
    (within : node.In (Value.canonicalMembers [] members)) :
    List.Forall₂ Hint.ShownBy (node.kind.hintsIn (.object members)) node.hints := by
  cases node with
  | parameters list => exact ParameterList.hints_shown within
  | annotatedAssignment statement => exact slot_shown within.2.2
  | assignment statement => exact slot_shown within.2.2
  | definition statement => exact slot_shown within.2.2.2
  | asyncDefinition statement => exact slot_shown within.2.2.2

theorem position_in {node : Node} {members : List (String × Value)} (within : node.In members) :
    node.position.In members := by
  cases node <;> exact within.1

/-- What the value of a node shows: the kind, the line and the hints. -/
theorem shown_of_ofValue {value : Value} {node : Node} (read : ofValue value = .ok node) :
    value.last? "kind" = some (.string node.kind.tag) ∧
      value.last? "line" = some (.ofWord node.position.line) ∧
      List.Forall₂ Hint.ShownBy (node.kind.hintsIn value) node.hints := by
  obtain ⟨sorted, shown, named, within⟩ := ofValue_eq_ok.mp read
  obtain ⟨members, rfl, rfl⟩ := Value.canonical_eq_object.mp shown
  exact ⟨named.last_string, (position_in within).1.last_word, hints_shown within⟩

theorem findings_about {active : Activation} {node : Node} {values : List Value}
    (answer : active "no-type-hints" node.position.line = true)
    (shown : List.Forall₂ Hint.ShownBy values node.hints) :
    List.Forall₂ (Finding.IsAbout node.kind.site) values (node.inspect active).findings := by
  have found : (node.inspect active).findings = [] ++ node.findings active :=
    (visit_adds active {} node).2.1
  rw [found, List.nil_append, findings, if_pos answer, List.forall₂_map_right_iff]
  exact shown.imp fun value hint same => ⟨rfl, node.site_eq_kind, rfl, same⟩

/-- An inspection depends on the node's kind, its line and its hints. -/
theorem inspect_congr {first second : Node} (active : Activation) (kind : first.kind = second.kind)
    (line : first.position.line = second.position.line) (hints : first.hints = second.hints) :
    first.inspect active = second.inspect active := by
  have site : first.site = second.site := by rw [site_eq_kind, site_eq_kind, kind]
  simp only [Node.hints] at hints
  simp only [inspect, visit_eq_inspect, Trace.inspect, Trace.ask, kind, line, site, hints]

theorem hints_eq_of_same {firsts seconds : List Value} {hints others : List Hint}
    (same : List.Forall₂ Value.SameHint firsts seconds)
    (shown : List.Forall₂ Hint.ShownBy firsts hints)
    (otherShown : List.Forall₂ Hint.ShownBy seconds others) : hints = others := by
  induction same generalizing hints others with
  | nil =>
    cases shown
    cases otherShown
    rfl
  | cons same _ ih =>
    cases shown with
    | cons one rest =>
      cases otherShown with
      | cons other otherRest =>
        rw [Hint.eq_of_same same one other, ih rest otherRest]

/-- A node that was read off a value is inspected as the value says: where its line is active, each
hint under the keys of its kind gives one finding, in the order of the slots. So of two values of
one kind that have the same line and the same hints, the inspections are the same. -/
theorem findings_read_off_value :
    (∀ value node, ofValue value = .ok node → ∃ kind line,
      value.last? "kind" = some (.string (Kind.tag kind)) ∧
      value.last? "line" = some (.ofWord line) ∧
      ∀ active : Activation, active "no-type-hints" line = true →
        List.Forall₂ (Finding.IsAbout kind.site) (kind.hintsIn value)
          (node.inspect active).findings) ∧
    ∀ first second firstNode secondNode kind, ofValue first = .ok firstNode →
      ofValue second = .ok secondNode →
      first.last? "kind" = some (.string (Kind.tag kind)) →
      second.last? "kind" = some (.string (Kind.tag kind)) →
      first.last? "line" = second.last? "line" →
      List.Forall₂ Value.SameHint (kind.hintsIn first) (kind.hintsIn second) →
      ∀ active, firstNode.inspect active = secondNode.inspect active := by
  constructor
  · intro value node read
    obtain ⟨kind, line, shown⟩ := shown_of_ofValue read
    exact ⟨node.kind, node.position.line, kind, line, fun active answer => findings_about answer shown⟩
  · intro first second firstNode secondNode kind read otherRead named otherNamed line same active
    obtain ⟨own, ownLine, shown⟩ := shown_of_ofValue read
    obtain ⟨other, otherLine, otherShown⟩ := shown_of_ofValue otherRead
    have firstKind : firstNode.kind = kind :=
      Kind.tag_injective (by simpa [named] using own.symm)
    have secondKind : secondNode.kind = kind :=
      Kind.tag_injective (by simpa [otherNamed] using other.symm)
    have lines : firstNode.position.line = secondNode.position.line := by
      rw [ownLine, otherLine, Option.some.injEq] at line
      exact Value.ofWord_injective line
    rw [firstKind] at shown
    rw [secondKind] at otherShown
    exact inspect_congr active (firstKind.trans secondKind.symm) lines
      (hints_eq_of_same same shown otherShown)

/-- Parameters out of order, with kinds said in three ways and with members that nobody asks for. -/
def scattered : Value :=
  .object [("vararg", .object [("name", .string "rest"), ("line", .ofWord 4), ("col", .ofWord 2),
      ("annotation", .object [("col", .ofWord 8), ("line", .ofWord 4), ("source", .string "str")])]),
    ("params", .array [
      .object [("kind", .object [("keyword_only", .null)]), ("name", .string "key"),
        ("line", .ofWord 5), ("col", .ofWord 2), ("annotation", .object [
          ("source", .string "int"), ("line", .ofWord 5), ("col", .ofWord 7)])],
      .object [("name", .string "bare"), ("line", .ofWord 2), ("col", .ofWord 2),
        ("annotation", .null)],
      .object [("kind", .string "positional"), ("name", .string "x"), ("line", .ofWord 3),
        ("col", .ofWord 2), ("annotation", .object [("source", .string "bool"),
          ("line", .ofWord 3), ("col", .ofWord 5)])]]),
    ("kind", .string "arguments"), ("line", .ofWord 1), ("col", .ofWord 6), ("kwarg", .null)]

/-- The same hints as in `scattered`, already in the order of the signature. -/
def tidy : Value :=
  .object [("kind", .string "arguments"), ("line", .ofWord 1), ("col", .ofWord 0),
    ("params", .array [
      .object [("name", .string "a"), ("line", .ofWord 1), ("col", .ofWord 0),
        ("annotation", .object [("source", .string "bool"), ("line", .ofWord 3),
          ("col", .ofWord 5)])]]),
    ("vararg", .object [("name", .string "b"), ("line", .ofWord 1), ("col", .ofWord 0),
      ("annotation", .object [("source", .string "str"), ("line", .ofWord 4),
        ("col", .ofWord 8)])]),
    ("kwarg", .object [("name", .string "c"), ("line", .ofWord 1), ("col", .ofWord 0),
      ("annotation", .object [("source", .string "int"), ("line", .ofWord 5),
        ("col", .ofWord 7)])])]

theorem findings_read_off_scattered :
    ∃ node other, ofValue scattered = .ok node ∧ ofValue tidy = .ok other ∧
      List.Forall₂ (Finding.IsAbout .functionSignature) (Kind.parameters.hintsIn scattered)
        (node.inspect fun _ _ => true).findings ∧
      ∀ active, node.inspect active = other.inspect active := by
  have named : NamesKind (.string Kind.parameters.tag) scattered := ⟨_, rfl, has_equal.mpr rfl⟩
  have otherNamed : NamesKind (.string Kind.parameters.tag) tidy := ⟨_, rfl, has_equal.mpr rfl⟩
  have read := ofValue_eq_ok.mpr ((written_orderless _).kept ((written_of_kind named).mpr rfl))
  have otherRead :=
    ofValue_eq_ok.mpr ((written_orderless _).kept ((written_of_kind otherNamed).mpr rfl))
  obtain ⟨off, congr⟩ := findings_read_off_value
  refine ⟨_, _, read, otherRead, ?_, ?_⟩
  · obtain ⟨kind, line, tag, -, about⟩ := off _ _ read
    have own : scattered.last? "kind" = some (.string Kind.parameters.tag) := rfl
    cases Kind.tag_injective (Value.string.inj (Option.some.inj (own.symm.trans tag)))
    exact about _ rfl
  · exact congr _ _ _ _ .parameters read otherRead rfl rfl rfl
      (.cons ⟨rfl, rfl, rfl⟩ (.cons ⟨rfl, rfl, rfl⟩ (.cons ⟨rfl, rfl, rfl⟩ .nil)))

end Node

end HintLint
