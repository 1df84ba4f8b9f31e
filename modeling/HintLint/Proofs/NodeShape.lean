import HintLint.Node
import HintLint.Proofs.Json.Shape

/-!
The form of nodes. Each record says what must stand under which key; members under other keys are of no
account. The decoders read the records of that form and no others, and `Node.ofValue` takes exactly
the objects whose kind names a form that they have. Of any other value it tells which part of the form
was not met.
-/

namespace HintLint

open Json

namespace Position

/-- The position stands among the members. -/
def In (position : Position) (members : List (String × Value)) : Prop :=
  Has "line" (· = .ofWord position.line) members ∧
    Has "col" (· = .ofWord position.column) members

theorem record_filled : record.Filled
    [⟨"line", .word, Draft.line⟩, ⟨"col", .word, Draft.column⟩] where
  own := by
    simp only [List.forall_mem_cons, List.not_mem_nil, false_implies, implies_true, and_true]
    exact ⟨⟨_, rfl, fun _ _ => rfl, by simp⟩, ⟨_, rfl, fun _ _ => rfl, by simp⟩⟩
  only := by simp [record, Field.of]
  empty := by simp [record]
  ext := by
    rintro ⟨line, column⟩ ⟨otherLine, otherColumn⟩ same
    simpa using same

theorem ofMembers_eq_ok {position : Position} {members : List (String × Value)} :
    record.ofMembers members = .ok position ↔ position.In members := by
  rw [record_filled.ofMembers_eq_ok]
  constructor
  · rintro ⟨draft, held, finished⟩
    simp only [List.forall_mem_cons, Cell.Held] at held
    obtain ⟨line, column, -⟩ := held
    simp only [record, bind_eq_ok, pure_eq_ok, required_eq_ok] at finished
    obtain ⟨_, hasLine, _, hasColumn, rfl⟩ := finished
    rw [hasLine, Reads.word.holds] at line
    rw [hasColumn, Reads.word.holds] at column
    exact ⟨line, column⟩
  · rintro ⟨line, column⟩
    refine ⟨⟨some position.line, some position.column⟩, ?_, rfl⟩
    simp only [List.forall_mem_cons, Cell.Held, Reads.word.holds]
    exact ⟨line, column, by simp⟩

/-- A record without fields for the position leaves its members for the end. -/
theorem ofMembers_unasked {σ α : Type} (record : Record σ α) {position : Position}
    {members : List (String × Value)} (line : findField? record.fields "line" = none)
    (column : findField? record.fields "col" = none) :
    Position.record.ofMembers (record.unasked members) = .ok position ↔ position.In members := by
  rw [ofMembers_eq_ok, In, In, has_unasked line, has_unasked column]

theorem in_orderless (position : Position) : OrderlessIn position.In :=
  (OrderlessIn.has (.word _) _).and (.has (.word _) _)

end Position

namespace Hint

/-- The parts of the hint stand among the members. -/
def In (hint : Hint) (members : List (String × Value)) : Prop :=
  Has "source" (· = .string hint.source) members ∧ hint.position.In members

/-- The value is the hint. -/
def Written (hint : Hint) : Value → Prop := ObjectOf hint.In

theorem record_filled : record.Filled [⟨"source", .string, Draft.source⟩] where
  own := by
    simp only [List.forall_mem_cons, List.not_mem_nil, false_implies, implies_true, and_true]
    exact ⟨_, rfl, fun _ _ => rfl, by simp⟩
  only := by simp [record, Field.of]
  empty := by simp [record]
  ext := by
    rintro ⟨source⟩ ⟨otherSource⟩ same
    simpa using same

theorem ofMembers_eq_ok (members : List (String × Value)) (hint : Hint) :
    record.ofMembers members = .ok hint ↔ hint.In members := by
  rw [record_filled.ofMembers_eq_ok]
  constructor
  · rintro ⟨draft, held, finished⟩
    simp only [List.forall_mem_cons, Cell.Held] at held
    obtain ⟨source, -⟩ := held
    simp only [record, bind_eq_ok, pure_eq_ok, required_eq_ok] at finished
    obtain ⟨_, hasSource, position, placed, rfl⟩ := finished
    rw [hasSource, Reads.string.holds] at source
    exact ⟨source, (Position.ofMembers_unasked record rfl rfl).mp placed⟩
  · rintro ⟨source, placed⟩
    refine ⟨⟨some hint.source⟩, ?_, ?_⟩
    · simp only [List.forall_mem_cons, Cell.Held, Reads.string.holds]
      exact ⟨source, by simp⟩
    · have position := (Position.ofMembers_unasked record rfl rfl).mpr placed
      exact bind_eq_ok.mpr ⟨_, rfl, bind_eq_ok.mpr ⟨_, position, rfl⟩⟩

theorem reads : Reads decoder Written := .record ofMembers_eq_ok

theorem reads_slot : Reads decoder.nullable (Slot Written) :=
  reads.nullable fun _ => by simp [Written, ObjectOf]

theorem written_orderless (hint : Hint) : Orderless hint.Written :=
  .object ((OrderlessIn.has (.string _) _).and hint.position.in_orderless)

end Hint

namespace Parameter

theorem Kind.name_injective : Function.Injective Kind.name := by
  intro first second same
  cases first <;> cases second <;> first | rfl | simp [name] at same

theorem Kind.lookup_names (name : String) (kind : Kind) :
    names.lookup name = some kind ↔ name = kind.name := by
  have listed : kind ∈ [positionalOnly, positional, keywordOnly] := by cases kind <;> simp
  exact (lookup_by_name name_injective).trans (and_iff_right listed)

/-- The parts of the parameter stand among the members. -/
def In (parameter : Parameter) (members : List (String × Value)) : Prop :=
  Has "name" (· = .string parameter.name) members ∧ parameter.position.In members ∧
    (under "kind" members = [] ∧ parameter.kind = .positional ∨
      Has "kind" (Named parameter.kind.name) members) ∧
    Has "annotation" (Slot Hint.Written parameter.hint) members

/-- The value is the parameter. -/
def Written (parameter : Parameter) : Value → Prop := ObjectOf parameter.In

theorem record_filled : record.Filled
    [⟨"name", .string, Draft.name⟩, ⟨"kind", Kind.decoder, Draft.kind⟩,
      ⟨"annotation", Hint.decoder.nullable, Draft.hint⟩] where
  own := by
    simp only [List.forall_mem_cons, List.not_mem_nil, false_implies, implies_true, and_true]
    exact ⟨⟨_, rfl, fun _ _ => rfl, by simp⟩, ⟨_, rfl, fun _ _ => rfl, by simp⟩,
      ⟨_, rfl, fun _ _ => rfl, by simp⟩⟩
  only := by simp [record, Field.of]
  empty := by simp [record]
  ext := by
    rintro ⟨name, kind, hint⟩ ⟨otherName, otherKind, otherHint⟩ same
    simpa using same

theorem ofMembers_eq_ok (members : List (String × Value)) (parameter : Parameter) :
    record.ofMembers members = .ok parameter ↔ parameter.In members := by
  rw [record_filled.ofMembers_eq_ok]
  have readsKind : Reads Kind.decoder fun kind => Named kind.name := .name Kind.lookup_names
  constructor
  · rintro ⟨draft, held, finished⟩
    simp only [List.forall_mem_cons, Cell.Held] at held
    obtain ⟨name, kind, hint, -⟩ := held
    simp only [record, bind_eq_ok, pure_eq_ok, required_eq_ok] at finished
    obtain ⟨_, hasName, _, hasHint, position, placed, rfl⟩ := finished
    rw [hasName, Reads.string.holds] at name
    rw [hasHint, Hint.reads_slot.holds] at hint
    refine ⟨name, (Position.ofMembers_unasked record rfl rfl).mp placed, ?_, hint⟩
    cases found : draft.kind with
    | none =>
      rw [found, holds_none] at kind
      exact .inl ⟨kind, rfl⟩
    | some given =>
      rw [found, readsKind.holds] at kind
      exact .inr kind
  · rintro ⟨name, placed, kind, hint⟩
    have position := (Position.ofMembers_unasked record rfl rfl).mpr placed
    obtain ⟨draftKind, kindHeld, same⟩ : ∃ found, Holds "kind" Kind.decoder members found ∧
        found.getD default = parameter.kind := by
      rcases kind with ⟨absent, same⟩ | given
      · exact ⟨none, holds_none.mpr absent, same.symm⟩
      · exact ⟨some parameter.kind, readsKind.holds.mpr given, rfl⟩
    refine ⟨⟨some parameter.name, draftKind, some parameter.hint⟩, ?_, ?_⟩
    · simp only [List.forall_mem_cons, Cell.Held, Reads.string.holds, Hint.reads_slot.holds]
      exact ⟨name, kindHeld, hint, by simp⟩
    · simp only [record, bind_eq_ok, pure_eq_ok, required_eq_ok]
      exact ⟨_, rfl, _, rfl, _, position, by rw [same]⟩

theorem reads : Reads decoder Written := .record ofMembers_eq_ok

theorem reads_slot : Reads decoder.nullable (Slot Written) :=
  reads.nullable fun _ => by simp [Written, ObjectOf]

theorem written_orderless (parameter : Parameter) : Orderless parameter.Written := by
  have kind : OrderlessIn fun members =>
      under "kind" members = [] ∧ parameter.kind = .positional ∨
        Has "kind" (Named parameter.kind.name) members :=
    ((OrderlessIn.lacks _).and (.always _)).or (.has (.named _) _)
  exact .object ((OrderlessIn.has (.string _) _).and (parameter.position.in_orderless.and
    (kind.and (.has (.slot Hint.written_orderless _) _))))

end Parameter

namespace ParameterList

/-- The parts of the parameter list stand among the members. -/
def In (list : ParameterList) (members : List (String × Value)) : Prop :=
  list.position.In members ∧ Has "params" (ListOf Parameter.Written list.parameters) members ∧
    Has "vararg" (Slot Parameter.Written list.star) members ∧
    Has "kwarg" (Slot Parameter.Written list.doubleStar) members

/-- The value is the parameter list. -/
def Written (list : ParameterList) : Value → Prop := ObjectOf list.In

theorem record_filled : record.Filled
    [⟨"params", Parameter.decoder.list, Draft.parameters⟩,
      ⟨"vararg", Parameter.decoder.nullable, Draft.star⟩,
      ⟨"kwarg", Parameter.decoder.nullable, Draft.doubleStar⟩] where
  own := by
    simp only [List.forall_mem_cons, List.not_mem_nil, false_implies, implies_true, and_true]
    exact ⟨⟨_, rfl, fun _ _ => rfl, by simp⟩, ⟨_, rfl, fun _ _ => rfl, by simp⟩,
      ⟨_, rfl, fun _ _ => rfl, by simp⟩⟩
  only := by simp [record, Field.of]
  empty := by simp [record]
  ext := by
    rintro ⟨parameters, star, doubleStar⟩ ⟨otherParameters, otherStar, otherDoubleStar⟩ same
    simpa using same

theorem ofMembers_eq_ok (members : List (String × Value)) (list : ParameterList) :
    record.ofMembers members = .ok list ↔ list.In members := by
  rw [record_filled.ofMembers_eq_ok]
  constructor
  · rintro ⟨draft, held, finished⟩
    simp only [List.forall_mem_cons, Cell.Held] at held
    obtain ⟨parameters, star, doubleStar, -⟩ := held
    simp only [record, bind_eq_ok, pure_eq_ok, required_eq_ok] at finished
    obtain ⟨_, hasParameters, _, hasStar, _, hasDoubleStar, position, placed, rfl⟩ := finished
    rw [hasParameters, Parameter.reads.list.holds] at parameters
    rw [hasStar, Parameter.reads_slot.holds] at star
    rw [hasDoubleStar, Parameter.reads_slot.holds] at doubleStar
    exact ⟨(Position.ofMembers_unasked record rfl rfl).mp placed, parameters, star, doubleStar⟩
  · rintro ⟨placed, parameters, star, doubleStar⟩
    have position := (Position.ofMembers_unasked record rfl rfl).mpr placed
    refine ⟨⟨some list.parameters, some list.star, some list.doubleStar⟩, ?_, ?_⟩
    · simp only [List.forall_mem_cons, Cell.Held, Parameter.reads.list.holds,
        Parameter.reads_slot.holds]
      exact ⟨parameters, star, doubleStar, by simp⟩
    · simp only [record, bind_eq_ok, pure_eq_ok, required_eq_ok]
      exact ⟨_, rfl, _, rfl, _, rfl, _, position, rfl⟩

theorem reads : Reads decoder Written := .record ofMembers_eq_ok

theorem in_orderless (list : ParameterList) : OrderlessIn list.In :=
  list.position.in_orderless.and ((OrderlessIn.has (.list Parameter.written_orderless _) _).and
    ((OrderlessIn.has (.slot Parameter.written_orderless _) _).and
      (.has (.slot Parameter.written_orderless _) _)))

end ParameterList

namespace AnnotatedAssignment

/-- The parts of the assignment stand among the members. -/
def In (assignment : AnnotatedAssignment) (members : List (String × Value)) : Prop :=
  assignment.position.In members ∧ Has "target" (· = .string assignment.target) members ∧
    Has "annotation" (Slot Hint.Written assignment.hint) members

theorem record_filled : record.Filled
    [⟨"target", .string, Draft.target⟩, ⟨"annotation", Hint.decoder.nullable, Draft.hint⟩] where
  own := by
    simp only [List.forall_mem_cons, List.not_mem_nil, false_implies, implies_true, and_true]
    exact ⟨⟨_, rfl, fun _ _ => rfl, by simp⟩, ⟨_, rfl, fun _ _ => rfl, by simp⟩⟩
  only := by simp [record, Field.of]
  empty := by simp [record]
  ext := by
    rintro ⟨target, hint⟩ ⟨otherTarget, otherHint⟩ same
    simpa using same

theorem ofMembers_eq_ok (members : List (String × Value)) (assignment : AnnotatedAssignment) :
    record.ofMembers members = .ok assignment ↔ assignment.In members := by
  rw [record_filled.ofMembers_eq_ok]
  constructor
  · rintro ⟨draft, held, finished⟩
    simp only [List.forall_mem_cons, Cell.Held] at held
    obtain ⟨target, hint, -⟩ := held
    simp only [record, bind_eq_ok, pure_eq_ok, required_eq_ok] at finished
    obtain ⟨_, hasTarget, _, hasHint, position, placed, rfl⟩ := finished
    rw [hasTarget, Reads.string.holds] at target
    rw [hasHint, Hint.reads_slot.holds] at hint
    exact ⟨(Position.ofMembers_unasked record rfl rfl).mp placed, target, hint⟩
  · rintro ⟨placed, target, hint⟩
    have position := (Position.ofMembers_unasked record rfl rfl).mpr placed
    refine ⟨⟨some assignment.target, some assignment.hint⟩, ?_, ?_⟩
    · simp only [List.forall_mem_cons, Cell.Held, Reads.string.holds, Hint.reads_slot.holds]
      exact ⟨target, hint, by simp⟩
    · simp only [record, bind_eq_ok, pure_eq_ok, required_eq_ok]
      exact ⟨_, rfl, _, rfl, _, position, rfl⟩

theorem in_orderless (assignment : AnnotatedAssignment) : OrderlessIn assignment.In :=
  assignment.position.in_orderless.and ((OrderlessIn.has (.string _) _).and
    (.has (.slot Hint.written_orderless _) _))

end AnnotatedAssignment

namespace Assignment

/-- The parts of the assignment stand among the members. -/
def In (assignment : Assignment) (members : List (String × Value)) : Prop :=
  assignment.position.In members ∧
    Has "targets" (ListOf (fun text value => value = .string text) assignment.targets) members ∧
    Has "type_annotation" (Slot Hint.Written assignment.comment) members

theorem record_filled : record.Filled
    [⟨"targets", Decoder.string.list, Draft.targets⟩,
      ⟨"type_annotation", Hint.decoder.nullable, Draft.comment⟩] where
  own := by
    simp only [List.forall_mem_cons, List.not_mem_nil, false_implies, implies_true, and_true]
    exact ⟨⟨_, rfl, fun _ _ => rfl, by simp⟩, ⟨_, rfl, fun _ _ => rfl, by simp⟩⟩
  only := by simp [record, Field.of]
  empty := by simp [record]
  ext := by
    rintro ⟨targets, comment⟩ ⟨otherTargets, otherComment⟩ same
    simpa using same

theorem ofMembers_eq_ok (members : List (String × Value)) (assignment : Assignment) :
    record.ofMembers members = .ok assignment ↔ assignment.In members := by
  rw [record_filled.ofMembers_eq_ok]
  constructor
  · rintro ⟨draft, held, finished⟩
    simp only [List.forall_mem_cons, Cell.Held] at held
    obtain ⟨targets, comment, -⟩ := held
    simp only [record, bind_eq_ok, pure_eq_ok, required_eq_ok] at finished
    obtain ⟨_, hasTargets, _, hasComment, position, placed, rfl⟩ := finished
    rw [hasTargets, Reads.string.list.holds] at targets
    rw [hasComment, Hint.reads_slot.holds] at comment
    exact ⟨(Position.ofMembers_unasked record rfl rfl).mp placed, targets, comment⟩
  · rintro ⟨placed, targets, comment⟩
    have position := (Position.ofMembers_unasked record rfl rfl).mpr placed
    refine ⟨⟨some assignment.targets, some assignment.comment⟩, ?_, ?_⟩
    · simp only [List.forall_mem_cons, Cell.Held, Reads.string.list.holds, Hint.reads_slot.holds]
      exact ⟨targets, comment, by simp⟩
    · simp only [record, bind_eq_ok, pure_eq_ok, required_eq_ok]
      exact ⟨_, rfl, _, rfl, _, position, rfl⟩

theorem in_orderless (assignment : Assignment) : OrderlessIn assignment.In :=
  assignment.position.in_orderless.and ((OrderlessIn.has (.list .string _) _).and
    (.has (.slot Hint.written_orderless _) _))

end Assignment

namespace Definition

/-- The parts of the definition stand among the members. -/
def In (definition : Definition) (members : List (String × Value)) : Prop :=
  definition.position.In members ∧ Has "name" (· = .string definition.name) members ∧
    Has "args" definition.parameters.Written members ∧
    Has "returns" (Slot Hint.Written definition.returns) members

theorem record_filled : record.Filled
    [⟨"name", .string, Draft.name⟩, ⟨"args", ParameterList.decoder, Draft.parameters⟩,
      ⟨"returns", Hint.decoder.nullable, Draft.returns⟩] where
  own := by
    simp only [List.forall_mem_cons, List.not_mem_nil, false_implies, implies_true, and_true]
    exact ⟨⟨_, rfl, fun _ _ => rfl, by simp⟩, ⟨_, rfl, fun _ _ => rfl, by simp⟩,
      ⟨_, rfl, fun _ _ => rfl, by simp⟩⟩
  only := by simp [record, Field.of]
  empty := by simp [record]
  ext := by
    rintro ⟨name, parameters, returns⟩ ⟨otherName, otherParameters, otherReturns⟩ same
    simpa using same

theorem ofMembers_eq_ok (members : List (String × Value)) (definition : Definition) :
    record.ofMembers members = .ok definition ↔ definition.In members := by
  rw [record_filled.ofMembers_eq_ok]
  constructor
  · rintro ⟨draft, held, finished⟩
    simp only [List.forall_mem_cons, Cell.Held] at held
    obtain ⟨name, parameters, returns, -⟩ := held
    simp only [record, bind_eq_ok, pure_eq_ok, required_eq_ok] at finished
    obtain ⟨_, hasName, _, hasParameters, _, hasReturns, position, placed, rfl⟩ := finished
    rw [hasName, Reads.string.holds] at name
    rw [hasParameters, ParameterList.reads.holds] at parameters
    rw [hasReturns, Hint.reads_slot.holds] at returns
    exact ⟨(Position.ofMembers_unasked record rfl rfl).mp placed, name, parameters, returns⟩
  · rintro ⟨placed, name, parameters, returns⟩
    have position := (Position.ofMembers_unasked record rfl rfl).mpr placed
    refine ⟨⟨some definition.name, some definition.parameters, some definition.returns⟩, ?_, ?_⟩
    · simp only [List.forall_mem_cons, Cell.Held, Reads.string.holds, ParameterList.reads.holds,
        Hint.reads_slot.holds]
      exact ⟨name, parameters, returns, by simp⟩
    · simp only [record, bind_eq_ok, pure_eq_ok, required_eq_ok]
      exact ⟨_, rfl, _, rfl, _, rfl, _, position, rfl⟩

theorem in_orderless (definition : Definition) : OrderlessIn definition.In :=
  definition.position.in_orderless.and ((OrderlessIn.has (.string _) _).and
    ((OrderlessIn.has (.object definition.parameters.in_orderless) _).and
      (.has (.slot Hint.written_orderless _) _)))

end Definition

namespace Node

/-- The parts of the node's record stand among the members. -/
def In : Node → List (String × Value) → Prop
  | .parameters list => list.In
  | .annotatedAssignment statement => statement.In
  | .assignment statement => statement.In
  | .definition statement => statement.In
  | .asyncDefinition statement => statement.In

theorem in_orderless (node : Node) : OrderlessIn node.In := by
  cases node with
  | parameters list => exact list.in_orderless
  | annotatedAssignment statement => exact statement.in_orderless
  | assignment statement => exact statement.in_orderless
  | definition statement => exact statement.in_orderless
  | asyncDefinition statement => exact statement.in_orderless

/-- The value is the node: it names the node's kind, and has the parts of the record of that kind. -/
def Written (node : Node) : Value → Prop :=
  ObjectOf fun members => Has kindKey (· = .string node.kind.tag) members ∧ node.In members

theorem written_orderless (node : Node) : Orderless node.Written :=
  .object ((OrderlessIn.has (.string _) _).and node.in_orderless)

theorem Kind.tag_injective : Function.Injective Kind.tag := by
  intro first second same
  cases first <;> cases second <;> first | rfl | simp [tag] at same

theorem Kind.ofTag_eq_some {name : String} {kind : Kind} :
    ofTag? name = some kind ↔ name = kind.tag := by
  have listed : kind ∈ all := by cases kind <;> simp [all]
  exact (lookup_by_name tag_injective).trans (and_iff_right listed)

theorem Kind.ofTag_eq_none {name : String} : ofTag? name = none ↔ ∀ kind, name ≠ tag kind := by
  simp only [Option.eq_none_iff_forall_ne_some, ne_eq, ofTag_eq_some]

/-- The records of a kind. -/
def Kind.Content : Kind → Type
  | parameters => ParameterList
  | annotatedAssignment => AnnotatedAssignment
  | assignment => Assignment
  | definition | asyncDefinition => Definition

/-- The node of a kind that has the record. -/
def Kind.node : (kind : Kind) → kind.Content → Node
  | parameters => .parameters
  | annotatedAssignment => .annotatedAssignment
  | assignment => .assignment
  | definition => .definition
  | asyncDefinition => .asyncDefinition

/-- The shape of the records of a kind. -/
def Kind.content : (kind : Kind) → Decoder kind.Content
  | parameters => ParameterList.decoder
  | annotatedAssignment => AnnotatedAssignment.record.decoder
  | assignment => Assignment.record.decoder
  | definition | asyncDefinition => Definition.record.decoder

theorem Kind.decoder_eq_map (kind : Kind) : kind.decoder = kind.content.map kind.node := by
  cases kind <;> rfl

theorem Kind.kind_node (kind : Kind) (content : kind.Content) :
    (kind.node content).kind = kind := by
  cases kind <;> rfl

theorem exists_content (node : Node) : ∃ content, node.kind.node content = node := by
  cases node with
  | parameters list => exact ⟨list, rfl⟩
  | annotatedAssignment statement => exact ⟨statement, rfl⟩
  | assignment statement => exact ⟨statement, rfl⟩
  | definition statement => exact ⟨statement, rfl⟩
  | asyncDefinition statement => exact ⟨statement, rfl⟩

theorem Kind.content_reads (kind : Kind) :
    Reads kind.content fun content => ObjectOf (kind.node content).In := by
  cases kind with
  | parameters => exact ParameterList.reads
  | annotatedAssignment => exact .record AnnotatedAssignment.ofMembers_eq_ok
  | assignment => exact .record Assignment.ofMembers_eq_ok
  | definition => exact .record Definition.ofMembers_eq_ok
  | asyncDefinition => exact .record Definition.ofMembers_eq_ok

/-- The decoder of a kind reads the records of that kind, whether the kind is named or not. -/
theorem Kind.reads (kind : Kind) :
    Reads kind.decoder fun node value => node.kind = kind ∧ ObjectOf node.In value := by
  intro value node
  rw [kind.decoder_eq_map, kind.content_reads.map kind.node value node]
  constructor
  · rintro ⟨content, rfl, within⟩
    exact ⟨kind.kind_node content, within⟩
  · rintro ⟨rfl, within⟩
    obtain ⟨content, same⟩ := node.exists_content
    exact ⟨content, same, same.symm ▸ within⟩

/-- The object names its kind. -/
def NamesKind (found : Value) : Value → Prop := ObjectOf (Has kindKey (· = found))

theorem NamesKind.unique {value first second : Value} (one : NamesKind first value)
    (other : NamesKind second value) : first = second := by
  obtain ⟨members, rfl, one⟩ := one
  obtain ⟨same, equal, other⟩ := other
  cases equal
  rw [has_equal] at one other
  exact (List.cons.inj (one.symm.trans other)).1

/-- A node names the kind whose record it has. -/
theorem written_iff {node : Node} {value : Value} :
    node.Written value ↔ NamesKind (.string node.kind.tag) value ∧ ObjectOf node.In value := by
  constructor
  · rintro ⟨members, rfl, named, within⟩
    exact ⟨⟨members, rfl, named⟩, ⟨members, rfl, within⟩⟩
  · rintro ⟨⟨members, rfl, named⟩, ⟨same, equal, within⟩⟩
    cases equal
    exact ⟨members, rfl, named, within⟩

/-- How a value fails to be a node. -/
inductive Refused (value : Value) : Error → Prop where
  /-- The value is no object, or it has no kind. -/
  | noKind : (∀ found, ¬ NamesKind found value) →
      Refused value (.contractViolation "<unknown>" "missing field `kind`")
  | kindNoString {found : Value} : NamesKind found value → (∀ tag, found ≠ .string tag) →
      Refused value
        (.contractViolation "<unknown>" ("`kind` must be a string, found " ++ found.toText))
  | unknownKind {tag : String} : NamesKind (.string tag) value → (∀ kind, tag ≠ Kind.tag kind) →
      Refused value (.unknownKind tag)
  /-- The kind is known, but the record is not of that kind. -/
  | otherForm {kind : Kind} {cause : Mismatch} : NamesKind (.string kind.tag) value →
      (∀ node, ¬ Node.Written node value) → kind.decoder.ofValue value = .error cause →
      Refused value (.contractViolation kind.tag cause.message)

theorem ofValue_of_kind {value : Value} {kind : Kind}
    (named : NamesKind (.string kind.tag) value.canonical) :
    ofValue value = (kind.decoder.ofValue value.canonical).mapError fun cause =>
      .contractViolation kind.tag cause.message := by
  simp only [ofValue, Value.member_canonical.mpr named, Kind.ofTag_eq_some.mpr rfl]

theorem written_of_kind {value : Value} {kind : Kind} {node : Node}
    (named : NamesKind (.string kind.tag) value) :
    node.Written value ↔ kind.decoder.ofValue value = .ok node := by
  rw [kind.reads value node, written_iff]
  constructor
  · rintro ⟨own, within⟩
    exact ⟨Kind.tag_injective (Value.string.inj (own.unique named)), within⟩
  · rintro ⟨rfl, within⟩
    exact ⟨named, within⟩

/-- A value names a known kind, or is refused for want of one. -/
theorem known_or_refused (value : Value) :
    (∃ kind, NamesKind (.string (Kind.tag kind)) value) ∨ ∃ error, Refused value error := by
  by_cases named : ∃ found, NamesKind found value
  · obtain ⟨found, named⟩ := named
    cases found with
    | string tag =>
      cases known : Kind.ofTag? tag with
      | none => exact .inr ⟨_, .unknownKind named (Kind.ofTag_eq_none.mp known)⟩
      | some kind => exact .inl ⟨kind, Kind.ofTag_eq_some.mp known ▸ named⟩
    | _ => exact .inr ⟨_, .kindNoString named (by simp)⟩
  · exact .inr ⟨_, .noKind fun found names => named ⟨found, names⟩⟩

theorem ofValue_of_refused {value : Value} {error : Error}
    (refused : Refused value.canonical error) : ofValue value = .error error := by
  cases refused with
  | noKind absent =>
    have none : value.canonical.member? kindKey = none :=
      Option.eq_none_iff_forall_ne_some.mpr fun found same =>
        absent found (Value.member_canonical.mp same)
    simp only [ofValue, none]
    rfl
  | @kindNoString found named noString =>
    simp only [ofValue, Value.member_canonical.mpr named]
    cases found with
    | string tag => exact absurd rfl (noString tag)
    | _ => rfl
  | unknownKind named unknown =>
    simp only [ofValue, Value.member_canonical.mpr named, Kind.ofTag_eq_none.mpr unknown]
  | otherForm named noNode failed =>
    rw [ofValue_of_kind named, failed]
    rfl

theorem ofValue_of_written {value : Value} {node : Node} (written : node.Written value.canonical) :
    ofValue value = .ok node := by
  have named := (written_iff.mp written).1
  rw [ofValue_of_kind named, (written_of_kind named).mp written]
  rfl

/-- Every value is a node or is refused. -/
theorem written_or_refused (value : Value) :
    (∃ node, Written node value) ∨ ∃ error, Refused value error := by
  rcases known_or_refused value with ⟨kind, named⟩ | refused
  · cases decoded : kind.decoder.ofValue value with
    | ok node => exact .inl ⟨node, (written_of_kind named).mpr decoded⟩
    | error cause =>
      refine .inr ⟨_, .otherForm named (fun node written => ?_) decoded⟩
      rw [(written_of_kind named).mp written] at decoded
      cases decoded
  · exact .inr refused

/-- A value is read as the node that its sorted form is, and as nothing else. -/
theorem ofValue_eq_ok {value : Value} {node : Node} :
    ofValue value = .ok node ↔ node.Written value.canonical := by
  constructor
  · intro read
    rcases written_or_refused value.canonical with ⟨found, written⟩ | ⟨error, refused⟩
    · cases (ofValue_of_written written).symm.trans read
      exact written
    · cases (ofValue_of_refused refused).symm.trans read
  · exact ofValue_of_written

theorem ofValue_eq_error {value : Value} {error : Error} :
    ofValue value = .error error ↔ Refused value.canonical error := by
  constructor
  · intro failed
    rcases written_or_refused value.canonical with ⟨node, written⟩ | ⟨other, refused⟩
    · cases (ofValue_of_written written).symm.trans failed
    · cases (ofValue_of_refused refused).symm.trans failed
      exact refused
  · exact ofValue_of_refused

/-- Reading a node off a value takes exactly the values of the form of a kind, reads off them the
record of that kind, and says of every other value what is wrong with it. -/
theorem ofValue_decides_form (value : Value) :
    (∀ node, ofValue value = .ok node ↔ node.Written value.canonical) ∧
      ∀ error, ofValue value = .error error ↔ Refused value.canonical error :=
  ⟨fun _ => ofValue_eq_ok, fun _ => ofValue_eq_error⟩

end Node

end HintLint
