import HintLint.Proofs.NodeRoutes

/-!
Nodes and their records are read back from their texts. The value that a record is written as has the
form of the record, and it is legible: its numbers are words, and it nests only a few levels deep.
So its text holds that value again, and every route leads from the text back to the record.
-/

namespace HintLint

open Json

namespace Position

theorem members_legible (position : Position) (levels : Nat) :
    ∀ member ∈ position.members, member.2.Legible levels := by
  simp only [members, List.forall_mem_cons]
  exact ⟨Value.ofWord_legible _ _, Value.ofWord_legible _ _, by simp⟩

end Position

namespace Hint

theorem written_toValue (hint : Hint) : hint.Written hint.toValue := by
  refine ⟨_, rfl, ?_⟩
  simp [In, Position.In, Position.members, has_equal, under]

theorem toValue_legible (levels : Nat) (hint : Hint) : hint.toValue.Legible (levels + 1) := by
  simp only [toValue, Value.legible_object, List.forall_mem_cons]
  exact ⟨Value.string_legible _ _, hint.position.members_legible _⟩

theorem parse_toText (hint : Hint) : decoder.parse hint.toValue.toText = .ok hint :=
  agrees.parse_complete (Json.parse_toText (hint.toValue_legible _)) trivial
    ((reads _ _).mpr hint.written_toValue)

end Hint

namespace Parameter

theorem written_toValue (parameter : Parameter) : parameter.Written parameter.toValue := by
  refine ⟨_, rfl, ?_, ?_, .inr ⟨_, ?_, .alone⟩, ⟨_, ?_, Slot.ofOption Hint.written_toValue _⟩⟩ <;>
    simp [Position.In, Position.members, has_equal, under, Kind.toValue]

theorem toValue_legible (levels : Nat) (parameter : Parameter) :
    parameter.toValue.Legible (levels + 2) := by
  simp only [toValue, Value.legible_object, List.cons_append, List.forall_mem_cons,
    List.forall_mem_append]
  exact ⟨Value.string_legible _ _, parameter.position.members_legible _,
    Value.string_legible _ _, Value.ofOption_legible (Hint.toValue_legible levels) _, by simp⟩

theorem toValue_plain (parameter : Parameter) : PlainKind parameter.toValue := by
  simp [PlainKind, toValue, Position.members, Kind.toValue]

theorem ofOption_plain (found : Option Parameter) : PlainKind (.ofOption toValue found) := by
  cases found with
  | none => exact Value.under_null
  | some parameter => exact parameter.toValue_plain

theorem parse_toText (parameter : Parameter) :
    decoder.parse parameter.toValue.toText = .ok parameter :=
  agrees.parse_complete (Json.parse_toText (parameter.toValue_legible _)) parameter.toValue_plain
    ((reads _ _).mpr parameter.written_toValue)

end Parameter

namespace ParameterList

theorem in_members (list : ParameterList) : list.In list.members := by
  refine ⟨?_, ⟨_, ?_, ListOf.map Parameter.written_toValue _⟩,
    ⟨_, ?_, Slot.ofOption Parameter.written_toValue _⟩,
    ⟨_, ?_, Slot.ofOption Parameter.written_toValue _⟩⟩ <;>
  simp [Position.In, Position.members, members, has_equal, under]

theorem toValue_legible (levels : Nat) (list : ParameterList) :
    list.toValue.Legible (levels + 4) := by
  simp only [toValue, Value.legible_object, Value.legible_array, members, List.forall_mem_cons,
    List.forall_mem_append, List.forall_mem_map]
  exact ⟨list.position.members_legible _, fun parameter _ => parameter.toValue_legible levels,
    Value.ofOption_legible (Parameter.toValue_legible _) _,
    Value.ofOption_legible (Parameter.toValue_legible _) _, by simp⟩

theorem toValue_plain (list : ParameterList) : PlainKinds list.toValue := by
  simp only [PlainKinds, toValue, members, Position.members, Value.under_object, List.cons_append,
    List.nil_append, List.forall_mem_cons]
  simp [Parameter.toValue_plain, Parameter.ofOption_plain]

theorem parse_toText (list : ParameterList) : decoder.parse list.toValue.toText = .ok list :=
  agrees.parse_complete (Json.parse_toText (list.toValue_legible _)) list.toValue_plain
    ((reads _ _).mpr ⟨_, rfl, list.in_members⟩)

end ParameterList

namespace AnnotatedAssignment

theorem in_members (assignment : AnnotatedAssignment) : assignment.In assignment.members := by
  refine ⟨?_, ?_, ⟨_, ?_, Slot.ofOption Hint.written_toValue _⟩⟩ <;>
    simp [Position.In, Position.members, members, has_equal, under]

theorem members_legible (levels : Nat) (assignment : AnnotatedAssignment) :
    ∀ member ∈ assignment.members, member.2.Legible (levels + 1) := by
  simp only [members, List.forall_mem_cons, List.forall_mem_append]
  exact ⟨assignment.position.members_legible _, Value.string_legible _ _,
    Value.ofOption_legible (Hint.toValue_legible levels) _, by simp⟩

theorem parse_toText (assignment : AnnotatedAssignment) :
    record.decoder.parse (Value.object assignment.members).toText = .ok assignment :=
  agrees.parse_complete (Json.parse_toText (assignment.members_legible _)) trivial
    ((Reads.record ofMembers_eq_ok _ _).mpr ⟨_, rfl, assignment.in_members⟩)

end AnnotatedAssignment

namespace Assignment

theorem in_members (assignment : Assignment) : assignment.In assignment.members := by
  have targets : ListOf (fun text value => value = .string text) assignment.targets
      (.array (assignment.targets.map .string)) := by
    refine ListOf.map ?_ _
    exact fun _ => rfl
  refine ⟨?_, ⟨_, ?_, targets⟩, ⟨_, ?_, Slot.ofOption Hint.written_toValue _⟩⟩ <;>
    simp [Position.In, Position.members, members, has_equal, under]

theorem members_legible (levels : Nat) (assignment : Assignment) :
    ∀ member ∈ assignment.members, member.2.Legible (levels + 1) := by
  simp only [members, List.forall_mem_cons, List.forall_mem_append, Value.legible_array,
    List.forall_mem_map]
  exact ⟨assignment.position.members_legible _, fun _ _ => Value.string_legible _ _,
    Value.ofOption_legible (Hint.toValue_legible levels) _, by simp⟩

theorem parse_toText (assignment : Assignment) :
    record.decoder.parse (Value.object assignment.members).toText = .ok assignment :=
  agrees.parse_complete (Json.parse_toText (assignment.members_legible _)) trivial
    ((Reads.record ofMembers_eq_ok _ _).mpr ⟨_, rfl, assignment.in_members⟩)

end Assignment

namespace Definition

theorem in_members (definition : Definition) : definition.In definition.members := by
  refine ⟨?_, ?_, ⟨_, ?_, _, rfl, definition.parameters.in_members⟩,
    ⟨_, ?_, Slot.ofOption Hint.written_toValue _⟩⟩ <;>
  simp [Position.In, Position.members, members, has_equal, under, ParameterList.toValue]

theorem members_legible (levels : Nat) (definition : Definition) :
    ∀ member ∈ definition.members, member.2.Legible (levels + 4) := by
  simp only [members, List.forall_mem_cons, List.forall_mem_append]
  exact ⟨definition.position.members_legible _, Value.string_legible _ _,
    definition.parameters.toValue_legible levels, Value.ofOption_legible (Hint.toValue_legible _) _,
    by simp⟩

theorem members_plain (definition : Definition) :
    (Value.object definition.members).Under "args" ParameterList.PlainKinds := by
  simp only [members, Position.members, Value.under_object, List.cons_append, List.nil_append,
    List.forall_mem_cons]
  simp [ParameterList.toValue_plain]

theorem parse_toText (definition : Definition) :
    record.decoder.parse (Value.object definition.members).toText = .ok definition :=
  agrees.parse_complete (Json.parse_toText (definition.members_legible _)) definition.members_plain
    ((Reads.record ofMembers_eq_ok _ _).mpr ⟨_, rfl, definition.in_members⟩)

end Definition

namespace Node

theorem in_members (node : Node) : node.In node.members := by
  cases node with
  | parameters list => exact list.in_members
  | annotatedAssignment statement => exact statement.in_members
  | assignment statement => exact statement.in_members
  | definition statement => exact statement.in_members
  | asyncDefinition statement => exact statement.in_members

theorem members_legible (levels : Nat) (node : Node) :
    ∀ member ∈ node.members, member.2.Legible (levels + 4) := by
  cases node with
  | parameters list => exact list.toValue_legible (levels + 1)
  | annotatedAssignment statement => exact statement.members_legible (levels + 3)
  | assignment statement => exact statement.members_legible (levels + 3)
  | definition statement => exact statement.members_legible levels
  | asyncDefinition statement => exact statement.members_legible levels

theorem under_kind_members (node : Node) : under kindKey node.members = [] := by
  cases node <;>
    simp [members, ParameterList.members, AnnotatedAssignment.members, Assignment.members,
      Definition.members, Position.members, under, kindKey]

theorem toValue_legible (levels : Nat) (node : Node) : node.toValue.Legible (levels + 5) := by
  simp only [toValue, Value.legible_object, List.forall_mem_cons]
  exact ⟨Value.string_legible _ _, node.members_legible levels⟩

theorem written_toValue (node : Node) : node.Written node.toValue := by
  refine ⟨_, rfl, ?_, in_unasked.mp ?_⟩
  · rw [has_equal, under_cons_self, under_kind_members]
  · -- The kind is the one member that the straight route does not keep for the record.
    have same : tagged.unasked ((kindKey, .string node.kind.tag) :: node.members) =
        tagged.unasked node.members :=
      List.filter_cons_of_neg (by simp [tagged, findField?, Field.of])
    rw [same]
    exact in_unasked.mpr node.in_members

theorem toText_holds_toValue (node : Node) : Value.parse node.toText = .ok node.toValue :=
  Json.parse_toText (node.toValue_legible 122)

theorem read_toText (node : Node) : Reader.parse read node.toText = .ok node :=
  parse_read_eq_ok.mpr ⟨_, node.toText_holds_toValue, node.written_toValue⟩

theorem ofValue_toValue (node : Node) : ofValue node.toValue = .ok node :=
  ofValue_eq_ok.mpr (node.written_orderless.kept node.written_toValue)

theorem ofText_toText (node : Node) : ofText node.toText = .ok node := by
  rw [ofText, toText_holds_toValue]
  exact node.ofValue_toValue

/-- A list of nodes is read back from the texts of the nodes, with commas between them. -/
theorem listOfText_toText (nodes : List Node) :
    listOfText ("[" ++ ",".intercalate (nodes.map toText) ++ "]") = .ok nodes := by
  have text : nodes.map toText = (nodes.map toValue).map Value.toText := by
    rw [List.map_map]
    rfl
  have legible : (Value.array (nodes.map toValue)).Legible nestingLimit := by
    refine Value.legible_array.mpr ?_
    simp only [List.forall_mem_map]
    exact fun node _ => node.toValue_legible 121
  have values : Decoder.any.list.parse (Value.array (nodes.map toValue)).toText =
      .ok (nodes.map toValue) := by
    refine Agrees.any.list.parse_complete (Json.parse_toText legible) (fun _ _ _ _ => trivial) ?_
    exact mapM_eq_ok.mpr (List.forall₂_same.mpr fun _ _ => rfl)
  rw [text, ← Value.toText_array, listOfText, values]
  refine mapM_eq_ok.mpr ?_
  rw [List.forall₂_map_left_iff]
  exact List.forall₂_same.mpr fun node _ => node.ofValue_toValue

end Node

/-- Nodes of every kind, their records and lists of nodes are read back from their texts, on every
route that there is. -/
theorem texts_read_back :
    (∀ node : Node, Node.ofText node.toText = .ok node ∧
      Reader.parse Node.read node.toText = .ok node) ∧
    (∀ hint : Hint, Hint.decoder.parse hint.toValue.toText = .ok hint) ∧
    (∀ parameter : Parameter, Parameter.decoder.parse parameter.toValue.toText = .ok parameter) ∧
    (∀ list : ParameterList, ParameterList.decoder.parse list.toValue.toText = .ok list) ∧
    (∀ assignment : AnnotatedAssignment,
      AnnotatedAssignment.record.decoder.parse (Value.object assignment.members).toText =
        .ok assignment) ∧
    (∀ assignment : Assignment,
      Assignment.record.decoder.parse (Value.object assignment.members).toText = .ok assignment) ∧
    (∀ definition : Definition,
      Definition.record.decoder.parse (Value.object definition.members).toText = .ok definition) ∧
    ∀ nodes : List Node,
      Node.listOfText ("[" ++ ",".intercalate (nodes.map Node.toText) ++ "]") = .ok nodes :=
  ⟨fun node => ⟨node.ofText_toText, node.read_toText⟩, Hint.parse_toText, Parameter.parse_toText,
    ParameterList.parse_toText, AnnotatedAssignment.parse_toText, Assignment.parse_toText,
    Definition.parse_toText, Node.listOfText_toText⟩

end HintLint
