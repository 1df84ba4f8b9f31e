import HintLint.Proofs.NodeRoundTrip
import HintLint.Proofs.RecordMembers

/-!
Absence and `null` at every depth of a node. The value of a node holds the objects of its records:
its own, the one of its parameters, those of the single parameters and those of hints. Wherever such
an object stands, a required member that is taken out of it is missed by name, a slot that becomes
`null` is empty in the node and all else stays, and no other required member may be `null`. Only the
kind of a parameter can be left out.
-/

namespace HintLint

open Json

/-- The records that nodes are made of. -/
inductive Form where
  | hint
  | parameter
  | parameterList
  | annotatedAssignment
  | assignment
  | definition

namespace Form

/-- What a record of the form holds. -/
@[reducible]
def Content : Form → Type
  | hint => Hint
  | parameter => Parameter
  | parameterList => ParameterList
  | annotatedAssignment => AnnotatedAssignment
  | assignment => Assignment
  | definition => Definition

/-- The shape of the records of the form. -/
def decoder : (form : Form) → Decoder form.Content
  | hint => Hint.decoder
  | parameter => Parameter.decoder
  | parameterList => ParameterList.decoder
  | annotatedAssignment => AnnotatedAssignment.record.decoder
  | assignment => Assignment.record.decoder
  | definition => Definition.record.decoder

/-- The slots of a record by their keys, each with what makes that slot empty and nothing else. -/
def slots : (form : Form) → List (String × (form.Content → form.Content))
  | hint => []
  | parameter => [("annotation", fun parameter => { parameter with hint := none })]
  | parameterList => [
    ("vararg", fun list => { list with star := none }),
    ("kwarg", fun list => { list with doubleStar := none })]
  | annotatedAssignment => [("annotation", fun assignment => { assignment with hint := none })]
  | assignment => [("type_annotation", fun assignment => { assignment with comment := none })]
  | definition => [("returns", fun definition => { definition with returns := none })]

/-- The keys of the required members that are no slots. -/
def solids : Form → List String
  | hint => ["source", "line", "col"]
  | parameter => ["name", "line", "col"]
  | parameterList => ["params", "line", "col"]
  | annotatedAssignment => ["target", "line", "col"]
  | assignment => ["targets", "line", "col"]
  | definition => ["name", "args", "line", "col"]

/-- The keys of all required members. -/
def required (form : Form) : List String := form.slots.map Prod.fst ++ form.solids

end Form

/-- Where in a record of one form the record of another stands. -/
inductive Place : Form → Form → Type where
  | here {form : Form} : Place form form
  | hintOfParameter : Place .parameter .hint
  | parameter {form : Form} (index : Nat) (inner : Place .parameter form) :
      Place .parameterList form
  | star {form : Form} (inner : Place .parameter form) : Place .parameterList form
  | doubleStar {form : Form} (inner : Place .parameter form) : Place .parameterList form
  | hintOfAssignment : Place .annotatedAssignment .hint
  | comment : Place .assignment .hint
  | parameters {form : Form} (inner : Place .parameterList form) : Place .definition form
  | returns : Place .definition .hint

namespace Place

/-- The path to the object of the inner record. -/
def path {outer inner : Form} : Place outer inner → List Step
  | here => []
  | hintOfParameter => [.member "annotation"]
  | parameter index inner => .member "params" :: .item index :: inner.path
  | star inner => .member "vararg" :: inner.path
  | doubleStar inner => .member "kwarg" :: inner.path
  | hintOfAssignment => [.member "annotation"]
  | comment => [.member "type_annotation"]
  | parameters inner => .member "args" :: inner.path
  | returns => [.member "returns"]

/-- The outer record with a change of the inner one, if that is there. -/
def modify {outer inner : Form} : Place outer inner → (inner.Content → inner.Content) →
    outer.Content → outer.Content
  | here, edit, record => edit record
  | hintOfParameter, edit, record => { record with hint := record.hint.map edit }
  | parameter index inner, edit, record =>
    { record with parameters := record.parameters.modify index (inner.modify edit) }
  | star inner, edit, record => { record with star := record.star.map (inner.modify edit) }
  | doubleStar inner, edit, record =>
    { record with doubleStar := record.doubleStar.map (inner.modify edit) }
  | hintOfAssignment, edit, record => { record with hint := record.hint.map edit }
  | comment, edit, record => { record with comment := record.comment.map edit }
  | parameters inner, edit, record =>
    { record with parameters := inner.modify edit record.parameters }
  | returns, edit, record => { record with returns := record.returns.map edit }

theorem eq_of_path_nil {outer inner : Form} (place : Place outer inner) (none : place.path = []) :
    outer = inner := by
  cases place <;> first | rfl | cases none

/-- The outer record mirrors a change of the value of the inner one. -/
theorem mirrors {outer inner : Form} (place : Place outer inner) :
    Mirrors outer.decoder inner.decoder place.path place.modify := by
  induction place with
  | here => exact .here
  | hintOfParameter => exact .member Parameter.record_members.2.2 (.nullable .here)
  | parameter index inner ih => exact .member ParameterList.record_members.1 (.item ih index)
  | star inner ih => exact .member ParameterList.record_members.2.1 (.nullable ih)
  | doubleStar inner ih => exact .member ParameterList.record_members.2.2 (.nullable ih)
  | hintOfAssignment => exact .member AnnotatedAssignment.record_members.2 (.nullable .here)
  | comment => exact .member Assignment.record_members.2 (.nullable .here)
  | parameters inner ih => exact .member Definition.record_members.2.1 ih
  | returns => exact .member Definition.record_members.2.2 (.nullable .here)

end Place

namespace Form

/-- The form misses the member under the key when it is gone, and this becomes of a record when it is
`null`. -/
def Demands (form : Form) (key : String) (onNull : form.Content → Except Mismatch form.Content) :
    Prop :=
  ∀ members record, form.decoder.ofValue (.object members) = .ok record →
    form.decoder.ofValue (Value.without key (.object members)) = .error (.missingField key) ∧
      form.decoder.ofValue (Value.replace key .null (.object members)) = onNull record

theorem demands_of_requires {σ β : Type} {form : Form} {record : Record σ form.Content}
    {key : String} {decoder : Decoder β} {get : form.Content → β}
    {put : β → form.Content → form.Content} {onNull : form.Content → Except Mismatch form.Content}
    (same : form.decoder = record.decoder) (requires : record.Requires key decoder get put)
    (null : ∀ content, ((decoder.ofValue .null).map fun part => put part content) = onNull content) :
    form.Demands key onNull := by
  intro members content read
  rw [same] at read ⊢
  refine ⟨requires.gone read, ?_⟩
  obtain ⟨found, holds, held⟩ := requires.read read
  cases found with
  | none => cases held
  | some part =>
    obtain ⟨value, single, -⟩ := holds_some.mp holds
    exact (requires.changed read single _).trans (null content)

/-- Line and column must be there and must not be `null`. -/
theorem position_demanded {σ : Type} {form : Form} {record : Record σ form.Content}
    {cells : List (Cell σ)} {get : form.Content → Position}
    {put : Position → form.Content → form.Content} (same : form.decoder = record.decoder)
    (filled : record.Filled cells) (flattens : record.Flattens Position.record get put)
    (line : findField? record.fields "line" = none) (column : findField? record.fields "col" = none) :
    ∀ key ∈ ["line", "col"], ∃ cause, form.Demands key fun _ => .error cause := by
  obtain ⟨hasLine, hasColumn⟩ := Position.flattened_members filled flattens line column
  simp only [List.forall_mem_cons]
  exact ⟨⟨_, demands_of_requires same hasLine fun _ => rfl⟩,
    ⟨_, demands_of_requires same hasColumn fun _ => rfl⟩, by simp⟩

/-- A slot may be `null` but not absent. -/
theorem slots_demanded (form : Form) :
    ∀ slot ∈ form.slots, form.Demands slot.1 fun record => .ok (slot.2 record) := by
  cases form with
  | hint => exact List.forall_mem_nil _
  | parameter =>
    obtain ⟨-, -, hint⟩ := Parameter.record_members
    exact List.forall_mem_singleton.mpr (demands_of_requires rfl hint fun _ => rfl)
  | parameterList =>
    obtain ⟨-, star, doubleStar⟩ := ParameterList.record_members
    exact List.forall_mem_cons.mpr ⟨demands_of_requires rfl star fun _ => rfl,
      List.forall_mem_singleton.mpr (demands_of_requires rfl doubleStar fun _ => rfl)⟩
  | annotatedAssignment =>
    obtain ⟨-, hint⟩ := AnnotatedAssignment.record_members
    exact List.forall_mem_singleton.mpr (demands_of_requires rfl hint fun _ => rfl)
  | assignment =>
    obtain ⟨-, comment⟩ := Assignment.record_members
    exact List.forall_mem_singleton.mpr (demands_of_requires rfl comment fun _ => rfl)
  | definition =>
    obtain ⟨-, -, returns⟩ := Definition.record_members
    exact List.forall_mem_singleton.mpr (demands_of_requires rfl returns fun _ => rfl)

/-- The other required members may be neither. -/
theorem solids_demanded (form : Form) :
    ∀ key ∈ form.solids, ∃ cause, form.Demands key fun _ => .error cause := by
  cases form with
  | hint =>
    exact List.forall_mem_cons.mpr
      ⟨⟨_, demands_of_requires rfl Hint.record_members fun _ => rfl⟩,
        position_demanded rfl Hint.record_filled Hint.flattens rfl rfl⟩
  | parameter =>
    obtain ⟨name, -⟩ := Parameter.record_members
    exact List.forall_mem_cons.mpr ⟨⟨_, demands_of_requires rfl name fun _ => rfl⟩,
      position_demanded rfl Parameter.record_filled Parameter.flattens rfl rfl⟩
  | parameterList =>
    obtain ⟨parameters, -⟩ := ParameterList.record_members
    exact List.forall_mem_cons.mpr ⟨⟨_, demands_of_requires rfl parameters fun _ => rfl⟩,
      position_demanded rfl ParameterList.record_filled ParameterList.flattens rfl rfl⟩
  | annotatedAssignment =>
    obtain ⟨target, -⟩ := AnnotatedAssignment.record_members
    exact List.forall_mem_cons.mpr ⟨⟨_, demands_of_requires rfl target fun _ => rfl⟩,
      position_demanded rfl AnnotatedAssignment.record_filled AnnotatedAssignment.flattens rfl rfl⟩
  | assignment =>
    obtain ⟨targets, -⟩ := Assignment.record_members
    exact List.forall_mem_cons.mpr ⟨⟨_, demands_of_requires rfl targets fun _ => rfl⟩,
      position_demanded rfl Assignment.record_filled Assignment.flattens rfl rfl⟩
  | definition =>
    obtain ⟨name, parameters, -⟩ := Definition.record_members
    exact List.forall_mem_cons.mpr ⟨⟨_, demands_of_requires rfl name fun _ => rfl⟩,
      List.forall_mem_cons.mpr ⟨⟨_, demands_of_requires rfl parameters fun _ => rfl⟩,
        position_demanded rfl Definition.record_filled Definition.flattens rfl rfl⟩⟩

/-- No member by the name of `kind` is required of a record. -/
theorem ne_kind_of_required {form : Form} {key : String} (listed : key ∈ form.required) :
    key ≠ Node.kindKey := by
  rintro rfl
  cases form <;> simp [required, slots, solids, Node.kindKey] at listed

theorem required_demanded {form : Form} {key : String} (listed : key ∈ form.required) :
    ∃ onNull, form.Demands key onNull := by
  rcases List.mem_append.mp listed with isSlot | solid
  · obtain ⟨slot, among, rfl⟩ := List.mem_map.mp isSlot
    exact ⟨_, form.slots_demanded slot among⟩
  · obtain ⟨cause, demands⟩ := form.solids_demanded key solid
    exact ⟨_, demands⟩

end Form

namespace Node

/-- The form of the node's record. -/
def form : Node → Form
  | .parameters _ => .parameterList
  | .annotatedAssignment _ => .annotatedAssignment
  | .assignment _ => .assignment
  | .definition _ | .asyncDefinition _ => .definition

/-- The node's record. -/
def content : (node : Node) → node.form.Content
  | .parameters list => list
  | .annotatedAssignment statement => statement
  | .assignment statement => statement
  | .definition statement => statement
  | .asyncDefinition statement => statement

/-- The node of the same kind with another record. -/
def withContent : (node : Node) → node.form.Content → Node
  | .parameters _, list => .parameters list
  | .annotatedAssignment _, statement => .annotatedAssignment statement
  | .assignment _, statement => .assignment statement
  | .definition _, statement => .definition statement
  | .asyncDefinition _, statement => .asyncDefinition statement

/-- The node with a change of one of its records. -/
def modify (node : Node) {form : Form} (place : Place node.form form)
    (edit : form.Content → form.Content) : Node :=
  node.withContent (place.modify edit node.content)

theorem form_ne_parameter (node : Node) : node.form ≠ .parameter := by
  cases node <;> simp [form]

theorem decoder_ofValue (node : Node) (value : Value) :
    node.kind.decoder.ofValue value = (node.form.decoder.ofValue value).map node.withContent := by
  cases node <;> rfl

theorem eq_content_of_withContent {node : Node} {content : node.form.Content}
    (same : node.withContent content = node) : content = node.content := by
  cases node <;> injection same

/-- An edit that leaves what stands under the key of the kind leaves the kind. -/
theorem namesKind_of_under {tag : Value} {members edited : List (String × Value)}
    (spared : under kindKey edited = under kindKey members)
    (named : NamesKind tag (.object members)) : NamesKind tag (.object edited) := by
  obtain ⟨_, same, has⟩ := named
  cases same
  refine ⟨edited, rfl, ?_⟩
  rw [has_equal, spared]
  exact has_equal.mp has

/-- No place is under the key of the kind, so only an edit of the node's own record can touch it. -/
theorem namesKind_update {outer inner : Form} (place : Place outer inner) {tag value : Value}
    {edit : List (String × Value) → List (String × Value)} (named : NamesKind tag value)
    (atTop : place.path = [] → ∀ members, under kindKey (edit members) = under kindKey members) :
    NamesKind tag (value.update place.path (.onMembers edit)) := by
  have apart : ∀ key rest, place.path = .member key :: rest → key ≠ kindKey := by
    cases place <;> simp [Place.path, kindKey]
  obtain ⟨members, rfl, has⟩ := named
  cases steps : place.path with
  | nil => exact namesKind_of_under (atTop steps members) ⟨members, rfl, has⟩
  | cons step rest =>
    cases step with
    | member key =>
      refine namesKind_of_under ?_ ⟨members, rfl, has⟩
      exact under_changing_other (Ne.symm (apart key rest steps))
    | item index => exact ⟨members, rfl, has⟩

/-- Reading a node after an edit of one of its records is reading that record after the edit. What goes
wrong with the record goes wrong with the node, under the node's kind. -/
theorem ofValue_update {value : Value} {node : Node} (read : ofValue value = .ok node) {form : Form}
    (place : Place node.form form) {members : List (String × Value)}
    (there : value.at? place.path = some (.object members)) :
    ∃ sorted record, form.decoder.ofValue (.object sorted) = .ok record ∧
      ∀ edit : List (String × Value) → List (String × Value),
        (∀ given, Value.canonicalMembers [] (edit given) = edit (Value.canonicalMembers [] given)) →
        (place.path = [] → ∀ given, under kindKey (edit given) = under kindKey given) →
        (∀ next, form.decoder.ofValue (.object (edit sorted)) = .ok (next record) →
          ofValue (value.update place.path (.onMembers edit)) = .ok (node.modify place next)) ∧
        ∀ cause, form.decoder.ofValue (.object (edit sorted)) = .error cause →
          ofValue (value.update place.path (.onMembers edit)) =
            .error (.contractViolation node.kind.tag cause.message) := by
  have named := (written_iff.mp (ofValue_eq_ok.mp read)).1
  have decoded := (written_of_kind named).mp (ofValue_eq_ok.mp read)
  rw [decoder_ofValue] at decoded
  obtain ⟨content, contentRead, same⟩ := map_eq_ok.mp decoded
  obtain rfl := eq_content_of_withContent same
  have sortedThere : value.canonical.at? place.path =
      some (.object (Value.canonicalMembers [] members)) := by
    rw [Value.at_canonical, there]
    rfl
  obtain ⟨record, recordRead, modifies, changes⟩ :=
    place.mirrors _ _ _ contentRead sortedThere (by simp)
  refine ⟨_, record, recordRead, fun edit sorts atTop => ?_⟩
  have sorted : (value.update place.path (.onMembers edit)).canonical =
      value.canonical.update place.path (.onMembers edit) :=
    Value.update_sortable (Value.onMembers_sortable sorts) _ _
  have stillNamed : NamesKind (.string node.kind.tag)
      (value.update place.path (.onMembers edit)).canonical := by
    rw [sorted]
    exact namesKind_update place named atTop
  have again := changes (.onMembers edit) (by simp [Value.onMembers])
  constructor
  · intro next edited
    rw [Value.onMembers, edited] at again
    rw [ofValue_of_kind stillNamed, sorted, decoder_ofValue, again, modify, modifies next]
    rfl
  · intro cause failed
    rw [Value.onMembers, failed] at again
    rw [ofValue_of_kind stillNamed, sorted, decoder_ofValue, again]
    rfl

/-- Absence and `null` are told apart in every record of a node. Without one of its required members
the record is refused, and the error names the node's kind and that member. A slot that becomes
`null` is empty in the node, and nothing else has changed. Another required member must not become
`null`. A parameter without a kind is read as the same parameter, but positional. -/
theorem absence_told_from_null (value : Value) (node : Node) (read : ofValue value = .ok node) :
    (∀ form (place : Place node.form form) members,
      value.at? place.path = some (.object members) →
      (∀ key ∈ form.required, ofValue (value.update place.path (.without key)) =
        .error (.contractViolation node.kind.tag ("missing field `" ++ key ++ "`"))) ∧
      (∀ slot ∈ form.slots, ofValue (value.update place.path (.replace slot.1 .null)) =
        .ok (node.modify place slot.2)) ∧
      ∀ key ∈ form.solids, ∃ detail, ofValue (value.update place.path (.replace key .null)) =
        .error (.contractViolation node.kind.tag detail)) ∧
    ∀ (place : Place node.form .parameter) members,
      value.at? place.path = some (.object members) →
      ofValue (value.update place.path (.without "kind")) =
        .ok (node.modify place fun parameter => parameter.withKind .positional) := by
  constructor
  · intro form place members there
    obtain ⟨sorted, record, recordRead, edits⟩ := ofValue_update read place there
    refine ⟨fun key required => ?_, fun slot listed => ?_, fun key listed => ?_⟩
    · obtain ⟨onNull, demands⟩ := Form.required_demanded required
      have apart := Form.ne_kind_of_required required
      exact (edits _ (Value.canonicalMembers_lacking key) fun _ _ =>
        under_lacking_other apart.symm).2 _ (demands _ record recordRead).1
    · have apart := Form.ne_kind_of_required (List.mem_append_left _ (List.mem_map_of_mem listed))
      exact (edits _ (Value.canonicalMembers_replacing rfl slot.1) fun _ _ =>
        under_changing_other apart.symm).1 slot.2 (form.slots_demanded slot listed _ record recordRead).2
    · obtain ⟨cause, demands⟩ := form.solids_demanded key listed
      have apart := Form.ne_kind_of_required (List.mem_append_right _ listed)
      exact ⟨_, (edits _ (Value.canonicalMembers_replacing rfl key) fun _ _ =>
        under_changing_other apart.symm).2 _ (demands _ record recordRead).2⟩
  · intro place members there
    obtain ⟨sorted, record, recordRead, edits⟩ := ofValue_update read place there
    obtain ⟨-, kind, -⟩ := Parameter.record_members
    refine (edits _ (Value.canonicalMembers_lacking "kind") fun top => ?_).1 _ (kind.gone recordRead)
    exact absurd (place.eq_of_path_nil top) node.form_ne_parameter

/-- A definition with hints at three depths. -/
def nested : Node :=
  .definition {
    position := ⟨1, 0⟩
    name := "f"
    parameters := {
      position := ⟨1, 6⟩
      parameters := [{ name := "a", position := ⟨1, 6⟩ },
        { name := "b", position := ⟨1, 9⟩, kind := .keywordOnly, hint := some ⟨"int", ⟨1, 12⟩⟩ }]
      star := some { name := "c", position := ⟨1, 18⟩ } }
    returns := some ⟨"str", ⟨1, 25⟩⟩ }

theorem absence_told_from_null_nested :
    ofValue (nested.toValue.update
        [.member "args", .member "params", .item 1, .member "annotation"] (.without "source")) =
      .error (.contractViolation "function_def" ("missing field `" ++ "source" ++ "`")) ∧
    ofValue (nested.toValue.update [.member "args", .member "params", .item 1]
        (.replace "annotation" .null)) =
      .ok (.definition ⟨⟨1, 0⟩, "f", ⟨⟨1, 6⟩, [⟨"a", ⟨1, 6⟩, .positional, none⟩,
        ⟨"b", ⟨1, 9⟩, .keywordOnly, none⟩], some ⟨"c", ⟨1, 18⟩, .positional, none⟩, none⟩,
        some ⟨"str", ⟨1, 25⟩⟩⟩) ∧
    (∃ detail, ofValue (nested.toValue.update [.member "returns"] (.replace "line" .null)) =
      .error (.contractViolation "function_def" detail)) ∧
    ofValue (nested.toValue.update [.member "args", .member "params", .item 1] (.without "kind")) =
      .ok (.definition ⟨⟨1, 0⟩, "f", ⟨⟨1, 6⟩, [⟨"a", ⟨1, 6⟩, .positional, none⟩,
        ⟨"b", ⟨1, 9⟩, .positional, some ⟨"int", ⟨1, 12⟩⟩⟩],
        some ⟨"c", ⟨1, 18⟩, .positional, none⟩, none⟩, some ⟨"str", ⟨1, 25⟩⟩⟩) := by
  obtain ⟨edits, kinds⟩ := absence_told_from_null nested.toValue nested nested.ofValue_toValue
  have hint := edits .hint (.parameters (.parameter 1 .hintOfParameter)) _ rfl
  have parameter := edits .parameter (.parameters (.parameter 1 .here)) _ rfl
  have returns := edits .hint .returns _ rfl
  refine ⟨?_, ?_, ?_, ?_⟩
  · exact hint.1 "source" (by decide)
  · exact parameter.2.1 ("annotation", fun parameter => { parameter with hint := none })
      (List.mem_singleton_self _)
  · exact returns.2.2 "line" (by decide)
  · exact kinds (.parameters (.parameter 1 .here)) _ rfl

end Node

end HintLint
