import HintLint.Proofs.Json.ReadBack
import HintLint.Proofs.Json.TextAndValue
import HintLint.Proofs.NodeShape

/-!
The routes from a text to a node. A node may be read by way of a sorted value, straight from the text
with the kind among the members, or as the record of a kind that is known already. All of them come
down to the value that the text holds, with its members as written: the straight routes ask whether it
has the form of a node or a record, the first asks the same of the sorted value. So the routes differ
only where a key is repeated or where the kind of a parameter is not written as a string.
-/

namespace HintLint

open Json

/-- The kind of the parameter is written as a string, if it is written. -/
def Parameter.PlainKind : Value → Prop := Value.Under "kind" fun kind => ∃ name, kind = .string name

/-- The kinds of all parameters are written as strings. -/
def ParameterList.PlainKinds (value : Value) : Prop :=
  value.Under "params" (Value.Each Parameter.PlainKind) ∧
    value.Under "vararg" Parameter.PlainKind ∧ value.Under "kwarg" Parameter.PlainKind

theorem Hint.agrees : AgreesAlways decoder := by
  refine (Record.agrees (fun _ _ => True) ?_).weaken fun _ _ _ _ _ _ => trivial
  simp only [record, List.forall_mem_cons, Field.of]
  exact ⟨Agrees.string.map _, by simp⟩

theorem Parameter.agrees : Agrees decoder PlainKind := by
  refine Record.agrees (fun key value => key = "kind" → ∃ name, value = .string name) ?_
  simp only [record, List.forall_mem_cons, Field.of]
  exact ⟨(Agrees.string.map _).weaken fun _ _ => trivial,
    ((Agrees.name _).map _).weaken fun _ plain => plain trivial,
    (Hint.agrees.nullable.map _).weaken fun _ _ => trivial, by simp⟩

theorem ParameterList.agrees : Agrees decoder PlainKinds := by
  refine (Record.agrees (fun key value =>
    (key = "params" → value.Each Parameter.PlainKind) ∧
      (key = "vararg" → Parameter.PlainKind value) ∧
      (key = "kwarg" → Parameter.PlainKind value)) ?_).weaken ?_
  · simp only [record, List.forall_mem_cons, Field.of]
    exact ⟨(Parameter.agrees.list.map _).weaken fun _ plain => plain.1 trivial,
      (Parameter.agrees.nullable.map _).weaken fun _ plain => plain.2.1 trivial,
      (Parameter.agrees.nullable.map _).weaken fun _ plain => plain.2.2 trivial, by simp⟩
  · rintro value ⟨parameters, star, doubleStar⟩ members same member listed
    exact ⟨parameters members same member listed, star members same member listed,
      doubleStar members same member listed⟩

theorem AnnotatedAssignment.agrees : AgreesAlways record.decoder := by
  refine (Record.agrees (fun _ _ => True) ?_).weaken fun _ _ _ _ _ _ => trivial
  simp only [record, List.forall_mem_cons, Field.of]
  exact ⟨Agrees.string.map _, Hint.agrees.nullable.map _, by simp⟩

theorem Assignment.agrees : AgreesAlways record.decoder := by
  refine (Record.agrees (fun _ _ => True) ?_).weaken fun _ _ _ _ _ _ => trivial
  simp only [record, List.forall_mem_cons, Field.of]
  exact ⟨(Agrees.string.list.map _).weaken fun _ _ _ _ _ _ => trivial,
    Hint.agrees.nullable.map _, by simp⟩

theorem Definition.agrees :
    Agrees record.decoder (Value.Under "args" ParameterList.PlainKinds) := by
  refine Record.agrees (fun key value => key = "args" → ParameterList.PlainKinds value) ?_
  simp only [record, List.forall_mem_cons, Field.of]
  exact ⟨(Agrees.string.map _).weaken fun _ _ => trivial,
    (ParameterList.agrees.map _).weaken fun _ plain => plain trivial,
    (Hint.agrees.nullable.map _).weaken fun _ _ => trivial, by simp⟩

namespace Node

/-- The kinds of all parameters in a record of the kind are written as strings. -/
def Kind.PlainParameters : Kind → Value → Prop
  | parameters => ParameterList.PlainKinds
  | annotatedAssignment | assignment => fun _ => True
  | definition | asyncDefinition => Value.Under "args" ParameterList.PlainKinds

theorem Kind.content_agrees (kind : Kind) : Agrees kind.content kind.PlainParameters := by
  cases kind with
  | parameters => exact ParameterList.agrees
  | annotatedAssignment => exact AnnotatedAssignment.agrees
  | assignment => exact Assignment.agrees
  | definition => exact Definition.agrees
  | asyncDefinition => exact Definition.agrees

theorem Kind.tagDecoder_reads : Reads Kind.tagDecoder fun kind value => value = .string kind.tag := by
  intro value kind
  cases value with
  | string name =>
    have resolved : resolve names name = .ok kind ↔ ofTag? name = some kind := by
      rw [resolve, ofTag?]
      cases names.lookup name <;> simp
    refine resolved.trans ?_
    simp only [ofTag_eq_some, Value.string.injEq]
  | _ => simp [tagDecoder, Decoder.scalar]

theorem Kind.tagDecoder_agrees : AgreesAlways Kind.tagDecoder :=
  .scalar (fun _ _ other => nomatch other) (fun _ _ other => nomatch other)

theorem tagged_filled : tagged.Filled [⟨kindKey, Kind.tagDecoder, id⟩] where
  own := by
    simp only [List.forall_mem_cons, List.not_mem_nil, false_implies, implies_true, and_true]
    exact ⟨_, rfl, fun _ _ => rfl, by simp⟩
  only := by simp [tagged, Field.of]
  empty := by simp [tagged]
  ext := by
    intro kind other same
    simpa using same

theorem tagged_ofMembers_eq_ok {members : List (String × Value)} {kind : Kind} {value : Value} :
    tagged.ofMembers members = .ok (kind, value) ↔
      Has kindKey (· = .string kind.tag) members ∧ value = .object (tagged.unasked members) := by
  rw [tagged_filled.ofMembers_eq_ok]
  constructor
  · rintro ⟨draft, held, finished⟩
    simp only [List.forall_mem_singleton, Cell.Held, id] at held
    simp only [tagged, bind_eq_ok, pure_eq_ok, required_eq_ok] at finished
    obtain ⟨_, rfl, same⟩ := finished
    obtain ⟨rfl, rfl⟩ := Prod.mk.inj same
    exact ⟨Kind.tagDecoder_reads.holds.mp held, rfl⟩
  · rintro ⟨named, rfl⟩
    refine ⟨some kind, ?_, rfl⟩
    simp only [List.forall_mem_singleton, Cell.Held, id]
    exact Kind.tagDecoder_reads.holds.mpr named

/-- No record has a part under the key of the kind. -/
theorem in_unasked {node : Node} {members : List (String × Value)} :
    node.In (tagged.unasked members) ↔ node.In members := by
  have apart : ∀ {key : String}, "kind" ≠ key → ∀ shape,
      (Has key shape (tagged.unasked members) ↔ Has key shape members) := by
    intro key different shape
    exact has_unasked (by simp [tagged, findField?, Field.of, kindKey, different])
  cases node with
  | parameters list => simp [In, ParameterList.In, Position.In, apart]
  | annotatedAssignment statement => simp [In, AnnotatedAssignment.In, Position.In, apart]
  | assignment statement => simp [In, Assignment.In, Position.In, apart]
  | definition statement => simp [In, Definition.In, Position.In, apart]
  | asyncDefinition statement => simp [In, Definition.In, Position.In, apart]

/-- A node written as a list leaves no record, only a list of its parts. -/
theorem readListed_array {levels : Nat} {text rest : Unread} {kind : Kind} {value : Value}
    (ran : readListed levels text = .ok ((kind, value), rest)) : ∃ items, value = .array items := by
  obtain ⟨⟨more, start⟩, -, ran⟩ := bind_eq_ok.mp ran
  cases more with
  | false => cases ran
  | true =>
    obtain ⟨⟨found, afterKind⟩, -, ran⟩ := bind_eq_ok.mp ran
    obtain ⟨⟨items, after⟩, -, ran⟩ := bind_eq_ok.mp ran
    cases ran
    exact ⟨items, rfl⟩

/-- Only an object leaves something that may be a record, and it is read like a record with the one
field for the kind. -/
theorem readTagged_object {levels : Nat} {text rest : Unread} {kind : Kind}
    {kept : List (String × Value)} :
    readTagged levels text = .ok ((kind, .object kept), rest) ↔
      tagged.decoder.read levels text = .ok ((kind, .object kept), rest) := by
  simp only [readTagged, Record.decoder]
  split
  · rename_i tail starts
    constructor
    · intro ran
      cases levels with
      | zero => cases ran
      | succ levels =>
        obtain ⟨before, body, -⟩ := enclosed_eq_ok.mp ran
        obtain ⟨items, same⟩ := readListed_array body
        cases same
    · intro ran
      simp [starts] at ran
  · rename_i tail starts
    simp only [starts]
  · rename_i notList notObject
    constructor
    · intro ran
      cases ran
    · intro ran
      split at ran
      · rename_i tail starts
        exact absurd starts (notObject tail)
      · cases ran

theorem tagged_agrees : AgreesAlways tagged.decoder := by
  refine (Record.agrees (fun _ _ => True) ?_).weaken fun _ _ _ _ _ _ => trivial
  simp only [tagged, List.forall_mem_singleton, Field.of]
  exact Kind.tagDecoder_agrees.map _

/-- The straight route finds a node in a text that holds a value of the form of that node. -/
theorem read_eq_ok {levels : Nat} {text rest : Unread} {node : Node} :
    read levels text = .ok (node, rest) ↔
      ∃ value, any levels text = .ok (value, rest) ∧ node.Written value := by
  rw [read, bind_eq_ok]
  constructor
  · rintro ⟨⟨⟨kind, record⟩, after⟩, tag, ran⟩
    obtain ⟨found, decoded, ran⟩ := bind_eq_ok.mp ran
    obtain ⟨rfl, rfl⟩ := Prod.mk.inj (pure_eq_ok.mp ran)
    obtain ⟨rfl, kept, rfl, within⟩ := (kind.reads record _).mp (atEnd_eq_ok.mp decoded)
    obtain ⟨value, valueRead, taken⟩ := tagged_agrees.sound (readTagged_object.mp tag)
    cases value with
    | object members =>
      obtain ⟨named, same⟩ := tagged_ofMembers_eq_ok.mp taken
      cases same
      exact ⟨_, valueRead, members, rfl, named, in_unasked.mp within⟩
    | _ => cases taken
  · rintro ⟨value, valueRead, members, rfl, named, within⟩
    have tag := readTagged_object.mpr
      (tagged_agrees.complete valueRead trivial (tagged_ofMembers_eq_ok.mpr ⟨named, rfl⟩))
    have decoded : node.kind.decoder.ofValue (.object (tagged.unasked members)) = .ok node :=
      (node.kind.reads _ _).mpr ⟨rfl, _, rfl, in_unasked.mpr within⟩
    exact ⟨_, tag, bind_eq_ok.mpr ⟨node, atEnd_eq_ok.mpr decoded, rfl⟩⟩

theorem parse_read_eq_ok {text : String} {node : Node} :
    Reader.parse read text = .ok node ↔
      ∃ value, Value.parse text = .ok value ∧ node.Written value := by
  simp only [Reader.parse, Value.parse, parse_eq_ok, read_eq_ok]
  constructor
  · rintro ⟨rest, ⟨value, valueRead, written⟩, ended⟩
    exact ⟨value, ⟨rest, valueRead, ended⟩, written⟩
  · rintro ⟨value, ⟨rest, valueRead, ended⟩, written⟩
    exact ⟨rest, ⟨value, valueRead, written⟩, ended⟩

theorem ofText_eq_ok {text : String} {node : Node} :
    ofText text = .ok node ↔
      ∃ value, Value.parse text = .ok value ∧ node.Written value.canonical := by
  rw [ofText]
  cases Value.parse text with
  | error error => simp
  | ok value => simp [ofValue_eq_ok]

/-- The value is an object, and its last member under the key of the kind names the kind. -/
def Kind.NamedLast (kind : Kind) : Value → Prop :=
  ObjectOf fun members => (under kindKey members).getLast? = some (.string kind.tag)

/-- The last of several kinds is the one that sorting leaves. -/
theorem written_of_namedLast {kind : Kind} {value : Value} {node : Node}
    (last : kind.NamedLast value) (same : node.kind = kind) (within : ObjectOf node.In value) :
    node.Written value.canonical := by
  obtain ⟨members, rfl, last⟩ := last
  obtain ⟨_, equal, within⟩ := within
  cases equal
  refine ⟨_, rfl, has_equal.mpr ?_, node.in_orderless.kept within⟩
  rw [Value.under_canonical, last, same]
  rfl

/-- The routes agree. What the straight route finds is found by way of a sorted value; what a record's
own route finds is, too, if the last kind in the text is that of the record. Back again the text must
not repeat a key in any object, and for a record's own route the kinds of parameters must be strings. -/
theorem decoding_routes_agree (text : String) :
    (∀ node, Reader.parse read text = .ok node → ofText text = .ok node) ∧
    (∀ node value, Value.parse text = .ok value → value.distinctKeys →
      ofText text = .ok node → Reader.parse read text = .ok node) ∧
    (∀ kind content value, Value.parse text = .ok value → Kind.NamedLast kind value →
      kind.content.parse text = .ok content → ofText text = .ok (kind.node content)) ∧
    ∀ kind content value, Value.parse text = .ok value → value.distinctKeys →
      Kind.PlainParameters kind value → ofText text = .ok (kind.node content) →
        kind.content.parse text = .ok content := by
  refine ⟨?_, ?_, ?_, ?_⟩
  · intro node read
    obtain ⟨value, parsed, written⟩ := parse_read_eq_ok.mp read
    exact ofText_eq_ok.mpr ⟨value, parsed, node.written_orderless.kept written⟩
  · intro node value parsed distinct read
    obtain ⟨same, again, written⟩ := ofText_eq_ok.mp read
    cases parsed.symm.trans again
    exact parse_read_eq_ok.mpr ⟨value, parsed, node.written_orderless.reflected distinct written⟩
  · intro kind content value parsed last direct
    obtain ⟨same, again, decoded⟩ := kind.content_agrees.parse_sound direct
    cases parsed.symm.trans again
    have within := (kind.content_reads value content).mp decoded
    exact ofText_eq_ok.mpr
      ⟨value, parsed, written_of_namedLast last (kind.kind_node content) within⟩
  · intro kind content value parsed distinct plain read
    obtain ⟨same, again, written⟩ := ofText_eq_ok.mp read
    cases parsed.symm.trans again
    have within := (written_iff.mp ((written_orderless _).reflected distinct written)).2
    exact kind.content_agrees.parse_complete parsed plain
      ((kind.content_reads value content).mpr within)

/-- A parameter list whose kind comes after a parameter with a kind of its own. -/
def kindInside : Value :=
  .object [("line", .ofWord 1), ("col", .ofWord 5),
    ("params", .array [.object [("kind", .string "keyword_only"), ("name", .string "x"),
      ("line", .ofWord 1), ("col", .ofWord 9), ("annotation", .null)]]),
    ("kind", .string "arguments"), ("vararg", .null), ("kwarg", .null)]

theorem decoding_routes_agree_kindInside :
    ofText kindInside.toText =
      .ok (.parameters ⟨⟨1, 5⟩, [⟨"x", ⟨1, 9⟩, .keywordOnly, none⟩], none, none⟩) ∧
    Reader.parse read kindInside.toText =
      .ok (.parameters ⟨⟨1, 5⟩, [⟨"x", ⟨1, 9⟩, .keywordOnly, none⟩], none, none⟩) ∧
    Kind.parameters.content.parse kindInside.toText =
      .ok ⟨⟨1, 5⟩, [⟨"x", ⟨1, 9⟩, .keywordOnly, none⟩], none, none⟩ := by
  have parsed : Value.parse kindInside.toText = .ok kindInside :=
    parse_toText (by simp [kindInside, nestingLimit, Value.Legible, Value.ofWord, Number.Legible,
      greatestNegated])
  have plain : Kind.parameters.PlainParameters kindInside := by
    simp only [kindInside, Kind.PlainParameters, ParameterList.PlainKinds, Parameter.PlainKind,
      Value.under_object, List.forall_mem_cons]
    simp
  have named : NamesKind (.string Kind.parameters.tag) kindInside := ⟨_, rfl, has_equal.mpr rfl⟩
  have written := (written_of_kind named).mpr rfl
  obtain ⟨buffered, straight, ofRecord, toRecord⟩ := decoding_routes_agree kindInside.toText
  have read := buffered _ (parse_read_eq_ok.mpr ⟨_, parsed, written⟩)
  have record := toRecord .parameters _ _ parsed rfl plain read
  exact ⟨ofRecord .parameters _ _ parsed ⟨_, rfl, rfl⟩ record, straight _ _ parsed rfl read, record⟩

end Node

end HintLint
