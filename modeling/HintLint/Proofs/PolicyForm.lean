import HintLint.Proofs.Json.PlainForm
import HintLint.Proofs.PolicyRoundTrip

/-!
The form of policies. A policy is read from an object or from a list of at most two elements; its
parts may be left out and are then empty, and other members are passed over. The disabled keys are a
list of strings, of which order and repetition are lost. The lines are an object of lists of spans,
each an object or a list of its two ends. Nothing else is read as a policy, and `null` stands for no
part of one.
-/

namespace HintLint

open Json

namespace Json.Value

/-- The elements of a list. -/
def items : Value → List Value
  | .array items => items
  | _ => []

/-- The values of the members of an object. -/
def memberValues : Value → List Value
  | .object members => members.map Prod.snd
  | _ => []

theorem mem_items {test : Value → Bool} {value item : Value} (tested : value.isListOf test = true)
    (listed : item ∈ value.items) : test item = true := by
  cases value with
  | array items => exact List.all_eq_true.mp tested item listed
  | _ => cases listed

theorem mem_memberValues {test : Value → Bool} {value item : Value}
    (tested : value.isMapOf test = true) (listed : item ∈ value.memberValues) : test item = true := by
  cases value with
  | object members =>
    obtain ⟨member, among, rfl⟩ := List.mem_map.mp listed
    exact List.all_eq_true.mp tested member among
  | _ => cases listed

end Json.Value

namespace LineSpan

/-- Whether a value has the form of a span. -/
def fits (value : Value) : Bool :=
  value.isPair && (value.part? "start" 0).any Value.isWord && (value.part? "end" 1).any Value.isWord

/-- The parts of the value are the ends of the span. -/
def In (span : LineSpan) (value : Value) : Prop :=
  value.part? "start" 0 = some (.ofWord span.start) ∧ value.part? "end" 1 = some (.ofWord span.stop)

theorem In.unique {first second : LineSpan} {value : Value} (one : first.In value)
    (other : second.In value) : first = second := by
  obtain ⟨start, stop⟩ := first
  obtain ⟨otherStart, otherStop⟩ := second
  cases Value.ofWord_injective (Option.some.inj (one.1.symm.trans other.1))
  cases Value.ofWord_injective (Option.some.inj (one.2.symm.trans other.2))
  rfl

theorem Written.parts {span : LineSpan} {value : Value} (written : span.Written value)
    (distinct : value.distinctKeys = true) : span.In value := by
  obtain ⟨-, start, stop⟩ := (pairOf_iff distinct).mp written
  rcases Part.given_iff.mp start with ⟨_, startFound, rfl⟩ | ⟨-, substituted⟩
  · rcases Part.given_iff.mp stop with ⟨_, stopFound, rfl⟩ | ⟨-, substituted⟩
    · exact ⟨startFound, stopFound⟩
    · cases substituted
  · cases substituted

theorem decidedBy_fits : DecidedBy Written fits := by
  have needed : ∀ found : Option Value, found.elim false Value.isWord = found.any Value.isWord := by
    intro found
    cases found <;> rfl
  have ends : DecidedBy (PairOf startPart stopPart _ _) _ := DecidedBy.word.pair DecidedBy.word
  intro value distinct
  rw [fits, ← needed, ← needed]
  refine Iff.trans ?_ (ends value distinct)
  constructor
  · rintro ⟨span, written⟩
    exact ⟨(span.start, span.stop), written⟩
  · rintro ⟨pair, written⟩
    exact ⟨⟨pair.1, pair.2⟩, written⟩

end LineSpan

namespace Policy

/-- Whether a value has the form of a policy. -/
def fits (value : Value) : Bool :=
  value.isPair && (value.part? "disabled" 0).all (Value.isListOf Value.isString) &&
    (value.part? "disabled_lines" 1).all (Value.isMapOf (Value.isListOf LineSpan.fits))

/-- A value for a policy and all that is looked at in it: the parts, the elements of the lists, the
values of the members, and the ends of the spans. -/
def lookedAt (value : Value) : List Value :=
  let keys := (value.part? "disabled" 0).toList
  let lines := (value.part? "disabled_lines" 1).toList
  let spanLists := lines.flatMap Value.memberValues
  let spans := spanLists.flatMap Value.items
  value :: keys ++ keys.flatMap Value.items ++ lines ++ spanLists ++ spans ++
    spans.flatMap fun span => (span.part? "start" 0).toList ++ (span.part? "end" 1).toList

/-- The policy is what the parts of the value say: the set of the listed keys, and under each given
key the spans in the order of the list. A part that is left out is empty. -/
structure ReadOff (policy : Policy) (value : Value) : Prop where
  disabled : ∀ key, key ∈ policy.disabled.keys ↔
    ∃ items, value.part? "disabled" 0 = some (.array items) ∧ .string key ∈ items
  lineKeys : ∀ key, key ∈ policy.disabledLines.keys ↔
    ∃ members, value.part? "disabled_lines" 1 = some (.object members) ∧ key ∈ members.map Prod.fst
  spans : ∀ key spans, policy.disabledLines.get? key = some spans ↔
    ∃ members items, value.part? "disabled_lines" 1 = some (.object members) ∧
      (key, .array items) ∈ members ∧
      List.Forall₂ (fun item span => LineSpan.In span item) items spans
  noKeys : value.part? "disabled" 0 = none → policy.disabled = ∅
  noLines : value.part? "disabled_lines" 1 = none → policy.disabledLines = ∅

theorem decidedBy_fits : DecidedBy Written fits := by
  have optional : ∀ (test : Value → Bool) (found : Option Value),
      found.elim true test = found.all test := by
    intro test found
    cases found <;> rfl
  have parts : DecidedBy (PairOf disabledPart disabledLinesPart _ _) _ :=
    DecidedBy.string.list.pair LineSpan.decidedBy_fits.list.keyMap
  intro value distinct
  rw [fits, ← optional, ← optional]
  refine Iff.trans ?_ (parts value distinct)
  constructor
  · rintro ⟨policy, keys, -, written⟩
    exact ⟨_, written⟩
  · rintro ⟨pair, written⟩
    exact ⟨⟨.ofKeys pair.1, pair.2⟩, pair.1, rfl, written⟩

/-- The keys that a given part lists. -/
theorem mem_of_given {keys : List String} {found : Option Value} {key : String}
    (given : disabledPart.Given (ListOf fun text value => value = .string text) keys found) :
    key ∈ keys ↔ ∃ items, found = some (.array items) ∧ .string key ∈ items := by
  rcases Part.given_iff.mp given with ⟨_, rfl, items, rfl, listed⟩ | ⟨rfl, substituted⟩
  · have same : items = keys.map .string := by
      rw [← List.forall₂_eq_eq_eq, List.forall₂_map_right_iff]
      exact listed
    simp [same]
  · cases substituted
    simp

section Lines

variable {map : KeyMap (List LineSpan)} {found : Option Value}

/-- The lists of spans that a given part has under its keys. -/
theorem get_of_given (given : disabledLinesPart.Given (MapOf (ListOf LineSpan.Written)) map found)
    (distinct : ∀ value, found = some value → value.distinctKeys = true) (key : String)
    (spans : List LineSpan) :
    map.get? key = some spans ↔ ∃ members items, found = some (.object members) ∧
      (key, .array items) ∈ members ∧
      List.Forall₂ (fun item span => LineSpan.In span item) items spans := by
  rcases Part.given_iff.mp given with ⟨_, rfl, mapped⟩ | ⟨rfl, substituted⟩
  · obtain ⟨members, _, rfl, -⟩ := id mapped
    obtain ⟨unrepeated, inner⟩ := Value.distinctKeys_object.mp (distinct _ rfl)
    obtain ⟨keys, held⟩ := (mapOf_iff unrepeated).mp mapped
    -- What the map has under the key of a member is a list of spans, and the only one for its value.
    have listed : ∀ member ∈ members, ∃ items found, member.2 = .array items ∧
        map.get? member.1 = some found ∧
        List.Forall₂ (fun item span => LineSpan.In span item) items found := by
      intro member among
      obtain ⟨found, under, items, same, written⟩ := held member among
      have each : ∀ item ∈ items, item.distinctKeys = true := by
        have whole := inner member among
        rw [same] at whole
        exact Value.distinctKeys_array.mp whole
      refine ⟨items, found, same, under, ?_⟩
      refine ((List.forall₂_and_left items found).mpr ⟨each, written⟩).imp ?_
      rintro item span ⟨distinct, written⟩
      exact written.parts distinct
    constructor
    · intro under
      have known : key ∈ members.map Prod.fst := by
        rw [← keys, KeyMap.mem_keys]
        exact ⟨spans, under⟩
      obtain ⟨⟨name, value⟩, among, rfl⟩ := List.mem_map.mp known
      obtain ⟨items, found, rfl, same, parts⟩ := listed _ among
      cases same.symm.trans under
      exact ⟨members, items, rfl, among, parts⟩
    · rintro ⟨_, items, same, among, parts⟩
      cases same
      obtain ⟨_, found, same, under, others⟩ := listed _ among
      cases same
      have unique : Relator.RightUnique fun (item : Value) span => LineSpan.In span item :=
        fun _ _ _ => LineSpan.In.unique
      rw [under, unique.forall₂ others parts]
  · cases substituted
    simp

theorem mem_keys_of_given
    (given : disabledLinesPart.Given (MapOf (ListOf LineSpan.Written)) map found)
    (distinct : ∀ value, found = some value → value.distinctKeys = true) (key : String) :
    key ∈ map.keys ↔ ∃ members, found = some (.object members) ∧ key ∈ members.map Prod.fst := by
  rcases Part.given_iff.mp given with ⟨_, rfl, mapped⟩ | ⟨rfl, substituted⟩
  · obtain ⟨members, _, rfl, -⟩ := id mapped
    have unrepeated := (Value.distinctKeys_object.mp (distinct _ rfl)).1
    rw [((mapOf_iff unrepeated).mp mapped).1]
    simp
  · cases substituted
    simp [KeyMap.mem_keys]

end Lines

theorem Written.readOff {policy : Policy} {value : Value} (written : policy.Written value)
    (distinct : value.distinctKeys = true) : policy.ReadOff value := by
  obtain ⟨keys, same, written⟩ := written
  obtain ⟨-, givenKeys, givenLines⟩ := (pairOf_iff distinct).mp written
  have inner : ∀ found, value.part? "disabled_lines" 1 = some found → found.distinctKeys = true :=
    fun _ => Value.distinctKeys_part distinct
  have disabled : ∀ key, key ∈ policy.disabled.keys ↔
      ∃ items, value.part? "disabled" 0 = some (.array items) ∧ .string key ∈ items := by
    intro key
    rw [same, KeySet.mem_ofKeys]
    exact mem_of_given givenKeys
  refine ⟨disabled, mem_keys_of_given givenLines inner, get_of_given givenLines inner, ?_, ?_⟩
  · intro absent
    rcases Part.given_iff.mp givenKeys with ⟨_, found, -⟩ | ⟨-, substituted⟩
    · cases absent.symm.trans found
    · cases substituted
      exact same
  · intro absent
    rcases Part.given_iff.mp givenLines with ⟨_, found, -⟩ | ⟨-, substituted⟩
    · cases absent.symm.trans found
    · exact (Option.some.inj substituted).symm

theorem ReadOff.unique {first second : Policy} {value : Value} (one : first.ReadOff value)
    (other : second.ReadOff value) : first = second := by
  have disabled : first.disabled = second.disabled := by
    apply KeySet.ext_keys
    intro key
    rw [one.disabled, other.disabled]
  have lines : first.disabledLines = second.disabledLines := by
    apply KeyMap.get?_ext
    intro key
    apply Option.ext
    intro spans
    rw [one.spans, other.spans]
  cases first
  cases second
  cases disabled
  cases lines
  rfl

/-- Where the form is that of a policy, nothing that is looked at is `null`. -/
theorem null_not_lookedAt {value : Value} (fitting : fits value = true) : .null ∉ lookedAt value := by
  simp only [fits, Bool.and_eq_true, Option.all_eq_true] at fitting
  obtain ⟨⟨isPair, keysFit⟩, linesFit⟩ := fitting
  have spanLists : ∀ lines, value.part? "disabled_lines" 1 = some lines →
      ∀ spans ∈ lines.memberValues, spans.isListOf LineSpan.fits = true :=
    fun lines found spans => Value.mem_memberValues (linesFit lines found)
  have spans : ∀ lines, value.part? "disabled_lines" 1 = some lines →
      ∀ spans ∈ lines.memberValues, ∀ span ∈ spans.items, LineSpan.fits span = true :=
    fun lines found spans listed span => Value.mem_items (spanLists lines found spans listed)
  simp only [lookedAt, List.mem_append, List.mem_cons, Option.mem_toList, List.mem_flatMap]
  rintro ((((((rfl | found) | ⟨keys, found, listed⟩) | found) | ⟨lines, found, listed⟩) |
    ⟨list, ⟨lines, found, among⟩, listed⟩) | ⟨span, ⟨list, ⟨lines, found, among⟩, listed⟩, ends⟩)
  · cases isPair
  · cases keysFit _ found
  · cases Value.mem_items (keysFit keys found) listed
  · cases linesFit _ found
  · cases spanLists lines found _ listed
  · cases spans lines found list among _ listed
  · have fitting := spans lines found list among span listed
    simp only [LineSpan.fits, Bool.and_eq_true, Option.any_eq_true] at fitting
    obtain ⟨⟨-, start, startFound, startFits⟩, stop, stopFound, stopFits⟩ := fitting
    rcases ends with isStart | isStop
    · cases startFound.symm.trans isStart
      cases startFits
    · cases stopFound.symm.trans isStop
      cases stopFits

/-- A text whose value repeats no key is read as a policy exactly if the value has the form of one, and
then as the one policy that is read off its parts. Where `null` stands for anything that is looked at,
no policy is read. -/
theorem parse_decides_form (text : String) (value : Value) (parsed : Value.parse text = .ok value)
    (distinct : value.distinctKeys = true) :
    ((∃ policy, parse text = .ok policy) ↔ fits value = true) ∧
    (∀ policy, parse text = .ok policy ↔ fits value = true ∧ policy.ReadOff value) ∧
    (.null ∈ lookedAt value → ∀ policy, parse text ≠ .ok policy) := by
  have read : ∀ policy, parse text = .ok policy ↔ policy.Written value := finds.parse_iff parsed
  have accepted : (∃ policy, parse text = .ok policy) ↔ fits value = true := by
    simp only [read]
    exact decidedBy_fits value distinct
  refine ⟨accepted, fun policy => ⟨fun taken => ?_, ?_⟩, fun null policy taken => ?_⟩
  · exact ⟨accepted.mp ⟨policy, taken⟩, ((read policy).mp taken).readOff distinct⟩
  · rintro ⟨fitting, readOff⟩
    obtain ⟨found, taken⟩ := accepted.mpr fitting
    rw [readOff.unique (((read found).mp taken).readOff distinct)]
    exact taken
  · exact null_not_lookedAt (accepted.mp ⟨policy, taken⟩) null

/-- A policy as a list, with a repeated key, and with spans in both forms. -/
def bothForms : Value :=
  .array [.array [.string "b", .string "b", .string "a"],
    .object [("E3107", .array [.array [.ofWord 1, .ofWord 4294967295],
      .object [("end", .ofWord 3), ("note", .null), ("start", .ofWord 9)]])]]

theorem parse_decides_form_bothForms :
    ∃ policy, parse bothForms.toText = .ok policy ∧
      (∀ key, key ∈ policy.disabled.keys ↔ key = "b" ∨ key = "a") ∧
      policy.disabledLines.get? "E3107" = some [⟨1, 4294967295⟩, ⟨9, 3⟩] := by
  have parsed : Value.parse bothForms.toText = .ok bothForms :=
    Json.parse_toText (by simp [bothForms, nestingLimit, Value.Legible, Value.ofWord, Number.Legible,
      greatestNegated])
  obtain ⟨accepted, read, -⟩ := parse_decides_form bothForms.toText bothForms parsed rfl
  obtain ⟨policy, taken⟩ := accepted.mpr (by decide +kernel)
  obtain ⟨-, readOff⟩ := (read policy).mp taken
  refine ⟨policy, taken, fun key => ?_, ?_⟩
  · rw [readOff.disabled]
    simp [bothForms, Value.part?]
  · rw [readOff.spans]
    simp [bothForms, LineSpan.In, Value.part?, List.lookup_cons]

end Policy

end HintLint
