import HintLint.Proofs.Json.PlainForm
import HintLint.Proofs.PolicyRoundTrip

/-!
What validation finds. Of all inverted spans of a policy one comes first: the one under the key whose
bytes come first, and among those under the key the one that is listed first. `validate` names that
span, and accepts a policy that has none. Reading with validation gives the errors of both steps, each
in its turn. The text has no part in the choice: a policy is refused for the same span from whatever
text it was read, and texts that differ in the order of members are read as the same policy.
-/

namespace HintLint

open Json

theorem LineSpan.written_orderless (span : LineSpan) : Orderless span.Written :=
  Orderless.pair (fun _ => .word _) (fun _ => .word _) _

/-- A span that is not inverted holds both its ends. -/
theorem LineSpan.contains_ends {span : LineSpan} (upright : span.start ≤ span.stop) :
    span.contains span.start = true ∧ span.contains span.stop = true :=
  ⟨contains_iff.mpr ⟨UInt32.le_refl _, upright⟩, contains_iff.mpr ⟨upright, UInt32.le_refl _⟩⟩

namespace Policy

/-- The span at an index under a key is inverted, and every inverted span under whatever key is this
one or comes after it, by the bytes of its key and then by its place in the list. -/
structure FirstInverted (policy : Policy) (key : String) (index : Nat) (span : LineSpan) : Prop where
  listed : (policy.spansOf key)[index]? = some span
  inverted : span.stop < span.start
  first : ∀ other place later, (policy.spansOf other)[place]? = some later →
    later.stop < later.start → BytesBefore key other ∨ other = key ∧ index ≤ place

theorem FirstInverted.unique {policy : Policy} {key other : String} {index place : Nat}
    {span later : LineSpan} (one : policy.FirstInverted key index span)
    (another : policy.FirstInverted other place later) : key = other ∧ span = later := by
  have ahead := one.first other place later another.listed another.inverted
  have behind := another.first key index span one.listed one.inverted
  rcases ahead with before | ⟨rfl, atMost⟩
  · rcases behind with after | ⟨rfl, -⟩
    · exact absurd after (List.lt_asymm before)
    · exact absurd before (List.lt_irrefl _)
  · rcases behind with after | ⟨-, atLeast⟩
    · exact absurd after (List.lt_irrefl _)
    · obtain rfl : index = place := Nat.le_antisymm atMost atLeast
      exact ⟨rfl, Option.some.inj (one.listed.symm.trans another.listed)⟩

theorem spansOf_of_mem {policy : Policy} {key : String} {spans : List LineSpan}
    (listed : (key, spans) ∈ policy.disabledLines.entries) : policy.spansOf key = spans := by
  rw [spansOf, KeyMap.mem_entries.mp listed, Option.getD_some]

/-- The span that the search stops at is the first inverted one. -/
theorem firstInverted_of_found {policy : Policy} {key : String} {span : LineSpan}
    (found : policy.firstInverted? = some (key, span)) :
    ∃ index, policy.FirstInverted key index span := by
  obtain ⟨before, ⟨name, spans⟩, after, split, here, nowhere⟩ := List.findSome?_eq_some_iff.mp found
  obtain ⟨chosen, search, same⟩ := Option.map_eq_some_iff.mp here
  obtain ⟨rfl, rfl⟩ := Prod.mk.inj same
  obtain ⟨inverted, index, bound, atIndex, earlier⟩ := List.find?_eq_some_iff_getElem.mp search
  have entry : (name, spans) ∈ policy.disabledLines.entries := by
    rw [split]
    simp
  have increasing := policy.disabledLines.increasing
  rw [split] at increasing
  refine ⟨index, ?_, LineSpan.inverted_iff.mp inverted, ?_⟩
  · rw [spansOf_of_mem entry, ← atIndex]
    exact List.getElem?_eq_getElem bound
  · intro other place later listed reversed
    have isInverted := LineSpan.inverted_iff.mpr reversed
    obtain ⟨others, otherEntry, within⟩ := mem_spansOf.mp (List.mem_of_getElem? listed)
    rw [split] at otherEntry
    -- The key of the later span is one of those passed over, the same one, or one further on.
    rcases List.mem_append.mp otherEntry with passed | further
    · have none := Option.map_eq_none_iff.mp (nowhere _ passed)
      exact absurd isInverted (List.find?_eq_none.mp none later within)
    · rcases List.mem_cons.mp further with same | further
      · cases same
        rw [spansOf_of_mem entry] at listed
        refine .inr ⟨rfl, Nat.le_of_not_lt fun less => ?_⟩
        obtain ⟨_, atPlace⟩ := List.getElem?_eq_some_iff.mp listed
        have notYet := earlier place less
        rw [atPlace, isInverted] at notYet
        cases notYet
      · have above := (List.pairwise_append.mp increasing).2.1
        exact .inl (bytesBefore_of_lt ((List.pairwise_cons.mp above).1 _ further))

/-- An inverted span that comes first is the one that the search stops at. -/
theorem found_of_firstInverted {policy : Policy} {key : String} {index : Nat} {span : LineSpan}
    (first : policy.FirstInverted key index span) : policy.firstInverted? = some (key, span) := by
  cases found : policy.firstInverted? with
  | none =>
    have valid := valid_iff.mp (firstInverted_eq_none.mp found)
    have upright := valid key span (List.mem_of_getElem? first.listed)
    exact absurd first.inverted (UInt32.not_lt.mpr upright)
  | some result =>
    obtain ⟨other, later⟩ := result
    obtain ⟨place, another⟩ := firstInverted_of_found found
    obtain ⟨rfl, rfl⟩ := first.unique another
    rfl

theorem validate_eq_error {policy : Policy} {error : Error} :
    policy.validate = .error error ↔
      ∃ key index span, policy.FirstInverted key index span ∧ error = invertedError key span := by
  constructor
  · intro refused
    unfold validate at refused
    split at refused
    · rename_i key span found
      cases refused
      obtain ⟨index, first⟩ := firstInverted_of_found found
      exact ⟨key, index, span, first, rfl⟩
    · cases refused
  · rintro ⟨key, index, span, first, rfl⟩
    rw [validate, found_of_firstInverted first]

/-- Reading with validation fails as reading does, or else as validation does. -/
theorem ofText_eq_error {text : String} {error : Error} :
    ofText text = .error error ↔
      (∃ fault, parse text = .error fault ∧ error = .json fault) ∨
      ∃ policy, parse text = .ok policy ∧ policy.validate = .error error := by
  rw [ofText]
  cases parse text with
  | error fault => simp [eq_comm]
  | ok policy =>
    cases outcome : policy.validate with
    | error cause => simp [outcome, bind, Except.bind]
    | ok => simp [outcome, bind, Except.bind, pure, Except.pure]

/-- The errors of plain reading are passed on, and validation gives none of their kind. -/
theorem ofText_eq_json {text : String} {fault : Json.Error} :
    ofText text = .error (.json fault) ↔ parse text = .error fault := by
  rw [ofText_eq_error]
  constructor
  · rintro (⟨_, failed, same⟩ | ⟨policy, -, refused⟩)
    · cases same
      exact failed
    · obtain ⟨_, _, _, _, other⟩ := validate_eq_error.mp refused
      cases other
  · intro failed
    exact .inl ⟨fault, failed, rfl⟩

theorem ofText_eq_invalidConfig {text detail : String} :
    ofText text = .error (.invalidConfig detail) ↔
      ∃ policy, parse text = .ok policy ∧ policy.validate = .error (.invalidConfig detail) := by
  rw [ofText_eq_error]
  constructor
  · rintro (⟨_, -, other⟩ | refused)
    · cases other
    · exact refused
  · exact .inr

theorem not_valid_iff {policy : Policy} :
    ¬ policy.Valid ↔
      ∃ entry ∈ policy.disabledLines.entries, ∃ span ∈ entry.2, span.stop < span.start := by
  simp only [Valid, not_forall, UInt32.not_le, exists_prop]

theorem ofText_refused_iff {text : String} :
    (∃ detail, ofText text = .error (.invalidConfig detail)) ↔
      ∃ policy, parse text = .ok policy ∧
        ∃ entry ∈ policy.disabledLines.entries, ∃ span ∈ entry.2, span.stop < span.start := by
  simp only [ofText_eq_invalidConfig, ← not_valid_iff]
  constructor
  · rintro ⟨detail, policy, taken, refused⟩
    refine ⟨policy, taken, fun valid => ?_⟩
    cases (validate_eq_ok.mpr valid).symm.trans refused
  · rintro ⟨policy, taken, invalid⟩
    obtain ⟨key, span, refused⟩ := validate_of_not_valid invalid
    exact ⟨_, policy, taken, refused⟩

theorem written_orderless (policy : Policy) : Orderless policy.Written := by
  have parts : ∀ keys, Orderless (PairOf disabledPart disabledLinesPart
      (ListOf fun text value => value = .string text) (MapOf (ListOf LineSpan.Written))
      (keys, policy.disabledLines)) := fun keys =>
    Orderless.pair (Orderless.list .string) (.keyMap (.list LineSpan.written_orderless)) _
  constructor
  · rintro value ⟨keys, same, written⟩
    exact ⟨keys, same, (parts keys).kept written⟩
  · rintro value distinct ⟨keys, same, written⟩
    exact ⟨keys, same, (parts keys).reflected distinct written⟩

/-- Texts whose values differ in the order of members only are read as the same policy. -/
theorem parse_reordered {text other : String} {value reordered : Value}
    (parsed : Value.parse text = .ok value) (otherParsed : Value.parse other = .ok reordered)
    (distinct : reordered.distinctKeys = true) (same : value.canonical = reordered.canonical)
    {policy : Policy} (taken : parse text = .ok policy) : parse other = .ok policy := by
  have written : policy.Written value := (finds.parse_iff parsed policy).mp taken
  have sorted : policy.Written reordered.canonical := same ▸ policy.written_orderless.kept written
  exact (finds.parse_iff otherParsed policy).mpr (policy.written_orderless.reflected distinct sorted)

theorem ofText_congr {text other : String} {policy : Policy} (taken : parse text = .ok policy)
    (otherTaken : parse other = .ok policy) : ofText text = ofText other := by
  rw [ofText, ofText, taken, otherTaken]

/-- Validation accepts a policy without inverted spans, and otherwise names the ends and the key of the
inverted span that comes first by the bytes of its key and then by its place in the list. Reading with
validation fails as plain reading does if that fails, and as validation does if there is an inverted
span; else it gives the policy that was read, whose spans all hold both their ends. What is reported
depends on the policy alone, and not on the order in which the text has its members. -/
theorem validation_names_first_inverted :
    (∀ policy : Policy, policy.validate = .ok () ↔
      ∀ entry ∈ policy.disabledLines.entries, ∀ span ∈ entry.2, span.start ≤ span.stop) ∧
    (∀ (policy : Policy) (error : Error), policy.validate = .error error ↔
      ∃ key index span, policy.FirstInverted key index span ∧
        error = .invalidConfig ("disabled line range " ++ toString span.start.toNat ++ ".." ++
          toString span.stop.toNat ++ " for '" ++ key ++ "' is inverted")) ∧
    (∀ text fault, ofText text = .error (.json fault) ↔ parse text = .error fault) ∧
    (∀ text detail, ofText text = .error (.invalidConfig detail) ↔
      ∃ policy, parse text = .ok policy ∧ policy.validate = .error (.invalidConfig detail)) ∧
    (∀ text, (∃ detail, ofText text = .error (.invalidConfig detail)) ↔
      ∃ policy, parse text = .ok policy ∧
        ∃ entry ∈ policy.disabledLines.entries, ∃ span ∈ entry.2, span.stop < span.start) ∧
    (∀ text policy, ofText text = .ok policy ↔ parse text = .ok policy ∧
      ∀ entry ∈ policy.disabledLines.entries, ∀ span ∈ entry.2, span.start ≤ span.stop) ∧
    (∀ text policy, ofText text = .ok policy → ∀ entry ∈ policy.disabledLines.entries,
      ∀ span ∈ entry.2, span.contains span.start = true ∧ span.contains span.stop = true) ∧
    (∀ text other policy, parse text = .ok policy → parse other = .ok policy →
      ofText text = ofText other) ∧
    ∀ text other value reordered, Value.parse text = .ok value → Value.parse other = .ok reordered →
      reordered.distinctKeys = true → value.canonical = reordered.canonical →
      ∀ policy, parse text = .ok policy → ofText text = ofText other := by
  refine ⟨fun _ => validate_eq_ok, fun _ _ => validate_eq_error, fun _ _ => ofText_eq_json,
    fun _ _ => ofText_eq_invalidConfig, fun _ => ofText_refused_iff, fun _ _ => ofText_eq_ok, ?_,
    fun _ _ _ => ofText_congr, ?_⟩
  · intro text policy taken entry listed span within
    exact LineSpan.contains_ends ((ofText_eq_ok.mp taken).2 entry listed span within)
  · intro text other value reordered parsed otherParsed distinct same policy taken
    exact ofText_congr taken (parse_reordered parsed otherParsed distinct same taken)

/-- Two inverted spans, of which the one to be named stands behind the other in the text. -/
def laterKeyFirst : Value :=
  .object [("disabled_lines", .object [("é", .array [.array [.ofWord 9, .ofWord 2]]),
    ("b", .array [.array [.ofWord 1, .ofWord 1], .array [.ofWord 8, .ofWord 3]])])]

/-- The same with the keys the other way round. -/
def earlierKeyFirst : Value :=
  .object [("disabled_lines", .object [
    ("b", .array [.array [.ofWord 1, .ofWord 1], .array [.ofWord 8, .ofWord 3]]),
    ("é", .array [.array [.ofWord 9, .ofWord 2]])])]

theorem validation_names_first_inverted_laterKeyFirst :
    ofText laterKeyFirst.toText =
      .error (.invalidConfig "disabled line range 8..3 for 'b' is inverted") ∧
    ofText laterKeyFirst.toText = ofText earlierKeyFirst.toText := by
  have parsed : Value.parse laterKeyFirst.toText = .ok laterKeyFirst :=
    Json.parse_toText (by simp [laterKeyFirst, nestingLimit, Value.Legible, Value.ofWord,
      Number.Legible, greatestNegated])
  have otherParsed : Value.parse earlierKeyFirst.toText = .ok earlierKeyFirst :=
    Json.parse_toText (by simp [earlierKeyFirst, nestingLimit, Value.Legible, Value.ofWord,
      Number.Legible, greatestNegated])
  have taken : parse laterKeyFirst.toText = .ok
      { disabledLines := .ofList [("é", [⟨9, 2⟩]), ("b", [⟨1, 1⟩, ⟨8, 3⟩])] } := by
    decide
  obtain ⟨-, -, -, refused, -, -, -, -, reordered⟩ := validation_names_first_inverted
  refine ⟨(refused _ _).mpr ⟨_, taken, by decide⟩, ?_⟩
  exact reordered _ _ _ _ parsed otherParsed (by decide) rfl _ taken

end Policy

end HintLint
