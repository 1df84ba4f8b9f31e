import HintLint.Proofs.NodeRoundTrip

/-!
Lists of nodes. A text is first read as a list of values, and fails as text if it is none, whatever
nodes it holds. The values are then read one by one: either each of them gives its node, or the first
that is refused decides, whatever comes after it.
-/

namespace HintLint

open Json

namespace Json

section Items

variable {ε α β : Type} {decode : α → Except ε β} {items : List α}

/-- A list fails as the first of its items that fails. -/
theorem mapM_eq_error {error : ε} :
    items.mapM decode = .error error ↔
      ∃ index, ∃ bound : index < items.length, decode items[index] = .error error ∧
        ∀ earlier (before : earlier < index), ∃ result, decode items[earlier] = .ok result := by
  induction items with
  | nil => exact ⟨fun failed => (nomatch failed), fun ⟨_, bound, _⟩ => (nomatch bound)⟩
  | cons item items ih =>
    rw [List.mapM_cons]
    cases head : decode item with
    | error cause =>
      constructor
      · intro failed
        cases failed
        exact ⟨0, Nat.zero_lt_succ _, head, fun _ before => (nomatch before)⟩
      · rintro ⟨index, bound, failed, succeeded⟩
        cases index with
        | zero =>
          rw [List.getElem_cons_zero, head] at failed
          cases failed
          rfl
        | succ index =>
          obtain ⟨result, decoded⟩ := succeeded 0 (Nat.zero_lt_succ index)
          rw [List.getElem_cons_zero, head] at decoded
          cases decoded
    | ok result =>
      have later : (do let results ← items.mapM decode; return result :: results) = .error error ↔
          items.mapM decode = .error error := by
        cases items.mapM decode with
        | ok results => exact ⟨fun failed => (nomatch failed), fun failed => (nomatch failed)⟩
        | error cause => rfl
      refine later.trans (ih.trans ⟨?_, ?_⟩)
      · rintro ⟨index, bound, failed, succeeded⟩
        refine ⟨index + 1, Nat.succ_lt_succ bound, failed, fun earlier before => ?_⟩
        cases earlier with
        | zero => exact ⟨result, head⟩
        | succ earlier => exact succeeded earlier (Nat.lt_of_succ_lt_succ before)
      · rintro ⟨index, bound, failed, succeeded⟩
        cases index with
        | zero =>
          rw [List.getElem_cons_zero, head] at failed
          cases failed
        | succ index =>
          refine ⟨index, Nat.lt_of_succ_lt_succ bound, failed, fun earlier before => ?_⟩
          exact succeeded (earlier + 1) (Nat.succ_lt_succ before)

/-- A list is decoded if every item can be. -/
theorem exists_mapM_eq_ok :
    (∃ results, items.mapM decode = .ok results) ↔
      ∀ item ∈ items, ∃ result, decode item = .ok result := by
  constructor
  · rintro ⟨results, decoded⟩ item listed
    obtain ⟨index, bound, rfl⟩ := List.getElem_of_mem listed
    have each := mapM_eq_ok.mp decoded
    exact ⟨_, each.get bound (each.length_eq ▸ bound)⟩
  · intro each
    cases decoded : items.mapM decode with
    | ok results => exact ⟨results, rfl⟩
    | error cause =>
      obtain ⟨index, bound, failed, -⟩ := mapM_eq_error.mp decoded
      obtain ⟨result, succeeded⟩ := each _ (List.getElem_mem bound)
      cases failed.symm.trans succeeded

end Items

/-- A text is read as a list of values when it holds a list, and those are its items. -/
theorem parse_list_any {text : String} {values : List Value} :
    Decoder.any.list.parse text = .ok values ↔ Value.parse text = .ok (.array values) := by
  have items (values : List Value) : values.mapM Decoder.any.ofValue = .ok values :=
    mapM_eq_ok.mpr (List.forall₂_same.mpr fun _ _ => rfl)
  constructor
  · intro parsed
    obtain ⟨value, holds, decoded⟩ := Agrees.any.list.parse_sound parsed
    cases value with
    | array found =>
      cases (items found).symm.trans decoded
      exact holds
    | _ => cases decoded
  · intro holds
    exact Agrees.any.list.parse_complete holds (fun _ _ _ _ => trivial) (items values)

end Json

namespace Node

/-- A value is never refused as text. -/
theorem ofValue_ne_json (value : Value) (error : Json.Error) :
    ofValue value ≠ .error (.json error) := by
  intro failed
  cases ofValue_eq_error.mp failed

theorem listOfText_of_array {text : String} {values : List Value}
    (holds : Value.parse text = .ok (.array values)) : listOfText text = values.mapM ofValue := by
  rw [listOfText, parse_list_any.mpr holds]

/-- A text fails as text exactly if it is no list of values. -/
theorem listOfText_eq_json {text : String} :
    (∃ error, listOfText text = .error (.json error)) ↔
      ∀ values, Value.parse text ≠ .ok (.array values) := by
  constructor
  · rintro ⟨error, failed⟩ values holds
    rw [listOfText_of_array holds] at failed
    obtain ⟨index, bound, refused, -⟩ := mapM_eq_error.mp failed
    exact ofValue_ne_json _ _ refused
  · intro noList
    cases parsed : Decoder.any.list.parse text with
    | ok values => exact absurd (parse_list_any.mp parsed) (noList values)
    | error error =>
      refine ⟨error, ?_⟩
      rw [listOfText, parsed]

/-- Reading a list of nodes is all or nothing. A text that is no list of values fails as text, and no
other does. Of a list of values, every value gives its node, in its place, or the error is that of
the first value that is refused; what comes after it does not matter. -/
theorem listOfText_all_or_first_refused (text : String) :
    ((∃ error, listOfText text = .error (.json error)) ↔
      ∀ values, Value.parse text ≠ .ok (.array values)) ∧
    ∀ values, Value.parse text = .ok (.array values) →
      ((∃ nodes, listOfText text = .ok nodes) ↔ ∀ value ∈ values, ∃ node, ofValue value = .ok node) ∧
      (∀ nodes, listOfText text = .ok nodes ↔
        values.length = nodes.length ∧
          ∀ index (inValues : index < values.length) (inNodes : index < nodes.length),
            ofValue values[index] = .ok nodes[index]) ∧
      ∀ error, listOfText text = .error error ↔
        ∃ index, ∃ bound : index < values.length, ofValue values[index] = .error error ∧
          ∀ earlier (before : earlier < index), ∃ node, ofValue values[earlier] = .ok node := by
  refine ⟨listOfText_eq_json, fun values holds => ?_⟩
  rw [listOfText_of_array holds]
  refine ⟨exists_mapM_eq_ok, fun nodes => ?_, fun error => mapM_eq_error⟩
  rw [mapM_eq_ok, List.forall₂_iff_get]
  rfl

/-- A node, a value of a kind that is not known and a value that is no object. -/
def mixed : List Value := [
  (Node.assignment { position := ⟨1, 0⟩, targets := ["x"] }).toValue,
  .object [("kind", .string "lambda")],
  .null]

theorem listOfText_all_or_first_refused_mixed :
    Value.parse (Value.array mixed).toText = .ok (.array mixed) ∧
      listOfText (Value.array mixed).toText = .error (.unknownKind "lambda") := by
  have parsed : Value.parse (Value.array mixed).toText = .ok (.array mixed) := by
    refine parse_toText (Value.legible_array.mpr ?_)
    simp only [mixed, List.forall_mem_cons]
    refine ⟨toValue_legible 121 _, ?_, ?_⟩
    · simp [Value.Legible]
    · simp [Value.Legible]
  have outcome := ((listOfText_all_or_first_refused (Value.array mixed).toText).2 mixed parsed).2.2
  refine ⟨parsed, (outcome (.unknownKind "lambda")).mpr ⟨1, by decide, rfl, ?_⟩⟩
  intro earlier before
  cases Nat.lt_one_iff.mp before
  exact ⟨_, ofValue_toValue _⟩

end Node

end HintLint
