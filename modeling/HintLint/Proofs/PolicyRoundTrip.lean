import HintLint.Proofs.Json.Plain
import HintLint.Proofs.Json.ReadBack
import HintLint.Proofs.Policy

/-!
Policies are read back from their texts. A policy is written as an object with a list of keys and an
object of lists of spans, which is one of the forms that are read. The keys come out in the order
they have in the policy, and putting them back one after the other builds the same set and the same
map. Inverted spans are read like others, so the reader that checks and the one that does not part
only there.
-/

namespace HintLint

open Json

namespace LineSpan

def startPart : Json.Part UInt32 := ⟨"start", Decoder.word.read, none⟩

def stopPart : Json.Part UInt32 := ⟨"end", Decoder.word.read, none⟩

/-- How a span may be written. -/
def Written (span : LineSpan) : Value → Prop :=
  PairOf startPart stopPart (fun word value => value = .ofWord word)
    (fun word value => value = .ofWord word) (span.start, span.stop)

theorem finds : Finds read Written := by
  have word : Finds Decoder.word.read fun word value => value = .ofWord word :=
    Agrees.word.finds Reads.word
  have ends : Finds (readPair "LineRange" startPart stopPart) _ := Finds.pair word word (by decide)
  intro levels text rest value ran span after
  refine (ends.map (fun pair => (⟨pair.1, pair.2⟩ : LineSpan)) ran span after).trans ?_
  refine and_congr_right fun _ => ⟨?_, fun written => ⟨_, rfl, written⟩⟩
  rintro ⟨pair, rfl, written⟩
  exact written

theorem written_toValue (span : LineSpan) : span.Written span.toValue :=
  .object (.inl ⟨_, by simp [under, startPart], rfl⟩) (.inl ⟨_, by simp [under, stopPart], rfl⟩)

theorem toValue_legible (levels : Nat) (span : LineSpan) : span.toValue.Legible (levels + 1) := by
  simp only [toValue, Value.legible_object, List.forall_mem_cons]
  exact ⟨Value.ofWord_legible _ _, Value.ofWord_legible _ _, by simp⟩

end LineSpan

namespace Policy

def disabledPart : Json.Part (List String) := ⟨"disabled", Decoder.string.list.read, some []⟩

def disabledLinesPart : Json.Part (KeyMap (List LineSpan)) :=
  ⟨"disabled_lines", readMap (readList LineSpan.read), some ∅⟩

/-- How a policy may be written. -/
def Written (policy : Policy) (value : Value) : Prop :=
  ∃ keys, policy.disabled = .ofKeys keys ∧
    PairOf disabledPart disabledLinesPart (ListOf fun text value => value = .string text)
      (MapOf (ListOf LineSpan.Written)) (keys, policy.disabledLines) value

theorem finds : Finds read Written := by
  have keys : Finds Decoder.string.list.read (ListOf fun text value => value = .string text) :=
    Agrees.string.finds Reads.string |>.list
  have parts : Finds (readPair "ActivationPolicy" disabledPart disabledLinesPart) _ :=
    Finds.pair keys LineSpan.finds.list.keyMap (by decide)
  intro levels text rest value ran policy after
  refine (parts.map (fun pair => (⟨.ofKeys pair.1, pair.2⟩ : Policy)) ran policy after).trans ?_
  refine and_congr_right fun _ => ⟨?_, ?_⟩
  · rintro ⟨pair, rfl, written⟩
    exact ⟨pair.1, rfl, written⟩
  · rintro ⟨keys, same, written⟩
    exact ⟨(keys, policy.disabledLines), by rw [← same], written⟩

theorem written_toValue (policy : Policy) : policy.Written policy.toValue := by
  have keys : ListOf (fun text value => value = .string text) policy.disabled.keys
      (.array (policy.disabled.keys.map .string)) := by
    refine ListOf.map ?_ _
    intro text
    rfl
  have spans : MapOf (ListOf LineSpan.Written) policy.disabledLines
      (.object (policy.disabledLines.entries.map fun entry =>
        (entry.1, .array (entry.2.map LineSpan.toValue)))) := by
    refine ⟨_, policy.disabledLines.entries, rfl, ?_, policy.disabledLines.ofList_entries.symm⟩
    rw [List.forall₂_map_left_iff]
    exact List.forall₂_same.mpr fun entry _ => ⟨rfl, ListOf.map LineSpan.written_toValue _⟩
  refine ⟨policy.disabled.keys, policy.disabled.ofKeys_keys.symm, .object (.inl ?_) (.inl ?_)⟩
  · exact ⟨_, by simp [under, disabledPart], keys⟩
  · exact ⟨_, by simp [under, disabledLinesPart], spans⟩

theorem toValue_legible (levels : Nat) (policy : Policy) : policy.toValue.Legible (levels + 4) := by
  simp only [toValue, Value.legible_object, Value.legible_array, List.forall_mem_cons,
    List.forall_mem_map]
  exact ⟨fun key _ => Value.string_legible key _,
    fun entry _ span _ => span.toValue_legible levels, by simp⟩

/-- The text of a policy holds the value that the policy is written as. -/
theorem toText_holds_value (policy : Policy) :
    Value.parse policy.toValue.toText = .ok policy.toValue :=
  Json.parse_toText (policy.toValue_legible _)

/-- The text has the disabled keys, and those with spans, in the strict order of their bytes. -/
def WrittenInOrder (policy : Policy) : Prop :=
  ∃ members, Value.parse policy.toValue.toText =
      .ok (.object [("disabled", .array (policy.disabled.keys.map .string)),
        ("disabled_lines", .object members)]) ∧
    members.map Prod.fst = policy.disabledLines.keys ∧
    policy.disabled.keys.Pairwise BytesBefore ∧ policy.disabledLines.keys.Pairwise BytesBefore

theorem writtenInOrder (policy : Policy) : policy.WrittenInOrder := by
  refine ⟨_, policy.toText_holds_value, ?_, policy.disabled.keys_bytesBefore,
    policy.disabledLines.keys_bytesBefore⟩
  rw [List.map_map, KeyMap.keys]
  rfl

theorem parse_toText (policy : Policy) : parse policy.toValue.toText = .ok policy :=
  (finds.parse_iff policy.toText_holds_value policy).mpr policy.written_toValue

/-- On the text of a policy, reading and checking comes down to checking. -/
theorem ofText_toText (policy : Policy) :
    ofText policy.toValue.toText = policy.validate.map fun _ => policy := by
  rw [ofText, policy.parse_toText]
  rfl

/-- A policy is read back from its text by the reader that does not check. The one that checks gives
it back when every span starts no later than it stops, and otherwise refuses it with the error that
`validate` has for it. -/
theorem read_back_from_text (policy : Policy) :
    parse policy.toValue.toText = .ok policy ∧
    (ofText policy.toValue.toText = .ok policy ↔
      ∀ entry ∈ policy.disabledLines.entries, ∀ span ∈ entry.2, span.start ≤ span.stop) ∧
    (¬ (∀ entry ∈ policy.disabledLines.entries, ∀ span ∈ entry.2, span.start ≤ span.stop) →
      ∃ detail, policy.validate = .error (.invalidConfig detail) ∧
        ofText policy.toValue.toText = .error (.invalidConfig detail)) := by
  refine ⟨policy.parse_toText, ?_, ?_⟩
  · rw [ofText_eq_ok, and_iff_right policy.parse_toText]
    exact Iff.rfl
  · intro invalid
    obtain ⟨key, span, refused⟩ := validate_of_not_valid invalid
    exact ⟨_, refused, by rw [ofText_toText, refused]; rfl⟩

/-- Keys that need escapes, a key without spans, and spans between the first and the last line, one
of them inverted. -/
def escapedAndInverted : Policy where
  disabled := .ofKeys ["é\u0001", "\"E3107\"", ""]
  disabledLines := .ofList [("b", []), ("a\n", [⟨0, 4294967295⟩, ⟨4294967295, 0⟩])]

theorem read_back_from_text_inverted :
    parse escapedAndInverted.toValue.toText = .ok escapedAndInverted ∧
    ∃ detail, escapedAndInverted.validate = .error (.invalidConfig detail) ∧
      ofText escapedAndInverted.toValue.toText = .error (.invalidConfig detail) :=
  ⟨(read_back_from_text escapedAndInverted).1,
    (read_back_from_text escapedAndInverted).2.2 (by decide)⟩

end Policy

end HintLint
