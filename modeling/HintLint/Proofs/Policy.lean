import HintLint.Policy
import HintLint.Proofs.Json.Rounds
import HintLint.Proofs.KeyMap

/-!
What a policy says. It is valid when no span is inverted, which is what `validate` finds out. A rule
is inactive at a line when a key that names it is disabled, or has a span that holds the line.
Disabling a key adds that key and adding a span puts it behind the other spans of its key; neither
changes anything else.
-/

namespace HintLint

open Json

theorem LineSpan.inverted_eq_false {span : LineSpan} :
    span.inverted = false ↔ span.start ≤ span.stop := by
  rw [inverted, decide_eq_false_iff_not, UInt32.not_lt]

theorem LineSpan.inverted_iff {span : LineSpan} : span.inverted = true ↔ span.stop < span.start := by
  rw [inverted, decide_eq_true_iff]

theorem LineSpan.contains_iff {span : LineSpan} {line : UInt32} :
    span.contains line = true ↔ span.start ≤ line ∧ line ≤ span.stop := by
  rw [contains, Bool.and_eq_true, decide_eq_true_iff, decide_eq_true_iff]

namespace Policy

/-- No span is inverted. -/
def Valid (policy : Policy) : Prop :=
  ∀ entry ∈ policy.disabledLines.entries, ∀ span ∈ entry.2, span.start ≤ span.stop

/-- The spans under a key; a key without an entry has none. -/
def spansOf (policy : Policy) (key : String) : List LineSpan :=
  (policy.disabledLines.get? key).getD []

theorem mem_spansOf {policy : Policy} {key : String} {span : LineSpan} :
    span ∈ policy.spansOf key ↔
      ∃ spans, (key, spans) ∈ policy.disabledLines.entries ∧ span ∈ spans := by
  simp only [KeyMap.mem_entries, spansOf]
  cases policy.disabledLines.get? key <;> simp

theorem valid_iff {policy : Policy} :
    policy.Valid ↔ ∀ key, ∀ span ∈ policy.spansOf key, span.start ≤ span.stop := by
  constructor
  · intro valid key span listed
    obtain ⟨spans, entry, within⟩ := mem_spansOf.mp listed
    exact valid _ entry span within
  · rintro upright ⟨key, spans⟩ entry span within
    exact upright key span (mem_spansOf.mpr ⟨spans, entry, within⟩)

theorem firstInverted_eq_none {policy : Policy} : policy.firstInverted? = none ↔ policy.Valid := by
  simp only [firstInverted?, List.findSome?_eq_none_iff, Option.map_eq_none_iff,
    List.find?_eq_none, Bool.not_eq_true, LineSpan.inverted_eq_false, Valid]

theorem validate_eq_ok {policy : Policy} : policy.validate = .ok () ↔ policy.Valid := by
  rw [← firstInverted_eq_none, validate]
  cases policy.firstInverted? <;> simp

/-- A policy that is not valid is refused for an inverted span. -/
theorem validate_of_not_valid {policy : Policy} (invalid : ¬ policy.Valid) :
    ∃ key span, policy.validate = .error (invertedError key span) := by
  rw [← firstInverted_eq_none] at invalid
  obtain ⟨⟨key, span⟩, found⟩ := Option.ne_none_iff_exists'.mp invalid
  exact ⟨key, span, by rw [validate, found]⟩

/-- Reading a policy and checking it succeeds when both do. -/
theorem ofText_eq_ok {text : String} {policy : Policy} :
    ofText text = .ok policy ↔ parse text = .ok policy ∧ policy.Valid := by
  rw [ofText, ← validate_eq_ok]
  cases parse text with
  | error error => simp
  | ok found =>
    simp only [bind_eq_ok, pure_eq_ok, Except.ok.injEq]
    constructor
    · rintro ⟨⟨⟩, valid, rfl⟩
      exact ⟨rfl, valid⟩
    · rintro ⟨rfl, valid⟩
      exact ⟨(), valid, rfl⟩

/-! What the changes do. -/

section Changes

variable {policy : Policy} {key other : String} {span : LineSpan}

@[simp]
theorem mem_disable :
    other ∈ (policy.disable key).disabled.keys ↔ other = key ∨ other ∈ policy.disabled.keys :=
  KeyMap.mem_keys_insert

@[simp]
theorem disable_disabledLines : (policy.disable key).disabledLines = policy.disabledLines := rfl

@[simp]
theorem addSpan_disabled : (policy.addSpan key span).disabled = policy.disabled := rfl

theorem mem_keys_addSpan :
    other ∈ (policy.addSpan key span).disabledLines.keys ↔
      other = key ∨ other ∈ policy.disabledLines.keys :=
  KeyMap.mem_keys_insert

theorem spansOf_addSpan :
    (policy.addSpan key span).spansOf other =
      if other = key then policy.spansOf key ++ [span] else policy.spansOf other := by
  have got : (policy.addSpan key span).disabledLines.get? other =
      if other = key then some (policy.spansOf key ++ [span]) else policy.disabledLines.get? other :=
    KeyMap.get?_insert
  rw [spansOf, got]
  split <;> rfl

theorem disableLines_of_upright (upright : span.start ≤ span.stop) :
    policy.disableLines key span = .ok (policy.addSpan key span) := by
  rw [disableLines, LineSpan.inverted_eq_false.mpr upright]
  rfl

theorem disableLines_of_inverted (inverted : span.stop < span.start) :
    policy.disableLines key span = .error (invertedError key span) := by
  rw [disableLines, LineSpan.inverted_iff.mpr inverted]
  rfl

theorem Valid.addSpan (valid : policy.Valid) (upright : span.start ≤ span.stop) :
    (policy.addSpan key span).Valid := by
  rw [valid_iff] at valid ⊢
  intro other found listed
  rw [spansOf_addSpan] at listed
  split at listed
  · rcases List.mem_append.mp listed with earlier | last
    · exact valid key found earlier
    · rw [List.mem_singleton.mp last]
      exact upright
  · exact valid other found listed

end Changes

/-- The checker has one message, which is found by its symbol and by its code. -/
theorem message_typeHints (key : String) :
    Checker.typeHints.message? key =
      if key = "no-type-hints" ∨ key = "E3107" then some .noTypeHints else none := by
  have asked : (Message.noTypeHints.symbol = key ∨ Message.noTypeHints.code = key) ↔
      (key = "no-type-hints" ∨ key = "E3107") := or_congr eq_comm eq_comm
  rw [Checker.message?, Checker.typeHints, List.find?_singleton]
  simp only [asked, decide_eq_true_eq]

/-- A rule is named by itself, and the rule against hints by its code as well. -/
theorem names_iff {key rule : String} :
    names key rule = true ↔ key = rule ∨ key = "E3107" ∧ rule = "no-type-hints" := by
  have symbol : Message.noTypeHints.symbol = "no-type-hints" := rfl
  rw [names, Bool.or_eq_true, decide_eq_true_iff, message_typeHints]
  by_cases known : key = "no-type-hints" ∨ key = "E3107"
  · rw [if_pos known, Option.any_some, decide_eq_true_iff, symbol]
    constructor
    · rintro (same | rfl)
      · exact .inl same
      · exact known.imp id fun code => ⟨code, rfl⟩
    · rintro (same | ⟨-, rfl⟩)
      · exact .inl same
      · exact .inr rfl
  · rw [if_neg known, Option.any_none]
    have notCode : key ≠ "E3107" := fun code => known (.inr code)
    simp [notCode]

theorem names_noTypeHints {key : String} :
    names key "no-type-hints" = true ↔ key = "no-type-hints" ∨ key = "E3107" := by
  simp [names_iff]

/-- A rule is inactive at a line when a key that names it is disabled, or has a span with the line.
-/
theorem isActive_eq_false {policy : Policy} {rule : String} {line : UInt32} :
    policy.isActive rule line = false ↔
      ∃ key, names key rule = true ∧
        (key ∈ policy.disabled.keys ∨ ∃ span ∈ policy.spansOf key, span.contains line = true) := by
  simp only [isActive, Bool.and_eq_false_iff, Bool.not_eq_false', List.any_eq_true, mem_spansOf]
  constructor
  · rintro (⟨key, listed, named⟩ | ⟨⟨key, spans⟩, entry, covered⟩)
    · exact ⟨key, named, .inl listed⟩
    · simp only [Bool.and_eq_true, List.any_eq_true] at covered
      obtain ⟨named, span, within, holds⟩ := covered
      exact ⟨key, named, .inr ⟨span, ⟨spans, entry, within⟩, holds⟩⟩
  · rintro ⟨key, named, listed | ⟨span, ⟨spans, entry, within⟩, holds⟩⟩
    · exact .inl ⟨key, listed, named⟩
    · refine .inr ⟨(key, spans), entry, ?_⟩
      simp only [named, Bool.true_and, List.any_eq_true]
      exact ⟨span, within, holds⟩

end Policy

end HintLint
