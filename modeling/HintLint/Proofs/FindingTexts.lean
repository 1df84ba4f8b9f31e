import HintLint.Finding
import HintLint.Proofs.NodeRoundTrip

/-!
What the texts of a finding tell about it. A record cannot be decoded into a finding, but its text
holds the record's value again, quotes and fragments of records in a hint's source included, and the
value tells every part. The line of a finding tells its location and its message: the two numbers in
front end at a colon, and what follows them is the same for all findings up to the site. It says
nothing of the source.
-/

namespace HintLint

open Json

/-! Records. -/

namespace Position

theorem toValue_legible (levels : Nat) (position : Position) :
    position.toValue.Legible (levels + 1) :=
  position.members_legible levels

theorem eq_of_words {first second : Position} (line : first.line = second.line)
    (column : first.column = second.column) : first = second := by
  cases first
  cases second
  simp_all

theorem members_injective : Function.Injective members := by
  intro first second same
  simp only [members, List.cons.injEq, Prod.mk.injEq, true_and, and_true] at same
  exact eq_of_words (Value.ofWord_injective same.1) (Value.ofWord_injective same.2)

theorem toValue_injective : Function.Injective toValue := fun _ _ same =>
  members_injective (Value.object.inj same)

end Position

theorem Hint.toValue_injective : Function.Injective toValue := by
  rintro ⟨source, position⟩ ⟨other, place⟩ same
  obtain ⟨written, members⟩ := List.cons.inj (Value.object.inj same)
  have sources : source = other := Value.string.inj (Prod.mk.inj written).2
  have positions : position = place := Position.members_injective members
  rw [sources, positions]

theorem Site.toValue_injective : Function.Injective toValue := by
  intro first second same
  cases first <;> cases second <;> simp [toValue, name] at same ⊢

namespace Finding

theorem toValue_legible (finding : Finding) : finding.toValue.Legible nestingLimit := by
  simp only [toValue, nestingLimit, Value.legible_object, List.forall_mem_cons]
  exact ⟨Value.string_legible _ _, Value.string_legible _ _, Value.string_legible _ _,
    finding.location.toValue_legible _, finding.hint.toValue_legible _, by simp⟩

/-- The record of a finding tells rule, code, site, location and hint. -/
theorem toValue_eq_iff {first second : Finding} :
    first.toValue = second.toValue ↔
      first.message.symbol = second.message.symbol ∧ first.message.code = second.message.code ∧
        first.site = second.site ∧ first.location = second.location ∧
        first.hint = second.hint := by
  simp only [toValue, Value.object.injEq, List.cons.injEq, Prod.mk.injEq, Value.string.injEq,
    true_and, and_true, Site.toValue_injective.eq_iff, Position.toValue_injective.eq_iff,
    Hint.toValue_injective.eq_iff]

/-- So does the text of the record. -/
theorem toText_eq_iff {first second : Finding} :
    first.toValue.toText = second.toValue.toText ↔ first.toValue = second.toValue := by
  refine ⟨fun same => ?_, fun same => by rw [same]⟩
  have read := parse_toText first.toValue_legible
  rw [same, parse_toText second.toValue_legible] at read
  exact (Except.ok.inj read).symm

end Finding

/-! Lines. -/

theorem toDigits_append_colon {m n : Nat} {rest others : List Char}
    (same : Nat.toDigits 10 m ++ ':' :: rest = Nat.toDigits 10 n ++ ':' :: others) :
    m = n ∧ rest = others := by
  have ends : ∀ tail, EndsNumber (':' :: tail) := by
    intro tail c followed starts
    cases starts
    exact ⟨rfl, by decide, rfl⟩
  have parted := congrArg (List.span Char.isDigit) same
  rw [span_digits isDigit_toDigits (ends rest), span_digits isDigit_toDigits (ends others)]
    at parted
  obtain ⟨digits, colon⟩ := Prod.mk.inj parted
  have number := congrArg (Nat.ofDigitChars 10 · 0) digits
  rw [Nat.ofDigitChars_ten_toDigits, Nat.ofDigitChars_ten_toDigits] at number
  exact ⟨number, (List.cons.inj colon).2⟩

/-- A position in front of a colon can be told from the text. -/
theorem Position.text_append_colon {first second : Position} {rest others : String}
    (same : first.text ++ ":" ++ rest = second.text ++ ":" ++ others) :
    first = second ∧ rest = others := by
  have spelled : ∀ (position : Position) (tail : String),
      (position.text ++ ":" ++ tail).toList =
        Nat.toDigits 10 position.line.toNat ++ ':' ::
          (Nat.toDigits 10 position.column.toNat ++ ':' :: tail.toList) := by
    intro position tail
    simp [text]
  have chars := congrArg String.toList same
  rw [spelled, spelled] at chars
  obtain ⟨line, columns⟩ := toDigits_append_colon chars
  obtain ⟨column, tails⟩ := toDigits_append_colon columns
  exact ⟨eq_of_words (UInt32.toNat_inj.mp line) (UInt32.toNat_inj.mp column),
    String.toList_inj.mp tails⟩

namespace Finding

/-- Of findings under one message, the line tells the location and the message in words. -/
theorem display_eq_iff {first second : Finding} (reported : first.message = second.message) :
    first.display = second.display ↔
      first.location = second.location ∧ first.text = second.text := by
  have parted : ∀ finding : Finding, finding.display =
      finding.location.text ++ ":" ++
        (" " ++ finding.message.code ++ " (" ++ finding.message.symbol ++ ") " ++ finding.text) := by
    intro finding
    rw [display, show ": " = ":" ++ " " from rfl]
    simp only [String.append_assoc]
  rw [parted, parted, reported]
  refine ⟨fun same => ?_, fun ⟨location, words⟩ => by rw [location, words]⟩
  obtain ⟨location, rest⟩ := Position.text_append_colon same
  exact ⟨location, (String.append_right_inj _).mp rest⟩

theorem text_ofHint_inj {site other : Site} {hint another : Hint} :
    (ofHint site hint).text = (ofHint other another).text ↔ site = other := by
  have words : ∀ site other : Site,
      Message.noTypeHints.render site.text = Message.noTypeHints.render other.text →
        site = other := by
    rintro ⟨⟩ ⟨⟩ <;> decide
  exact ⟨words site other, fun same => by rw [same]; rfl⟩

/-- Two findings of the linter have the same record text only if they are the same finding, that is,
if site and hint are the same. They have the same line if site and position are the same, whatever
the hints look like. -/
theorem told_apart_by_texts (site other : Site) (hint another : Hint) :
    ((ofHint site hint).toValue.toText = (ofHint other another).toValue.toText ↔
      ofHint site hint = ofHint other another) ∧
    (ofHint site hint = ofHint other another ↔ site = other ∧ hint = another) ∧
    ((ofHint site hint).display = (ofHint other another).display ↔
      site = other ∧ hint.position = another.position) := by
  have same : ofHint site hint = ofHint other another ↔ site = other ∧ hint = another := by
    refine ⟨fun equal => ?_, fun ⟨sites, hints⟩ => by rw [sites, hints]⟩
    exact ⟨congrArg Finding.site equal, congrArg Finding.hint equal⟩
  refine ⟨?_, same, ?_⟩
  · rw [toText_eq_iff, toValue_eq_iff, same]
    refine ⟨fun ⟨_, _, sites, _, hints⟩ => ⟨sites, hints⟩, fun ⟨sites, hints⟩ => ?_⟩
    rw [sites, hints]
    exact ⟨rfl, rfl, rfl, rfl, rfl⟩
  · have reported : (ofHint site hint).message = (ofHint other another).message := rfl
    rw [display_eq_iff reported, text_ofHint_inj]
    exact And.comm

end Finding

end HintLint
