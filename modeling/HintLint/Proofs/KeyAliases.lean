import HintLint.Proofs.Policy

/-!
Which entries of a policy a rule depends on. A rule is asked about through the keys that name it, and
of what stands under these only two things count: whether one of them is disabled, and which lines
their spans cover together. It does not matter under which of the keys a span stands, nor in which
order, nor whether there are inverted spans, nor what other keys have. The rule against hints has two
keys, its symbol and its code; every other rule has one.
-/

namespace HintLint

namespace LineSpan

/-- An inverted span holds no line. -/
theorem not_contains_of_inverted {span : LineSpan} (inverted : span.inverted = true) (line : UInt32) :
    span.contains line = false := by
  have reversed : span.stop < span.start := inverted_iff.mp inverted
  by_contra holds
  rw [Bool.not_eq_false, contains_iff] at holds
  exact UInt32.not_le.mpr reversed (UInt32.le_trans holds.1 holds.2)

end LineSpan

namespace Policy

/-- One of the two keys of the rule against hints is disabled. -/
def DisablesHints (policy : Policy) : Prop :=
  "no-type-hints" ∈ policy.disabled.keys ∨ "E3107" ∈ policy.disabled.keys

/-- A span under one of the two keys of the rule against hints covers the line. -/
def CoversHints (policy : Policy) (line : UInt32) : Prop :=
  ∃ span ∈ policy.spansOf "no-type-hints" ++ policy.spansOf "E3107",
    span.start ≤ line ∧ line ≤ span.stop

/-- Two policies have the same under a key. -/
def AgreeAt (key : String) (first second : Policy) : Prop :=
  (key ∈ first.disabled.keys ↔ key ∈ second.disabled.keys) ∧
    first.disabledLines.get? key = second.disabledLines.get? key

/-- The policy with a key renamed wherever it stands. The spans of the old key are joined with those
that the new one has already, in front of them or behind them. -/
def renamed (policy : Policy) (old new : String) (oldFirst : Bool) : Policy where
  disabled :=
    if old ∈ policy.disabled.keys then (policy.disabled.erase old).insert new () else policy.disabled
  disabledLines :=
    match policy.disabledLines.get? old with
    | none => policy.disabledLines
    | some spans =>
      (policy.disabledLines.erase old).insert new
        (if oldFirst then spans ++ policy.spansOf new else policy.spansOf new ++ spans)

/-- The policy without its inverted spans. -/
def withoutInverted (policy : Policy) : Policy where
  disabled := policy.disabled
  disabledLines := policy.disabledLines.mapValues fun spans => spans.filter fun span => !span.inverted

section Answers

variable {policy first second : Policy} {rule : String} {line : UInt32}

/-- The answers are equal if a rule is inactive under the one policy where it is under the other. -/
theorem isActive_eq_of_iff
    (same : first.isActive rule line = false ↔ second.isActive rule line = false) :
    first.isActive rule line = second.isActive rule line := by
  rw [Bool.eq_iff_iff, ← not_iff_not, Bool.not_eq_true, Bool.not_eq_true]
  exact same

theorem isActive_noTypeHints :
    policy.isActive "no-type-hints" line = false ↔
      policy.DisablesHints ∨ policy.CoversHints line := by
  simp only [isActive_eq_false, names_noTypeHints, DisablesHints, CoversHints, List.mem_append,
    LineSpan.contains_iff]
  constructor
  · rintro ⟨key, rfl | rfl, listed | ⟨span, within, holds⟩⟩
    · exact .inl (.inl listed)
    · exact .inr ⟨span, .inl within, holds⟩
    · exact .inl (.inr listed)
    · exact .inr ⟨span, .inr within, holds⟩
  · rintro ((listed | listed) | ⟨span, within | within, holds⟩)
    · exact ⟨_, .inl rfl, .inl listed⟩
    · exact ⟨_, .inr rfl, .inl listed⟩
    · exact ⟨_, .inl rfl, .inr ⟨span, within, holds⟩⟩
    · exact ⟨_, .inr rfl, .inr ⟨span, within, holds⟩⟩

/-- A rule depends only on what stands under the keys that name it. -/
theorem isActive_congr (agree : ∀ key, names key rule = true → AgreeAt key first second)
    (line : UInt32) : first.isActive rule line = second.isActive rule line := by
  apply isActive_eq_of_iff
  simp only [isActive_eq_false]
  refine exists_congr fun key => and_congr_right fun named => ?_
  obtain ⟨disabled, spans⟩ := agree key named
  rw [disabled, spansOf, spansOf, spans]

end Answers

section Renamed

variable {policy : Policy} {old new other : String} {oldFirst : Bool}

theorem mem_renamed :
    other ∈ (policy.renamed old new oldFirst).disabled.keys ↔
      other = new ∧ old ∈ policy.disabled.keys ∨ other ≠ old ∧ other ∈ policy.disabled.keys := by
  by_cases present : old ∈ policy.disabled.keys
  · have moved : (policy.renamed old new oldFirst).disabled =
        (policy.disabled.erase old).insert new () := if_pos present
    rw [moved, KeyMap.mem_keys_insert, KeyMap.mem_keys_erase]
    simp only [present, and_true]
  · have kept : (policy.renamed old new oldFirst).disabled = policy.disabled := if_neg present
    have otherKey : other ∈ policy.disabled.keys → other ≠ old := by
      rintro listed rfl
      exact present listed
    rw [kept]
    simp only [present, and_false, false_or]
    exact ⟨fun listed => ⟨otherKey listed, listed⟩, And.right⟩

theorem spansOf_renamed :
    (policy.renamed old new oldFirst).spansOf other =
      if other = new then
        if oldFirst then policy.spansOf old ++ policy.spansOf new
        else policy.spansOf new ++ policy.spansOf old
      else if other = old then [] else policy.spansOf other := by
  cases found : policy.disabledLines.get? old with
  | none =>
    have kept : (policy.renamed old new oldFirst).spansOf other = policy.spansOf other := by
      simp only [spansOf, renamed, found]
    have empty : policy.spansOf old = [] := by rw [spansOf, found, Option.getD_none]
    rw [kept, empty, List.nil_append, List.append_nil, ite_self]
    by_cases isNew : other = new
    · rw [if_pos isNew, isNew]
    · rw [if_neg isNew]
      by_cases isOld : other = old
      · rw [if_pos isOld, isOld, empty]
      · rw [if_neg isOld]
  | some spans =>
    have own : policy.spansOf old = spans := by rw [spansOf, found, Option.getD_some]
    rw [own]
    simp only [spansOf, renamed, found, KeyMap.get?_insert, KeyMap.get?_erase]
    by_cases isNew : other = new
    · rw [if_pos isNew, if_pos isNew, Option.getD_some]
    · rw [if_neg isNew, if_neg isNew]
      by_cases isOld : other = old
      · rw [if_pos isOld, if_pos isOld, Option.getD_none]
      · rw [if_neg isOld, if_neg isOld]

/-- A key may be renamed to another that names the same rule. -/
theorem isActive_renamed {rule : String} (oldNames : names old rule = true)
    (newNames : names new rule = true) (line : UInt32) :
    (policy.renamed old new oldFirst).isActive rule line = policy.isActive rule line := by
  have joined : ∀ span, span ∈ (policy.renamed old new oldFirst).spansOf new ↔
      span ∈ policy.spansOf old ∨ span ∈ policy.spansOf new := by
    intro span
    rw [spansOf_renamed, if_pos rfl]
    cases oldFirst <;> simp [or_comm]
  apply isActive_eq_of_iff
  simp only [isActive_eq_false]
  constructor
  · rintro ⟨key, named, listed | ⟨span, within, holds⟩⟩
    · rcases mem_renamed.mp listed with ⟨-, present⟩ | ⟨-, present⟩
      · exact ⟨old, oldNames, .inl present⟩
      · exact ⟨key, named, .inl present⟩
    · by_cases isNew : key = new
      · subst isNew
        rcases (joined span).mp within with fromOld | fromNew
        · exact ⟨old, oldNames, .inr ⟨span, fromOld, holds⟩⟩
        · exact ⟨key, named, .inr ⟨span, fromNew, holds⟩⟩
      · rw [spansOf_renamed, if_neg isNew] at within
        split at within
        · cases within
        · exact ⟨key, named, .inr ⟨span, within, holds⟩⟩
  · rintro ⟨key, named, listed | ⟨span, within, holds⟩⟩
    · by_cases isOld : key = old
      · subst isOld
        exact ⟨new, newNames, .inl (mem_renamed.mpr (.inl ⟨rfl, listed⟩))⟩
      · exact ⟨key, named, .inl (mem_renamed.mpr (.inr ⟨isOld, listed⟩))⟩
    · by_cases isOld : key = old
      · subst isOld
        exact ⟨new, newNames, .inr ⟨span, (joined span).mpr (.inl within), holds⟩⟩
      · by_cases isNew : key = new
        · subst isNew
          exact ⟨key, named, .inr ⟨span, (joined span).mpr (.inr within), holds⟩⟩
        · refine ⟨key, named, .inr ⟨span, ?_, holds⟩⟩
          rw [spansOf_renamed, if_neg isNew, if_neg isOld]
          exact within

end Renamed

theorem spansOf_withoutInverted (policy : Policy) (key : String) :
    policy.withoutInverted.spansOf key = (policy.spansOf key).filter fun span => !span.inverted := by
  simp only [spansOf, withoutInverted, KeyMap.get?_mapValues]
  cases policy.disabledLines.get? key <;> rfl

theorem isActive_withoutInverted (policy : Policy) (rule : String) (line : UInt32) :
    policy.withoutInverted.isActive rule line = policy.isActive rule line := by
  have spans : ∀ key span, span.contains line = true →
      (span ∈ policy.withoutInverted.spansOf key ↔ span ∈ policy.spansOf key) := by
    intro key span holds
    have upright : (!span.inverted) = true := by
      by_contra inverted
      rw [Bool.not_eq_true', Bool.not_eq_false] at inverted
      rw [LineSpan.not_contains_of_inverted inverted] at holds
      cases holds
    rw [spansOf_withoutInverted, List.mem_filter]
    exact and_iff_left upright
  apply isActive_eq_of_iff
  simp only [isActive_eq_false]
  refine exists_congr fun key => and_congr_right fun _ => or_congr Iff.rfl ?_
  refine exists_congr fun span => ?_
  constructor
  · rintro ⟨within, holds⟩
    exact ⟨(spans key span holds).mp within, holds⟩
  · rintro ⟨within, holds⟩
    exact ⟨(spans key span holds).mpr within, holds⟩

/-- The rule against hints has two keys, of which one is as good as the other, and no rule depends on
keys that do not name it. Whether the rule against hints is active at a line depends on whether one of
its keys is disabled and on whether a span of one of them covers the line. So each key may be renamed
to the other and the spans joined in either order, inverted spans may be left out, and what stands
under other keys is free. Any other rule depends on the entries under its own name. -/
theorem keys_interchangeable_and_apart :
    (∀ (first second : Policy) (line : UInt32), (first.DisablesHints ↔ second.DisablesHints) →
      (first.CoversHints line ↔ second.CoversHints line) →
      first.isActive "no-type-hints" line = second.isActive "no-type-hints" line) ∧
    (∀ (policy : Policy) (oldFirst : Bool) (line : UInt32),
      (policy.renamed "E3107" "no-type-hints" oldFirst).isActive "no-type-hints" line =
        policy.isActive "no-type-hints" line ∧
      (policy.renamed "no-type-hints" "E3107" oldFirst).isActive "no-type-hints" line =
        policy.isActive "no-type-hints" line) ∧
    (∀ (policy : Policy) (line : UInt32),
      policy.withoutInverted.isActive "no-type-hints" line = policy.isActive "no-type-hints" line) ∧
    (∀ first second : Policy, AgreeAt "no-type-hints" first second → AgreeAt "E3107" first second →
      ∀ line, first.isActive "no-type-hints" line = second.isActive "no-type-hints" line) ∧
    ∀ rule, rule ≠ "no-type-hints" → ∀ first second : Policy, AgreeAt rule first second →
      ∀ line, first.isActive rule line = second.isActive rule line := by
  have symbol : names "no-type-hints" "no-type-hints" = true := names_noTypeHints.mpr (.inl rfl)
  have code : names "E3107" "no-type-hints" = true := names_noTypeHints.mpr (.inr rfl)
  refine ⟨?_, ?_, ?_, ?_, ?_⟩
  · intro first second line disabled covered
    apply isActive_eq_of_iff
    rw [isActive_noTypeHints, isActive_noTypeHints, disabled, covered]
  · intro policy oldFirst line
    exact ⟨isActive_renamed code symbol line, isActive_renamed symbol code line⟩
  · intro policy line
    exact policy.isActive_withoutInverted "no-type-hints" line
  · intro first second bySymbol byCode line
    apply isActive_congr
    intro key named
    rcases names_noTypeHints.mp named with rfl | rfl
    · exact bySymbol
    · exact byCode
  · intro rule other first second agree line
    apply isActive_congr
    intro key named
    rcases names_iff.mp named with rfl | ⟨-, same⟩
    · exact agree
    · exact absurd same other

/-- Spans under both keys, one of them inverted. -/
def scatteredSpans : Policy where
  disabled := .ofKeys ["other"]
  disabledLines := .ofList [("no-type-hints", [⟨1, 2⟩, ⟨9, 8⟩]), ("E3107", [⟨3, 4⟩])]

/-- The same lines in one span, under one key. -/
def gatheredSpan : Policy where
  disabledLines := .ofList [("E3107", [⟨1, 4⟩]), ("other", [⟨0, 9⟩])]

theorem keys_interchangeable_and_apart_scattered :
    (∀ line, scatteredSpans.isActive "no-type-hints" line =
      gatheredSpan.isActive "no-type-hints" line) ∧
    (∀ line, (scatteredSpans.disable "third").isActive "no-type-hints" line =
      scatteredSpans.isActive "no-type-hints" line) ∧
    ∀ line, (scatteredSpans.disable "no-type-hints").isActive "E3107" line =
      scatteredSpans.isActive "E3107" line := by
  obtain ⟨depends, -, -, aside, apart⟩ := keys_interchangeable_and_apart
  refine ⟨fun line => depends _ _ line ?_ ?_, aside _ _ ?_ ?_, apart "E3107" (by decide) _ _ ?_⟩
  · exact iff_of_false (by unfold DisablesHints; decide) (by unfold DisablesHints; decide)
  · have scattered : scatteredSpans.spansOf "no-type-hints" ++ scatteredSpans.spansOf "E3107" =
        [⟨1, 2⟩, ⟨9, 8⟩, ⟨3, 4⟩] := by decide
    have gathered : gatheredSpan.spansOf "no-type-hints" ++ gatheredSpan.spansOf "E3107" =
        [⟨1, 4⟩] := by decide
    simp only [CoversHints, scattered, gathered, List.exists_mem_cons_iff, List.not_mem_nil,
      false_and, exists_false, or_false, UInt32.le_iff_toNat_le, UInt32.reduceToNat]
    omega
  · exact ⟨iff_of_false (by decide) (by decide), rfl⟩
  · exact ⟨iff_of_false (by decide) (by decide), rfl⟩
  · exact ⟨iff_of_false (by decide) (by decide), rfl⟩

end Policy

end HintLint
