import HintLint.Json.Skip
import HintLint.Proofs.Json.Rounds
import Mathlib.Data.List.TakeDrop

/-!
Passing over a value ends where reading it ends. Skipping looks at less than reading does, so
whatever can be read can be skipped; and since nothing nests deeper than its text is long, the bound
that skipping sets itself is never met on the way. Both run in the same rounds, one part after the
other.
-/

namespace HintLint.Json

theorem length_blank_le (text : Unread) : (blank text).length ≤ text.length :=
  List.length_dropWhile_le _ _

theorem literal_length {letters : List Char} {text rest : Unread}
    (spelled : literal letters text = .ok rest) : rest.length ≤ text.length := by
  induction letters generalizing text with
  | nil =>
    cases spelled
    exact Nat.le_refl _
  | cons letter letters ih =>
    cases text with
    | nil => cases spelled
    | cons c text =>
      rw [literal] at spelled
      split at spelled
      · exact Nat.le_succ_of_le (ih spelled)
      · cases spelled

/-! Strings. -/

theorem prepend_eq_ok {c : Char} {read : Except Failure (List Char × Unread)} {chars : List Char}
    {rest : Unread} (ran : prepend c read = .ok (chars, rest)) :
    ∃ tail, read = .ok (tail, rest) := by
  obtain ⟨⟨tail, after⟩, ran, same⟩ := map_eq_ok.mp ran
  cases same
  exact ⟨tail, ran⟩

theorem skipString_of_stringBody {text rest : Unread} {chars : List Char}
    (ran : stringBody text = .ok (chars, rest)) : skipString text = .ok rest := by
  fun_induction stringBody text generalizing chars with
  | case2 =>
    cases ran
    rw [skipString]
  | case7 a b c d high unit _ _ e f g h tail low pair _ ih =>
    obtain ⟨_, ran⟩ := prepend_eq_ok ran
    -- The two halves of a surrogate pair are skipped one after the other.
    rw [skipString, unit]
    simp only
    rw [skipString, pair]
    exact ih ran
  | case10 a b c d tail unit known _ _ ih =>
    obtain ⟨_, ran⟩ := prepend_eq_ok ran
    rw [skipString, known]
    exact ih ran
  | case12 c tail _ notUnit char known ih =>
    obtain ⟨_, ran⟩ := prepend_eq_ok ran
    rw [skipString.eq_def]
    simp_all
  | case15 c tail quote _ _ _ _ printable ih =>
    obtain ⟨_, ran⟩ := prepend_eq_ok ran
    rw [skipString.eq_def]
    simp_all
  | _ => cases ran

theorem skipString_length {text rest : Unread} (ran : skipString text = .ok rest) :
    rest.length < text.length := by
  fun_induction skipString text with
  | case2 =>
    cases ran
    exact Nat.lt_succ_self _
  | case5 _ _ _ _ _ _ _ ih | case7 _ _ _ _ _ _ ih | case10 _ _ _ _ _ _ _ _ ih =>
    have shorter := ih ran
    simp only [List.length_cons]
    omega
  | _ => cases ran

/-! Numbers. -/

theorem exponentValue_rest (value : Nat) (text : Unread) :
    (∀ found rest, exponentValue value text = .ok (found, rest) →
        rest = text.dropWhile Char.isDigit) ∧
      ∀ rest, exponentValue value text = .error rest →
        rest.dropWhile Char.isDigit = text.dropWhile Char.isDigit := by
  induction text generalizing value with
  | nil => simp [exponentValue]
  | cons c text ih =>
    by_cases digit : c.isDigit = true
    · by_cases fits : value * 10 + digitValue c < exponentBound
      · simpa [exponentValue, digit, fits] using ih (value * 10 + digitValue c)
      · simp [exponentValue, digit, fits]
    · simp [exponentValue, digit]

theorem float_rest {negative : Bool} {significand : Nat} {exponent : Int} {text rest : Unread}
    {value : Number} (ran : float negative significand exponent text = .ok (value, rest)) :
    rest = text := by
  rw [float] at ran
  split at ran
  · cases ran
    rfl
  · cases ran

theorem skipExponent_of_float {negative down : Bool} {significand : Nat} {exponent : Int}
    {text rest : Unread} {value : Number}
    (ran : floatWithExponent negative significand exponent down text = .ok (value, rest)) :
    skipExponent text = .ok rest := by
  unfold floatWithExponent at ran
  split at ran
  · cases ran
  · rename_i c tail
    obtain ⟨whole, cut⟩ := exponentValue_rest 0 (c :: tail)
    split at ran
    · rename_i digit
      have digits : (c :: tail).dropWhile Char.isDigit = tail.dropWhile Char.isDigit :=
        List.dropWhile_cons_of_pos digit
      have skipped : skipExponent (c :: tail) = .ok (tail.dropWhile Char.isDigit) := by
        rw [skipExponent, if_pos digit]
      split at ran
      · rename_i found after known
        rw [skipped, float_rest ran, whole _ _ known, digits]
      · rename_i after known
        split at ran
        · cases ran
          rw [skipped, cut _ known, digits]
        · cases ran
    · cases ran

theorem skipTail_of_float {negative : Bool} {significand : Nat} {exponent : Int}
    {text rest : Unread} {value : Number}
    (ran : floatTail negative significand exponent text = .ok (value, rest)) :
    skipTail text = .ok rest := by
  unfold floatTail at ran
  unfold skipTail
  split at ran
  · rename_i marked
    rw [if_pos marked]
    split at ran <;> exact skipExponent_of_float ran
  · rename_i unmarked
    rw [if_neg unmarked, float_rest ran]

theorem fractionPart_eq_ok {text rest : Unread} {fraction : List Char}
    (ran : fractionPart text = .ok (fraction, rest)) :
    ∃ c digits, fraction = c :: digits ∧ text.span Char.isDigit = (c :: digits, rest) := by
  unfold fractionPart at ran
  split at ran
  · cases ran
  · rename_i c tail
    split at ran
    · rename_i digit
      have parted := Except.ok.inj ran
      rw [List.span_eq_takeWhile_dropWhile, List.takeWhile_cons_of_pos digit] at parted ⊢
      obtain ⟨rfl, rfl⟩ := Prod.mk.inj parted
      exact ⟨c, _, rfl, rfl⟩
    · cases ran

theorem skipNumber_of_number {negative : Bool} {text rest : Unread} {value : Number}
    (ran : number negative text = .ok (value, rest)) : skipNumber text = .ok rest := by
  obtain ⟨⟨whole, after⟩, wholeRead, ran⟩ := bind_eq_ok.mp ran
  unfold skipNumber
  split
  · cases wholeRead
  · refine bind_eq_ok.mpr ⟨_, wholeRead, ?_⟩
    simp only at ran ⊢
    split at ran
    · obtain ⟨⟨fraction, afterFraction⟩, fractionRead, ran⟩ := bind_eq_ok.mp ran
      obtain ⟨c, digits, rfl, parted⟩ := fractionPart_eq_ok fractionRead
      rw [parted]
      exact skipTail_of_float ran
    · split at ran
      · rename_i plain
        cases ran
        simp only [Bool.and_eq_true, Bool.not_eq_true'] at plain
        rw [skipTail, plain.2]
        rfl
      · exact skipTail_of_float ran

theorem skipExponent_length {text rest : Unread} (ran : skipExponent text = .ok rest) :
    rest.length ≤ text.length := by
  unfold skipExponent at ran
  split at ran
  · cases ran
  · split at ran
    · cases ran
      exact Nat.le_succ_of_le (List.length_dropWhile_le Char.isDigit _)
    · cases ran

theorem skipTail_length {text rest : Unread} (ran : skipTail text = .ok rest) :
    rest.length ≤ text.length := by
  unfold skipTail at ran
  split at ran
  · have dropped : (text.drop 1).length ≤ text.length := by simp
    have shorter : ∀ {after : Unread}, after.length ≤ (text.drop 1).length →
        skipExponent after = .ok rest → rest.length ≤ text.length := by
      intro after within ran
      exact Nat.le_trans (skipExponent_length ran) (Nat.le_trans within dropped)
    split at ran
    · rename_i signed
      exact shorter (by simp [signed]) ran
    · rename_i signed
      exact shorter (by simp [signed]) ran
    · exact shorter (Nat.le_refl _) ran
  · cases ran
    exact Nat.le_refl _

theorem wholePart_length {text rest : Unread} {digits : List Char}
    (ran : wholePart text = .ok (digits, rest)) : rest.length ≤ text.length := by
  unfold wholePart at ran
  split at ran
  · cases ran
  · split at ran
    · cases ran
    · cases ran
      simp
  · split at ran
    · have parted := Except.ok.inj ran
      rw [List.span_eq_takeWhile_dropWhile] at parted
      obtain ⟨-, rfl⟩ := Prod.mk.inj parted
      exact List.length_dropWhile_le Char.isDigit _
    · cases ran

theorem skipNumber_length {text rest : Unread} (ran : skipNumber text = .ok rest) :
    rest.length ≤ text.length := by
  unfold skipNumber at ran
  split at ran
  · cases ran
  · obtain ⟨⟨whole, after⟩, wholeRead, ran⟩ := bind_eq_ok.mp ran
    have shorter := wholePart_length wholeRead
    simp only at ran
    split at ran
    · rename_i fraction
      split at ran
      · cases ran
      · rename_i digits last _ parted
        have tail := skipTail_length ran
        rw [List.span_eq_takeWhile_dropWhile] at parted
        obtain ⟨-, rfl⟩ := Prod.mk.inj parted
        have dropped := List.length_dropWhile_le Char.isDigit fraction
        simp only [List.length_cons] at shorter
        omega
    · exact Nat.le_trans (skipTail_length ran) shorter

/-! Lists. -/

theorem skipWithin_blank (levels : Nat) (text : Unread) :
    skipWithin levels (blank text) = skipWithin levels text := by
  rw [skipWithin.eq_def levels (blank text), skipWithin.eq_def levels text, blank_blank]

/-- A list stands at its closing bracket, or an element follows, after a comma unless it is the
first. -/
theorem nextElement_cases {first more : Bool} {text start : Unread}
    (next : nextElement first text = .ok (more, start)) :
    (more = false ∧ ∃ tail, blank text = ']' :: tail ∧ start = ']' :: tail) ∨
    (more = true ∧ first = true ∧ start = blank text ∧ ∃ c tail, blank text = c :: tail ∧ c ≠ ']') ∨
    (more = true ∧ first = false ∧ ∃ tail, blank text = ',' :: tail ∧ start = blank tail) := by
  unfold nextElement at next
  split at next
  · cases next
  · rename_i tail starts
    cases next
    exact .inl ⟨rfl, tail, starts, rfl⟩
  · rename_i c tail unclosed starts
    cases first with
    | true =>
      cases next
      exact .inr (.inl ⟨rfl, rfl, starts.symm, c, tail, starts, fun same => unclosed (by rw [same])⟩)
    | false =>
      simp only [Bool.false_eq_true, ↓reduceIte] at next
      split at next
      · rename_i comma
        subst comma
        split at next
        · cases next
        · cases next
        · cases next
          exact .inr (.inr ⟨rfl, rfl, tail, starts, rfl⟩)
      · cases next

theorem nextElement_length {first more : Bool} {text start : Unread}
    (next : nextElement first text = .ok (more, start)) : start.length ≤ text.length := by
  have blankShort := length_blank_le text
  rcases nextElement_cases next with ⟨-, tail, starts, rfl⟩ | ⟨-, -, rfl, -⟩ |
    ⟨-, -, tail, starts, rfl⟩
  · rwa [starts] at blankShort
  · exact blankShort
  · have tailShort := length_blank_le tail
    rw [starts, List.length_cons] at blankShort
    omega

section Lists

variable {skipOne : Unread → Except Failure Unread} {rounds : Nat} {first : Bool}
  {text start after rest : Unread}

theorem closeList_length (closed : closeList text = .ok rest) : rest.length ≤ text.length := by
  have blankShort := length_blank_le text
  unfold closeList at closed
  split at closed
  · cases closed
  · rename_i tail starts
    cases closed
    rw [starts, List.length_cons] at blankShort
    omega
  · split at closed <;> cases closed
  · cases closed

theorem skipElements_close (next : nextElement first text = .ok (false, after))
    (closed : closeList after = .ok rest) :
    skipElements skipOne (rounds + 1) first text = .ok rest := by
  rcases nextElement_cases next with ⟨-, tail, starts, rfl⟩ | ⟨other, -⟩ | ⟨other, -⟩
  · cases closed
    simp only [skipElements, starts]
  · cases other
  · cases other

theorem skipElements_next (blanks : ∀ text, skipOne (blank text) = skipOne text)
    (next : nextElement first text = .ok (true, start)) (one : skipOne start = .ok after)
    (others : skipElements skipOne rounds false after = .ok rest) :
    skipElements skipOne (rounds + 1) first text = .ok rest := by
  rcases nextElement_cases next with ⟨other, -⟩ | ⟨-, rfl, rfl, c, tail, starts, opened⟩ |
    ⟨-, rfl, tail, starts, rfl⟩
  · cases other
  · rw [starts] at one
    rw [skipElements, starts]
    split
    · rename_i same
      cases same
    · rename_i same
      exact absurd (List.cons.inj same).1 opened
    · rename_i same
      cases same
      exact bind_eq_ok.mpr ⟨_, one, others⟩
  · rw [blanks] at one
    rw [skipElements, starts]
    exact bind_eq_ok.mpr ⟨_, one, others⟩

end Lists

/-! Objects. -/

/-- An object stands at its closing bracket, or a key follows, after a comma unless it is the
first. -/
theorem nextKey_cases {first : Bool} {key : Option String} {text start : Unread}
    (next : nextKey first text = .ok (key, start)) :
    (key = none ∧ ∃ tail, blank text = '}' :: tail ∧ start = '}' :: tail) ∨
    ∃ name chars quoted, key = some name ∧ stringBody quoted = .ok (chars, start) ∧
      (first = true ∧ blank text = '"' :: quoted ∨
        first = false ∧ ∃ tail, blank text = ',' :: tail ∧ blank tail = '"' :: quoted) := by
  have named : ∀ {source : Unread}, keyText source = .ok (key, start) →
      ∃ name chars quoted, key = some name ∧ stringBody quoted = .ok (chars, start) ∧
        source = '"' :: quoted := by
    intro source ran
    unfold keyText at ran
    split at ran
    · rename_i quoted
      obtain ⟨⟨chars, after⟩, body, ran⟩ := bind_eq_ok.mp ran
      cases ran
      exact ⟨_, chars, quoted, rfl, body, rfl⟩
    · cases ran
  unfold nextKey at next
  split at next
  · cases next
  · rename_i tail starts
    cases next
    exact .inl ⟨rfl, tail, starts, rfl⟩
  · rename_i c tail _ starts
    right
    cases first with
    | true =>
      obtain ⟨name, chars, quoted, known, body, same⟩ := named next
      exact ⟨name, chars, quoted, known, body, .inl ⟨rfl, starts.trans same⟩⟩
    | false =>
      simp only [Bool.false_eq_true, ↓reduceIte] at next
      split at next
      · rename_i comma
        subst comma
        split at next
        · cases next
        · cases next
        · obtain ⟨name, chars, quoted, known, body, same⟩ := named next
          exact ⟨name, chars, quoted, known, body, .inr ⟨rfl, tail, starts, same⟩⟩
      · cases next

theorem nextKey_length {first : Bool} {key : Option String} {text start : Unread}
    (next : nextKey first text = .ok (key, start)) : start.length ≤ text.length := by
  have blankShort := length_blank_le text
  rcases nextKey_cases next with ⟨-, tail, starts, rfl⟩ |
    ⟨name, chars, quoted, -, body, ⟨-, starts⟩ | ⟨-, tail, starts, startsKey⟩⟩
  · rwa [starts] at blankShort
  · have keyShort := skipString_length (skipString_of_stringBody body)
    rw [starts, List.length_cons] at blankShort
    omega
  · have keyShort := skipString_length (skipString_of_stringBody body)
    have tailShort := length_blank_le tail
    rw [startsKey, List.length_cons] at tailShort
    rw [starts, List.length_cons] at blankShort
    omega

theorem colon_length {text start : Unread} (ran : colon text = .ok start) :
    start.length ≤ text.length := by
  have blankShort := length_blank_le text
  unfold colon at ran
  split at ran
  · cases ran
  · rename_i tail starts
    cases ran
    rw [starts, List.length_cons] at blankShort
    omega
  · cases ran

section Objects

variable {skipOne : Unread → Except Failure Unread} {rounds : Nat} {first : Bool}
  {text start afterColon after rest : Unread}

theorem closeObject_length (closed : closeObject text = .ok rest) : rest.length ≤ text.length := by
  have blankShort := length_blank_le text
  unfold closeObject at closed
  split at closed
  · cases closed
  · rename_i tail starts
    cases closed
    rw [starts, List.length_cons] at blankShort
    omega
  · cases closed
  · cases closed

theorem skipMembers_close (next : nextKey first text = .ok (none, after))
    (closed : closeObject after = .ok rest) :
    skipMembers skipOne (rounds + 1) first text = .ok rest := by
  rcases nextKey_cases next with ⟨-, tail, starts, rfl⟩ | ⟨name, _, _, other, -⟩
  · cases closed
    simp only [skipMembers, starts]
  · cases other

theorem skipMembers_next {key : String} (next : nextKey first text = .ok (some key, start))
    (colonRead : colon start = .ok afterColon) (one : skipOne afterColon = .ok after)
    (others : skipMembers skipOne rounds false after = .ok rest) :
    skipMembers skipOne (rounds + 1) first text = .ok rest := by
  rcases nextKey_cases next with ⟨other, -⟩ |
    ⟨name, chars, quoted, -, body, ⟨rfl, starts⟩ | ⟨rfl, tail, starts, startsKey⟩⟩
  · cases other
  · have member : skipMember skipOne ('"' :: quoted) = .ok after :=
      bind_eq_ok.mpr ⟨_, skipString_of_stringBody body, bind_eq_ok.mpr ⟨_, colonRead, one⟩⟩
    rw [skipMembers, starts]
    exact bind_eq_ok.mpr ⟨_, member, others⟩
  · have member : skipMember skipOne tail = .ok after := by
      rw [skipMember, startsKey]
      exact bind_eq_ok.mpr ⟨_, skipString_of_stringBody body, bind_eq_ok.mpr ⟨_, colonRead, one⟩⟩
    rw [skipMembers, starts]
    exact bind_eq_ok.mpr ⟨_, member, others⟩

end Objects

/-- On texts no longer than the bound, skipping ends where reading does, and not behind the end. -/
def SkipsAs (read : Unread → Except Failure (Value × Unread))
    (skipOne : Unread → Except Failure Unread) (bound : Nat) : Prop :=
  ∀ ⦃text rest : Unread⦄ ⦃value : Value⦄, read text = .ok (value, rest) → text.length ≤ bound →
    rest.length ≤ text.length ∧ skipOne text = .ok rest

namespace SkipsAs

variable {read : Unread → Except Failure (Value × Unread)} {skipOne : Unread → Except Failure Unread}
  {bound rounds : Nat} {first : Bool} {text after rest : Unread}

theorem elements (skips : SkipsAs read skipOne bound)
    (blanks : ∀ text, skipOne (blank text) = skipOne text) {items : List Value}
    (ran : elementsWithin read rounds first text = .ok (items, after))
    (closed : closeList after = .ok rest) (short : text.length ≤ bound) :
    rest.length ≤ text.length ∧ skipElements skipOne rounds first text = .ok rest := by
  induction rounds generalizing first text items with
  | zero => cases ran
  | succ rounds ih =>
    rcases elementsWithin_succ.mp ran with ⟨next, rfl⟩ |
      ⟨item, later, start, afterItem, next, one, others, rfl⟩
    · have shorter := Nat.le_trans (closeList_length closed) (nextElement_length next)
      exact ⟨shorter, skipElements_close next closed⟩
    · have startShort := nextElement_length next
      obtain ⟨itemShort, skipped⟩ := skips one (by omega)
      obtain ⟨restShort, laterSkipped⟩ := ih others (by omega)
      exact ⟨by omega, skipElements_next blanks next skipped laterSkipped⟩

theorem members (skips : SkipsAs read skipOne bound) {kept all : Array (String × Value)}
    (ran : membersWithin (keepMember read) rounds first kept text = .ok (all, after))
    (closed : closeObject after = .ok rest) (short : text.length ≤ bound) :
    rest.length ≤ text.length ∧ skipMembers skipOne rounds first text = .ok rest := by
  induction rounds generalizing first text kept with
  | zero => cases ran
  | succ rounds ih =>
    rcases membersWithin_succ.mp ran with ⟨next, rfl⟩ |
      ⟨key, state, start, afterMember, next, one, others⟩
    · have shorter := Nat.le_trans (closeObject_length closed) (nextKey_length next)
      exact ⟨shorter, skipMembers_close next closed⟩
    · obtain ⟨afterColon, value, colonRead, valueRead, rfl⟩ := keepMember_eq_ok.mp one
      have startShort := nextKey_length next
      have colonShort := colon_length colonRead
      obtain ⟨itemShort, skipped⟩ := skips valueRead (by omega)
      obtain ⟨restShort, laterSkipped⟩ := ih others (by omega)
      exact ⟨by omega, skipMembers_next next colonRead skipped laterSkipped⟩

end SkipsAs

/-- What can be read can be skipped, within any bound that the text is not longer than. -/
theorem any_skips (levels bound : Nat) : SkipsAs (any levels) (skipWithin bound) bound := by
  induction levels using Nat.strongRecOn generalizing bound with
  | ind levels ih =>
    intro text rest value ran short
    have blankShort := length_blank_le text
    rw [any.eq_def] at ran
    split at ran
    case h_1 => cases ran
    case h_2 starts | h_3 starts | h_4 starts =>
      obtain ⟨after, spelled, ran⟩ := bind_eq_ok.mp ran
      cases ran
      have shorter := literal_length spelled
      rw [starts, List.length_cons] at blankShort
      rw [skipWithin.eq_def, starts]
      exact ⟨by omega, spelled⟩
    case h_5 starts =>
      obtain ⟨after, digits, ran⟩ := bind_eq_ok.mp ran
      cases ran
      have skipped := skipNumber_of_number digits
      have shorter := skipNumber_length skipped
      rw [starts, List.length_cons] at blankShort
      rw [skipWithin.eq_def, starts]
      exact ⟨by omega, skipped⟩
    case h_6 starts =>
      obtain ⟨after, body, ran⟩ := bind_eq_ok.mp ran
      cases ran
      have skipped := skipString_of_stringBody body
      have shorter := skipString_length skipped
      rw [starts, List.length_cons] at blankShort
      rw [skipWithin.eq_def, starts]
      exact ⟨by omega, skipped⟩
    case h_7 tail starts =>
      rw [starts, List.length_cons] at blankShort
      cases levels with
      | zero => cases ran
      | succ levels =>
        obtain ⟨⟨items, after⟩, brackets, ran⟩ := bind_eq_ok.mp ran
        cases ran
        obtain ⟨afterItems, body, closed⟩ := enclosed_eq_ok.mp brackets
        obtain ⟨deeper, rfl⟩ : ∃ deeper, bound = deeper + 1 := ⟨bound - 1, by omega⟩
        obtain ⟨shorter, skipped⟩ := (ih levels (Nat.lt_succ_self _) deeper).elements
          (skipWithin_blank deeper) body closed (by omega)
        rw [skipWithin.eq_def, starts]
        exact ⟨by omega, skipped⟩
    case h_8 tail starts =>
      rw [starts, List.length_cons] at blankShort
      cases levels with
      | zero => cases ran
      | succ levels =>
        obtain ⟨⟨kept, after⟩, brackets, ran⟩ := bind_eq_ok.mp ran
        cases ran
        obtain ⟨afterMembers, body, closed⟩ := enclosed_eq_ok.mp brackets
        obtain ⟨deeper, rfl⟩ : ∃ deeper, bound = deeper + 1 := ⟨bound - 1, by omega⟩
        obtain ⟨shorter, skipped⟩ :=
          (ih levels (Nat.lt_succ_self _) deeper).members body closed (by omega)
        rw [skipWithin.eq_def, starts]
        exact ⟨by omega, skipped⟩
    case h_9 c tail _ _ _ _ _ _ _ starts =>
      split at ran
      · rename_i digit
        obtain ⟨after, digits, ran⟩ := bind_eq_ok.mp ran
        cases ran
        have skipped := skipNumber_of_number digits
        have shorter := skipNumber_length skipped
        rw [starts] at blankShort
        refine ⟨by omega, ?_⟩
        rw [skipWithin.eq_def, starts]
        split
        case h_9 same =>
          cases same
          rw [if_pos digit]
          exact skipped
        all_goals
          rename_i same
          cases same
          try exact absurd digit (by decide)
      · cases ran

theorem skip_of_any {levels : Nat} {text rest : Unread} {value : Value}
    (ran : any levels text = .ok (value, rest)) : skip text = .ok rest :=
  (any_skips levels text.length ran (Nat.le_refl _)).2

end HintLint.Json
