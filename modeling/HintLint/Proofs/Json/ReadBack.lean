import HintLint.Json.Writer
import HintLint.Proofs.Json.Rounds
import Mathlib.Data.List.TakeDrop

/-!
Reading inverts writing. The text of a value is read back as that value, and the reading stops exactly
where the text ends, whatever follows. What follows matters only after a number, which must not be
carried on. Floating-point numbers are left out, and the nesting must be within the reader's bound.
-/

namespace HintLint.Json

theorem hexDigit_digitChar {n : Nat} (small : n < 16) : hexDigit? (Nat.digitChar n) = some n := by
  revert n
  decide

theorem codeUnit_digitChar {n : Nat} (small : n < 0x20) :
    codeUnit? '0' '0' (Nat.digitChar (n / 16)) (Nat.digitChar (n % 16)) = some n := by
  have zero : hexDigit? '0' = some 0 := by decide
  have high := hexDigit_digitChar (n := n / 16) (by omega)
  have low := hexDigit_digitChar (n := n % 16) (by omega)
  simp only [codeUnit?, zero, high, low, Option.bind_eq_bind, Option.bind_some, Option.pure_def,
    Option.some.injEq]
  omega

theorem stringBody_plain {c : Char} (quote : c ≠ '"') (backslash : c ≠ '\\')
    (printable : ¬ c.toNat < 0x20) (rest : Unread) :
    stringBody (c :: rest) = prepend c (stringBody rest) := by
  rw [stringBody.eq_def]
  split
  case h_7 same =>
    cases same
    rw [if_neg printable]
  all_goals simp_all

/-- Every character, however it is escaped, is read back as itself. -/
theorem stringBody_escapeChar (c : Char) (rest : Unread) :
    stringBody (escapeChar c ++ rest) = prepend c (stringBody rest) := by
  unfold escapeChar
  split
  case h_8 quote backslash _ _ _ _ _ =>
    split
    · rename_i control
      have unit := codeUnit_digitChar control
      have notLow : isLowSurrogate c.toNat = false := by
        simp only [isLowSurrogate, Bool.and_eq_false_iff, decide_eq_false_iff_not]
        omega
      have notHigh : isHighSurrogate c.toNat = false := by
        simp only [isHighSurrogate, Bool.and_eq_false_iff, decide_eq_false_iff_not]
        omega
      simp only [List.cons_append, List.nil_append, stringBody, unit, notLow, notHigh,
        Bool.false_eq_true, ↓reduceIte, Char.ofNat_toNat]
    · rename_i printable
      exact stringBody_plain (fun same => quote same) (fun same => backslash same) printable rest
  all_goals simp [stringBody, shortEscape?]

theorem stringBody_escaped (chars : List Char) (rest : Unread) :
    stringBody (chars.flatMap escapeChar ++ '"' :: rest) = .ok (chars, rest) := by
  induction chars with
  | nil => simp [stringBody]
  | cons c chars ih =>
    rw [List.flatMap_cons, List.append_assoc, stringBody_escapeChar, ih]
    rfl

theorem writeString_append (name : String) (rest : Unread) :
    writeString name ++ rest = '"' :: (name.toList.flatMap escapeChar ++ '"' :: rest) := by
  simp [writeString]

/-- A text that does not carry on a number that stands before it. -/
def EndsNumber (rest : Unread) : Prop :=
  ∀ c tail, rest = c :: tail → c.isDigit = false ∧ c ≠ '.' ∧ startsExponent rest = false

theorem endsNumber_nil : EndsNumber [] := by
  intro c tail same
  cases same

theorem endsNumber_cons {c : Char} (closing : c = ',' ∨ c = ']' ∨ c = '}') (tail : Unread) :
    EndsNumber (c :: tail) := by
  intro d rest same
  cases same
  rcases closing with rfl | rfl | rfl <;> exact ⟨rfl, by decide, rfl⟩

/-- Digits whose number fits into the significand are all taken into it. -/
theorem absorb_all (digits : List Char) (start : Nat)
    (fits : Nat.ofDigitChars 10 digits start < UInt64.size) :
    absorb start digits = (Nat.ofDigitChars 10 digits start, []) := by
  induction digits generalizing start with
  | nil => simp [absorb]
  | cons c digits ih =>
    rw [Nat.ofDigitChars_cons] at fits ⊢
    have next : start * 10 + digitValue c = 10 * start + (c.toNat - '0'.toNat) := by
      rw [Nat.mul_comm]
      rfl
    have below : 10 * start + (c.toNat - '0'.toNat) < UInt64.size := by
      refine Nat.lt_of_le_of_lt ?_ fits
      rw [Nat.ofDigitChars_eq_ofDigitChars_zero]
      exact Nat.le_trans (Nat.le_mul_of_pos_left _ (Nat.pow_pos (by decide)))
        (Nat.le_add_right _ _)
    simp only [absorb, next, below, ↓reduceIte]
    exact ih _ fits

theorem isDigit_toDigits {n : Nat} : ∀ c ∈ Nat.toDigits 10 n, c.isDigit = true :=
  fun _ listed => Nat.isDigit_of_mem_toDigits (by decide) (by decide) listed

/-- The digits of a number, the first of them apart. -/
theorem toDigits_eq_cons (n : Nat) :
    ∃ d digits, Nat.toDigits 10 n = d :: digits ∧ d.isDigit = true ∧ (0 < n → d ≠ '0') := by
  induction n using Nat.strongRecOn with
  | ind n ih =>
    by_cases small : n < 10
    · refine ⟨_, _, Nat.toDigits_of_lt_base small, ?_, ?_⟩
      · simpa [Nat.isDigit_digitChar] using small
      · intro positive
        simp only [ne_eq, Nat.digitChar_eq_zero]
        omega
    · obtain ⟨d, digits, spelled, digit, leading⟩ := ih (n / 10) (by omega)
      rw [Nat.toDigits_of_base_le (by decide) (by omega), spelled]
      exact ⟨d, _, rfl, digit, fun _ => leading (by omega)⟩

theorem span_digits {digits rest : List Char} (all : ∀ c ∈ digits, c.isDigit = true)
    (ends : EndsNumber rest) : (digits ++ rest).span Char.isDigit = (digits, rest) := by
  have stops : rest.takeWhile Char.isDigit = [] ∧ rest.dropWhile Char.isDigit = rest := by
    cases rest with
    | nil => exact ⟨rfl, rfl⟩
    | cons c tail => simp [(ends c tail rfl).1]
  rw [List.span_eq_takeWhile_dropWhile, List.takeWhile_append_of_pos all,
    List.dropWhile_append_of_pos all, stops.1, stops.2, List.append_nil]

theorem wholePart_toDigits (n : Nat) {rest : Unread} (ends : EndsNumber rest) :
    wholePart (Nat.toDigits 10 n ++ rest) = .ok (Nat.toDigits 10 n, rest) := by
  have parted := span_digits (isDigit_toDigits (n := n)) ends
  rcases Nat.eq_zero_or_pos n with rfl | positive
  · cases rest with
    | nil => rfl
    | cons c tail => simp [wholePart, (ends c tail rfl).1]
  · obtain ⟨d, digits, spelled, digit, leading⟩ := toDigits_eq_cons n
    rw [spelled, List.cons_append] at parted ⊢
    rw [wholePart.eq_def]
    split
    case h_1 same => cases same
    case h_2 same => exact absurd (List.cons.inj same).1 (leading positive)
    case h_3 same =>
      cases same
      rw [if_pos digit, parted]

/-- The digits of a number of 64 bits are read as that number, and no further. -/
theorem number_toDigits (negative : Bool) {n : Nat} (fits : n < UInt64.size) {rest : Unread}
    (ends : EndsNumber rest) :
    number negative (Nat.toDigits 10 n ++ rest) = .ok (wholeNumber negative n, rest) := by
  have value : absorb 0 (Nat.toDigits 10 n) = (n, []) := by
    have all := absorb_all (Nat.toDigits 10 n) 0 (by simpa using fits)
    simpa using all
  unfold number
  rw [wholePart_toDigits n ends]
  simp only [bind, Except.bind, value, List.isEmpty_nil, Bool.true_and]
  cases rest with
  | nil => rfl
  | cons c tail =>
    obtain ⟨-, point, exponent⟩ := ends c tail rfl
    split
    · rename_i same
      exact absurd (List.cons.inj same).1 point
    · simp [exponent]

/-- Whole numbers that fit into 64 bits, with a sign if they are negative. -/
def Number.Legible : Number → Prop
  | .integer n => -(greatestNegated : Int) ≤ n ∧ n < UInt64.size
  | .float _ _ => False

/-- Values that are read back from their text: numbers are whole and fit into 64 bits, and lists and
objects nest at most as deep as given. -/
def Value.Legible : Nat → Value → Prop
  | _, .null | _, .bool _ | _, .string _ => True
  | _, .number value => value.Legible
  | 0, .array _ | 0, .object _ => False
  | levels + 1, .array items => ∀ item ∈ items, item.Legible levels
  | levels + 1, .object members => ∀ member ∈ members, member.2.Legible levels

namespace Value

theorem legible_array {items : List Value} {levels : Nat} :
    (Value.array items).Legible (levels + 1) ↔ ∀ item ∈ items, item.Legible levels :=
  Iff.rfl

theorem legible_object {members : List (String × Value)} {levels : Nat} :
    (Value.object members).Legible (levels + 1) ↔ ∀ member ∈ members, member.2.Legible levels :=
  Iff.rfl

theorem string_legible (text : String) (levels : Nat) : (Value.string text).Legible levels := by
  cases levels <;> trivial

theorem ofWord_legible (word : UInt32) (levels : Nat) : (ofWord word).Legible levels := by
  have below := word.toNat_lt_size
  have wide : UInt32.size ≤ UInt64.size := by decide
  have legible : -(greatestNegated : Int) ≤ word.toNat ∧ (word.toNat : Int) < UInt64.size :=
    ⟨by omega, by omega⟩
  cases levels <;> exact legible

theorem ofOption_legible {α : Type} {toValue : α → Value} {levels : Nat}
    (legible : ∀ a, (toValue a).Legible levels) (found : Option α) :
    (ofOption toValue found).Legible levels := by
  cases found with
  | none => cases levels <;> trivial
  | some a => exact legible a

end Value

theorem blank_digit {c : Char} (digit : c.isDigit = true) (rest : Unread) :
    blank (c :: rest) = c :: rest := by
  have solid : (c == ' ' || c == '\n' || c == '\t' || c == '\r') = false := by
    simp only [Bool.or_eq_false_iff, beq_eq_false_iff_ne]
    refine ⟨⟨⟨?_, ?_⟩, ?_⟩, ?_⟩ <;> rintro rfl <;> exact absurd digit (by decide)
  rw [blank, List.dropWhile_cons_of_neg (by rw [solid]; decide)]

theorem any_digit {text rest after : Unread} {c : Char} {value : Number} (levels : Nat)
    (starts : blank text = c :: rest) (digit : c.isDigit = true)
    (read : number false (c :: rest) = .ok (value, after)) :
    any levels text = .ok (.number value, after) := by
  rw [any.eq_def, starts]
  split
  case h_9 same =>
    cases same
    rw [if_pos digit]
    exact bind_eq_ok.mpr ⟨_, read, rfl⟩
  all_goals
    rename_i same
    cases same
    try exact absurd digit (by decide)

theorem any_writeNumber {n : Number} (legible : n.Legible) (levels : Nat) {rest : Unread}
    (ends : EndsNumber rest) : any levels (n.write ++ rest) = .ok (.number n, rest) := by
  cases n with
  | float => exact legible.elim
  | integer n =>
    obtain ⟨lower, upper⟩ := legible
    cases n with
    | ofNat n =>
      have read := number_toDigits false (Int.ofNat_lt.mp upper) ends
      obtain ⟨d, digits, spelled, digit, -⟩ := toDigits_eq_cons n
      rw [spelled, List.cons_append] at read
      rw [Number.write, spelled, List.cons_append]
      exact any_digit levels (blank_digit digit _) digit read
    | negSucc n =>
      have fits : n + 1 ≤ greatestNegated := by omega
      have read := number_toDigits true (Nat.lt_of_le_of_lt fits (by decide)) ends
      have value : wholeNumber true (n + 1) = .integer (.negSucc n) := by
        have proper : ¬ (n + 1 = 0 ∨ greatestNegated < n + 1) := by omega
        simp only [wholeNumber, ↓reduceIte, if_neg proper]
        rfl
      rw [value] at read
      have starts : blank ('-' :: (Nat.toDigits 10 (n + 1) ++ rest)) =
          '-' :: (Nat.toDigits 10 (n + 1) ++ rest) := rfl
      rw [Number.write, List.cons_append, any.eq_def, starts]
      exact bind_eq_ok.mpr ⟨_, read, rfl⟩

/-- A text with neither a blank nor the closing bracket of a list in front. -/
def StartsValue (text : Unread) : Prop := ∃ c rest, text = c :: rest ∧ blank text = text ∧ c ≠ ']'

theorem startsValue_write {levels : Nat} {value : Value} (legible : value.Legible levels)
    (rest : Unread) : StartsValue (value.write ++ rest) := by
  cases value with
  | null => exact ⟨_, _, rfl, rfl, by decide⟩
  | bool value => cases value <;> exact ⟨_, _, rfl, rfl, by decide⟩
  | string text => exact ⟨_, _, rfl, rfl, by decide⟩
  | array items => cases items <;> exact ⟨_, _, rfl, rfl, by decide⟩
  | object members => cases members <;> exact ⟨_, _, rfl, rfl, by decide⟩
  | number n =>
    cases n with
    | float => cases levels <;> exact legible.elim
    | integer n =>
      cases n with
      | negSucc n => exact ⟨_, _, rfl, rfl, by decide⟩
      | ofNat n =>
        obtain ⟨d, digits, spelled, digit, -⟩ := toDigits_eq_cons n
        have written : Value.write (.number (.integer (.ofNat n))) = d :: digits := by
          simpa only [Value.write, Number.write] using spelled
        rw [written]
        refine ⟨d, digits ++ rest, rfl, blank_digit digit _, ?_⟩
        rintro rfl
        exact absurd digit (by decide)

theorem nextElement_first {text : Unread} (starts : StartsValue text) :
    nextElement true text = .ok (true, text) := by
  obtain ⟨c, rest, rfl, solid, opened⟩ := starts
  simp [nextElement, solid]

theorem nextElement_comma {text : Unread} (starts : StartsValue text) :
    nextElement false (',' :: text) = .ok (true, text) := by
  obtain ⟨c, rest, rfl, solid, opened⟩ := starts
  have comma : ∀ tail, blank (',' :: tail) = ',' :: tail := fun _ => rfl
  simp [nextElement, solid, comma, opened]

theorem writeItems_ends (items : List Value) (rest : Unread) :
    EndsNumber (Value.writeItems items ++ rest) := by
  cases items <;> exact endsNumber_cons (by simp) _

theorem writeMembers_ends (members : List (String × Value)) (rest : Unread) :
    EndsNumber (Value.writeMembers members ++ rest) := by
  cases members with
  | nil => exact endsNumber_cons (by simp) _
  | cons member members => exact endsNumber_cons (by simp) _

/-- Each item and each closing takes at least one character, so the rounds do not run out. -/
theorem writeItems_length (items : List Value) :
    items.length < (Value.writeItems items).length := by
  induction items with
  | nil => simp [Value.writeItems]
  | cons item items ih =>
    simp only [Value.writeItems, List.length_cons, List.cons_append, List.length_append]
    omega

theorem writeMembers_length (members : List (String × Value)) :
    members.length < (Value.writeMembers members).length := by
  induction members with
  | nil => simp [Value.writeMembers]
  | cons member members ih =>
    simp only [Value.writeMembers, List.length_cons, List.cons_append, List.length_append]
    omega

theorem nextKey_first (key : String) (rest : Unread) :
    nextKey true (writeString key ++ rest) = .ok (some key, rest) := by
  rw [writeString_append]
  exact bind_eq_ok.mpr ⟨_, stringBody_escaped _ _, by simp [pure, Except.pure]⟩

theorem nextKey_comma (key : String) (rest : Unread) :
    nextKey false (',' :: (writeString key ++ rest)) = .ok (some key, rest) := by
  rw [writeString_append]
  exact bind_eq_ok.mpr ⟨_, stringBody_escaped _ _, by simp [pure, Except.pure]⟩

section Written

-- `read` stands for the reader one level down, which reads back what is written inside the brackets.
variable {read : Unread → Except Failure (Value × Unread)} {levels : Nat}

theorem elementsWithin_written {items : List Value} (legible : ∀ item ∈ items, item.Legible levels)
    (reads : ∀ item ∈ items, ∀ rest, EndsNumber rest → read (item.write ++ rest) = .ok (item, rest))
    {rounds : Nat} (enough : items.length < rounds) (rest : Unread) :
    elementsWithin read rounds false (Value.writeItems items ++ rest) =
      .ok (items, ']' :: rest) := by
  induction items generalizing rounds with
  | nil =>
    obtain ⟨rounds, rfl⟩ := Nat.exists_eq_add_of_lt enough
    exact elementsWithin_succ.mpr (.inl ⟨rfl, rfl⟩)
  | cons item items ih =>
    obtain ⟨rounds, rfl⟩ := Nat.exists_eq_add_of_lt enough
    have starts := startsValue_write (legible item (by simp)) (Value.writeItems items ++ rest)
    have next := nextElement_comma starts
    have one := reads item (by simp) _ (writeItems_ends items rest)
    have others := ih (fun item listed => legible item (by simp [listed]))
      (fun item listed => reads item (by simp [listed])) (Nat.lt_add_right rounds (Nat.lt_succ_self _))
    rw [Value.writeItems, List.append_assoc, List.cons_append]
    exact elementsWithin_succ.mpr (.inr ⟨item, items, _, _, next, one, others, rfl⟩)

theorem elements_written {item : Value} {items : List Value}
    (legible : ∀ each ∈ item :: items, each.Legible levels)
    (reads : ∀ each ∈ item :: items, ∀ rest, EndsNumber rest →
      read (each.write ++ rest) = .ok (each, rest)) (rest : Unread) :
    elements read true (item.write ++ Value.writeItems items ++ rest) =
      .ok (item :: items, ']' :: rest) := by
  have starts := startsValue_write (legible item (by simp)) (Value.writeItems items ++ rest)
  have next := nextElement_first starts
  have one := reads item (by simp) _ (writeItems_ends items rest)
  have enough : items.length < (item.write ++ (Value.writeItems items ++ rest)).length := by
    have long := writeItems_length items
    simp only [List.length_append]
    omega
  have others := elementsWithin_written (fun each listed => legible each (by simp [listed]))
    (fun each listed => reads each (by simp [listed])) enough rest
  rw [List.append_assoc]
  exact elementsWithin_succ.mpr (.inr ⟨item, items, _, _, next, one, others, rfl⟩)

theorem keepMember_written {value : Value} {rest : Unread}
    (reads : read (value.write ++ rest) = .ok (value, rest)) (kept : Array (String × Value))
    (key : String) :
    keepMember read kept key (':' :: (value.write ++ rest)) = .ok (kept.push (key, value), rest) :=
  keepMember_eq_ok.mpr ⟨_, value, rfl, reads, rfl⟩

theorem membersWithin_written {pairs : List (String × Value)}
    (reads : ∀ pair ∈ pairs, ∀ rest, EndsNumber rest →
      read (pair.2.write ++ rest) = .ok (pair.2, rest))
    {rounds : Nat} (enough : pairs.length < rounds) (kept : Array (String × Value))
    (rest : Unread) :
    membersWithin (keepMember read) rounds false kept (Value.writeMembers pairs ++ rest) =
      .ok (kept ++ pairs.toArray, '}' :: rest) := by
  induction pairs generalizing rounds kept with
  | nil =>
    obtain ⟨rounds, rfl⟩ := Nat.exists_eq_add_of_lt enough
    exact membersWithin_succ.mpr (.inl ⟨rfl, by simp⟩)
  | cons pair pairs ih =>
    obtain ⟨key, value⟩ := pair
    obtain ⟨rounds, rfl⟩ := Nat.exists_eq_add_of_lt enough
    have next := nextKey_comma key (':' :: (value.write ++ (Value.writeMembers pairs ++ rest)))
    have one := keepMember_written
      (reads (key, value) (by simp) _ (writeMembers_ends pairs rest)) kept key
    have others := ih (fun pair listed => reads pair (by simp [listed]))
      (Nat.lt_add_right rounds (Nat.lt_succ_self _)) (kept.push (key, value))
    have text : Value.writeMembers ((key, value) :: pairs) ++ rest =
        ',' :: (writeString key ++ ':' :: (value.write ++ (Value.writeMembers pairs ++ rest))) := by
      simp [Value.writeMembers]
    have all : kept ++ ((key, value) :: pairs).toArray = kept.push (key, value) ++ pairs.toArray := by
      simp
    rw [text, all]
    exact membersWithin_succ.mpr (.inr ⟨key, _, _, _, next, one, others⟩)

theorem members_written {key : String} {value : Value} {pairs : List (String × Value)}
    (reads : ∀ pair ∈ (key, value) :: pairs, ∀ rest, EndsNumber rest →
      read (pair.2.write ++ rest) = .ok (pair.2, rest)) (rest : Unread) :
    members (keepMember read) #[]
        (writeString key ++ ':' :: value.write ++ Value.writeMembers pairs ++ rest) =
      .ok (((key, value) :: pairs).toArray, '}' :: rest) := by
  have text : writeString key ++ ':' :: value.write ++ Value.writeMembers pairs ++ rest =
      writeString key ++ ':' :: (value.write ++ (Value.writeMembers pairs ++ rest)) := by
    simp
  have next := nextKey_first key (':' :: (value.write ++ (Value.writeMembers pairs ++ rest)))
  have one := keepMember_written
    (reads (key, value) (by simp) _ (writeMembers_ends pairs rest)) #[] key
  have enough : pairs.length <
      (writeString key ++ ':' :: (value.write ++ (Value.writeMembers pairs ++ rest))).length := by
    have long := writeMembers_length pairs
    simp only [List.length_append, List.length_cons]
    omega
  have others := membersWithin_written (fun pair listed => reads pair (by simp [listed])) enough
    (#[].push (key, value)) rest
  have all : #[].push (key, value) ++ pairs.toArray = ((key, value) :: pairs).toArray := by
    simp
  rw [all] at others
  rw [text]
  exact membersWithin_succ.mpr (.inr ⟨key, _, _, _, next, one, others⟩)

end Written

/-- The text of a legible value is read back as the value, up to exactly its end. -/
theorem any_write {levels : Nat} {value : Value} (legible : value.Legible levels) {rest : Unread}
    (ends : EndsNumber rest) : any levels (value.write ++ rest) = .ok (value, rest) := by
  induction levels using Nat.strongRecOn generalizing value rest with
  | ind levels ih =>
    cases value with
    | null => cases levels <;> rfl
    | bool value => cases levels <;> cases value <;> rfl
    | number n => cases levels <;> exact any_writeNumber legible _ ends
    | string text =>
      exact any_string_iff.mpr ⟨_, _, writeString_append text rest, stringBody_escaped _ _, by simp⟩
    | array items =>
      cases levels with
      | zero => exact legible.elim
      | succ levels =>
        cases items with
        | nil => rfl
        | cons item items =>
          have body := elements_written legible
            (fun each listed _ => ih levels (Nat.lt_succ_self _) (legible each listed)) rest
          exact any_array_iff.mpr ⟨levels, _, rfl, rfl, enclosed_eq_ok.mpr ⟨_, body, rfl⟩⟩
    | object members =>
      cases levels with
      | zero => exact legible.elim
      | succ levels =>
        cases members with
        | nil => rfl
        | cons member members =>
          have body := members_written
            (fun each listed _ => ih levels (Nat.lt_succ_self _) (legible each listed)) rest
          exact any_object_iff.mpr ⟨levels, _, rfl, rfl, enclosed_eq_ok.mpr ⟨_, body, rfl⟩⟩

/-- Parsing inverts writing. -/
theorem parse_toText {value : Value} (legible : value.Legible nestingLimit) :
    Value.parse value.toText = .ok value := by
  have read := any_write legible endsNumber_nil
  rw [List.append_nil] at read
  rw [Value.parse, Json.parse, Value.toText, String.toList_ofList, read]
  rfl

/-! The text of a list, item by item. -/

namespace Value

theorem write_append_items (item : Value) (items : List Value) :
    item.write ++ writeItems items = [','].intercalate ((item :: items).map write) ++ [']'] := by
  induction items generalizing item with
  | nil => simp [writeItems]
  | cons next items ih => simp [writeItems, ih, List.intercalate_cons_cons]

/-- A list is written as the texts of its items with commas between them. -/
theorem toText_array (items : List Value) :
    (Value.array items).toText = "[" ++ ",".intercalate (items.map toText) ++ "]" := by
  have spelled : (items.map toText).map String.toList = items.map write := by
    rw [List.map_map]
    exact List.map_congr_left fun item _ => String.toList_ofList
  apply String.toList_inj.mp
  simp only [String.toList_append, String.toList_intercalate, spelled]
  rw [toText, String.toList_ofList]
  cases items with
  | nil => rfl
  | cons item items =>
    rw [write, List.cons_append, write_append_items]
    rfl

end Value

end HintLint.Json
