import HintLint.Json.Reader
import Mathlib.Data.List.Forall2
import Mathlib.Data.List.DropRight

/-!
What one round of each reading loop does, stated once for a successful reading. A loop over elements
or members either stands at the closing bracket or takes one part and goes on; brackets are read when
the body and then the closing are; and the first character that is not blank decides which kind of
value `any` reads. Later proofs go by these equivalences and never open the loops.
-/

namespace HintLint.Json

/-- Two steps succeed together when the first does and the second does with its result. -/
theorem bind_eq_ok {ε α β : Type} {first : Except ε α} {second : α → Except ε β} {b : β} :
    (first >>= second) = .ok b ↔ ∃ a, first = .ok a ∧ second a = .ok b := by
  cases first with
  | error cause =>
    exact ⟨fun failed => (nomatch failed), fun ⟨_, failed, _⟩ => (nomatch failed)⟩
  | ok a =>
    constructor
    · intro ran
      exact ⟨a, rfl, ran⟩
    · rintro ⟨_, same, ran⟩
      cases same
      exact ran

theorem map_eq_ok {ε α β : Type} {f : α → β} {result : Except ε α} {b : β} :
    result.map f = .ok b ↔ ∃ a, result = .ok a ∧ f a = b := by
  cases result with
  | error cause =>
    exact ⟨fun failed => (nomatch failed), fun ⟨_, failed, _⟩ => (nomatch failed)⟩
  | ok a =>
    constructor
    · intro ran
      exact ⟨a, rfl, Except.ok.inj ran⟩
    · rintro ⟨_, same, rfl⟩
      cases same
      rfl

theorem pure_eq_ok {ε α : Type} {a b : α} : (pure a : Except ε α) = .ok b ↔ a = b :=
  ⟨Except.ok.inj, congrArg _⟩

/-- A list is decoded when each of its items is. -/
theorem mapM_eq_ok {ε α β : Type} {decode : α → Except ε β} {items : List α} {results : List β} :
    items.mapM decode = .ok results ↔
      List.Forall₂ (fun item result => decode item = .ok result) items results := by
  induction items generalizing results with
  | nil =>
    rw [List.mapM_nil, pure_eq_ok, List.forall₂_nil_left_iff]
    exact eq_comm
  | cons item items ih =>
    simp only [List.mapM_cons, bind_eq_ok, pure_eq_ok, ih, List.forall₂_cons_left_iff]
    constructor
    · rintro ⟨result, head, results, tail, rfl⟩
      exact ⟨result, results, head, tail, rfl⟩
    · rintro ⟨result, results, head, tail, rfl⟩
      exact ⟨result, head, results, tail, rfl⟩

theorem blank_blank (text : Unread) : blank (blank text) = blank text :=
  List.dropWhile_idempotent _ _

/-- Reading any value starts with passing over blanks, so blanks in front change nothing. -/
theorem any_blank (levels : Nat) (text : Unread) : any levels (blank text) = any levels text := by
  rw [any.eq_def levels (blank text), any.eq_def levels text, blank_blank]

section Loops

variable {α σ : Type} {read : Unread → Except Failure (α × Unread)}
  {visit : σ → String → Unread → Except Failure (σ × Unread)}

/-- One round of a list: the closing bracket, or one element and the rounds after it. -/
theorem elementsWithin_succ {rounds : Nat} {first : Bool} {text rest : Unread} {items : List α} :
    elementsWithin read (rounds + 1) first text = .ok (items, rest) ↔
      (nextElement first text = .ok (false, rest) ∧ items = []) ∨
      ∃ item later start after, nextElement first text = .ok (true, start) ∧
        read start = .ok (item, after) ∧
        elementsWithin read rounds false after = .ok (later, rest) ∧ items = item :: later := by
  rw [elementsWithin, bind_eq_ok]
  constructor
  · rintro ⟨⟨more, start⟩, next, ran⟩
    cases more with
    | false =>
      obtain ⟨rfl, rfl⟩ := Prod.mk.inj (pure_eq_ok.mp ran)
      exact .inl ⟨next, rfl⟩
    | true =>
      obtain ⟨⟨item, after⟩, one, ran⟩ := bind_eq_ok.mp ran
      obtain ⟨⟨later, last⟩, others, ran⟩ := bind_eq_ok.mp ran
      obtain ⟨rfl, rfl⟩ := Prod.mk.inj (pure_eq_ok.mp ran)
      exact .inr ⟨item, later, start, after, next, one, others, rfl⟩
  · rintro (⟨next, rfl⟩ | ⟨item, later, start, after, next, one, others, rfl⟩)
    · exact ⟨_, next, rfl⟩
    · exact ⟨_, next, bind_eq_ok.mpr ⟨_, one, bind_eq_ok.mpr ⟨_, others, rfl⟩⟩⟩

/-- One round of an object: the closing bracket, or one member and the rounds after it. -/
theorem membersWithin_succ {rounds : Nat} {first : Bool} {state last : σ} {text rest : Unread} :
    membersWithin visit (rounds + 1) first state text = .ok (last, rest) ↔
      (nextKey first text = .ok (none, rest) ∧ state = last) ∨
      ∃ key next start after, nextKey first text = .ok (some key, start) ∧
        visit state key start = .ok (next, after) ∧
        membersWithin visit rounds false next after = .ok (last, rest) := by
  rw [membersWithin, bind_eq_ok]
  constructor
  · rintro ⟨⟨key, start⟩, found, ran⟩
    cases key with
    | none =>
      obtain ⟨rfl, rfl⟩ := Prod.mk.inj (pure_eq_ok.mp ran)
      exact .inl ⟨found, rfl⟩
    | some key =>
      obtain ⟨⟨next, after⟩, one, others⟩ := bind_eq_ok.mp ran
      exact .inr ⟨key, next, start, after, found, one, others⟩
  · rintro (⟨found, rfl⟩ | ⟨key, next, start, after, found, one, others⟩)
    · exact ⟨_, found, rfl⟩
    · exact ⟨_, found, bind_eq_ok.mpr ⟨_, one, others⟩⟩

/-- Brackets are read when the body is and the closing is after it. -/
theorem enclosed_eq_ok {close : Unread → Except Failure Unread} {text last : Unread} {a : α} :
    enclosed close read text = .ok (a, last) ↔
      ∃ rest, read text = .ok (a, rest) ∧ close rest = .ok last := by
  unfold enclosed
  constructor
  · intro ran
    split at ran
    · rename_i value rest body
      obtain ⟨_, closed, ran⟩ := bind_eq_ok.mp ran
      obtain ⟨rfl, rfl⟩ := Prod.mk.inj (pure_eq_ok.mp ran)
      exact ⟨rest, body, closed⟩
    · cases ran
    · cases ran
  · rintro ⟨rest, body, closed⟩
    rw [body]
    exact bind_eq_ok.mpr ⟨last, closed, rfl⟩

end Loops

/-- A member is kept when its colon and its value are read. -/
theorem keepMember_eq_ok {read : Unread → Except Failure (Value × Unread)}
    {kept all : Array (String × Value)} {key : String} {text rest : Unread} :
    keepMember read kept key text = .ok (all, rest) ↔
      ∃ start value, colon text = .ok start ∧ read start = .ok (value, rest) ∧
        all = kept.push (key, value) := by
  rw [keepMember, bind_eq_ok]
  constructor
  · rintro ⟨start, colonRead, ran⟩
    obtain ⟨⟨value, after⟩, valueRead, ran⟩ := bind_eq_ok.mp ran
    obtain ⟨rfl, rfl⟩ := Prod.mk.inj (pure_eq_ok.mp ran)
    exact ⟨start, value, colonRead, valueRead, rfl⟩
  · rintro ⟨start, value, colonRead, valueRead, rfl⟩
    exact ⟨start, colonRead, bind_eq_ok.mpr ⟨_, valueRead, rfl⟩⟩

/-- What a value was read from. The first character that is not blank tells the kind of the value; of
numbers and truth values no more is said. -/
inductive ReadFrom (text rest : Unread) : Nat → Value → Prop where
  | null {levels : Nat} {tail : Unread} (starts : blank text = 'n' :: tail)
      (spelled : literal ['u', 'l', 'l'] tail = .ok rest) : ReadFrom text rest levels .null
  | bool {levels : Nat} {letter : Char} {tail : Unread} (answer : Bool)
      (starts : blank text = letter :: tail) (known : letter = 't' ∨ letter = 'f') :
      ReadFrom text rest levels (.bool answer)
  | number {levels : Nat} {sign : Char} {tail : Unread} (number : Number)
      (starts : blank text = sign :: tail) (known : sign = '-' ∨ sign.isDigit = true) :
      ReadFrom text rest levels (.number number)
  | string {levels : Nat} {tail : Unread} {chars : List Char} (starts : blank text = '"' :: tail)
      (body : stringBody tail = .ok (chars, rest)) :
      ReadFrom text rest levels (.string (String.ofList chars))
  | array {levels : Nat} {tail : Unread} {items : List Value} (starts : blank text = '[' :: tail)
      (body : enclosed closeList (elements (any levels) true) tail = .ok (items, rest)) :
      ReadFrom text rest (levels + 1) (.array items)
  | object {levels : Nat} {tail : Unread} {kept : Array (String × Value)}
      (starts : blank text = '{' :: tail)
      (body : enclosed closeObject (members (keepMember (any levels)) #[]) tail = .ok (kept, rest)) :
      ReadFrom text rest (levels + 1) (.object kept.toList)

theorem any_readFrom {levels : Nat} {text rest : Unread} {value : Value}
    (ran : any levels text = .ok (value, rest)) : ReadFrom text rest levels value := by
  rw [any.eq_def] at ran
  split at ran
  case h_1 => cases ran
  case h_2 starts =>
    obtain ⟨_, spelled, ran⟩ := bind_eq_ok.mp ran
    obtain ⟨rfl, rfl⟩ := Prod.mk.inj (pure_eq_ok.mp ran)
    exact .null starts spelled
  case h_3 starts =>
    obtain ⟨_, _, ran⟩ := bind_eq_ok.mp ran
    obtain ⟨rfl, -⟩ := Prod.mk.inj (pure_eq_ok.mp ran)
    exact .bool true starts (.inl rfl)
  case h_4 starts =>
    obtain ⟨_, _, ran⟩ := bind_eq_ok.mp ran
    obtain ⟨rfl, -⟩ := Prod.mk.inj (pure_eq_ok.mp ran)
    exact .bool false starts (.inr rfl)
  case h_5 starts =>
    obtain ⟨_, _, ran⟩ := bind_eq_ok.mp ran
    obtain ⟨rfl, -⟩ := Prod.mk.inj (pure_eq_ok.mp ran)
    exact .number _ starts (.inl rfl)
  case h_6 starts =>
    obtain ⟨_, body, ran⟩ := bind_eq_ok.mp ran
    obtain ⟨rfl, rfl⟩ := Prod.mk.inj (pure_eq_ok.mp ran)
    exact .string starts body
  case h_7 starts =>
    cases levels with
    | zero => cases ran
    | succ levels =>
      obtain ⟨_, body, ran⟩ := bind_eq_ok.mp ran
      obtain ⟨rfl, rfl⟩ := Prod.mk.inj (pure_eq_ok.mp ran)
      exact .array starts body
  case h_8 starts =>
    cases levels with
    | zero => cases ran
    | succ levels =>
      obtain ⟨_, body, ran⟩ := bind_eq_ok.mp ran
      obtain ⟨rfl, rfl⟩ := Prod.mk.inj (pure_eq_ok.mp ran)
      exact .object starts body
  case h_9 starts =>
    split at ran
    · rename_i digit
      obtain ⟨_, _, ran⟩ := bind_eq_ok.mp ran
      obtain ⟨rfl, -⟩ := Prod.mk.inj (pure_eq_ok.mp ran)
      exact .number _ starts (.inr digit)
    · cases ran

/-- No value of another kind starts as `null`, a list or an object does. -/
theorem ReadFrom.of_starts {text rest tail : Unread} {levels : Nat} {value : Value} {c : Char}
    (read : ReadFrom text rest levels value) (starts : blank text = c :: tail) :
    (c = 'n' → value = .null) ∧ (c = '[' → ∃ items, value = .array items) ∧
      (c = '{' → ∃ members, value = .object members) := by
  cases read with
  | null begins =>
    obtain ⟨rfl, -⟩ := List.cons.inj (starts.symm.trans begins)
    exact ⟨fun _ => rfl, fun other => (nomatch other), fun other => (nomatch other)⟩
  | bool _ begins known =>
    obtain ⟨rfl, -⟩ := List.cons.inj (starts.symm.trans begins)
    rcases known with rfl | rfl <;> simp
  | number _ begins known =>
    obtain ⟨rfl, -⟩ := List.cons.inj (starts.symm.trans begins)
    refine ⟨?_, ?_, ?_⟩ <;> rintro rfl <;> simp at known
  | string begins =>
    obtain ⟨rfl, -⟩ := List.cons.inj (starts.symm.trans begins)
    simp
  | array begins =>
    obtain ⟨rfl, -⟩ := List.cons.inj (starts.symm.trans begins)
    simp
  | object begins =>
    obtain ⟨rfl, -⟩ := List.cons.inj (starts.symm.trans begins)
    simp

theorem any_null_iff {levels : Nat} {text rest : Unread} :
    any levels text = .ok (.null, rest) ↔
      ∃ tail, blank text = 'n' :: tail ∧ literal ['u', 'l', 'l'] tail = .ok rest := by
  constructor
  · intro ran
    cases any_readFrom ran with
    | null starts spelled => exact ⟨_, starts, spelled⟩
  · rintro ⟨tail, starts, spelled⟩
    rw [any.eq_def, starts]
    exact bind_eq_ok.mpr ⟨_, spelled, rfl⟩

theorem any_string_iff {levels : Nat} {text rest : Unread} {name : String} :
    any levels text = .ok (.string name, rest) ↔
      ∃ tail chars, blank text = '"' :: tail ∧ stringBody tail = .ok (chars, rest) ∧
        name = String.ofList chars := by
  constructor
  · intro ran
    cases any_readFrom ran with
    | string starts body => exact ⟨_, _, starts, body, rfl⟩
  · rintro ⟨tail, chars, starts, body, rfl⟩
    rw [any.eq_def, starts]
    exact bind_eq_ok.mpr ⟨_, body, rfl⟩

/-- A list stands one level deeper than its elements. -/
theorem any_array_iff {levels : Nat} {text rest : Unread} {items : List Value} :
    any levels text = .ok (.array items, rest) ↔
      ∃ below tail, levels = below + 1 ∧ blank text = '[' :: tail ∧
        enclosed closeList (elements (any below) true) tail = .ok (items, rest) := by
  constructor
  · intro ran
    cases any_readFrom ran with
    | array starts body => exact ⟨_, _, rfl, starts, body⟩
  · rintro ⟨below, tail, rfl, starts, body⟩
    rw [any.eq_def, starts]
    exact bind_eq_ok.mpr ⟨_, body, rfl⟩

/-- An object stands one level deeper than the values of its members. -/
theorem any_object_iff {levels : Nat} {text rest : Unread} {pairs : List (String × Value)} :
    any levels text = .ok (.object pairs, rest) ↔
      ∃ below tail, levels = below + 1 ∧ blank text = '{' :: tail ∧
        enclosed closeObject (members (keepMember (any below)) #[]) tail =
          .ok (pairs.toArray, rest) := by
  constructor
  · intro ran
    cases any_readFrom ran with
    | object starts body => exact ⟨_, _, rfl, starts, body⟩
  · rintro ⟨below, tail, rfl, starts, body⟩
    rw [any.eq_def, starts]
    exact bind_eq_ok.mpr ⟨_, body, rfl⟩

/-- Where no bracket opens, the bound on nesting does not matter. -/
theorem any_unbracketed {text : Unread} (noList : ∀ tail, blank text ≠ '[' :: tail)
    (noObject : ∀ tail, blank text ≠ '{' :: tail) (levels others : Nat) :
    any levels text = any others text := by
  rw [any.eq_def levels, any.eq_def others]
  split
  case h_7 tail starts => exact absurd starts (noList tail)
  case h_8 tail starts => exact absurd starts (noObject tail)
  all_goals rfl

end HintLint.Json
