import HintLint.Json.Pair
import HintLint.Proofs.Json.Shape
import HintLint.Proofs.Json.Skipped
import HintLint.Proofs.Json.TextAndValue

/-!
What is read from text only: lists, maps and plain pairs. `Finds` ties a reader to a shape on every
text that holds a value: the reader takes the value when it is of the shape, goes exactly to its
end, and takes no other value. Lists and maps pass the law on from their elements, and a pair from
its two parts, which may be written as members or as elements. A member that a pair has no part for
is passed over without being read, and that comes to the same end as reading it.
-/

namespace HintLint.Json

/-- On the text of a value, the reader gives what the value has the shape of, with the text after
the value, and nothing else. -/
def Finds {α : Type} (read : Reader α) (shape : α → Value → Prop) : Prop :=
  ∀ ⦃levels : Nat⦄ ⦃text rest : Unread⦄ ⦃value : Value⦄, any levels text = .ok (value, rest) →
    ∀ a after, read levels text = .ok (a, after) ↔ after = rest ∧ shape a value

/-- On the text of a member, the visitor changes its state as the relation allows, and stops after
the member. -/
def Visits {σ : Type} (visit : Nat → σ → String → Unread → Except Failure (σ × Unread))
    (takes : σ → String × Value → σ → Prop) : Prop :=
  ∀ ⦃levels : Nat⦄ ⦃key : String⦄ ⦃text start rest : Unread⦄ ⦃value : Value⦄,
    colon text = .ok start → any levels start = .ok (value, rest) → ∀ state next after,
      visit levels state key text = .ok (next, after) ↔ after = rest ∧ takes state (key, value) next

/-- The states that a visitor goes through from the first member to the last. -/
inductive Taken {σ : Type} (takes : σ → String × Value → σ → Prop) :
    σ → List (String × Value) → σ → Prop where
  | done {state : σ} : Taken takes state [] state
  | next {state middle last : σ} {member : String × Value} {members : List (String × Value)} :
    takes state member middle → Taken takes middle members last →
      Taken takes state (member :: members) last

/-- A member that holds what a map has under the same key. -/
def EntryOf {β : Type} (shape : β → Value → Prop) (member : String × Value) (entry : String × β) :
    Prop :=
  member.1 = entry.1 ∧ shape entry.2 member.2

/-- An object that holds such things under its keys; of several under one key the last counts. -/
def MapOf {β : Type} (shape : β → Value → Prop) (map : KeyMap β) (value : Value) : Prop :=
  ∃ members entries, value = .object members ∧ List.Forall₂ (EntryOf shape) members entries ∧
    map = .ofList entries

/-- A member goes into the map under its key. -/
def PutsEntry {β : Type} (shape : β → Value → Prop) (map : KeyMap β) (member : String × Value)
    (next : KeyMap β) : Prop :=
  ∃ b, map.insert member.1 b = next ∧ shape b member.2

/-- A decoder whose two readings agree finds the shape that it reads off values. -/
theorem AgreesAlways.finds {α : Type} {decoder : Decoder α} {shape : α → Value → Prop}
    (agrees : AgreesAlways decoder) (reads : Reads decoder shape) : Finds decoder.read shape := by
  intro levels text rest value ran a after
  constructor
  · intro taken
    obtain ⟨found, valueRead, decoded⟩ := agrees.sound taken
    obtain ⟨rfl, rfl⟩ := Prod.mk.inj (Except.ok.inj (valueRead.symm.trans ran))
    exact ⟨rfl, (reads found a).mp decoded⟩
  · rintro ⟨rfl, shaped⟩
    exact agrees.complete ran trivial ((reads value a).mpr shaped)

/-- A reader whose result is seen through a function. -/
theorem Finds.map {α β : Type} {read : Reader α} {shape : α → Value → Prop} (finds : Finds read shape)
    (f : α → β) :
    Finds (fun levels text => do
      let (a, rest) ← read levels text
      return (f a, rest)) fun b value => ∃ a, f a = b ∧ shape a value := by
  intro levels text rest value ran b after
  rw [bind_eq_ok]
  constructor
  · rintro ⟨⟨a, last⟩, taken, returned⟩
    obtain ⟨rfl, rfl⟩ := Prod.mk.inj (pure_eq_ok.mp returned)
    obtain ⟨rfl, shaped⟩ := (finds ran a last).mp taken
    exact ⟨rfl, a, rfl, shaped⟩
  · rintro ⟨rfl, a, rfl, shaped⟩
    exact ⟨(a, after), (finds ran a after).mpr ⟨rfl, shaped⟩, rfl⟩

/-- What is read between brackets, when the body stops where the closing bracket is. -/
theorem enclosed_iff {α : Type} {close : Unread → Except Failure Unread}
    {read : Unread → Except Failure (α × Unread)} {text middle rest : Unread} {holds : α → Prop}
    (closed : close middle = .ok rest)
    (body : ∀ a after, read text = .ok (a, after) ↔ after = middle ∧ holds a) (a : α)
    (after : Unread) : enclosed close read text = .ok (a, after) ↔ after = rest ∧ holds a := by
  rw [enclosed_eq_ok]
  constructor
  · rintro ⟨last, taken, closes⟩
    obtain ⟨rfl, held⟩ := (body a last).mp taken
    exact ⟨Except.ok.inj (closes.symm.trans closed), held⟩
  · rintro ⟨rfl, held⟩
    exact ⟨middle, (body a middle).mpr ⟨rfl, held⟩, closed⟩

/-! Lists and maps. -/

section Loops

variable {α σ : Type} {levels : Nat}

theorem Finds.elementsWithin {read : Reader α} {shape : α → Value → Prop} (finds : Finds read shape)
    {rounds : Nat} {first : Bool} {text rest : Unread} {values : List Value}
    (ran : elementsWithin (any levels) rounds first text = .ok (values, rest)) (items : List α)
    (after : Unread) :
    elementsWithin (read levels) rounds first text = .ok (items, after) ↔
      after = rest ∧ List.Forall₂ (fun value a => shape a value) values items := by
  induction rounds generalizing first text values items with
  | zero => cases ran
  | succ rounds ih =>
    rw [elementsWithin_succ]
    rcases elementsWithin_succ.mp ran with ⟨ends, rfl⟩ |
      ⟨value, later, start, middle, goesOn, valueRead, valuesRead, rfl⟩
    · rw [ends, List.forall₂_nil_left_iff]
      constructor
      · rintro (⟨same, rfl⟩ | ⟨_, _, _, _, other, -⟩)
        · cases same
          exact ⟨rfl, rfl⟩
        · cases other
      · rintro ⟨rfl, rfl⟩
        exact .inl ⟨rfl, rfl⟩
    · rw [goesOn, List.forall₂_cons_left_iff]
      constructor
      · rintro (⟨other, -⟩ | ⟨item, others, _, _, same, one, rest, rfl⟩)
        · cases other
        · cases same
          obtain ⟨rfl, shaped⟩ := (finds valueRead item _).mp one
          obtain ⟨rfl, laterShaped⟩ := (ih valuesRead others).mp rest
          exact ⟨rfl, item, others, shaped, laterShaped, rfl⟩
      · rintro ⟨rfl, item, others, shaped, laterShaped, rfl⟩
        have one := (finds valueRead item middle).mpr ⟨rfl, shaped⟩
        have rest := (ih valuesRead others).mpr ⟨rfl, laterShaped⟩
        exact .inr ⟨item, others, start, middle, rfl, one, rest, rfl⟩

theorem Visits.membersWithin {visit : Nat → σ → String → Unread → Except Failure (σ × Unread)}
    {takes : σ → String × Value → σ → Prop} (visits : Visits visit takes)
    {rounds : Nat} {first : Bool} {kept all : Array (String × Value)} {text rest : Unread}
    (ran : membersWithin (keepMember (any levels)) rounds first kept text = .ok (all, rest)) :
    ∃ pairs : List (String × Value), all = kept ++ pairs.toArray ∧ ∀ state last after,
      membersWithin (visit levels) rounds first state text = .ok (last, after) ↔
        after = rest ∧ Taken takes state pairs last := by
  induction rounds generalizing first kept text with
  | zero => cases ran
  | succ rounds ih =>
    rcases membersWithin_succ.mp ran with ⟨ends, rfl⟩ |
      ⟨key, next, start, middle, goesOn, one, others⟩
    · refine ⟨[], by simp, fun state last after => ?_⟩
      rw [membersWithin_succ, ends]
      constructor
      · rintro (⟨same, rfl⟩ | ⟨_, _, _, _, other, -⟩)
        · cases same
          exact ⟨rfl, .done⟩
        · cases other
      · rintro ⟨rfl, taken⟩
        cases taken
        exact .inl ⟨rfl, rfl⟩
    · obtain ⟨begin, value, colonRead, valueRead, rfl⟩ := keepMember_eq_ok.mp one
      obtain ⟨pairs, rfl, visited⟩ := ih others
      refine ⟨(key, value) :: pairs, by simp, fun state last after => ?_⟩
      rw [membersWithin_succ, goesOn]
      constructor
      · rintro (⟨other, -⟩ | ⟨_, _, _, _, same, first, later⟩)
        · cases other
        · cases same
          obtain ⟨rfl, takesFirst⟩ := (visits colonRead valueRead _ _ _).mp first
          obtain ⟨rfl, takesLater⟩ := (visited _ _ _).mp later
          exact ⟨rfl, .next takesFirst takesLater⟩
      · rintro ⟨rfl, taken⟩
        cases taken with
        | next takesFirst takesLater =>
          have first := (visits colonRead valueRead _ _ middle).mpr ⟨rfl, takesFirst⟩
          have later := (visited _ _ _).mpr ⟨rfl, takesLater⟩
          exact .inr ⟨key, _, start, middle, rfl, first, later⟩

end Loops

theorem Finds.list {α : Type} {read : Reader α} {shape : α → Value → Prop}
    (finds : Finds read shape) : Finds (readList read) (ListOf shape) := by
  intro levels text rest value ran items after
  unfold readList
  split
  · rename_i tail starts
    obtain ⟨values, rfl⟩ := ((any_readFrom ran).of_starts starts).2.1 rfl
    obtain ⟨below, _, rfl, begins, body⟩ := any_array_iff.mp ran
    cases starts.symm.trans begins
    obtain ⟨middle, valuesRead, closed⟩ := enclosed_eq_ok.mp body
    refine (enclosed_iff closed (finds.elementsWithin valuesRead) items after).trans ?_
    simp [ListOf]
  · rename_i notList
    constructor
    · intro taken
      cases taken
    · rintro ⟨-, values, rfl, -⟩
      obtain ⟨_, tail, -, starts, -⟩ := any_array_iff.mp ran
      exact absurd starts (notList tail)

/-- A map is filled with the members of an object, one after the other. -/
theorem Finds.visitEntry {β : Type} {read : Reader β} {shape : β → Value → Prop}
    (finds : Finds read shape) : Visits (visitEntry read) (PutsEntry shape) := by
  intro levels key text start rest value colonRead ran map next after
  rw [Json.visitEntry, colonRead]
  exact finds.map (map.insert key) ran next after

theorem taken_entries {β : Type} {shape : β → Value → Prop} {map last : KeyMap β}
    {members : List (String × Value)} :
    Taken (PutsEntry shape) map members last ↔
      ∃ entries : List (String × β), List.Forall₂ (EntryOf shape) members entries ∧
        last = entries.foldl (fun map entry => map.insert entry.1 entry.2) map := by
  induction members generalizing map with
  | nil =>
    constructor
    · intro taken
      cases taken
      exact ⟨[], .nil, rfl⟩
    · rintro ⟨entries, listed, rfl⟩
      cases listed
      exact .done
  | cons member members ih =>
    constructor
    · intro taken
      cases taken with
      | next first later =>
        obtain ⟨b, rfl, shaped⟩ := first
        obtain ⟨entries, listed, rfl⟩ := ih.mp later
        exact ⟨(member.1, b) :: entries, .cons ⟨rfl, shaped⟩ listed, rfl⟩
    · rintro ⟨entries, listed, rfl⟩
      cases listed with
      | @cons _ entry _ entries first later =>
        obtain ⟨same, shaped⟩ := first
        exact .next ⟨entry.2, by rw [same], shaped⟩ (ih.mpr ⟨entries, later, rfl⟩)

theorem Finds.keyMap {β : Type} {read : Reader β} {shape : β → Value → Prop}
    (finds : Finds read shape) : Finds (readMap read) (MapOf shape) := by
  intro levels text rest value ran map after
  unfold readMap
  split
  · rename_i tail starts
    obtain ⟨members, rfl⟩ := ((any_readFrom ran).of_starts starts).2.2 rfl
    obtain ⟨below, _, rfl, begins, body⟩ := any_object_iff.mp ran
    cases starts.symm.trans begins
    obtain ⟨middle, membersRead, closed⟩ := enclosed_eq_ok.mp body
    obtain ⟨pairs, same, visited⟩ := finds.visitEntry.membersWithin membersRead
    obtain rfl : members = pairs := by simpa using congrArg Array.toList same
    refine (enclosed_iff closed (visited ∅) map after).trans ?_
    simp [MapOf, taken_entries, KeyMap.ofList]
  · rename_i notObject
    constructor
    · intro taken
      cases taken
    · rintro ⟨-, members, _, rfl, -⟩
      obtain ⟨_, tail, -, starts, -⟩ := any_object_iff.mp ran
      exact absurd starts (notObject tail)

/-! Parts of a pair among the members of an object. -/

/-- What a place holds after further values for it: it takes one while it is empty, and no second.
-/
def Grows {α : Type} (shape : α → Value → Prop) (before : Option α) (values : List Value)
    (after : Option α) : Prop :=
  ∃ read, List.Forall₂ (fun value a => shape a value) values read ∧
    after.toList = before.toList ++ read

section Grows

variable {α : Type} {shape : α → Value → Prop} {before after : Option α} {value : Value}
  {values : List Value}

theorem grows_nil : Grows shape before [] after ↔ after = before := by
  constructor
  · rintro ⟨read, listed, same⟩
    cases listed
    rw [List.append_nil] at same
    cases after <;> cases before <;> simp_all
  · rintro rfl
    exact ⟨[], .nil, by simp⟩

theorem grows_cons :
    Grows shape before (value :: values) after ↔
      before = none ∧ ∃ a, shape a value ∧ Grows shape (some a) values after := by
  constructor
  · rintro ⟨read, listed, same⟩
    cases listed with
    | @cons _ a _ others shaped later =>
      cases before with
      | none => exact ⟨rfl, a, shaped, others, later, same⟩
      | some b => cases after <;> cases same
  · rintro ⟨rfl, a, shaped, others, later, same⟩
    exact ⟨a :: others, .cons shaped later, same⟩

/-- An empty place ends up with the only value for it, if there is one. -/
theorem grows_none {values : List Value} {found : Option α} :
    Grows shape none values found ↔
      (values = [] ∧ found = none) ∨ ∃ value a, values = [value] ∧ found = some a ∧ shape a value := by
  cases values with
  | nil => simp [grows_nil]
  | cons value values =>
    rw [grows_cons]
    cases values with
    | nil => simp [grows_nil, and_comm]
    | cons second values => simp [grows_cons]

end Grows

namespace Part

variable {α : Type}

/-- The part among the members of an object: the one member of its name, or the substitute where
there is none. -/
def InObject (part : Part α) (shape : α → Value → Prop) (members : List (String × Value)) (a : α) :
    Prop :=
  Has part.name (shape a) members ∨ under part.name members = [] ∧ part.substitute = some a

theorem settle_eq_ok {part : Part α} {shape : α → Value → Prop} {members : List (String × Value)}
    {a : α} :
    (∃ found, Grows shape none (under part.name members) found ∧ part.settle found = .ok a) ↔
      part.InObject shape members a := by
  simp only [settle, required_eq_ok, grows_none, InObject, Has]
  constructor
  · rintro ⟨found, ⟨absent, rfl⟩ | ⟨value, b, single, rfl, shaped⟩, settled⟩
    · exact .inr ⟨absent, settled⟩
    · cases settled
      exact .inl ⟨value, single, shaped⟩
  · rintro (⟨value, single, shaped⟩ | ⟨absent, substituted⟩)
    · exact ⟨some a, .inr ⟨value, a, single, rfl, shaped⟩, rfl⟩
    · exact ⟨none, .inl ⟨absent, rfl⟩, substituted⟩

/-- A part is filled from a member when it is empty and the member has its shape; `put` says where
the part is kept. -/
theorem fill_eq_ok {σ : Type} {part : Part α} {shape : α → Value → Prop}
    (finds : Finds part.read shape) {levels : Nat} {text start rest : Unread} {value : Value}
    (colonRead : colon text = .ok start) (ran : any levels start = .ok (value, rest))
    (before : Option α) (put : Option α → σ) (next : σ) (after : Unread) :
    (do
      let (a, rest) ← part.fill levels before text
      return (put a, rest)) = .ok (next, after) ↔
      after = rest ∧ before = none ∧ ∃ a, next = put (some a) ∧ shape a value := by
  have filled : ∀ found last, part.fill levels before text = .ok (found, last) ↔
      last = rest ∧ before = none ∧ ∃ a, some a = found ∧ shape a value := by
    intro found last
    rw [fill, colonRead]
    cases before with
    | some a => simp
    | none =>
      rw [and_iff_right rfl]
      exact finds.map some ran found last
  rw [bind_eq_ok]
  constructor
  · rintro ⟨⟨found, last⟩, taken, returned⟩
    obtain ⟨rfl, rfl⟩ := Prod.mk.inj (pure_eq_ok.mp returned)
    obtain ⟨rfl, empty, a, rfl, shaped⟩ := (filled found last).mp taken
    exact ⟨rfl, empty, a, rfl, shaped⟩
  · rintro ⟨rfl, empty, a, rfl, shaped⟩
    exact ⟨(some a, after), (filled _ _).mpr ⟨rfl, empty, a, rfl, shaped⟩, rfl⟩

end Part

section Pairs

variable {α β : Type} {left : Part α} {right : Part β} {first : α → Value → Prop}
  {second : β → Value → Prop} {levels : Nat} {title : String}

/-- A member goes to the part of its name, which must be empty; other members change nothing. -/
def TakesMember (left : Part α) (right : Part β) (first : α → Value → Prop)
    (second : β → Value → Prop) (parts : Option α × Option β) (member : String × Value)
    (next : Option α × Option β) : Prop :=
  if member.1 = left.name then
    parts.1 = none ∧ ∃ a, next = (some a, parts.2) ∧ first a member.2
  else if member.1 = right.name then
    parts.2 = none ∧ ∃ b, next = (parts.1, some b) ∧ second b member.2
  else next = parts

theorem visitPart_visits (findsLeft : Finds left.read first) (findsRight : Finds right.read second) :
    Visits (visitPart left right) (TakesMember left right first second) := by
  intro levels key text start rest value colonRead ran parts next after
  unfold visitPart TakesMember
  by_cases isLeft : key = left.name
  · rw [if_pos isLeft, if_pos isLeft]
    exact left.fill_eq_ok findsLeft colonRead ran parts.1 (·, parts.2) next after
  · rw [if_neg isLeft, if_neg isLeft]
    by_cases isRight : key = right.name
    · rw [if_pos isRight, if_pos isRight]
      exact right.fill_eq_ok findsRight colonRead ran parts.2 (parts.1, ·) next after
    · -- Nobody asked for the member, so it is skipped, up to where reading it would have stopped.
      have skipped := skip_of_any ran
      rw [if_neg isRight, if_neg isRight]
      simp only [bind_eq_ok, colonRead, pure_eq_ok, Except.ok.injEq, exists_eq_left', skipped,
        Prod.mk.injEq]
      constructor
      · rintro ⟨rfl, rfl⟩
        exact ⟨rfl, rfl⟩
      · rintro ⟨rfl, rfl⟩
        exact ⟨rfl, rfl⟩

/-- The members under the name of a part are all that the part depends on. -/
theorem taken_parts (distinct : left.name ≠ right.name) {members : List (String × Value)}
    {a a' : Option α} {b b' : Option β} :
    Taken (TakesMember left right first second) (a, b) members (a', b') ↔
      Grows first a (under left.name members) a' ∧
        Grows second b (under right.name members) b' := by
  induction members generalizing a b with
  | nil =>
    simp only [under_nil, grows_nil]
    constructor
    · intro taken
      cases taken
      exact ⟨rfl, rfl⟩
    · rintro ⟨rfl, rfl⟩
      exact .done
  | cons member members ih =>
    obtain ⟨key, value⟩ := member
    have step : Taken (TakesMember left right first second) (a, b) ((key, value) :: members) (a', b') ↔
        ∃ c d, TakesMember left right first second (a, b) (key, value) (c, d) ∧
          Grows first c (under left.name members) a' ∧
          Grows second d (under right.name members) b' := by
      constructor
      · intro taken
        cases taken with
        | @next _ middle _ _ _ one later => exact ⟨middle.1, middle.2, one, ih.mp later⟩
      · rintro ⟨c, d, one, later⟩
        exact .next one (ih.mpr later)
    rw [step]
    by_cases isLeft : key = left.name
    · subst isLeft
      simp only [TakesMember, if_true, under_cons_self, under_cons_other distinct, grows_cons]
      constructor
      · rintro ⟨_, _, ⟨empty, c, same, shaped⟩, grows, others⟩
        cases same
        exact ⟨⟨empty, c, shaped, grows⟩, others⟩
      · rintro ⟨⟨empty, c, shaped, grows⟩, others⟩
        exact ⟨some c, b, ⟨empty, c, rfl, shaped⟩, grows, others⟩
    · by_cases isRight : key = right.name
      · subst isRight
        simp only [TakesMember, if_true, if_neg isLeft, under_cons_self, under_cons_other isLeft,
          grows_cons]
        constructor
        · rintro ⟨_, _, ⟨empty, d, same, shaped⟩, others, grows⟩
          cases same
          exact ⟨others, empty, d, shaped, grows⟩
        · rintro ⟨others, empty, d, shaped, grows⟩
          exact ⟨a, some d, ⟨empty, d, rfl, shaped⟩, others, grows⟩
      · simp only [TakesMember, if_neg isLeft, if_neg isRight, under_cons_other isLeft,
          under_cons_other isRight]
        constructor
        · rintro ⟨_, _, same, others⟩
          cases same
          exact others
        · intro others
          exact ⟨a, b, rfl, others⟩

theorem readMemberPair_iff (findsLeft : Finds left.read first) (findsRight : Finds right.read second)
    (distinct : left.name ≠ right.name) {text middle : Unread} {pairs : List (String × Value)}
    (ran : members (keepMember (any levels)) #[] text = .ok (pairs.toArray, middle)) (pair : α × β)
    (after : Unread) :
    readMemberPair left right levels text = .ok (pair, after) ↔
      after = middle ∧ left.InObject first pairs pair.1 ∧ right.InObject second pairs pair.2 := by
  obtain ⟨listed, same, visited⟩ := (visitPart_visits findsLeft findsRight).membersWithin ran
  obtain rfl : pairs = listed := by simpa using congrArg Array.toList same
  rw [readMemberPair, bind_eq_ok, ← Part.settle_eq_ok, ← Part.settle_eq_ok]
  constructor
  · rintro ⟨⟨⟨a, b⟩, rest⟩, taken, ran⟩
    obtain ⟨c, settledLeft, ran⟩ := bind_eq_ok.mp ran
    obtain ⟨d, settledRight, ran⟩ := bind_eq_ok.mp ran
    obtain ⟨rfl, rfl⟩ := Prod.mk.inj (pure_eq_ok.mp ran)
    obtain ⟨rfl, taken⟩ := (visited _ _ _).mp taken
    obtain ⟨grows, others⟩ := (taken_parts distinct).mp taken
    exact ⟨rfl, ⟨a, grows, atEnd_eq_ok.mp settledLeft⟩, ⟨b, others, atEnd_eq_ok.mp settledRight⟩⟩
  · rintro ⟨rfl, ⟨a, grows, settledLeft⟩, ⟨b, others, settledRight⟩⟩
    refine ⟨((a, b), after), (visited _ _ _).mpr ⟨rfl, (taken_parts distinct).mpr ⟨grows, others⟩⟩, ?_⟩
    refine bind_eq_ok.mpr ⟨pair.1, atEnd_eq_ok.mpr settledLeft, ?_⟩
    exact bind_eq_ok.mpr ⟨pair.2, atEnd_eq_ok.mpr settledRight, rfl⟩

/-! Parts of a pair among the elements of a list. -/

/-- A list of parts in order, in which parts may be left out at the end. -/
inductive Listed (left : Part α) (right : Part β) (first : α → Value → Prop)
    (second : β → Value → Prop) : α × β → List Value → Prop where
  | neither {a : α} {b : β} : left.substitute = some a → right.substitute = some b →
      Listed left right first second (a, b) []
  | one {a : α} {b : β} {value : Value} : first a value → right.substitute = some b →
      Listed left right first second (a, b) [value]
  | both {a : α} {b : β} {value other : Value} : first a value → second b other →
      Listed left right first second (a, b) [value, other]

/-- A pair, written as an object or as a list. -/
inductive PairOf (left : Part α) (right : Part β) (first : α → Value → Prop)
    (second : β → Value → Prop) (pair : α × β) : Value → Prop where
  | object {members : List (String × Value)} : left.InObject first members pair.1 →
      right.InObject second members pair.2 → PairOf left right first second pair (.object members)
  | list {items : List Value} : Listed left right first second pair items →
      PairOf left right first second pair (.array items)

theorem listed_nil {pair : α × β} :
    Listed left right first second pair [] ↔
      left.substitute = some pair.1 ∧ right.substitute = some pair.2 :=
  ⟨fun | .neither substituted settled => ⟨substituted, settled⟩, fun both => .neither both.1 both.2⟩

theorem listed_one {pair : α × β} {value : Value} :
    Listed left right first second pair [value] ↔
      first pair.1 value ∧ right.substitute = some pair.2 :=
  ⟨fun | .one shaped settled => ⟨shaped, settled⟩, fun both => .one both.1 both.2⟩

theorem listed_both {pair : α × β} {value other : Value} :
    Listed left right first second pair [value, other] ↔ first pair.1 value ∧ second pair.2 other :=
  ⟨fun | .both shaped shapedToo => ⟨shaped, shapedToo⟩, fun both => .both both.1 both.2⟩

theorem Part.next_at_end {text middle : Unread} {start : Bool}
    (ends : nextElement start text = .ok (false, middle)) (found : Option α) (after : Unread) :
    left.next levels start text = .ok (found, after) ↔ after = middle ∧ found = none := by
  rw [Part.next, ends]
  constructor
  · intro ran
    obtain ⟨rfl, rfl⟩ := Prod.mk.inj (pure_eq_ok.mp ran)
    exact ⟨rfl, rfl⟩
  · rintro ⟨rfl, rfl⟩
    rfl

theorem Part.next_at_element (finds : Finds left.read first) {text element middle : Unread}
    {start : Bool} {value : Value} (goesOn : nextElement start text = .ok (true, element))
    (ran : any levels element = .ok (value, middle)) (found : Option α) (after : Unread) :
    left.next levels start text = .ok (found, after) ↔
      after = middle ∧ ∃ a, some a = found ∧ first a value := by
  rw [Part.next, goesOn]
  exact finds.map some ran found after

theorem settleListed_eq_ok {before : Nat} {found : Option α} {a : α} :
    left.settleListed title before found = .ok a ↔ (found <|> left.substitute) = some a := by
  unfold Part.settleListed
  cases (found <|> left.substitute) <;> simp

theorem readListedPair_eq_ok {text after : Unread} {pair : α × β} :
    readListedPair title left right levels text = .ok (pair, after) ↔
      ∃ foundLeft middle foundRight, left.next levels true text = .ok (foundLeft, middle) ∧
        (foundLeft <|> left.substitute) = some pair.1 ∧
        right.next levels foundLeft.isNone middle = .ok (foundRight, after) ∧
        (foundRight <|> right.substitute) = some pair.2 := by
  rw [readListedPair, bind_eq_ok]
  constructor
  · rintro ⟨⟨foundLeft, middle⟩, readLeft, ran⟩
    obtain ⟨c, settledLeft, ran⟩ := bind_eq_ok.mp ran
    obtain ⟨⟨foundRight, rest⟩, readRight, ran⟩ := bind_eq_ok.mp ran
    obtain ⟨d, settledRight, ran⟩ := bind_eq_ok.mp ran
    obtain ⟨rfl, rfl⟩ := Prod.mk.inj (pure_eq_ok.mp ran)
    exact ⟨foundLeft, middle, foundRight, readLeft, settleListed_eq_ok.mp (atEnd_eq_ok.mp settledLeft),
      readRight, settleListed_eq_ok.mp (atEnd_eq_ok.mp settledRight)⟩
  · rintro ⟨foundLeft, middle, foundRight, readLeft, settledLeft, readRight, settledRight⟩
    refine ⟨(foundLeft, middle), readLeft, ?_⟩
    refine bind_eq_ok.mpr ⟨pair.1, atEnd_eq_ok.mpr (settleListed_eq_ok.mpr settledLeft), ?_⟩
    refine bind_eq_ok.mpr ⟨(foundRight, after), readRight, ?_⟩
    exact bind_eq_ok.mpr ⟨pair.2, atEnd_eq_ok.mpr (settleListed_eq_ok.mpr settledRight), rfl⟩

/-- The closing bracket stays where it was found. -/
theorem nextElement_of_end {text middle : Unread} {start : Bool}
    (ends : nextElement start text = .ok (false, middle)) :
    nextElement true middle = .ok (false, middle) ∧ closeList text = closeList middle := by
  rcases nextElement_cases ends with ⟨-, tail, starts, rfl⟩ | ⟨other, -⟩ | ⟨other, -⟩
  · exact ⟨rfl, by rw [closeList, starts]; rfl⟩
  · cases other
  · cases other

/-- A list with a further element cannot be closed. -/
theorem closeList_of_element {text start rest : Unread}
    (goesOn : nextElement false text = .ok (true, start)) : closeList text ≠ .ok rest := by
  rcases nextElement_cases goesOn with ⟨other, -⟩ | ⟨-, other, -⟩ | ⟨-, -, tail, starts, rfl⟩
  · cases other
  · cases other
  · intro closed
    simp only [closeList, starts] at closed
    split at closed <;> cases closed

theorem elementsWithin_cases {rounds : Nat} {start : Bool} {text rest : Unread} {values : List Value}
    (ran : elementsWithin (any levels) rounds start text = .ok (values, rest)) :
    (nextElement start text = .ok (false, rest) ∧ values = []) ∨
    ∃ value others element middle fewer, nextElement start text = .ok (true, element) ∧
      any levels element = .ok (value, middle) ∧
      elementsWithin (any levels) fewer false middle = .ok (others, rest) ∧
      values = value :: others := by
  cases rounds with
  | zero => cases ran
  | succ fewer =>
    rcases elementsWithin_succ.mp ran with ends | ⟨value, others, element, middle, one⟩
    · exact .inl ends
    · exact .inr ⟨value, others, element, middle, fewer, one⟩

section Elements

variable {text middle : Unread} {value : Value}

theorem readListedPair_neither (ends : nextElement true text = .ok (false, middle)) (pair : α × β)
    (after : Unread) :
    readListedPair title left right levels text = .ok (pair, after) ↔
      after = middle ∧ left.substitute = some pair.1 ∧ right.substitute = some pair.2 := by
  have stays := (nextElement_of_end ends).1
  simp only [readListedPair_eq_ok, Part.next_at_end ends]
  constructor
  · rintro ⟨_, _, _, ⟨rfl, rfl⟩, substituted, next, settled⟩
    obtain ⟨rfl, rfl⟩ := (Part.next_at_end stays _ _).mp next
    exact ⟨rfl, substituted, settled⟩
  · rintro ⟨rfl, substituted, settled⟩
    exact ⟨none, after, none, ⟨rfl, rfl⟩, substituted,
      (Part.next_at_end stays _ _).mpr ⟨rfl, rfl⟩, settled⟩

theorem readListedPair_one (findsLeft : Finds left.read first) {element afterFirst : Unread}
    (goesOn : nextElement true text = .ok (true, element))
    (ran : any levels element = .ok (value, afterFirst))
    (ends : nextElement false afterFirst = .ok (false, middle)) (pair : α × β) (after : Unread) :
    readListedPair title left right levels text = .ok (pair, after) ↔
      after = middle ∧ first pair.1 value ∧ right.substitute = some pair.2 := by
  simp only [readListedPair_eq_ok, Part.next_at_element findsLeft goesOn ran]
  constructor
  · rintro ⟨_, _, _, ⟨rfl, a, rfl, shaped⟩, same, next, settled⟩
    obtain rfl : a = pair.1 := Option.some.inj same
    obtain ⟨rfl, rfl⟩ := (Part.next_at_end ends _ _).mp next
    exact ⟨rfl, shaped, settled⟩
  · rintro ⟨rfl, shaped, settled⟩
    exact ⟨some pair.1, afterFirst, none, ⟨rfl, pair.1, rfl, shaped⟩, rfl,
      (Part.next_at_end ends _ _).mpr ⟨rfl, rfl⟩, settled⟩

theorem readListedPair_both (findsLeft : Finds left.read first)
    (findsRight : Finds right.read second) {element afterFirst other afterSecond : Unread}
    {further : Value} (goesOn : nextElement true text = .ok (true, element))
    (ran : any levels element = .ok (value, afterFirst))
    (goesOnStill : nextElement false afterFirst = .ok (true, other))
    (ranStill : any levels other = .ok (further, afterSecond)) (pair : α × β) (after : Unread) :
    readListedPair title left right levels text = .ok (pair, after) ↔
      after = afterSecond ∧ first pair.1 value ∧ second pair.2 further := by
  simp only [readListedPair_eq_ok, Part.next_at_element findsLeft goesOn ran]
  constructor
  · rintro ⟨_, _, _, ⟨rfl, a, rfl, shaped⟩, same, next, settled⟩
    obtain rfl : a = pair.1 := Option.some.inj same
    obtain ⟨rfl, b, rfl, shapedToo⟩ :=
      (Part.next_at_element findsRight goesOnStill ranStill _ _).mp next
    obtain rfl : b = pair.2 := Option.some.inj settled
    exact ⟨rfl, shaped, shapedToo⟩
  · rintro ⟨rfl, shaped, shapedToo⟩
    exact ⟨some pair.1, afterFirst, some pair.2, ⟨rfl, pair.1, rfl, shaped⟩, rfl,
      (Part.next_at_element findsRight goesOnStill ranStill _ _).mpr ⟨rfl, pair.2, rfl, shapedToo⟩, rfl⟩

end Elements

/-- The parts are read off the elements; a third element is left over and keeps the list open. -/
theorem readListedPair_iff (findsLeft : Finds left.read first) (findsRight : Finds right.read second)
    {text rest : Unread} {values : List Value}
    (ran : enclosed closeList (elements (any levels) true) text = .ok (values, rest)) (pair : α × β)
    (after : Unread) :
    enclosed closeList (readListedPair title left right levels) text = .ok (pair, after) ↔
      after = rest ∧ Listed left right first second pair values := by
  obtain ⟨middle, valuesRead, closed⟩ := enclosed_eq_ok.mp ran
  rcases elementsWithin_cases valuesRead with ⟨ends, rfl⟩ |
    ⟨value, others, _, afterFirst, _, goesOn, valueRead, othersRead, rfl⟩
  · rw [enclosed_iff closed (readListedPair_neither ends), listed_nil]
  · rcases elementsWithin_cases othersRead with ⟨ends, rfl⟩ |
      ⟨further, more, _, afterSecond, _, goesOnStill, furtherRead, moreRead, rfl⟩
    · rw [enclosed_iff closed (readListedPair_one findsLeft goesOn valueRead ends), listed_one]
    · have body : ∀ pair after, readListedPair title left right levels text = .ok (pair, after) ↔
          after = afterSecond ∧ first pair.1 value ∧ second pair.2 further :=
        readListedPair_both findsLeft findsRight goesOn valueRead goesOnStill furtherRead
      rcases elementsWithin_cases moreRead with ⟨ends, rfl⟩ | ⟨_, _, _, _, _, stillOpen, -, -, rfl⟩
      · rw [← (nextElement_of_end ends).2] at closed
        rw [enclosed_iff closed body, listed_both]
      · constructor
        · intro taken
          obtain ⟨last, inside, closes⟩ := enclosed_eq_ok.mp taken
          obtain ⟨rfl, -⟩ := (body pair last).mp inside
          exact absurd closes (closeList_of_element stillOpen)
        · rintro ⟨-, listed⟩
          cases listed

/-- A pair is found as an object or as a list. -/
theorem Finds.pair (findsLeft : Finds left.read first) (findsRight : Finds right.read second)
    (distinct : left.name ≠ right.name) :
    Finds (readPair title left right) (PairOf left right first second) := by
  intro levels text rest value ran pair after
  unfold readPair
  split
  · rename_i tail starts
    obtain ⟨values, rfl⟩ := ((any_readFrom ran).of_starts starts).2.1 rfl
    obtain ⟨below, _, rfl, begins, body⟩ := any_array_iff.mp ran
    cases starts.symm.trans begins
    exact (readListedPair_iff findsLeft findsRight body pair after).trans
      (and_congr_right fun _ => ⟨.list, fun | .list listed => listed⟩)
  · rename_i tail starts
    obtain ⟨members, rfl⟩ := ((any_readFrom ran).of_starts starts).2.2 rfl
    obtain ⟨below, _, rfl, begins, body⟩ := any_object_iff.mp ran
    cases starts.symm.trans begins
    obtain ⟨middle, membersRead, closed⟩ := enclosed_eq_ok.mp body
    have inside := readMemberPair_iff findsLeft findsRight distinct membersRead
    exact (enclosed_iff closed inside pair after).trans
      (and_congr_right fun _ => ⟨fun held => .object held.1 held.2, fun | .object a b => ⟨a, b⟩⟩)
  · rename_i notList notObject
    constructor
    · intro taken
      cases taken
    · rintro ⟨-, written⟩
      cases written with
      | object =>
        obtain ⟨_, tail, -, starts, -⟩ := any_object_iff.mp ran
        exact absurd starts (notObject tail)
      | list =>
        obtain ⟨_, tail, -, starts, -⟩ := any_array_iff.mp ran
        exact absurd starts (notList tail)

end Pairs

/-- A text that holds a value is read as what the value has the shape of. -/
theorem Finds.parse_iff {α : Type} {read : Reader α} {shape : α → Value → Prop}
    (finds : Finds read shape) {text : String} {value : Value} (parsed : Value.parse text = .ok value)
    (a : α) : Reader.parse read text = .ok a ↔ shape a value := by
  obtain ⟨rest, valueRead, ended⟩ := parse_eq_ok.mp parsed
  rw [Reader.parse, parse_eq_ok]
  constructor
  · rintro ⟨after, taken, -⟩
    exact ((finds valueRead a after).mp taken).2
  · intro shaped
    exact ⟨rest, (finds valueRead a rest).mpr ⟨rfl, shaped⟩, ended⟩

end HintLint.Json
