import HintLint.Proofs.Json.Fields

/-!
The two readings of a shape agree. What a decoder reads from a text is what it reads off the value that
the text holds, with the members of objects as they are written; and what it reads off the value it
also reads from the text, as long as names are written as strings. A name off a value may also be the
key of an empty object, which the text reader does not take, so the second half has a condition.
-/

namespace HintLint.Json

/-- The readings of a shape from text and off the value of the text are the same, the second of them
on values that meet the condition. -/
structure Agrees {α : Type} (decoder : Decoder α) (simple : Value → Prop) : Prop where
  /-- What is read from text is a value of the shape. -/
  sound : ∀ {levels : Nat} {text rest : Unread} {a : α},
    decoder.read levels text = .ok (a, rest) →
      ∃ value, any levels text = .ok (value, rest) ∧ decoder.ofValue value = .ok a
  /-- A value of the shape is read from its text. -/
  complete : ∀ {levels : Nat} {text rest : Unread} {value : Value} {a : α},
    any levels text = .ok (value, rest) → simple value → decoder.ofValue value = .ok a →
      decoder.read levels text = .ok (a, rest)

/-- Shapes without names inside agree on every value. -/
abbrev AgreesAlways {α : Type} (decoder : Decoder α) : Prop := Agrees decoder fun _ => True

/-- The condition holds of the member under a key, if the value is an object that has one. -/
def Value.Under (key : String) (condition : Value → Prop) (value : Value) : Prop :=
  ∀ members, value = .object members → ∀ member ∈ members, member.1 = key → condition member.2

/-- The condition holds of all items, if the value is a list. -/
def Value.Each (condition : Value → Prop) (value : Value) : Prop :=
  ∀ items, value = .array items → ∀ item ∈ items, condition item

@[simp]
theorem Value.under_object {key : String} {condition : Value → Prop}
    {members : List (String × Value)} :
    (Value.object members).Under key condition ↔
      ∀ member ∈ members, member.1 = key → condition member.2 := by
  simp only [Under, Value.object.injEq, forall_eq']

@[simp]
theorem Value.under_null {key : String} {condition : Value → Prop} :
    Value.null.Under key condition := by
  intro members same
  cases same

@[simp]
theorem Value.each_array {condition : Value → Prop} {items : List Value} :
    (Value.array items).Each condition ↔ ∀ item ∈ items, condition item := by
  simp only [Each, Value.array.injEq, forall_eq']

theorem readName_eq_ok {α : Type} {names : List (String × α)} {text rest : Unread} {a : α} :
    readName names text = .ok (a, rest) ↔
      ∃ chars, stringBody text = .ok (chars, rest) ∧ resolve names (String.ofList chars) = .ok a := by
  rw [readName, bind_eq_ok]
  constructor
  · rintro ⟨⟨chars, after⟩, body, ran⟩
    dsimp only at ran
    split at ran
    · rename_i resolved
      obtain ⟨rfl, rfl⟩ := Prod.mk.inj (pure_eq_ok.mp ran)
      exact ⟨chars, body, resolved⟩
    · cases ran
  · rintro ⟨chars, body, resolved⟩
    refine ⟨_, body, ?_⟩
    simp only [resolved]
    rfl

theorem any_of_readNull {levels : Nat} {text rest : Unread} (ran : readNull text = .ok rest) :
    any levels text = .ok (.null, rest) := by
  unfold readNull at ran
  split at ran
  · rename_i tail starts
    exact any_null_iff.mpr ⟨tail, starts, ran⟩
  · cases ran

/-- A name that stands as a key is read from an object whose only member is that key with `null`. -/
theorem readKeyedName_eq_ok {α : Type} {names : List (String × α)} {text rest : Unread} {a : α}
    (levels : Nat) (ran : readKeyedName names text = .ok (a, rest)) :
    ∃ name, resolve names name = .ok a ∧
      enclosed closeObject (members (keepMember (any levels)) #[]) text =
        .ok (#[(name, .null)], rest) := by
  unfold readKeyedName at ran
  split at ran
  case h_3 tail starts =>
    obtain ⟨⟨found, afterName⟩, named, ran⟩ := bind_eq_ok.mp ran
    obtain ⟨start, colonRead, ran⟩ := bind_eq_ok.mp ran
    obtain ⟨afterNull, nullRead, ran⟩ := bind_eq_ok.mp ran
    obtain ⟨chars, body, resolved⟩ := readName_eq_ok.mp named
    split at ran
    case h_2 last closing =>
      obtain ⟨rfl, rfl⟩ := Prod.mk.inj (pure_eq_ok.mp ran)
      refine ⟨String.ofList chars, resolved, enclosed_eq_ok.mpr ⟨'}' :: last, ?_, rfl⟩⟩
      -- The key is not blank, so the text has room for the two rounds that the member takes.
      have first : nextKey true text = .ok (some (String.ofList chars), afterName) := by
        simp only [nextKey, starts]
        exact bind_eq_ok.mpr ⟨_, body, rfl⟩
      have second : nextKey false afterNull = .ok (none, '}' :: last) := by
        simp only [nextKey, closing]
      have kept : keepMember (any levels) #[] (String.ofList chars) afterName =
          .ok (#[(String.ofList chars, .null)], afterNull) :=
        keepMember_eq_ok.mpr ⟨start, .null, colonRead, any_of_readNull nullRead, rfl⟩
      cases text with
      | nil => cases starts
      | cons c text =>
        exact membersWithin_succ.mpr (.inr ⟨_, _, _, _, first, kept,
          membersWithin_succ.mpr (.inl ⟨second, rfl⟩)⟩)
    all_goals cases ran
  all_goals cases ran

namespace Agrees

variable {α β : Type} {decoder : Decoder α} {simple : Value → Prop}

theorem weaken (agrees : Agrees decoder simple) {stronger : Value → Prop}
    (stronger_simple : ∀ value, stronger value → simple value) : Agrees decoder stronger where
  sound := agrees.sound
  complete read holds := agrees.complete read (stronger_simple _ holds)

theorem map (agrees : Agrees decoder simple) (f : α → β) : Agrees (decoder.map f) simple where
  sound ran := by
    obtain ⟨⟨a, after⟩, read, same⟩ := map_eq_ok.mp ran
    cases same
    obtain ⟨value, valueRead, decoded⟩ := agrees.sound read
    exact ⟨value, valueRead, map_eq_ok.mpr ⟨a, decoded, rfl⟩⟩
  complete valueRead holds decoded := by
    obtain ⟨a, inner, rfl⟩ := map_eq_ok.mp decoded
    exact map_eq_ok.mpr ⟨_, agrees.complete valueRead holds inner, rfl⟩

/-- `null` is told by its first letter before the shape is tried, and no other value starts so. -/
theorem nullable (agrees : Agrees decoder simple) : Agrees decoder.nullable simple where
  sound {levels text rest a} ran := by
    simp only [Decoder.nullable] at ran ⊢
    split at ran
    · rename_i tail starts
      obtain ⟨after, spelled, ran⟩ := bind_eq_ok.mp ran
      obtain ⟨rfl, rfl⟩ := Prod.mk.inj (pure_eq_ok.mp ran)
      exact ⟨.null, any_null_iff.mpr ⟨tail, starts, spelled⟩, rfl⟩
    · rename_i notNull
      obtain ⟨⟨found, after⟩, read, same⟩ := map_eq_ok.mp ran
      cases same
      obtain ⟨value, valueRead, decoded⟩ := agrees.sound read
      rw [any_blank] at valueRead
      refine ⟨value, valueRead, ?_⟩
      split
      · obtain ⟨tail, starts, -⟩ := any_null_iff.mp valueRead
        exact absurd starts (notNull tail)
      · exact map_eq_ok.mpr ⟨found, decoded, rfl⟩
  complete {levels text rest value a} valueRead holds decoded := by
    simp only [Decoder.nullable] at decoded ⊢
    split at decoded
    · cases decoded
      obtain ⟨tail, starts, spelled⟩ := any_null_iff.mp valueRead
      rw [starts]
      exact bind_eq_ok.mpr ⟨rest, spelled, rfl⟩
    · rename_i notNull
      obtain ⟨found, inner, rfl⟩ := map_eq_ok.mp decoded
      split
      · rename_i starts
        exact absurd (((any_readFrom valueRead).of_starts starts).1 rfl) notNull
      · rw [← any_blank] at valueRead
        exact map_eq_ok.mpr ⟨_, agrees.complete valueRead holds inner, rfl⟩

/-- A shape without parts agrees when no list and no object has it. -/
theorem scalar {expected : Expected} {ofValue : Value → Except Mismatch α}
    (noList : ∀ items a, ofValue (.array items) ≠ .ok a)
    (noObject : ∀ members a, ofValue (.object members) ≠ .ok a) :
    AgreesAlways (Decoder.scalar expected ofValue) where
  sound {levels text rest a} ran := by
    simp only [Decoder.scalar] at ran ⊢
    split at ran
    · cases ran
    · cases ran
    · rename_i notList notObject
      obtain ⟨⟨value, after⟩, valueRead, ran⟩ := bind_eq_ok.mp ran
      rw [any_blank, any_unbracketed notList notObject 0 levels] at valueRead
      split at ran
      · rename_i decoded
        obtain ⟨rfl, rfl⟩ := Prod.mk.inj (pure_eq_ok.mp ran)
        exact ⟨value, valueRead, decoded⟩
      · cases ran
  complete {levels text rest value a} valueRead _ decoded := by
    simp only [Decoder.scalar] at decoded ⊢
    have read := any_readFrom valueRead
    split
    · rename_i starts
      obtain ⟨items, rfl⟩ := (read.of_starts starts).2.1 rfl
      exact absurd decoded (noList items a)
    · rename_i starts
      obtain ⟨members, rfl⟩ := (read.of_starts starts).2.2 rfl
      exact absurd decoded (noObject members a)
    · rename_i notList notObject
      rw [any_unbracketed notList notObject levels 0, ← any_blank] at valueRead
      refine bind_eq_ok.mpr ⟨_, valueRead, ?_⟩
      simp only [decoded]
      rfl

theorem string : AgreesAlways Decoder.string :=
  scalar (fun _ _ other => nomatch other) (fun _ _ other => nomatch other)

theorem word : AgreesAlways Decoder.word :=
  scalar (fun _ _ other => nomatch other) (fun _ _ other => nomatch other)

theorem any : AgreesAlways Decoder.any where
  sound ran := ⟨_, ran, rfl⟩
  complete valueRead _ decoded := by
    cases decoded
    exact valueRead

/-- The elements that are read from text are those of the list of values there, one by one. -/
theorem elementsWithin_sound (agrees : Agrees decoder simple) {levels rounds : Nat} {first : Bool}
    {text rest : Unread} {items : List α}
    (ran : elementsWithin (decoder.read levels) rounds first text = .ok (items, rest)) :
    ∃ values, elementsWithin (Json.any levels) rounds first text = .ok (values, rest) ∧
      values.mapM decoder.ofValue = .ok items := by
  induction rounds generalizing first text items with
  | zero => cases ran
  | succ rounds ih =>
    rcases elementsWithin_succ.mp ran with ⟨next, rfl⟩ |
      ⟨item, later, start, after, next, one, others, rfl⟩
    · exact ⟨[], elementsWithin_succ.mpr (.inl ⟨next, rfl⟩), rfl⟩
    · obtain ⟨value, valueRead, decoded⟩ := agrees.sound one
      obtain ⟨values, valuesRead, laterDecoded⟩ := ih others
      refine ⟨value :: values, ?_, mapM_eq_ok.mpr (.cons decoded (mapM_eq_ok.mp laterDecoded))⟩
      exact elementsWithin_succ.mpr
        (.inr ⟨value, values, start, after, next, valueRead, valuesRead, rfl⟩)

theorem elementsWithin_complete (agrees : Agrees decoder simple) {levels rounds : Nat}
    {first : Bool} {text rest : Unread} {values : List Value} {items : List α}
    (ran : elementsWithin (Json.any levels) rounds first text = .ok (values, rest))
    (holds : ∀ value ∈ values, simple value) (decoded : values.mapM decoder.ofValue = .ok items) :
    elementsWithin (decoder.read levels) rounds first text = .ok (items, rest) := by
  induction rounds generalizing first text values items with
  | zero => cases ran
  | succ rounds ih =>
    rcases elementsWithin_succ.mp ran with ⟨next, rfl⟩ |
      ⟨value, later, start, after, next, valueRead, valuesRead, rfl⟩
    · cases decoded
      exact elementsWithin_succ.mpr (.inl ⟨next, rfl⟩)
    · cases mapM_eq_ok.mp decoded with
      | cons head tail =>
        have one := agrees.complete valueRead (holds value (by simp)) head
        have others := ih valuesRead (fun value listed => holds value (by simp [listed]))
          (mapM_eq_ok.mpr tail)
        exact elementsWithin_succ.mpr (.inr ⟨_, _, start, after, next, one, others, rfl⟩)

theorem list (agrees : Agrees decoder simple) : Agrees decoder.list (Value.Each simple) where
  sound {levels text rest items} ran := by
    simp only [Decoder.list, readList] at ran ⊢
    split at ran
    · rename_i tail starts
      cases levels with
      | zero => cases ran
      | succ levels =>
        obtain ⟨after, body, closed⟩ := enclosed_eq_ok.mp ran
        obtain ⟨values, valuesRead, decoded⟩ := agrees.elementsWithin_sound body
        refine ⟨.array values, any_array_iff.mpr ⟨levels, tail, rfl, starts, ?_⟩, decoded⟩
        exact enclosed_eq_ok.mpr ⟨after, valuesRead, closed⟩
    · cases ran
  complete {levels text rest value items} valueRead holds decoded := by
    simp only [Decoder.list, readList] at decoded ⊢
    split at decoded
    · rename_i values
      obtain ⟨levels, tail, rfl, starts, body⟩ := any_array_iff.mp valueRead
      obtain ⟨after, valuesRead, closed⟩ := enclosed_eq_ok.mp body
      rw [starts]
      exact enclosed_eq_ok.mpr
        ⟨after, agrees.elementsWithin_complete valuesRead (holds values rfl) decoded, closed⟩
    · cases decoded

/-- A name from text is a string, or the key of an object with one member that is `null`. -/
theorem name (names : List (String × α)) :
    Agrees (Decoder.name names) fun value => ∃ name, value = .string name where
  sound {levels text rest a} ran := by
    simp only [Decoder.name] at ran ⊢
    split at ran
    · cases ran
    · rename_i tail starts
      obtain ⟨chars, body, resolved⟩ := readName_eq_ok.mp ran
      exact ⟨_, any_string_iff.mpr ⟨tail, chars, starts, body, rfl⟩, resolved⟩
    · rename_i tail starts
      cases levels with
      | zero => cases ran
      | succ levels =>
        obtain ⟨name, resolved, members⟩ := readKeyedName_eq_ok levels ran
        refine ⟨.object [(name, .null)], any_object_iff.mpr ⟨levels, tail, rfl, starts, members⟩, ?_⟩
        simp only [resolved]
        rfl
    · cases ran
  complete {levels text rest value a} valueRead holds decoded := by
    obtain ⟨name, rfl⟩ := holds
    obtain ⟨tail, chars, starts, body, rfl⟩ := any_string_iff.mp valueRead
    simp only [Decoder.name, starts]
    exact readName_eq_ok.mpr ⟨chars, body, decoded⟩

end Agrees

theorem atEnd_eq_ok {α : Type} {result : Except Mismatch α} {rest : Unread} {a : α} :
    atEnd result rest = .ok a ↔ result = .ok a := by
  cases result with
  | error cause => exact ⟨fun failed => (nomatch failed), fun failed => (nomatch failed)⟩
  | ok b =>
    exact ⟨fun same => congrArg _ (Except.ok.inj same), fun same => congrArg _ (Except.ok.inj same)⟩

/-- A visitor of members does to its state what a fold over the values of the members does, on members
that meet the condition. -/
structure Follows {σ : Type} (visit : σ → String → Unread → Except Failure (σ × Unread))
    (take : σ → String × Value → Except Mismatch σ) (levels : Nat)
    (simple : String × Value → Prop) : Prop where
  sound : ∀ {state next : σ} {key : String} {text rest : Unread},
    visit state key text = .ok (next, rest) →
      ∃ start value, colon text = .ok start ∧ any levels start = .ok (value, rest) ∧
        take state (key, value) = .ok next
  complete : ∀ {state next : σ} {key : String} {text start rest : Unread} {value : Value},
    colon text = .ok start → any levels start = .ok (value, rest) → simple (key, value) →
      take state (key, value) = .ok next → visit state key text = .ok (next, rest)

namespace Follows

variable {σ : Type} {visit : σ → String → Unread → Except Failure (σ × Unread)}
  {take : σ → String × Value → Except Mismatch σ} {levels : Nat} {simple : String × Value → Prop}

theorem membersWithin_sound (follows : Follows visit take levels simple) {rounds : Nat}
    {first : Bool} {state last : σ} {text rest : Unread}
    (ran : membersWithin visit rounds first state text = .ok (last, rest))
    (kept : Array (String × Value)) :
    ∃ pairs : List (String × Value),
      membersWithin (keepMember (any levels)) rounds first kept text =
        .ok (kept ++ pairs.toArray, rest) ∧ pairs.foldlM take state = .ok last := by
  induction rounds generalizing first state text kept with
  | zero => cases ran
  | succ rounds ih =>
    rcases membersWithin_succ.mp ran with ⟨found, rfl⟩ |
      ⟨key, next, start, after, found, one, others⟩
    · exact ⟨[], membersWithin_succ.mpr (.inl ⟨found, by simp⟩), rfl⟩
    · obtain ⟨begin, value, colonRead, valueRead, taken⟩ := follows.sound one
      obtain ⟨pairs, pairsRead, folded⟩ := ih others (kept.push (key, value))
      refine ⟨(key, value) :: pairs, ?_, ?_⟩
      · have all : kept ++ ((key, value) :: pairs).toArray =
            kept.push (key, value) ++ pairs.toArray := by simp
        rw [all]
        exact membersWithin_succ.mpr (.inr ⟨key, _, start, after, found,
          keepMember_eq_ok.mpr ⟨begin, value, colonRead, valueRead, rfl⟩, pairsRead⟩)
      · rw [List.foldlM_cons, taken]
        exact folded

theorem membersWithin_complete (follows : Follows visit take levels simple) {rounds : Nat}
    {first : Bool} {kept all : Array (String × Value)} {text rest : Unread}
    (ran : membersWithin (keepMember (any levels)) rounds first kept text = .ok (all, rest)) :
    ∃ pairs : List (String × Value), all = kept ++ pairs.toArray ∧
      ∀ {state last : σ}, (∀ pair ∈ pairs, simple pair) →
      pairs.foldlM take state = .ok last →
        membersWithin visit rounds first state text = .ok (last, rest) := by
  induction rounds generalizing first kept text with
  | zero => cases ran
  | succ rounds ih =>
    rcases membersWithin_succ.mp ran with ⟨found, rfl⟩ |
      ⟨key, next, start, after, found, one, others⟩
    · refine ⟨[], by simp, fun _ folded => ?_⟩
      cases folded
      exact membersWithin_succ.mpr (.inl ⟨found, rfl⟩)
    · obtain ⟨begin, value, colonRead, valueRead, rfl⟩ := keepMember_eq_ok.mp one
      obtain ⟨pairs, rfl, visits⟩ := ih others
      refine ⟨(key, value) :: pairs, by simp, fun holds folded => ?_⟩
      obtain ⟨middle, taken, folded⟩ := bind_eq_ok.mp folded
      have visited := follows.complete colonRead valueRead (holds (key, value) (by simp)) taken
      have later := visits (fun pair listed => holds pair (by simp [listed])) folded
      exact membersWithin_succ.mpr (.inr ⟨key, middle, start, after, found, visited, later⟩)

/-- The state after the members of an object in text is the fold over the members of its value. -/
theorem enclosed_sound (follows : Follows visit take levels simple) {α : Type} {state : σ}
    (finish : σ → Except Mismatch α) {text rest : Unread} {a : α}
    (ran : enclosed closeObject (fun text => do
      let (last, rest) ← members visit state text
      let a ← atEnd (finish last) rest
      return (a, rest)) text = .ok (a, rest)) :
    ∃ (pairs : List (String × Value)) (last : σ),
      enclosed closeObject (members (keepMember (any levels)) #[]) text =
        .ok (pairs.toArray, rest) ∧ pairs.foldlM take state = .ok last ∧ finish last = .ok a := by
  obtain ⟨after, body, closed⟩ := enclosed_eq_ok.mp ran
  obtain ⟨⟨last, afterMembers⟩, visited, body⟩ := bind_eq_ok.mp body
  obtain ⟨b, finished, body⟩ := bind_eq_ok.mp body
  obtain ⟨rfl, rfl⟩ := Prod.mk.inj (pure_eq_ok.mp body)
  obtain ⟨pairs, pairsRead, folded⟩ := follows.membersWithin_sound visited #[]
  rw [Array.empty_append] at pairsRead
  exact ⟨pairs, last, enclosed_eq_ok.mpr ⟨_, pairsRead, closed⟩, folded, atEnd_eq_ok.mp finished⟩

theorem enclosed_complete (follows : Follows visit take levels simple) {α : Type} {state last : σ}
    (finish : σ → Except Mismatch α) {text rest : Unread} {a : α} {pairs : List (String × Value)}
    (ran : enclosed closeObject (members (keepMember (any levels)) #[]) text =
      .ok (pairs.toArray, rest)) (holds : ∀ pair ∈ pairs, simple pair)
    (folded : pairs.foldlM take state = .ok last) (finished : finish last = .ok a) :
    enclosed closeObject (fun text => do
      let (last, rest) ← members visit state text
      let a ← atEnd (finish last) rest
      return (a, rest)) text = .ok (a, rest) := by
  obtain ⟨after, pairsRead, closed⟩ := enclosed_eq_ok.mp ran
  obtain ⟨listed, same, visits⟩ := follows.membersWithin_complete pairsRead
  obtain rfl : pairs = listed := by simpa using congrArg Array.toList same
  refine enclosed_eq_ok.mpr ⟨after, bind_eq_ok.mpr ⟨_, visits holds folded, ?_⟩, closed⟩
  exact bind_eq_ok.mpr ⟨_, atEnd_eq_ok.mpr finished, rfl⟩

end Follows

namespace Record

variable {σ α : Type} {record : Record σ α} {simple : String → Value → Prop}

/-- The end of a record, on a draft together with the members kept. -/
def finished (record : Record σ α) (progress : Progress σ) : Except Mismatch α :=
  record.finish progress.1 progress.2.toList

/-- Reading a member into a draft follows taking its value, when every field agrees. -/
theorem visit_follows (fields : ∀ field ∈ record.fields, Agrees field.decoder (simple field.name))
    (levels : Nat) :
    Follows (record.visit levels) record.take levels fun pair => simple pair.1 pair.2 where
  sound {state next key text rest} ran := by
    simp only [visit, take] at ran ⊢
    cases found : findField? record.fields key with
    | none =>
      simp only [found] at ran ⊢
      obtain ⟨⟨kept, after⟩, keptRead, ran⟩ := bind_eq_ok.mp ran
      obtain ⟨start, value, colonRead, valueRead, rfl⟩ := keepMember_eq_ok.mp keptRead
      obtain ⟨rfl, rfl⟩ := Prod.mk.inj (pure_eq_ok.mp ran)
      exact ⟨start, value, colonRead, valueRead, rfl⟩
    | some field =>
      simp only [found] at ran ⊢
      split at ran
      · cases ran
      · rename_i fresh
        obtain ⟨start, colonRead, ran⟩ := bind_eq_ok.mp ran
        obtain ⟨⟨change, after⟩, read, ran⟩ := bind_eq_ok.mp ran
        obtain ⟨rfl, rfl⟩ := Prod.mk.inj (pure_eq_ok.mp ran)
        obtain ⟨value, valueRead, decoded⟩ := (fields field (findField_eq_some found).1).sound read
        refine ⟨start, value, colonRead, valueRead, ?_⟩
        rw [if_neg fresh]
        exact bind_eq_ok.mpr ⟨change, decoded, rfl⟩
  complete {state next key text start rest value} colonRead valueRead holds taken := by
    simp only [visit, take] at taken ⊢
    cases found : findField? record.fields key with
    | none =>
      simp only [found] at taken ⊢
      cases taken
      exact bind_eq_ok.mpr
        ⟨_, keepMember_eq_ok.mpr ⟨start, value, colonRead, valueRead, rfl⟩, rfl⟩
    | some field =>
      simp only [found] at taken ⊢
      obtain ⟨listed, rfl⟩ := findField_eq_some found
      split at taken
      · cases taken
      · rename_i fresh
        obtain ⟨change, decoded, taken⟩ := bind_eq_ok.mp taken
        cases taken
        rw [if_neg fresh]
        have read := (fields field listed).complete valueRead holds decoded
        exact bind_eq_ok.mpr ⟨start, colonRead, bind_eq_ok.mpr ⟨_, read, rfl⟩⟩

/-- A record agrees when each of its fields does. -/
theorem agrees (simple : String → Value → Prop)
    (fields : ∀ field ∈ record.fields, Agrees field.decoder (simple field.name)) :
    Agrees record.decoder fun value =>
      ∀ members, value = .object members → ∀ member ∈ members, simple member.1 member.2 where
  sound {levels text rest a} ran := by
    simp only [decoder] at ran ⊢
    split at ran
    · rename_i tail starts
      cases levels with
      | zero => cases ran
      | succ levels =>
        obtain ⟨pairs, ⟨draft, kept⟩, pairsRead, folded, finished⟩ :=
          (visit_follows fields levels).enclosed_sound record.finished ran
        refine ⟨.object pairs, any_object_iff.mpr ⟨levels, tail, rfl, starts, pairsRead⟩, ?_⟩
        exact bind_eq_ok.mpr ⟨(draft, kept), folded, finished⟩
    · cases ran
  complete {levels text rest value a} valueRead holds decoded := by
    simp only [decoder] at decoded ⊢
    split at decoded
    · rename_i pairs
      obtain ⟨levels, tail, rfl, starts, pairsRead⟩ := any_object_iff.mp valueRead
      obtain ⟨⟨draft, kept⟩, folded, finished⟩ := bind_eq_ok.mp decoded
      rw [starts]
      exact (visit_follows fields levels).enclosed_complete record.finished pairsRead
        (holds pairs rfl) folded finished
    · cases decoded

end Record

/-! Whole texts. -/

theorem parse_eq_ok {α : Type} {read : Unread → Except Failure (α × Unread)} {text : String} {a : α} :
    parse read text = .ok a ↔ ∃ rest, read text.toList = .ok (a, rest) ∧ blank rest = [] := by
  unfold parse
  cases read text.toList with
  | error failure => simp
  | ok result =>
    obtain ⟨b, rest⟩ := result
    cases ended : blank rest with
    | nil => simp [ended]
    | cons c tail => simp [ended]

namespace Agrees

variable {α : Type} {decoder : Decoder α} {simple : Value → Prop} {text : String} {a : α}

theorem parse_sound (agrees : Agrees decoder simple) (parsed : decoder.parse text = .ok a) :
    ∃ value, Value.parse text = .ok value ∧ decoder.ofValue value = .ok a := by
  obtain ⟨rest, read, ended⟩ := parse_eq_ok.mp parsed
  obtain ⟨value, valueRead, decoded⟩ := agrees.sound read
  exact ⟨value, parse_eq_ok.mpr ⟨rest, valueRead, ended⟩, decoded⟩

theorem parse_complete (agrees : Agrees decoder simple) {value : Value}
    (parsed : Value.parse text = .ok value) (holds : simple value)
    (decoded : decoder.ofValue value = .ok a) : decoder.parse text = .ok a := by
  obtain ⟨rest, valueRead, ended⟩ := parse_eq_ok.mp parsed
  exact parse_eq_ok.mpr ⟨rest, agrees.complete valueRead holds decoded, ended⟩

end Agrees

end HintLint.Json
