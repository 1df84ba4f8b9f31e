import HintLint.Proofs.Json.Fields

/-!
Shapes of values, said without a reader. A shape is what must stand under which key; other members are
of no account. `Reads` ties a decoder to a shape: it takes the values of the shape and no others.
`Orderless` says that a shape outlives the sorting of members, and that sorting makes no value fit that
did not fit before, unless a key was repeated.
-/

namespace HintLint.Json

/-- One member stands under the key, and its value is of the shape. -/
def Has (key : String) (shape : Value → Prop) (members : List (String × Value)) : Prop :=
  ∃ value, under key members = [value] ∧ shape value

/-- An object with such members. -/
def ObjectOf (inside : List (String × Value) → Prop) (value : Value) : Prop :=
  ∃ members, value = .object members ∧ inside members

/-- A list of such things, item by item. -/
def ListOf {α : Type} (shape : α → Value → Prop) (list : List α) (value : Value) : Prop :=
  ∃ items, value = .array items ∧ List.Forall₂ (fun item a => shape a item) items list

/-- A slot, which is filled or holds `null`. -/
inductive Slot {α : Type} (shape : α → Value → Prop) : Option α → Value → Prop where
  | empty : Slot shape none .null
  | filled {a : α} {value : Value} : shape a value → Slot shape (some a) value

/-- A name that stands alone, or as the only key of an object with `null` or an empty object. -/
inductive Named (name : String) : Value → Prop where
  | alone : Named name (.string name)
  | key : Named name (.object [(name, .null)])
  | emptyKey : Named name (.object [(name, .object [])])

theorem Slot.ofOption {α : Type} {shape : α → Value → Prop} {toValue : α → Value}
    (written : ∀ a, shape a (toValue a)) (found : Option α) :
    Slot shape found (.ofOption toValue found) := by
  cases found with
  | none => exact .empty
  | some a => exact .filled (written a)

theorem ListOf.map {α : Type} {shape : α → Value → Prop} {toValue : α → Value}
    (written : ∀ a, shape a (toValue a)) (list : List α) :
    ListOf shape list (.array (list.map toValue)) := by
  refine ⟨_, rfl, ?_⟩
  rw [List.forall₂_map_left_iff]
  exact List.forall₂_same.mpr fun a _ => written a

theorem has_equal {key : String} {value : Value} {members : List (String × Value)} :
    Has key (· = value) members ↔ under key members = [value] := by
  constructor
  · rintro ⟨found, single, rfl⟩
    exact single
  · intro single
    exact ⟨value, single, rfl⟩

/-- What one key has does not depend on members that a record has no field for. -/
theorem has_unasked {σ α : Type} {record : Record σ α} {key : String} {shape : Value → Prop}
    {members : List (String × Value)} (unknown : findField? record.fields key = none) :
    Has key shape (record.unasked members) ↔ Has key shape members := by
  rw [Has, Has, Record.under_unasked unknown]

theorem Value.ofWord_injective : Function.Injective ofWord := by
  intro first second same
  simp only [ofWord, Value.number.injEq, Number.integer.injEq] at same
  exact UInt32.toNat_inj.mp (Int.ofNat_inj.mp same)

/-- In a canonical value a member is found when it is the one under its key. -/
theorem Value.member_canonical {value found : Value} {key : String} :
    value.canonical.member? key = some found ↔ ObjectOf (Has key (· = found)) value.canonical := by
  cases value with
  | object members =>
    have first : (canonicalMembers [] members).lookup key =
        (under key (canonicalMembers [] members)).head? := lookup_eq_head_under
    simp only [canonical, member?, first, under_canonical]
    simp only [ObjectOf, Value.object.injEq, exists_eq_left', has_equal, under_canonical]
    cases (under key members).getLast?.map canonical <;> simp
  | _ => simp [canonical, member?, ObjectOf]

/-- Looking up a name among things that are listed by their names finds the thing of that name. -/
theorem lookup_by_name {α : Type} {nameOf : α → String} (injective : Function.Injective nameOf)
    {all : List α} {name : String} {a : α} :
    (all.map fun a => (nameOf a, a)).lookup name = some a ↔ a ∈ all ∧ name = nameOf a := by
  induction all with
  | nil => simp
  | cons first others ih =>
    rw [List.map_cons, List.lookup_cons]
    by_cases same : name = nameOf first
    · simp only [same, BEq.rfl, Option.some.injEq, List.mem_cons]
      constructor
      · rintro rfl
        exact ⟨.inl rfl, rfl⟩
      · rintro ⟨-, equal⟩
        exact injective equal
    · rw [beq_false_of_ne same, ih, List.mem_cons]
      constructor
      · rintro ⟨listed, named⟩
        exact ⟨.inr listed, named⟩
      · rintro ⟨rfl | listed, named⟩
        · exact absurd named same
        · exact ⟨listed, named⟩

/-! What decoders read. -/

/-- The decoder reads off a value whatever it has the shape of, and nothing else. -/
def Reads {α : Type} (decoder : Decoder α) (shape : α → Value → Prop) : Prop :=
  ∀ value a, decoder.ofValue value = .ok a ↔ shape a value

namespace Reads

theorem word : Reads .word fun word value => value = .ofWord word := by
  intro value a
  constructor
  · intro read
    simp only [Decoder.word, Decoder.scalar] at read
    split at read
    · rename_i n
      split at read
      · rename_i bounds
        cases read
        have size : UInt32.size = 4294967296 := rfl
        have whole : ((UInt32.ofNat n.toNat).toNat : Int) = n := by
          rw [UInt32.toNat_ofNat_of_lt' (by omega)]
          omega
        rw [Value.ofWord, whole]
      · cases read
    · cases read
  · rintro rfl
    have below : (a.toNat : Int) < UInt32.size := by exact_mod_cast a.toNat_lt_size
    simp only [Decoder.word, Decoder.scalar, Value.ofWord]
    rw [if_pos ⟨Int.natCast_nonneg _, below⟩]
    simp

theorem string : Reads .string fun text value => value = .string text := by
  intro value a
  cases value <;> simp [Decoder.string, Decoder.scalar]

theorem map {α β : Type} {decoder : Decoder α} {shape : α → Value → Prop}
    (reads : Reads decoder shape) (f : α → β) :
    Reads (decoder.map f) fun b value => ∃ a, f a = b ∧ shape a value := by
  intro value b
  rw [show (decoder.map f).ofValue value = (decoder.ofValue value).map f from rfl, map_eq_ok]
  refine exists_congr fun a => ?_
  rw [reads value a, and_comm]

theorem nullable {α : Type} {decoder : Decoder α} {shape : α → Value → Prop}
    (reads : Reads decoder shape) (solid : ∀ a, ¬ shape a .null) :
    Reads decoder.nullable (Slot shape) := by
  intro value found
  constructor
  · intro read
    simp only [Decoder.nullable] at read
    split at read
    · cases read
      exact .empty
    · obtain ⟨a, decoded, rfl⟩ := map_eq_ok.mp read
      exact .filled ((reads value a).mp decoded)
  · intro slot
    cases slot with
    | empty => rfl
    | @filled a value shaped =>
      simp only [Decoder.nullable]
      split
      · exact absurd shaped (solid a)
      · exact map_eq_ok.mpr ⟨a, (reads value a).mpr shaped, rfl⟩

theorem list {α : Type} {decoder : Decoder α} {shape : α → Value → Prop}
    (reads : Reads decoder shape) : Reads decoder.list (ListOf shape) := by
  intro value as
  cases value with
  | array items =>
    have same : (fun item a => decoder.ofValue item = .ok a) = fun item a => shape a item := by
      funext item a
      exact propext (reads item a)
    rw [show decoder.list.ofValue (.array items) = items.mapM decoder.ofValue from rfl, mapM_eq_ok,
      same]
    simp [ListOf]
  | _ => simp [Decoder.list, ListOf]

theorem name {α : Type} {names : List (String × α)} {nameOf : α → String}
    (known : ∀ name a, names.lookup name = some a ↔ name = nameOf a) :
    Reads (.name names) fun a => Named (nameOf a) := by
  have resolved : ∀ name a, resolve names name = .ok a ↔ name = nameOf a := by
    intro name a
    rw [← known, resolve]
    cases names.lookup name <;> simp
  intro value a
  constructor
  · intro read
    simp only [Decoder.name] at read
    split at read
    · rename_i name
      rw [(resolved name a).mp read]
      exact .alone
    · rename_i name inner
      obtain ⟨b, found, read⟩ := bind_eq_ok.mp read
      rw [(resolved name b).mp found]
      split at read
      · cases read
        exact .key
      · cases read
        exact .emptyKey
      · cases read
    · cases read
    · cases read
  · intro named
    have found := (resolved (nameOf a) a).mpr rfl
    cases named with
    | alone => exact found
    | key => exact bind_eq_ok.mpr ⟨a, found, rfl⟩
    | emptyKey => exact bind_eq_ok.mpr ⟨a, found, rfl⟩

theorem record {σ α : Type} {record : Record σ α} {inside : α → List (String × Value) → Prop}
    (reads : ∀ members a, record.ofMembers members = .ok a ↔ inside a members) :
    Reads record.decoder fun a => ObjectOf (inside a) := by
  intro value a
  cases value with
  | object members =>
    rw [show record.decoder.ofValue (.object members) = record.ofMembers members from rfl, reads]
    simp [ObjectOf]
  | _ => simp [Record.decoder, ObjectOf]

theorem holds {α : Type} {decoder : Decoder α} {shape : α → Value → Prop}
    (reads : Reads decoder shape) {key : String} {members : List (String × Value)} {a : α} :
    Holds key decoder members (some a) ↔ Has key (shape a) members := by
  rw [holds_some]
  exact exists_congr fun value => and_congr Iff.rfl (reads value a)

end Reads

/-! What sorting leaves of a shape. -/

/-- Sorting keeps values of the shape, and makes none unless a key is repeated. -/
structure Orderless (shape : Value → Prop) : Prop where
  kept : ∀ {value : Value}, shape value → shape value.canonical
  reflected : ∀ {value : Value}, value.distinctKeys → shape value.canonical → shape value

/-- The same of the members of an object. -/
structure OrderlessIn (inside : List (String × Value) → Prop) : Prop where
  kept : ∀ {members : List (String × Value)},
    inside members → inside (Value.canonicalMembers [] members)
  reflected : ∀ {members : List (String × Value)}, (Value.object members).distinctKeys →
    inside (Value.canonicalMembers [] members) → inside members

namespace Orderless

theorem word (word : UInt32) : Orderless (· = .ofWord word) where
  kept := by
    rintro value rfl
    rfl
  reflected _ same := Value.canonical_eq_number.mp same

theorem string (text : String) : Orderless (· = .string text) where
  kept := by
    rintro value rfl
    rfl
  reflected _ same := Value.canonical_eq_string.mp same

theorem named (name : String) : Orderless (Named name) where
  kept := by
    intro value named
    cases named with
    | alone => exact .alone
    | key => exact .key
    | emptyKey => exact .emptyKey
  reflected := by
    intro value distinct named
    generalize shown : value.canonical = sorted at named
    cases named with
    | alone =>
      rw [Value.canonical_eq_string.mp shown]
      exact .alone
    | key =>
      obtain ⟨members, rfl, same⟩ := Value.canonical_eq_object.mp shown
      obtain ⟨given, rfl, empty⟩ :=
        Value.canonicalMembers_eq_singleton (Value.distinctKeys_object.mp distinct).1 same
      rw [Value.canonical_eq_null.mp empty]
      exact .key
    | emptyKey =>
      obtain ⟨members, rfl, same⟩ := Value.canonical_eq_object.mp shown
      obtain ⟨given, rfl, empty⟩ :=
        Value.canonicalMembers_eq_singleton (Value.distinctKeys_object.mp distinct).1 same
      obtain ⟨inner, rfl, none⟩ := Value.canonical_eq_object.mp empty
      rw [Value.canonicalMembers_eq_nil none]
      exact .emptyKey

theorem slot {α : Type} {shape : α → Value → Prop} (orderless : ∀ a, Orderless (shape a))
    (found : Option α) : Orderless (Slot shape found) where
  kept := by
    intro value slot
    cases slot with
    | empty => exact .empty
    | @filled a _ shaped => exact .filled ((orderless a).kept shaped)
  reflected := by
    intro value distinct slot
    generalize shown : value.canonical = sorted at slot
    cases slot with
    | empty =>
      rw [Value.canonical_eq_null.mp shown]
      exact .empty
    | @filled a _ shaped =>
      subst shown
      exact .filled ((orderless a).reflected distinct shaped)

theorem list {α : Type} {shape : α → Value → Prop} (orderless : ∀ a, Orderless (shape a))
    (list : List α) : Orderless (ListOf shape list) where
  kept := by
    rintro value ⟨items, rfl, listed⟩
    refine ⟨items.map Value.canonical, congrArg _ (Value.canonicalItems_eq_map items), ?_⟩
    rw [List.forall₂_map_left_iff]
    exact listed.imp fun item a shaped => (orderless a).kept shaped
  reflected := by
    rintro value distinct ⟨sorted, shown, listed⟩
    obtain ⟨items, rfl, rfl⟩ := Value.canonical_eq_array.mp shown
    refine ⟨items, rfl, ?_⟩
    rw [List.forall₂_map_left_iff] at listed
    have each := Value.distinctKeys_array.mp distinct
    refine ((List.forall₂_and_left items list).mpr ⟨each, listed⟩).imp ?_
    rintro item a ⟨distinct, shaped⟩
    exact (orderless a).reflected distinct shaped

theorem object {inside : List (String × Value) → Prop} (orderless : OrderlessIn inside) :
    Orderless (ObjectOf inside) where
  kept := by
    rintro value ⟨members, rfl, within⟩
    exact ⟨_, rfl, orderless.kept within⟩
  reflected := by
    rintro value distinct ⟨sorted, shown, within⟩
    obtain ⟨members, rfl, rfl⟩ := Value.canonical_eq_object.mp shown
    exact ⟨members, rfl, orderless.reflected distinct within⟩

end Orderless

namespace OrderlessIn

theorem has {shape : Value → Prop} (orderless : Orderless shape) (key : String) :
    OrderlessIn (Has key shape) where
  kept := by
    rintro members ⟨value, single, shaped⟩
    refine ⟨value.canonical, ?_, orderless.kept shaped⟩
    rw [Value.under_canonical, single]
    rfl
  reflected := by
    rintro members distinct ⟨sorted, single, shaped⟩
    have ⟨unrepeated, inner⟩ := Value.distinctKeys_object.mp distinct
    rw [Value.under_canonical_of_distinct unrepeated, List.map_eq_singleton_iff] at single
    obtain ⟨value, found, rfl⟩ := single
    have listed : (key, value) ∈ members := mem_under.mp (by simp [found])
    exact ⟨value, found, orderless.reflected (inner _ listed) shaped⟩

theorem lacks (key : String) : OrderlessIn fun members => under key members = [] where
  kept := by
    intro members none
    rw [Value.under_canonical, none]
    rfl
  reflected := by
    intro members distinct none
    rw [Value.under_canonical_of_distinct (Value.distinctKeys_object.mp distinct).1] at none
    exact List.map_eq_nil_iff.mp none

theorem always (fact : Prop) : OrderlessIn fun _ => fact where
  kept := id
  reflected _ := id

theorem and {first second : List (String × Value) → Prop} (one : OrderlessIn first)
    (other : OrderlessIn second) : OrderlessIn fun members => first members ∧ second members where
  kept := fun ⟨left, right⟩ => ⟨one.kept left, other.kept right⟩
  reflected distinct := fun ⟨left, right⟩ =>
    ⟨one.reflected distinct left, other.reflected distinct right⟩

theorem or {first second : List (String × Value) → Prop} (one : OrderlessIn first)
    (other : OrderlessIn second) : OrderlessIn fun members => first members ∨ second members where
  kept := Or.imp one.kept other.kept
  reflected distinct := Or.imp (one.reflected distinct) (other.reflected distinct)

end OrderlessIn

end HintLint.Json
