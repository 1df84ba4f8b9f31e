import HintLint.Proofs.Json.Edits
import HintLint.Proofs.Json.Plain

/-!
Plain shapes where no key is repeated. The parts of a pair are then looked up, by name in an object or
by index in a list, and a map has under each key what its one member holds. `DecidedBy` gives a shape
a test for the values that have it; like reading, testing is passed on from elements and parts to
lists, maps and pairs. Sorting keeps these shapes, so the order of members does not matter to them.
-/

namespace HintLint.Json

namespace Value

/-- A part of a value: in an object the member of a name, in a list the element at an index. -/
def part? (name : String) (index : Nat) : Value → Option Value
  | .object members => members.lookup name
  | .array items => items[index]?
  | _ => none

/-- Whether the value is an object, or a list of at most two elements. -/
def isPair : Value → Bool
  | .object _ => true
  | .array items => items.length ≤ 2
  | _ => false

/-- Whether the value is a whole number of 32 bits. -/
def isWord : Value → Bool
  | .number (.integer n) => 0 ≤ n && n < 4294967296
  | _ => false

def isString : Value → Bool
  | .string _ => true
  | _ => false

/-- Whether the value is a list whose elements pass a test. -/
def isListOf (test : Value → Bool) : Value → Bool
  | .array items => items.all test
  | _ => false

/-- Whether the value is an object whose members hold values that pass a test. -/
def isMapOf (test : Value → Bool) : Value → Bool
  | .object members => members.all fun member => test member.2
  | _ => false

end Value

/-- The values of the shape are those that pass the test, if no object repeats a key. -/
def DecidedBy {α : Type} (shape : α → Value → Prop) (test : Value → Bool) : Prop :=
  ∀ value : Value, value.distinctKeys = true → ((∃ a, shape a value) ↔ test value = true)

/-- What a part is when that much of it is found: the value itself, or the substitute for it. -/
def Part.Given {α : Type} (part : Part α) (shape : α → Value → Prop) (a : α) : Option Value → Prop
  | some value => shape a value
  | none => part.substitute = some a

/-- A relation reaches from every item of a list if it reaches from the list. -/
theorem exists_forall₂ {α β : Type} {related : α → β → Prop} {items : List α} :
    (∃ list, List.Forall₂ related items list) ↔ ∀ item ∈ items, ∃ b, related item b := by
  induction items with
  | nil => exact ⟨fun _ _ listed => (nomatch listed), fun _ => ⟨[], .nil⟩⟩
  | cons item items ih =>
    rw [List.forall_mem_cons, ← ih]
    constructor
    · rintro ⟨list, listed⟩
      cases listed with
      | cons one others => exact ⟨⟨_, one⟩, ⟨_, others⟩⟩
    · rintro ⟨⟨b, one⟩, ⟨list, others⟩⟩
      exact ⟨b :: list, .cons one others⟩

theorem under_of_distinct {members : List (String × Value)} (distinct : (members.map Prod.fst).Nodup)
    (key : String) : under key members = (members.lookup key).toList := by
  have few : (under key members).length ≤ 1 := under_length_le distinct
  rw [lookup_eq_head_under]
  match under key members, few with
  | [], _ => rfl
  | [value], _ => rfl

/-! Parts of pairs. -/

section Pairs

variable {α β : Type} {left : Part α} {right : Part β} {first : α → Value → Prop}
  {second : β → Value → Prop}

theorem Part.given_iff {a : α} {found : Option Value} :
    left.Given first a found ↔
      (∃ value, found = some value ∧ first a value) ∨ found = none ∧ left.substitute = some a := by
  cases found <;> simp [Given]

theorem Part.inObject_iff {members : List (String × Value)}
    (distinct : (members.map Prod.fst).Nodup) {a : α} :
    left.InObject first members a ↔ left.Given first a (members.lookup left.name) := by
  simp only [InObject, Has, under_of_distinct distinct]
  cases members.lookup left.name <;> simp [Given]

theorem listed_iff {pair : α × β} {items : List Value} :
    Listed left right first second pair items ↔
      items.length ≤ 2 ∧ left.Given first pair.1 items[0]? ∧ right.Given second pair.2 items[1]? := by
  match items with
  | [] => simp [listed_nil, Part.Given]
  | [value] => simp [listed_one, Part.Given]
  | [value, other] => simp [listed_both, Part.Given]
  | value :: other :: third :: others =>
    constructor
    · intro listed
      cases listed
    · rintro ⟨short, -⟩
      simp at short

/-- A pair has its parts under their names or at their places. -/
theorem pairOf_iff {pair : α × β} {value : Value} (distinct : value.distinctKeys = true) :
    PairOf left right first second pair value ↔
      value.isPair = true ∧ left.Given first pair.1 (value.part? left.name 0) ∧
        right.Given second pair.2 (value.part? right.name 1) := by
  cases value with
  | object members =>
    have unrepeated := (Value.distinctKeys_object.mp distinct).1
    simp only [Value.isPair, Value.part?, true_and, ← Part.inObject_iff unrepeated]
    constructor
    · rintro (⟨one, other⟩)
      exact ⟨one, other⟩
    · rintro ⟨one, other⟩
      exact .object one other
  | array items =>
    simp only [Value.isPair, Value.part?, decide_eq_true_iff, ← listed_iff]
    constructor
    · rintro (- | listed)
      exact listed
    · exact .list
  | _ => exact ⟨fun pair => (nomatch pair), fun isPair => (nomatch isPair.1)⟩

end Pairs

/-! Maps. -/

section Maps

variable {β : Type} {shape : β → Value → Prop} {map : KeyMap β} {members : List (String × Value)}

theorem keys_of_entries {entries : List (String × β)}
    (listed : List.Forall₂ (EntryOf shape) members entries) :
    entries.map Prod.fst = members.map Prod.fst := by
  induction listed with
  | nil => rfl
  | cons one _ ih => rw [List.map_cons, List.map_cons, ih, one.1]

/-- A map has the keys of the members, and under each key what its member holds. -/
theorem mapOf_iff (distinct : (members.map Prod.fst).Nodup) :
    MapOf shape map (.object members) ↔
      (∀ key, key ∈ map.keys ↔ key ∈ members.map Prod.fst) ∧
        ∀ member ∈ members, ∃ b, map.get? member.1 = some b ∧ shape b member.2 := by
  -- The entries that go with the members have the same keys, so each of them is found in the map.
  have found : ∀ {entries : List (String × β)}, List.Forall₂ (EntryOf shape) members entries →
      ∀ {key : String} {b : β}, (KeyMap.ofList entries).get? key = some b ↔ (key, b) ∈ entries := by
    intro entries listed key b
    have unrepeated : (entries.reverse.map Prod.fst).Nodup := by
      rw [List.map_reverse, keys_of_entries listed, List.nodup_reverse]
      exact distinct
    rw [KeyMap.get?_ofList, ← List.mem_reverse]
    exact ⟨mem_of_lookup, lookup_of_mem unrepeated⟩
  constructor
  · rintro ⟨_, entries, same, listed, rfl⟩
    cases same
    constructor
    · intro key
      rw [← keys_of_entries listed, KeyMap.mem_keys]
      simp only [found listed, List.mem_map, Prod.exists, exists_and_right, exists_eq_right]
    · intro member among
      obtain ⟨index, bound, rfl⟩ := List.getElem_of_mem among
      have inEntries : index < entries.length := listed.length_eq ▸ bound
      obtain ⟨name, shaped⟩ := listed.get bound inEntries
      refine ⟨entries[index].2, (found listed).mpr ?_, shaped⟩
      rw [List.get_eq_getElem, List.get_eq_getElem] at name
      rw [name]
      exact List.getElem_mem inEntries
  · rintro ⟨keys, held⟩
    have each : ∀ member ∈ members, ∃ entry : String × β,
        EntryOf shape member entry ∧ map.get? entry.1 = some entry.2 := by
      intro member among
      obtain ⟨b, under, shaped⟩ := held member among
      exact ⟨(member.1, b), ⟨rfl, shaped⟩, under⟩
    obtain ⟨entries, listed⟩ := exists_forall₂.mpr each
    have ofMembers : List.Forall₂ (EntryOf shape) members entries := listed.imp fun _ _ both => both.1
    have inMap : ∀ entry ∈ entries, map.get? entry.1 = some entry.2 := by
      intro entry among
      obtain ⟨index, bound, rfl⟩ := List.getElem_of_mem among
      exact (listed.get (listed.length_eq ▸ bound) bound).2
    refine ⟨members, entries, rfl, ofMembers, KeyMap.get?_ext fun key => Option.ext fun b => ?_⟩
    rw [found ofMembers]
    constructor
    · intro under
      have known : key ∈ entries.map Prod.fst := by
        rw [keys_of_entries ofMembers, ← keys, KeyMap.mem_keys]
        exact ⟨b, under⟩
      obtain ⟨entry, among, rfl⟩ := List.mem_map.mp known
      cases (inMap entry among).symm.trans under
      exact among
    · exact inMap (key, b)

end Maps

/-! Tests for shapes. -/

namespace DecidedBy

theorem word : DecidedBy (fun word value => value = .ofWord word) Value.isWord := by
  intro value _
  constructor
  · rintro ⟨word, rfl⟩
    have below : word.toNat < 4294967296 := word.toNat_lt
    simp only [Value.isWord, Value.ofWord, Bool.and_eq_true, decide_eq_true_iff]
    omega
  · intro isWord
    obtain ⟨n, rfl⟩ : ∃ n, value = .number (.integer n) := by
      cases value with
      | number number =>
        cases number with
        | integer n => exact ⟨n, rfl⟩
        | _ => cases isWord
      | _ => cases isWord
    simp only [Value.isWord, Bool.and_eq_true, decide_eq_true_iff] at isWord
    have size : UInt32.size = 4294967296 := rfl
    have whole : ((UInt32.ofNat n.toNat).toNat : Int) = n := by
      rw [UInt32.toNat_ofNat_of_lt' (by omega)]
      omega
    refine ⟨UInt32.ofNat n.toNat, ?_⟩
    simp only [Value.ofWord, whole]

theorem string : DecidedBy (fun text value => value = .string text) Value.isString := by
  intro value _
  cases value <;> simp [Value.isString]

theorem list {α : Type} {shape : α → Value → Prop} {test : Value → Bool}
    (decided : DecidedBy shape test) : DecidedBy (ListOf shape) (Value.isListOf test) := by
  intro value distinct
  cases value with
  | array items =>
    have inner := Value.distinctKeys_array.mp distinct
    simp only [ListOf, Value.array.injEq, exists_eq_left', exists_forall₂, Value.isListOf,
      List.all_eq_true]
    exact forall₂_congr fun item listed => decided item (inner item listed)
  | _ => simp [ListOf, Value.isListOf]

theorem keyMap {β : Type} {shape : β → Value → Prop} {test : Value → Bool}
    (decided : DecidedBy shape test) : DecidedBy (MapOf shape) (Value.isMapOf test) := by
  intro value distinct
  cases value with
  | object members =>
    have inner := (Value.distinctKeys_object.mp distinct).2
    have each : (∃ entries, List.Forall₂ (EntryOf shape) members entries) ↔
        ∀ member ∈ members, test member.2 = true := by
      rw [exists_forall₂]
      refine forall₂_congr fun member listed => ?_
      rw [← decided member.2 (inner member listed)]
      constructor
      · rintro ⟨entry, -, shaped⟩
        exact ⟨entry.2, shaped⟩
      · rintro ⟨b, shaped⟩
        exact ⟨(member.1, b), rfl, shaped⟩
    simp only [Value.isMapOf, List.all_eq_true, ← each]
    constructor
    · rintro ⟨map, _, entries, same, listed, -⟩
      cases same
      exact ⟨entries, listed⟩
    · rintro ⟨entries, listed⟩
      exact ⟨_, members, entries, rfl, listed, rfl⟩
  | _ => simp [MapOf, Value.isMapOf]

end DecidedBy

/-- A part can be had if its value passes the test, or if it may be left out and is. -/
theorem Part.exists_given {α : Type} {part : Part α} {shape : α → Value → Prop}
    {test : Value → Bool} (decided : DecidedBy shape test) {found : Option Value}
    (distinct : ∀ value, found = some value → value.distinctKeys = true) :
    (∃ a, part.Given shape a found) ↔ found.elim part.substitute.isSome test = true := by
  cases found with
  | some value => exact decided value (distinct value rfl)
  | none => exact Option.isSome_iff_exists.symm

theorem Value.distinctKeys_part {value found : Value} {name : String} {index : Nat}
    (distinct : value.distinctKeys = true) (part : value.part? name index = some found) :
    found.distinctKeys = true := by
  cases value with
  | object members => exact (distinctKeys_object.mp distinct).2 _ (mem_of_lookup part)
  | array items => exact distinctKeys_array.mp distinct _ (List.mem_of_getElem? part)
  | _ => cases part

/-- A pair is there if it has the form of one and each of its parts can be had. -/
theorem DecidedBy.pair {α β : Type} {left : Part α} {right : Part β} {first : α → Value → Prop}
    {second : β → Value → Prop} {test other : Value → Bool} (one : DecidedBy first test)
    (another : DecidedBy second other) :
    DecidedBy (PairOf left right first second) fun value =>
      value.isPair && (value.part? left.name 0).elim left.substitute.isSome test &&
        (value.part? right.name 1).elim right.substitute.isSome other := by
  intro value distinct
  have inner : ∀ name index found, value.part? name index = some found → found.distinctKeys = true :=
    fun _ _ _ => Value.distinctKeys_part distinct
  have hasLeft := left.exists_given one (inner left.name 0)
  have hasRight := right.exists_given another (inner right.name 1)
  simp only [pairOf_iff distinct, Bool.and_eq_true, ← hasLeft, ← hasRight]
  constructor
  · rintro ⟨⟨a, b⟩, isPair, hasLeft, hasRight⟩
    exact ⟨⟨isPair, a, hasLeft⟩, b, hasRight⟩
  · rintro ⟨⟨isPair, a, hasLeft⟩, b, hasRight⟩
    exact ⟨(a, b), isPair, hasLeft, hasRight⟩

/-! Sorting. -/

theorem Value.mem_canonicalMembers {members : List (String × Value)}
    (distinct : (members.map Prod.fst).Nodup) {key : String} {sorted : Value} :
    (key, sorted) ∈ canonicalMembers [] members ↔
      ∃ value, (key, value) ∈ members ∧ value.canonical = sorted := by
  rw [← mem_under, under_canonical_of_distinct distinct, List.mem_map]
  simp only [mem_under]

section SortedEntries

variable {β : Type} {shape : β → Value → Prop} {members : List (String × Value)}
  {entries : List (String × β)}

/-- Entries still go with members when both take one more at its place. -/
theorem entries_insertEntry (listed : List.Forall₂ (EntryOf shape) members entries) (key : String)
    {value : Value} {b : β} (shaped : shape b value) :
    List.Forall₂ (EntryOf shape) (insertEntry key value members) (insertEntry key b entries) := by
  induction listed with
  | nil => exact .cons ⟨rfl, shaped⟩ .nil
  | cons one others ih =>
    rw [insertEntry, insertEntry, one.1]
    split
    · exact .cons ⟨rfl, shaped⟩ (.cons one others)
    · split
      · exact .cons ⟨rfl, shaped⟩ others
      · exact .cons one ih

/-- Sorting members and filling a map come to the same order and leave out the same. -/
theorem entries_canonical (orderless : ∀ b, Orderless (shape b))
    (listed : List.Forall₂ (EntryOf shape) members entries) {done : List (String × Value)}
    {map : KeyMap β} (before : List.Forall₂ (EntryOf shape) done map.entries) :
    List.Forall₂ (EntryOf shape) (Value.canonicalMembers done members)
      (entries.foldl (fun map entry => map.insert entry.1 entry.2) map).entries := by
  induction listed generalizing done map with
  | nil => exact before
  | @cons member entry members entries one others ih =>
    obtain ⟨name, shaped⟩ := one
    rw [List.foldl_cons, Value.canonicalMembers, name]
    exact ih (entries_insertEntry before entry.1 ((orderless entry.2).kept shaped))

theorem Orderless.keyMap (orderless : ∀ b, Orderless (shape b)) (map : KeyMap β) :
    Orderless (MapOf shape map) where
  kept := by
    rintro value ⟨members, entries, rfl, listed, rfl⟩
    exact ⟨_, _, rfl, entries_canonical orderless listed .nil, (KeyMap.ofList_entries _).symm⟩
  reflected := by
    intro value distinct held
    obtain ⟨sorted, _, shown, -⟩ := id held
    obtain ⟨members, rfl, rfl⟩ := Value.canonical_eq_object.mp shown
    obtain ⟨unrepeated, inner⟩ := Value.distinctKeys_object.mp distinct
    have increasing := Value.canonicalMembers_increasing List.Pairwise.nil members
    rw [Value.canonical, mapOf_iff increasing.nodup_keys] at held
    obtain ⟨keys, values⟩ := held
    refine (mapOf_iff unrepeated).mpr ⟨fun key => ?_, fun member listed => ?_⟩
    · rw [keys]
      simp only [List.mem_map, Prod.exists, exists_and_right, exists_eq_right,
        Value.mem_canonicalMembers unrepeated]
      constructor
      · rintro ⟨_, value, listed, -⟩
        exact ⟨value, listed⟩
      · rintro ⟨value, listed⟩
        exact ⟨_, value, listed, rfl⟩
    · have among := (Value.mem_canonicalMembers unrepeated).mpr ⟨member.2, listed, rfl⟩
      obtain ⟨b, under, shaped⟩ := values _ among
      exact ⟨b, under, (orderless b).reflected (inner member listed) shaped⟩

end SortedEntries

section SortedPairs

variable {α β : Type} {left : Part α} {right : Part β} {first : α → Value → Prop}
  {second : β → Value → Prop}

theorem Part.inObject_orderless (orderless : ∀ a, Orderless (first a)) (a : α) :
    OrderlessIn fun members => left.InObject first members a :=
  (OrderlessIn.has (orderless a) left.name).or ((OrderlessIn.lacks left.name).and (.always _))

theorem Listed.canonical (one : ∀ a, Orderless (first a)) (other : ∀ b, Orderless (second b))
    {pair : α × β} {items : List Value} (listed : Listed left right first second pair items) :
    Listed left right first second pair (items.map Value.canonical) := by
  cases listed with
  | neither substituted settled => exact .neither substituted settled
  | one shaped settled => exact .one ((one _).kept shaped) settled
  | both shaped shapedToo => exact .both ((one _).kept shaped) ((other _).kept shapedToo)

theorem Listed.of_canonical (one : ∀ a, Orderless (first a)) (other : ∀ b, Orderless (second b))
    {pair : α × β} {items : List Value} (distinct : ∀ item ∈ items, item.distinctKeys = true)
    (listed : Listed left right first second pair (items.map Value.canonical)) :
    Listed left right first second pair items := by
  match items with
  | [] => exact listed
  | [value] =>
    obtain ⟨shaped, settled⟩ := listed_one.mp listed
    exact .one ((one _).reflected (distinct value (by simp)) shaped) settled
  | [value, further] =>
    obtain ⟨shaped, shapedToo⟩ := listed_both.mp listed
    exact .both ((one _).reflected (distinct value (by simp)) shaped)
      ((other _).reflected (distinct further (by simp)) shapedToo)
  | value :: further :: third :: others => cases listed

theorem Orderless.pair (one : ∀ a, Orderless (first a)) (other : ∀ b, Orderless (second b))
    (pair : α × β) : Orderless (PairOf left right first second pair) where
  kept := by
    intro value written
    cases written with
    | object inLeft inRight =>
      exact .object ((Part.inObject_orderless one _).kept inLeft)
        ((Part.inObject_orderless other _).kept inRight)
    | @list items listed =>
      rw [Value.canonical, Value.canonicalItems_eq_map]
      exact .list (listed.canonical one other)
  reflected := by
    intro value distinct written
    generalize shown : value.canonical = sorted at written
    cases written with
    | object inLeft inRight =>
      obtain ⟨members, rfl, rfl⟩ := Value.canonical_eq_object.mp shown
      exact .object ((Part.inObject_orderless one _).reflected distinct inLeft)
        ((Part.inObject_orderless other _).reflected distinct inRight)
    | list listed =>
      obtain ⟨items, rfl, rfl⟩ := Value.canonical_eq_array.mp shown
      exact .list (listed.of_canonical one other (Value.distinctKeys_array.mp distinct))

end SortedPairs

end HintLint.Json
