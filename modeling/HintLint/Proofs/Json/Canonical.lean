import HintLint.Json.Value
import Mathlib.Data.List.Basic

/-!
What stands under the keys of an object, and what is left of it in the canonical value. The members
under one key are all that a reader of records looks at; the canonical value has the last of them and
no other. Where no object repeats a key, nothing but the order is lost.
-/

namespace HintLint.Json

/-- The values of all members under a key, in the order of the members. -/
def under (key : String) (members : List (String × Value)) : List Value :=
  members.filterMap fun member => if member.1 = key then some member.2 else none

section Under

variable {key other : String} {value : Value} {members : List (String × Value)}

@[simp]
theorem under_nil : under key [] = [] := rfl

@[simp]
theorem under_cons_self : under key ((key, value) :: members) = value :: under key members := by
  simp [under]

theorem under_cons_other (different : other ≠ key) :
    under key ((other, value) :: members) = under key members := by
  simp [under, different]

theorem under_append {more : List (String × Value)} :
    under key (members ++ more) = under key members ++ under key more :=
  List.filterMap_append

theorem mem_under {item : Value} : item ∈ under key members ↔ (key, item) ∈ members := by
  simp only [under, List.mem_filterMap]
  constructor
  · rintro ⟨⟨name, found⟩, listed, same⟩
    split at same
    · rename_i named
      cases same
      cases named
      exact listed
    · cases same
  · intro listed
    exact ⟨(key, item), listed, by simp⟩

theorem under_eq_nil (absent : ∀ member ∈ members, member.1 ≠ key) : under key members = [] := by
  refine List.filterMap_eq_nil_iff.mpr fun member listed => ?_
  simp [absent member listed]

theorem lookup_eq_head_under : members.lookup key = (under key members).head? := by
  induction members with
  | nil => rfl
  | cons member members ih =>
    obtain ⟨name, item⟩ := member
    by_cases same : name = key
    · subst same
      simp
    · rw [under_cons_other same, List.lookup_cons, beq_false_of_ne (Ne.symm same), ih]

/-- Where keys differ from each other, at most one member stands under a key. -/
theorem under_length_le (distinct : (members.map Prod.fst).Nodup) :
    (under key members).length ≤ 1 := by
  induction members with
  | nil => simp
  | cons member members ih =>
    obtain ⟨name, item⟩ := member
    have ⟨fresh, tail⟩ := List.nodup_cons.mp distinct
    by_cases same : name = key
    · subst same
      have absent : under name members = [] :=
        under_eq_nil fun member listed same => fresh (List.mem_map.mpr ⟨member, listed, same⟩)
      simp [absent]
    · rw [under_cons_other same]
      exact ih tail

end Under

/-- In a sorted list an insertion decides what stands under its own key, and nothing else. -/
theorem under_insertEntry {key other : String} {value : Value} {entries : List (String × Value)}
    (increasing : Increasing entries) :
    under key (insertEntry other value entries) =
      if other = key then [value] else under key entries := by
  induction entries with
  | nil => by_cases same : other = key <;> simp [insertEntry, under, same]
  | cons entry entries ih =>
    obtain ⟨name, item⟩ := entry
    obtain ⟨above, tail⟩ := List.pairwise_cons.mp increasing
    unfold insertEntry
    split
    · rename_i before
      by_cases same : other = key
      · subst same
        have absent : under other ((name, item) :: entries) = [] := by
          refine under_eq_nil fun member listed same => ?_
          rcases List.mem_cons.mp listed with rfl | later
          · exact String.lt_irrefl _ (same ▸ before)
          · exact String.lt_irrefl _ (same ▸ String.lt_trans before (above member later))
        rw [under_cons_self, absent, if_pos rfl]
      · rw [under_cons_other same, if_neg same]
    · rename_i notBefore
      split
      · rename_i equal
        obtain rfl : other = name := equal
        by_cases same : other = key
        · subst same
          have absent : under other entries = [] := by
            refine under_eq_nil fun member later same => ?_
            exact String.lt_irrefl _ (same ▸ above member later)
          rw [under_cons_self, absent, if_pos rfl]
        · rw [under_cons_other same, under_cons_other same, if_neg same]
      · rename_i different
        by_cases here : name = key
        · subst here
          rw [under_cons_self, under_cons_self, ih tail, if_neg different, if_neg different]
        · rw [under_cons_other here, under_cons_other here, ih tail]

namespace Value

theorem canonicalItems_eq_map (items : List Value) : canonicalItems items = items.map canonical := by
  induction items with
  | nil => rfl
  | cons item items ih => rw [canonicalItems, ih, List.map_cons]

/-- Under a key the canonical value has the last of the members there were, made canonical. -/
theorem under_canonicalMembers {key : String} {done : List (String × Value)}
    (increasing : Increasing done) (members : List (String × Value)) :
    under key (canonicalMembers done members) =
      match (under key members).getLast? with
      | some value => [value.canonical]
      | none => under key done := by
  induction members generalizing done with
  | nil => rfl
  | cons member members ih =>
    obtain ⟨name, item⟩ := member
    rw [canonicalMembers, ih (increasing.insertEntry _ _), under_insertEntry increasing]
    by_cases same : name = key
    · subst same
      rw [under_cons_self, List.getLast?_cons, if_pos rfl]
      cases (under name members).getLast? <;> rfl
    · rw [under_cons_other same, if_neg same]

theorem under_canonical (key : String) (members : List (String × Value)) :
    under key (canonicalMembers [] members) =
      ((under key members).getLast?.map canonical).toList := by
  rw [under_canonicalMembers List.Pairwise.nil]
  cases (under key members).getLast? <;> rfl

/-- The member of an object under a key; of several the last counts. -/
def last? (key : String) : Value → Option Value
  | .object members => (under key members).getLast?
  | _ => none

theorem last_canonical (key : String) (value : Value) :
    value.canonical.last? key = (value.last? key).map canonical := by
  cases value with
  | object members =>
    simp only [canonical, last?, under_canonical]
    cases (under key members).getLast? <;> rfl
  | _ => rfl

theorem canonical_eq_null {value : Value} : value.canonical = .null ↔ value = .null := by
  cases value <;> simp [canonical]

theorem canonical_eq_string {value : Value} {text : String} :
    value.canonical = .string text ↔ value = .string text := by
  cases value <;> simp [canonical]

theorem canonical_eq_number {value : Value} {number : Number} :
    value.canonical = .number number ↔ value = .number number := by
  cases value <;> simp [canonical]

theorem canonical_eq_array {value : Value} {items : List Value} :
    value.canonical = .array items ↔ ∃ given, value = .array given ∧ given.map canonical = items := by
  cases value <;> simp [canonical, canonicalItems_eq_map]

theorem canonical_eq_object {value : Value} {members : List (String × Value)} :
    value.canonical = .object members ↔
      ∃ given, value = .object given ∧ canonicalMembers [] given = members := by
  cases value <;> simp [canonical]

mutual

/-- Whether no object in the value repeats a key. -/
def distinctKeys : Value → Bool
  | .array items => distinctItems items
  | .object members => decide (members.map Prod.fst).Nodup && distinctMembers members
  | .null | .bool _ | .number _ | .string _ => true

/-- Whether no object in the items of a list repeats a key. -/
def distinctItems : List Value → Bool
  | [] => true
  | item :: items => item.distinctKeys && distinctItems items

/-- Whether no object in the values of members repeats a key. -/
def distinctMembers : List (String × Value) → Bool
  | [] => true
  | (_, value) :: members => value.distinctKeys && distinctMembers members

end

theorem distinctKeys_array {items : List Value} :
    (Value.array items).distinctKeys = true ↔ ∀ item ∈ items, item.distinctKeys = true := by
  rw [distinctKeys]
  induction items with
  | nil => simp [distinctItems]
  | cons item items ih => simp [distinctItems, ih]

theorem distinctKeys_object {members : List (String × Value)} :
    (Value.object members).distinctKeys = true ↔
      (members.map Prod.fst).Nodup ∧ ∀ member ∈ members, member.2.distinctKeys = true := by
  rw [distinctKeys, Bool.and_eq_true, decide_eq_true_eq]
  refine and_congr Iff.rfl ?_
  induction members with
  | nil => simp [distinctMembers]
  | cons member members ih => simp only [distinctMembers, Bool.and_eq_true, ih, List.forall_mem_cons]

/-- Where no key is repeated, what stands under a key is only made canonical. -/
theorem under_canonical_of_distinct {members : List (String × Value)}
    (distinct : (members.map Prod.fst).Nodup) (key : String) :
    under key (canonicalMembers [] members) = (under key members).map canonical := by
  have few : (under key members).length ≤ 1 := under_length_le distinct
  rw [under_canonical]
  match under key members, few with
  | [], _ => rfl
  | [value], _ => rfl

/-- Only an object without members has none in its canonical value. -/
theorem canonicalMembers_eq_nil {members : List (String × Value)}
    (none : canonicalMembers [] members = []) : members = [] := by
  cases members with
  | nil => rfl
  | cons member members =>
    have gone := under_canonical member.1 (member :: members)
    rw [none, under_nil, under_cons_self, List.getLast?_cons] at gone
    cases gone

/-- An object whose canonical value has one member had one member, unless a key is repeated. -/
theorem canonicalMembers_eq_singleton {members : List (String × Value)}
    (distinct : (members.map Prod.fst).Nodup) {key : String} {value : Value}
    (same : canonicalMembers [] members = [(key, value)]) :
    ∃ given, members = [(key, given)] ∧ given.canonical = value := by
  -- What stands under any other key would be left in the canonical value.
  have named : ∀ member ∈ members, member.1 = key := by
    intro member listed
    by_contra different
    have found : under member.1 members ≠ [] :=
      List.ne_nil_of_mem (mem_under.mpr listed)
    have gone := under_canonical_of_distinct distinct member.1
    rw [same, under_cons_other (Ne.symm different)] at gone
    exact found (List.map_eq_nil_iff.mp gone.symm)
  match members with
  | [] => cases same
  | [(name, given)] =>
    cases same
    exact ⟨given, rfl, rfl⟩
  | first :: second :: others =>
    have equal : first.1 = second.1 :=
      (named first (by simp)).trans (named second (by simp)).symm
    simp [equal] at distinct

end Value

end HintLint.Json
