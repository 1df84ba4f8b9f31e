import HintLint.Proofs.Json.Canonical
import HintLint.Proofs.KeyMap

/-!
Edits of values. The members under a key can be taken out of an object, or what stands under the key
can be changed, and the same can be done to a value deep inside another, at the end of a path of keys
and indices. All members under the key of a step are edited alike, so it makes no difference whether
a value is sorted before the edit or after it.
-/

namespace HintLint.Json

/-- The members without those under a key. -/
def lacking (key : String) (members : List (String × Value)) : List (String × Value) :=
  members.filter fun member => member.1 ≠ key

/-- The members with a change of what stands under a key. -/
def changing (key : String) (change : Value → Value) (members : List (String × Value)) :
    List (String × Value) :=
  members.map fun member => if member.1 = key then (key, change member.2) else member

/-- One step into a value. -/
inductive Step where
  | member (key : String)
  | item (index : Nat)

namespace Value

/-- The object with an edit of its members. -/
def onMembers (edit : List (String × Value) → List (String × Value)) : Value → Value
  | .object members => .object (edit members)
  | value => value

/-- The object without what stands under a key. -/
def without (key : String) : Value → Value := onMembers (lacking key)

/-- The object with a change of what stands under a key. -/
def changeMember (key : String) (change : Value → Value) : Value → Value :=
  onMembers (changing key change)

/-- The object with another value in the place of what stands under a key. -/
def replace (key : String) (item : Value) : Value → Value := changeMember key fun _ => item

/-- The list with a change of one item. -/
def changeItem (index : Nat) (change : Value → Value) : Value → Value
  | .array items => .array (items.modify index change)
  | value => value

/-- The value at the end of a path. -/
def at? : List Step → Value → Option Value
  | [], value => some value
  | .member key :: path, value => (value.last? key).bind (at? path)
  | .item index :: path, .array items => items[index]?.bind (at? path)
  | .item _ :: _, _ => none

/-- The value with a change at the end of a path. -/
def update : List Step → (Value → Value) → Value → Value
  | [], change => change
  | .member key :: path, change => changeMember key (update path change)
  | .item index :: path, change => changeItem index (update path change)

end Value

section Under

variable {key other : String} {change : Value → Value} {members : List (String × Value)}

@[simp]
theorem under_lacking_self : under key (lacking key members) = [] := by
  refine under_eq_nil fun member listed => ?_
  simpa using (List.mem_filter.mp listed).2

theorem under_lacking_other (different : key ≠ other) :
    under key (lacking other members) = under key members := by
  induction members with
  | nil => rfl
  | cons member members ih =>
    obtain ⟨name, value⟩ := member
    by_cases gone : name = other
    · subst gone
      rw [lacking, List.filter_cons_of_neg (by simp), under_cons_other (Ne.symm different)]
      exact ih
    · rw [lacking, List.filter_cons_of_pos (by simpa using gone)]
      by_cases same : name = key
      · subst same
        rw [under_cons_self, under_cons_self]
        exact congrArg _ ih
      · rw [under_cons_other same, under_cons_other same]
        exact ih

@[simp]
theorem under_changing_self :
    under key (changing key change members) = (under key members).map change := by
  induction members with
  | nil => rfl
  | cons member members ih =>
    obtain ⟨name, value⟩ := member
    by_cases same : name = key
    · subst same
      rw [under_cons_self, List.map_cons, ← ih]
      simp [changing]
    · rw [under_cons_other same, ← ih, changing, List.map_cons, if_neg same]
      exact under_cons_other same

theorem under_changing_other (different : key ≠ other) :
    under key (changing other change members) = under key members := by
  induction members with
  | nil => rfl
  | cons member members ih =>
    obtain ⟨name, value⟩ := member
    rw [changing, List.map_cons]
    by_cases changed : name = other
    · subst changed
      rw [if_pos rfl, under_cons_other (Ne.symm different), under_cons_other (Ne.symm different)]
      exact ih
    · rw [if_neg changed]
      by_cases same : name = key
      · subst same
        rw [under_cons_self, under_cons_self]
        exact congrArg _ ih
      · rw [under_cons_other same, under_cons_other same]
        exact ih

end Under

/-! Sorting and edits. -/

/-- Sorted members are known by what stands under each key. -/
theorem Increasing.ext_under {first second : List (String × Value)} (one : Increasing first)
    (other : Increasing second) (same : ∀ key, under key first = under key second) :
    first = second := by
  refine one.ext_mem other ?_
  rintro ⟨key, value⟩
  rw [← mem_under, ← mem_under, same]

namespace Value

theorem canonicalMembers_increasing {done : List (String × Value)} (increasing : Increasing done)
    (members : List (String × Value)) : Increasing (canonicalMembers done members) := by
  induction members generalizing done with
  | nil => exact increasing
  | cons member members ih => exact ih (increasing.insertEntry _ _)

theorem canonicalMembers_lacking (key : String) (members : List (String × Value)) :
    canonicalMembers [] (lacking key members) = lacking key (canonicalMembers [] members) := by
  have sorted := canonicalMembers_increasing List.Pairwise.nil members
  refine Increasing.ext_under (canonicalMembers_increasing List.Pairwise.nil _) (sorted.filter _) ?_
  intro other
  rw [under_canonical]
  by_cases same : other = key
  · subst same
    simp
  · rw [under_lacking_other same, under_lacking_other same, under_canonical]

/-- A change that does the same to a value and to its sorted form. -/
def Sortable (change : Value → Value) : Prop :=
  ∀ value : Value, (change value).canonical = change value.canonical

theorem canonicalMembers_changing {change : Value → Value} (sortable : Sortable change)
    (key : String) (members : List (String × Value)) :
    canonicalMembers [] (changing key change members) =
      changing key change (canonicalMembers [] members) := by
  have sorted := canonicalMembers_increasing List.Pairwise.nil members
  have kept : Increasing (changing key change (canonicalMembers [] members)) := by
    refine List.pairwise_map.mpr (sorted.imp ?_)
    intro first second below
    split <;> split <;> simp_all
  refine Increasing.ext_under (canonicalMembers_increasing List.Pairwise.nil _) kept ?_
  intro other
  rw [under_canonical]
  by_cases same : other = key
  · subst same
    rw [under_changing_self, under_changing_self, under_canonical, List.getLast?_map]
    cases (under other members).getLast? with
    | none => rfl
    | some value => exact congrArg (fun item => [item]) (sortable value)
  · rw [under_changing_other same, under_changing_other same, under_canonical]

theorem canonicalMembers_replacing {item : Value} (sorted : item.canonical = item) (key : String)
    (members : List (String × Value)) :
    canonicalMembers [] (changing key (fun _ => item) members) =
      changing key (fun _ => item) (canonicalMembers [] members) :=
  canonicalMembers_changing (fun _ => sorted) key members

theorem onMembers_sortable {edit : List (String × Value) → List (String × Value)}
    (sorts : ∀ members, canonicalMembers [] (edit members) = edit (canonicalMembers [] members)) :
    Sortable (onMembers edit) := by
  intro value
  cases value with
  | object members => exact congrArg _ (sorts members)
  | _ => rfl

theorem changeItem_sortable {change : Value → Value} (sortable : Sortable change) (index : Nat) :
    Sortable (changeItem index change) := by
  intro value
  cases value with
  | array items =>
    simp only [changeItem, canonical, canonicalItems_eq_map]
    refine congrArg _ (List.ext_getElem? fun place => ?_)
    simp only [List.getElem?_map, List.getElem?_modify]
    split
    · cases items[place]? <;> simp [sortable _]
    · simp
  | _ => rfl

theorem update_sortable {change : Value → Value} (sortable : Sortable change) (path : List Step) :
    Sortable (update path change) := by
  induction path with
  | nil => exact sortable
  | cons step path ih =>
    cases step with
    | member key => exact onMembers_sortable (canonicalMembers_changing ih key)
    | item index => exact changeItem_sortable ih index

/-- A path leads to the same place in a sorted value. -/
theorem at_canonical (path : List Step) (value : Value) :
    value.canonical.at? path = (value.at? path).map canonical := by
  induction path generalizing value with
  | nil => rfl
  | cons step path ih =>
    cases step with
    | member key =>
      simp only [at?, last_canonical]
      cases value.last? key with
      | none => rfl
      | some found => exact ih found
    | item index =>
      cases value with
      | array items =>
        simp only [canonical, canonicalItems_eq_map, at?, List.getElem?_map]
        cases items[index]? with
        | none => rfl
        | some found => exact ih found
      | _ => rfl

/-- A change below some part of a value makes nothing `null` that was not. -/
theorem update_ne_null {path : List Step} {change : Value → Value} {value found : Value}
    (there : value.at? path = some found) (solid : change found ≠ .null) :
    value.update path change ≠ .null := by
  cases path with
  | nil =>
    cases there
    exact solid
  | cons step path =>
    cases step with
    | member key => cases value <;> simp [at?, last?, update, changeMember, onMembers] at there ⊢
    | item index => cases value <;> simp [at?, update, changeItem] at there ⊢

end Value

end HintLint.Json
