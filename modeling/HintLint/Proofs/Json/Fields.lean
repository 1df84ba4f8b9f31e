import HintLint.Json.Record
import HintLint.Proofs.Json.Canonical
import HintLint.Proofs.Json.Rounds

/-!
What a record is, whatever the order of its members. Reading the members one after the other into a
draft comes down to one question for each field: the members under the field's name must be at most
one, and it must have the field's shape. The place of the field in the draft then holds what was found,
and the members of other names are kept for the end of the record.
-/

namespace HintLint.Json

/-- Under the name stands what is given, as the shape reads it: nothing or one member. -/
def Holds {β : Type} (name : String) (decoder : Decoder β) (members : List (String × Value))
    (found : Option β) : Prop :=
  (under name members).mapM decoder.ofValue = .ok found.toList

theorem holds_some {β : Type} {name : String} {decoder : Decoder β}
    {members : List (String × Value)} {b : β} :
    Holds name decoder members (some b) ↔
      ∃ value, under name members = [value] ∧ decoder.ofValue value = .ok b := by
  rw [Holds, mapM_eq_ok, Option.toList_some]
  constructor
  · intro listed
    cases found : under name members with
    | nil =>
      rw [found] at listed
      cases listed
    | cons value others =>
      rw [found] at listed
      cases listed with
      | cons decoded none =>
        cases none
        exact ⟨value, rfl, decoded⟩
  · rintro ⟨value, found, decoded⟩
    rw [found]
    exact .cons decoded .nil

theorem holds_none {β : Type} {name : String} {decoder : Decoder β}
    {members : List (String × Value)} :
    Holds name decoder members none ↔ under name members = [] := by
  rw [Holds, mapM_eq_ok, Option.toList_none, List.forall₂_nil_right_iff]

theorem required_eq_ok {β : Type} {name : String} {found : Option β} {b : β} :
    required name found = .ok b ↔ found = some b := by
  cases found with
  | none => exact ⟨fun failed => (nomatch failed), fun failed => (nomatch failed)⟩
  | some c =>
    exact ⟨fun same => congrArg _ (Except.ok.inj same), fun same => congrArg _ (Option.some.inj same)⟩

theorem Holds.unique {β : Type} {name : String} {decoder : Decoder β}
    {members : List (String × Value)} {a b : Option β} (first : Holds name decoder members a)
    (second : Holds name decoder members b) : a = b := by
  have same : a.toList = b.toList := Except.ok.inj (first.symm.trans second)
  cases a <;> cases b <;> simp_all

theorem findField_eq_some {σ : Type} {fields : List (Field σ)} {key : String} {field : Field σ}
    (found : findField? fields key = some field) : field ∈ fields ∧ field.name = key :=
  ⟨List.mem_of_find?_eq_some found, by simpa using List.find?_some found⟩

theorem Holds.length_le {β : Type} {name : String} {decoder : Decoder β}
    {members : List (String × Value)} {found : Option β} (holds : Holds name decoder members found) :
    (under name members).length ≤ 1 := by
  rw [(mapM_eq_ok.mp holds).length_eq]
  cases found <;> simp

theorem Holds.shaped {β : Type} {name : String} {decoder : Decoder β}
    {members : List (String × Value)} {found : Option β} (holds : Holds name decoder members found)
    {value : Value} (listed : value ∈ under name members) : ∃ b, decoder.ofValue value = .ok b := by
  cases found with
  | none =>
    rw [holds_none.mp holds] at listed
    cases listed
  | some b =>
    obtain ⟨only, found, decoded⟩ := holds_some.mp holds
    rw [found, List.mem_singleton] at listed
    exact ⟨b, listed ▸ decoded⟩

/-- A cell of a draft, with the name and the shape of what it is for. -/
structure Cell (σ : Type) where
  {β : Type}
  name : String
  decoder : Decoder β
  get : σ → Option β

/-- The draft holds in the cell what stands under its name. -/
def Cell.Held {σ : Type} (cell : Cell σ) (members : List (String × Value)) (draft : σ) : Prop :=
  Holds cell.name cell.decoder members (cell.get draft)

namespace Record

variable {σ α : Type} {record : Record σ α} {cells : List (Cell σ)}

/-- The fields of a record fill the cells of its draft, each its own and no other. -/
structure Filled (record : Record σ α) (cells : List (Cell σ)) : Prop where
  own : ∀ cell ∈ cells, ∃ set,
    findField? record.fields cell.name = some (.of cell.name cell.get cell.decoder set) ∧
      (∀ b draft, cell.get (set b draft) = some b) ∧
      ∀ other ∈ cells, other.name ≠ cell.name → ∀ b draft, other.get (set b draft) = other.get draft
  only : ∀ field ∈ record.fields, ∃ cell ∈ cells, cell.name = field.name
  empty : ∀ cell ∈ cells, cell.get record.empty = none
  /-- A draft is nothing but its cells. -/
  ext : ∀ draft other : σ, (∀ cell ∈ cells, cell.get draft = cell.get other) → draft = other

/-- The members that no field asks for. -/
def unasked (record : Record σ α) (members : List (String × Value)) : List (String × Value) :=
  members.filter fun member => (findField? record.fields member.1).isNone

theorem under_unasked {name : String} (unknown : findField? record.fields name = none)
    (members : List (String × Value)) : under name (record.unasked members) = under name members := by
  induction members with
  | nil => rfl
  | cons member members ih =>
    obtain ⟨key, value⟩ := member
    by_cases same : key = name
    · subst same
      rw [unasked, List.filter_cons_of_pos (by simp [unknown]), under_cons_self, under_cons_self]
      exact congrArg _ ih
    · rw [under_cons_other same, ← ih, unasked, List.filter_cons]
      split
      · exact under_cons_other same
      · rfl

/-- The record has a field for each cell. -/
theorem Filled.known (filled : record.Filled cells) {cell : Cell σ} (among : cell ∈ cells) :
    (findField? record.fields cell.name).isSome := by
  obtain ⟨set, own, -⟩ := filled.own cell among
  simp [own]

/-- The field that a key names is the field of a cell. -/
theorem Filled.cell_of_field (filled : record.Filled cells) {key : String} {field : Field σ}
    (known : findField? record.fields key = some field) :
    ∃ cell ∈ cells, key = cell.name ∧
      ∃ set, field = .of cell.name cell.get cell.decoder set ∧
        ∀ other ∈ cells, other.name ≠ cell.name →
          ∀ b draft, other.get (set b draft) = other.get draft := by
  obtain ⟨listed, named⟩ := findField_eq_some known
  obtain ⟨cell, among, same⟩ := filled.only field listed
  obtain ⟨set, own, -, spares⟩ := filled.own cell among
  obtain rfl : key = cell.name := named.symm.trans same.symm
  exact ⟨cell, among, rfl, set, Option.some.inj (known.symm.trans own), spares⟩

/-- What one member does to a cell of the draft: it fills the cell of its name, which was empty, and
leaves the others as they are. -/
theorem Filled.take_cell (filled : record.Filled cells) {cell : Cell σ} (among : cell ∈ cells)
    {start next : Progress σ} {key : String} {value : Value}
    (taken : record.take start (key, value) = .ok next) :
    (key = cell.name ∧ cell.get start.1 = none ∧
      ∃ b, cell.decoder.ofValue value = .ok b ∧ cell.get next.1 = some b) ∨
    (key ≠ cell.name ∧ cell.get next.1 = cell.get start.1) := by
  obtain ⟨set, own, fills, -⟩ := filled.own cell among
  unfold take at taken
  split at taken
  · rename_i unknown
    cases taken
    refine .inr ⟨?_, rfl⟩
    rintro rfl
    rw [own] at unknown
    cases unknown
  · rename_i field known
    split at taken
    · cases taken
    · rename_i vacant
      obtain ⟨change, changed, taken⟩ := bind_eq_ok.mp taken
      cases taken
      by_cases same : key = cell.name
      · subst same
        rw [own] at known
        cases known
        obtain ⟨b, decoded, rfl⟩ := map_eq_ok.mp changed
        exact .inl ⟨rfl, by simpa [Field.of] using vacant, b, decoded, fills b _⟩
      · -- The field that the key names fills another cell, and spares this one.
        obtain ⟨other, -, named, otherSet, rfl, spares⟩ := filled.cell_of_field known
        obtain ⟨b, -, rfl⟩ := map_eq_ok.mp changed
        exact .inr ⟨same, spares cell among (named ▸ Ne.symm same) b _⟩

/-- After the members a cell holds what it held before and what stands under its name. -/
theorem Filled.get_after_fold (filled : record.Filled cells) {cell : Cell σ} (among : cell ∈ cells)
    {members : List (String × Value)} {start last : Progress σ}
    (folded : members.foldlM record.take start = .ok last) :
    ∃ found, (under cell.name members).mapM cell.decoder.ofValue = .ok found ∧
      (cell.get last.1).toList = (cell.get start.1).toList ++ found := by
  induction members generalizing start with
  | nil =>
    cases folded
    exact ⟨[], rfl, by simp⟩
  | cons member members ih =>
    obtain ⟨key, value⟩ := member
    obtain ⟨next, taken, folded⟩ := bind_eq_ok.mp folded
    obtain ⟨found, decoded, held⟩ := ih folded
    rcases filled.take_cell among taken with ⟨rfl, vacant, b, one, gets⟩ | ⟨different, spared⟩
    · refine ⟨b :: found, ?_, by simpa [gets, vacant] using held⟩
      rw [under_cons_self]
      exact mapM_eq_ok.mpr (.cons one (mapM_eq_ok.mp decoded))
    · refine ⟨found, ?_, spared ▸ held⟩
      rw [under_cons_other different]
      exact decoded

theorem Filled.held_after_fold (filled : record.Filled cells) {cell : Cell σ}
    (among : cell ∈ cells) {members : List (String × Value)} {last : Progress σ}
    (folded : members.foldlM record.take (record.empty, #[]) = .ok last) :
    cell.Held members last.1 := by
  obtain ⟨found, decoded, held⟩ := filled.get_after_fold among folded
  rw [filled.empty cell among] at held
  rw [Cell.Held, Holds, decoded, held]
  rfl

theorem Filled.vacant_after_fold (filled : record.Filled cells) {cell : Cell σ}
    (among : cell ∈ cells) {members : List (String × Value)} {last : Progress σ}
    (folded : members.foldlM record.take (record.empty, #[]) = .ok last)
    (absent : under cell.name members = []) : cell.get last.1 = none :=
  (filled.held_after_fold among folded).unique (holds_none.mpr absent)

/-- The members that no field asks for are kept, in their order. -/
theorem kept_after_fold {members : List (String × Value)} {start last : Progress σ}
    (folded : members.foldlM record.take start = .ok last) :
    last.2.toList = start.2.toList ++ record.unasked members := by
  induction members generalizing start with
  | nil =>
    cases folded
    simp [unasked]
  | cons member members ih =>
    obtain ⟨key, value⟩ := member
    obtain ⟨next, taken, folded⟩ := bind_eq_ok.mp folded
    rw [ih folded]
    unfold take at taken
    split at taken
    · rename_i unknown
      cases taken
      simp [unasked, unknown]
    · rename_i field known
      split at taken
      · cases taken
      · obtain ⟨change, changed, taken⟩ := bind_eq_ok.mp taken
        cases taken
        simp [unasked, known]

/-- The members can be read into a draft when under the name of each cell stands at most one member,
and it has the shape of the cell. -/
theorem Filled.fold_succeeds (filled : record.Filled cells) {members : List (String × Value)}
    (single : ∀ cell ∈ cells, (under cell.name members).length ≤ 1)
    (shaped : ∀ cell ∈ cells, ∀ value ∈ under cell.name members, ∃ b,
      cell.decoder.ofValue value = .ok b) :
    ∃ last, members.foldlM record.take (record.empty, #[]) = .ok last := by
  -- The last member decides: all others were read already, and none of them had its name.
  induction members using List.reverseRecOn with
  | nil => exact ⟨_, rfl⟩
  | append_singleton members member ih =>
    obtain ⟨key, value⟩ := member
    simp only [under_append, List.length_append, List.mem_append] at single shaped
    obtain ⟨last, folded⟩ := ih (fun cell among => Nat.le_of_add_right_le (single cell among))
      (fun cell among value listed => shaped cell among value (.inl listed))
    rw [List.foldlM_append, folded]
    cases known : findField? record.fields key with
    | none => exact ⟨_, by simp [take, known]; rfl⟩
    | some field =>
      obtain ⟨cell, among, rfl, set, rfl, -⟩ := filled.cell_of_field known
      have few := single cell among
      have last_only : under cell.name members = [] := by
        simp only [under_cons_self, under_nil, List.length_cons, List.length_nil] at few
        exact List.length_eq_zero_iff.mp (by omega)
      have vacant := filled.vacant_after_fold among folded last_only
      obtain ⟨b, decoded⟩ := shaped cell among value (.inr (by simp))
      refine ⟨(set b last.1, last.2), ?_⟩
      refine bind_eq_ok.mpr ⟨_, rfl, bind_eq_ok.mpr ⟨_, ?_, rfl⟩⟩
      simp only [take, known, Field.of, vacant, Option.isSome_none, Bool.false_eq_true, ↓reduceIte]
      exact bind_eq_ok.mpr ⟨set b, map_eq_ok.mpr ⟨b, decoded, rfl⟩, rfl⟩

/-- There is a draft that holds the members, if each cell can take what stands under its name. -/
theorem Filled.exists_draft (filled : record.Filled cells) {members : List (String × Value)}
    (each : ∀ cell ∈ cells, ∃ found, Holds cell.name cell.decoder members found) :
    ∃ draft, ∀ cell ∈ cells, cell.Held members draft := by
  obtain ⟨last, folded⟩ := filled.fold_succeeds
    (fun cell among => (each cell among).elim fun _ holds => holds.length_le)
    (fun cell among value listed => (each cell among).elim fun _ holds => holds.shaped listed)
  exact ⟨last.1, fun cell among => filled.held_after_fold among folded⟩

/-- The members alone decide the draft: where each cell holds what stands under its name, the record is
what the end makes of that draft. -/
theorem Filled.ofMembers_of_held (filled : record.Filled cells) {members : List (String × Value)}
    {draft : σ} (held : ∀ cell ∈ cells, cell.Held members draft) :
    record.ofMembers members = record.finish draft (record.unasked members) := by
  obtain ⟨last, folded⟩ := filled.fold_succeeds (fun cell among => (held cell among).length_le)
    (fun cell among value listed => (held cell among).shaped listed)
  have kept := kept_after_fold folded
  simp only [List.nil_append] at kept
  have same : last.1 = draft := filled.ext _ _ fun cell among =>
    (filled.held_after_fold among folded).unique (held cell among)
  rw [ofMembers, folded, ← same, ← kept]
  rfl

/-- A record is read off members when their draft is finished, whatever their order. -/
theorem Filled.ofMembers_eq_ok (filled : record.Filled cells) {members : List (String × Value)}
    {a : α} :
    record.ofMembers members = .ok a ↔
      ∃ draft, (∀ cell ∈ cells, cell.Held members draft) ∧
        record.finish draft (record.unasked members) = .ok a := by
  constructor
  · intro read
    obtain ⟨last, folded, -⟩ := bind_eq_ok.mp read
    have held : ∀ cell ∈ cells, cell.Held members last.1 :=
      fun cell among => filled.held_after_fold among folded
    refine ⟨last.1, held, ?_⟩
    rw [← filled.ofMembers_of_held held]
    exact read
  · rintro ⟨draft, held, finished⟩
    rw [filled.ofMembers_of_held held]
    exact finished

/-- If a single member has the wrong shape for its cell, its mismatch is that of the record. -/
theorem Filled.ofMembers_of_mismatch (filled : record.Filled cells) {cell : Cell σ}
    (among : cell ∈ cells) {members : List (String × Value)} {value : Value} {cause : Mismatch}
    (single : under cell.name members = [value]) (failed : cell.decoder.ofValue value = .error cause)
    (others : ∀ other ∈ cells, other.name ≠ cell.name →
      ∃ found, Holds other.name other.decoder members found) :
    record.ofMembers members = .error cause := by
  have listed : (cell.name, value) ∈ members := mem_under.mp (by simp [single])
  obtain ⟨before, after, rfl⟩ := List.append_of_mem listed
  rw [under_append, under_cons_self] at single
  have fresh : under cell.name before = [] := by
    have length := congrArg List.length single
    simp only [List.length_append, List.length_cons, List.length_nil] at length
    exact List.length_eq_zero_iff.mp (by omega)
  -- All that stands before the member can be read, so the reading comes as far as the member.
  have reached : ∃ last, before.foldlM record.take (record.empty, #[]) = .ok last := by
    refine filled.fold_succeeds (fun other listed => ?_) (fun other listed item found => ?_)
    · by_cases same : other.name = cell.name
      · simp [same, fresh]
      · obtain ⟨found, holds⟩ := others other listed same
        have few := holds.length_le
        rw [under_append, List.length_append] at few
        omega
    · by_cases same : other.name = cell.name
      · simp [same, fresh] at found
      · obtain ⟨_, holds⟩ := others other listed same
        exact holds.shaped (by simp [under_append, found])
  obtain ⟨last, folded⟩ := reached
  have vacant := filled.vacant_after_fold among folded fresh
  obtain ⟨set, own, -⟩ := filled.own cell among
  have stops : record.take last (cell.name, value) = .error cause := by
    simp only [take, own, Field.of, vacant, Option.isSome_none, Bool.false_eq_true, ↓reduceIte,
      Decoder.map, failed]
    rfl
  rw [ofMembers, List.foldlM_append, folded]
  simp only [List.foldlM_cons, bind, Except.bind, stops]

end Record

end HintLint.Json
