import HintLint.Proofs.Json.Edits
import HintLint.Proofs.Json.Fields

/-!
What becomes of a record when one of its members is edited. A member that a record looks for is known
by its key, its shape, what it means that it is absent, and its place in the record. If what stands
under the key changes, the record changes at that place and nowhere else, or the mismatch at the
member is the mismatch of the record; if nothing stands there any more, absence decides. A member
that nobody looks for makes no difference at all.
-/

namespace HintLint.Json.Record

variable {σ τ α β γ : Type} {record : Record σ α} {cells : List (Cell σ)} {key : String}
  {decoder : Decoder β} {absent : Except Mismatch β} {change : Value → Value}
  {members : List (String × Value)}

theorem unasked_lacking_known (known : (findField? record.fields key).isSome) :
    record.unasked (lacking key members) = record.unasked members := by
  rw [unasked, unasked, lacking, List.filter_filter]
  refine List.filter_congr fun member _ => ?_
  by_cases same : member.1 = key
  · simp [same, known]
  · simp [same]

theorem unasked_lacking_unknown :
    record.unasked (lacking key members) = lacking key (record.unasked members) := by
  rw [unasked, unasked, lacking, lacking, List.filter_comm]

theorem unasked_changing_known (known : (findField? record.fields key).isSome) :
    record.unasked (changing key change members) = record.unasked members := by
  induction members with
  | nil => rfl
  | cons member members ih =>
    have asked : (findField? record.fields key).isNone = false := by simpa using known
    simp only [unasked, changing, List.map_cons, List.filter_cons] at ih ⊢
    rw [ih]
    by_cases same : member.1 = key
    · simp [same, asked]
    · simp [same]

theorem unasked_changing_unknown :
    record.unasked (changing key change members) = changing key change (record.unasked members) := by
  rw [unasked, unasked, changing, changing, List.filter_map]
  refine congrArg _ (List.filter_congr fun member _ => ?_)
  by_cases same : member.1 = key <;> simp [same]

/-- A member that a record looks for: how it is read, what its absence means, and where the record
keeps it. -/
structure Member (record : Record σ α) (key : String) (decoder : Decoder β)
    (absent : Except Mismatch β) (get : α → β) (put : β → α → α) : Prop where
  read : ∀ {members a}, record.ofMembers members = .ok a →
    ∃ found, Holds key decoder members found ∧ found.elim absent .ok = .ok (get a)
  changed : ∀ {members a value}, record.ofMembers members = .ok a → under key members = [value] →
    ∀ change, record.ofMembers (changing key change members) =
      (decoder.ofValue (change value)).map fun b => put b a
  gone : ∀ {members a}, record.ofMembers members = .ok a →
    record.ofMembers (lacking key members) = absent.map fun b => put b a

/-- What the end of a record makes of one cell of the draft, the others being as they were. -/
def Settles (record : Record σ α) (cells : List (Cell σ)) (cell : Cell σ)
    (absent : Except Mismatch cell.β) (get : α → cell.β) (put : cell.β → α → α) : Prop :=
  ∀ draft kept a, record.finish draft kept = .ok a →
    (cell.get draft).elim absent .ok = .ok (get a) ∧
      ∀ next, (∀ other ∈ cells, other.name ≠ cell.name → other.get next = other.get draft) →
        record.finish next kept = ((cell.get next).elim absent .ok).map fun b => put b a

/-- An edit under the name of one cell gives the cell what stands there now, and leaves the other cells
as they were. -/
theorem Filled.ofMembers_of_edit (filled : record.Filled cells)
    (distinct : (cells.map Cell.name).Nodup) (cell : Cell σ) {absent : Except Mismatch cell.β}
    {get : α → cell.β} {put : cell.β → α → α} (among : cell ∈ cells)
    (settles : record.Settles cells cell absent get put) {edited : List (String × Value)} {a : α}
    (read : record.ofMembers members = .ok a)
    (spared : ∀ other, other ≠ cell.name → under other edited = under other members)
    (kept : record.unasked edited = record.unasked members) {found : Option cell.β}
    (holds : Holds cell.name cell.decoder edited found) :
    record.ofMembers edited = (found.elim absent .ok).map fun b => put b a := by
  obtain ⟨draft, held, finished⟩ := filled.ofMembers_eq_ok.mp read
  have others : ∀ other ∈ cells, other.name ≠ cell.name →
      Holds other.name other.decoder edited (other.get draft) := by
    intro other listed different
    rw [Holds, spared _ different]
    exact held other listed
  have each : ∀ other ∈ cells, ∃ found, Holds other.name other.decoder edited found := by
    intro other listed
    by_cases same : other.name = cell.name
    · obtain rfl := List.inj_on_of_nodup_map distinct listed among same
      exact ⟨found, holds⟩
    · exact ⟨_, others other listed same⟩
  obtain ⟨next, heldNext⟩ := filled.exists_draft each
  have found_eq : cell.get next = found := (heldNext cell among).unique holds
  have finishedNext := (settles _ _ _ finished).2 next fun other listed different =>
    (heldNext other listed).unique (others other listed different)
  rw [filled.ofMembers_of_held heldNext, kept, finishedNext, found_eq]

/-- The cells of a draft are members of the record. -/
theorem Filled.member (filled : record.Filled cells) (distinct : (cells.map Cell.name).Nodup)
    (cell : Cell σ) {absent : Except Mismatch cell.β} {get : α → cell.β} {put : cell.β → α → α}
    (among : cell ∈ cells) (settles : record.Settles cells cell absent get put) :
    record.Member cell.name cell.decoder absent get put where
  read := by
    intro members a read
    obtain ⟨draft, held, finished⟩ := filled.ofMembers_eq_ok.mp read
    exact ⟨cell.get draft, held cell among, (settles _ _ _ finished).1⟩
  changed := by
    intro members a value read single change
    have now : under cell.name (changing cell.name change members) = [change value] := by
      rw [under_changing_self, single]
      rfl
    have kept : record.unasked (changing cell.name change members) = record.unasked members :=
      unasked_changing_known (filled.known among)
    cases decoded : cell.decoder.ofValue (change value) with
    | ok b =>
      exact filled.ofMembers_of_edit distinct cell among settles read
        (fun other different => under_changing_other different) kept
        (holds_some.mpr ⟨_, now, decoded⟩)
    | error cause =>
      obtain ⟨draft, held, -⟩ := filled.ofMembers_eq_ok.mp read
      refine filled.ofMembers_of_mismatch among now decoded fun other listed different => ?_
      refine ⟨other.get draft, ?_⟩
      rw [Holds, under_changing_other different]
      exact held other listed
  gone := by
    intro members a read
    exact filled.ofMembers_of_edit distinct cell among settles read
      (fun other different => under_lacking_other different)
      (unasked_lacking_known (filled.known among)) (holds_none.mpr under_lacking_self)

/-- A record that leaves its unasked members to another one, whose record becomes a part of it. -/
def Flattens (record : Record σ α) (inner : Record τ γ) (get : α → γ) (put : γ → α → α) : Prop :=
  ∀ draft kept a, record.finish draft kept = .ok a →
    inner.ofMembers kept = .ok (get a) ∧
      ∀ others, record.finish draft others = (inner.ofMembers others).map fun c => put c a

/-- The members of the inner record are members of the outer one. -/
theorem Member.flattened {inner : Record τ γ} {getInner : α → γ} {putInner : γ → α → α}
    {get : γ → β} {put : β → γ → γ} (member : inner.Member key decoder absent get put)
    (filled : record.Filled cells) (flattens : record.Flattens inner getInner putInner)
    (unknown : findField? record.fields key = none) :
    record.Member key decoder absent (fun a => get (getInner a))
      fun b a => putInner (put b (getInner a)) a := by
  have apart : ∀ cell ∈ cells, cell.name ≠ key := by
    rintro cell among rfl
    have known := filled.known among
    simp [unknown] at known
  have edit : ∀ {members edited : List (String × Value)} {a : α},
      record.ofMembers members = .ok a →
      (∀ other, other ≠ key → under other edited = under other members) →
      record.ofMembers edited =
        (inner.ofMembers (record.unasked edited)).map fun c => putInner c a := by
    intro members edited a read spared
    obtain ⟨draft, held, finished⟩ := filled.ofMembers_eq_ok.mp read
    have heldStill : ∀ cell ∈ cells, cell.Held edited draft := by
      intro cell among
      rw [Cell.Held, Holds, spared _ (apart cell among)]
      exact held cell among
    rw [filled.ofMembers_of_held heldStill, (flattens _ _ _ finished).2]
  have inside : ∀ {members : List (String × Value)} {a : α}, record.ofMembers members = .ok a →
      inner.ofMembers (record.unasked members) = .ok (getInner a) := by
    intro members a read
    obtain ⟨draft, -, finished⟩ := filled.ofMembers_eq_ok.mp read
    exact (flattens _ _ _ finished).1
  refine ⟨?_, ?_, ?_⟩
  · intro members a read
    obtain ⟨found, holds, same⟩ := member.read (inside read)
    rw [Holds, under_unasked unknown] at holds
    exact ⟨found, holds, same⟩
  · intro members a value read single change
    rw [← under_unasked unknown] at single
    rw [edit read fun other different => under_changing_other different, unasked_changing_unknown,
      member.changed (inside read) single]
    cases decoder.ofValue (change value) <;> rfl
  · intro members a read
    rw [edit read fun other different => under_lacking_other different, unasked_lacking_unknown,
      member.gone (inside read)]
    cases absent <;> rfl

/-- Members with a change of what stands under one key, as they are kept. -/
def changingKept (key : String) (change : Value → Value) (progress : Progress σ) : Progress σ :=
  (progress.1, (changing key change progress.2.toList).toArray)

theorem take_changing (unknown : findField? record.fields key = none) (start : Progress σ)
    (member : String × Value) :
    record.take (changingKept key change start)
        (if member.1 = key then (key, change member.2) else member) =
      (record.take start member).map (changingKept key change) := by
  by_cases same : member.1 = key
  · simp [take, same, unknown, changingKept, changing, Except.map]
  · rw [if_neg same]
    simp only [take, changingKept]
    cases findField? record.fields member.1 with
    | none => simp [changing, changingKept, same, Except.map]
    | some field =>
      by_cases filled : field.filled start.1 = true
      · simp [filled, Except.map]
      · simp only [filled]
        cases field.decoder.ofValue member.2 <;> rfl

theorem foldlM_changing (unknown : findField? record.fields key = none) (start : Progress σ) :
    (changing key change members).foldlM record.take (changingKept key change start) =
      (members.foldlM record.take start).map (changingKept key change) := by
  induction members generalizing start with
  | nil => rfl
  | cons member members ih =>
    rw [changing, List.map_cons, List.foldlM_cons, List.foldlM_cons, take_changing unknown]
    cases record.take start member with
    | error cause => rfl
    | ok next => exact ih next

/-- What stands under a key that nobody looks for makes no difference, not even to a mismatch. -/
theorem ofMembers_changing_unasked (unknown : findField? record.fields key = none)
    (blind : ∀ draft kept, record.finish draft (changing key change kept) = record.finish draft kept) :
    record.ofMembers (changing key change members) = record.ofMembers members := by
  have folded : (changing key change members).foldlM record.take (record.empty, #[]) =
      (members.foldlM record.take (record.empty, #[])).map (changingKept key change) :=
    foldlM_changing unknown (record.empty, #[])
  rw [ofMembers, ofMembers]
  refine (congrArg (· >>= fun last => record.finish last.1 last.2.toList) folded).trans ?_
  cases members.foldlM record.take (record.empty, #[]) with
  | error cause => rfl
  | ok last => exact blind last.1 last.2.toList

/-- Reading after a step into the record at one of its members. -/
theorem Member.step {get : α → β} {put : β → α → α} (member : record.Member key decoder absent get put)
    {value found : Value} {a : α} (read : record.decoder.ofValue value = .ok a)
    (there : value.last? key = some found) :
    decoder.ofValue found = .ok (get a) ∧
      ∀ change, record.decoder.ofValue (value.changeMember key change) =
        (decoder.ofValue (change found)).map fun b => put b a := by
  cases value with
  | object members =>
    obtain ⟨part, holds, same⟩ := member.read read
    cases part with
    | none => simp [Value.last?, holds_none.mp holds] at there
    | some b =>
      obtain ⟨only, single, decoded⟩ := holds_some.mp holds
      obtain rfl : only = found := by simpa [Value.last?, single] using there
      exact ⟨decoded.trans same, member.changed read single⟩
  | _ => cases there

end HintLint.Json.Record

namespace HintLint.Json

variable {σ α β γ : Type} {decoder : Decoder α} {inner : Decoder γ} {path : List Step}
  {modify : (γ → γ) → α → α}

/-- What is decoded mirrors a change of a value deep inside: at the end of the path stands the value of
a part, and when that value changes, the whole changes in that part only, or the mismatch there is
the mismatch of the whole. -/
def Mirrors (decoder : Decoder α) (inner : Decoder γ) (path : List Step)
    (modify : (γ → γ) → α → α) : Prop :=
  ∀ value a found, decoder.ofValue value = .ok a → value.at? path = some found → found ≠ .null →
    ∃ c, inner.ofValue found = .ok c ∧ (∀ edit, modify edit a = modify (fun _ => edit c) a) ∧
      ∀ change : Value → Value, change found ≠ .null →
        decoder.ofValue (value.update path change) =
          (inner.ofValue (change found)).map fun next => modify (fun _ => next) a

theorem modify_eq_set_of_getElem? {list : List α} {index : Nat} {a : α} {change : α → α}
    (there : list[index]? = some a) : list.modify index change = list.set index (change a) := by
  refine List.ext_getElem? fun place => ?_
  rw [List.getElem?_modify, List.getElem?_set]
  by_cases same : index = place
  · subst same
    obtain ⟨bound, rfl⟩ := List.getElem?_eq_some_iff.mp there
    simp [bound]
  · simp [same]

theorem getElem?_of_mapM {items : List Value} {list : List α} {index : Nat} {item : Value}
    (read : items.mapM decoder.ofValue = .ok list) (there : items[index]? = some item) :
    ∃ a, list[index]? = some a ∧ decoder.ofValue item = .ok a := by
  obtain ⟨bound, rfl⟩ := List.getElem?_eq_some_iff.mp there
  have each := mapM_eq_ok.mp read
  have listBound : index < list.length := each.length_eq ▸ bound
  exact ⟨list.get ⟨index, listBound⟩, by simp, each.get bound listBound⟩

/-- A change of one item of a list changes what is read in that place, or makes the list fail as the
item does. -/
theorem mapM_modify {items : List Value} {list : List α} {index : Nat} {item : Value}
    (read : items.mapM decoder.ofValue = .ok list) (there : items[index]? = some item)
    (change : Value → Value) :
    (items.modify index change).mapM decoder.ofValue =
      (decoder.ofValue (change item)).map fun next => list.set index next := by
  induction items generalizing list index with
  | nil => cases there
  | cons first items ih =>
    rw [List.mapM_cons, bind_eq_ok] at read
    obtain ⟨head, headRead, read⟩ := read
    obtain ⟨tail, tailRead, read⟩ := bind_eq_ok.mp read
    cases read
    cases index with
    | zero =>
      cases there
      rw [List.modify_zero_cons, List.mapM_cons, tailRead]
      cases decoder.ofValue (change item) <;> rfl
    | succ index =>
      rw [List.modify_succ_cons, List.mapM_cons, headRead, ih tailRead there]
      cases decoder.ofValue (change item) <;> rfl

namespace Mirrors

theorem here : Mirrors decoder decoder [] fun edit a => edit a := by
  rintro value a found read there -
  cases there
  refine ⟨a, read, fun _ => rfl, fun change _ => ?_⟩
  rw [Value.update]
  cases decoder.ofValue (change value) <;> rfl

theorem nullable (mirrors : Mirrors decoder inner path modify) :
    Mirrors decoder.nullable inner path fun edit a => a.map (modify edit) := by
  have filled : ∀ {value : Value}, value ≠ .null →
      decoder.nullable.ofValue value = (decoder.ofValue value).map some := by
    intro value solid
    cases value with
    | null => exact absurd rfl solid
    | _ => rfl
  intro value slot found read there solid
  -- Nothing but `null` is at the end of a path into `null`.
  have valueSolid : value ≠ .null := by
    rintro rfl
    cases path with
    | nil => exact solid (Option.some.inj there).symm
    | cons step path => cases step <;> simp [Value.at?, Value.last?] at there
  rw [filled valueSolid] at read
  obtain ⟨a, decoded, rfl⟩ := map_eq_ok.mp read
  obtain ⟨c, part, modifies, changes⟩ := mirrors value a found decoded there solid
  refine ⟨c, part, fun edit => congrArg some (modifies edit), fun change changeSolid => ?_⟩
  rw [filled (Value.update_ne_null there changeSolid), changes change changeSolid]
  cases inner.ofValue (change found) <;> rfl

theorem item (mirrors : Mirrors decoder inner path modify) (index : Nat) :
    Mirrors decoder.list inner (.item index :: path) fun edit list =>
      list.modify index (modify edit) := by
  intro value list found read there solid
  cases value with
  | array items =>
    obtain ⟨item, listed, below⟩ := Option.bind_eq_some_iff.mp there
    obtain ⟨a, placed, decoded⟩ := getElem?_of_mapM read listed
    obtain ⟨c, part, modifies, changes⟩ := mirrors item a found decoded below solid
    refine ⟨c, part, fun edit => ?_, fun change changeSolid => ?_⟩
    · simp only [modify_eq_set_of_getElem? placed]
      rw [modifies]
    · have changed := mapM_modify read listed (Value.update path change)
      rw [changes change changeSolid] at changed
      refine changed.trans ?_
      simp only [modify_eq_set_of_getElem? placed]
      cases inner.ofValue (change found) <;> rfl
  | _ => cases there

theorem member {record : Record σ β} {key : String} {absent : Except Mismatch α} {get : β → α}
    {put : α → β → β} (member : record.Member key decoder absent get put)
    (mirrors : Mirrors decoder inner path modify) :
    Mirrors record.decoder inner (.member key :: path) fun edit b => put (modify edit (get b)) b := by
  intro value b found read there solid
  obtain ⟨middle, last, below⟩ := Option.bind_eq_some_iff.mp there
  obtain ⟨decoded, changed⟩ := member.step read last
  obtain ⟨c, part, modifies, changes⟩ := mirrors middle (get b) found decoded below solid
  refine ⟨c, part, fun edit => congrArg (fun a => put a b) (modifies edit), ?_⟩
  intro change changeSolid
  rw [Value.update, changed, changes change changeSolid]
  cases inner.ofValue (change found) <;> rfl

end Mirrors

end HintLint.Json
