/-!
Finite maps from text keys, held as lists of entries in strictly increasing key order. The order is
that of code points, which is also the order of the UTF-8 bytes. Strictness makes the list the only
one for its map, so equality of maps is equality of lists. `insertEntry` keeps the order of any list
it is given; `KeyMap` carries the order as a proof.
-/

namespace HintLint

/-- The keys strictly increase. -/
def Increasing {β : Type} (entries : List (String × β)) : Prop :=
  entries.Pairwise fun earlier later => earlier.1 < later.1

/-- Puts an entry at its place, over the entry that had the key. -/
def insertEntry {β : Type} (key : String) (value : β) : List (String × β) → List (String × β)
  | [] => [(key, value)]
  | entry :: rest =>
    if key < entry.1 then (key, value) :: entry :: rest
    else if key = entry.1 then (key, value) :: rest
    else entry :: insertEntry key value rest

theorem mem_insertEntry {β : Type} {key : String} {value : β} {entries : List (String × β)}
    {entry : String × β} (listed : entry ∈ insertEntry key value entries) :
    entry = (key, value) ∨ entry ∈ entries := by
  induction entries with
  | nil => exact Or.inl (by simpa [insertEntry] using listed)
  | cons first rest ih =>
    unfold insertEntry at listed
    split at listed
    · simpa using listed
    · split at listed
      · rcases List.mem_cons.mp listed with same | later
        · exact Or.inl same
        · exact Or.inr (List.mem_cons_of_mem _ later)
      · rcases List.mem_cons.mp listed with same | later
        · exact Or.inr (same ▸ List.mem_cons_self)
        · exact (ih later).imp id (List.mem_cons_of_mem _)

/-- An insertion keeps the keys increasing. -/
theorem Increasing.insertEntry {β : Type} {entries : List (String × β)}
    (increasing : Increasing entries) (key : String) (value : β) :
    Increasing (insertEntry key value entries) := by
  induction entries with
  | nil => exact List.pairwise_singleton _ _
  | cons first rest ih =>
    have ⟨above, tail⟩ := List.pairwise_cons.mp increasing
    unfold HintLint.insertEntry
    split
    · rename_i before
      refine List.pairwise_cons.mpr ⟨fun entry listed => ?_, increasing⟩
      rcases List.mem_cons.mp listed with same | later
      · exact same ▸ before
      · exact String.lt_trans before (above entry later)
    · rename_i notBefore
      split
      · rename_i same
        exact List.pairwise_cons.mpr ⟨fun entry later => same ▸ above entry later, tail⟩
      · rename_i different
        refine List.pairwise_cons.mpr ⟨fun entry listed => ?_, ih tail⟩
        rcases mem_insertEntry listed with same | later
        · have atMost : first.1 ≤ key := String.not_lt.mp notBefore
          have below : first.1 < key :=
            String.not_le.mp fun atLeast => different (String.le_antisymm atLeast atMost)
          exact same ▸ below
        · exact above entry later

/-- A finite map from text keys. -/
structure KeyMap (β : Type) where
  /-- The entries, by key. -/
  entries : List (String × β) := []
  increasing : Increasing entries := by exact List.Pairwise.nil

namespace KeyMap

variable {β : Type}

instance [DecidableEq β] : DecidableEq (KeyMap β) := fun a b =>
  decidable_of_iff (a.entries = b.entries)
    ⟨fun same => by cases a; cases b; cases same; rfl, fun same => same ▸ rfl⟩

instance : EmptyCollection (KeyMap β) := ⟨{}⟩

instance : Inhabited (KeyMap β) := ⟨∅⟩

/-- Puts a value under a key, over the value that was there. -/
def insert (map : KeyMap β) (key : String) (value : β) : KeyMap β where
  entries := insertEntry key value map.entries
  increasing := map.increasing.insertEntry key value

/-- The value under a key. -/
def get? (map : KeyMap β) (key : String) : Option β := map.entries.lookup key

/-- The keys, in increasing order. -/
def keys (map : KeyMap β) : List String := map.entries.map Prod.fst

/-- The map of a list of entries; of several with one key the last counts. -/
def ofList (entries : List (String × β)) : KeyMap β :=
  entries.foldl (fun map entry => map.insert entry.1 entry.2) ∅

end KeyMap

/-- A finite set of text keys. -/
abbrev KeySet := KeyMap Unit

/-- The set of the listed keys; repetitions count once. -/
def KeySet.ofKeys (keys : List String) : KeySet := KeyMap.ofList (keys.map fun key => (key, ()))

end HintLint
