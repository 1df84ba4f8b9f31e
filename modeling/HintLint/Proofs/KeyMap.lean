import HintLint.KeyMap
import Mathlib.Data.List.Nodup

/-!
What maps from text keys hold. An insertion decides what stands under its own key and under no
other; looking a key up finds the entry with that key, and there is only one. A map is read back
from the list of its entries. The keys increase in the order of their UTF-8 bytes, which agrees with
that of their characters.
-/

namespace HintLint

section Entries

variable {β : Type} {key other : String} {value : β} {entries : List (String × β)}

theorem lookup_insertEntry_self : (insertEntry key value entries).lookup key = some value := by
  induction entries with
  | nil => simp [insertEntry]
  | cons entry entries ih =>
    obtain ⟨name, held⟩ := entry
    unfold insertEntry
    split
    · simp
    · split
      · simp
      · rename_i different
        rw [List.lookup_cons, beq_false_of_ne different]
        exact ih

theorem lookup_insertEntry_other (different : other ≠ key) :
    (insertEntry key value entries).lookup other = entries.lookup other := by
  have skipped : ∀ rest : List (String × β),
      List.lookup other ((key, value) :: rest) = rest.lookup other := by
    intro rest
    rw [List.lookup_cons, beq_false_of_ne different]
  induction entries with
  | nil => exact skipped []
  | cons entry entries ih =>
    obtain ⟨name, held⟩ := entry
    unfold insertEntry
    split
    · exact skipped _
    · split
      · rename_i same
        obtain rfl : key = name := same
        rw [skipped, List.lookup_cons, beq_false_of_ne different]
      · rw [List.lookup_cons, List.lookup_cons, ih]

theorem mem_of_lookup (found : entries.lookup key = some value) : (key, value) ∈ entries := by
  obtain ⟨before, after, rfl, -⟩ := List.lookup_eq_some_iff.mp found
  simp

/-- Where keys differ from each other, no other entry hides one that is listed. -/
theorem lookup_of_mem (distinct : (entries.map Prod.fst).Nodup) (listed : (key, value) ∈ entries) :
    entries.lookup key = some value := by
  induction entries with
  | nil => cases listed
  | cons entry entries ih =>
    obtain ⟨fresh, tail⟩ := List.nodup_cons.mp distinct
    rcases List.mem_cons.mp listed with rfl | later
    · simp
    · have different : key ≠ entry.1 := by
        rintro rfl
        exact fresh (List.mem_map.mpr ⟨_, later, rfl⟩)
      rw [List.lookup_cons, beq_false_of_ne different]
      exact ih tail later

theorem Increasing.nodup_keys (increasing : Increasing entries) : (entries.map Prod.fst).Nodup := by
  refine List.pairwise_map.mpr (List.Pairwise.imp ?_ increasing)
  intro first second below same
  exact String.lt_irrefl _ (same ▸ below)

/-- Two increasing lists with the same entries are the same. -/
theorem Increasing.ext_mem {others : List (String × β)} (one : Increasing entries)
    (other : Increasing others) (same : ∀ entry, entry ∈ entries ↔ entry ∈ others) :
    entries = others := by
  have perm : entries.Perm others :=
    (List.perm_ext_iff_of_nodup (List.Nodup.of_map _ one.nodup_keys)
      (List.Nodup.of_map _ other.nodup_keys)).mpr same
  refine perm.eq_of_pairwise ?_ one other
  intro a b _ _ below above
  exact absurd below (String.lt_asymm above)

/-- An entry whose key is greater than all others goes to the end. -/
theorem insertEntry_last (above : ∀ entry ∈ entries, entry.1 < key) :
    insertEntry key value entries = entries ++ [(key, value)] := by
  induction entries with
  | nil => rfl
  | cons entry entries ih =>
    obtain ⟨below, others⟩ := List.forall_mem_cons.mp above
    have notBefore : ¬ key < entry.1 := String.lt_asymm below
    have different : key ≠ entry.1 := by
      rintro rfl
      exact String.lt_irrefl _ below
    rw [insertEntry, if_neg notBefore, if_neg different, ih others, List.cons_append]

end Entries

namespace KeyMap

variable {β : Type} {map : KeyMap β} {key other : String} {value : β}

theorem ext_entries {first second : KeyMap β} (same : first.entries = second.entries) :
    first = second := by
  cases first
  cases second
  cases same
  rfl

@[simp]
theorem get?_empty : (∅ : KeyMap β).get? key = none := rfl

theorem get?_insert :
    (map.insert key value).get? other = if other = key then some value else map.get? other := by
  by_cases same : other = key
  · subst same
    rw [if_pos rfl]
    exact lookup_insertEntry_self
  · rw [if_neg same]
    exact lookup_insertEntry_other same

theorem mem_entries : (key, value) ∈ map.entries ↔ map.get? key = some value :=
  ⟨lookup_of_mem map.increasing.nodup_keys, mem_of_lookup⟩

theorem mem_keys : key ∈ map.keys ↔ ∃ value, map.get? key = some value := by
  simp only [keys, List.mem_map, Prod.exists, exists_and_right, exists_eq_right, mem_entries]

theorem mem_keys_insert : other ∈ (map.insert key value).keys ↔ other = key ∨ other ∈ map.keys := by
  simp only [mem_keys, get?_insert]
  by_cases same : other = key <;> simp [same]

theorem get?_ext {first second : KeyMap β} (same : ∀ key, first.get? key = second.get? key) :
    first = second := by
  apply ext_entries
  refine first.increasing.ext_mem second.increasing ?_
  rintro ⟨key, value⟩
  rw [mem_entries, mem_entries, same]

/-- The map without a key. -/
def erase (map : KeyMap β) (key : String) : KeyMap β where
  entries := map.entries.filter fun entry => entry.1 ≠ key
  increasing := map.increasing.filter _

/-- The map with a function applied to every value. -/
def mapValues {γ : Type} (f : β → γ) (map : KeyMap β) : KeyMap γ where
  entries := map.entries.map fun entry => (entry.1, f entry.2)
  increasing := List.pairwise_map.mpr (map.increasing.imp id)

theorem get?_erase :
    (map.erase key).get? other = if other = key then none else map.get? other := by
  apply Option.ext
  intro value
  have kept : (other, value) ∈ (map.erase key).entries ↔
      (other, value) ∈ map.entries ∧ other ≠ key := by
    simp [erase]
  rw [← mem_entries, kept, mem_entries]
  by_cases same : other = key <;> simp [same]

theorem mem_keys_erase : other ∈ (map.erase key).keys ↔ other ≠ key ∧ other ∈ map.keys := by
  simp only [mem_keys, get?_erase]
  by_cases same : other = key <;> simp [same]

theorem get?_mapValues {γ : Type} {f : β → γ} : (map.mapValues f).get? key = (map.get? key).map f := by
  apply Option.ext
  intro value
  have mapped : (key, value) ∈ (map.mapValues f).entries ↔
      ∃ before, (key, before) ∈ map.entries ∧ f before = value := by
    simp [mapValues]
  rw [← mem_entries, mapped, Option.map_eq_some_iff]
  simp only [mem_entries]

/-- Entries that increase are put one after the other. -/
theorem foldl_insert (done : KeyMap β) {entries : List (String × β)}
    (increasing : Increasing (done.entries ++ entries)) :
    (entries.foldl (fun map entry => map.insert entry.1 entry.2) done).entries =
      done.entries ++ entries := by
  induction entries generalizing done with
  | nil => simp
  | cons entry entries ih =>
    have above : ∀ earlier ∈ done.entries, earlier.1 < entry.1 := by
      intro earlier listed
      exact (List.pairwise_append.mp increasing).2.2 earlier listed entry List.mem_cons_self
    have next : (done.insert entry.1 entry.2).entries = done.entries ++ [entry] :=
      insertEntry_last above
    rw [List.append_cons, ← next] at increasing
    rw [List.foldl_cons, ih _ increasing, next, List.append_assoc, List.singleton_append]

/-- Of several entries with one key the last counts. -/
theorem get?_ofList (entries : List (String × β)) (key : String) :
    (ofList entries).get? key = entries.reverse.lookup key := by
  have onto : ∀ map : KeyMap β,
      (entries.foldl (fun map entry => map.insert entry.1 entry.2) map).get? key =
        (entries.reverse.lookup key).or (map.get? key) := by
    induction entries with
    | nil => exact fun map => rfl
    | cons entry entries ih =>
      obtain ⟨name, value⟩ := entry
      intro map
      rw [List.foldl_cons, ih, get?_insert, List.reverse_cons, List.lookup_append, Option.or_assoc]
      congr 1
      by_cases same : key = name
      · simp [same]
      · rw [if_neg same, List.lookup_cons, beq_false_of_ne same]
        rfl
  rw [ofList, onto ∅, get?_empty, Option.or_none]

/-- A map is the map of its entries. -/
theorem ofList_entries (map : KeyMap β) : ofList map.entries = map :=
  ext_entries (foldl_insert ∅ map.increasing)

end KeyMap

theorem KeySet.ofKeys_keys (set : KeySet) : KeySet.ofKeys set.keys = set := by
  have entries : set.keys.map (fun key => (key, ())) = set.entries := by
    rw [KeyMap.keys, List.map_map]
    exact List.map_id _
  rw [KeySet.ofKeys, entries, KeyMap.ofList_entries]

theorem KeySet.mem_ofKeys {keys : List String} {key : String} :
    key ∈ (KeySet.ofKeys keys).keys ↔ key ∈ keys := by
  rw [KeyMap.mem_keys, KeySet.ofKeys]
  simp only [KeyMap.get?_ofList]
  constructor
  · rintro ⟨value, found⟩
    simpa using mem_of_lookup found
  · intro listed
    refine Option.ne_none_iff_exists'.mp fun none => ?_
    have absent := List.lookup_eq_none_iff.mp none (key, ()) (by simpa using listed)
    simp at absent

theorem KeySet.ext_keys {first second : KeySet} (same : ∀ key, key ∈ first.keys ↔ key ∈ second.keys) :
    first = second := by
  refine KeyMap.get?_ext fun key => Option.ext fun found => ?_
  cases found
  have listed : ∀ set : KeySet, set.get? key = some () ↔ key ∈ set.keys := by
    intro set
    rw [KeyMap.mem_keys]
    exact ⟨fun found => ⟨(), found⟩, fun ⟨_, found⟩ => found⟩
  rw [listed, listed, same]

/-! The order of the keys is that of their bytes. -/

/-- The UTF-8 bytes of the first text come before those of the second. -/
def BytesBefore (first second : String) : Prop :=
  first.toUTF8.data.toList < second.toUTF8.data.toList

theorem bytes_eq_flatMap (text : String) :
    text.toUTF8.data.toList = text.toList.flatMap String.utf8EncodeChar := by
  have encoded : text.toUTF8 = (text.toList.flatMap String.utf8EncodeChar).toByteArray := by
    conv_lhs => rw [← String.ofList_toList (s := text)]
    rfl
  rw [encoded, List.data_toByteArray]

/-- The first byte that tells two characters apart is the smaller one for the smaller character. -/
theorem utf8EncodeChar_append_lt {c d : Char} (before : c < d) (rest others : List UInt8) :
    String.utf8EncodeChar c ++ rest < String.utf8EncodeChar d ++ others := by
  have below : c.val.toNat < d.val.toNat := before
  have bound : d.val.toNat < 0x110000 := by
    rcases d.valid with low | ⟨-, high⟩
    · exact Nat.lt_trans low (by decide)
    · exact high
  simp only [String.utf8EncodeChar]
  generalize c.val.toNat = first at below
  generalize d.val.toNat = second at below bound
  split_ifs <;>
    simp (disch := omega) only [List.cons_append, List.nil_append, List.cons_lt_cons_iff,
      UInt8.lt_iff_toNat_lt, ← UInt8.toNat_inj, UInt8.toNat_ofNat', Nat.mod_eq_of_lt,
      Nat.add_lt_add_iff_right, Nat.add_right_cancel_iff] <;>
    omega

theorem flatMap_utf8_lt {chars others : List Char} (before : chars < others) :
    chars.flatMap String.utf8EncodeChar < others.flatMap String.utf8EncodeChar := by
  induction chars generalizing others with
  | nil =>
    cases others with
    | nil => exact absurd before (List.lt_irrefl _)
    | cons d others =>
      have some : 0 < (String.utf8EncodeChar d).length := by
        rw [String.length_utf8EncodeChar]
        exact d.utf8Size_pos
      obtain ⟨byte, bytes, spelled⟩ := List.exists_cons_of_length_pos some
      rw [List.flatMap_cons, spelled, List.cons_append]
      exact List.nil_lt_cons _ _
  | cons c chars ih =>
    cases others with
    | nil => exact absurd before (List.not_lt_nil _)
    | cons d others =>
      rw [List.flatMap_cons, List.flatMap_cons]
      rcases List.cons_lt_cons_iff.mp before with smaller | ⟨rfl, later⟩
      · exact utf8EncodeChar_append_lt smaller _ _
      · exact List.append_left_lt (ih later)

/-- Keys increase by their bytes as they do by their characters. -/
theorem bytesBefore_of_lt {first second : String} (before : first < second) :
    BytesBefore first second := by
  rw [BytesBefore, bytes_eq_flatMap, bytes_eq_flatMap]
  exact flatMap_utf8_lt (String.lt_iff.mp before)

theorem KeyMap.keys_bytesBefore {β : Type} (map : KeyMap β) : map.keys.Pairwise BytesBefore :=
  List.pairwise_map.mpr (map.increasing.imp bytesBefore_of_lt)

end HintLint
