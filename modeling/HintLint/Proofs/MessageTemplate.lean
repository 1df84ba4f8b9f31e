import HintLint.Message
import Mathlib.Data.List.Infix
import Mathlib.Data.String.Basic

/-!
What filling in a template does. A text comes apart in exactly one way into pieces without a
placeholder and the placeholders between them, because no placeholder overlaps another one. The
filled-in template is these pieces with the site between them. That holds of every site: what is put
in never forms a new placeholder, neither by itself nor together with the pieces next to it.
-/

namespace HintLint

/-- What stands in a template for the site. -/
def placeholder : String := "\x7bsite\x7d"

theorem toList_placeholder : placeholder.toList = ['{', 's', 'i', 't', 'e', '}'] := rfl

/-- A text cut at its placeholders. There is one piece even if the text is empty. -/
structure CutAtPlaceholders (text : String) (pieces : List String) : Prop where
  nonempty : pieces ≠ []
  /-- No placeholder is left inside a piece. -/
  free : ∀ piece ∈ pieces, ¬ placeholder.toList <:+: piece.toList
  joined : placeholder.intercalate pieces = text

/-- The number of places in a text where a placeholder starts. -/
def placeholderCount (text : String) : Nat :=
  text.toList.tails.countP placeholder.toList.isPrefixOf

/-- Cuts a text at its placeholders, from left to right. -/
def cutTemplate : List Char → List (List Char)
  | '{' :: 's' :: 'i' :: 't' :: 'e' :: '}' :: rest => [] :: cutTemplate rest
  | c :: rest => (cutTemplate rest).modifyHead (c :: ·)
  | [] => [[]]

theorem no_placeholder_in_front {c : Char} {rest : List Char}
    (other : ∀ tail, c = '{' → rest = 's' :: 'i' :: 't' :: 'e' :: '}' :: tail → False) :
    ¬ placeholder.toList <+: c :: rest := by
  rintro ⟨tail, joined⟩
  obtain ⟨same, followed⟩ := List.cons.inj joined
  exact other tail same.symm followed.symm

theorem fillTemplate_cons {c : Char} {rest : List Char}
    (other : ¬ placeholder.toList <+: c :: rest) (site : List Char) :
    fillTemplate site (c :: rest) = c :: fillTemplate site rest := by
  apply fillTemplate.eq_2
  rintro tail rfl followed
  exact other ⟨tail, by rw [followed]; rfl⟩

theorem cutTemplate_cons {c : Char} {rest : List Char}
    (other : ¬ placeholder.toList <+: c :: rest) :
    cutTemplate (c :: rest) = (cutTemplate rest).modifyHead (c :: ·) := by
  apply cutTemplate.eq_2
  rintro tail rfl followed
  exact other ⟨tail, by rw [followed]; rfl⟩

/-- The first piece of a cut text is what the text starts with. -/
theorem cutTemplate_eq_cons (text : List Char) :
    ∃ first pieces, cutTemplate text = first :: pieces ∧ first <+: text := by
  fun_induction cutTemplate text with
  | case1 rest => exact ⟨[], _, rfl, List.nil_prefix⟩
  | case2 c rest _ ih =>
    obtain ⟨first, pieces, cut, start⟩ := ih
    exact ⟨c :: first, pieces, by rw [cut]; rfl, List.cons_prefix_cons.mpr ⟨rfl, start⟩⟩
  | case3 => exact ⟨[], [], rfl, List.nil_prefix⟩

theorem intercalate_cons_head (separator : List Char) (c : Char) (first : List Char)
    (pieces : List (List Char)) :
    separator.intercalate ((c :: first) :: pieces) =
      c :: separator.intercalate (first :: pieces) := by
  cases pieces <;> simp [List.intercalate_cons_cons]

/-- Filling in is joining the pieces again, with the site between them. -/
theorem fillTemplate_eq_intercalate (site text : List Char) :
    fillTemplate site text = site.intercalate (cutTemplate text) := by
  fun_induction cutTemplate text with
  | case1 rest ih =>
    obtain ⟨first, pieces, cut, -⟩ := cutTemplate_eq_cons rest
    rw [fillTemplate, ih, cut, List.intercalate_cons_cons, List.nil_append]
  | case2 c rest other ih =>
    obtain ⟨first, pieces, cut, -⟩ := cutTemplate_eq_cons rest
    rw [fillTemplate_cons (no_placeholder_in_front other), ih, cut, List.modifyHead_cons,
      intercalate_cons_head]
  | case3 => rfl

/-- A template filled in with the placeholder is as before. -/
theorem fillTemplate_placeholder (text : List Char) :
    fillTemplate placeholder.toList text = text := by
  fun_induction cutTemplate text with
  | case1 rest ih => rw [fillTemplate, ih, toList_placeholder]; rfl
  | case2 c rest other ih => rw [fillTemplate_cons (no_placeholder_in_front other), ih]
  | case3 => rfl

theorem free_of_mem_cutTemplate (text : List Char) :
    ∀ piece ∈ cutTemplate text, ¬ placeholder.toList <:+: piece := by
  fun_induction cutTemplate text with
  | case1 rest ih => exact List.forall_mem_cons.mpr ⟨by decide, ih⟩
  | case2 c rest other ih =>
    obtain ⟨first, pieces, cut, start⟩ := cutTemplate_eq_cons rest
    rw [cut, List.forall_mem_cons] at ih
    rw [cut, List.modifyHead_cons, List.forall_mem_cons]
    refine ⟨fun inside => ?_, ih.2⟩
    -- A placeholder at the front of the longer piece would also be at the front of the text.
    rcases List.infix_cons_iff.mp inside with front | later
    · exact no_placeholder_in_front other (front.trans (List.cons_prefix_cons.mpr ⟨rfl, start⟩))
    · exact ih.1 later
  | case3 => decide

theorem brace_only_in_front :
    ∀ place < 6, placeholder.toList[place]? = some '{' → place = 0 := by
  decide

/-- A placeholder behind a piece without one does not start any earlier. It would have to reach into
the one behind the piece, whose opening brace it has only in front. -/
theorem not_prefix_of_free {c : Char} {piece : List Char}
    (free : ¬ placeholder.toList <:+: c :: piece) (rest : List Char) :
    ¬ placeholder.toList <+: c :: (piece ++ (placeholder.toList ++ rest)) := by
  rw [← List.cons_append]
  intro early
  by_cases long : placeholder.toList.length ≤ (c :: piece).length
  · exact free (List.prefix_of_prefix_length_le early (List.prefix_append _ _) long).isInfix
  · have short : (c :: piece).length < placeholder.toList.length := by omega
    have brace : (c :: piece ++ (placeholder.toList ++ rest))[(c :: piece).length]? = some '{' := by
      rw [List.getElem?_append_right (Nat.le_refl _), Nat.sub_self]
      rfl
    rw [List.prefix_iff_getElem?.mp early _ short, ← List.getElem?_eq_getElem short] at brace
    exact absurd (brace_only_in_front _ short brace) (by simp)

/-- The text up to the first placeholder is the first piece. -/
theorem cutTemplate_append {piece : List Char} (free : ¬ placeholder.toList <:+: piece)
    (rest : List Char) :
    cutTemplate (piece ++ (placeholder.toList ++ rest)) = piece :: cutTemplate rest := by
  induction piece with
  | nil => rfl
  | cons c piece ih =>
    have cut := ih fun inside => free (List.infix_cons inside)
    rw [List.cons_append, cutTemplate_cons (not_prefix_of_free free rest), cut,
      List.modifyHead_cons]

/-- A text without a placeholder is one piece. -/
theorem cutTemplate_of_free {piece : List Char} (free : ¬ placeholder.toList <:+: piece) :
    cutTemplate piece = [piece] := by
  induction piece with
  | nil => rfl
  | cons c piece ih =>
    have cut := ih fun inside => free (List.infix_cons inside)
    rw [cutTemplate_cons fun front => free front.isInfix, cut, List.modifyHead_cons]

/-- Cutting undoes joining. -/
theorem cutTemplate_intercalate {pieces : List (List Char)} (nonempty : pieces ≠ [])
    (free : ∀ piece ∈ pieces, ¬ placeholder.toList <:+: piece) :
    cutTemplate (placeholder.toList.intercalate pieces) = pieces := by
  induction pieces with
  | nil => exact absurd rfl nonempty
  | cons piece pieces ih =>
    obtain ⟨first, others⟩ := List.forall_mem_cons.mp free
    cases pieces with
    | nil => rw [List.intercalate_singleton, cutTemplate_of_free first]
    | cons next pieces =>
      rw [List.intercalate_cons_cons, List.append_assoc, cutTemplate_append first,
        ih (List.cons_ne_nil _ _) others]

/-- Between two pieces stands one placeholder, and there is no other. -/
theorem length_cutTemplate (text : List Char) :
    (cutTemplate text).length = text.tails.countP placeholder.toList.isPrefixOf + 1 := by
  fun_induction cutTemplate text with
  | case1 rest ih =>
    simp [ih, toList_placeholder]
  | case2 c rest other ih =>
    have none : placeholder.toList.isPrefixOf (c :: rest) = false := by
      rw [Bool.eq_false_iff, ne_eq, List.isPrefixOf_iff_prefix]
      exact no_placeholder_in_front other
    rw [List.length_modifyHead, ih, List.tails_cons, List.countP_cons_of_neg (by simp [none])]
  | case3 => rfl

/-! Sizes, whether they count characters or bytes. -/

section Size

variable (size : List Char → Nat)
  (additive : ∀ chars others, size (chars ++ others) = size chars + size others)
include additive

/-- Another separator changes the size of the joined pieces once for each place between two. -/
theorem size_intercalate (separator other first : List Char) (pieces : List (List Char)) :
    size (separator.intercalate (first :: pieces)) + pieces.length * size other =
      size (other.intercalate (first :: pieces)) + pieces.length * size separator := by
  induction pieces generalizing first with
  | nil => simp
  | cons next pieces ih =>
    have joined := ih next
    simp only [List.intercalate_cons_cons, additive, List.length_cons, Nat.succ_mul]
    omega

/-- Each placeholder gives its size up for that of the site. -/
theorem size_fillTemplate (site text : List Char) :
    size (fillTemplate site text) +
        text.tails.countP placeholder.toList.isPrefixOf * size placeholder.toList =
      size text + text.tails.countP placeholder.toList.isPrefixOf * size site := by
  have count := length_cutTemplate text
  have filled := fillTemplate_eq_intercalate site text
  have same := fillTemplate_eq_intercalate placeholder.toList text
  obtain ⟨first, pieces, cut, -⟩ := cutTemplate_eq_cons text
  rw [cut, List.length_cons, Nat.add_right_cancel_iff] at count
  rw [cut] at filled
  rw [fillTemplate_placeholder, cut] at same
  have exchanged := size_intercalate size additive site placeholder.toList first pieces
  rwa [← filled, ← same, count] at exchanged

end Size

theorem cutAtPlaceholders_cutTemplate (text : String) :
    CutAtPlaceholders text ((cutTemplate text.toList).map String.ofList) where
  nonempty := by
    obtain ⟨first, pieces, cut, -⟩ := cutTemplate_eq_cons text.toList
    simp [cut]
  free := by
    simpa only [List.forall_mem_map, String.toList_ofList] using free_of_mem_cutTemplate text.toList
  joined := by
    apply String.toList_inj.mp
    rw [String.toList_intercalate, List.map_map, String.toList_comp_ofList, List.map_id,
      ← fillTemplate_eq_intercalate, fillTemplate_placeholder]

theorem CutAtPlaceholders.unique {text : String} {pieces : List String}
    (cut : CutAtPlaceholders text pieces) :
    pieces = (cutTemplate text.toList).map String.ofList := by
  have free : ∀ piece ∈ pieces.map String.toList, ¬ placeholder.toList <:+: piece :=
    List.forall_mem_map.mpr cut.free
  rw [← cut.joined, String.toList_intercalate,
    cutTemplate_intercalate (by simpa using cut.nonempty) free, List.map_map]
  simp

/-- A template comes apart in exactly one way into pieces without a placeholder and the placeholders
between them, as many as there are in it, and each message is these pieces with the site between
them. So a template filled in with the placeholder is as before, and each placeholder changes the
size by the difference between the site and six characters, each of one byte. -/
theorem Message.render_joins_pieces (message : Message) :
    ∃ pieces, CutAtPlaceholders message.template pieces ∧
      (∀ others, CutAtPlaceholders message.template others → others = pieces) ∧
      pieces.length = placeholderCount message.template + 1 ∧
      message.render placeholder = message.template ∧
      ∀ site : String,
        message.render site = site.intercalate pieces ∧
        ((message.render site).length : Int) =
          message.template.length + placeholderCount message.template * (site.length - 6) ∧
        ((message.render site).utf8ByteSize : Int) =
          message.template.utf8ByteSize +
            placeholderCount message.template * (site.utf8ByteSize - 6) := by
  refine ⟨_, cutAtPlaceholders_cutTemplate _, fun _ cut => cut.unique, ?_, ?_,
    fun site => ⟨?_, ?_, ?_⟩⟩
  · rw [List.length_map, length_cutTemplate, placeholderCount]
  · rw [render, fillTemplate_placeholder, String.ofList_toList]
  · apply String.toList_inj.mp
    rw [render, String.toList_ofList, String.toList_intercalate, List.map_map,
      String.toList_comp_ofList, List.map_id, fillTemplate_eq_intercalate]
  · have grown := size_fillTemplate List.length (fun _ _ => List.length_append) site.toList
      message.template.toList
    have six : placeholder.toList.length = 6 := rfl
    rw [six, String.length_toList, String.length_toList] at grown
    rw [render, String.length_ofList, placeholderCount, Int.mul_sub]
    omega
  · have grown := size_fillTemplate String.utf8Len String.utf8Len_append site.toList
      message.template.toList
    have six : String.utf8Len placeholder.toList = 6 := rfl
    rw [six, ← String.utf8ByteSize_ofList message.template.toList,
      ← String.utf8ByteSize_ofList site.toList, String.ofList_toList, String.ofList_toList] at grown
    rw [render, String.utf8ByteSize_ofList, placeholderCount, Int.mul_sub]
    omega

/-- A site that makes a placeholder of its surroundings is put in all the same. -/
example : (Message.mk "" "" "\x7b\x7bsite\x7dte\x7d, \x7bsite\x7d" "").render "si" =
    "\x7bsite\x7d, si" := by
  decide

end HintLint
