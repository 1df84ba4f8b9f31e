import HintLint.Proofs.InspectionTrace
import Mathlib.Data.List.Nodup

/-!
The order of the signature. Each parameter of a list is declared in one place: at an index among the
ordinary ones, or as one of the two that take further arguments. `Declared.Before` says which of two
places comes first in the signature, by the part of the signature and inside a part by index, however
the kinds of the ordinary parameters are mixed. The slots of a list are those of its places in that
order, each once, so hints that are declared one after the other are found one after the other.
-/

namespace HintLint

/-- A parameter with the place in which a list declares it. -/
inductive Declared where
  | ordinary (index : Nat) (parameter : Parameter)
  | star (parameter : Parameter)
  | doubleStar (parameter : Parameter)

namespace Declared

/-- The parameter that is declared. -/
def parameter : Declared → Parameter
  | ordinary _ parameter | star parameter | doubleStar parameter => parameter

/-- The part of the signature: parameters that are not keyword-only, the one for further positional
arguments, those that are keyword-only, the one for further keyword arguments. -/
def part : Declared → Nat
  | ordinary _ parameter => if parameter.kind = .keywordOnly then 2 else 0
  | star _ => 1
  | doubleStar _ => 3

/-- The first place stands before the second in the signature. -/
inductive Before : Declared → Declared → Prop where
  | parts {first second : Declared} : first.part < second.part → Before first second
  | indices {first second : Nat} {earlier later : Parameter} : first < second →
      (ordinary first earlier).part = (ordinary second later).part →
      Before (ordinary first earlier) (ordinary second later)

theorem Before.irrefl (declared : Declared) : ¬ Before declared declared := by
  rintro (less | ⟨less, -⟩) <;> exact Nat.lt_irrefl _ less

/-- Places in order stay in order when further ones of a later part are put after them. -/
theorem pairwise_append {front back : List Declared} {last : Nat}
    (frontOrdered : front.Pairwise Before) (backOrdered : back.Pairwise Before)
    (below : ∀ declared ∈ front, declared.part < last)
    (above : ∀ declared ∈ back, declared.part = last) : (front ++ back).Pairwise Before := by
  refine List.pairwise_append.mpr ⟨frontOrdered, backOrdered, fun first inFront second inBack => ?_⟩
  exact .parts (above second inBack ▸ below first inFront)

end Declared

namespace ParameterList

/-- The list declares a parameter in this place. -/
def Declares (list : ParameterList) : Declared → Prop
  | .ordinary index parameter => list.parameters[index]? = some parameter
  | .star parameter => list.star = some parameter
  | .doubleStar parameter => list.doubleStar = some parameter

/-- The ordinary parameters that pass a test, with their places. -/
def choose (list : ParameterList) (test : Parameter → Bool) : List Declared :=
  (list.parameters.zipIdx.filter fun entry => test entry.1).map fun (parameter, index) =>
    .ordinary index parameter

/-- What the list declares, in the order of the signature. -/
def signature (list : ParameterList) : List Declared :=
  list.choose (·.kind ≠ .keywordOnly) ++ list.star.toList.map .star ++
    list.choose (·.kind = .keywordOnly) ++ list.doubleStar.toList.map .doubleStar

section Choose

variable (list : ParameterList) (test : Parameter → Bool)

theorem choose_parameters :
    (list.choose test).map Declared.parameter = list.parameters.filter test := by
  have entries : list.parameters.filter test =
      (list.parameters.zipIdx.filter (test ∘ Prod.fst)).map Prod.fst := by
    rw [← List.filter_map, List.zipIdx_map_fst]
  rw [entries, choose, List.map_map]
  rfl

variable {list test}

theorem mem_choose {declared : Declared} :
    declared ∈ list.choose test ↔
      ∃ index parameter, declared = .ordinary index parameter ∧
        list.parameters[index]? = some parameter ∧ test parameter := by
  simp only [choose, List.mem_map, List.mem_filter, Prod.exists, List.mem_zipIdx_iff_getElem?]
  constructor
  · rintro ⟨parameter, index, ⟨there, passes⟩, rfl⟩
    exact ⟨index, parameter, rfl, there, passes⟩
  · rintro ⟨index, parameter, rfl, there, passes⟩
    exact ⟨parameter, index, ⟨there, passes⟩, rfl⟩

variable {part : Nat}
  (alike : ∀ index parameter, test parameter → (Declared.ordinary index parameter).part = part)

include alike

theorem part_of_mem_choose {declared : Declared} (chosen : declared ∈ list.choose test) :
    declared.part = part := by
  obtain ⟨index, parameter, rfl, -, passes⟩ := mem_choose.mp chosen
  exact alike index parameter passes

/-- Parameters of one part keep the order in which they are listed. -/
theorem choose_pairwise : (list.choose test).Pairwise Declared.Before := by
  have indices : list.parameters.zipIdx.Pairwise fun first second => first.2 < second.2 := by
    rw [← List.pairwise_map, List.zipIdx_map_snd]
    exact List.pairwise_lt_range' 1
  refine List.pairwise_map.mpr ((indices.filter _).imp_of_mem ?_)
  rintro ⟨earlier, first⟩ ⟨later, second⟩ chosen alsoChosen less
  refine .indices less ?_
  rw [alike first earlier (List.mem_filter.mp chosen).2,
    alike second later (List.mem_filter.mp alsoChosen).2]

end Choose

theorem leading_part (index : Nat) (parameter : Parameter)
    (leading : decide (parameter.kind ≠ .keywordOnly) = true) :
    (Declared.ordinary index parameter).part = 0 :=
  if_neg (of_decide_eq_true leading)

theorem keyword_part (index : Nat) (parameter : Parameter)
    (keyword : decide (parameter.kind = .keywordOnly) = true) :
    (Declared.ordinary index parameter).part = 2 :=
  if_pos (of_decide_eq_true keyword)

section Signature

variable (list : ParameterList)

theorem signature_parameters : list.signature.map Declared.parameter = list.inOrder := by
  simp only [signature, inOrder, List.map_append, choose_parameters, List.map_map]
  simp [Function.comp_def, Declared.parameter]

theorem slots_eq_signature :
    list.slots = list.signature.map fun declared => declared.parameter.hint := by
  rw [slots, ← signature_parameters, List.map_map]
  rfl

variable {list}

theorem mem_signature {declared : Declared} :
    declared ∈ list.signature ↔ list.Declares declared := by
  simp only [signature, List.mem_append, mem_choose, List.mem_map, Option.mem_toList]
  cases declared with
  | ordinary index parameter =>
    by_cases keyword : parameter.kind = .keywordOnly <;> simp [Declares, keyword]
  | star parameter => simp [Declares]
  | doubleStar parameter => simp [Declares]

variable (list)

theorem signature_pairwise : list.signature.Pairwise Declared.Before := by
  have leading : ∀ declared ∈ list.choose (·.kind ≠ .keywordOnly), declared.part = 0 :=
    fun _ => part_of_mem_choose leading_part
  have star : ∀ declared ∈ list.star.toList.map Declared.star, declared.part = 1 := by
    simp [Declared.part]
  have keyword : ∀ declared ∈ list.choose (·.kind = .keywordOnly), declared.part = 2 :=
    fun _ => part_of_mem_choose keyword_part
  have doubleStar : ∀ declared ∈ list.doubleStar.toList.map Declared.doubleStar,
      declared.part = 3 := by
    simp [Declared.part]
  have single (make : Parameter → Declared) (found : Option Parameter) :
      (found.toList.map make).Pairwise Declared.Before := by
    cases found <;> simp
  refine Declared.pairwise_append (Declared.pairwise_append (Declared.pairwise_append
    (choose_pairwise leading_part) (single _ _) ?_ star)
    (choose_pairwise keyword_part) ?_ keyword) (single _ _) ?_ doubleStar
  -- What stands in front is of the parts before.
  · grind
  · simp only [List.mem_append]
    grind
  · simp only [List.mem_append]
    grind

/-- No place is listed twice, since no place is before itself. -/
theorem signature_nodup : list.signature.Nodup := by
  refine list.signature_pairwise.imp ?_
  rintro first second before rfl
  exact Declared.Before.irrefl first before

/-- The signature has the parameters of the list, however these are mixed. -/
theorem inOrder_perm :
    list.inOrder.Perm (list.parameters ++ list.star.toList ++ list.doubleStar.toList) := by
  have kinds : (list.parameters.filter (·.kind ≠ .keywordOnly) ++
      list.parameters.filter (·.kind = .keywordOnly)).Perm list.parameters := by
    simpa using List.filter_append_perm (fun parameter => decide (parameter.kind ≠ .keywordOnly))
      list.parameters
  have moved (front middle back : List Parameter) :
      (front ++ middle ++ back).Perm (front ++ back ++ middle) := by
    rw [List.append_assoc, List.append_assoc]
    exact List.perm_append_comm.append_left front
  exact ((moved _ _ _).trans (kinds.append_right _)).append_right _

theorem length_slots :
    list.slots.length =
      list.parameters.length + list.star.toList.length + list.doubleStar.toList.length := by
  rw [slots, List.length_map, list.inOrder_perm.length_eq, List.length_append, List.length_append]

/-- With the keyword-only parameters last, the signature is the list with its starred parameters put
in. -/
theorem inOrder_of_keyword_last {leading keyword : List Parameter}
    (parts : list.parameters = leading ++ keyword)
    (noKeyword : ∀ parameter ∈ leading, parameter.kind ≠ .keywordOnly)
    (onlyKeyword : ∀ parameter ∈ keyword, parameter.kind = .keywordOnly) :
    list.inOrder = leading ++ list.star.toList ++ keyword ++ list.doubleStar.toList := by
  have front : list.parameters.filter (·.kind ≠ .keywordOnly) = leading := by
    rw [parts, List.filter_append, List.filter_eq_self.mpr, List.filter_eq_nil_iff.mpr,
      List.append_nil]
    · simpa using onlyKeyword
    · simpa using noKeyword
  have back : list.parameters.filter (·.kind = .keywordOnly) = keyword := by
    rw [parts, List.filter_append, List.filter_eq_nil_iff.mpr, List.filter_eq_self.mpr,
      List.nil_append]
    · simpa using onlyKeyword
    · simpa using noKeyword
  rw [inOrder, front, back]

/-- On an active line a parameter list is reported hint by hint, in the order of the signature. -/
theorem visit_findings {active : Activation}
    (answer : active "no-type-hints" list.position.line) (trace : Trace) :
    (Node.visit active trace (.parameters list)).findings =
      trace.findings ++ (list.inOrder.filterMap (·.hint)).map (.ofHint .functionSignature) := by
  rw [(Node.visit_adds ..).2.1, Node.findings, Node.hints_parameters]
  exact congrArg _ (if_pos answer)

end Signature

/-- The slots of a parameter list are one for each declared parameter and in the order of the
signature, without loss and without repetition. Where the keyword-only parameters come last and
hints increase in position as they are declared, an inspection finds them at increasing positions. -/
theorem slots_in_signature_order (list : ParameterList) :
    list.slots.length =
      list.parameters.length + list.star.toList.length + list.doubleStar.toList.length ∧
    list.slots.Perm
      ((list.parameters ++ list.star.toList ++ list.doubleStar.toList).map (·.hint)) ∧
    (∃ order : List Declared,
      list.slots = order.map (·.parameter.hint) ∧ order.Nodup ∧
      (∀ declared, declared ∈ order ↔ list.Declares declared) ∧
      order.Pairwise Declared.Before) ∧
    ∀ (active : Activation) (trace : Trace) (leading keyword : List Parameter),
      list.parameters = leading ++ keyword →
      (∀ parameter ∈ leading, parameter.kind ≠ .keywordOnly) →
      (∀ parameter ∈ keyword, parameter.kind = .keywordOnly) →
      let declared := (leading ++ list.star.toList ++ keyword ++ list.doubleStar.toList).filterMap
        (·.hint)
      declared.Pairwise (fun first second => compare first.position second.position = .lt) →
      active "no-type-hints" list.position.line →
      ∃ found, (Node.visit active trace (.parameters list)).findings = trace.findings ++ found ∧
        found.map (·.hint) = declared ∧
        found.Pairwise fun first second => compare first.location second.location = .lt := by
  refine ⟨list.length_slots, list.inOrder_perm.map _, ⟨list.signature, list.slots_eq_signature,
    list.signature_nodup, fun _ => mem_signature, list.signature_pairwise⟩, ?_⟩
  intro active trace leading keyword parts noKeyword onlyKeyword declared increasing answer
  refine ⟨declared.map (.ofHint .functionSignature), ?_, ?_, List.pairwise_map.mpr increasing⟩
  · rw [list.visit_findings answer, list.inOrder_of_keyword_last parts noKeyword onlyKeyword]
  · rw [List.map_map]
    exact List.map_id _

/-- A signature with a hint in each part. -/
def everyPart : ParameterList where
  position := ⟨1, 6⟩
  parameters := [
    { name := "a", position := ⟨1, 6⟩, hint := some ⟨"int", ⟨1, 9⟩⟩ },
    { name := "b", position := ⟨2, 6⟩ },
    { name := "c", position := ⟨2, 22⟩, kind := .keywordOnly, hint := some ⟨"str", ⟨2, 25⟩⟩ }]
  star := some { name := "args", position := ⟨2, 9⟩, hint := some ⟨"int", ⟨2, 16⟩⟩ }
  doubleStar := some { name := "options", position := ⟨3, 8⟩, hint := some ⟨"str", ⟨3, 17⟩⟩ }

theorem slots_in_signature_order_everyPart :
    ∃ found, (Node.visit (fun _ _ => true) {} (.parameters everyPart)).findings = found ∧
      found.map (·.hint) =
        [⟨"int", ⟨1, 9⟩⟩, ⟨"int", ⟨2, 16⟩⟩, ⟨"str", ⟨2, 25⟩⟩, ⟨"str", ⟨3, 17⟩⟩] ∧
      found.Pairwise fun first second => compare first.location second.location = .lt :=
  (slots_in_signature_order everyPart).2.2.2 (fun _ _ => true) {} (everyPart.parameters.take 2)
    (everyPart.parameters.drop 2) rfl (by decide) (by decide) (by decide) rfl

end ParameterList

end HintLint
