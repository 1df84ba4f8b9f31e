import HintLint.Log.Filter
import HintLint.Proofs.Log.Directive
import Mathlib.Data.List.Induction

/-!
Overrides in their usual form: clauses with commas between them, each a level, a target with a level
or without one, or a target with what is no level. Such an override sets one threshold for all events
of inspections, whatever fields they carry. It is that of the last clause with the longest target
among those that inspections are under. An override with a clause that makes no sense counts as none,
and one without clauses leaves errors only.
-/

namespace HintLint.Log

/-- A clause of an override, as it is usually written. -/
inductive Clause where
  /-- A level for all events. It has no sign, which would not start a directive. -/
  | everywhere (threshold : Threshold) (level : List Char) (spelled : threshold.Spelled level)
    (unsigned : '+' ∉ level)
  /-- A level for the events under a target. -/
  | under (target : Path) (threshold : Threshold) (level : List Char)
    (spelled : threshold.Spelled level)
  /-- A target alone, for all events under it. It must not read as a level. -/
  | alone (target : Path) (other : ∀ threshold : Threshold, ¬ threshold.Spelled target.chars)
  /-- A target with an equals sign and nothing behind it, for all events under it. -/
  | unlimited (target : Path)
  /-- A target with what is no level. -/
  | garbled (target : Path) (level : List Char) (nonempty : level ≠ [])
    (meaningless : ∀ threshold : Threshold, ¬ threshold.Spelled level) (whole : ',' ∉ level)

namespace Clause

/-- The text of a clause. -/
def text : Clause → List Char
  | everywhere _ level _ _ => level
  | under target _ level _ => target.chars ++ '=' :: level
  | alone target _ => target.chars
  | unlimited target => target.chars ++ ['=']
  | garbled target level _ _ _ => target.chars ++ '=' :: level

/-- What a clause asks for, if it can be read. -/
def directive? : Clause → Option Directive
  | everywhere threshold _ _ _ => some ⟨[], .nothing, threshold⟩
  | under target threshold _ _ => some ⟨target.chars, .nothing, threshold⟩
  | alone target _ | unlimited target => some ⟨target.chars, .nothing, some .trace⟩
  | garbled .. => none

theorem ofChars_text (clause : Clause) : Directive.ofChars? clause.text = clause.directive? := by
  cases clause with
  | everywhere threshold level spelled unsigned =>
    have read : Directive.ofChars? level = some (Directive.bare level) :=
      Directive.ofChars_path (spelled.path unsigned)
    rwa [Directive.bare, Threshold.ofChars_eq_some.mpr spelled] at read
  | under target threshold level spelled =>
    rw [text, directive?, Directive.ofChars_levelled,
      Threshold.ofLevel_of_nonempty spelled.nonempty, Threshold.ofChars_eq_some.mpr spelled]
    rfl
  | alone target other =>
    rw [text, directive?, Directive.ofChars_path, Directive.bare, Threshold.ofChars_eq_none.mpr other]
  | unlimited target =>
    rw [text, directive?, Directive.ofChars_levelled]
    rfl
  | garbled target level nonempty meaningless whole =>
    rw [text, directive?, Directive.ofChars_levelled, Threshold.ofLevel_of_nonempty nonempty,
      Threshold.ofChars_eq_none.mpr meaningless]
    rfl

theorem text_nonempty (clause : Clause) : clause.text ≠ [] := by
  cases clause with
  | everywhere threshold level spelled unsigned => exact spelled.nonempty
  | under target threshold level spelled => simp [text]
  | alone target other => exact target.nonempty
  | unlimited target => simp [text]
  | garbled target level nonempty meaningless whole => simp [text]

theorem comma_notMem_text (clause : Clause) : ',' ∉ clause.text := by
  cases clause with
  | everywhere threshold level spelled unsigned => exact spelled.comma_notMem
  | under target threshold level spelled =>
    simp [text, target.comma_notMem, spelled.comma_notMem]
  | alone target other => exact target.comma_notMem
  | unlimited target => simp [text, target.comma_notMem]
  | garbled target level nonempty meaningless whole => simp [text, target.comma_notMem, whole]

/-- Clauses that can be read ask nothing of an event but its target. -/
theorem unasking_of_mapM {clauses : List Clause} {directives : List Directive}
    (read : clauses.mapM directive? = some directives) :
    directives.length = clauses.length ∧
      ∀ directive ∈ directives, directive.requirement = .nothing := by
  induction clauses generalizing directives with
  | nil =>
    cases read
    simp
  | cons clause clauses ih =>
    rw [List.mapM_cons] at read
    obtain ⟨directive, first, read⟩ := Option.bind_eq_some_iff.mp read
    obtain ⟨others, rest, read⟩ := Option.bind_eq_some_iff.mp read
    cases read
    obtain ⟨number, unasking⟩ := ih rest
    refine ⟨by simp [number], List.forall_mem_cons.mpr ⟨?_, unasking⟩⟩
    cases clause with
    | everywhere | under | alone | unlimited =>
      cases first
      rfl
    | garbled => cases first

end Clause

/-! Which directive decides. -/

/-- The directives with the longest targets. -/
def longest (directives : List Directive) : List Directive :=
  directives.filter fun directive =>
    directives.all fun other => other.target.length ≤ directive.target.length

/-- The directive that decides on the events of inspections: of those whose targets these events are
under, the last one with the longest target. -/
def decisive? (directives : List Directive) : Option Directive :=
  (longest (directives.filter fun directive =>
    directive.target.isPrefixOf "quacking_python::checker".toList)).getLast?

/-- A directive that those before it do not exceed, and all behind it fall short of. -/
def Decides (directives : List Directive) (decisive : Directive) : Prop :=
  ∃ before after, directives = before ++ decisive :: after ∧
    (∀ other ∈ before, other.target.length ≤ decisive.target.length) ∧
    ∀ other ∈ after, other.target.length < decisive.target.length

theorem Decides.bounds {directives : List Directive} {decisive : Directive}
    (decides : Decides directives decisive) :
    ∀ other ∈ directives, other.target.length ≤ decisive.target.length := by
  obtain ⟨before, after, rfl, early, late⟩ := decides
  intro other listed
  rcases List.mem_append.mp listed with front | behind
  · exact early other front
  · rcases List.mem_cons.mp behind with rfl | later
    · exact Nat.le_refl _
    · exact Nat.le_of_lt (late other later)

theorem Decides.getLast_longest {directives : List Directive} {decisive : Directive}
    (decides : Decides directives decisive) : (longest directives).getLast? = some decisive := by
  have most := List.all_eq_true.mpr fun other listed => decide_eq_true (decides.bounds other listed)
  obtain ⟨before, after, rfl, early, late⟩ := decides
  have short : ∀ other ∈ after, ¬ ((before ++ decisive :: after).all fun each =>
      each.target.length ≤ other.target.length) = true := by
    intro other listed all
    have least := of_decide_eq_true (List.all_eq_true.mp all decisive (by simp))
    exact absurd (late other listed) (by omega)
  rw [longest, List.filter_append, List.filter_cons, if_pos most, List.filter_eq_nil_iff.mpr short,
    List.getLast?_append, List.getLast?_singleton, Option.some_or]

theorem exceeds_of_unasking {directive other : Directive}
    (unasking : directive.requirement = .nothing) :
    directive.exceeds other = decide (other.target.length < directive.target.length) := by
  rw [Directive.exceeds, unasking]
  cases other.requirement <;> simp [Requirement.exceeds]

/-- Preferring one by one leaves the directive that decides. -/
theorem exists_decides {directives : List Directive} (nonempty : directives ≠ [])
    (unasking : ∀ directive ∈ directives, directive.requirement = .nothing) :
    ∃ decisive, directives.foldl Directive.prefer none = some decisive ∧
      Decides directives decisive := by
  induction directives using List.reverseRecOn with
  | nil => exact absurd rfl nonempty
  | append_singleton directives last ih =>
    rw [List.foldl_append, List.foldl_cons, List.foldl_nil]
    by_cases alone : directives = []
    · subst alone
      exact ⟨last, rfl, [], [], rfl, by simp, by simp⟩
    · obtain ⟨decisive, preferred, decides⟩ :=
        ih alone fun directive listed => unasking directive (by simp [listed])
      have bounds := decides.bounds
      obtain ⟨before, after, rfl, early, late⟩ := decides
      rw [preferred, Directive.prefer, exceeds_of_unasking (unasking decisive (by simp))]
      by_cases longer : last.target.length < decisive.target.length
      · refine ⟨decisive, by simp [longer], before, after ++ [last], by simp, early, ?_⟩
        intro other listed
        rcases List.mem_append.mp listed with inside | final
        · exact late other inside
        · rwa [List.mem_singleton.mp final]
      · refine ⟨last, by simp [longer], _, [], rfl, fun other listed => ?_, by simp⟩
        have bound := bounds other listed
        omega

theorem foldl_prefer {directives : List Directive}
    (unasking : ∀ directive ∈ directives, directive.requirement = .nothing) :
    directives.foldl Directive.prefer none = (longest directives).getLast? := by
  by_cases nonempty : directives = []
  · rw [nonempty]
    rfl
  · obtain ⟨decisive, preferred, decides⟩ := exists_decides nonempty unasking
    rw [preferred, decides.getLast_longest]

/-- Directives that ask nothing of an event but its target set one threshold for all events. -/
theorem thresholdOf_of_unasking {directives : List Directive} (nonempty : directives ≠ [])
    (unasking : ∀ directive ∈ directives, directive.requirement = .nothing) (fields : List String) :
    thresholdOf directives fields = (decisive? directives).bind Directive.threshold := by
  have applying : directives.filter (Directive.applies target fields) =
      directives.filter fun directive => directive.target.isPrefixOf target := by
    apply List.filter_congr
    intro directive listed
    rw [Directive.applies, unasking directive listed, Requirement.isMet, Bool.and_true]
  have inside : ∀ directive ∈ directives.filter fun directive => directive.target.isPrefixOf target,
      directive.requirement = .nothing :=
    fun directive listed => unasking directive (List.mem_filter.mp listed).1
  rw [thresholdOf, if_neg (by simpa using nonempty), applying, foldl_prefer inside]
  rfl

/-! Whole overrides. -/

/-- An override, as it is usually written: clauses with commas between them, or nothing at all. -/
structure Override where
  clauses : List Clause

namespace Override

/-- The text of an override. -/
def text (override : Override) : String :=
  String.ofList ([','].intercalate (override.clauses.map Clause.text))

/-- The threshold that an override sets. An override with a clause that cannot be read sets none. If
no clause is about inspections, nothing of them is printed, but without any clause errors are. -/
def threshold? (override : Override) : Option Threshold :=
  if override.clauses = [] then some (some .error)
  else
    (override.clauses.mapM Clause.directive?).map fun directives =>
      (decisive? directives).bind Directive.threshold

theorem splitAt_eq_splitOn (separator : Char) (chars : List Char) :
    splitAt separator chars = chars.splitOn separator := by
  induction chars with
  | nil => rfl
  | cons c chars ih =>
    rw [splitAt, List.splitOn_cons_eq_if_modifyHead, ih]
    obtain ⟨part, parts, cut⟩ := List.exists_cons_of_ne_nil (List.splitOn_ne_nil separator chars)
    by_cases same : c = separator <;> simp [same, cut]

theorem directives_text (override : Override) :
    directives? override.text = override.clauses.mapM Clause.directive? := by
  obtain ⟨clauses⟩ := override
  have parts : (splitAt ',' ([','].intercalate (clauses.map Clause.text))).filter (!·.isEmpty) =
      clauses.map Clause.text := by
    by_cases none : clauses = []
    · rw [none]
      rfl
    · rw [splitAt_eq_splitOn, List.splitOn_intercalate]
      · rw [List.filter_eq_self]
        simpa using fun clause _ => clause.text_nonempty
      · simpa using fun clause _ => clause.comma_notMem_text
      · simpa using none
  rw [directives?, text, String.toList_ofList, parts, List.mapM_map]
  congr 1
  funext clause
  exact clause.ofChars_text

end Override

/-- The threshold that holds under an override, if there is one, and a configured level. -/
def thresholdUnder (override : Option Override) (level : Level) : Threshold :=
  (override.bind Override.threshold?).getD (some level)

/-- The threshold is the same for all events. -/
theorem effective_text (override : Option Override) (config : Config) (fields : List String) :
    effective (override.map Override.text) config fields =
      thresholdUnder override config.level := by
  cases override with
  | none => rfl
  | some override =>
    simp only [effective, thresholdUnder, Override.threshold?, Option.map_some, Option.bind_some,
      override.directives_text]
    by_cases none : override.clauses = []
    · rw [none]
      rfl
    · rw [if_neg none]
      cases read : override.clauses.mapM Clause.directive? with
      | none => rfl
      | some directives =>
        obtain ⟨number, unasking⟩ := Clause.unasking_of_mapM read
        have nonempty : directives ≠ [] := by
          intro empty
          rw [empty, List.length_nil, eq_comm, List.length_eq_zero_iff] at number
          exact none number
        exact thresholdOf_of_unasking nonempty unasking fields

/-- A clause about another part of the program prints nothing of inspections, a target alone prints
all that is under it, and without clauses only errors are printed. -/
example : effective (some "quacking_core=trace") { level := .trace } ["message"] = none ∧
    effective (some "info,quacking_python") {} ["message"] = some .trace ∧
    effective (some "") { level := .trace } ["message"] = some .error := by
  decide +kernel

end HintLint.Log
