import HintLint.Proofs.Json.RecordEdits
import HintLint.Proofs.NodeShape

/-!
The members of the records of nodes. All of them are required, save the kind of a parameter: one that
is not written means positional. A slot may hold `null`, which is not the same as its absence. Line
and column stand among the members of every record and belong to the position inside it.
-/

namespace HintLint

open Json

/-- A member of a record that must be there. -/
def Json.Record.Requires {σ α β : Type} (record : Record σ α) (key : String) (decoder : Decoder β)
    (get : α → β) (put : β → α → α) : Prop :=
  record.Member key decoder (.error (.missingField key)) get put

namespace Position

theorem record_members :
    record.Requires "line" .word line (fun line position => { position with line }) ∧
      record.Requires "col" .word column fun column position => { position with column } := by
  refine ⟨record_filled.member (by simp) ⟨"line", .word, Draft.line⟩ (by simp) ?_,
    record_filled.member (by simp) ⟨"col", .word, Draft.column⟩ (by simp) ?_⟩
  all_goals
    intro draft kept position finished
    simp only [record, bind_eq_ok, pure_eq_ok, required_eq_ok] at finished
    obtain ⟨_, line, _, column, rfl⟩ := finished
    refine ⟨by simp [line, column], fun next same => ?_⟩
    simp at same
  · cases found : next.line <;> simp [record, required, found, same, column] <;> rfl
  · cases found : next.column <;> simp [record, required, found, same, line] <;> rfl

/-- A record into which a position is flattened has the members of the position. -/
theorem flattened_members {σ α : Type} {record : Record σ α} {cells : List (Cell σ)}
    {get : α → Position} {put : Position → α → α} (filled : record.Filled cells)
    (flattens : record.Flattens Position.record get put)
    (line : findField? record.fields "line" = none) (column : findField? record.fields "col" = none) :
    record.Requires "line" .word (fun a => (get a).line)
        (fun line a => put { get a with line } a) ∧
      record.Requires "col" .word (fun a => (get a).column)
        fun column a => put { get a with column } a :=
  ⟨record_members.1.flattened filled flattens line,
    record_members.2.flattened filled flattens column⟩

end Position

namespace Hint

theorem flattens : record.Flattens Position.record position fun position hint =>
    { hint with position } := by
  intro draft kept hint finished
  simp only [record, bind_eq_ok, pure_eq_ok, required_eq_ok] at finished
  obtain ⟨_, source, position, placed, rfl⟩ := finished
  refine ⟨placed, fun others => ?_⟩
  simp only [record, required, source]
  rfl

theorem record_members :
    record.Requires "source" .string source fun source hint => { hint with source } := by
  refine record_filled.member (by simp) ⟨"source", .string, Draft.source⟩ (by simp) ?_
  intro draft kept hint finished
  simp only [record, bind_eq_ok, pure_eq_ok, required_eq_ok] at finished
  obtain ⟨_, source, position, placed, rfl⟩ := finished
  refine ⟨by simp [source], fun next _ => ?_⟩
  cases found : next.source <;> simp [record, required, found, placed] <;> rfl

end Hint

namespace Parameter

theorem flattens : record.Flattens Position.record position fun position parameter =>
    { parameter with position } := by
  intro draft kept parameter finished
  simp only [record, bind_eq_ok, pure_eq_ok, required_eq_ok] at finished
  obtain ⟨_, name, _, hint, position, placed, rfl⟩ := finished
  refine ⟨placed, fun others => ?_⟩
  simp only [record, required, name, hint]
  rfl

theorem record_members :
    record.Requires "name" .string name (fun name parameter => { parameter with name }) ∧
      record.Member "kind" Kind.decoder (.ok .positional) kind
        (fun kind parameter => { parameter with kind }) ∧
      record.Requires "annotation" Hint.decoder.nullable hint
        fun hint parameter => { parameter with hint } := by
  refine ⟨record_filled.member (by simp) ⟨"name", .string, Draft.name⟩ (by simp) ?_,
    record_filled.member (by simp) ⟨"kind", Kind.decoder, Draft.kind⟩ (by simp) ?_,
    record_filled.member (by simp) ⟨"annotation", Hint.decoder.nullable, Draft.hint⟩ (by simp) ?_⟩
  all_goals
    intro draft kept parameter finished
    simp only [record, bind_eq_ok, pure_eq_ok, required_eq_ok] at finished
    obtain ⟨_, name, _, hint, position, placed, rfl⟩ := finished
    refine ⟨?_, fun next same => ?_⟩
  · simp [name]
  · simp at same
    cases found : next.name <;> simp [record, required, found, same, hint, placed] <;> rfl
  · change draft.kind.elim _ _ = _
    cases draft.kind <;> rfl
  · simp at same
    cases found : next.kind <;> simp [record, required, found, same, name, hint, placed] <;> rfl
  · simp [hint]
  · simp at same
    cases found : next.hint <;> simp [record, required, found, same, name, placed] <;> rfl

end Parameter

namespace ParameterList

theorem flattens : record.Flattens Position.record position fun position list =>
    { list with position } := by
  intro draft kept list finished
  simp only [record, bind_eq_ok, pure_eq_ok, required_eq_ok] at finished
  obtain ⟨_, parameters, _, star, _, doubleStar, position, placed, rfl⟩ := finished
  refine ⟨placed, fun others => ?_⟩
  simp only [record, required, parameters, star, doubleStar]
  rfl

theorem record_members :
    record.Requires "params" Parameter.decoder.list parameters
        (fun parameters list => { list with parameters }) ∧
      record.Requires "vararg" Parameter.decoder.nullable star (fun star list =>
        { list with star }) ∧
      record.Requires "kwarg" Parameter.decoder.nullable doubleStar
        fun doubleStar list => { list with doubleStar } := by
  refine ⟨record_filled.member (by simp) ⟨"params", Parameter.decoder.list, Draft.parameters⟩
      (by simp) ?_,
    record_filled.member (by simp) ⟨"vararg", Parameter.decoder.nullable, Draft.star⟩ (by simp) ?_,
    record_filled.member (by simp) ⟨"kwarg", Parameter.decoder.nullable, Draft.doubleStar⟩
      (by simp) ?_⟩
  all_goals
    intro draft kept list finished
    simp only [record, bind_eq_ok, pure_eq_ok, required_eq_ok] at finished
    obtain ⟨_, parameters, _, star, _, doubleStar, position, placed, rfl⟩ := finished
    refine ⟨by simp [parameters, star, doubleStar], fun next same => ?_⟩
    simp at same
  · cases found : next.parameters <;>
      simp [record, required, found, same, star, doubleStar, placed] <;> rfl
  · cases found : next.star <;>
      simp [record, required, found, same, parameters, doubleStar, placed] <;> rfl
  · cases found : next.doubleStar <;>
      simp [record, required, found, same, parameters, star, placed] <;> rfl

end ParameterList

namespace AnnotatedAssignment

theorem flattens : record.Flattens Position.record position fun position assignment =>
    { assignment with position } := by
  intro draft kept assignment finished
  simp only [record, bind_eq_ok, pure_eq_ok, required_eq_ok] at finished
  obtain ⟨_, target, _, hint, position, placed, rfl⟩ := finished
  refine ⟨placed, fun others => ?_⟩
  simp only [record, required, target, hint]
  rfl

theorem record_members :
    record.Requires "target" .string target (fun target assignment => { assignment with target }) ∧
      record.Requires "annotation" Hint.decoder.nullable hint
        fun hint assignment => { assignment with hint } := by
  refine ⟨record_filled.member (by simp) ⟨"target", .string, Draft.target⟩ (by simp) ?_,
    record_filled.member (by simp) ⟨"annotation", Hint.decoder.nullable, Draft.hint⟩ (by simp) ?_⟩
  all_goals
    intro draft kept assignment finished
    simp only [record, bind_eq_ok, pure_eq_ok, required_eq_ok] at finished
    obtain ⟨_, target, _, hint, position, placed, rfl⟩ := finished
    refine ⟨by simp [target, hint], fun next same => ?_⟩
    simp at same
  · cases found : next.target <;> simp [record, required, found, same, hint, placed] <;> rfl
  · cases found : next.hint <;> simp [record, required, found, same, target, placed] <;> rfl

end AnnotatedAssignment

namespace Assignment

theorem flattens : record.Flattens Position.record position fun position assignment =>
    { assignment with position } := by
  intro draft kept assignment finished
  simp only [record, bind_eq_ok, pure_eq_ok, required_eq_ok] at finished
  obtain ⟨_, targets, _, comment, position, placed, rfl⟩ := finished
  refine ⟨placed, fun others => ?_⟩
  simp only [record, required, targets, comment]
  rfl

theorem record_members :
    record.Requires "targets" Decoder.string.list targets
        (fun targets assignment => { assignment with targets }) ∧
      record.Requires "type_annotation" Hint.decoder.nullable comment
        fun comment assignment => { assignment with comment } := by
  refine ⟨record_filled.member (by simp) ⟨"targets", Decoder.string.list, Draft.targets⟩
      (by simp) ?_,
    record_filled.member (by simp) ⟨"type_annotation", Hint.decoder.nullable, Draft.comment⟩
      (by simp) ?_⟩
  all_goals
    intro draft kept assignment finished
    simp only [record, bind_eq_ok, pure_eq_ok, required_eq_ok] at finished
    obtain ⟨_, targets, _, comment, position, placed, rfl⟩ := finished
    refine ⟨by simp [targets, comment], fun next same => ?_⟩
    simp at same
  · cases found : next.targets <;> simp [record, required, found, same, comment, placed] <;> rfl
  · cases found : next.comment <;> simp [record, required, found, same, targets, placed] <;> rfl

end Assignment

namespace Definition

theorem flattens : record.Flattens Position.record position fun position definition =>
    { definition with position } := by
  intro draft kept definition finished
  simp only [record, bind_eq_ok, pure_eq_ok, required_eq_ok] at finished
  obtain ⟨_, name, _, parameters, _, returns, position, placed, rfl⟩ := finished
  refine ⟨placed, fun others => ?_⟩
  simp only [record, required, name, parameters, returns]
  rfl

theorem record_members :
    record.Requires "name" .string name (fun name definition => { definition with name }) ∧
      record.Requires "args" ParameterList.decoder parameters
        (fun parameters definition => { definition with parameters }) ∧
      record.Requires "returns" Hint.decoder.nullable returns
        fun returns definition => { definition with returns } := by
  refine ⟨record_filled.member (by simp) ⟨"name", .string, Draft.name⟩ (by simp) ?_,
    record_filled.member (by simp) ⟨"args", ParameterList.decoder, Draft.parameters⟩ (by simp) ?_,
    record_filled.member (by simp) ⟨"returns", Hint.decoder.nullable, Draft.returns⟩ (by simp) ?_⟩
  all_goals
    intro draft kept definition finished
    simp only [record, bind_eq_ok, pure_eq_ok, required_eq_ok] at finished
    obtain ⟨_, name, _, parameters, _, returns, position, placed, rfl⟩ := finished
    refine ⟨by simp [name, parameters, returns], fun next same => ?_⟩
    simp at same
  · cases found : next.name <;>
      simp [record, required, found, same, parameters, returns, placed] <;> rfl
  · cases found : next.parameters <;>
      simp [record, required, found, same, name, returns, placed] <;> rfl
  · cases found : next.returns <;>
      simp [record, required, found, same, name, parameters, placed] <;> rfl

end Definition

end HintLint
