import HintLint.Proofs.PolicyRoundTrip
import HintLint.Session
import Mathlib.Data.List.DropRight

/-!
Where the policy of a session comes from. Resetting and loading put a policy in the place of the old
one; the last that did so is the base of the history. Since then, keys were disabled and spans were
added, and the policy is the base with these and nothing else. A load or a span that is refused
leaves no trace. As long as no action goes round the checks, every span in the policy is upright.
-/

namespace HintLint

open Json

namespace Session

/-- The policy that an action puts in the place of the old one. A load that is refused puts none. -/
def Action.newPolicy? : Action → Option Policy
  | .reset => some {}
  | .load text => (Policy.ofText text).toOption
  | .loadUnchecked text => (Policy.parse text).toOption
  | _ => none

/-- The span that an action adds, with its key. A span that is refused is not added. -/
def Action.added? : Action → Option (String × LineSpan)
  | .disableLines key span => if span.start ≤ span.stop then some (key, span) else none
  | .addSpan key span => some (key, span)
  | _ => none

/-- Whether the action looks at the spans that it brings into the policy. -/
def Action.isChecked : Action → Bool
  | .loadUnchecked _ | .addSpan _ _ => false
  | _ => true

/-- The policy that was last put in place by a load or a reset; at first, the empty one. -/
def basePolicy (actions : List Action) : Policy :=
  (actions.filterMap Action.newPolicy?).getLast?.getD {}

/-- The actions after the one that put the base in place. -/
def sinceBase (actions : List Action) : List Action :=
  actions.rtakeWhile fun action => action.newPolicy?.isNone

/-- The spans that are added under a key, in order. -/
def spansAdded (key : String) (actions : List Action) : List LineSpan :=
  ((actions.filterMap Action.added?).filter fun added => added.1 = key).map Prod.snd

/-- The policy is the base with the keys and spans of the actions added, and with nothing else. -/
structure Extends (base : Policy) (actions : List Action) (policy : Policy) : Prop where
  disabled : ∀ key, key ∈ policy.disabled.keys ↔
    key ∈ base.disabled.keys ∨ .disable key ∈ actions
  /-- A key has an entry only if the base has one or a span was added. -/
  keys : ∀ key, key ∈ policy.disabledLines.keys ↔
    key ∈ base.disabledLines.keys ∨ spansAdded key actions ≠ []
  spans : ∀ key, policy.spansOf key = base.spansOf key ++ spansAdded key actions

section History

variable {actions : List Action} {action : Action}

theorem basePolicy_concat :
    basePolicy (actions ++ [action]) = action.newPolicy?.getD (basePolicy actions) := by
  rw [basePolicy, basePolicy, List.filterMap_append]
  cases new : action.newPolicy? <;> simp [new]

theorem sinceBase_concat :
    sinceBase (actions ++ [action]) =
      if action.newPolicy?.isNone then sinceBase actions ++ [action] else [] :=
  List.rtakeWhile_concat _ _ _

theorem mem_of_mem_sinceBase (listed : action ∈ sinceBase actions) : action ∈ actions :=
  (List.rtakeWhile_suffix _ _).subset listed

theorem spansAdded_concat {key : String} :
    spansAdded key (actions ++ [action]) = spansAdded key actions ++
      ((action.added?.toList.filter fun added => added.1 = key).map Prod.snd) := by
  rw [spansAdded, List.filterMap_append, List.filter_append, List.map_append]
  cases added : action.added? <;> simp [spansAdded, added]

theorem mem_spansAdded {key : String} {span : LineSpan} :
    span ∈ spansAdded key actions ↔ ∃ action ∈ actions, action.added? = some (key, span) := by
  simp [spansAdded]

end History

namespace Extends

variable {base policy : Policy} {actions : List Action} {action : Action}

theorem refl (policy : Policy) : Extends policy [] policy where
  disabled key := by simp
  keys key := by simp [spansAdded]
  spans key := by simp [spansAdded]

theorem disable (grown : Extends base actions policy) (key : String) :
    Extends base (actions ++ [.disable key]) (policy.disable key) where
  disabled other := by
    rw [Policy.mem_disable, grown.disabled, List.mem_append, List.mem_singleton]
    simp only [Action.disable.injEq]
    tauto
  keys other := by
    rw [Policy.disable_disabledLines, grown.keys, spansAdded_concat]
    simp [Action.added?]
  spans other := by
    have same : (policy.disable key).spansOf other = policy.spansOf other := rfl
    rw [same, grown.spans, spansAdded_concat]
    simp [Action.added?]

theorem addSpan (grown : Extends base actions policy) {key : String} {span : LineSpan}
    (added : action.added? = some (key, span)) :
    Extends base (actions ++ [action]) (policy.addSpan key span) where
  disabled other := by
    have different : .disable other ≠ action := by
      rintro rfl
      cases added
    rw [Policy.addSpan_disabled, grown.disabled, List.mem_append, List.mem_singleton]
    simp only [different, or_false]
  keys other := by
    rw [Policy.mem_keys_addSpan, grown.keys, spansAdded_concat, added]
    by_cases same : key = other
    · simp [same]
    · simp [same, Ne.symm same]
  spans other := by
    rw [Policy.spansOf_addSpan, spansAdded_concat, added]
    by_cases same : other = key
    · subst same
      simp [grown.spans]
    · simp [same, Ne.symm same, grown.spans]

/-- An action that adds nothing belongs to the history all the same. -/
theorem idle (grown : Extends base actions policy) (unchanged : action.added? = none)
    (enabled : ∀ key, action ≠ .disable key) : Extends base (actions ++ [action]) policy where
  disabled key := by
    have different : .disable key ≠ action := Ne.symm (enabled key)
    rw [grown.disabled, List.mem_append, List.mem_singleton]
    simp only [different, or_false]
  keys key := by
    rw [grown.keys, spansAdded_concat, unchanged]
    simp
  spans key := by
    rw [grown.spans, spansAdded_concat, unchanged]
    simp

/-- A rule is inactive where the base has it so, where a key that names it was disabled, and where a
span that was added for such a key holds the line. -/
theorem isActive_eq_false (grown : Extends base actions policy) {rule : String} {line : UInt32} :
    policy.isActive rule line = false ↔
      base.isActive rule line = false ∨
      (∃ key, .disable key ∈ actions ∧ Policy.names key rule = true) ∨
      ∃ key, ∃ span ∈ spansAdded key actions,
        Policy.names key rule = true ∧ span.contains line = true := by
  simp only [Policy.isActive_eq_false, grown.disabled, grown.spans, List.mem_append]
  constructor
  · rintro ⟨key, named, (listed | disabled) | ⟨span, listed | added, within⟩⟩
    · exact .inl ⟨key, named, .inl listed⟩
    · exact .inr (.inl ⟨key, disabled, named⟩)
    · exact .inl ⟨key, named, .inr ⟨span, listed, within⟩⟩
    · exact .inr (.inr ⟨key, span, added, named, within⟩)
  · rintro (⟨key, named, listed | ⟨span, listed, within⟩⟩ | ⟨key, disabled, named⟩ |
      ⟨key, span, added, named, within⟩)
    · exact ⟨key, named, .inl (.inl listed)⟩
    · exact ⟨key, named, .inr ⟨span, .inl listed, within⟩⟩
    · exact ⟨key, named, .inl (.inr disabled)⟩
    · exact ⟨key, named, .inr ⟨span, .inr added, within⟩⟩

end Extends

/-! What one action does to the policy. -/

/-- An action replaces the policy, or disables a key, or adds a span, or leaves the policy alone. -/
theorem step_policy (session : Session) (action : Action) :
    (∃ policy, action.newPolicy? = some policy ∧ (session.step action).1.policy = policy) ∨
    action.newPolicy? = none ∧
      ((∃ key, action = .disable key ∧
        (session.step action).1.policy = session.policy.disable key) ∨
      (∃ key span, action.added? = some (key, span) ∧
        (session.step action).1.policy = session.policy.addSpan key span) ∨
      (action.added? = none ∧ (∀ key, action ≠ .disable key) ∧
        (session.step action).1.policy = session.policy)) := by
  cases action with
  | reset => exact .inl ⟨{}, rfl, rfl⟩
  | load text =>
    cases read : Policy.ofText text with
    | ok policy =>
      exact .inl ⟨policy, by simp [Action.newPolicy?, read, Except.toOption],
        by simp [step, read, withPolicy]⟩
    | error error =>
      refine .inr ⟨by simp [Action.newPolicy?, read, Except.toOption], .inr (.inr ⟨rfl, nofun, ?_⟩)⟩
      simp [step, read]
  | loadUnchecked text =>
    cases read : Policy.parse text with
    | ok policy =>
      exact .inl ⟨policy, by simp [Action.newPolicy?, read, Except.toOption],
        by simp [step, read, withPolicy]⟩
    | error error =>
      refine .inr ⟨by simp [Action.newPolicy?, read, Except.toOption], .inr (.inr ⟨rfl, nofun, ?_⟩)⟩
      simp [step, read]
  | disable key => exact .inr ⟨rfl, .inl ⟨key, rfl, rfl⟩⟩
  | disableLines key span =>
    by_cases upright : span.start ≤ span.stop
    · refine .inr ⟨rfl, .inr (.inl ⟨key, span, if_pos upright, ?_⟩)⟩
      simp [step, Policy.disableLines_of_upright upright, withPolicy]
    · refine .inr ⟨rfl, .inr (.inr ⟨if_neg upright, nofun, ?_⟩)⟩
      simp [step, Policy.disableLines_of_inverted (UInt32.not_le.mp upright)]
  | addSpan key span => exact .inr ⟨rfl, .inr (.inl ⟨key, span, rfl, rfl⟩)⟩
  | showPolicy | isActive | take => exact .inr ⟨rfl, .inr (.inr ⟨rfl, nofun, rfl⟩)⟩
  | validate | visit | visitAll | visitRecord =>
    refine .inr ⟨rfl, .inr (.inr ⟨rfl, nofun, ?_⟩)⟩
    simp only [step]
    split <;> rfl

/-- A span is refused exactly when it is inverted, and then the session stays as it was. -/
theorem step_disableLines (session : Session) (key : String) (span : LineSpan) :
    ((∃ error, (session.step (.disableLines key span)).2 = .refused error) ↔
      span.stop < span.start) ∧
    (span.stop < span.start → (session.step (.disableLines key span)).1 = session) := by
  by_cases upright : span.start ≤ span.stop
  · have notInverted : ¬ span.stop < span.start := UInt32.not_lt.mpr upright
    simp [step, Policy.disableLines_of_upright upright, withPolicy, notInverted]
  · have inverted : span.stop < span.start := UInt32.not_le.mp upright
    simp [step, Policy.disableLines_of_inverted inverted, inverted]

theorem Action.newPolicy_valid {action : Action} {policy : Policy} (checked : action.isChecked = true)
    (new : action.newPolicy? = some policy) : policy.Valid := by
  cases action with
  | reset =>
    cases new
    intro entry listed
    cases listed
  | load text =>
    cases read : Policy.ofText text with
    | ok found =>
      simp only [newPolicy?, read, Except.toOption, Option.some.injEq] at new
      subst new
      exact (Policy.ofText_eq_ok.mp read).2
    | error error => simp [newPolicy?, read, Except.toOption] at new
  | loadUnchecked => cases checked
  | _ => cases new

theorem Action.added_checked {action : Action} {key : String} {span : LineSpan}
    (checked : action.isChecked = true) :
    action.added? = some (key, span) ↔
      action = .disableLines key span ∧ span.start ≤ span.stop := by
  cases action with
  | addSpan => cases checked
  | disableLines other found =>
    simp only [added?, Option.ite_none_right_eq_some, Option.some.injEq, Prod.mk.injEq,
      Action.disableLines.injEq]
    constructor
    · rintro ⟨upright, rfl, rfl⟩
      exact ⟨⟨rfl, rfl⟩, upright⟩
    · rintro ⟨⟨rfl, rfl⟩, upright⟩
      exact ⟨upright, rfl, rfl⟩
  | _ => simp [added?]

/-- An action that looks at its spans brings no inverted one into the policy. -/
theorem step_valid {session : Session} {action : Action} (checked : action.isChecked = true)
    (valid : session.policy.Valid) : (session.step action).1.policy.Valid := by
  rcases session.step_policy action with ⟨policy, new, same⟩ | ⟨-, ⟨key, -, same⟩ |
    ⟨key, span, added, same⟩ | ⟨-, -, same⟩⟩
  · rw [same]
    exact Action.newPolicy_valid checked new
  · rw [same]
    exact valid
  · obtain ⟨-, upright⟩ := (Action.added_checked checked).mp added
    rw [same]
    exact valid.addSpan upright
  · rw [same]
    exact valid

/-! What a run does to it. -/

theorem run_concat (session : Session) (actions : List Action) (action : Action) :
    (session.run (actions ++ [action])).1 = ((session.run actions).1.step action).1 := by
  rw [run_append]
  rfl

theorem run_valid {actions : List Action} (checked : ∀ action ∈ actions, action.isChecked = true) :
    (run {} actions).1.policy.Valid := by
  induction actions using List.reverseRecOn with
  | nil =>
    intro entry listed
    cases listed
  | append_singleton actions action ih =>
    rw [run_concat]
    have before := ih fun earlier listed => checked earlier (List.mem_append_left _ listed)
    exact step_valid (checked action (by simp)) before

/-- An action that puts no policy in place of the old one adds to what was added before. -/
theorem step_extends {base : Policy} {actions : List Action} {session : Session} {action : Action}
    (grown : Extends base actions session.policy) (kept : action.newPolicy? = none) :
    Extends base (actions ++ [action]) (session.step action).1.policy := by
  rcases session.step_policy action with ⟨policy, new, -⟩ | ⟨-, ⟨key, rfl, same⟩ |
    ⟨key, span, added, same⟩ | ⟨unchanged, enabled, same⟩⟩
  · rw [kept] at new
    cases new
  · rw [same]
    exact grown.disable key
  · rw [same]
    exact grown.addSpan added
  · rw [same]
    exact grown.idle unchanged enabled

/-- The policy after a run is the base of its history with what was added since. -/
theorem run_extends (actions : List Action) :
    Extends (basePolicy actions) (sinceBase actions) (run {} actions).1.policy := by
  induction actions using List.reverseRecOn with
  | nil => exact Extends.refl {}
  | append_singleton actions action ih =>
    rw [run_concat, basePolicy_concat, sinceBase_concat]
    rcases (run {} actions).1.step_policy action with ⟨policy, new, same⟩ | ⟨kept, -⟩
    · rw [new, same]
      exact Extends.refl policy
    · rw [kept, Option.isNone_none, if_pos rfl, Option.getD_none]
      exact step_extends ih kept

/-- After any run whose actions look at the spans they bring in: the policy is valid; it is written
with its keys in the strict order of their bytes; and it is the base of the history with the keys
disabled and the upright spans added since, while a span is refused exactly when it is inverted, and
leaves nothing behind. So a rule is inactive at a line if the base has it so, if a key that names it
was disabled since, or if a span around the line was added since under such a key. -/
theorem policy_from_history (actions : List Action)
    (checked : ∀ action ∈ actions, action.isChecked = true) :
    (run {} actions).1.policy.validate = .ok () ∧
    (run {} actions).1.policy.WrittenInOrder ∧
    Extends (basePolicy actions) (sinceBase actions) (run {} actions).1.policy ∧
    (∀ session key span,
      ((∃ error, (step session (.disableLines key span)).2 = .refused error) ↔
        span.stop < span.start) ∧
      (span.stop < span.start → (step session (.disableLines key span)).1 = session)) ∧
    ∀ rule line, (run {} actions).1.policy.isActive rule line = false ↔
      (basePolicy actions).isActive rule line = false ∨
      (∃ key, .disable key ∈ sinceBase actions ∧ Policy.names key rule = true) ∨
      ∃ key span, .disableLines key span ∈ sinceBase actions ∧ span.start ≤ span.stop ∧
        Policy.names key rule = true ∧ span.start ≤ line ∧ line ≤ span.stop := by
  have grown := run_extends actions
  have valid := Policy.validate_eq_ok.mpr (run_valid checked)
  refine ⟨valid, Policy.writtenInOrder _, grown, step_disableLines, ?_⟩
  intro rule line
  have added : ∀ key span, span ∈ spansAdded key (sinceBase actions) ↔
      .disableLines key span ∈ sinceBase actions ∧ span.start ≤ span.stop := by
    intro key span
    rw [mem_spansAdded]
    constructor
    · rintro ⟨action, listed, adds⟩
      obtain ⟨rfl, upright⟩ :=
        (Action.added_checked (checked action (mem_of_mem_sinceBase listed))).mp adds
      exact ⟨listed, upright⟩
    · rintro ⟨listed, upright⟩
      exact ⟨_, listed, if_pos upright⟩
  simp only [grown.isActive_eq_false, added, LineSpan.contains, Bool.and_eq_true, decide_eq_true_iff,
    and_assoc]

/-- One span for the rule. -/
def loaded : Policy where
  disabledLines := .ofList [("E3107", [⟨1, 2⟩])]

/-- A key that is lost by a load, a load that is refused, and spans of which two are refused. -/
def reloaded : List Action :=
  [.disable "lost", .load loaded.toValue.toText, .load "[", .disableLines "E3107" ⟨6, 5⟩,
    .disableLines "E3107" ⟨5, 9⟩, .disableLines "é" ⟨9, 1⟩, .disable "kept"]

theorem policy_from_history_reloaded :
    (run {} reloaded).1.policy.validate = .ok () ∧
    (run {} reloaded).1.policy.spansOf "E3107" = [⟨1, 2⟩, ⟨5, 9⟩] ∧
    "é" ∉ (run {} reloaded).1.policy.disabledLines.keys ∧
    (∀ key, key ∈ (run {} reloaded).1.policy.disabled.keys ↔ key = "kept") ∧
    (run {} reloaded).1.policy.isActive "no-type-hints" 7 = false := by
  have base : basePolicy reloaded = loaded := by decide
  have since : sinceBase reloaded = [.load "[", .disableLines "E3107" ⟨6, 5⟩,
      .disableLines "E3107" ⟨5, 9⟩, .disableLines "é" ⟨9, 1⟩, .disable "kept"] := by decide
  obtain ⟨valid, -, grown, -, inactive⟩ := policy_from_history reloaded (by decide)
  rw [base, since] at grown
  refine ⟨valid, (grown.spans _).trans (by decide), ?_, ?_, ?_⟩
  · rw [grown.keys]
    decide
  · intro key
    rw [grown.disabled]
    simp [loaded, KeyMap.mem_keys]
  · rw [inactive]
    exact .inr (.inr ⟨"E3107", ⟨5, 9⟩, by rw [since]; simp, by decide, by decide, by decide⟩)

end Session

end HintLint
