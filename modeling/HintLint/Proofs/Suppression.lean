import HintLint.Proofs.InspectionTrace
import HintLint.Proofs.PolicyHistory
import Mathlib.Data.List.Flatten

/-!
What disabling takes away. A key that is disabled, or a span that is added, turns a rule off at some
lines and changes nothing else. Under the changed policy a run finds what it found before at the
nodes whose own line is not among them, wherever their hints stand, and in the same order. So an
action either puts another policy in the place of the old one or only takes findings away.
-/

namespace HintLint

/-- What a run over nodes finds under a policy. -/
def Policy.findings (policy : Policy) (nodes : List Node) : List Finding :=
  (Node.inspectAll policy.isActive nodes).findings

/-! Lines at which a rule is turned off. -/

namespace Session

/-- Whether an action turns a rule off at a line. A span that is refused holds no line. -/
def Action.silences (rule : String) (line : UInt32) : Action → Bool
  | .disable key => Policy.names key rule
  | .disableLines key span | .addSpan key span => Policy.names key rule && span.contains line
  | _ => false

section Silences

variable {rule : String} {line : UInt32} {action : Action}

theorem Action.added_of_contains {key : String} {span : LineSpan} (holds : span.contains line = true) :
    (Action.disableLines key span).added? = some (key, span) := by
  obtain ⟨after, before⟩ := LineSpan.contains_iff.mp holds
  exact if_pos (UInt32.le_trans after before)

theorem Action.silences_iff :
    action.silences rule line = true ↔
      (∃ key, action = .disable key ∧ Policy.names key rule = true) ∨
      ∃ key span, action.added? = some (key, span) ∧ Policy.names key rule = true ∧
        span.contains line = true := by
  cases action with
  | disable key => simp [silences, added?]
  | disableLines key span =>
    simp only [silences, Bool.and_eq_true, reduceCtorEq, false_and, exists_false, false_or]
    constructor
    · rintro ⟨named, holds⟩
      exact ⟨key, span, added_of_contains holds, named, holds⟩
    · rintro ⟨other, found, added, named, holds⟩
      simp only [added?, Option.ite_none_right_eq_some, Option.some.injEq, Prod.mk.injEq] at added
      obtain ⟨-, rfl, rfl⟩ := added
      exact ⟨named, holds⟩
  | addSpan key span => simp [silences, added?]
  | _ => simp [silences, added?]

/-- A rule is active where the base has it so and no action turned it off. -/
theorem Extends.isActive_eq {base policy : Policy} {actions : List Action}
    (grown : Extends base actions policy) (rule : String) (line : UInt32) :
    policy.isActive rule line =
      (base.isActive rule line && !actions.any (Action.silences rule line)) := by
  have silenced : actions.any (Action.silences rule line) = true ↔
      (∃ key, .disable key ∈ actions ∧ Policy.names key rule = true) ∨
      ∃ key, ∃ span ∈ spansAdded key actions,
        Policy.names key rule = true ∧ span.contains line = true := by
    simp only [List.any_eq_true, Action.silences_iff, mem_spansAdded]
    constructor
    · rintro ⟨action, listed, ⟨key, rfl, named⟩ | ⟨key, span, added, covered⟩⟩
      · exact .inl ⟨key, listed, named⟩
      · exact .inr ⟨key, span, ⟨action, listed, added⟩, covered⟩
    · rintro (⟨key, listed, named⟩ | ⟨key, span, ⟨action, listed, added⟩, covered⟩)
      · exact ⟨.disable key, listed, .inl ⟨key, rfl, named⟩⟩
      · exact ⟨action, listed, .inr ⟨key, span, added, covered⟩⟩
  have inactive : policy.isActive rule line = false ↔
      base.isActive rule line = false ∨ actions.any (Action.silences rule line) = true :=
    grown.isActive_eq_false.trans (or_congr Iff.rfl silenced.symm)
  cases answer : policy.isActive rule line with
  | false =>
    rcases inactive.mp answer with before | since
    · rw [before, Bool.false_and]
    · rw [since, Bool.not_true, Bool.and_false]
  | true =>
    have neither := mt inactive.mpr (by simp [answer])
    simp only [not_or, Bool.not_eq_false, Bool.not_eq_true] at neither
    rw [neither.1, neither.2]
    rfl

end Silences

/-- As long as no other policy is put in its place, the policy is the one at first with what was
added since. -/
theorem run_extends_kept (session : Session) {actions : List Action}
    (kept : ∀ action ∈ actions, action.newPolicy? = none) :
    Extends session.policy actions (session.run actions).1.policy := by
  induction actions using List.reverseRecOn with
  | nil => exact Extends.refl session.policy
  | append_singleton actions action ih =>
    have before := ih fun earlier listed => kept earlier (List.mem_append_left _ listed)
    rw [run_concat]
    exact step_extends before (kept action (by simp))

end Session

/-! Findings at the lines that are left. -/

namespace Node

theorem inspectAll_findings (active : Activation) (nodes : List Node) :
    (inspectAll active nodes).findings = nodes.flatMap (findings active) :=
  (visitAll_adds active {} nodes).2.1

/-- Where one activation is another that is turned off at some lines, a run finds what the other finds
at the nodes of the remaining lines. -/
theorem inspectAll_silenced {active narrowed : Activation} {silenced : UInt32 → Bool}
    (narrows : ∀ line, narrowed "no-type-hints" line =
      (active "no-type-hints" line && !silenced line)) (nodes : List Node) :
    (inspectAll narrowed nodes).findings =
      (inspectAll active (nodes.filter fun node => !silenced node.position.line)).findings := by
  rw [inspectAll_findings, inspectAll_findings]
  induction nodes with
  | nil => rfl
  | cons node nodes ih =>
    rw [List.flatMap_cons, List.filter_cons, ih, findings, narrows]
    cases silenced node.position.line with
    | true => simp
    | false => simp [findings]

end Node

namespace Session

variable {base policy : Policy} {actions : List Action}

theorem Extends.findings_eq (grown : Extends base actions policy) (nodes : List Node) :
    policy.findings nodes = base.findings (nodes.filter fun node =>
      !actions.any (Action.silences "no-type-hints" node.position.line)) :=
  Node.inspectAll_silenced (grown.isActive_eq "no-type-hints") nodes

/-- What was added since can only take findings away. -/
theorem Extends.findings_sublist (grown : Extends base actions policy) (nodes : List Node) :
    (policy.findings nodes).Sublist (base.findings nodes) := by
  have fewer : (nodes.filter fun node =>
      !actions.any (Action.silences "no-type-hints" node.position.line)).Sublist nodes :=
    List.filter_sublist
  rw [grown.findings_eq, Policy.findings, Policy.findings, Node.inspectAll_findings,
    Node.inspectAll_findings]
  exact fewer.flatMap _

/-- Where nothing that was added names the rule against hints, the findings stay as they were. -/
theorem Extends.findings_unchanged (grown : Extends base actions policy)
    (unnamed : ∀ action ∈ actions, ∀ line, action.silences "no-type-hints" line = false)
    (nodes : List Node) : policy.findings nodes = base.findings nodes := by
  have all : ∀ node ∈ nodes,
      (!actions.any (Action.silences "no-type-hints" node.position.line)) = true := by
    intro node _
    rw [Bool.not_eq_true', List.any_eq_false]
    intro action listed
    rw [unnamed action listed]
    exact Bool.false_ne_true
  rw [grown.findings_eq, List.filter_eq_self.mpr all]

end Session

namespace Policy

variable {policy : Policy} {key : String} {span : LineSpan}

theorem extends_disable (policy : Policy) (key : String) :
    Session.Extends policy [.disable key] (policy.disable key) :=
  (Session.Extends.refl policy).disable key

theorem extends_disableLines (upright : span.start ≤ span.stop) :
    Session.Extends policy [.disableLines key span] (policy.addSpan key span) :=
  (Session.Extends.refl policy).addSpan (if_pos upright)

theorem findings_disable (named : names key "no-type-hints" = true) (nodes : List Node) :
    (policy.disable key).findings nodes = [] := by
  have none : (nodes.filter fun node => !([Session.Action.disable key].any
      (Session.Action.silences "no-type-hints" node.position.line))) = [] := by
    simp [Session.Action.silences, named]
  rw [(policy.extends_disable key).findings_eq, none]
  rfl

theorem findings_addSpan (named : names key "no-type-hints" = true) (upright : span.start ≤ span.stop)
    (nodes : List Node) :
    (policy.addSpan key span).findings nodes =
      policy.findings (nodes.filter fun node => !span.contains node.position.line) := by
  rw [(extends_disableLines upright).findings_eq]
  simp only [List.any_cons, List.any_nil, Session.Action.silences, named, Bool.true_and,
    Bool.or_false]

/-- Disabling takes away exactly what it names. A span under a key of the rule against hints leaves the
findings of the nodes whose own line lies outside, in their order; the whole rule leaves none; and
under any other key all findings stay. So over any actions that put no other policy in place, of
which each may be refused or not, findings are only lost, and no rule becomes active at a line again.
-/
theorem disabling_takes_findings_away :
    (∀ (policy : Policy) (key : String) (span : LineSpan), span.start ≤ span.stop →
      ∃ changed, policy.disableLines key span = .ok changed ∧ ∀ nodes : List Node,
        ((key = "no-type-hints" ∨ key = "E3107") →
          changed.findings nodes = policy.findings (nodes.filter fun node =>
            ¬ (span.start ≤ node.position.line ∧ node.position.line ≤ span.stop))) ∧
        (¬ (key = "no-type-hints" ∨ key = "E3107") →
          changed.findings nodes = policy.findings nodes)) ∧
    (∀ (policy : Policy) (key : String) (nodes : List Node),
      ((key = "no-type-hints" ∨ key = "E3107") → (policy.disable key).findings nodes = []) ∧
      (¬ (key = "no-type-hints" ∨ key = "E3107") →
        (policy.disable key).findings nodes = policy.findings nodes)) ∧
    ∀ (session : Session) (actions : List Session.Action),
      (∀ action ∈ actions, action.newPolicy? = none) →
      (∀ nodes : List Node, ((session.run actions).1.policy.findings nodes).Sublist
        (session.policy.findings nodes)) ∧
      ∀ rule line, session.policy.isActive rule line = false →
        (session.run actions).1.policy.isActive rule line = false := by
  refine ⟨?_, ?_, ?_⟩
  · intro policy key span upright
    refine ⟨_, disableLines_of_upright upright, fun nodes => ⟨fun named => ?_, fun unnamed => ?_⟩⟩
    · rw [findings_addSpan (names_noTypeHints.mpr named) upright]
      simp only [LineSpan.contains, Bool.decide_and, decide_not]
    · apply (extends_disableLines upright).findings_unchanged
      simp [Session.Action.silences, mt names_noTypeHints.mp unnamed]
  · intro policy key nodes
    refine ⟨fun named => findings_disable (names_noTypeHints.mpr named) nodes, fun unnamed => ?_⟩
    apply (policy.extends_disable key).findings_unchanged
    simp [Session.Action.silences, mt names_noTypeHints.mp unnamed]
  · intro session actions kept
    have grown := session.run_extends_kept kept
    refine ⟨grown.findings_sublist, fun rule line inactive => ?_⟩
    rw [grown.isActive_eq, inactive, Bool.false_and]

/-- A node on line 3 whose hint stands on line 9, and one on the last line there is. -/
def farHints : List Node :=
  [.annotatedAssignment { position := ⟨3, 0⟩, target := "x", hint := some ⟨"int", ⟨9, 0⟩⟩ },
    .assignment { position := ⟨4294967295, 0⟩, targets := ["y"], comment := some ⟨"str", ⟨4, 2⟩⟩ }]

theorem disabling_takes_findings_away_farHints :
    (∃ changed, disableLines {} "E3107" ⟨4, 4294967295⟩ = .ok changed ∧
      changed.findings farHints = [.ofHint .variableAssignment ⟨"int", ⟨9, 0⟩⟩]) ∧
    (disable {} "E3107").findings farHints = [] ∧
    (disable {} "e3107").findings farHints =
      [.ofHint .variableAssignment ⟨"int", ⟨9, 0⟩⟩, .ofHint .variableAssignment ⟨"str", ⟨4, 2⟩⟩] ∧
    ∀ session : Session, ((session.run [.disableLines "no-type-hints" ⟨3, 3⟩, .disable "other",
        .disableLines "E3107" ⟨9, 8⟩]).1.policy.findings farHints).Sublist
      (session.policy.findings farHints) := by
  obtain ⟨spans, keys, runs⟩ := disabling_takes_findings_away
  refine ⟨?_, (keys {} "E3107" farHints).1 (.inr rfl), ?_, fun session => ?_⟩
  · obtain ⟨changed, done, found⟩ := spans {} "E3107" ⟨4, 4294967295⟩ (by decide)
    exact ⟨changed, done, (found farHints).1 (.inr rfl)⟩
  · exact (keys {} "e3107" farHints).2 (by decide)
  · exact (runs session _ (by decide)).1 farHints

end Policy

end HintLint
