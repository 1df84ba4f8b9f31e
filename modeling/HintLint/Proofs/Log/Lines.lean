import HintLint.Proofs.DefinitionKinds
import HintLint.Proofs.Log.LineText
import HintLint.Proofs.Log.Override

/-!
What a run prints. Only the first configuration is installed, so it alone decides on the format and,
unless there is an override, on the threshold. The lines are those of the events that the threshold
admits, in the order in which the events were logged: under the laxest threshold all of them, under
the next one the skipped nodes, and otherwise none. There is one line for each event, and its words
are those of the event in the format of the configuration. A stricter threshold only leaves lines
out. What is found does not depend on any of this.
-/

namespace HintLint.Log

namespace Threshold

/-- How strict a threshold is: the least severity that it admits, or more than any if it admits
nothing. -/
def strictness : Threshold → Nat
  | some level => level.severity
  | none => Level.all.length

theorem admits_eq (threshold : Threshold) (level : Level) :
    threshold.admits level = decide (threshold.strictness ≤ level.severity) := by
  cases threshold with
  | none => cases level <;> rfl
  | some least => rfl

/-- A stricter threshold admits less. -/
theorem admits_of_strictness_le {lax strict : Threshold} (le : lax.strictness ≤ strict.strictness)
    {level : Level} (admitted : strict.admits level = true) : lax.admits level = true := by
  rw [admits_eq, decide_eq_true_eq] at admitted ⊢
  exact Nat.le_trans le admitted

end Threshold

namespace Logger

/-- Once a configuration is installed, no other one is. -/
theorem installAll_of_installed {logger : Logger} {config : Config}
    (installed : logger.config = some config) (configs : List Config) :
    logger.installAll configs = (logger, configs.map fun _ => false) := by
  induction configs with
  | nil => rfl
  | cons next configs ih => simp only [installAll, install, installed, ih, List.map_cons]

theorem installAll_cons (override : Option String) (first : Config) (later : List Config) :
    Logger.installAll { override } (first :: later) =
      ({ override, config := some first }, true :: later.map fun _ => false) := by
  have rest : Logger.installAll { override, config := some first } later = _ :=
    installAll_of_installed rfl later
  simp only [installAll, install, rest]

/-- A logger prints the events that the threshold admits. -/
theorem printAll_eq (override : Option Override) (config : Config) (events : List Event) :
    Logger.printAll { override := override.map Override.text, config := some config } events =
      (events.filter fun event =>
        (thresholdUnder override config.level).admits event.level).map
          (eventLine config.format) := by
  induction events with
  | nil => rfl
  | cons event events ih =>
    rw [printAll] at ih ⊢
    rw [List.filterMap_cons, List.filter_cons, ih]
    simp only [print, effective_text, line_eq_eventLine]
    cases (thresholdUnder override config.level).admits event.level <;> rfl

end Logger

/-! The lines of the events that a threshold admits. -/

/-- The events that a threshold admits of what is logged about nodes, in the order in which it is
logged. -/
def admittedEvents (threshold : Threshold) (active : Activation) (nodes : List Node) : List Event :=
  ((nodes.flatMap (Node.log active)).filter fun logged => threshold.admits logged.1).map Prod.snd

/-- The lines of these events. -/
def admittedLines (threshold : Threshold) (format : Format) (active : Activation)
    (nodes : List Node) : List Line :=
  (admittedEvents threshold active nodes).map (eventLine format)

section Admitted

variable (format : Format) (active : Activation) (nodes : List Node)

/-- The laxest threshold admits a line for each skipped node and each finding. -/
theorem admittedLines_trace :
    admittedLines (some .trace) format active nodes = nodes.flatMap fun node =>
      if active "no-type-hints" node.position.line then
        (node.findings active).map fun finding => hintLine format finding.site finding.hint
      else [skippedLine format node.position.line node.kind] := by
  have admitted : ∀ level, Threshold.admits (some .trace) level = true := by
    intro level
    cases level <;> rfl
  have all : (nodes.flatMap (Node.log active)).filter
      (fun logged => Threshold.admits (some .trace) logged.1) = nodes.flatMap (Node.log active) :=
    List.filter_eq_self.mpr fun logged _ => admitted logged.1
  rw [admittedLines, admittedEvents, all, List.map_flatMap, List.map_flatMap]
  congr 1
  funext node
  rw [Node.log, Node.findings]
  split <;> simp [eventLine]

variable {active nodes} in
theorem level_of_log {logged : Level × Event}
    (listed : logged ∈ nodes.flatMap (Node.log active)) :
    logged.1 = .trace ∨ logged.1 = .debug := by
  obtain ⟨node, -, share⟩ := List.mem_flatMap.mp listed
  rw [Node.log] at share
  split at share
  · obtain ⟨hint, -, rfl⟩ := List.mem_map.mp share
    exact .inl rfl
  · rw [List.mem_singleton.mp share]
    exact .inr rfl

/-- The next one admits a line for each skipped node. -/
theorem admittedLines_debug :
    admittedLines (some .debug) format active nodes =
      (nodes.filter fun node => !active "no-type-hints" node.position.line).map fun node =>
        skippedLine format node.position.line node.kind := by
  have logged : (Node.visitAll active {} nodes).log = nodes.flatMap (Node.log active) :=
    (Node.visitAll_adds active {} nodes).2.2
  have skipped := Node.visitAll_loggedAt_debug active [] nodes
  rw [Trace.loggedAt, logged] at skipped
  have admitted : ∀ logged ∈ nodes.flatMap (Node.log active),
      Threshold.admits (some .debug) logged.1 = decide (logged.1 = .debug) := by
    intro logged listed
    rcases level_of_log listed with level | level <;> rw [level] <;> rfl
  rw [admittedLines, admittedEvents, List.filter_congr admitted, skipped, List.map_map]
  rfl

/-- Every other threshold admits none. -/
theorem admittedLines_of_above {threshold : Threshold} (notTrace : threshold ≠ some .trace)
    (notDebug : threshold ≠ some .debug) : admittedLines threshold format active nodes = [] := by
  have refused : threshold.admits .trace = false ∧ threshold.admits .debug = false := by
    cases threshold with
    | none => exact ⟨rfl, rfl⟩
    | some level =>
      cases level with
      | trace => exact absurd rfl notTrace
      | debug => exact absurd rfl notDebug
      | info | warn | error => exact ⟨rfl, rfl⟩
  rw [admittedLines, admittedEvents, List.map_eq_nil_iff, List.map_eq_nil_iff,
    List.filter_eq_nil_iff]
  intro logged listed
  rcases level_of_log listed with level | level <;> simp [level, refused]

/-- A stricter threshold leaves out lines and does nothing else. -/
theorem admittedLines_sublist {lax strict : Threshold} (le : lax.strictness ≤ strict.strictness) :
    (admittedLines strict format active nodes).Sublist
      (admittedLines lax format active nodes) := by
  apply List.Sublist.map
  apply List.Sublist.map
  exact List.monotone_filter_right _ fun _ admitted => Threshold.admits_of_strictness_le le admitted

end Admitted

/-! Runs. -/

/-- What a process leaves behind that starts with an override, installs configurations and then
inspects nodes. -/
def freshRun (override : Option Override) (configs : List Config) (active : Activation)
    (nodes : List Node) : Outcome :=
  Logger.run { override := override.map Override.text } configs active nodes

section Run

variable (override : Option Override) (first : Config) (later : List Config) (active : Activation)
  (nodes : List Node)

theorem freshRun_installed :
    (freshRun override (first :: later) active nodes).installed =
      true :: later.map fun _ => false := by
  rw [freshRun, Logger.run, Logger.installAll_cons]

theorem freshRun_lines :
    (freshRun override (first :: later) active nodes).lines =
      admittedLines (thresholdUnder override first.level) first.format active nodes := by
  have logged : (Node.inspectAll active nodes).log = nodes.flatMap (Node.log active) :=
    (Node.visitAll_adds active {} nodes).2.2
  rw [admittedLines, admittedEvents, ← logged, Trace.log, List.filter_map, List.map_map, freshRun,
    Logger.run, Logger.installAll_cons]
  exact (Logger.printAll_eq override first _).trans (by simp [Function.comp_def])

theorem freshRun_findings (configs : List Config) :
    (freshRun override configs active nodes).findings = nodes.flatMap (Node.findings active) :=
  (Node.visitAll_adds active {} nodes).2.1

end Run

/-- In a fresh process the first configuration is installed and no later one. A run prints the lines,
in the format of that configuration, of the events that the threshold admits, which is that of the
override if it can be read and else that of the configuration. These are a line for each skipped node
and each finding under the laxest threshold, a line for each skipped node under the next one, and
none otherwise. Inside a line there are the line breaks of the source that a text shows, and no
others. In one format a stricter threshold only leaves lines out, and what is found is the same under
all overrides and configurations. -/
theorem first_config_decides_lines (override : Option Override) (first : Config)
    (later : List Config) (active : Activation) (nodes : List Node) :
    let outcome := freshRun override (first :: later) active nodes
    let threshold := thresholdUnder override first.level
    outcome.installed = true :: later.map (fun _ => false) ∧
    outcome.lines = (admittedEvents threshold active nodes).map (eventLine first.format) ∧
    (threshold = some .trace → outcome.lines = nodes.flatMap fun node =>
      if active "no-type-hints" node.position.line then
        (node.findings active).map fun finding => hintLine first.format finding.site finding.hint
      else [skippedLine first.format node.position.line node.kind]) ∧
    (threshold = some .debug → outcome.lines =
      (nodes.filter fun node => !active "no-type-hints" node.position.line).map fun node =>
        skippedLine first.format node.position.line node.kind) ∧
    (threshold ≠ some .trace → threshold ≠ some .debug → outcome.lines = []) ∧
    outcome.lines.map (·.chars.count '\n') =
      (admittedEvents threshold active nodes).map (breaks first.format) ∧
    (∀ (another : Option Override) (start : Config) (rest : List Config),
      start.format = first.format →
      threshold.strictness ≤ (thresholdUnder another start.level).strictness →
      (freshRun another (start :: rest) active nodes).lines.Sublist outcome.lines) ∧
    ∀ (another : Option Override) (configs : List Config),
      (freshRun another configs active nodes).findings = outcome.findings := by
  intro outcome threshold
  have lines : outcome.lines = admittedLines threshold first.format active nodes :=
    freshRun_lines override first later active nodes
  refine ⟨freshRun_installed .., lines, ?_, ?_, ?_, ?_, ?_, ?_⟩
  · intro all
    rw [lines, all, admittedLines_trace]
  · intro most
    rw [lines, most, admittedLines_debug]
  · intro notTrace notDebug
    rw [lines, admittedLines_of_above _ _ _ notTrace notDebug]
  · rw [lines, admittedLines, List.map_map]
    exact List.map_congr_left fun event _ => count_eventLine first.format event
  · intro another start rest format stricter
    rw [lines, freshRun_lines, format]
    exact admittedLines_sublist _ _ _ stricter
  · intro another configs
    rw [freshRun_findings, freshRun_findings]

/-- The path to the linter. -/
def linterPath : Path := ⟨"quacking_python".toList, by decide, by decide⟩

/-- One level for everything and another one for the linter. -/
def quietOutside : Override where
  clauses := [
    .everywhere (some .info) "info".toList (.word rfl) (by decide),
    .under linterPath (some .debug) "Debug".toList (.word rfl)]

/-- A level by its number. -/
def allLevels : Override where
  clauses := [.everywhere (some .trace) "5".toList
    (.count ['5'] (.inl rfl) (by decide) (by decide) (by decide)) (by decide)]

theorem level_not_spelled (threshold : Threshold) : ¬ threshold.Spelled "level".toList := by
  rintro (letters | ⟨digits, signed, nonempty, decimal, -⟩)
  · rcases threshold with _ | _ | _ | _ | _ | _ <;> exact absurd letters (by decide)
  · rcases signed with rfl | signed
    · exact absurd decimal (by decide)
    · cases signed

/-- A level that is none. -/
def bogusLevel : Override where
  clauses := [.garbled ⟨"bogus".toList, by decide, by decide⟩ "level".toList (by decide)
    level_not_spelled (by decide)]

/-- An assignment without a hint and one with a hint over two lines. -/
def twoAssignments : List Node := [
  .assignment { position := ⟨2, 0⟩, targets := ["a"] },
  .annotatedAssignment {
    position := ⟨3, 0⟩, target := "b", hint := some ⟨"list[\n  int]", ⟨3, 3⟩⟩ }]

theorem first_config_decides_lines_twoAssignments :
    (quietOutside.text = "info,quacking_python=Debug" ∧
      thresholdUnder (some quietOutside) .error = some .debug ∧
      (freshRun (some quietOutside) [⟨.error, .text⟩, ⟨.trace, .json⟩] (fun _ line => line == 3)
        twoAssignments).lines =
          [.text "DEBUG no-type-hints disabled at line 2, skipping assign node"]) ∧
    (thresholdUnder none .trace = some .trace ∧
      (freshRun none [⟨.trace, .text⟩, ⟨.error, .json⟩] (fun _ line => line == 3)
        twoAssignments).lines = [
          .text "DEBUG no-type-hints disabled at line 2, skipping assign node",
          .text ("TRACE type hint `list[\n  int]` site=\"variable assignments\" line=3 col=3")] ∧
      (freshRun none [⟨.trace, .text⟩, ⟨.error, .json⟩] (fun _ line => line == 3)
        twoAssignments).lines.map (·.chars.count '\n') = [0, 1]) ∧
    (allLevels.text = "5" ∧ thresholdUnder (some allLevels) .error = some .trace ∧
      (freshRun (some allLevels) [⟨.error, .json⟩, ⟨.debug, .text⟩] (fun _ line => line == 3)
        twoAssignments).lines = [
          .json (.object [
            ("level", .string "DEBUG"),
            ("fields", .object [
              ("message", .string "no-type-hints disabled at line 2, skipping assign node")])]),
          .json (.object [
            ("level", .string "TRACE"),
            ("fields", .object [
              ("message", .string "type hint `list[\n  int]`"),
              ("site", .string "variable assignments"),
              ("line", .number (.integer 3)),
              ("col", .number (.integer 3))])])]) ∧
    (bogusLevel.text = "bogus=level" ∧ thresholdUnder (some bogusLevel) .warn ≠ some .trace ∧
      thresholdUnder (some bogusLevel) .warn ≠ some .debug ∧
      (freshRun (some bogusLevel) [{}, ⟨.trace, .json⟩] (fun _ line => line == 3)
        twoAssignments).lines = []) ∧
    (freshRun none [⟨.debug, .text⟩] (fun _ line => line == 3) twoAssignments).lines.Sublist
      (freshRun (some allLevels) [{}] (fun _ line => line == 3) twoAssignments).lines := by
  refine ⟨⟨by decide, by decide, ?_⟩, ⟨rfl, ?_, ?_⟩, ⟨by decide, by decide, ?_⟩,
    ⟨by decide, by decide, by decide, ?_⟩, ?_⟩
  · exact (first_config_decides_lines (some quietOutside) ⟨.error, .text⟩ [⟨.trace, .json⟩] _
      twoAssignments).2.2.2.1 (by decide)
  · exact (first_config_decides_lines none ⟨.trace, .text⟩ [⟨.error, .json⟩] _
      twoAssignments).2.2.1 rfl
  · exact (first_config_decides_lines none ⟨.trace, .text⟩ [⟨.error, .json⟩] _
      twoAssignments).2.2.2.2.2.1
  · exact (first_config_decides_lines (some allLevels) ⟨.error, .json⟩ [⟨.debug, .text⟩] _
      twoAssignments).2.2.1 (by decide)
  · exact (first_config_decides_lines (some bogusLevel) {} [⟨.trace, .json⟩] _
      twoAssignments).2.2.2.2.1 (by decide) (by decide)
  · exact (first_config_decides_lines (some allLevels) {} [] _ twoAssignments).2.2.2.2.2.2.1 none
      ⟨.debug, .text⟩ [] rfl (by decide)

end HintLint.Log
