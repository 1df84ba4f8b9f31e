import HintLint.Proofs.InspectionTrace
import HintLint.Proofs.NodeRoundTrip
import HintLint.Session

/-!
Where the findings of a session go. An action is a visit, a change of the policy, the emptying of
the sink, or a question. A visit adds to the sink what it would find alone under the policy of that
moment, a visit that cannot be read adds nothing, and no other action adds or alters a finding. So
over a whole run the batches that were taken and what is left in the sink are the findings of the
visits, in order.
-/

namespace HintLint

namespace Session

/-- The nodes that a visit inspects. There are none if its text cannot be read, or if the action is
no visit. -/
def Action.nodes? : Action → Option (List Node)
  | .visit text => (Node.ofText text).toOption.map fun node => [node]
  | .visitAll text => (Node.listOfText text).toOption
  | .visitRecord kind text => (kind.decoder.parse text).toOption.map fun node => [node]
  | _ => none

/-- Whether the action inspects nodes. -/
def Action.isVisit : Action → Bool
  | .visit _ | .visitAll _ | .visitRecord _ _ => true
  | _ => false

/-- Whether the action is a change of the policy. -/
def Action.isChange : Action → Bool
  | .reset | .load _ | .loadUnchecked _ | .disable _ | .disableLines _ _ | .addSpan _ _ => true
  | _ => false

/-- What an action finds alone, into an empty sink, under a policy. -/
def Action.findsAlone (policy : Policy) (action : Action) : List Finding :=
  match action.nodes? with
  | some nodes => (Node.inspectAll policy.isActive nodes).findings
  | none => []

/-- What the actions of a run find, each alone and under the policy that the session holds when its
turn comes. -/
def foundAlone (session : Session) : List Action → List Finding
  | [] => []
  | action :: actions =>
    action.findsAlone session.policy ++ foundAlone (session.step action).1 actions

/-- The findings that a reply hands out. -/
def Reply.batch : Reply → List Finding
  | .taken findings => findings
  | _ => []

/-- All findings after a run: those handed out, batch after batch, and those in the sink. -/
def allFindings (session : Session) (actions : List Action) : List Finding :=
  (session.run actions).2.flatMap Reply.batch ++ (session.run actions).1.findings

/-- Nodes are inspected into the sink as they would be into an empty one. -/
theorem inspect_findings (session : Session) (nodes : List Node) :
    (session.inspect nodes).1.findings =
      session.findings ++ (Node.inspectAll session.policy.isActive nodes).findings := by
  have onto := (Node.visitAll_adds session.policy.isActive { findings := session.findings } nodes).2.1
  have alone := (Node.visitAll_adds session.policy.isActive {} nodes).2.1
  rw [List.nil_append] at alone
  rw [Node.inspectAll, alone]
  exact onto

/-- An action that inspects nothing and leaves the sink alone. The policy stays, too, unless the
action is a change of it. -/
structure KeepsSink (session : Session) (action : Action) : Prop where
  unvisited : action.nodes? = none
  findings : (session.step action).1.findings = session.findings
  policy : action.isChange = false → (session.step action).1.policy = session.policy
  batch : (session.step action).2.batch = []

/-- An action that only answers, and hands out nothing. -/
theorem keepsSink_of_answer {session : Session} {action : Action} {reply : Reply}
    (unvisited : action.nodes? = none) (ran : session.step action = (session, reply))
    (silent : reply.batch = []) : session.KeepsSink action where
  unvisited
  findings := by rw [ran]
  policy := fun _ => by rw [ran]
  batch := by rw [ran, silent]

/-- A visit inspects the nodes that its text holds, or only answers if the text cannot be read. -/
theorem visit_cases {session : Session} {action : Action} {ε α : Type} (read : Except ε α)
    (nodesOf : α → List Node) (refuse : ε → Reply)
    (ran : session.step action =
      match read with
      | .ok a => session.inspect (nodesOf a)
      | .error error => (session, refuse error))
    (visited : action.nodes? = read.toOption.map nodesOf)
    (silent : ∀ error, (refuse error).batch = []) :
    (∃ nodes, action.nodes? = some nodes ∧ session.step action = session.inspect nodes) ∨
      session.KeepsSink action := by
  cases read with
  | ok a => exact .inl ⟨nodesOf a, visited, ran⟩
  | error error => exact .inr (keepsSink_of_answer visited ran (silent error))

/-- What an action can do: inspect nodes, empty the sink, or leave the sink alone. -/
theorem step_cases (session : Session) (action : Action) :
    (∃ nodes, action.nodes? = some nodes ∧ session.step action = session.inspect nodes) ∨
      (action = .take ∧
        session.step action = ({ session with findings := [] }, .taken session.findings)) ∨
      session.KeepsSink action := by
  cases action with
  | take => exact .inr (.inl ⟨rfl, rfl⟩)
  | reset | disable | addSpan => exact .inr (.inr ⟨rfl, rfl, nofun, rfl⟩)
  | showPolicy | isActive => exact .inr (.inr (keepsSink_of_answer rfl rfl rfl))
  | load | loadUnchecked | disableLines =>
    refine .inr (.inr ⟨rfl, ?_, nofun, ?_⟩) <;> simp only [step] <;> split <;> rfl
  | validate =>
    refine .inr (.inr ⟨rfl, ?_, fun _ => ?_, ?_⟩) <;> simp only [step] <;> split <;> rfl
  | visit text =>
    refine (visit_cases (Node.ofText text) (fun node => [node]) .refused ?_ rfl
      fun _ => rfl).imp_right .inr
    rw [step]
    cases Node.ofText text <;> rfl
  | visitAll text =>
    refine (visit_cases (Node.listOfText text) id .refused ?_ Option.map_id_apply.symm
      fun _ => rfl).imp_right .inr
    rw [step]
    cases Node.listOfText text <;> rfl
  | visitRecord kind text =>
    refine (visit_cases (kind.decoder.parse text) (fun node => [node]) .unreadable ?_ rfl
      fun _ => rfl).imp_right .inr
    rw [step]
    cases kind.decoder.parse text <;> rfl

/-- An action with nodes inspects them. -/
theorem step_of_nodes {action : Action} {nodes : List Node} (visited : action.nodes? = some nodes)
    (session : Session) : session.step action = session.inspect nodes := by
  rcases session.step_cases action with ⟨others, same, ran⟩ | ⟨rfl, -⟩ | keeps
  · rw [visited] at same
    cases same
    exact ran
  · cases visited
  · rw [keeps.unvisited] at visited
    cases visited

/-- One action hands out and leaves in the sink what was there and what it finds alone. -/
theorem step_conserves (session : Session) (action : Action) :
    (session.step action).2.batch ++ (session.step action).1.findings =
      session.findings ++ action.findsAlone session.policy := by
  rcases session.step_cases action with ⟨nodes, visited, ran⟩ | ⟨rfl, ran⟩ | keeps
  · rw [ran, Action.findsAlone, visited]
    exact session.inspect_findings nodes
  · rw [ran]
    rfl
  · rw [keeps.batch, keeps.findings, Action.findsAlone, keeps.unvisited]
    exact (List.append_nil _).symm

theorem run_conserves (session : Session) (actions : List Action) :
    session.allFindings actions = session.findings ++ session.foundAlone actions := by
  induction actions generalizing session with
  | nil => simp [allFindings, run, foundAlone]
  | cons action actions ih =>
    have later := ih (session.step action).1
    have now := session.step_conserves action
    calc session.allFindings (action :: actions)
        = (session.step action).2.batch ++ (session.step action).1.allFindings actions := by
          simp only [allFindings, run, List.flatMap_cons, List.append_assoc]
      _ = (session.step action).2.batch ++ (session.step action).1.findings ++
            (session.step action).1.foundAlone actions := by
          rw [later, List.append_assoc]
      _ = session.findings ++ session.foundAlone (action :: actions) := by
          rw [now, foundAlone, List.append_assoc]

/-- An action with nodes finds what an inspection of them finds. -/
theorem foundAlone_of_nodes {action : Action} {nodes : List Node}
    (visited : action.nodes? = some nodes) (session : Session) (actions : List Action) :
    foundAlone session (action :: actions) =
      (Node.inspectAll session.policy.isActive nodes).findings ++
        foundAlone (session.inspect nodes).1 actions := by
  rw [foundAlone, Action.findsAlone, visited, step_of_nodes visited]

theorem foundAlone_append (session : Session) (before after : List Action) :
    session.foundAlone (before ++ after) =
      session.foundAlone before ++ (session.run before).1.foundAlone after := by
  induction before generalizing session with
  | nil => rfl
  | cons action before ih =>
    rw [List.cons_append, foundAlone, foundAlone, ih, run, List.append_assoc]

/-- A visit takes nothing from the policy, and nothing from the session if its text cannot be read.
-/
theorem step_visit (session : Session) {action : Action} (visit : action.isVisit = true) :
    (session.step action).1.policy = session.policy ∧
      (action.nodes? = none → (session.step action).1 = session) := by
  have noChange : action.isChange = false := by cases action <;> first | rfl | cases visit
  rcases session.step_cases action with ⟨nodes, visited, ran⟩ | ⟨rfl, -⟩ | keeps
  · rw [ran]
    exact ⟨rfl, fun unread => by simp [visited] at unread⟩
  · cases visit
  · have policy := keeps.policy noChange
    exact ⟨policy, fun _ => congrArg₂ Session.mk policy keeps.findings⟩

theorem step_change (session : Session) {action : Action} (change : action.isChange = true) :
    (session.step action).1.findings = session.findings := by
  have unvisited : action.nodes? = none := by cases action <;> first | rfl | cases change
  rcases session.step_cases action with ⟨nodes, visited, -⟩ | ⟨rfl, -⟩ | keeps
  · rw [unvisited] at visited
    cases visited
  · cases change
  · exact keeps.findings

/-- Over a run of any actions, the batches handed out and then the sink hold what was in the sink at
first and what each visit finds alone under the policy of its moment, in the order of the visits. A
visit never changes the policy, nor the sink if it cannot be read; a change of the policy never
changes the sink. So what was found before stays as it was, whatever comes after. -/
theorem findings_conserved :
    (∀ session actions,
      (run session actions).2.flatMap Reply.batch ++ (run session actions).1.findings =
        session.findings ++ foundAlone session actions) ∧
    (∀ session action, action.isVisit = true → (step session action).1.policy = session.policy ∧
      (action.nodes? = none → (step session action).1 = session)) ∧
    (∀ session action, action.isChange = true →
      (step session action).1.findings = session.findings) ∧
    ∀ session before after, allFindings session before <+: allFindings session (before ++ after) := by
  refine ⟨run_conserves, fun session _ => session.step_visit, fun session _ => session.step_change, ?_⟩
  intro session before after
  rw [run_conserves, run_conserves, foundAlone_append, ← List.append_assoc]
  exact List.prefix_append _ _

/-- An assignment with a hint. -/
def hintedAssignment : AnnotatedAssignment where
  position := ⟨1, 0⟩
  target := "x"
  hint := some ⟨"int", ⟨1, 3⟩⟩

/-- The assignment as a node. -/
def hinted : Node := .annotatedAssignment hintedAssignment

/-- What is found at it. -/
def hintFinding : Finding := .ofHint .variableAssignment ⟨"int", ⟨1, 3⟩⟩

/-- A visit of the node twice over, in a list. -/
def visitTwice : Action :=
  .visitAll ("[" ++ ",".intercalate ([hinted, hinted].map Node.toText) ++ "]")

/-- A visit of the node. -/
def visitOnce : Action := .visit hinted.toText

/-- A visit of the record without its kind. -/
def visitHintedRecord : Action :=
  .visitRecord .annotatedAssignment (Json.Value.object hintedAssignment.members).toText

/-- The list, the node on a disabled line, and the batch that is taken; then the record under an
inverted span, the node after the rule was disabled, and a text that cannot be read. -/
def visits : List Action := [
  visitTwice,
  .disableLines "no-type-hints" ⟨1, 1⟩,
  visitOnce,
  .take,
  .reset,
  .addSpan "E3107" ⟨5, 1⟩,
  visitHintedRecord,
  .disable "E3107",
  visitOnce,
  .visit "["]

theorem nodes_visitTwice : visitTwice.nodes? = some [hinted, hinted] := by
  have read := Node.listOfText_toText [hinted, hinted]
  rw [visitTwice, Action.nodes?, read]
  rfl

theorem nodes_visitOnce : visitOnce.nodes? = some [hinted] := by
  rw [visitOnce, Action.nodes?, hinted.ofText_toText]
  rfl

theorem nodes_visitHintedRecord : visitHintedRecord.nodes? = some [hinted] := by
  have parsed : Json.Value.parse (Json.Value.object hintedAssignment.members).toText = _ :=
    Json.parse_toText (hintedAssignment.members_legible _)
  have read := (AnnotatedAssignment.agrees.map Node.annotatedAssignment).parse_complete parsed
    trivial ((Node.Kind.reads .annotatedAssignment _ _).mpr ⟨rfl, _, rfl, hinted.in_members⟩)
  rw [visitHintedRecord, Action.nodes?]
  exact congrArg (fun read => read.toOption.map fun node => [node]) read

theorem foundAlone_visits :
    foundAlone {} visits = [hintFinding, hintFinding, hintFinding] := by
  rw [visits, foundAlone_of_nodes nodes_visitTwice, foundAlone,
    foundAlone_of_nodes nodes_visitOnce, foundAlone, foundAlone, foundAlone,
    foundAlone_of_nodes nodes_visitHintedRecord, foundAlone, foundAlone_of_nodes nodes_visitOnce]
  rfl

theorem findings_conserved_visits :
    (run {} visits).2.flatMap Reply.batch ++ (run {} visits).1.findings =
      [hintFinding, hintFinding, hintFinding] ∧
    (∀ session, (step session visitTwice).1.policy = session.policy) ∧
    (∀ session, (step session (.visit "[")).1 = session) ∧
    (∀ session, (step session .reset).1.findings = session.findings) ∧
    (∀ session, (step session (.addSpan "E3107" ⟨5, 1⟩)).1.findings = session.findings) ∧
    allFindings {} (visits.take 1) <+: allFindings {} visits := by
  obtain ⟨conserved, visited, changed, kept⟩ := findings_conserved
  refine ⟨?_, fun session => (visited session visitTwice rfl).1, fun session => ?_,
    fun session => changed session .reset rfl, fun session => changed session (.addSpan ..) rfl,
    kept {} (visits.take 1) _⟩
  · rw [conserved, foundAlone_visits]
    rfl
  · exact (visited session (.visit "[") rfl).2 rfl

end Session

end HintLint
