import HintLint.Inspection

/-!
A session: a policy that can be changed and a sink that collects findings. Each action gives a
reply; an action that is refused leaves the session as it was. Findings stay in the sink until they
are taken, whatever happens to the policy.
-/

namespace HintLint

open Json

/-- The state of a session. -/
structure Session where
  policy : Policy := {}
  findings : List Finding := []
deriving DecidableEq

namespace Session

/-- What can be done in a session. -/
inductive Action where
  /-- Goes back to the empty policy. -/
  | reset
  /-- Takes a valid policy from text. -/
  | load (text : String)
  /-- Takes a policy from text, valid or not. -/
  | loadUnchecked (text : String)
  | disable (key : String)
  | disableLines (key : String) (span : LineSpan)
  /-- Adds a span that may be inverted. -/
  | addSpan (key : String) (span : LineSpan)
  | showPolicy
  | validate
  | isActive (rule : String) (line : UInt32)
  /-- Inspects a node from text. -/
  | visit (text : String)
  /-- Inspects a list of nodes from text. -/
  | visitAll (text : String)
  /-- Inspects a record from text that does not name its kind. -/
  | visitRecord (kind : Node.Kind) (text : String)
  /-- Empties the sink. -/
  | take
deriving DecidableEq

/-- What an action answers. -/
inductive Reply where
  | policy (policy : Policy)
  | valid
  | active (answer : Bool)
  /-- What was inspected, and the size of the sink afterwards. -/
  | visited (trace : Trace) (total : Nat)
  | taken (findings : List Finding)
  | refused (error : Error)
  /-- A text without the form that was asked for. -/
  | unreadable (error : Json.Error)
deriving DecidableEq

/-- The session with another policy, and the policy as the reply. -/
def withPolicy (session : Session) (policy : Policy) : Session × Reply :=
  ({ session with policy }, .policy policy)

/-- Inspects nodes under the policy of the session, into its sink. The reply holds what has come to
the sink since. -/
def inspect (session : Session) (nodes : List Node) : Session × Reply :=
  let trace := Node.visitAll session.policy.isActive { findings := session.findings } nodes
  let added := trace.findings.drop session.findings.length
  ({ session with findings := trace.findings },
    .visited { trace with findings := added } trace.findings.length)

/-- One action. -/
def step (session : Session) : Action → Session × Reply
  | .reset => session.withPolicy {}
  | .load text =>
    match Policy.ofText text with
    | .ok policy => session.withPolicy policy
    | .error error => (session, .refused error)
  | .loadUnchecked text =>
    match Policy.parse text with
    | .ok policy => session.withPolicy policy
    | .error error => (session, .unreadable error)
  | .disable key => session.withPolicy (session.policy.disable key)
  | .disableLines key span =>
    match session.policy.disableLines key span with
    | .ok policy => session.withPolicy policy
    | .error error => (session, .refused error)
  | .addSpan key span => session.withPolicy (session.policy.addSpan key span)
  | .showPolicy => (session, .policy session.policy)
  | .validate =>
    match session.policy.validate with
    | .ok () => (session, .valid)
    | .error error => (session, .refused error)
  | .isActive rule line => (session, .active (session.policy.isActive rule line))
  | .visit text =>
    match Node.ofText text with
    | .ok node => session.inspect [node]
    | .error error => (session, .refused error)
  | .visitAll text =>
    match Node.listOfText text with
    | .ok nodes => session.inspect nodes
    | .error error => (session, .refused error)
  | .visitRecord kind text =>
    match kind.decoder.parse text with
    | .ok node => session.inspect [node]
    | .error error => (session, .unreadable error)
  | .take => ({ session with findings := [] }, .taken session.findings)

/-- Actions in order: the session after them, and their replies. -/
def run (session : Session) : List Action → Session × List Reply
  | [] => (session, [])
  | action :: actions =>
    let (next, reply) := session.step action
    let (last, replies) := next.run actions
    (last, reply :: replies)

/-- A run can be taken up where it was left. -/
theorem run_append (session : Session) (before after : List Action) :
    session.run (before ++ after) =
      (((session.run before).1.run after).1,
        (session.run before).2 ++ ((session.run before).1.run after).2) := by
  induction before generalizing session with
  | nil => rfl
  | cons action before ih => simp only [List.cons_append, run, ih]

end Session

end HintLint
