import HintLint.Inspection
import HintLint.Log.Filter
import HintLint.Text.Terminal

/-!
The log of an inspection. The first configuration that is installed decides on threshold and format,
and later ones are not installed. Each event that passes the threshold gives one line. A line of
text is made for a terminal, a record holds the message as it is.
-/

namespace HintLint.Log

open Json

/-- What is printed for one event, up to the line break that ends it. The lines of a log are counted
by events: a text holds the line breaks of a hint's source as they stand, so a reader who counts line
breaks finds more lines than events, while a record is written without any. -/
inductive Line where
  | text (line : String)
  | json (line : Value)

end HintLint.Log

namespace HintLint.Event

open Json Log

/-- The severity of an event. -/
def level : Event → Level
  | skipped _ _ => .debug
  | reported _ _ => .trace

/-- An event in words. -/
def message : Event → String
  | skipped line kind =>
    Message.noTypeHints.symbol ++ " disabled at line " ++ toString line.toNat ++ ", skipping " ++
      kind.tag ++ " node"
  | reported _ hint => "type hint `" ++ hint.source ++ "`"

/-- A skipped node is named by rule, line and kind. -/
theorem message_skipped (line : UInt32) (kind : Node.Kind) :
    (skipped line kind).message =
      "no-type-hints disabled at line " ++ toString line.toNat ++ ", skipping " ++ kind.tag ++
        " node" :=
  rfl

/-- A hint is shown by its source. -/
theorem message_reported (site : Site) (hint : Hint) :
    (reported site hint).message = "type hint `" ++ hint.source ++ "`" :=
  rfl

/-- What an event carries besides its message. -/
def fields : Event → List (String × Value)
  | skipped _ _ => []
  | reported site hint => ("site", .string site.text) :: hint.position.members

/-- A hint carries its site in words, and its own position. -/
theorem fields_reported (site : Site) (hint : Hint) :
    (reported site hint).fields =
      [("site", .string site.text), ("line", .ofWord hint.position.line),
        ("col", .ofWord hint.position.column)] :=
  rfl

/-- The names of all fields of an event. The message is one of them. -/
def fieldNames (event : Event) : List String := "message" :: event.fields.map Prod.fst

/-- A field in a line of text. -/
def fieldText (field : String × Value) : String :=
  field.1 ++ "=" ++
    match field.2 with
    | .string text => Text.quoted text
    | value => value.toText

/-- The line of an event. -/
def line (format : Format) (event : Event) : Line :=
  match format with
  | .text =>
    .text (" ".intercalate
      (event.level.label :: Text.forTerminal event.message :: event.fields.map fieldText))
  | .json =>
    .json (.object [
      ("level", .string event.level.label),
      ("fields", .object (("message", .string event.message) :: event.fields))])

/-- A record has two members: the level, and the message with the fields behind it. -/
theorem line_json (event : Event) :
    event.line .json =
      .json (.object [
        ("level", .string event.level.label),
        ("fields", .object (("message", .string event.message) :: event.fields))]) :=
  rfl

end HintLint.Event

namespace HintLint.Log

/-- A logger. It prints nothing before a configuration is installed. -/
structure Logger where
  /-- What the environment asks for. -/
  override : Option String := none
  /-- The configuration that is installed. -/
  config : Option Config := none
deriving DecidableEq

namespace Logger

/-- Installs a configuration unless there is one, and says whether it did. -/
def install (logger : Logger) (config : Config) : Logger × Bool :=
  match logger.config with
  | some _ => (logger, false)
  | none => ({ logger with config := some config }, true)

/-- Installs configurations in order. -/
def installAll (logger : Logger) : List Config → Logger × List Bool
  | [] => (logger, [])
  | config :: configs =>
    let (next, installed) := logger.install config
    let (last, answers) := next.installAll configs
    (last, installed :: answers)

/-- The line printed for an event, if there is one. -/
def print (logger : Logger) (event : Event) : Option Line :=
  match logger.config with
  | none => none
  | some config =>
    if (effective logger.override config event.fieldNames).admits event.level then
      some (event.line config.format)
    else none

/-- The lines printed for events. -/
def printAll (logger : Logger) (events : List Event) : List Line := events.filterMap logger.print

end Logger

/-- What a run that logs leaves behind. -/
structure Outcome where
  /-- Of each configuration, whether it was installed. -/
  installed : List Bool
  findings : List Finding
  lines : List Line

/-- Installs configurations in order and then inspects nodes, one after the other, from an empty
sink. -/
def Logger.run (logger : Logger) (configs : List Config) (active : Activation)
    (nodes : List Node) : Outcome :=
  let (last, installed) := logger.installAll configs
  let trace := Node.inspectAll active nodes
  { installed, findings := trace.findings, lines := last.printAll trace.events }

end HintLint.Log
