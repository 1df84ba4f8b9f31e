import HintLint.Json.Writer

/-!
The messages that a checker can report, and the registration of the checker itself. A message has a
code and a symbol, by either of which it can be looked up, and a template in which the place of the
offence is filled in.
-/

namespace HintLint

open Json

/-- The template with each placeholder replaced, from left to right. What is put in is not searched
again. -/
def fillTemplate (site : List Char) : List Char → List Char
  | '{' :: 's' :: 'i' :: 't' :: 'e' :: '}' :: rest => site ++ fillTemplate site rest
  | c :: rest => c :: fillTemplate site rest
  | [] => []

/-- A message that a checker can report. -/
structure Message where
  code : String
  symbol : String
  template : String
  description : String
deriving DecidableEq

namespace Message

/-- The message for one site. -/
def render (message : Message) (site : String) : String :=
  String.ofList (fillTemplate site.toList message.template.toList)

/-- A message as a record. -/
def toValue (message : Message) : Value :=
  .object [
    ("msgid", .string message.code),
    ("symbol", .string message.symbol),
    ("template", .string message.template),
    ("description", .string message.description)]

/-- The message for a type hint. -/
def noTypeHints : Message where
  code := "E3107"
  symbol := "no-type-hints"
  template := "Type hints are banned in \x7bsite\x7d"
  description := "Type hints are banned, walk like a duck"

end Message

/-- The registration of a checker. -/
structure Checker where
  name : String
  /-- Checkers with a lower priority run later. -/
  priority : Int
  messages : List Message
deriving DecidableEq

namespace Checker

/-- The first message whose symbol or code is the key. -/
def message? (checker : Checker) (key : String) : Option Message :=
  checker.messages.find? fun message => message.symbol = key ∨ message.code = key

/-- A registration as a record. -/
def toValue (checker : Checker) : Value :=
  .object [
    ("name", .string checker.name),
    ("priority", .number (.integer checker.priority)),
    ("messages", .array (checker.messages.map Message.toValue))]

/-- The checker that bans type hints. -/
def typeHints : Checker where
  name := "quacking"
  priority := -1
  messages := [.noTypeHints]

end Checker

end HintLint
