import HintLint.Json.Pair

/-!
Configuration of the log: the least level that is printed and the form of the lines. Both have
defaults, and a text that leaves one out means the default.
-/

namespace HintLint.Log

open Json

/-- The severity of a log event. -/
inductive Level where
  | trace
  | debug
  | info
  | warn
  | error
deriving DecidableEq

namespace Level

/-- All levels, from the least severe on. -/
def all : List Level := [trace, debug, info, warn, error]

/-- The place of a level among all levels. -/
def severity : Level → Nat
  | trace => 0
  | debug => 1
  | info => 2
  | warn => 3
  | error => 4

/-- The name of a level. -/
def name : Level → String
  | trace => "trace"
  | debug => "debug"
  | info => "info"
  | warn => "warn"
  | error => "error"

/-- The name of a level in front of a log line. -/
def label : Level → String
  | trace => "TRACE"
  | debug => "DEBUG"
  | info => "INFO"
  | warn => "WARN"
  | error => "ERROR"

/-- A level as its name. -/
def toValue (level : Level) : Value := .string level.name

/-- The shape of a level. -/
def decoder : Decoder Level := .name (all.map fun level => (level.name, level))

end Level

/-- The form of a log line. -/
inductive Format where
  | text
  | json
deriving DecidableEq

namespace Format

/-- The name of a format. -/
def name : Format → String
  | text => "text"
  | json => "json"

/-- A format as its name. -/
def toValue (format : Format) : Value := .string format.name

/-- The shape of a format. -/
def decoder : Decoder Format := .name [(text.name, text), (json.name, json)]

end Format

/-- What to log, and how. -/
structure Config where
  level : Level := .warn
  format : Format := .text
deriving DecidableEq

namespace Config

/-- A configuration as a record. -/
def toValue (config : Config) : Value :=
  .object [("level", config.level.toValue), ("format", config.format.toValue)]

/-- Reads a configuration. What is left out has its default. -/
def read : Reader Config := fun levels text => do
  let ((level, format), rest) ← readPair "LogConfig"
    ⟨"level", Level.decoder.read, some ({} : Config).level⟩
    ⟨"format", Format.decoder.read, some ({} : Config).format⟩ levels text
  return (⟨level, format⟩, rest)

end Config

end HintLint.Log
