import HintLint.Log.Directive

/-!
Which events of an inspection are printed. The level of the configuration counts unless the
environment overrides it. An override is a list of directives; of those that apply to an event the
most specific one counts, and of several equally specific ones the last. An override that cannot be
read is as good as none.
-/

namespace HintLint.Log

/-- The target under which inspections are logged. -/
def target : List Char := "quacking_python::checker".toList

/-- The parts of a list between separators. -/
def splitAt (separator : Char) : List Char → List (List Char)
  | [] => [[]]
  | c :: rest =>
    if c = separator then [] :: splitAt separator rest
    else
      match splitAt separator rest with
      | part :: parts => (c :: part) :: parts
      | [] => [[c]]

/-- Reads the directives of an override, separated by commas; none if one of them is no
directive. -/
def directives? (override : String) : Option (List Directive) :=
  ((splitAt ',' override.toList).filter (!·.isEmpty)).mapM Directive.ofChars?

/-- The threshold of a list of directives for an event of an inspection with the given fields. An
empty list prints errors only. -/
def thresholdOf (directives : List Directive) (fields : List String) : Threshold :=
  if directives.isEmpty then some .error
  else
    ((directives.filter (Directive.applies target fields)).foldl Directive.prefer none).bind
      Directive.threshold

/-- The threshold that holds for an event with the given fields: that of the override if it can be
read, else that of the configuration. -/
def effective (override : Option String) (config : Config) (fields : List String) : Threshold :=
  match override.bind directives? with
  | some directives => thresholdOf directives fields
  | none => some config.level

end HintLint.Log
