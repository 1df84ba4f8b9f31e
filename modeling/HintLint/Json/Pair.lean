import HintLint.Json.Record
import HintLint.Json.Skip

/-!
Plain pairs: records of two parts that are read from text only. A pair is written as an object or as
a list of its parts in order. A part may have a substitute for when it is left out. Other members of
an object are passed over without being read.
-/

namespace HintLint.Json

/-- One part of a plain pair. -/
structure Part (α : Type) where
  name : String
  read : Reader α
  /-- What stands for a part that is left out, if it may be. -/
  substitute : Option α

namespace Part

variable {α : Type}

/-- The value of a part of an object. -/
def settle (part : Part α) (value : Option α) : Except Mismatch α :=
  required part.name (value <|> part.substitute)

/-- The value of a part of a list, which has some elements before it. -/
def settleListed (part : Part α) (title : String) (before : Nat) (value : Option α) :
    Except Mismatch α :=
  match value <|> part.substitute with
  | some a => .ok a
  | none => .error (.invalidLength before title 2)

/-- Reads the value of a member into a part that has none yet. -/
def fill (part : Part α) (levels : Nat) (value : Option α) (text : Unread) :
    Except Failure (Option α × Unread) :=
  if value.isSome then .error (.unplaced (.duplicateField part.name) text)
  else do
    let (a, rest) ← part.read levels (← colon text)
    return (some a, rest)

/-- Reads the value of a part at its place in a list, if the list goes on. -/
def next (part : Part α) (levels : Nat) (first : Bool) (text : Unread) :
    Except Failure (Option α × Unread) := do
  let (more, text) ← nextElement first text
  if more then
    let (a, rest) ← part.read levels text
    return (some a, rest)
  else return (none, text)

end Part

/-- Reads a member of an object into one of two parts. Other members are passed over. -/
def visitPart {α β : Type} (left : Part α) (right : Part β) (levels : Nat)
    (parts : Option α × Option β) (key : String) (text : Unread) :
    Except Failure ((Option α × Option β) × Unread) :=
  if key = left.name then do
    let (a, rest) ← left.fill levels parts.1 text
    return ((a, parts.2), rest)
  else if key = right.name then do
    let (b, rest) ← right.fill levels parts.2 text
    return ((parts.1, b), rest)
  else do return (parts, ← skip (← colon text))

/-- Reads two parts as the members of an object. -/
def readMemberPair {α β : Type} (left : Part α) (right : Part β) : Reader (α × β) :=
  fun levels text => do
    let ((a, b), rest) ← members (visitPart left right levels) (none, none) text
    let a ← atEnd (left.settle a) rest
    let b ← atEnd (right.settle b) rest
    return ((a, b), rest)

/-- Reads two parts as the elements of a list. -/
def readListedPair {α β : Type} (title : String) (left : Part α) (right : Part β) :
    Reader (α × β) := fun levels text => do
  let (a, rest) ← left.next levels true text
  let leftOut := a.isNone
  let a ← atEnd (left.settleListed title 0 a) rest
  let (b, rest) ← right.next levels leftOut rest
  let b ← atEnd (right.settleListed title 1 b) rest
  return ((a, b), rest)

/-- Reads a plain pair, as an object or as a list. -/
def readPair {α β : Type} (title : String) (left : Part α) (right : Part β) : Reader (α × β) :=
  fun levels text =>
    match blank text with
    | '[' :: rest => bracketed closeList (readListedPair title left right) levels ('[' :: rest)
    | '{' :: rest => bracketed closeObject (readMemberPair left right) levels ('{' :: rest)
    | rest => .error (mistyped (.record title) rest)

end HintLint.Json
