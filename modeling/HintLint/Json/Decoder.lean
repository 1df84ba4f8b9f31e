import HintLint.Json.Reader

/-!
Shapes of JSON data. A `Decoder` knows a shape in two ways: how it is read from text, with failures
placed where the text goes wrong, and how it is read off a value that was read before. What is only
ever read from text has a `Reader`.
-/

namespace HintLint.Json

/-- Reads one thing from text within a bound on nesting. -/
abbrev Reader (α : Type) := Nat → Unread → Except Failure (α × Unread)

/-- A shape of data. -/
structure Decoder (α : Type) where
  /-- Reads the shape from text. -/
  read : Reader α
  /-- Reads the shape off a value. -/
  ofValue : Value → Except Mismatch α

/-- The failure at a value of the wrong type. A list or an object is not entered. -/
def mistyped (expected : Expected) (text : Unread) : Failure :=
  match blank text with
  | '[' :: rest => refuse (.invalidType .array expected) ('[' :: rest)
  | '{' :: rest => refuse (.invalidType .object expected) ('{' :: rest)
  | rest =>
    match any 0 rest with
    | .ok (value, rest) => refuse (.invalidType value.found expected) rest
    | .error failure => failure

/-- Reads what stands between brackets, one level deeper; `opening` is the text from the opening
bracket on. -/
def bracketed {α : Type} (close : Unread → Except Failure Unread) (body : Reader α) :
    Reader α := fun levels opening =>
  match levels with
  | 0 => .error (stopAt .tooDeep opening)
  | levels + 1 => enclosed close (body levels) (opening.drop 1)

/-- Reads a list. -/
def readList {α : Type} (read : Reader α) : Reader (List α) := fun levels text =>
  match blank text with
  | '[' :: rest =>
    bracketed closeList (fun levels => elements (read levels) true) levels ('[' :: rest)
  | rest => .error (mistyped .array rest)

/-- Reads the value of a member and puts it into the map. -/
def visitEntry {β : Type} (read : Reader β) (levels : Nat) (map : KeyMap β) (key : String)
    (text : Unread) : Except Failure (KeyMap β × Unread) := do
  let (b, rest) ← read levels (← colon text)
  return (map.insert key b, rest)

/-- Reads an object that maps each of its keys to one thing; of several members with one key the
last counts. -/
def readMap {β : Type} (read : Reader β) : Reader (KeyMap β) := fun levels text =>
  match blank text with
  | '{' :: rest =>
    bracketed closeObject (fun levels => members (visitEntry read levels) ∅) levels ('{' :: rest)
  | rest => .error (mistyped .map rest)

namespace Decoder

/-- The shape of another, seen through a function. -/
def map {α β : Type} (f : α → β) (decoder : Decoder α) : Decoder β where
  read levels text := (decoder.read levels text).map fun (a, rest) => (f a, rest)
  ofValue value := (decoder.ofValue value).map f

/-- Any value. -/
def any : Decoder Value where
  read := Json.any
  ofValue := .ok

/-- A shape without parts. -/
def scalar {α : Type} (expected : Expected) (ofValue : Value → Except Mismatch α) :
    Decoder α where
  read _ text :=
    match blank text with
    | '[' :: rest => .error (mistyped expected ('[' :: rest))
    | '{' :: rest => .error (mistyped expected ('{' :: rest))
    | rest => do
      let (value, rest) ← Json.any 0 rest
      match ofValue value with
      | .ok a => return (a, rest)
      | .error cause => .error (refuse cause rest)
  ofValue := ofValue

/-- A whole number of 32 bits. -/
def word : Decoder UInt32 :=
  scalar .word fun
    | .number (.integer n) =>
      if 0 ≤ n ∧ n < UInt32.size then .ok (UInt32.ofNat n.toNat)
      else .error (.invalidValue (.number (.integer n)) .word)
    | value => .error (.invalidType value.found .word)

/-- A text. -/
def string : Decoder String :=
  scalar .string fun
    | .string text => .ok text
    | value => .error (.invalidType value.found .string)

/-- A shape or `null`. -/
def nullable {α : Type} (decoder : Decoder α) : Decoder (Option α) where
  read levels text :=
    match blank text with
    | 'n' :: rest => do return (none, ← literal ['u', 'l', 'l'] rest)
    | rest => (decoder.read levels rest).map fun (a, rest) => (some a, rest)
  ofValue
    | .null => .ok none
    | value => (decoder.ofValue value).map some

/-- A list of one shape. -/
def list {α : Type} (decoder : Decoder α) : Decoder (List α) where
  read := readList decoder.read
  ofValue
    | .array items => items.mapM decoder.ofValue
    | value => .error (.invalidType value.found .array)

end Decoder

/-- Finds what a name stands for. -/
def resolve {α : Type} (names : List (String × α)) (name : String) : Except Mismatch α :=
  match names.lookup name with
  | some a => .ok a
  | none => .error (.unknownName name (names.map Prod.fst))

/-- Reads a name after its opening quote and finds what it stands for. -/
def readName {α : Type} (names : List (String × α)) (text : Unread) :
    Except Failure (α × Unread) := do
  let (chars, rest) ← stringBody text
  match resolve names (String.ofList chars) with
  | .ok a => return (a, rest)
  | .error cause => .error (refuse cause rest)

/-- Reads `null`. -/
def readNull (text : Unread) : Except Failure Unread :=
  match blank text with
  | 'n' :: rest => literal ['u', 'l', 'l'] rest
  | rest => .error (mistyped .null rest)

/-- Reads a name that is the key of an object with one member, whose value is `null`, after the
opening bracket. -/
def readKeyedName {α : Type} (names : List (String × α)) (text : Unread) :
    Except Failure (α × Unread) :=
  match blank text with
  | [] => .error (stopAt .endInObject [])
  | '}' :: rest => .error (stopAt .expectedValue ('}' :: rest))
  | '"' :: rest => do
    let (a, rest) ← readName names rest
    let rest ← readNull (← colon rest)
    match blank rest with
    | [] => .error (stop .endInObject [])
    | '}' :: rest => return (a, rest)
    | rest => .error (stop .expectedValue rest)
  | rest => .error (stopAt .expectedKey rest)

/-- One of several names, alone or as the key of an object with one member. Off a value, the empty
object will do in place of `null`. -/
def Decoder.name {α : Type} (names : List (String × α)) : Decoder α where
  read levels text :=
    match blank text with
    | [] => .error (stopAt .endInValue [])
    | '"' :: rest => readName names rest
    | '{' :: rest =>
      match levels with
      | 0 => .error (stopAt .tooDeep ('{' :: rest))
      | _ + 1 => readKeyedName names rest
    | rest => .error (stopAt .expectedValue rest)
  ofValue
    | .string name => resolve names name
    | .object [(name, value)] => do
      let a ← resolve names name
      match value with
      | .null => return a
      | .object [] => return a
      | value => .error (.invalidType value.found .null)
    | .object _ => .error (.invalidValue .object .soleMember)
    | value => .error (.invalidType value.found .name)

/-- Reads a whole text that holds one thing. -/
def Reader.parse {α : Type} (read : Reader α) (text : String) : Except Error α :=
  Json.parse (read nestingLimit) text

/-- Reads a whole text of a shape. -/
def Decoder.parse {α : Type} (decoder : Decoder α) (text : String) : Except Error α :=
  Reader.parse decoder.read text

end HintLint.Json
