import HintLint.Json.NumberText
import HintLint.Json.StringText

/-!
Reading JSON text. The punctuation of lists and objects is read by `nextElement`, `nextKey`, `colon`
and the two closings; `elements` and `members` repeat them around a reader of one element or a
visitor of one member, so every reader of a list or an object, of any shape, goes through the same
two loops. `any` reads any value within a bound on nesting. The loops count rounds only to be total:
each round but the last takes at least one character, so a text of `n` characters never uses up
`n + 1` rounds.
-/

namespace HintLint.Json

/-- The nesting of lists and objects that a document may have. -/
def nestingLimit : Nat := 127

/-- Goes to the next element of a list, or to the closing bracket. -/
def nextElement (first : Bool) (text : Unread) : Except Failure (Bool × Unread) :=
  match blank text with
  | [] => .error (stopAt .endInList [])
  | ']' :: rest => .ok (false, ']' :: rest)
  | c :: rest =>
    if first then .ok (true, c :: rest)
    else if c = ',' then
      match blank rest with
      | [] => .error (stopAt .endInValue [])
      | ']' :: rest => .error (stopAt .trailingComma (']' :: rest))
      | rest => .ok (true, rest)
    else .error (stopAt .expectedListSeparator (c :: rest))

/-- Reads a key. -/
def keyText : Unread → Except Failure (Option String × Unread)
  | '"' :: rest => do
    let (chars, rest) ← stringBody rest
    return (some (String.ofList chars), rest)
  | rest => .error (stopAt .expectedKey rest)

/-- Reads the next key of an object, or goes to the closing bracket. -/
def nextKey (first : Bool) (text : Unread) : Except Failure (Option String × Unread) :=
  match blank text with
  | [] => .error (stopAt .endInObject [])
  | '}' :: rest => .ok (none, '}' :: rest)
  | c :: rest =>
    if first then keyText (c :: rest)
    else if c = ',' then
      match blank rest with
      | [] => .error (stopAt .endInValue [])
      | '}' :: rest => .error (stopAt .trailingComma ('}' :: rest))
      | rest => keyText rest
    else .error (stopAt .expectedMemberSeparator (c :: rest))

/-- Reads the colon after a key. -/
def colon (text : Unread) : Except Failure Unread :=
  match blank text with
  | [] => .error (stopAt .endInObject [])
  | ':' :: rest => .ok rest
  | rest => .error (stopAt .expectedColon rest)

/-- Reads the closing bracket of a list. -/
def closeList (text : Unread) : Except Failure Unread :=
  match blank text with
  | [] => .error (stopAt .endInList [])
  | ']' :: rest => .ok rest
  | ',' :: rest =>
    match blank rest with
    | ']' :: rest => .error (stopAt .trailingComma (']' :: rest))
    | rest => .error (stopAt .trailingCharacters rest)
  | rest => .error (stopAt .trailingCharacters rest)

/-- Reads the closing bracket of an object. -/
def closeObject (text : Unread) : Except Failure Unread :=
  match blank text with
  | [] => .error (stopAt .endInObject [])
  | '}' :: rest => .ok rest
  | ',' :: rest => .error (stopAt .trailingComma (',' :: rest))
  | rest => .error (stopAt .trailingCharacters rest)

/-- Where a closing leaves off, whether or not it finds its bracket. -/
def afterClosing (close : Unread → Except Failure Unread) (text : Unread) : Unread :=
  match close text with
  | .ok rest => rest
  | .error failure => failure.rest

/-- Reads what stands between brackets and the closing bracket. A mismatch that has no spot yet
receives the one after the closing, which is tried for that purpose. -/
def enclosed {α : Type} (close : Unread → Except Failure Unread)
    (body : Unread → Except Failure (α × Unread)) (text : Unread) : Except Failure (α × Unread) :=
  match body text with
  | .ok (a, rest) => do return (a, ← close rest)
  | .error (.unplaced cause rest) => .error (refuse cause (afterClosing close rest))
  | .error (.placed fault spot) => .error (.placed fault spot)

/-- Reads the elements of a list up to the closing bracket. -/
def elementsWithin {α : Type} (read : Unread → Except Failure (α × Unread)) :
    Nat → Bool → Unread → Except Failure (List α × Unread)
  | 0, _, text => .error (stopAt .endInList text)
  | rounds + 1, first, text => do
    let (more, text) ← nextElement first text
    if more then
      let (item, text) ← read text
      let (items, text) ← elementsWithin read rounds false text
      return (item :: items, text)
    else return ([], text)

/-- Reads the elements of a list up to the closing bracket; `first` says that none was read yet. -/
def elements {α : Type} (read : Unread → Except Failure (α × Unread)) (first : Bool)
    (text : Unread) : Except Failure (List α × Unread) :=
  elementsWithin read (text.length + 1) first text

/-- Visits the members of an object up to the closing bracket. A visitor receives what the members
before led to, the key, and the text after the key. -/
def membersWithin {σ : Type} (visit : σ → String → Unread → Except Failure (σ × Unread)) :
    Nat → Bool → σ → Unread → Except Failure (σ × Unread)
  | 0, _, _, text => .error (stopAt .endInObject text)
  | rounds + 1, first, state, text => do
    match ← nextKey first text with
    | (none, text) => return (state, text)
    | (some key, text) =>
      let (state, text) ← visit state key text
      membersWithin visit rounds false state text

/-- Visits the members of an object up to the closing bracket, from the first one on. -/
def members {σ : Type} (visit : σ → String → Unread → Except Failure (σ × Unread)) (state : σ)
    (text : Unread) : Except Failure (σ × Unread) :=
  membersWithin visit (text.length + 1) true state text

/-- Reads the value of a member and adds the member to those read. -/
def keepMember (read : Unread → Except Failure (Value × Unread)) (kept : Array (String × Value))
    (key : String) (text : Unread) : Except Failure (Array (String × Value) × Unread) := do
  let (value, rest) ← read (← colon text)
  return (kept.push (key, value), rest)

/-- Reads any value whose lists and objects nest at most as deep as given. -/
def any (levels : Nat) (text : Unread) : Except Failure (Value × Unread) :=
  match blank text with
  | [] => .error (stopAt .endInValue [])
  | 'n' :: rest => do return (.null, ← literal ['u', 'l', 'l'] rest)
  | 't' :: rest => do return (.bool true, ← literal ['r', 'u', 'e'] rest)
  | 'f' :: rest => do return (.bool false, ← literal ['a', 'l', 's', 'e'] rest)
  | '-' :: rest => do
    let (value, rest) ← number true rest
    return (.number value, rest)
  | '"' :: rest => do
    let (chars, rest) ← stringBody rest
    return (.string (String.ofList chars), rest)
  | '[' :: rest =>
    match levels with
    | 0 => .error (stopAt .tooDeep ('[' :: rest))
    | levels + 1 => do
      let (items, rest) ← enclosed closeList (elements (any levels) true) rest
      return (.array items, rest)
  | '{' :: rest =>
    match levels with
    | 0 => .error (stopAt .tooDeep ('{' :: rest))
    | levels + 1 => do
      let (kept, rest) ← enclosed closeObject (members (keepMember (any levels)) #[]) rest
      return (.object kept.toList, rest)
  | c :: rest =>
    if c.isDigit then do
      let (value, rest) ← number false (c :: rest)
      return (.number value, rest)
    else .error (stopAt .expectedValue (c :: rest))

/-- Reads a whole text with the given reader; nothing but blanks may follow. -/
def parse {α : Type} (read : Unread → Except Failure (α × Unread)) (text : String) :
    Except Error α :=
  match read text.toList with
  | .error failure => .error (failure.toError text.toList)
  | .ok (a, rest) =>
    match blank rest with
    | [] => .ok a
    | rest => .error ((stopAt .trailingCharacters rest).toError text.toList)

/-- The value that a text holds. -/
def Value.parse (text : String) : Except Error Value := Json.parse (any nestingLimit) text

end HintLint.Json
