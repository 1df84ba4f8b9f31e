import HintLint.Json.Decoder

/-!
Records. The fields of a record are members of an object, in any order. A record is read into a
draft, which knows the fields met so far; a field that is met again is refused. Members that no
field asks for are kept and handed to the end of the record, which may look for further parts among
them.
-/

namespace HintLint.Json

/-- The value of a field that must be there. -/
def required {α : Type} (name : String) : Option α → Except Mismatch α
  | some a => .ok a
  | none => .error (.missingField name)

/-- A mismatch at the end of a list or an object, which has no spot before the closing. -/
def atEnd {α : Type} (result : Except Mismatch α) (rest : Unread) : Except Failure α :=
  result.mapError fun cause => .unplaced cause rest

/-- A field of a record that is being read into a draft of type `σ`. -/
structure Field (σ : Type) where
  name : String
  /-- Whether the draft has the field already. -/
  filled : σ → Bool
  /-- The field's value, as a change of the draft. -/
  decoder : Decoder (σ → σ)

/-- The field that a draft holds in one of its places. -/
def Field.of {σ α : Type} (name : String) (get : σ → Option α) (decoder : Decoder α)
    (set : α → σ → σ) : Field σ where
  name
  filled draft := (get draft).isSome
  decoder := decoder.map set

/-- The field of a given name. -/
def findField? {σ : Type} (fields : List (Field σ)) (name : String) : Option (Field σ) :=
  fields.find? fun field => field.name == name

/-- A record whose fields are members of an object. -/
structure Record (σ α : Type) where
  title : String
  /-- The draft before any member was read. -/
  empty : σ
  fields : List (Field σ)
  /-- The record of a draft and of the members that no field asked for. -/
  finish : σ → List (String × Value) → Except Mismatch α

namespace Record

variable {σ α : Type}

/-- A draft, and the members that no field asked for. -/
abbrev Progress (σ : Type) := σ × Array (String × Value)

/-- Reads the value of a member into the draft, or keeps the member. -/
def visit (record : Record σ α) (levels : Nat) (progress : Progress σ) (key : String)
    (text : Unread) : Except Failure (Progress σ × Unread) :=
  match findField? record.fields key with
  | none => do
    let (kept, rest) ← keepMember (Json.any levels) progress.2 key text
    return ((progress.1, kept), rest)
  | some field =>
    if field.filled progress.1 then .error (.unplaced (.duplicateField key) text)
    else do
      let (change, rest) ← field.decoder.read levels (← colon text)
      return ((change progress.1, progress.2), rest)

/-- Takes the value of a member into the draft, or keeps the member. -/
def take (record : Record σ α) (progress : Progress σ) (member : String × Value) :
    Except Mismatch (Progress σ) :=
  match findField? record.fields member.1 with
  | none => .ok (progress.1, progress.2.push member)
  | some field =>
    if field.filled progress.1 then .error (.duplicateField member.1)
    else do return ((← field.decoder.ofValue member.2) progress.1, progress.2)

/-- Reads the members of the record after its opening bracket. -/
def body (record : Record σ α) : Reader α := fun levels text => do
  let ((draft, kept), rest) ← members (record.visit levels) (record.empty, #[]) text
  let a ← atEnd (record.finish draft kept.toList) rest
  return (a, rest)

/-- The record that the members of an object hold. -/
def ofMembers (record : Record σ α) (members : List (String × Value)) : Except Mismatch α := do
  let (draft, kept) ← members.foldlM record.take (record.empty, #[])
  record.finish draft kept.toList

/-- The shape of the record. -/
def decoder (record : Record σ α) : Decoder α where
  read levels text :=
    match blank text with
    | '{' :: rest => bracketed closeObject record.body levels ('{' :: rest)
    | rest => .error (mistyped (.record record.title) rest)
  ofValue
    | .object members => record.ofMembers members
    | value => .error (.invalidType value.found (.record record.title))

end Record

end HintLint.Json
