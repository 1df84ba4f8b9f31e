import HintLint.Json.Value

/-!
Writing a value as compact JSON text: no blanks, members in the order of the value, and only those
characters of a string escaped that JSON does not allow in one.
-/

namespace HintLint.Json

/-- One character as it stands inside a string. -/
def escapeChar (c : Char) : List Char :=
  match c with
  | '"' => ['\\', '"']
  | '\\' => ['\\', '\\']
  | '\x08' => ['\\', 'b']
  | '\x0c' => ['\\', 'f']
  | '\n' => ['\\', 'n']
  | '\r' => ['\\', 'r']
  | '\t' => ['\\', 't']
  | c =>
    if c.toNat < 0x20 then
      ['\\', 'u', '0', '0', Nat.digitChar (c.toNat / 16), Nat.digitChar (c.toNat % 16)]
    else [c]

/-- A string between quotes. -/
def writeString (text : String) : List Char := '"' :: text.toList.flatMap escapeChar ++ ['"']

namespace Value

mutual

/-- The compact text of a value. -/
def write : Value → List Char
  | .null => ['n', 'u', 'l', 'l']
  | .bool true => ['t', 'r', 'u', 'e']
  | .bool false => ['f', 'a', 'l', 's', 'e']
  | .number value => value.write
  | .string text => writeString text
  | .array [] => ['[', ']']
  | .array (item :: items) => '[' :: item.write ++ writeItems items
  | .object [] => ['{', '}']
  | .object ((key, value) :: members) =>
    '{' :: writeString key ++ ':' :: value.write ++ writeMembers members

/-- Further items of an array, and its closing bracket. -/
def writeItems : List Value → List Char
  | [] => [']']
  | item :: items => ',' :: item.write ++ writeItems items

/-- Further members of an object, and its closing bracket. -/
def writeMembers : List (String × Value) → List Char
  | [] => ['}']
  | (key, value) :: members =>
    ',' :: writeString key ++ ':' :: value.write ++ writeMembers members

end

/-- The compact text of a value. -/
def toText (value : Value) : String := String.ofList value.write

end Value

end HintLint.Json
