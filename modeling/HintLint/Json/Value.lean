import HintLint.Decimal.Layout
import HintLint.KeyMap

/-!
JSON values. An object is the list of its members as written, so it may repeat a key; `canonical` is
the value with sorted members in which the last of several members with one key stands for all. A
number is an integer or a binary floating-point number, according to how its text reads.
-/

namespace HintLint.Json

/-- A number: whole ones that fit into 64 bits are kept exactly. -/
inductive Number where
  | integer (value : Int)
  | float (negative : Bool) (magnitude : Decimal.Binary)
deriving DecidableEq, Inhabited

/-- A value. -/
inductive Value where
  | null
  | bool (value : Bool)
  | number (value : Number)
  | string (text : String)
  | array (items : List Value)
  | object (members : List (String × Value))
deriving Inhabited

/-- Floating-point numbers are positional from five places after the point up to sixteen places
before it. -/
def floatLayout : Decimal.Layout where
  pointAfter := -5
  pointUpTo := 16

/-- The text of a number. -/
def Number.write : Number → List Char
  | .integer (.ofNat n) => Nat.toDigits 10 n
  | .integer (.negSucc n) => '-' :: Nat.toDigits 10 (n + 1)
  | .float negative magnitude => floatLayout.writeBinary negative magnitude

namespace Value

/-- A word of 32 bits as a value. -/
def ofWord (word : UInt32) : Value := .number (.integer word.toNat)

/-- A value that may be absent; `null` stands for its absence. -/
def ofOption {α : Type} (toValue : α → Value) : Option α → Value
  | none => .null
  | some a => toValue a

mutual

/-- The value with the members of every object sorted by key; of several members with one key the
last counts. -/
def canonical : Value → Value
  | .array items => .array (canonicalItems items)
  | .object members => .object (canonicalMembers [] members)
  | .null => .null
  | .bool value => .bool value
  | .number value => .number value
  | .string text => .string text

/-- The items of an array, each made canonical. -/
def canonicalItems : List Value → List Value
  | [] => []
  | item :: items => item.canonical :: canonicalItems items

/-- The members of an object, each made canonical and put at its place among those done. -/
def canonicalMembers (done : List (String × Value)) :
    List (String × Value) → List (String × Value)
  | [] => done
  | (key, value) :: members => canonicalMembers (insertEntry key value.canonical done) members

end

/-- The member of an object under a key; of several the first. -/
def member? (key : String) : Value → Option Value
  | .object members => members.lookup key
  | _ => none

end Value

end HintLint.Json
