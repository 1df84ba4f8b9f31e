import HintLint.Json.Value
import HintLint.Text.Quoted

/-!
What can be wrong with a text that should hold a JSON document of a given shape, and the wording of
each cause. `Malformed` says that the text is not JSON where the reading stopped; `Mismatch` says
that it is, but holds something else than the shape asks for. Where the reading stopped is no part
of the cause: an `Error` pairs a cause with its place in the text, if it has one.
-/

namespace HintLint.Json

/-- Ways in which a text is not JSON. -/
inductive Malformed where
  | endInValue
  | endInString
  | endInList
  | endInObject
  | expectedValue
  | expectedLiteral
  | expectedListSeparator
  | expectedMemberSeparator
  | expectedColon
  | expectedKey
  | invalidNumber
  | numberOutOfRange
  | controlCharacter
  | invalidEscape
  | loneSurrogate
  | unpairedSurrogate
  | trailingComma
  | trailingCharacters
  | tooDeep
deriving DecidableEq

namespace Malformed

/-- Whether the text merely ended too early. -/
def isEnd : Malformed → Bool
  | endInValue | endInString | endInList | endInObject => true
  | _ => false

/-- The wording of a cause. -/
def message : Malformed → String
  | endInValue => "EOF while parsing a value"
  | endInString => "EOF while parsing a string"
  | endInList => "EOF while parsing a list"
  | endInObject => "EOF while parsing an object"
  | expectedValue => "expected value"
  | expectedLiteral => "expected ident"
  | expectedListSeparator => "expected `,` or `]`"
  | expectedMemberSeparator => "expected `,` or `\x7d`"
  | expectedColon => "expected `:`"
  | expectedKey => "key must be a string"
  | invalidNumber => "invalid number"
  | numberOutOfRange => "number out of range"
  | controlCharacter => "control character (\\u0000-\\u001F) found while parsing a string"
  | invalidEscape => "invalid escape"
  | loneSurrogate => "lone leading surrogate in hex escape"
  | unpairedSurrogate => "unexpected end of hex escape"
  | trailingComma => "trailing comma"
  | trailingCharacters => "trailing characters"
  | tooDeep => "recursion limit exceeded"

end Malformed

/-- What stood where something else was expected. -/
inductive Found where
  | null
  | bool (value : Bool)
  | number (value : Number)
  | string (text : String)
  | array
  | object
deriving DecidableEq

/-- A value as it is named when it is not the expected one. -/
def Value.found : Value → Found
  | .null => .null
  | .bool value => .bool value
  | .number value => .number value
  | .string text => .string text
  | .array _ => .array
  | .object _ => .object

/-- The wording of what was found. -/
def Found.message : Found → String
  | .null => "null"
  | .bool true => "boolean `true`"
  | .bool false => "boolean `false`"
  | .number (.integer value) =>
    "integer `" ++ String.ofList (Number.integer value).write ++ "`"
  | .number (.float negative magnitude) =>
    "floating point `" ++ String.ofList (Number.float negative magnitude).write ++ "`"
  | .string text => "string " ++ Text.quoted text
  | .array => "sequence"
  | .object => "map"

/-- What a shape asks for. -/
inductive Expected where
  /-- A whole number of 32 bits. -/
  | word
  | string
  | array
  | map
  | null
  /-- A record, by its title. -/
  | record (title : String)
  /-- The name of a kind. -/
  | tag
  /-- A record that names its own kind, by the title of the family. -/
  | tagged (title : String)
  /-- An object with one member. -/
  | soleMember
  /-- A name, alone or as the key of an object with one member. -/
  | name
deriving DecidableEq

/-- The wording of what was expected. -/
def Expected.message : Expected → String
  | .word => "u32"
  | .string => "a string"
  | .array => "a sequence"
  | .map => "a map"
  | .null => "unit"
  | .record title => "struct " ++ title
  | .tag => "variant identifier"
  | .tagged title => "internally tagged enum " ++ title
  | .soleMember => "map with a single key"
  | .name => "string or map"

/-- Ways in which JSON fails to have the shape asked for. -/
inductive Mismatch where
  | invalidType (found : Found) (expected : Expected)
  | invalidValue (found : Found) (expected : Expected)
  /-- A record written as a list that ends too early. -/
  | invalidLength (length : Nat) (title : String) (fields : Nat)
  | unknownName (name : String) (known : List String)
  | missingField (name : String)
  | duplicateField (name : String)
deriving DecidableEq

/-- The names to choose from, each between backticks. -/
def choice (names : List String) : String :=
  match names.map fun name => "`" ++ name ++ "`" with
  | [one, other] => one ++ " or " ++ other
  | [one] => one
  | many => "one of " ++ ", ".intercalate many

/-- The wording of a cause. -/
def Mismatch.message : Mismatch → String
  | .invalidType found expected =>
    "invalid type: " ++ found.message ++ ", expected " ++ expected.message
  | .invalidValue found expected =>
    "invalid value: " ++ found.message ++ ", expected " ++ expected.message
  | .invalidLength length title fields =>
    "invalid length " ++ toString length ++ ", expected struct " ++ title ++ " with " ++
      toString fields ++ " elements"
  | .unknownName name known => "unknown variant `" ++ name ++ "`, expected " ++ choice known
  | .missingField name => "missing field `" ++ name ++ "`"
  | .duplicateField name => "duplicate field `" ++ name ++ "`"

/-- The cause of a failed reading. -/
inductive Fault where
  | malformed (cause : Malformed)
  | mismatch (cause : Mismatch)
deriving DecidableEq

/-- Whether a text is not JSON, is an unfinished one, or has the wrong shape. -/
inductive Category where
  | malformed
  | unfinished
  | mismatch
deriving DecidableEq

namespace Fault

/-- The wording of a cause. -/
def message : Fault → String
  | malformed cause => cause.message
  | mismatch cause => cause.message

/-- The category of a cause. -/
def category : Fault → Category
  | malformed cause => if cause.isEnd then .unfinished else .malformed
  | mismatch _ => .mismatch

end Fault

/-- A place in a text: the line, counted from one, and the bytes before the place on that line. -/
structure Place where
  line : Nat
  column : Nat
deriving DecidableEq

/-- A failed reading of a whole text. Values that were set aside and looked at later have lost their
place. -/
structure Error where
  fault : Fault
  place : Option Place
deriving DecidableEq

namespace Error

/-- The category of an error. -/
def category (error : Error) : Category := error.fault.category

/-- The cause, and the place if there is one. -/
def message (error : Error) : String :=
  match error.place with
  | none => error.fault.message
  | some place =>
    error.fault.message ++ " at line " ++ toString place.line ++ " column " ++ toString place.column

end Error

end HintLint.Json
