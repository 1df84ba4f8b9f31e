import HintLint.Text.Unprintable

/-!
Text quoted for a reader of diagnostics: between double quotes, with a backslash before a quote or a
backslash, short escapes for the common controls, and `\u` with a code point in braces for every
other character that would not show.
-/

namespace HintLint.Text

/-- A character by its code point: `\u` and the hexadecimal digits in braces. -/
def codePointEscape (c : Char) : List Char :=
  ['\\', 'u', '\x7b'] ++ Nat.toDigits 16 c.toNat ++ ['\x7d']

/-- One character as it stands inside a quotation. -/
def quoteChar (c : Char) : List Char :=
  match c with
  | '"' => ['\\', '"']
  | '\\' => ['\\', '\\']
  | '\n' => ['\\', 'n']
  | '\r' => ['\\', 'r']
  | '\t' => ['\\', 't']
  | '\x00' => ['\\', '0']
  | c =>
    if c.toNat < 0x20 || c.toNat = 0x7F || unprintable.contains c then codePointEscape c else [c]

/-- The text between double quotes, with every character that would not show escaped. -/
def quoted (text : String) : String :=
  String.ofList ('"' :: text.toList.flatMap quoteChar ++ ['"'])

end HintLint.Text
