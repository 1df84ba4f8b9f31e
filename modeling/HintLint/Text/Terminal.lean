import HintLint.Text.Quoted

/-!
Text that a terminal can show without obeying it. The characters that ring, erase, feed a page or
start a control sequence are written as escapes; every other character stands for itself, line
breaks, tabs and the remaining controls below the space included. Nothing marks a backslash of the
text itself, so two texts can look alike here.
-/

namespace HintLint.Text

/-- One character as a terminal may be given it. -/
def terminalChar (c : Char) : List Char :=
  match c with
  | '\x07' => ['\\', 'x', '0', '7']
  | '\x08' => ['\\', 'x', '0', '8']
  | '\x0c' => ['\\', 'x', '0', 'c']
  | '\x1b' => ['\\', 'x', '1', 'b']
  | '\x7f' => ['\\', 'x', '7', 'f']
  | c => if 0x80 ≤ c.toNat && c.toNat ≤ 0x9F then codePointEscape c else [c]

/-- The text with every character escaped that a terminal would obey. -/
def forTerminal (text : String) : String := String.ofList (text.toList.flatMap terminalChar)

end HintLint.Text
