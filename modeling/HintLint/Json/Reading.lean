import HintLint.Json.Fault

/-!
The state of a reading is the text still unread. A failure names its cause and the spot where the
reading stopped, as the unread text there and the bytes of it that count as read; line and column
are computed from the whole text at the end. A mismatch that concerns a whole list or object is
raised without a spot and receives one when the enclosing brackets have been read.
-/

namespace HintLint.Json

/-- Text to be read. -/
abbrev Unread := List Char

/-- A spot in a text, a number of bytes ahead of the unread text. -/
structure Spot where
  rest : Unread
  ahead : Nat
deriving DecidableEq

/-- A reading that stopped. -/
inductive Failure where
  | placed (fault : Fault) (spot : Spot)
  | unplaced (cause : Mismatch) (rest : Unread)
deriving DecidableEq

/-- Stops before the unread text. -/
def stop (cause : Malformed) (rest : Unread) : Failure := .placed (.malformed cause) ⟨rest, 0⟩

/-- Stops with some bytes of the unread text counted as read; at the end of the text there are
none. -/
def stopPast (bytes : Nat) (cause : Malformed) (rest : Unread) : Failure :=
  .placed (.malformed cause) ⟨rest, bytes⟩

/-- Stops with the next byte counted as read. -/
def stopAt (cause : Malformed) (rest : Unread) : Failure := stopPast 1 cause rest

/-- Says that what was read has the wrong shape. -/
def refuse (cause : Mismatch) (rest : Unread) : Failure := .placed (.mismatch cause) ⟨rest, 0⟩

/-- The text that was unread at a failure. -/
def Failure.rest : Failure → Unread
  | .placed _ spot => spot.rest
  | .unplaced _ rest => rest

/-- The bytes of a text in UTF-8. -/
def byteLength : Unread → Nat
  | [] => 0
  | c :: rest => c.utf8Size + byteLength rest

/-- Moves a place over some bytes of the text that follows it. -/
def Place.advance : Nat → Unread → Place → Place
  | _, [], place => place
  | bytes, c :: rest, place =>
    if bytes = 0 then place
    else if c = '\n' then Place.advance (bytes - 1) rest ⟨place.line + 1, 0⟩
    else Place.advance (bytes - c.utf8Size) rest ⟨place.line, place.column + min bytes c.utf8Size⟩

/-- The place of a spot in the whole text. -/
def Spot.place (whole : Unread) (spot : Spot) : Place :=
  Place.advance (byteLength whole - byteLength spot.rest + spot.ahead) whole ⟨1, 0⟩

/-- A failure as the error of the whole text. -/
def Failure.toError (whole : Unread) : Failure → Error
  | .placed fault spot => ⟨fault, some (spot.place whole)⟩
  | .unplaced cause _ => ⟨.mismatch cause, none⟩

/-- The text after spaces, tabs and line ends. -/
def blank (text : Unread) : Unread :=
  text.dropWhile fun c => c == ' ' || c == '\n' || c == '\t' || c == '\r'

/-- Reads the given letters. -/
def literal : List Char → Unread → Except Failure Unread
  | [], text => .ok text
  | _ :: _, [] => .error (stop .endInValue [])
  | letter :: letters, c :: rest =>
    if c = letter then literal letters rest else .error (stopAt .expectedLiteral (c :: rest))

end HintLint.Json
