import HintLint.Json.Reader

/-!
Passing over a value that nobody asked for. The text must still be JSON, but less is looked at than
when a value is read: nesting has no limit, numbers have no range, and surrogates need not pair up.
After a comma a value or a key must follow, whatever stands there instead.
-/

namespace HintLint.Json

/-- Finds the end of a list, after its opening bracket or after an element. -/
def skipElements (skipOne : Unread → Except Failure Unread) :
    Nat → Bool → Unread → Except Failure Unread
  | 0, _, text => .error (stopAt .endInList text)
  | rounds + 1, first, text =>
    match blank text with
    | [] => .error (stopAt .endInList [])
    | ']' :: rest => .ok rest
    | c :: rest =>
      if first then do skipElements skipOne rounds false (← skipOne (c :: rest))
      else if c = ',' then do skipElements skipOne rounds false (← skipOne rest)
      else .error (stopAt .expectedListSeparator (c :: rest))

/-- Passes over a key, its colon and its value. -/
def skipMember (skipOne : Unread → Except Failure Unread) (text : Unread) :
    Except Failure Unread :=
  match blank text with
  | [] => .error (stopAt .endInObject [])
  | '"' :: rest => do skipOne (← colon (← skipString rest))
  | rest => .error (stopAt .expectedKey rest)

/-- Finds the end of an object, after its opening bracket or after a member. -/
def skipMembers (skipOne : Unread → Except Failure Unread) :
    Nat → Bool → Unread → Except Failure Unread
  | 0, _, text => .error (stopAt .endInObject text)
  | rounds + 1, first, text =>
    match blank text with
    | [] => .error (stopAt .endInObject [])
    | '}' :: rest => .ok rest
    | c :: rest =>
      if first then do skipMembers skipOne rounds false (← skipMember skipOne (c :: rest))
      else if c = ',' then do skipMembers skipOne rounds false (← skipMember skipOne rest)
      else .error (stopAt .expectedMemberSeparator (c :: rest))

/-- Passes over a value whose lists and objects nest at most as deep as given. -/
def skipWithin (levels : Nat) (text : Unread) : Except Failure Unread :=
  match blank text with
  | [] => .error (stopAt .endInValue [])
  | 'n' :: rest => literal ['u', 'l', 'l'] rest
  | 't' :: rest => literal ['r', 'u', 'e'] rest
  | 'f' :: rest => literal ['a', 'l', 's', 'e'] rest
  | '-' :: rest => skipNumber rest
  | '"' :: rest => skipString rest
  | '[' :: rest =>
    match levels with
    | 0 => .error (stopAt .tooDeep ('[' :: rest))
    | levels + 1 => skipElements (skipWithin levels) (rest.length + 1) true rest
  | '{' :: rest =>
    match levels with
    | 0 => .error (stopAt .tooDeep ('{' :: rest))
    | levels + 1 => skipMembers (skipWithin levels) (rest.length + 1) true rest
  | c :: rest =>
    if c.isDigit then skipNumber (c :: rest) else .error (stopAt .expectedValue (c :: rest))

/-- Passes over a value. It cannot nest deeper than its text is long. -/
def skip (text : Unread) : Except Failure Unread := skipWithin text.length text

end HintLint.Json
