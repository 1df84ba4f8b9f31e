import HintLint.Log.Logger
import HintLint.Proofs.Json.ReadBack

/-!
What a line tells of its event. A skipped node is named by rule, line and kind, a hint by source,
site, line and column, in a text in this order and in a record under the names of the fields. In a
text a source is shown character by character, but for those characters that a terminal would obey.
Line breaks are not among these, so a text has as many of them as the source that it shows; a record
has none.
-/

namespace HintLint

namespace Json

theorem digitChar_unbroken : ∀ n < 0x10, Nat.digitChar n ≠ '\n' := by
  decide

theorem digits_unbroken (n : Nat) : '\n' ∉ Nat.toDigits 10 n := fun listed =>
  absurd (isDigit_toDigits _ listed) (by decide)

theorem escapeChar_unbroken (c : Char) : '\n' ∉ escapeChar c := by
  unfold escapeChar
  split
  case h_8 unbroken _ _ =>
    split
    · have first := digitChar_unbroken (c.toNat / 16) (by omega)
      have second := digitChar_unbroken (c.toNat % 16) (by omega)
      simp [first.symm, second.symm]
    · exact fun listed => unbroken (List.mem_singleton.mp listed).symm
  all_goals decide

theorem writeString_unbroken (text : String) : '\n' ∉ writeString text := by
  simp [writeString, escapeChar_unbroken]

theorem number_unbroken (n : Nat) : '\n' ∉ (Value.number (.integer n)).write :=
  digits_unbroken n

theorem writeMembers_unbroken {members : List (String × Value)}
    (unbroken : ∀ member ∈ members, '\n' ∉ member.2.write) : '\n' ∉ Value.writeMembers members := by
  induction members with
  | nil => decide
  | cons member members ih =>
    obtain ⟨first, others⟩ := List.forall_mem_cons.mp unbroken
    simp [Value.writeMembers, writeString_unbroken, first, ih others]

/-- A record is written without line breaks if its parts are. -/
theorem object_unbroken {members : List (String × Value)}
    (unbroken : ∀ member ∈ members, '\n' ∉ member.2.write) : '\n' ∉ (Value.object members).write := by
  cases members with
  | nil => decide
  | cons member members =>
    obtain ⟨first, others⟩ := List.forall_mem_cons.mp unbroken
    simp [Value.write, writeString_unbroken, first, writeMembers_unbroken others]

end Json

namespace Text

/-- The characters of ASCII that a terminal would obey, by their numbers. Beyond ASCII these are the
controls from `0x80` on. -/
def obeyed : List Nat := [0x07, 0x08, 0x0C, 0x1B, 0x7F]

/-- A character of a source as a text shows it. If a terminal would obey it, it is shown by the two
hexadecimal digits of its number. -/
def shownChar (c : Char) : List Char :=
  let digits := [Nat.digitChar (c.toNat / 16), Nat.digitChar (c.toNat % 16)]
  if c.toNat ∈ obeyed then ['\\', 'x'] ++ digits
  else if 0x80 ≤ c.toNat ∧ c.toNat ≤ 0x9F then ['\\', 'u', '\x7b'] ++ digits ++ ['\x7d']
  else [c]

/-- A source as a text shows it. -/
def shown (source : String) : String := String.ofList (source.toList.flatMap shownChar)

theorem toDigits_of_two {n : Nat} (low : 0x10 ≤ n) (high : n < 0x100) :
    Nat.toDigits 16 n = [Nat.digitChar (n / 16), Nat.digitChar (n % 16)] := by
  rw [Nat.toDigits_of_base_le (by decide) low, Nat.toDigits_of_lt_base (by omega)]
  rfl

theorem terminalChar_eq_shownChar (c : Char) : terminalChar c = shownChar c := by
  unfold terminalChar
  split
  case h_6 bell backspace feed escape delete =>
    have apart : ∀ d : Char, (c = d → False) → c.toNat ≠ d.toNat := fun _ ne same =>
      ne (Char.toNat_inj.mp same)
    have other : c.toNat ∉ obeyed := by
      simp only [obeyed, List.mem_cons, List.not_mem_nil, or_false, not_or]
      exact ⟨apart _ bell, apart _ backspace, apart _ feed, apart _ escape, apart _ delete⟩
    rw [shownChar, if_neg other]
    by_cases high : 0x80 ≤ c.toNat ∧ c.toNat ≤ 0x9F
    · rw [if_pos high, if_pos (by simpa using high), codePointEscape,
        toDigits_of_two (by omega) (by omega)]
    · rw [if_neg high, if_neg (by simpa using high)]
  all_goals rfl

theorem forTerminal_eq_shown (text : String) : forTerminal text = shown text := by
  rw [forTerminal, funext terminalChar_eq_shownChar, shown]

/-- A sequence that would clear the screen is shown instead, and a tab stays. -/
example : forTerminal "\x1b[2Ja\tb" = "\\x1b[2Ja\tb" := by
  decide

theorem shown_append (text other : String) : shown (text ++ other) = shown text ++ shown other := by
  simp [shown]

theorem notMem_obeyed {n : Nat} (other : (0x20 ≤ n ∧ n < 0x7F) ∨ 0x80 ≤ n) : n ∉ obeyed := by
  simp only [obeyed, List.mem_cons, List.not_mem_nil, or_false]
  omega

/-- Whether a character is one of the visible ones of ASCII, or a blank. -/
def isPlain (c : Char) : Bool := 0x20 ≤ c.toNat && c.toNat < 0x7F

theorem shownChar_of_isPlain {c : Char} (plain : isPlain c = true) : shownChar c = [c] := by
  simp only [isPlain, Bool.and_eq_true, decide_eq_true_eq] at plain
  rw [shownChar, if_neg (notMem_obeyed (.inl plain)), if_neg (by omega)]

/-- Plain text is shown as it is. -/
theorem shown_of_isPlain {text : String} (plain : text.toList.all isPlain = true) :
    shown text = text := by
  have chars : text.toList.flatMap shownChar = text.toList.flatMap fun c => [c] :=
    List.flatMap_congr fun c listed => shownChar_of_isPlain (List.all_eq_true.mp plain c listed)
  rw [shown, chars, List.flatMap_singleton', String.ofList_toList]

theorem toList_number (n : Nat) : (toString n).toList = Nat.toDigits 10 n :=
  String.toList_ofList

theorem isPlain_number (n : Nat) : (toString n).toList.all isPlain = true := by
  rw [toList_number, List.all_eq_true]
  intro c listed
  have digit : '0'.toNat ≤ c.toNat ∧ c.toNat ≤ '9'.toNat :=
    Char.isDigit_iff_toNat.mp (Json.isDigit_toDigits c listed)
  have zero : '0'.toNat = 0x30 := rfl
  have nine : '9'.toNat = 0x39 := rfl
  simp only [isPlain, Bool.and_eq_true, decide_eq_true_eq]
  omega

/-- Of ASCII nothing is listed as unprintable. -/
theorem printable_of_isPlain {c : Char} (plain : isPlain c = true) :
    unprintable.contains c = false := by
  have beyond : unprintable.ranges.toList.all (fun range => 0x80 ≤ range.1) = true := by
    decide +kernel
  rw [CodePoints.contains, Array.any_eq_false']
  intro range listed
  have high := List.all_eq_true.mp beyond range (Array.mem_def.mp listed)
  simp only [isPlain, Bool.and_eq_true, decide_eq_true_eq] at plain high ⊢
  omega

/-- Plain text without quotes and backslashes is quoted as it is. -/
theorem quoted_of_isPlain {text : String}
    (plain : text.toList.all (fun c => isPlain c && c != '"' && c != '\\') = true) :
    quoted text = "\"" ++ text ++ "\"" := by
  have chars : text.toList.flatMap quoteChar = text.toList.flatMap fun c => [c] := by
    apply List.flatMap_congr
    intro c listed
    have own := List.all_eq_true.mp plain c listed
    rw [Bool.and_eq_true, Bool.and_eq_true] at own
    obtain ⟨⟨visible, quote⟩, backslash⟩ := own
    have printable := printable_of_isPlain visible
    unfold quoteChar
    split
    case h_7 =>
      simp only [isPlain, Bool.and_eq_true, decide_eq_true_eq] at visible
      have low : ¬ c.toNat < 0x20 := by omega
      have delete : c.toNat ≠ 0x7F := by omega
      simp [low, delete, printable]
    case h_1 => cases quote
    case h_2 => cases backslash
    all_goals cases visible
  apply String.toList_inj.mp
  rw [quoted, chars, List.flatMap_singleton']
  simp

theorem count_shownChar (c : Char) : (shownChar c).count '\n' = [c].count '\n' := by
  by_cases itself : shownChar c = [c]
  · rw [itself]
  · have unbroken : c ≠ '\n' := fun same => itself (by rw [same]; rfl)
    have low : c.toNat ≤ 0x9F := by
      by_contra high
      exact itself (by rw [shownChar, if_neg (notMem_obeyed (by omega)), if_neg (by omega)])
    have first := Json.digitChar_unbroken (c.toNat / 16) (by omega)
    have second := Json.digitChar_unbroken (c.toNat % 16) (by omega)
    unfold shownChar
    split
    · simp [first, second, unbroken]
    · split <;> simp [first, second, unbroken]

/-- A source is shown with the line breaks that it has. -/
theorem count_shown (source : String) :
    (shown source).toList.count '\n' = source.toList.count '\n' := by
  rw [shown, String.toList_ofList]
  induction source.toList with
  | nil => rfl
  | cons c chars ih =>
    rw [List.flatMap_cons, List.count_append, count_shownChar, ih, ← List.count_append,
      List.singleton_append]

end Text

namespace Log

/-- The word for a kind of nodes. -/
def kindWord : Node.Kind → String
  | .parameters => "arguments"
  | .annotatedAssignment => "ann_assign"
  | .assignment => "assign"
  | .definition => "function_def"
  | .asyncDefinition => "async_function_def"

/-- The words for a site. -/
def siteWords : Site → String
  | .functionSignature => "function signatures"
  | .variableAssignment => "variable assignments"

/-- The line about a skipped node. -/
def skippedLine (format : Format) (line : UInt32) (kind : Node.Kind) : Line :=
  let words := "no-type-hints disabled at line " ++ toString line.toNat ++ ", skipping " ++
    kindWord kind ++ " node"
  match format with
  | .text => .text ("DEBUG " ++ words)
  | .json => .json (.object [
      ("level", .string "DEBUG"),
      ("fields", .object [("message", .string words)])])

/-- The line about a hint. -/
def hintLine (format : Format) (site : Site) (hint : Hint) : Line :=
  match format with
  | .text => .text (
      "TRACE type hint `" ++ Text.shown hint.source ++ "` site=\"" ++ siteWords site ++ "\" line=" ++
      toString hint.position.line.toNat ++ " col=" ++ toString hint.position.column.toNat)
  | .json => .json (.object [
      ("level", .string "TRACE"),
      ("fields", .object [
        ("message", .string ("type hint `" ++ hint.source ++ "`")),
        ("site", .string (siteWords site)),
        ("line", .number (.integer hint.position.line.toNat)),
        ("col", .number (.integer hint.position.column.toNat))])])

/-- The line about an event. -/
def eventLine (format : Format) : Event → Line
  | .skipped line kind => skippedLine format line kind
  | .reported site hint => hintLine format site hint

theorem tag_eq_kindWord (kind : Node.Kind) : kind.tag = kindWord kind := by
  cases kind <;> rfl

theorem isPlain_kindWord (kind : Node.Kind) : (kindWord kind).toList.all Text.isPlain = true := by
  cases kind <;> decide

theorem text_eq_siteWords (site : Site) : site.text = siteWords site := by
  cases site <;> rfl

theorem quoted_siteWords (site : Site) :
    Text.quoted (siteWords site) = "\"" ++ siteWords site ++ "\"" := by
  cases site <;> exact Text.quoted_of_isPlain (by decide)

theorem line_skipped (format : Format) (line : UInt32) (kind : Node.Kind) :
    (Event.skipped line kind).line format = skippedLine format line kind := by
  cases format with
  | text =>
    have printed : (Event.skipped line kind).line .text =
        .text ("DEBUG" ++ " " ++ Text.forTerminal (Event.skipped line kind).message) := rfl
    rw [printed, Event.message_skipped, tag_eq_kindWord, Text.forTerminal_eq_shown,
      Text.shown_of_isPlain]
    · rfl
    · simp only [String.toList_append, List.all_append, Text.isPlain_number, isPlain_kindWord]
      decide
  | json =>
    rw [Event.line_json, Event.message_skipped, tag_eq_kindWord]
    rfl

theorem line_reported (format : Format) (site : Site) (hint : Hint) :
    (Event.reported site hint).line format = hintLine format site hint := by
  cases format with
  | text =>
    have printed : (Event.reported site hint).line .text =
        .text ("TRACE" ++ " " ++ Text.forTerminal (Event.reported site hint).message ++ " " ++
          ("site=" ++ Text.quoted site.text) ++ " " ++
          ("line=" ++ toString hint.position.line.toNat) ++ " " ++
          ("col=" ++ toString hint.position.column.toNat)) := rfl
    have front : Text.shown "type hint `" = "type hint `" := Text.shown_of_isPlain (by decide)
    have back : Text.shown "`" = "`" := Text.shown_of_isPlain (by decide)
    rw [printed, text_eq_siteWords, quoted_siteWords, Event.message_reported,
      Text.forTerminal_eq_shown, Text.shown_append, Text.shown_append, front, back]
    apply congrArg Line.text
    apply String.toList_inj.mp
    simp
  | json =>
    rw [Event.line_json, Event.message_reported, Event.fields_reported, text_eq_siteWords]
    rfl

/-- Every event is printed as its line says. -/
theorem line_eq_eventLine (format : Format) (event : Event) :
    event.line format = eventLine format event := by
  cases event with
  | skipped line kind => exact line_skipped format line kind
  | reported site hint => exact line_reported format site hint

/-! Line breaks. -/

/-- What is written for a line, without the line break behind it. -/
def Line.chars : Line → List Char
  | .text line => line.toList
  | .json record => record.write

/-- How many line breaks there are inside the line of an event. -/
def breaks : Format → Event → Nat
  | .text, .reported _ hint => hint.source.toList.count '\n'
  | _, _ => 0

/-- A text breaks where the source breaks that it shows. -/
theorem count_text (event : Event) :
    (eventLine .text event).chars.count '\n' = breaks .text event := by
  have number (n : Nat) : (toString n).toList.count '\n' = 0 := by
    rw [Text.toList_number]
    exact List.count_eq_zero.mpr (Json.digits_unbroken n)
  cases event with
  | skipped line kind =>
    have word : (kindWord kind).toList.count '\n' = 0 := by cases kind <;> rfl
    simp only [eventLine, skippedLine, Line.chars, String.toList_append, List.count_append, number,
      word]
    rfl
  | reported site hint =>
    have words : (siteWords site).toList.count '\n' = 0 := by cases site <;> rfl
    have front : "TRACE type hint `".toList.count '\n' = 0 := rfl
    have place : "` site=\"".toList.count '\n' = 0 := rfl
    have line : "\" line=".toList.count '\n' = 0 := rfl
    have column : " col=".toList.count '\n' = 0 := rfl
    simp only [eventLine, hintLine, Line.chars, String.toList_append, List.count_append, number,
      words, Text.count_shown, front, place, line, column, Nat.zero_add, Nat.add_zero, breaks]

/-- A record breaks nowhere. -/
theorem json_unbroken (event : Event) : '\n' ∉ (eventLine .json event).chars := by
  have string (text : String) : '\n' ∉ (Json.Value.string text).write :=
    Json.writeString_unbroken text
  cases event with
  | skipped line kind =>
    apply Json.object_unbroken
    simp only [List.forall_mem_cons]
    exact ⟨string _, Json.object_unbroken (by simpa using string _), by simp⟩
  | reported site hint =>
    apply Json.object_unbroken
    simp only [List.forall_mem_cons]
    refine ⟨string _, Json.object_unbroken ?_, by simp⟩
    simp only [List.forall_mem_cons]
    exact ⟨string _, string _, Json.number_unbroken _, Json.number_unbroken _, by simp⟩

theorem count_eventLine (format : Format) (event : Event) :
    (eventLine format event).chars.count '\n' = breaks format event := by
  cases format with
  | text => exact count_text event
  | json =>
    rw [List.count_eq_zero.mpr (json_unbroken event)]
    cases event <;> rfl

end Log

end HintLint
