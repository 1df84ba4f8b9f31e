import HintLint.Log.Directive
import Mathlib.Data.List.TakeDrop

/-!
Reading directives in their usual forms. A threshold is read exactly if it is spelled by its word, in
letters of either case, or by the number of levels that it prints. The path to a part of a program
holds no blank, bracket or equals sign: alone it is a level or a target, and with an equals sign
behind it a target, whatever follows as its level.
-/

namespace HintLint

/-! Characters. -/

theorem isAlpha_of_toLower {c : Char} (letter : c.toLower.isAlpha = true) : c.isAlpha = true := by
  unfold Char.toLower at letter
  split at letter
  · rename_i capital
    have upper : c.isUpper = true := decide_eq_true capital
    exact Bool.or_eq_true_iff.mpr (.inl upper)
  · exact letter

theorem toNat_of_isAlpha {c : Char} (letter : c.isAlpha = true) :
    (0x41 ≤ c.toNat ∧ c.toNat ≤ 0x5A) ∨ (0x61 ≤ c.toNat ∧ c.toNat ≤ 0x7A) := by
  rcases Bool.or_eq_true_iff.mp letter with upper | lower
  · exact .inl (of_decide_eq_true upper)
  · obtain ⟨low, high⟩ := Bool.and_eq_true_iff.mp lower
    exact .inr ⟨of_decide_eq_true low, of_decide_eq_true high⟩

theorem toNat_of_isDigit {c : Char} (digit : c.isDigit = true) :
    0x30 ≤ c.toNat ∧ c.toNat ≤ 0x39 :=
  Char.isDigit_iff_toNat.mp digit

theorem isDigit_of_isAlpha {c : Char} (letter : c.isAlpha = true) : c.isDigit = false := by
  rw [Bool.eq_false_iff]
  intro digit
  have high := toNat_of_isAlpha letter
  have low := toNat_of_isDigit digit
  omega

namespace Text

theorem CodePoints.contains_of_mem {set : CodePoints} {first last : Nat} {c : Char}
    (listed : (first, last) ∈ set.ranges) (low : first ≤ c.toNat) (high : c.toNat ≤ last) :
    set.contains c = true := by
  rw [contains, Array.any_eq_true']
  exact ⟨_, listed, by simp [low, high]⟩

/-- The letters and digits of ASCII are among those of all scripts. -/
theorem isAlphanumeric_of_isAlphanum {c : Char} (plain : c.isAlphanum = true) :
    isAlphanumeric c = true := by
  have capitals : (0x41, 0x5A) ∈ alphabetic.ranges := Array.mem_def.mpr List.mem_cons_self
  have smalls : (0x61, 0x7A) ∈ alphabetic.ranges :=
    Array.mem_def.mpr (List.mem_cons_of_mem _ List.mem_cons_self)
  have digits : (0x30, 0x39) ∈ numeric.ranges := Array.mem_def.mpr List.mem_cons_self
  rw [Char.isAlphanum, Bool.or_eq_true] at plain
  rw [isAlphanumeric, Bool.or_eq_true]
  rcases plain with letter | digit
  · left
    rcases toNat_of_isAlpha letter with ⟨low, high⟩ | ⟨low, high⟩
    · exact CodePoints.contains_of_mem capitals low high
    · exact CodePoints.contains_of_mem smalls low high
  · right
    obtain ⟨low, high⟩ := toNat_of_isDigit digit
    exact CodePoints.contains_of_mem digits low high

/-- No visible character of ASCII is a blank. -/
theorem solid_of_visible {c : Char} (low : 0x21 ≤ c.toNat) (high : c.toNat < 0x7F) :
    blanks.contains c = false := by
  rw [CodePoints.contains, Array.any_eq_false']
  intro range listed
  have beyond : range.2 ≤ 0x20 ∨ 0x85 ≤ range.1 := by
    revert range
    decide
  simp only [Bool.and_eq_true, decide_eq_true_eq, not_and]
  omega

/-! Cutting at a place in bytes. -/

theorem dropBytes_cons (c : Char) (count : Nat) (chars : List Char) :
    dropBytes (c.utf8Size + count) (c :: chars) = dropBytes count chars := by
  have positive := c.utf8Size_pos
  cases total : c.utf8Size + count with
  | zero => omega
  | succ more =>
    have left : more + 1 - c.utf8Size = count := by omega
    rw [dropBytes, if_pos (by omega), left]

theorem takeBytes_cons (c : Char) (count : Nat) (chars : List Char) :
    takeBytes (c.utf8Size + count) (c :: chars) = (takeBytes count chars).map (c :: ·) := by
  have positive := c.utf8Size_pos
  cases total : c.utf8Size + count with
  | zero => omega
  | succ more =>
    have left : more + 1 - c.utf8Size = count := by omega
    rw [takeBytes, if_pos (by omega), left]

theorem dropBytes_append (chars rest : List Char) :
    dropBytes (byteCount chars) (chars ++ rest) = some rest := by
  induction chars with
  | nil => rw [List.nil_append, byteCount, dropBytes]
  | cons c chars ih => rw [List.cons_append, byteCount, dropBytes_cons, ih]

theorem takeBytes_append (chars rest : List Char) :
    takeBytes (byteCount chars) (chars ++ rest) = some chars := by
  induction chars with
  | nil => rw [List.nil_append, byteCount, takeBytes]
  | cons c chars ih => rw [List.cons_append, byteCount, takeBytes_cons, ih, Option.map_some]

theorem byteCount_append (chars others : List Char) :
    byteCount (chars ++ others) = byteCount chars + byteCount others := by
  induction chars with
  | nil => rw [List.nil_append, byteCount, Nat.zero_add]
  | cons c chars ih => rw [List.cons_append, byteCount, byteCount, ih, Nat.add_assoc]

end Text

namespace Log

namespace Threshold

/-- The word for a threshold. -/
def word : Threshold → String
  | some level => level.name
  | none => "off"

/-- How many levels are printed. -/
def breadth (threshold : Threshold) : Nat := Level.all.countP threshold.admits

/-- The ways to write a threshold. -/
inductive Spelled (threshold : Threshold) (chars : List Char) : Prop
  /-- By its word, in capital or small letters. -/
  | word (letters : chars.map Char.toLower = threshold.word.toList)
  /-- By the number of levels that are printed, with or without a plus sign. -/
  | count (digits : List Char) (signed : chars = digits ∨ chars = '+' :: digits)
    (nonempty : digits ≠ []) (decimal : digits.all Char.isDigit = true)
    (value : Nat.ofDigitChars 10 digits 0 = threshold.breadth)

theorem ofCount_eq_some {count : Nat} {threshold : Threshold} :
    ofCount? count = some threshold ↔ count = threshold.breadth := by
  constructor
  · intro read
    unfold ofCount? at read
    split at read <;> cases read <;> rfl
  · rintro rfl
    rcases threshold with _ | _ | _ | _ | _ | _ <;> rfl

theorem foldl_digits (digits : List Char) (start : Nat) :
    digits.foldl (fun count c => 10 * count + Json.digitValue c) start =
      Nat.ofDigitChars 10 digits start := by
  induction digits generalizing start with
  | nil => rfl
  | cons c digits ih =>
    rw [List.foldl_cons, ih, Nat.ofDigitChars_cons]
    rfl

theorem count_eq_some {chars : List Char} {count : Nat} :
    count? chars = some count ↔ ∃ digits, (chars = digits ∨ chars = '+' :: digits) ∧
      digits ≠ [] ∧ digits.all Char.isDigit = true ∧ Nat.ofDigitChars 10 digits 0 = count := by
  have numeral : ∀ digits : List Char,
      (if !digits.isEmpty && digits.all Char.isDigit then
        some (digits.foldl (fun count c => 10 * count + Json.digitValue c) 0) else none) =
          some count ↔
        digits ≠ [] ∧ digits.all Char.isDigit = true ∧ Nat.ofDigitChars 10 digits 0 = count := by
    intro digits
    simp [foldl_digits, and_assoc]
  unfold count?
  split
  · rename_i digits
    rw [numeral]
    refine ⟨fun read => ⟨digits, .inr rfl, read⟩, ?_⟩
    rintro ⟨others, rfl | same, nonempty, decimal, value⟩
    · exact absurd (List.all_eq_true.mp decimal '+' List.mem_cons_self) (by decide)
    · rw [(List.cons.inj same).2]
      exact ⟨nonempty, decimal, value⟩
  · rename_i unsigned
    rw [numeral]
    refine ⟨fun read => ⟨chars, .inl rfl, read⟩, ?_⟩
    rintro ⟨digits, rfl | same, read⟩
    · exact read
    · exact absurd same (unsigned digits)

theorem toList_toLower (chars : List Char) :
    (String.ofList chars).toLower.toList = chars.map Char.toLower := by
  change (String.map Char.toLower (String.ofList chars)).toList = _
  rw [String.toList_map, String.toList_ofList]

theorem isAlpha_of_word {threshold : Threshold} {chars : List Char}
    (letters : chars.map Char.toLower = threshold.word.toList) : ∀ c ∈ chars, c.isAlpha = true := by
  have small : threshold.word.toList.all Char.isAlpha = true := by
    rcases threshold with _ | _ | _ | _ | _ | _ <;> rfl
  intro c listed
  exact isAlpha_of_toLower
    (List.all_eq_true.mp small _ (letters ▸ List.mem_map_of_mem listed))

/-- A word is no number, whatever the case of its letters. -/
theorem count_of_word {threshold : Threshold} {chars : List Char}
    (letters : chars.map Char.toLower = threshold.word.toList) : count? chars = none := by
  rw [Option.eq_none_iff_forall_ne_some]
  intro count counted
  obtain ⟨digits, signed, nonempty, decimal, -⟩ := count_eq_some.mp counted
  obtain ⟨d, rest, rfl⟩ := List.exists_cons_of_ne_nil nonempty
  have listed : d ∈ chars := by
    rcases signed with rfl | rfl <;> simp
  have letter := isDigit_of_isAlpha (isAlpha_of_word letters d listed)
  rw [List.all_eq_true.mp decimal d List.mem_cons_self] at letter
  exact Bool.noConfusion letter

theorem ofChars_eq_some {chars : List Char} {threshold : Threshold} :
    ofChars? chars = some threshold ↔ threshold.Spelled chars := by
  constructor
  · intro read
    unfold ofChars? at read
    split at read
    · rename_i count counted
      obtain ⟨digits, signed, nonempty, decimal, value⟩ := count_eq_some.mp counted
      exact .count digits signed nonempty decimal (value.trans (ofCount_eq_some.mp read))
    · split at read
      case h_7 => cases read
      all_goals
        rename_i lower
        cases read
        exact .word ((toList_toLower chars).symm.trans (congrArg String.toList lower))
  · intro spelled
    cases spelled with
    | word letters =>
      have lower : (String.ofList chars).toLower = threshold.word := by
        apply String.toList_inj.mp
        rw [toList_toLower, letters]
      rw [ofChars?, count_of_word letters, lower]
      rcases threshold with _ | _ | _ | _ | _ | _ <;> rfl
    | count digits signed nonempty decimal value =>
      rw [ofChars?, count_eq_some.mpr ⟨digits, signed, nonempty, decimal, value⟩]
      exact ofCount_eq_some.mpr rfl

theorem ofChars_eq_none {chars : List Char} :
    ofChars? chars = none ↔ ∀ threshold : Threshold, ¬ threshold.Spelled chars := by
  rw [Option.eq_none_iff_forall_ne_some]
  exact forall_congr' fun _ => not_congr ofChars_eq_some

namespace Spelled

variable {threshold : Threshold} {chars : List Char}

theorem nonempty (spelled : threshold.Spelled chars) : chars ≠ [] := by
  rintro rfl
  cases spelled with
  | word letters => rcases threshold with _ | _ | _ | _ | _ | _ <;> cases letters
  | count digits signed nonempty decimal value =>
    rcases signed with rfl | signed
    · exact nonempty rfl
    · cases signed

theorem isAlphanum (spelled : threshold.Spelled chars) :
    ∀ c ∈ chars, c.isAlphanum = true ∨ c = '+' := by
  intro c listed
  cases spelled with
  | word letters =>
    exact .inl (by rw [Char.isAlphanum, isAlpha_of_word letters c listed, Bool.true_or])
  | count digits signed nonempty decimal value =>
    have digit : ∀ c ∈ digits, c.isAlphanum = true := fun c listed => by
      rw [Char.isAlphanum, List.all_eq_true.mp decimal c listed, Bool.or_true]
    rcases signed with rfl | rfl
    · exact .inl (digit c listed)
    · exact (List.mem_cons.mp listed).symm.imp (digit c) id

theorem comma_notMem (spelled : threshold.Spelled chars) : ',' ∉ chars := fun listed =>
  absurd (spelled.isAlphanum ',' listed) (by decide)

end Spelled

theorem ofLevel_of_nonempty {chars : List Char} (nonempty : chars ≠ []) :
    ofLevel? chars = ofChars? chars := by
  simp [ofLevel?, nonempty]

end Threshold

/-- Whether a character may stand in the path to a part of a program. -/
def isPathChar (c : Char) : Bool := c.isAlphanum || c == '_' || c == ':'

/-- The path to a part of a program. -/
structure Path where
  chars : List Char
  nonempty : chars ≠ []
  plain : chars.all isPathChar = true

/-- A threshold without a sign is made of the characters of a path. -/
def Threshold.Spelled.path {threshold : Threshold} {chars : List Char}
    (spelled : threshold.Spelled chars) (unsigned : '+' ∉ chars) : Path where
  chars
  nonempty := spelled.nonempty
  plain := by
    rw [List.all_eq_true]
    intro c listed
    rcases spelled.isAlphanum c listed with letter | rfl
    · simp [isPathChar, letter]
    · exact absurd listed unsigned

theorem isPathChar_cases {c : Char} (plain : isPathChar c = true) :
    c.isAlphanum = true ∨ c = '_' ∨ c = ':' := by
  simpa [isPathChar, or_assoc] using plain

theorem mayStart_of_isPathChar {c : Char} (plain : isPathChar c = true) :
    Outline.mayStart c = true := by
  rcases isPathChar_cases plain with letter | rfl | rfl
  · simp [Outline.mayStart, Text.isAlphanumeric_of_isAlphanum letter]
  · simp [Outline.mayStart]
  · simp [Outline.mayStart]

theorem solid_of_isPathChar {c : Char} (plain : isPathChar c = true) :
    Text.blanks.contains c = false := by
  have visible : 0x21 ≤ c.toNat ∧ c.toNat < 0x7F := by
    rcases isPathChar_cases plain with letter | rfl | rfl
    · rw [Char.isAlphanum, Bool.or_eq_true] at letter
      have place := letter.imp toNat_of_isAlpha toNat_of_isDigit
      omega
    · decide
    · decide
  exact Text.solid_of_visible visible.1 visible.2

theorem ne_of_isPathChar {c : Char} (plain : isPathChar c = true) :
    c ≠ '=' ∧ c ≠ '[' ∧ c ≠ ',' := by
  refine ⟨?_, ?_, ?_⟩ <;> rintro rfl <;> exact absurd plain (by decide)

namespace Path

variable (path : Path)

theorem isPathChar_of_mem {c : Char} (listed : c ∈ path.chars) : isPathChar c = true :=
  List.all_eq_true.mp path.plain c listed

theorem eq_cons : ∃ c rest, path.chars = c :: rest ∧ isPathChar c = true := by
  obtain ⟨c, rest, spelled⟩ := List.exists_cons_of_ne_nil path.nonempty
  exact ⟨c, rest, spelled, path.isPathChar_of_mem (by simp [spelled])⟩

/-- A path reaches up to the first equals sign. -/
theorem span_append {rest : List Char} (stops : rest = [] ∨ ∃ tail, rest = '=' :: tail) :
    (path.chars ++ rest).span (fun c => c != '=' && c != '[') = (path.chars, rest) := by
  have inside : ∀ c ∈ path.chars, (c != '=' && c != '[') = true := by
    intro c listed
    obtain ⟨equals, bracket, -⟩ := ne_of_isPathChar (path.isPathChar_of_mem listed)
    simp [equals, bracket]
  have outside : rest.takeWhile (fun c => c != '=' && c != '[') = [] ∧
      rest.dropWhile (fun c => c != '=' && c != '[') = rest := by
    rcases stops with rfl | ⟨tail, rfl⟩ <;> simp
  rw [List.span_eq_takeWhile_dropWhile, List.takeWhile_append_of_pos inside,
    List.dropWhile_append_of_pos inside, outside.1, outside.2, List.append_nil]

theorem mayStart_append (rest : List Char) :
    ((path.chars ++ rest).head?.any fun c => c == '[' || Outline.mayStart c) = true := by
  obtain ⟨c, tail, spelled, plain⟩ := path.eq_cons
  simp [spelled, mayStart_of_isPathChar plain]

theorem dropWhile_append (rest : List Char) :
    (path.chars ++ rest).dropWhile Text.blanks.contains = path.chars ++ rest := by
  obtain ⟨c, tail, spelled, plain⟩ := path.eq_cons
  rw [spelled, List.cons_append, List.dropWhile_cons_of_neg (by simp [solid_of_isPathChar plain])]

theorem comma_notMem : ',' ∉ path.chars := fun listed =>
  (ne_of_isPathChar (path.isPathChar_of_mem listed)).2.2 rfl

end Path

namespace Directive

theorem trim_path (path : Path) : trim path.chars = path.chars := by
  let reversed : Path :=
    ⟨path.chars.reverse, by simpa using path.nonempty, by simpa using path.plain⟩
  have front := path.dropWhile_append []
  have back := reversed.dropWhile_append []
  rw [List.append_nil] at front back
  rw [trim, front, back, List.reverse_reverse]

/-- Trimming takes something from the level at most. -/
theorem trim_levelled (target : Path) (level : List Char) :
    ∃ left, trim (target.chars ++ '=' :: level) = target.chars ++ '=' :: left := by
  refine ⟨(level.reverse.dropWhile Text.blanks.contains).reverse, ?_⟩
  have equals : Text.blanks.contains '=' = false := Text.solid_of_visible (by decide) (by decide)
  rw [trim, target.dropWhile_append]
  simp [List.dropWhile_append, equals]

/-- A path alone is a level or a target. -/
theorem ofChars_path (path : Path) : ofChars? path.chars = some (bare path.chars) := by
  have starts := path.mayStart_append []
  have parted := path.span_append (.inl rfl)
  rw [List.append_nil] at starts parted
  have outline : Outline.ofChars? path.chars = some { target := Text.byteCount path.chars } := by
    rw [Outline.ofChars?, if_pos starts, parted]
  rw [ofChars?, trim_path, outline]
  rfl

/-- A target and a level are read as they stand. -/
theorem ofChars_levelled (target : Path) (level : List Char) :
    ofChars? (target.chars ++ '=' :: level) =
      (Threshold.ofLevel? level).map fun threshold => ⟨target.chars, .nothing, threshold⟩ := by
  obtain ⟨left, trimmed⟩ := trim_levelled target level
  have outline : Outline.ofChars? (target.chars ++ '=' :: left) =
      some { target := Text.byteCount target.chars,
             level := some (Text.byteCount target.chars + 1) } := by
    rw [Outline.ofChars?, if_pos (target.mayStart_append _),
      target.span_append (.inr ⟨left, rfl⟩)]
    rfl
  have cut : Text.cut 0 (Text.byteCount target.chars) (target.chars ++ '=' :: level) =
      some target.chars := by
    rw [Text.cut, Text.dropBytes, Option.bind_some, Nat.sub_zero, Text.takeBytes_append]
  have rest : Text.dropBytes (Text.byteCount target.chars + 1) (target.chars ++ '=' :: level) =
      some level := by
    have behind := Text.dropBytes_append (target.chars ++ ['=']) level
    rwa [Text.byteCount_append, List.append_assoc] at behind
  rw [ofChars?, trimmed, outline]
  simp only [Outline.requirement?, cut, rest, Option.bind_eq_bind, Option.bind_some]
  cases Threshold.ofLevel? level <;> rfl

end Directive

end Log

end HintLint
