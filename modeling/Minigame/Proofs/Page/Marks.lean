import Minigame.Proofs.Page.Filled

/-!
The characters of a page that have a meaning in markup.

Escaped text has none of them, and what a script is told has the same ones for every design, so the
pages of a template all have the same marks in the same order.
-/

namespace Minigame.Page

open Minigame.Text

/-- The characters that begin or end a tag or the value of an attribute. -/
def markChars : List Char := ['<', '>', '"', '\'']

/-- Whether a character has a meaning in markup. -/
def isMark (c : Char) : Bool :=
  c ∈ markChars

/-- The marks of a text, in their order. -/
def marks (text : List Char) : List Char :=
  text.filter isMark

/-- Characters of a kind without marks are none. -/
theorem isMark_of_kind {kind : Char → Bool} (others : markChars.any kind = false)
    {c : Char} (ofKind : kind c = true) : isMark c = false := by
  rw [isMark, decide_eq_false_iff_not]
  intro member
  exact List.any_eq_false.mp others c member ofKind

/-- A text without such characters has no marks. -/
theorem marks_eq_nil {text : List Char} (plain : ∀ c ∈ text, isMark c = false) :
    marks text = [] := by
  rw [marks, List.filter_eq_nil_iff]
  intro c member
  simp [plain c member]

theorem marks_append (text more : List Char) : marks (text ++ more) = marks text ++ marks more :=
  List.filter_append ..

theorem marks_cons (c : Char) (text : List Char) : marks (c :: text) = marks [c] ++ marks text :=
  marks_append [c] text

theorem marks_flatMap {α : Type} (part : α → List Char) (parts : List α) :
    marks (parts.flatMap part) = parts.flatMap fun each => marks (part each) :=
  List.filter_flatMap ..

/-- A text that is put together from parts without marks has none. -/
theorem marks_flatMap_eq_nil {α : Type} {part : α → List Char} {parts : List α}
    (plain : ∀ each ∈ parts, marks (part each) = []) : marks (parts.flatMap part) = [] := by
  rw [marks_flatMap, List.flatMap_eq_nil_iff]
  exact plain

/-- Escaping takes the marks out of a text. -/
theorem marks_escapeMarkup (text : List Char) : marks (escapeMarkup text) = [] := by
  refine marks_flatMap_eq_nil fun c _ => ?_
  -- No escape has a mark in it, and every mark has an escape.
  unfold escapeMarkupChar
  split
  case h_7 less greater double single _ =>
    -- What has no escape is none of the four characters.
    simpa [marks, isMark, markChars] using ⟨less, greater, double, single⟩
  all_goals rfl

/-- A digit of any base is no mark. -/
theorem isMark_hexDigitChar (n : Nat) : isMark (hexDigitChar (n % 16)) = false := by
  have each : ∀ digit < 16, isMark (hexDigitChar digit) = false := by decide
  exact each _ (Nat.mod_lt n (by decide))

theorem marks_hexDigits (count n : Nat) : marks (hexDigits count n) = [] := by
  induction count generalizing n with
  | zero => rfl
  -- One digit after the other is written, and none of them is a mark.
  | succ count ih =>
    rw [hexDigits, marks_append, ih, List.nil_append]
    exact marks_eq_nil (by simp [isMark_hexDigitChar])

/-- A natural number is written without marks. -/
theorem marks_nat (n : Nat) : marks (Json.nat n).chars = [] := by
  change marks (Nat.toDigits 10 n) = []
  refine marks_eq_nil fun c member => ?_
  -- Decimal digits are no marks.
  exact isMark_of_kind (by decide) (Nat.isDigit_of_mem_toDigits (by decide) (by decide) member)

theorem marks_bool (value : Bool) : marks (Json.bool value).chars = [] := by
  cases value <;> simp [Json.chars, marks, isMark, markChars]

/-- A character of a string literal keeps its mark, if it is one. -/
theorem marks_escapedChar (c : Char) : marks (Json.escapedChar c) = marks [c] := by
  unfold Json.escapedChar
  split
  case h_1 letter short =>
    -- A double quote stays one behind its backslash, and no other short escape has a mark.
    unfold Json.shortEscape? at short
    split at short <;> cases short <;> rfl
  case h_2 =>
    split
    case isTrue control =>
      -- No mark is a control character.
      have plain : isMark c = false :=
        @isMark_of_kind (fun c => c.toNat < 0x20) (by decide) c (decide_eq_true control)
      have escape : marks ('\\' :: 'u' :: hexDigits 4 c.toNat) = marks (hexDigits 4 c.toNat) := rfl
      rw [escape, marks_hexDigits]
      exact (marks_eq_nil (by simp [plain])).symm
    case isFalse => rfl

/-- A string literal has the marks of its text between two quotes. -/
theorem marks_stringChars (text : String) :
    marks (Json.stringChars text) = '"' :: (marks text.toList ++ ['"']) := by
  have escaped : marks (text.toList.flatMap Json.escapedChar) = marks text.toList := by
    rw [marks_flatMap]
    -- Character by character the marks stay the same.
    simp only [marks_escapedChar]
    rw [← marks_flatMap, List.flatMap_singleton']
  have quotes : marks ['"'] = ['"'] := rfl
  rw [Json.stringChars, marks_cons, marks_append, escaped, quotes]
  rfl

/-- A value in a script has its marks, but no `<`. -/
theorem marks_scriptLiteral (value : Json) :
    marks (scriptLiteral value) = (marks value.chars).filter (· ≠ '<') := by
  have each (c : Char) : marks (scriptChar c) = (marks [c]).filter (· ≠ '<') := by
    by_cases less : c = '<'
    · rw [less]
      rfl
    -- Any other character keeps its marks.
    have kept : (marks [c]).filter (· ≠ '<') = marks [c] := by
      rw [List.filter_eq_self]
      intro other member
      rw [List.mem_singleton.mp (List.mem_filter.mp member).1]
      exact decide_eq_true less
    rw [kept, scriptChar, if_neg less]
    -- The two separators of lines are no marks, and neither are their codes.
    split
    case isTrue separator => rw [separator]; rfl
    case isFalse =>
      split
      case isTrue separator => rw [separator]; rfl
      case isFalse => rfl
  -- One after the other the replacements write each character for itself, so the marks are those
  -- of the single characters.
  rw [scriptLiteral, scriptText_eq, marks_flatMap]
  simp only [each]
  rw [← List.filter_flatMap, ← marks_flatMap, List.flatMap_singleton']

/-- A mapping has the marks of its names and values. -/
theorem marks_obj (fields : Fields Json) :
    marks (Json.obj fields).chars
      = fields.flatMap fun field => marks (Json.stringChars field.1) ++ marks field.2.chars := by
  have rest : ∀ fields : Fields Json, marks (Json.fieldsChars fields)
      = fields.flatMap fun field => marks (Json.stringChars field.1) ++ marks field.2.chars := by
    intro fields
    induction fields with
    | nil => simp [Json.fieldsChars, marks, isMark, markChars]
    | cons field fields ih =>
      -- A comma, a name, a colon and a value come next, and the rest of the fields.
      rw [Json.fieldsChars, marks_cons, marks_append, marks_cons ':', marks_append, ih,
        List.flatMap_cons, List.append_assoc]
      rfl
  -- The first field has no comma in front of it, which is no mark in any case.
  cases fields with
  | nil => simp [Json.chars, marks, isMark, markChars]
  | cons field fields =>
    rw [Json.chars, marks_cons, marks_append, marks_cons ':', marks_append, rest,
      List.flatMap_cons, List.append_assoc]
    rfl

/-- The marks of a mapping are decided by the names and the marks of the values. -/
theorem marks_ofFields_congr {entries others : List (String × Json)}
    (same : entries.map (Prod.map id fun value => marks value.chars)
      = others.map (Prod.map id fun value => marks value.chars)) :
    marks (Json.ofFields entries).chars = marks (Json.ofFields others).chars := by
  -- The marks can be taken of the values before they are put in order by their names.
  have view (entries : List (String × Json)) : marks (Json.ofFields entries).chars
      = (Fields.ofList (entries.map (Prod.map id fun value => marks value.chars))).flatMap
        fun field => marks (Json.stringChars field.1) ++ field.2 := by
    rw [Json.ofFields, marks_obj, ← Fields.map_ofList, List.flatMap_map]
    rfl
  rw [view, view, same]

/-- A text without marks is written between two quotes alone. -/
theorem marks_str {text : String} (plain : marks text.toList = []) :
    marks (Json.str text).chars = ['"', '"'] := by
  -- There is nothing to escape.
  rw [Json.chars, marks_stringChars, plain]
  rfl

/-- A letter or digit is no mark, also in upper case. -/
theorem isMark_asciiUpperChar {c : Char} (plain : isAsciiLetter c || isAsciiDigit c) :
    isMark (asciiUpperChar c) = false := by
  unfold asciiUpperChar
  split
  case isTrue lower =>
    -- A letter goes from lower to upper case, and the letters are few.
    have upper : ∀ code ≤ 122, 97 ≤ code → isMark (Char.ofNat (code - 32)) = false := by decide
    exact upper c.toNat lower.2 lower.1
  case isFalse =>
    exact @isMark_of_kind (fun c => isAsciiLetter c || isAsciiDigit c) (by decide) c plain

/-- The key that pauses a game is no mark, whatever a design asks for. -/
theorem isMark_pauseKey (doc : Json) : isMark (Survival.Game.ofDesign doc).pauseKey = false := by
  change isMark (Survival.Game.pauseKeyOf doc) = false
  unfold Survival.Game.pauseKeyOf
  split
  case h_1 =>
    split
    -- The key that the design asks for is a letter or a digit.
    case isTrue key => exact isMark_asciiUpperChar key
    case isFalse => rfl
  case h_2 => rfl

theorem marks_pauseText (doc : Json) : marks (pauseText (.ofDesign doc)).toList = [] := by
  rw [pauseText, String.toList_singleton]
  exact marks_eq_nil (by simp [isMark_pauseKey])

theorem marks_skin (skin : Skin) : marks skin.name.toList = [] := by
  cases skin <;> decide

theorem marks_noun (skin : Skin) : marks (wording skin).noun.toList = [] := by
  cases skin <;> decide

theorem marks_short (digest : Digest) : marks digest.short.toList = [] := by
  rw [Digest.short, String.toList_ofList]
  exact marks_flatMap_eq_nil fun byte _ => marks_hexDigits 2 byte.toNat

/-- The name of a best time ends in hexadecimal digits, whatever the title is. -/
theorem marks_bestTimeKey (game : Survival.Game) : marks game.bestTimeKey.toList = [] := by
  have front : marks "gamespec_best_v1_".toList = [] := by decide
  -- The name has a fixed beginning, and digits behind it.
  change marks ("gamespec_best_v1_" ++ (Digest.compute (utf8 game.scene.title)).short).toList = []
  rw [String.toList_append, marks_append, front, marks_short]
  rfl

/-- What a script is told about a game has the same marks for every design. -/
theorem marks_runtimeFields (doc other : Json) :
    marks (Json.ofFields (Survival.Game.ofDesign doc).runtimeFields).chars
      = marks (Json.ofFields (Survival.Game.ofDesign other).runtimeFields).chars := by
  have mode (perInterval : Bool) :
      marks (Json.str (if perInterval then "linear" else "doubling")).chars = ['"', '"'] := by
    cases perInterval <;> exact marks_str (by decide)
  have key (doc : Json) : marks
      (Json.str (String.singleton (Survival.Game.ofDesign doc).pauseKey)).chars = ['"', '"'] :=
    marks_str (marks_pauseText doc)
  -- Numbers and truth values have no marks, and all texts are words of this library or spelled in
  -- letters and digits.
  apply marks_ofFields_congr
  simp only [Survival.Game.runtimeFields, List.map_cons, List.map_nil, Prod.map, id, marks_nat,
    marks_bool, mode, key, marks_str (marks_skin _), marks_str (marks_bestTimeKey _)]

/-- The marks of some parts of a page. -/
def pieceMarks (pieces : List Piece) : List Char :=
  marks (pieces.flatMap Piece.chars)

theorem marks_render (pieces : List Piece) : marks (render pieces).toList = pieceMarks pieces := by
  rw [render, String.toList_ofList]
  rfl

theorem pieceMarks_append (pieces more : List Piece) :
    pieceMarks (pieces ++ more) = pieceMarks pieces ++ pieceMarks more := by
  rw [pieceMarks, List.flatMap_append, marks_append]
  rfl

theorem pieceMarks_line (pieces : List Piece) : pieceMarks (line pieces) = pieceMarks pieces := by
  -- A line ends with a line feed, which is no mark.
  have feed : pieceMarks [.fixed "\n"] = [] := by decide
  rw [line, pieceMarks_append, feed, List.append_nil]

theorem pieceMarks_cons (piece : Piece) (pieces : List Piece) :
    pieceMarks (piece :: pieces) = marks piece.chars ++ pieceMarks pieces := by
  rw [pieceMarks, List.flatMap_cons, marks_append]
  rfl

theorem marks_shown (text : String) : marks (Piece.shown text).chars = [] :=
  marks_escapeMarkup text.toList

theorem marks_hiddenUnless (shown : Bool) : marks (hiddenUnless shown).chars = [] := by
  cases shown <;> decide

theorem marks_data (value : Json) :
    marks (Piece.data value).chars = (marks value.chars).filter (· ≠ '<') :=
  marks_scriptLiteral value

/-- All sandbox pages have the same marks. -/
theorem pieceMarks_sandbox (game other : Sandbox.Game) :
    pieceMarks (sandboxPieces game) = pieceMarks (sandboxPieces other) := by
  have data : marks (sandboxData game).chars = marks (sandboxData other).chars := by
    apply marks_ofFields_congr
    simp only [List.map_cons, List.map_nil, Prod.map, id, marks_nat]
  simp only [sandboxPieces, sandboxBody, pieceMarks_append, pieceMarks_line, pieceMarks_cons,
    marks_shown, number, marks_data, data]

/-- All survival pages have the same marks. -/
theorem pieceMarks_survival (doc other : Json) :
    pieceMarks (survivalPieces (.ofDesign doc))
      = pieceMarks (survivalPieces (.ofDesign other)) := by
  have noun (skin : Skin) : marks (Json.str (wording skin).noun).chars = ['"', '"'] :=
    marks_str (marks_noun skin)
  have key (doc : Json) : marks (Json.str (pauseText (.ofDesign doc))).chars = ['"', '"'] :=
    marks_str (marks_pauseText doc)
  simp only [survivalPieces, survivalHead, survivalHud, survivalStage, survivalPanel, survivalData,
    pieceMarks_append, pieceMarks_line, pieceMarks_cons, marks_shown, marks_hiddenUnless, number,
    marks_data, marks_runtimeFields doc other, noun, key]

end Minigame.Page
