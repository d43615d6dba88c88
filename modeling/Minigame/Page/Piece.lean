import Minigame.Json.Printer

/-! Pages put together from fixed text, escaped text and script data. -/

namespace Minigame.Page

/-- A part of a page. -/
inductive Piece where
  /-- Text of the page itself. -/
  | fixed (text : String)
  /-- Text that must not be read as markup. -/
  | shown (text : String)
  /-- A value inside a script. -/
  | data (value : Json)

/-- A character with its special meaning in markup taken away. -/
def escapeMarkupChar (c : Char) : List Char :=
  match c with
  | '&' => "&amp;".toList
  | '<' => "&lt;".toList
  | '>' => "&gt;".toList
  | '"' => "&quot;".toList
  | '\'' => "&#x27;".toList
  | '/' => "&#x2F;".toList
  | c => [c]

/-- A text without any special meaning in markup. -/
def escapeMarkup (text : List Char) : List Char :=
  text.flatMap escapeMarkupChar

/-- A text with another text in place of each occurrence of a character. -/
def replaceChar (old : Char) (new : String) (text : List Char) : List Char :=
  text.flatMap fun c => if c = old then new.toList else [c]

/-- JSON text inside a script, where no tag and no line may end. -/
def scriptText (json : List Char) : List Char :=
  -- Inside a string of a script each code stands for the character that it takes the place of.
  let tagless := replaceChar '<' "\\u003c" json
  let unbroken := replaceChar '\u2028' "\\u2028" tagless
  replaceChar '\u2029' "\\u2029" unbroken

/-- What the replacements make of one character of JSON text. -/
def scriptChar (c : Char) : List Char :=
  if c = '<' then "\\u003c".toList
  else if c = '\u2028' then "\\u2028".toList
  else if c = '\u2029' then "\\u2029".toList
  else [c]

/-- The replacements can be made in one pass, character by character. -/
theorem scriptText_eq (json : List Char) : scriptText json = json.flatMap scriptChar := by
  simp only [scriptText, replaceChar, List.flatMap_assoc]
  refine congrArg json.flatMap (funext fun c => ?_)
  -- A code has no character that a later replacement could take for one of its own.
  unfold scriptChar
  by_cases tag : c = '<'
  · subst tag
    decide
  by_cases line : c = '\u2028'
  · subst line
    decide
  by_cases paragraph : c = '\u2029'
  · subst paragraph
    decide
  -- Any other character goes through all three.
  simp only [if_neg tag, if_neg line, if_neg paragraph, List.flatMap_cons, List.flatMap_nil,
    List.append_nil]

/-- A value as a literal inside a script. -/
def scriptLiteral (value : Json) : List Char :=
  scriptText value.chars

/-- The text of a part. -/
def Piece.chars : Piece → List Char
  | .fixed text => text.toList
  | .shown text => escapeMarkup text.toList
  | .data value => scriptLiteral value

/-- The text of a page. -/
def render (pieces : List Piece) : String :=
  String.ofList (pieces.flatMap Piece.chars)

/-- One line of a page. -/
def line (pieces : List Piece) : List Piece :=
  pieces ++ [.fixed "\n"]

/-- Lines of a page that never change. -/
def lines (texts : List String) : List Piece :=
  texts.flatMap fun text => line [.fixed text]

/-- A natural number shown on a page. -/
def number (n : Nat) : Piece :=
  .shown (toString n)

end Minigame.Page
