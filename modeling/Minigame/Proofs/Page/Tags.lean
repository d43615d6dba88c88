import Minigame.Proofs.Page.Marks

/-!
The tags of a page.

What a design says is shown between tags or inside the value of an attribute, so a reader that tells
tags from text finds the same tags with the same attributes in all pages of a template.
-/

namespace Minigame.Page

open Minigame.Text

/--
Where a reader of markup is; what it has seen of a tag is in reverse.

It reads styles and scripts like any other text, so it finds tags in them, too, if there are any.
-/
inductive Reading where
  | text
  /-- Behind a `<`. -/
  | opened
  | tag (seen : List Char)
  /-- In the value of an attribute. -/
  | quoted (quote : Char) (seen : List Char)
  deriving DecidableEq

namespace Reading

/-- Where the reader is after a character. -/
def next : Reading → Char → Reading
  | .text, c => if c = '<' then .opened else .text
  | .opened, c =>
    if c = '<' then .opened
    else if isAsciiLetter c || c = '/' || c = '!' then .tag [c]
    else .text
  | .tag seen, c =>
    if c = '>' then .text
    else if c = '"' || c = '\'' then .quoted c (c :: seen)
    else .tag (c :: seen)
  | .quoted quote seen, c => if c = quote then .tag (c :: seen) else .quoted quote seen

/-- The tag that ends with a character. -/
def ended : Reading → Char → List (List Char)
  | .tag seen, c => if c = '>' then [seen.reverse] else []
  | _, _ => []

/-- Where the reader is after a text, and the tags that ended in it. -/
def read : Reading → List Char → Reading × List (List Char)
  | reading, [] => (reading, [])
  | reading, c :: rest =>
    let (last, tags) := read (reading.next c) rest
    (last, reading.ended c ++ tags)

theorem read_append (reading : Reading) (text more : List Char) :
    reading.read (text ++ more)
      = (((reading.read text).1.read more).1,
        (reading.read text).2 ++ ((reading.read text).1.read more).2) := by
  induction text generalizing reading with
  | nil => rfl
  | cons c rest ih =>
    -- The rest is read from where the first character has led.
    rw [List.cons_append, read, ih]
    simp only [read, List.append_assoc]

/-- Whether a text without marks leaves the reader where it is. -/
def isSteady : Reading → Bool
  | .text => true
  | .quoted quote _ => isMark quote
  | _ => false

theorem read_of_steady {reading : Reading} (steady : reading.isSteady = true) {text : List Char}
    (plain : marks text = []) : reading.read text = (reading, []) := by
  induction text with
  | nil => rfl
  | cons c rest ih =>
    rw [marks, List.filter_eq_nil_iff, List.forall_mem_cons] at plain
    -- Only a `<` ends a text and only its own quote the value of an attribute; both are marks.
    have stays : reading.next c = reading ∧ reading.ended c = [] := by
      -- Outside of a tag only a `<` leads on.
      cases reading with
      | text =>
        refine ⟨if_neg ?_, rfl⟩
        rintro rfl
        exact plain.1 rfl
      -- Inside a value only the quote that opened it leads on.
      | quoted quote seen =>
        refine ⟨if_neg ?_, rfl⟩
        rintro rfl
        exact plain.1 steady
      | _ => contradiction
    rw [read, stays.1, stays.2, ih (List.filter_eq_nil_iff.mpr plain.2)]
    rfl

/-- Outside of tags nothing begins one but a `<`. -/
theorem read_text {text : List Char} (closed : '<' ∉ text) : read .text text = (.text, []) := by
  induction text with
  | nil => rfl
  | cons c rest ih =>
    rw [List.mem_cons, not_or] at closed
    -- The first character does not open a tag.
    have stays : next .text c = .text := if_neg fun less => closed.1 less.symm
    rw [read, stays, ih closed.2]
    rfl

end Reading

/-- Whether a character stands between the name and the attributes of a tag. -/
def isGap (c : Char) : Bool :=
  c ∈ ['\t', '\n', '\x0c', '\r', ' ', '/']

/--
The name of a tag and its attributes, in lower case.

A closing tag has an empty word in front of its name.
-/
def words (tag : List Char) : List String :=
  ((tag.map asciiLowerChar).splitOnP isGap).map String.ofList

/-- The words of a tag without the attribute of an element that is not shown. -/
def bare (tag : List Char) : List String :=
  (words tag).filter (· ≠ "hidden")

/--
The tags of a page in their order, without the values of their attributes.

The attribute that hides a readout is left out, because a page has it wherever a design turns a
readout off.
-/
def outline (page : String) : List (List String) :=
  (Reading.read .text page.toList).2.map bare

theorem words_append {gap : Char} (apart : isGap (asciiLowerChar gap) = true)
    (tag more : List Char) : words (tag ++ gap :: more) = words tag ++ words more := by
  -- The gap ends the last word in front of it.
  rw [words, List.map_append, List.map_cons, List.splitOnP_append_cons _ _ apart, List.map_append]
  rfl

theorem bare_hidden (tag : List Char) : bare (tag ++ " hidden".toList) = bare tag := by
  -- Behind the gap the attribute is a word of its own, and it is the one that is left out.
  have dropped : bare "hidden".toList = [] := by decide
  have behind : " hidden".toList = ' ' :: "hidden".toList := by decide
  rw [behind, bare, words_append (by decide), List.filter_append]
  exact (congrArg (bare tag ++ ·) dropped).trans (List.append_nil _)

/-- A part of a page without what it shows. -/
inductive Part where
  | fixed (chars : List Char)
  | shown
  | data
  /-- The attribute of an element that may not be shown. -/
  | hidden

/-- What some parts of a page are without what they show. -/
inductive Spelled : List Piece → List Part → Prop where
  | nil : Spelled [] []
  | fixed (chars : List Char) {pieces : List Piece} {parts : List Part}
    (rest : Spelled pieces parts) :
    Spelled (.fixed (String.ofList chars) :: pieces) (.fixed chars :: parts)
  | shown (text : String) {pieces : List Piece} {parts : List Part}
    (rest : Spelled pieces parts) : Spelled (.shown text :: pieces) (.shown :: parts)
  | data (value : Json) {pieces : List Piece} {parts : List Part}
    (rest : Spelled pieces parts) : Spelled (.data value :: pieces) (.data :: parts)
  | hidden (shown : Bool) {pieces : List Piece} {parts : List Part}
    (rest : Spelled pieces parts) : Spelled (hiddenUnless shown :: pieces) (.hidden :: parts)

/--
The tags of a page, read off without what it shows.

Nothing is read off a page that shows something in a place where it could become markup: texts may
be shown between tags and in values of attributes, data between tags alone, and the attribute of an
element that is not shown is the last one of its tag.
-/
def follow : Reading → List Part → Option (List (List Char))
  | _, [] => some []
  | reading, .fixed chars :: rest =>
    (follow (reading.read chars).1 rest).map ((reading.read chars).2 ++ ·)
  | reading, .shown :: rest => if reading.isSteady then follow reading rest else none
  | .text, .data :: rest => follow .text rest
  | .tag seen, .hidden :: .fixed ('>' :: chars) :: rest =>
    (follow (Reading.read .text chars).1 rest).map
      (seen.reverse :: (Reading.read .text chars).2 ++ ·)
  | _, _ => none

/-- No tag begins inside a value of a script. -/
theorem lt_notMem_scriptLiteral (value : Json) : '<' ∉ scriptLiteral value := by
  intro member
  -- It would be a mark, and inside a script a value has none of this kind.
  have marked : '<' ∈ marks (scriptLiteral value) := List.mem_filter.mpr ⟨member, by decide⟩
  rw [marks_scriptLiteral] at marked
  simpa using (List.mem_filter.mp marked).2

/-- The attribute of an element that is not shown is a word of its tag and nothing else. -/
theorem read_hiddenUnless (seen : List Char) (shown : Bool) :
    ∃ seen', (Reading.tag seen).read (hiddenUnless shown).chars = (.tag seen', [])
      ∧ bare seen'.reverse = bare seen.reverse := by
  cases shown with
  -- Nothing is written for an element that is shown.
  | true => exact ⟨seen, rfl, rfl⟩
  | false =>
    refine ⟨" hidden".toList.reverse ++ seen, rfl, ?_⟩
    rw [List.reverse_append, List.reverse_reverse]
    exact bare_hidden seen.reverse

/-- What is shown on a page has no part in its tags. -/
theorem Spelled.map_bare {pieces : List Piece} {parts : List Part} (spelled : Spelled pieces parts)
    {reading : Reading} {tags : List (List Char)} (followed : follow reading parts = some tags) :
    (reading.read (pieces.flatMap Piece.chars)).2.map bare = tags.map bare := by
  -- By induction along the parts; in the cases without tags nothing was read off.
  fun_induction follow reading parts generalizing pieces tags with
  | case1 =>
    cases spelled
    cases followed
    rfl
  | case2 reading chars rest ih =>
    -- The text of the page is read first, and the tags that end in it come first.
    obtain ⟨others, behind, rfl⟩ := Option.map_eq_some_iff.mp followed
    cases spelled with
    | fixed _ spelled =>
      rw [List.flatMap_cons, Reading.read_append, Piece.chars, String.toList_ofList,
        List.map_append, List.map_append, ih spelled behind]
  | case3 reading rest steady ih =>
    cases spelled with
    -- A text that is shown has no marks, so the reader stays where it is.
    | shown text spelled =>
      rw [List.flatMap_cons, Reading.read_append,
        Reading.read_of_steady steady (marks_shown text), List.nil_append]
      exact ih spelled followed
  | case4 => cases followed
  | case5 rest ih =>
    cases spelled with
    -- Data stands between tags, and no tag begins in it.
    | data value spelled =>
      rw [List.flatMap_cons, Reading.read_append,
        show (Piece.data value).chars = scriptLiteral value from rfl,
        Reading.read_text (lt_notMem_scriptLiteral value), List.nil_append]
      exact ih spelled followed
  | case6 seen chars rest ih =>
    obtain ⟨others, behind, rfl⟩ := Option.map_eq_some_iff.mp followed
    cases spelled with
    | hidden shown spelled =>
      cases spelled with
      | @fixed _ pieces _ spelled =>
        -- Whether the attribute is there or not, the tag ends right behind it.
        obtain ⟨seen', marked, same⟩ := read_hiddenUnless seen shown
        have close : (Piece.fixed (String.ofList ('>' :: chars))).chars = '>' :: chars :=
          String.toList_ofList
        have read : (Reading.tag seen').read ('>' :: chars)
            = ((Reading.read .text chars).1, seen'.reverse :: (Reading.read .text chars).2) := rfl
        rw [List.flatMap_cons, Reading.read_append, marked, List.nil_append, List.flatMap_cons,
          Reading.read_append, close, read]
        simp only [List.cons_append, List.map_cons, List.map_append, same, ih spelled behind]
  | case7 => cases followed

/-- Whether exactly one tag opens a script and exactly one closes it. -/
def HasOneScript (tags : List (List String)) : Prop :=
  tags.countP (["script"].isPrefixOf ·) = 1 ∧ tags.countP (["", "script"].isPrefixOf ·) = 1

instance (tags : List (List String)) : Decidable (HasOneScript tags) :=
  inferInstanceAs (Decidable (_ ∧ _))

/-- Whether parts of a page follow each other as they should, with one script among their tags. -/
def IsSafe (parts : List Part) : Prop :=
  (follow .text parts).any fun tags => HasOneScript (tags.map bare)

instance (parts : List Part) : Decidable (IsSafe parts) :=
  inferInstanceAs (Decidable (_ = true))

/-- Pages that are the same without what they show have the same tags. -/
theorem exists_outline {Game : Type} {pieces : Game → List Piece}
    (spelled : ∃ parts, (∀ game, Spelled (pieces game) parts) ∧ IsSafe parts) :
    ∃ tags, HasOneScript tags ∧ ∀ game, outline (render (pieces game)) = tags := by
  obtain ⟨parts, spelled, checked⟩ := spelled
  obtain ⟨tags, followed, scripts⟩ := (Option.any_eq_true _ _).mp checked
  refine ⟨tags.map bare, of_decide_eq_true scripts, fun game => ?_⟩
  rw [outline, render, String.toList_ofList]
  exact (spelled game).map_bare followed

theorem Spelled.append {pieces others : List Piece} {parts more : List Part}
    (front : Spelled pieces parts) (back : Spelled others more) :
    Spelled (pieces ++ others) (parts ++ more) := by
  induction front with
  -- Part by part, as the first page is spelled.
  | nil => exact back
  | fixed chars _ ih => exact .fixed chars ih
  | shown text _ ih => exact .shown text ih
  | data value _ ih => exact .data value ih
  | hidden shown _ ih => exact .hidden shown ih

theorem lines_append (texts more : List String) :
    lines (texts ++ more) = lines texts ++ lines more :=
  List.flatMap_append

/-- A sandbox page shows all it is told in places where no markup can begin. -/
theorem sandboxPieces_spelled :
    ∃ parts, (∀ game, Spelled (sandboxPieces game) parts) ∧ IsSafe parts := by
  -- The parts are found along with the proof that they spell the page, whatever game it is for.
  apply Exists.intro
  refine ⟨fun game => ?spelled, ?safe⟩
  case spelled =>
    simp only [sandboxPieces, sandboxBody, sandboxScript, lines, line, number, List.flatMap_cons,
      List.flatMap_nil, List.cons_append, List.nil_append, List.append_nil]
    -- The constructors follow the pieces one by one.
    repeat (first
      | apply Spelled.fixed | apply Spelled.shown | apply Spelled.data | exact .nil)
  case safe => decide +kernel

/-- So does a survival page. -/
theorem survivalPieces_spelled :
    ∃ parts, (∀ game, Spelled (survivalPieces game) parts) ∧ IsSafe parts := by
  apply Exists.intro
  refine ⟨fun game => ?spelled, ?safe⟩
  case spelled =>
    -- Section by section, because the page is long.
    simp only [survivalPieces, survivalScript, lines_append]
    repeat' with_reducible apply Spelled.append
    all_goals
      simp only [survivalHead, survivalStyles, survivalHud, survivalStage, survivalPanel,
        survivalData, canvasScript, elementScript, bestTimeScript, soundScript, paletteScript,
        stateScript, spawnScript, scheduleScript, updateScript, drawScript, frameScript, cardScript,
        controlScript, pointerScript, lines, line, number, List.flatMap_cons, List.flatMap_nil,
        List.cons_append, List.nil_append, List.append_nil]
      repeat (first
        | apply Spelled.fixed | apply Spelled.shown | apply Spelled.data | apply Spelled.hidden
        | exact .nil)
  case safe => decide +kernel

theorem sandboxPage_markup (doc other : Json) :
    marks (sandboxPage doc).toList = marks (sandboxPage other).toList
      ∧ outline (sandboxPage doc) = outline (sandboxPage other)
      ∧ HasOneScript (outline (sandboxPage doc)) := by
  obtain ⟨tags, script, each⟩ := exists_outline sandboxPieces_spelled
  refine ⟨?_, (each _).trans (each _).symm, (each (.ofDesign doc)).symm ▸ script⟩
  rw [sandboxPage, sandboxPage, marks_render, marks_render]
  exact pieceMarks_sandbox _ _

theorem survivalPage_markup (doc other : Json) :
    marks (survivalPage doc).toList = marks (survivalPage other).toList
      ∧ outline (survivalPage doc) = outline (survivalPage other)
      ∧ HasOneScript (outline (survivalPage doc)) := by
  obtain ⟨tags, script, each⟩ := exists_outline survivalPieces_spelled
  refine ⟨?_, (each _).trans (each _).symm, (each (.ofDesign doc)).symm ▸ script⟩
  rw [survivalPage, survivalPage, marks_render, marks_render]
  exact pieceMarks_survival doc other

namespace Registry

/--
No text of a design becomes markup.

Designs with the same template have pages with the same marks, with the same tags and attributes,
and with one script each.
-/
theorem standard_compile_markup (doc other : Json)
    (same : (standard.select doc).id = (standard.select other).id) :
    marks (standard.compile doc).toList = marks (standard.compile other).toList
      ∧ outline (standard.compile doc) = outline (standard.compile other)
      ∧ HasOneScript (outline (standard.compile doc)) := by
  -- The renderers have different names, so both designs have the same one.
  have apart : sandboxRenderer.id ≠ survivalRenderer.id := by decide
  rw [compile, compile]
  rcases standard_select doc with selected | selected <;>
    rcases standard_select other with selected' | selected' <;>
    rw [selected, selected'] at same ⊢
  · exact sandboxPage_markup doc other
  · exact absurd same apart
  · exact absurd same.symm apart
  · exact survivalPage_markup doc other

/-- A game with a title that would begin a script. -/
def scripted : Json :=
  Json.ofFields [("meta", Json.ofFields [("template", .str "bubble_clicker"),
      ("title", .str "\"></title><script>alert('Pop')</script>")]),
    ("hud", Json.ofFields [("show_time", .bool false), ("pause_hotkey", .str "'")])]

/-- Its page has the tags of a page without a title. -/
theorem standard_compile_markup_scripted :
    let plain := Json.ofFields [("meta", Json.ofFields [("template", .str "bubble_clicker")])]
    (standard.select scripted).id = (standard.select plain).id
      ∧ marks (standard.compile scripted).toList = marks (standard.compile plain).toList
      ∧ outline (standard.compile scripted) = outline (standard.compile plain)
      ∧ HasOneScript (outline (standard.compile scripted)) := by
  intro plain
  have same : (standard.select scripted).id = (standard.select plain).id := by decide
  exact ⟨same, standard_compile_markup scripted plain same⟩

end Registry

end Minigame.Page
