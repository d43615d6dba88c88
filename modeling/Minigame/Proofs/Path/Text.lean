import Minigame.Proofs.Json.Address

/-!
Paths and their texts.

A text is read exactly if it is written the way paths are, so reading and writing undo each other up
to the slash in front.
-/

namespace Minigame

namespace Path

/-- Every tilde of a text stands right in front of a zero or a one. -/
def TildesMarked (text : List Char) : Prop :=
  ∀ rest, '~' :: rest <:+ text → rest.head? = some '0' ∨ rest.head? = some '1'

theorem tildesMarked_nil : TildesMarked [] := by
  intro rest suffix
  exact absurd suffix.length_le (by simp)

/-- The tildes of a text are its first character, if that is one, and those of what follows. -/
theorem tildesMarked_cons {c : Char} {rest : List Char} :
    TildesMarked (c :: rest) ↔
      (c = '~' → rest.head? = some '0' ∨ rest.head? = some '1') ∧ TildesMarked rest := by
  constructor
  · intro marked
    -- The tildes behind the first character are tildes of the text.
    refine ⟨?_, fun later suffix => marked later (suffix.trans (List.suffix_cons c rest))⟩
    rintro rfl
    exact marked rest List.suffix_rfl
  · rintro ⟨first, others⟩ later suffix
    -- A rest that starts with a tilde is the whole text, or it lies behind the first character.
    rcases List.suffix_cons_iff.mp suffix with whole | within
    · obtain ⟨rfl, rfl⟩ := List.cons.inj whole
      exact first rfl
    · exact others later within

/-- A character other than a tilde needs no mark behind it. -/
theorem tildesMarked_cons_of_ne {c : Char} (plain : c ≠ '~') {rest : List Char} :
    TildesMarked (c :: rest) ↔ TildesMarked rest := by
  rw [tildesMarked_cons]
  exact and_iff_right fun tilde => absurd tilde plain

/-- A written segment is read exactly if its tildes are marked. -/
theorem unescape?_isSome (written : List Char) :
    (unescape? written).isSome ↔ TildesMarked written := by
  fun_induction unescape? written with
  | case1 => exact iff_of_true rfl tildesMarked_nil
  | case2 rest ih => simp [tildesMarked_cons, ih]
  | case3 rest ih => simp [tildesMarked_cons, ih]
  | case4 rest notZero notOne =>
    -- This tilde is the last character, or another character than a mark follows it.
    refine iff_of_false (by simp) fun marked => ?_
    rcases rest with _ | ⟨mark, rest⟩
    · -- It is the last one, and nothing marks it.
      simpa using (tildesMarked_cons.mp marked).1 rfl
    · have behind := (tildesMarked_cons.mp marked).1 rfl
      simp only [List.head?_cons, Option.some.injEq] at behind
      rcases behind with rfl | rfl
      · -- A zero or a one behind it would have been read together with the tilde.
        exact notZero rest rfl rfl
      · exact notOne rest rfl rfl
  | case5 c rest _ _ plain ih => simp [tildesMarked_cons_of_ne plain, ih]

/-- A text without a slash that is read as a segment is the written form of that segment. -/
theorem eq_escape_of_unescape? {written segment : List Char} (whole : '/' ∉ written)
    (read : unescape? written = some segment) : written = escape segment := by
  fun_induction unescape? written generalizing segment with
  | case1 =>
    obtain rfl := Option.some.inj read
    rfl
  | case2 rest ih =>
    -- A zero behind the tilde stands for the tilde, and it is written so again.
    obtain ⟨others, later, rfl⟩ := Option.map_eq_some_iff.mp read
    simpa [escape, escapeChar] using ih (by simp_all) later
  | case3 rest ih =>
    -- A one behind it stands for a slash.
    obtain ⟨others, later, rfl⟩ := Option.map_eq_some_iff.mp read
    simpa [escape, escapeChar] using ih (by simp_all) later
  | case4 => exact absurd read (by simp)
  | case5 c rest _ _ plain ih =>
    -- Another character is itself, and a slash is excluded.
    obtain ⟨others, later, rfl⟩ := Option.map_eq_some_iff.mp read
    have other : c ≠ '/' := fun slash => whole (slash ▸ List.mem_cons_self ..)
    simpa [escape, escapeChar, plain, other] using ih (fun there => whole (.tail _ there)) later

/-- Reading a piece between slashes accepts exactly what writing a segment produces. -/
theorem readSegment_eq_ok_iff {written : List Char} (whole : '/' ∉ written) (segment : String) :
    readSegment written = .ok segment ↔ written = escape segment.toList := by
  constructor
  · intro read
    unfold readSegment at read
    split at read
    · next found =>
      obtain rfl := Except.ok.inj read
      rw [String.toList_ofList]
      exact eq_escape_of_unescape? whole found
    · cases read
  · -- What was written is read back, whatever it is.
    rintro rfl
    simp [readSegment]

/-- A piece between slashes is read exactly if its tildes are marked. -/
theorem readSegment_isOk_iff (written : List Char) :
    (∃ segment, readSegment written = .ok segment) ↔ TildesMarked written := by
  rw [← unescape?_isSome, readSegment]
  cases unescape? written <;> simp

/-- Reading pieces accepts exactly the written forms of segments. -/
theorem readSegments_eq_ok_iff {pieces : List (List Char)} (whole : ∀ piece ∈ pieces, '/' ∉ piece)
    (segments : List String) :
    pieces.mapM readSegment = .ok segments ↔
      pieces = segments.map fun segment => escape segment.toList := by
  -- Piece by piece: the first one is a segment, and the others are segments.
  induction pieces generalizing segments with
  | nil => cases segments <;> simp [pure, Except.pure]
  | cons piece pieces ih =>
    have first := readSegment_eq_ok_iff (whole piece (.head _))
    have others := ih fun piece member => whole piece (.tail _ member)
    rw [List.mapM_cons]
    cases segments with
    | nil =>
      cases readSegment piece <;> cases pieces.mapM readSegment <;>
        simp [bind, Except.bind, pure, Except.pure]
    | cons segment segments =>
      rw [List.map_cons, List.cons.injEq, ← first, ← others]
      cases readSegment piece <;> cases pieces.mapM readSegment <;>
        simp [bind, Except.bind, pure, Except.pure]

/-- Pieces are all read exactly if each of them is. -/
theorem readSegments_isOk_iff (pieces : List (List Char)) :
    (∃ segments, pieces.mapM readSegment = .ok segments) ↔
      ∀ piece ∈ pieces, TildesMarked piece := by
  induction pieces with
  | nil => simp [pure, Except.pure]
  | cons piece pieces ih =>
    rw [List.forall_mem_cons, ← ih, ← readSegment_isOk_iff, List.mapM_cons]
    -- The result is there if the first piece is read and the others are.
    cases readSegment piece <;> cases pieces.mapM readSegment <;>
      simp [bind, Except.bind, pure, Except.pure]

end Path

/-- The pieces of a text between slashes hold no slash. -/
theorem separator_notMem_splitChars (separator : Char) (text : List Char) :
    ∀ piece ∈ splitChars separator text, separator ∉ piece := by
  fun_induction splitChars separator text with
  | case1 => simp
  | case2 rest ih => simpa using ih
  -- A separator ends its piece without getting into it.
  | case3 c rest other piece pieces split ih =>
    rw [split] at ih
    simp_all [Ne.symm other]
  | case4 c rest other split ih => simp_all [Ne.symm other]

/-- A text is its pieces, each behind a separator, but for the first of these separators. -/
theorem flatMap_splitChars (separator : Char) (text : List Char) :
    (splitChars separator text).flatMap (separator :: ·) = separator :: text := by
  fun_induction splitChars separator text with
  | case1 => rfl
  | case2 rest ih => simp [ih]
  | case3 c rest other piece pieces split ih =>
    rw [split] at ih
    simp_all
  | case4 c rest other split ih => simp_all

namespace Path

/-- Behind a character stands in its piece what stands behind it in the text, slashes apart. -/
theorem head?_of_splitChars {text piece : List Char} {pieces : List (List Char)}
    (cut : splitChars '/' text = piece :: pieces) {mark : Char} (other : mark ≠ '/') :
    text.head? = some mark ↔ piece.head? = some mark := by
  -- Behind the piece the text ends, or a slash follows it.
  have joined := flatMap_splitChars '/' text
  rw [cut, List.flatMap_cons, List.cons_append, List.cons.injEq] at joined
  obtain ⟨-, rfl⟩ := joined
  -- The first character of a piece is that of the text unless the piece is empty.
  cases piece with
  | nil => cases pieces <;> simp [Ne.symm other]
  | cons => simp

/-- No tilde is marked by a slash, so the tildes of a text are those of its pieces. -/
theorem tildesMarked_splitChars (text : List Char) :
    (∀ piece ∈ splitChars '/' text, TildesMarked piece) ↔ TildesMarked text := by
  fun_induction splitChars '/' text with
  | case1 => simp
  -- A slash starts a new piece, and it is no tilde.
  | case2 rest ih => simp [tildesMarked_cons_of_ne, tildesMarked_nil, ih]
  | case3 c rest other piece pieces cut ih =>
    -- The character joins the first piece, and the mark behind it is the same there.
    have zero := head?_of_splitChars cut (show '0' ≠ '/' by decide)
    have one := head?_of_splitChars cut (show '1' ≠ '/' by decide)
    rw [cut, List.forall_mem_cons] at ih
    rw [List.forall_mem_cons, tildesMarked_cons, tildesMarked_cons, zero, one, ← ih, and_assoc]
  | case4 c rest other cut ih =>
    -- A text always has a piece, be it an empty one.
    have joined := flatMap_splitChars '/' rest
    rw [cut] at joined
    cases joined

/-- A text without segments is the text of the root. -/
theorem parseChars_of_empty {text : List Char} (empty : dropSlash text = []) :
    parseChars text = .ok root := by
  unfold parseChars
  rw [empty]

/-- A text with segments is read piece by piece. -/
theorem parseChars_of_named {text : List Char} (named : dropSlash text ≠ []) :
    parseChars text = ((splitChars '/' (dropSlash text)).mapM readSegment).map Path.mk := by
  unfold parseChars
  split
  · contradiction
  · rfl

/-- Reading accepts exactly the texts of paths, with or without the slash in front. -/
theorem parseChars_eq_ok_iff {text : List Char} (named : dropSlash text ≠ []) (path : Path) :
    parseChars text = .ok path ↔ path.chars = '/' :: dropSlash text := by
  have segments := readSegments_eq_ok_iff (separator_notMem_splitChars '/' (dropSlash text))
    path.segments
  -- Reading a path is reading its segments.
  have read : parseChars text = .ok path ↔
      (splitChars '/' (dropSlash text)).mapM readSegment = .ok path.segments := by
    obtain ⟨_⟩ := path
    rw [parseChars_of_named named]
    cases (splitChars '/' (dropSlash text)).mapM readSegment <;> simp [Except.map]
  rw [read, segments]
  constructor
  · -- The text is made of its pieces, and these are the written segments.
    intro pieces
    rw [← flatMap_splitChars, pieces, List.flatMap_map]
    rfl
  · -- A text that starts with a slash belongs to a path with segments, which it is split into.
    intro written
    obtain ⟨_ | ⟨first, others⟩⟩ := path
    · cases written
    · rw [chars_cons, List.cons.injEq] at written
      rw [← written.2, splitChars_escape]

/-- Nothing but a slash is left out of a text in front of its segments. -/
theorem dropSlash_eq_nil_iff (text : List Char) :
    dropSlash text = [] ↔ text = [] ∨ text = ['/'] := by
  unfold dropSlash
  split <;> simp_all

/-- A slash in front does not matter for the tildes. -/
theorem tildesMarked_dropSlash (text : List Char) :
    TildesMarked (dropSlash text) ↔ TildesMarked text := by
  unfold dropSlash
  split
  · exact (tildesMarked_cons_of_ne (by decide)).symm
  · rfl

/-- Only a segment without characters is written without any. -/
theorem escape_eq_nil_iff (segment : List Char) : escape segment = [] ↔ segment = [] := by
  constructor
  · intro empty
    have read := unescape?_escape segment
    rw [empty] at read
    -- What is read from nothing is nothing.
    exact (Option.some.inj read).symm
  · rintro rfl
    rfl

/-- A path is read back from its text, except the path of one empty segment. -/
theorem parse_text (path : Path) :
    parse path.text = .ok (if path.segments = [""] then root else path) := by
  rw [parse, text, String.toList_ofList]
  obtain ⟨_ | ⟨first, others⟩⟩ := path
  · rfl
  have behind : dropSlash (chars ⟨first :: others⟩) = escape first.toList ++ chars ⟨others⟩ := by
    rw [chars_cons]
    rfl
  -- Behind its first slash the text is empty for one path alone.
  have empty : dropSlash (chars ⟨first :: others⟩) = [] ↔ first :: others = [""] := by
    rw [behind, List.append_eq_nil_iff, escape_eq_nil_iff, String.toList_eq_nil_iff,
      List.cons.injEq]
    refine and_congr_right fun _ => ?_
    cases others <;> simp [chars]
  split
  case isTrue single => exact parseChars_of_empty (empty.mpr single)
  case isFalse several =>
    rw [parseChars_eq_ok_iff (mt empty.mp several), behind, chars_cons]

/-- A text is read exactly if its tildes are marked. -/
theorem parse_isOk_iff (text : String) :
    (∃ path, parse text = .ok path) ↔ TildesMarked text.toList := by
  rw [parse, ← tildesMarked_dropSlash]
  -- The root has a text without pieces, which holds no tilde.
  by_cases empty : dropSlash text.toList = []
  · rw [parseChars_of_empty empty, empty]
    exact iff_of_true ⟨_, rfl⟩ tildesMarked_nil
  · rw [parseChars_of_named empty, ← tildesMarked_splitChars, ← readSegments_isOk_iff]
    cases (splitChars '/' (dropSlash text.toList)).mapM readSegment <;> simp [Except.map]

/-- A text with the slash in front; a slash alone is left out. -/
def slashed (text : String) : String :=
  if text = "" ∨ text = "/" then ""
  else if text.toList.head? = some '/' then text
  else "/" ++ text

theorem toList_slashed (text : String) :
    (slashed text).toList
      = if dropSlash text.toList = [] then [] else '/' :: dropSlash text.toList := by
  have empty : dropSlash text.toList = [] ↔ text = "" ∨ text = "/" := by
    rw [dropSlash_eq_nil_iff, String.toList_eq_nil_iff, ← @String.toList_inj text "/"]
    rfl
  unfold slashed
  by_cases alone : text = "" ∨ text = "/"
  · rw [if_pos alone, if_pos (empty.mpr alone)]
    rfl
  rw [if_neg alone, if_neg (mt empty.mp alone)]
  -- A slash that is dropped is put in front again.
  split
  · next slash =>
    obtain ⟨rest, behind⟩ := List.head?_eq_some_iff.mp slash
    rw [behind]
    rfl
  · next bare =>
    have kept : dropSlash text.toList = text.toList := by
      unfold dropSlash
      split <;> simp_all
    rw [kept, String.toList_append]
    rfl

/-- A text that is read is the text of its path, up to the slash in front. -/
theorem text_of_parse {text : String} {path : Path} (read : parse text = .ok path) :
    path.text = slashed text := by
  rw [parse] at read
  rw [← String.toList_inj, Path.text, String.toList_ofList, toList_slashed]
  split
  case isTrue empty =>
    obtain rfl := Except.ok.inj ((parseChars_of_empty empty).symm.trans read)
    rfl
  case isFalse named => exact (parseChars_eq_ok_iff named path).mp read

/--
Texts encode paths exactly.

Every path is read back from its text, except the path of one empty segment, whose text reads as the
root. A text is read exactly if each tilde stands in front of a zero or a one, and then the path is
written as this text with the slash in front.
-/
theorem text_exact :
    (∀ path : Path, parse path.text = .ok (if path.segments = [""] then root else path))
      ∧ (Path.mk [""]).text = "/"
      ∧ ∀ text : String, ((∃ path, parse text = .ok path) ↔ TildesMarked text.toList)
        ∧ ∀ path, parse text = .ok path → path.text = slashed text :=
  ⟨parse_text, by decide, fun text => ⟨parse_isOk_iff text, fun _ => text_of_parse⟩⟩

/-- Both characters with a written form of their own, and segments without a character. -/
example : (Path.mk ["a/b", "", "c~", ""]).text = "/a~1b//c~0/" := by decide

end Path

end Minigame
