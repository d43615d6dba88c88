import Minigame.Patch.Apply
import Minigame.Proofs.Decimal.Digits

/-!
Addresses of the parts of a document, as segments and as pointer text.

Segments and pointer tokens name the same places in a sequence, and the text of a path, read as a
pointer, leads where its segments lead.
-/

namespace Minigame

open Minigame.Text Minigame.Decimal

namespace Json

/-- A segment names a place in a sequence exactly if it is the decimal spelling of the place. -/
theorem segmentIndex?_eq_some_iff {segment : String} {index : Nat} :
    segmentIndex? segment = some index ↔ segment = index.repr ∧ index < 2 ^ 64 := by
  -- What the rule refuses beforehand is never the spelling of a natural.
  rw [← String.toList_inj, Nat.toList_repr]
  simp only [segmentIndex?]
  split
  · next refused =>
    refine ⟨nofun, ?_⟩
    rintro ⟨spelled, _⟩
    rw [spelled] at refused
    -- It would be empty, hold something else than digits, or start with a zero too many.
    rcases refused with empty | other | ⟨long, zero⟩
    · simp at empty
    · exact absurd (List.all_eq_true.2 fun c => isAsciiDigit_of_mem_toDigits) other
    · have := length_toDigits_of_head? zero
      omega
  · next accepted =>
    simp only [not_or, not_and, Decidable.not_not] at accepted
    obtain ⟨nonempty, digits, plain⟩ := accepted
    -- What is read as a number has no sign and no zero in front.
    refine readUnsigned?_eq_some_iff (fun plus => ?_) fun zero => ?_
    · have sign := List.all_eq_true.1 digits '+' (List.mem_of_mem_head? plus)
      exact absurd sign (by decide)
    · have short : ¬ 1 < segment.toList.length := fun long => plain long zero
      have : segment.toList.length ≠ 0 := by simpa using nonempty
      omega

/-- A pointer token names a place in a sequence exactly if it is the decimal spelling of the place. -/
theorem pointerIndex?_eq_some_iff {token : List Char} {index : Nat} :
    pointerIndex? token = some index ↔ token = Nat.toDigits 10 index ∧ index < 2 ^ 64 := by
  unfold pointerIndex?
  split
  · next refused =>
    refine ⟨nofun, ?_⟩
    rintro ⟨rfl, _⟩
    -- A spelling has no sign, and a zero in front only if it is zero.
    rcases refused with plus | ⟨zero, long⟩
    · have sign := isAsciiDigit_of_mem_toDigits (List.mem_of_mem_head? plus)
      exact absurd sign (by decide)
    · exact absurd (length_toDigits_of_head? zero) long
  · next accepted =>
    simp only [not_or, not_and, Decidable.not_not] at accepted
    exact readUnsigned?_eq_some_iff accepted.1 accepted.2

/-- Segments and pointer tokens name places in a sequence by the same rule. -/
theorem pointerIndex?_toList (segment : String) :
    pointerIndex? segment.toList = segmentIndex? segment := by
  ext index
  rw [pointerIndex?_eq_some_iff, segmentIndex?_eq_some_iff, ← String.toList_inj, Nat.toList_repr]

/-- The spelling of a place below `2 ^ 64` names it. -/
theorem segmentIndex?_repr {index : Nat} (small : index < 2 ^ 64) :
    segmentIndex? index.repr = some index :=
  segmentIndex?_eq_some_iff.2 ⟨rfl, small⟩

/-- The spelling of a place from `2 ^ 64` on names none. -/
theorem segmentIndex?_repr_of_le {index : Nat} (large : 2 ^ 64 ≤ index) :
    segmentIndex? index.repr = none := by
  refine Option.eq_none_iff_forall_ne_some.2 fun other found => ?_
  obtain ⟨same, small⟩ := segmentIndex?_eq_some_iff.1 found
  -- Reading the digits back shows that two naturals have two spellings.
  have digits : Nat.toDigits 10 index = Nat.toDigits 10 other := by
    simpa using congrArg String.toList same
  have equal : index = other := by simpa using congrArg natOfDigits digits
  omega

/-- A place in a sequence has one spelling. -/
theorem segmentIndex?_inj {segment other : String} {index : Nat}
    (named : segmentIndex? segment = some index) (otherNamed : segmentIndex? other = some index) :
    segment = other :=
  (segmentIndex?_eq_some_iff.1 named).1.trans (segmentIndex?_eq_some_iff.1 otherNamed).1.symm

/-- The dash names no place in a sequence. -/
@[simp] theorem segmentIndex?_dash : segmentIndex? "-" = none := by
  decide

/-- The part of a value one segment below it. -/
def under? (segment : String) : Json → Option Json
  | .obj fields => Fields.get? segment fields
  | .arr items => (segmentIndex? segment).bind fun index => items[index]?
  | _ => none

/-- A value put at a place of a sequence is read at the segment that names the place. -/
theorem under?_set_self {segment : String} {index : Nat} {items : List Json}
    (named : segmentIndex? segment = some index) (inside : index < items.length) (value : Json) :
    under? segment (.arr (items.set index value)) = some value := by
  rw [under?, named, Option.bind_some, List.getElem?_set_self inside]

/-- A value put at a place of a sequence is read at no segment but the one that names the place. -/
theorem under?_set_ne {segment other : String} {index : Nat}
    (named : segmentIndex? segment = some index) (different : other ≠ segment) (items : List Json)
    (value : Json) : under? other (.arr (items.set index value)) = under? other (.arr items) := by
  -- Another segment names another place, since a place has one spelling.
  refine Option.bind_congr fun place otherNamed => List.getElem?_set_ne fun same => ?_
  exact different (segmentIndex?_inj otherNamed (same ▸ named))

/-- A value behind the last entry of a sequence is read at the segment that names its length. -/
theorem under?_append_self {segment : String} {items : List Json}
    (named : segmentIndex? segment = some items.length) (value : Json) :
    under? segment (.arr (items ++ [value])) = some value := by
  rw [under?, named, Option.bind_some, List.getElem?_concat_length]

/-- A value behind the last entry of a sequence leaves the entries where they are. -/
theorem under?_append_ne {segment other : String} {items : List Json}
    (named : segmentIndex? segment = some items.length) (different : other ≠ segment)
    (value : Json) : under? other (.arr (items ++ [value])) = under? other (.arr items) := by
  -- The place behind the last entry is named by this segment alone.
  refine Option.bind_congr fun place otherNamed => ?_
  have apart : place ≠ items.length := fun same =>
    different (segmentIndex?_inj otherNamed (same ▸ named))
  rcases Nat.lt_or_gt_of_ne apart with inside | outside
  · rw [List.getElem?_append_left inside]
  · -- Farther behind there is nothing in either of the two.
    rw [List.getElem?_eq_none (by simp; omega), List.getElem?_eq_none (by omega)]

/-- The part of a value that a list of segments leads to. -/
def at? : List String → Json → Option Json
  | [], value => some value
  | segment :: rest, value => (value.under? segment).bind (at? rest)

@[simp] theorem at?_nil (value : Json) : at? [] value = some value := rfl

theorem at?_cons (segment : String) (rest : List String) (value : Json) :
    at? (segment :: rest) value = (value.under? segment).bind (at? rest) := rfl

theorem at?_singleton (segment : String) (value : Json) :
    value.at? [segment] = value.under? segment := by
  rw [at?_cons]
  cases value.under? segment <;> rfl

/-- Following two lists of segments one after the other is following both as one. -/
theorem at?_append (first second : List String) (value : Json) :
    at? (first ++ second) value = (at? first value).bind (at? second) := by
  -- The second list starts where the first one ends, if the first one leads anywhere.
  induction first generalizing value with
  | nil => rfl
  | cons segment rest ih =>
    rw [List.cons_append, at?_cons, at?_cons, Option.bind_assoc]
    exact congrArg _ (funext ih)

/-- Nothing is below an empty mapping. -/
theorem at?_obj_nil {segments : List String} (below : segments ≠ []) :
    at? segments (.obj []) = none := by
  cases segments with
  | nil => exact absurd rfl below
  | cons segment rest => rfl

/-- Nothing is below null. -/
theorem at?_null {segments : List String} (below : segments ≠ []) : at? segments .null = none := by
  cases segments with
  | nil => exact absurd rfl below
  | cons segment rest => rfl

/-- A pointer token leads one step the way its segment does. -/
theorem child?_toList (segment : String) (value : Json) :
    value.child? segment.toList = value.under? segment := by
  -- In a sequence both name the place by the same rule, and in a mapping by the text.
  cases value <;> simp [child?, under?, pointerIndex?_toList]

/-- Pointer tokens lead the way their segments do. -/
theorem descend?_toList (segments : List String) (value : Json) :
    descend? (segments.map String.toList) value = value.at? segments := by
  induction segments generalizing value with
  | nil => rfl
  | cons segment rest ih =>
    rw [List.map_cons, descend?, at?_cons, child?_toList]
    exact congrArg _ (funext ih)

/-- A character that is no tilde is not part of a mark. -/
theorem replaceMark_cons_of_ne {mark replacement c : Char} (plain : c ≠ '~') (rest : List Char) :
    replaceMark mark replacement (c :: rest) = c :: replaceMark mark replacement rest := by
  cases rest with
  | nil => rfl
  -- A mark would begin with a tilde.
  | cons d rest => simp [replaceMark, plain]

/-- The first pass gives the slashes back and leaves each tilde with its zero to the second. -/
theorem replaceMark_escape (segment : List Char) :
    replaceMark '1' '/' (Path.escape segment) =
      segment.flatMap fun c => if c = '~' then ['~', '0'] else [c] := by
  induction segment with
  | nil => rfl
  | cons c rest ih =>
    simp only [Path.escape] at ih
    -- A tilde was written with a zero behind it, which the first pass does not take.
    by_cases tilde : c = '~'
    · have zero : replaceMark '1' '/' ('0' :: rest.flatMap Path.escapeChar) =
          '0' :: replaceMark '1' '/' (rest.flatMap Path.escapeChar) :=
        replaceMark_cons_of_ne (by decide) _
      simp [Path.escape, Path.escapeChar, tilde, replaceMark, zero, ih]
    · -- A slash was written with a one behind it, and it comes back.
      by_cases slash : c = '/'
      · simp [Path.escape, Path.escapeChar, slash, replaceMark, ih]
      · simp [Path.escape, Path.escapeChar, tilde, slash, replaceMark_cons_of_ne tilde, ih]

/-- A segment written in a path is read back by the two replacements of a pointer. -/
theorem pointerName_escape (segment : List Char) : pointerName (Path.escape segment) = segment := by
  -- After the first pass each tilde stands in front of a zero that the second pass takes away.
  rw [pointerName, replaceMark_escape]
  induction segment with
  | nil => rfl
  | cons c rest ih =>
    by_cases tilde : c = '~'
    · simpa [tilde, replaceMark] using ih
    · simpa [tilde, replaceMark_cons_of_ne tilde] using ih

end Json

/-- A separator ends the piece in front of it. -/
theorem splitChars_append_cons {separator : Char} {piece : List Char} (whole : separator ∉ piece)
    (rest : List Char) :
    splitChars separator (piece ++ separator :: rest) = piece :: splitChars separator rest := by
  -- Every character of the piece goes in front of the first piece of what follows.
  induction piece with
  | nil => simp [splitChars]
  | cons c others ih =>
    have different : c ≠ separator := fun same => whole (same ▸ List.mem_cons_self ..)
    have later := ih fun there => whole (List.mem_cons_of_mem _ there)
    simp [splitChars, different, later]

/-- A text without the separator is one piece. -/
theorem splitChars_of_notMem {separator : Char} {piece : List Char} (whole : separator ∉ piece) :
    splitChars separator piece = [piece] := by
  induction piece with
  | nil => rfl
  | cons c others ih =>
    -- The first character is no separator, so it belongs to the first piece.
    have different : c ≠ separator := fun same => whole (same ▸ List.mem_cons_self ..)
    have later := ih fun there => whole (List.mem_cons_of_mem _ there)
    simp [splitChars, different, later]

/-- A path is written segment by segment, each behind a slash. -/
theorem Path.chars_cons (segment : String) (rest : List String) :
    Path.chars ⟨segment :: rest⟩ = '/' :: (Path.escape segment.toList ++ Path.chars ⟨rest⟩) := by
  simp [Path.chars]

/-- The pieces of a written path are its written segments. -/
theorem splitChars_escape (first : String) (others : List String) :
    splitChars '/' (Path.escape first.toList ++ Path.chars ⟨others⟩) =
      (first :: others).map fun segment => Path.escape segment.toList := by
  induction others generalizing first with
  | nil => simp [Path.chars, splitChars_of_notMem (Path.slash_notMem_escape first.toList)]
  -- The first segment ends at the slash of the second one.
  | cons second others ih =>
    rw [Path.chars_cons, splitChars_append_cons (Path.slash_notMem_escape first.toList), ih second]
    rfl

/-- The text of a path, read as a pointer, leads where the segments lead. -/
theorem Json.pointer?_text (path : Path) (doc : Json) :
    doc.pointer? path.text = doc.at? path.segments := by
  -- The pieces between the slashes are the written segments, and each is read back.
  obtain ⟨segments⟩ := path
  cases segments with
  | nil => simp [Json.pointer?, Path.text, Path.chars]
  | cons first others =>
    have names : (splitChars '/' (Path.escape first.toList ++ Path.chars ⟨others⟩)).map
        Json.pointerName = (first :: others).map String.toList := by
      rw [splitChars_escape, List.map_map]
      exact List.map_congr_left fun segment _ => Json.pointerName_escape segment.toList
    rw [Json.pointer?, Path.text, String.toList_ofList, Path.chars_cons]
    simp only [names]
    exact Json.descend?_toList (first :: others) doc

/-- What is read at a path is read at its text. -/
theorem Json.pointer?_congr {segments : List String} {doc other : Json}
    (same : doc.at? segments = other.at? segments) :
    doc.pointer? (Path.mk segments).text = other.pointer? (Path.mk segments).text := by
  rw [Json.pointer?_text, Json.pointer?_text, same]

end Minigame
