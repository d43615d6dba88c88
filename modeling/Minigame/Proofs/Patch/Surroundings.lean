import Minigame.Patch.Reading
import Minigame.Proofs.Json.Reading
import Minigame.Proofs.Text.Trim

/-!
What stands around a patch in a reply.

A sequence in brackets is read as it is by itself, whatever prose and fences stand around it. So is a
whole text between the lines of a fence.
-/

namespace Minigame

open Minigame.Text

/-- A text goes on behind a start exactly if it begins with it. -/
theorem dropStart?_eq_some_iff {start text rest : List Char} :
    dropStart? start text = some rest ↔ text = start ++ rest := by
  induction start generalizing text with
  | nil => simp [dropStart?, eq_comm]
  | cons c start ih =>
    cases text with
    | nil => simp [dropStart?]
    | cons d text =>
      -- The first characters have to agree, and then the rest goes on.
      by_cases same : c = d
      · simp [dropStart?, same, ih]
      · simp [dropStart?, same, Ne.symm same]

/-- A text goes up to an end exactly if it has it. -/
theorem dropEnd?_eq_some_iff {ending text front : List Char} :
    dropEnd? ending text = some front ↔ text = front ++ ending := by
  constructor
  · intro dropped
    -- An end is a start read backwards.
    obtain ⟨back, found, rfl⟩ := Option.map_eq_some_iff.1 dropped
    simpa using congrArg List.reverse (dropStart?_eq_some_iff.1 found)
  · rintro rfl
    refine Option.map_eq_some_iff.2 ⟨front.reverse, ?_, List.reverse_reverse front⟩
    -- Read backwards the text begins with the end read backwards.
    exact dropStart?_eq_some_iff.2 List.reverse_append

namespace Patch

/-- A text that holds another one, with characters of one text before it and of one behind it. -/
def Around (before inner behind text : List Char) : Prop :=
  ∃ front back, text = front ++ inner ++ back ∧ front ⊆ before ∧ back ⊆ behind

namespace Around

variable {before inner behind text : List Char}

theorem reverse (around : Around before inner behind text) :
    Around behind inner.reverse before text.reverse := by
  obtain ⟨front, back, rfl, inFront, inBack⟩ := around
  refine ⟨back.reverse, front.reverse, by simp, ?_, ?_⟩
  · exact fun c there => inBack (List.mem_reverse.1 there)
  · exact fun c there => inFront (List.mem_reverse.1 there)

/-- What is taken off in front does not reach a text whose first character is not among it. -/
theorem of_append {taken rest : List Char} {first : Char} (opening : inner.head? = some first)
    (untaken : first ∉ taken) (around : Around before inner behind (taken ++ rest)) :
    Around before inner behind rest := by
  obtain ⟨front, back, same, inFront, inBack⟩ := around
  rw [List.append_assoc] at same
  rcases List.append_eq_append_iff.1 same with ⟨more, rfl, rfl⟩ | ⟨more, rfl, held⟩
  · -- Part of the front is left over, and the text that is held comes behind it.
    exact ⟨more, back, (List.append_assoc ..).symm,
      fun c there => inFront (List.mem_append_right taken there), inBack⟩
  · -- All of the front is taken, and the text that is held begins right behind it.
    obtain ⟨tail, rfl⟩ := List.head?_eq_some_iff.1 opening
    cases more with
    | nil => exact ⟨[], back, held.symm, List.nil_subset _, inBack⟩
    -- The first character of the held text would be taken, too.
    | cons c more =>
      obtain rfl : first = c := (List.cons.inj held).1
      exact absurd (by simp) untaken

section

variable {first : Char} (opening : inner.head? = some first)
include opening

/-- Trimming in front leaves a text alone that begins with no white space. -/
theorem trimStart (solid : isBlank first = false) (around : Around before inner behind text) :
    Around before inner behind (trimStartChars text) := by
  rw [← List.takeWhile_append_dropWhile (p := isBlank) (l := text)] at around
  refine around.of_append opening fun there => ?_
  -- What is taken off is white space, and the text begins with none.
  have blank := List.mem_takeWhile_imp there
  rw [solid] at blank
  cases blank

/-- A start that is dropped does not reach a text whose first character it lacks. -/
theorem dropStart (start : List Char) (other : first ∉ start)
    (around : Around before inner behind text) :
    Around before inner behind ((dropStart? start text).getD text) := by
  cases dropped : dropStart? start text with
  | none => exact around
  | some rest => exact of_append opening other (dropStart?_eq_some_iff.1 dropped ▸ around)

end

section

variable {last : Char} (closing : inner.getLast? = some last)
include closing

/-- Trimming at the end leaves a text alone that ends in no white space. -/
theorem trimEnd (solid : isBlank last = false) (around : Around before inner behind text) :
    Around before inner behind (trimEndChars text) := by
  -- Read backwards the end is a beginning.
  have opening : inner.reverse.head? = some last := by rw [List.head?_reverse, closing]
  simpa [trimEndChars, trimStartChars] using (around.reverse.trimStart opening solid).reverse

/-- An end that is dropped does not reach a text whose last character it lacks. -/
theorem dropEnd (ending : List Char) (other : last ∉ ending)
    (around : Around before inner behind text) :
    Around before inner behind ((dropEnd? ending text).getD text) := by
  have opening : inner.reverse.head? = some last := by rw [List.head?_reverse, closing]
  have backward := (around.reverse.dropStart opening ending.reverse
    (fun there => other (List.mem_reverse.1 there))).reverse
  cases dropped : dropStart? ending.reverse text.reverse <;>
    simpa [dropEnd?, dropped] using backward

end

section

variable (opening : inner.head? = some '[') (closing : inner.getLast? = some ']')
include opening closing

/-- Trimming leaves a sequence in brackets alone. -/
theorem trim (around : Around before inner behind text) :
    Around before inner behind (trimChars text) :=
  (around.trimStart opening (by decide)).trimEnd closing (by decide)

/-- A fence that is stripped leaves a sequence in brackets alone. -/
theorem stripFences (around : Around before inner behind text) :
    Around before inner behind (stripFences text) := by
  unfold Patch.stripFences
  split
  · exact around
  · next rest found =>
    -- The opening mark, the tag and the closing mark have no bracket, so none of them reaches the
    -- sequence.
    have opened := around.dropStart opening fence (by decide)
    rw [found] at opened
    have untagged := opened.dropStart opening ['j', 's', 'o', 'n'] (by decide)
    exact (untagged.dropEnd closing fence (by decide)).trim opening closing

end

end Around

/-- From the first opening to the last closing bracket there is what is held between the two. -/
theorem outermostArray?_around {before array behind text : List Char}
    (plain : '[' ∉ before) (plainBehind : ']' ∉ behind) (opening : array.head? = some '[')
    (closing : array.getLast? = some ']') (around : Around before array behind text) :
    outermostArray? text = some array := by
  obtain ⟨front, back, rfl, inFront, inBack⟩ := around
  -- In front there is no opening bracket, and behind there is no closing one.
  have skipFront : ∀ c ∈ front, (c ≠ '[' : Bool) = true := fun c there => by
    simpa using fun same : c = '[' => plain (same ▸ inFront there)
  have skipBack : ∀ c ∈ back.reverse, (c ≠ ']' : Bool) = true := fun c there => by
    simpa using fun same : c = ']' => plainBehind (same ▸ inBack (List.mem_reverse.1 there))
  have fromOpening : (front ++ array ++ back).dropWhile (· ≠ '[') = array ++ back := by
    rw [List.append_assoc, List.dropWhile_append_of_pos skipFront]
    -- The text that is held begins with the opening bracket.
    obtain ⟨rest, rfl⟩ := List.head?_eq_some_iff.1 opening
    exact List.dropWhile_cons_of_neg (by simp)
  have toClosing : (array ++ back).reverse.dropWhile (· ≠ ']') = array.reverse := by
    rw [List.reverse_append, List.dropWhile_append_of_pos skipBack]
    obtain ⟨rest, rfl⟩ := List.getLast?_eq_some_iff.1 closing
    rw [List.reverse_concat]
    exact List.dropWhile_cons_of_neg (by simp)
  -- With a bracket in it the text is not empty.
  have nonempty : array.reverse ≠ [] := by
    rintro empty
    rw [List.reverse_eq_nil_iff.1 empty] at opening
    cases opening
  rw [outermostArray?, fromOpening, toClosing]
  split
  · next empty => exact absurd empty nonempty
  · rw [List.reverse_reverse]

/-- What a reply is read as: the text in it, without white space or a fence around it. -/
def body (text : String) : List Char :=
  stripFences (trimChars text.toList)

/-- Replies with one body are read the same. -/
theorem ofText_congr {text other : String} (same : body text = body other) :
    ofText text = ofText other := by
  rw [body, body] at same
  rw [ofText, ofText, same]

/-- A sequence in brackets decides what a reply around it is read as. -/
theorem ofText_around {before array behind : List Char} {text : String} {value : Json}
    (plain : ∀ c ∈ before, c ∉ Json.openingChars) (plainBehind : ']' ∉ behind)
    (opening : array.head? = some '[') (closing : array.getLast? = some ']')
    (parsed : Json.parseChars array = some value) (around : Around before array behind (body text)) :
    ofText text = ofJson value := by
  have unopened : '[' ∉ before := fun there => plain _ there (by simp [Json.openingChars])
  have found := outermostArray?_around unopened plainBehind opening closing around
  simp only [ofText, show stripFences (trimChars text.toList) = body text from rfl]
  cases whole : Json.parseChars (body text) with
  | none =>
    -- The whole body is no value, so the part in brackets is read.
    simp only [found, parsed]
  | some other =>
    -- The whole body is a value, which can be none but that of the part in brackets.
    obtain ⟨front, back, held, inFront, _⟩ := around
    rw [held] at whole
    have same : other = value :=
      Json.parseChars_around (fun c there => plain c (inFront there)) opening closing parsed whole
    rw [same]

/-- Nothing is stripped of a text that begins with no fence. -/
theorem stripFences_eq_self {text : List Char} (unfenced : ¬ fence <+: text) :
    stripFences text = text := by
  unfold stripFences
  split
  · rfl
  · -- A fence at the beginning would have been found.
    next rest found => exact absurd ⟨rest, (dropStart?_eq_some_iff.1 found).symm⟩ unfenced

/-- The tags that may stand behind the first mark of a fence. -/
def fenceTags : List (List Char) := [[], ['j', 's', 'o', 'n']]

/-- Between the two marks of a fence there is a text, if a tag ends in white space. -/
theorem stripFences_fenced {tag opening closing : List Char} (tagged : tag ∈ fenceTags)
    (ended : opening ≠ []) (blankOpening : ∀ c ∈ opening, isBlank c = true)
    (blankClosing : ∀ c ∈ closing, isBlank c = true) (text : List Char) :
    stripFences (fence ++ tag ++ opening ++ text ++ closing ++ fence) = trimChars text := by
  let inner := opening ++ text ++ closing
  -- The parts are taken off one after the other: the mark, the tag and the mark at the end.
  have opened : dropStart? fence (fence ++ tag ++ opening ++ text ++ closing ++ fence) =
      some (tag ++ (inner ++ fence)) := dropStart?_eq_some_iff.2 (by simp [inner])
  have untagged : (dropStart? ['j', 's', 'o', 'n'] (tag ++ (inner ++ fence))).getD
      (tag ++ (inner ++ fence)) = inner ++ fence := by
    simp only [fenceTags, List.mem_cons, List.not_mem_nil, or_false] at tagged
    rcases tagged with rfl | rfl
    · -- White space is not the beginning of a tag.
      obtain ⟨c, rest, rfl⟩ := List.exists_cons_of_ne_nil ended
      have other : 'j' ≠ c := by
        rintro rfl
        exact absurd (blankOpening 'j' (by simp)) (by decide)
      simp [inner, dropStart?, other]
    · -- The tag stands in front, and it is taken off.
      rw [dropStart?_eq_some_iff.2 rfl]
      rfl
  have closed : dropEnd? fence (inner ++ fence) = some inner := dropEnd?_eq_some_iff.2 rfl
  simp only [stripFences, opened, untagged, closed, Option.getD_some]
  exact trimChars_between blankOpening blankClosing text

/-- The marks of a fence are no white space. -/
theorem trimChars_fence (inner : List Char) :
    trimChars (fence ++ inner ++ fence) = fence ++ inner ++ fence := by
  -- The first character is one of the mark, and so is the last one.
  have first : (fence ++ inner ++ fence).head? = some '\x60' := rfl
  have last : (fence ++ inner ++ fence).getLast? = some '\x60' := by
    rw [List.getLast?_append]
    rfl
  have solid : ∀ c ∈ some '\x60', isBlank c = false := by
    rintro c ⟨⟩
    decide
  exact trimChars_eq_self_iff.2 ⟨first ▸ solid, last ▸ solid⟩

/-- The mark of a code fence as a text. -/
def fenceMark : String := String.ofList fence

/--
What stands around a patch in a reply does not matter.

A text in brackets that is a value is read as this value, if nothing in front of it opens a bracket,
a brace or a quote and nothing behind it closes a bracket. A text that begins with no fence is read
the same between the lines of one, which may have a tag and white space around the marks. Even what
is wrong with the text is then found in the same characters.
-/
theorem surroundings_ignored :
    (∀ (before array behind : String) (value : Json),
      (∀ c ∈ before.toList, c ∉ Json.openingChars) → ']' ∉ behind.toList →
      array.toList.head? = some '[' → array.toList.getLast? = some ']' →
      Json.parse array = some value → ofText (before ++ array ++ behind) = ofJson value)
      ∧ ∀ before tag opening text closing behind : String,
        ¬ fence <+: trimChars text.toList → tag.toList ∈ fenceTags → opening ≠ "" →
        (∀ margin ∈ [before, opening, closing, behind], isBlankText margin = true) →
        let fenced :=
          before ++ fenceMark ++ tag ++ opening ++ text ++ closing ++ fenceMark ++ behind
        body fenced = body text ∧ ofText fenced = ofText text := by
  constructor
  · intro before array behind value plain plainBehind opening closing parsed
    have whole : Around before.toList array.toList behind.toList
        (before ++ array ++ behind).toList :=
      ⟨before.toList, behind.toList, by simp, List.Subset.refl _, List.Subset.refl _⟩
    -- What is taken off the reply does not reach the sequence.
    have held := (whole.trim opening closing).stripFences opening closing
    exact ofText_around plain plainBehind opening closing parsed held
  · intro before tag opening text closing behind unfenced tagged ended margins fenced
    -- The margins hold white space and nothing else.
    simp only [isBlankText, List.all_eq_true, List.forall_mem_cons] at margins
    obtain ⟨blankBefore, blankOpening, blankClosing, blankBehind, -⟩ := margins
    have nonempty : opening.toList ≠ [] := by simpa using ended
    have chars : fenced.toList = before.toList
        ++ (fence ++ (tag.toList ++ opening.toList ++ text.toList ++ closing.toList) ++ fence)
        ++ behind.toList := by
      simp [fenced, fenceMark]
    -- Trimming takes the margins off, and then the fence is stripped.
    have same : body fenced = body text := by
      rw [body, body, stripFences_eq_self unfenced, chars,
        trimChars_between blankBefore blankBehind, trimChars_fence]
      have stripped :=
        stripFences_fenced tagged nonempty blankOpening blankClosing text.toList
      simpa only [List.append_assoc] using stripped
    exact ⟨same, ofText_congr same⟩

/-- A reply may count, quote the fence in a value and go on with another bracket behind it. -/
theorem surroundings_ignored_chatty :
    let before := "Sure, null - 12 steps: \x60\x60\x60json\n"
    let array := "[\x7b\"op\":\"add\",\"path\":\"/a\",\"value\":\"\x60\x60\x60]\"\x7d, 7]"
    let behind := "\n\x60\x60\x60 and [ more \x7b"
    let single := "\x7b\"op\":\"remove\",\"path\":\"/notes\"\x7d"
    ofText (before ++ array ++ behind) = .ok [.add ⟨["a"]⟩ (.str "\x60\x60\x60]")]
      ∧ ofText ("\x60\x60\x60json\r\n" ++ single ++ "\n\x60\x60\x60\n") = .ok [.remove ⟨["notes"]⟩] := by
  intro before array behind single
  obtain ⟨prose, fences⟩ := surroundings_ignored
  constructor
  · let entry := Json.obj [("op", .str "add"), ("path", .str "/a"), ("value", .str "\x60\x60\x60]")]
    have plain : ∀ c ∈ before.toList, c ∉ Json.openingChars := by
      simp [before, Json.openingChars]
    rw [prose before array behind (.arr [entry, .nat 7]) plain (by decide) (by decide)
      (by decide) (by decide +kernel)]
    decide
  · have read := (fences "" "json" "\r\n" single "\n" "\n" (by decide) (by decide) (by decide)
      (by decide)).2
    exact read.trans (by decide +kernel)

end Patch

end Minigame
