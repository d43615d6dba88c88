import Minigame.Proofs.Text.Words
import Minigame.Proposal.Phrases

/-!
The skin that a prompt names.

A noun is recognized in every form of its letters, while the skins are listed by their ASCII letters
alone. So a noun in ASCII letters names its skin, and one with another form of a letter names none.
-/

namespace Minigame

open Minigame.Text Minigame.Text.Pattern

/-- A noun spells the name of a skin, in the singular or in the plural, where case does not matter. -/
def Skin.SpelledBy (skin : Skin) (noun : List Char) : Prop :=
  noun ∈ spelled [skin.name, skin.name ++ "s"]

instance (skin : Skin) (noun : List Char) : Decidable (skin.SpelledBy noun) :=
  inferInstanceAs (Decidable (∃ name ∈ [skin.name, skin.name ++ "s"],
    noun.map foldLetter = name.toList))

/-- Only an `s` can be dropped from a text. -/
theorem mem_dropPlural {text : String} {c : Char} (there : c ∈ text.toList)
    (other : c ≠ 's') : c ∈ (dropPlural text).toList := by
  -- The last character alone can go, and it is an s.
  unfold dropPlural
  split
  · next rest last =>
    rw [← List.mem_reverse, last, List.mem_cons] at there
    simpa [other] using there
  · exact there

namespace Skin

theorem mem_all (skin : Skin) : skin ∈ all := by
  cases skin <;> decide

/-- No noun spells the names of two skins. -/
theorem SpelledBy.unique {skin other : Skin} {noun : List Char} (spells : skin.SpelledBy noun)
    (otherSpells : other.SpelledBy noun) : skin = other := by
  -- The names of the skins are few enough to compare each with each.
  have apart : ∀ skin ∈ all, ∀ other ∈ all, skin ≠ other →
      ∀ name ∈ [skin.name, skin.name ++ "s"], name ∉ [other.name, other.name ++ "s"] := by decide
  -- If the skins were two, the two names would be spelled by one noun.
  refine Decidable.byContradiction fun different => ?_
  exact notMem_spelled (apart skin (mem_all skin) other (mem_all other) different) spells otherSpells

/-- In ASCII letters a noun names the skin that it spells. -/
theorem SpelledBy.ofNoun? {skin : Skin} {noun : List Char} (spells : skin.SpelledBy noun)
    (ascii : ∀ c ∈ noun, c.toNat < 128) : ofNoun? (String.ofList noun) = some skin := by
  -- In ASCII letters a noun in lower case is one of the names, and these are few.
  have table : ∀ skin ∈ all, ∀ name ∈ [skin.name, skin.name ++ "s"],
      ofName? (dropPlural name) = some skin := by decide
  rw [Skin.ofNoun?]
  exact table skin (mem_all skin) _ ((mem_spelled_iff_of_ascii ascii).1 spells)

/-- With a character that is not ASCII a noun names no skin. -/
theorem ofNoun?_eq_none {noun : List Char} (foreign : ¬ ∀ c ∈ noun, c.toNat < 128) :
    ofNoun? (String.ofList noun) = none := by
  have ascii : ∀ skin ∈ all, skin.name.toList.all (·.toNat < 128) = true := by decide
  obtain ⟨c, there, high⟩ : ∃ c ∈ noun, 128 ≤ c.toNat := by simpa using foreign
  -- Neither lower case nor the plural takes the character away.
  have kept : c ∈ (asciiLower (String.ofList noun)).toList := by
    have same : asciiLowerChar c = c := if_neg fun upper => by
      have below : c.toNat ≤ 90 := upper.2
      omega
    rw [asciiLower, String.toList_ofList, String.toList_ofList]
    exact List.mem_map.2 ⟨c, there, same⟩
  -- The character is no s, so it is still there in the singular.
  have left := mem_dropPlural kept (by rintro rfl; exact absurd high (by decide))
  refine Option.eq_none_iff_forall_ne_some.2 fun skin named => ?_
  unfold Skin.ofNoun? ofName? at named
  -- Whatever skin is found has this text for its name.
  have same : skin.name = dropPlural (asciiLower (String.ofList noun)) := by
    simpa using List.find?_some named
  have small : c.toNat < 128 := by
    simpa using List.all_eq_true.1 (ascii skin (List.mem_of_find?_eq_some named)) c (same ▸ left)
  omega

end Skin

namespace Phrase

/-- The forms of the names of skins. -/
theorem reads_skinNames : (choice (Skin.all.map fun skin => noun skin.name)).Reads
    (spelled (Skin.all.map fun skin => [skin.name, skin.name ++ "s"]).flatten) := by
  -- The forms are read skin by skin, in the singular and in the plural.
  refine reads_choice ?_
  rw [List.forall₂_map_left_iff, List.forall₂_map_right_iff, List.forall₂_same]
  exact fun skin _ => reads_noun skin.name

/-- A noun that is found is a word of the prompt that spells a skin. -/
theorem skinNoun_found {prompt : String} {found : Place} (finds : skinNoun.find? prompt = some found) :
    ∃ noun skin, found.captured? "noun" = some noun ∧ Skin.SpelledBy skin noun
      ∧ ∃ front back, WordAt prompt.toList front noun back := by
  obtain ⟨front, rest, whole, fits⟩ := mem_of_find? finds
  -- The noun stands between edges, so it is a word of the prompt.
  obtain ⟨starts, fits, ends⟩ := mem_ends_whole.1 fits
  obtain ⟨noun, spells, back, rfl, rfl⟩ := (reads_skinNames.mem_ends_capture "noun").1 fits
  have word := wordAt_of_edges (by decide) spells starts ends
  -- What is spelled is one of the names of one of the skins.
  obtain ⟨name, listed, same⟩ := spells
  obtain ⟨names, ofSkin, listed⟩ := List.mem_flatten.1 listed
  obtain ⟨skin, -, rfl⟩ := List.mem_map.1 ofSkin
  exact ⟨noun, skin, rfl, ⟨name, listed, same⟩, front, back, whole ▸ word⟩

/--
The skin of a prompt that names one is the one that it names, if the noun is written in ASCII letters.

The noun is a word of the prompt and spells exactly one skin, where case does not matter. With a long
s or with the sign of the kelvin in place of a letter it is passed over.
-/
theorem skin?_of_noun {prompt : String} (names : skinNoun.occursIn prompt = true)
    (template : Template) :
    ∃ noun skin, (skinNoun.find? prompt).bind (·.captured? "noun") = some noun
      ∧ (∃ front back, WordAt prompt.toList front noun back)
      ∧ (∀ other : Skin, other.SpelledBy noun ↔ other = skin)
      ∧ ((∀ c ∈ noun, c.toNat < 128) → skin? prompt template = some skin)
      ∧ ((¬ ∀ c ∈ noun, c.toNat < 128) →
        skin? prompt template = if reskin.occursIn prompt then some template.baselineSkin else none) := by
  obtain ⟨found, finds⟩ := Option.isSome_iff_exists.1 names
  -- The leftmost noun is taken, and it spells a skin.
  obtain ⟨noun, skin, captured, spells, word⟩ := skinNoun_found finds
  refine ⟨noun, skin, by simp [finds, captured], word,
    fun other => ⟨fun also => also.unique spells, fun same => same ▸ spells⟩,
    fun ascii => ?_, fun foreign => ?_⟩
  · -- The noun goes to the list of skins as it stands in the prompt.
    simp [skin?, finds, captured, spells.ofNoun? ascii]
  · -- No skin comes from the list, so the word for another skin decides.
    simp [skin?, finds, captured, Skin.ofNoun?_eq_none foreign]

/-- A noun in capital letters, behind a longer word that begins like one, gives its skin. -/
theorem skin?_of_noun_plural :
    skinNoun.occursIn "Slimy ASTEROIDS please" = true
      ∧ skin? "Slimy ASTEROIDS please" .sandbox = some .asteroid := by
  have names : skinNoun.occursIn "Slimy ASTEROIDS please" = true := by decide +kernel
  obtain ⟨noun, skin, captured, -, spelled, ascii, -⟩ := skin?_of_noun names .sandbox
  have found : (skinNoun.find? "Slimy ASTEROIDS please").bind (·.captured? "noun")
      = some "ASTEROIDS".toList := by decide +kernel
  obtain rfl : noun = "ASTEROIDS".toList := Option.some.inj (captured.symm.trans found)
  have same : Skin.asteroid = skin := (spelled .asteroid).1 (by decide)
  exact ⟨names, same ▸ ascii (by simp)⟩

/-- A noun that is written with a long s is recognized and names no skin. -/
theorem skin?_of_noun_long_s :
    skinNoun.occursIn "ſlime" = true ∧ Skin.SpelledBy .slime "ſlime".toList
      ∧ skin? "ſlime" .sandbox = none := by
  decide +kernel

end Phrase

end Minigame
