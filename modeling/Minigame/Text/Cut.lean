/-! Texts cut to a number of characters, or at a character they end in. -/

namespace Minigame.Text

/-- The first characters of a text. -/
def truncate (limit : Nat) (text : String) : String :=
  String.ofList (text.toList.take limit)

/-- A text that is short enough is not cut. -/
theorem truncate_of_length_le {limit : Nat} {text : String} (short : text.length ≤ limit) :
    truncate limit text = text := by
  -- Characters are counted in the list, where cutting is taking.
  have chars : text.toList.length ≤ limit := by rwa [String.length_toList]
  rw [truncate, List.take_of_length_le chars, String.ofList_toList]

/-- A text without the slashes at its end. -/
def dropSlashes (text : String) : String :=
  String.ofList (text.toList.reverse.dropWhile (· = '/')).reverse

end Minigame.Text
