import Minigame.Text.Blank

/-! The rolling summary of a conversation. -/

namespace Minigame

open Minigame.Text

/-- A text cut to a number of characters, with an ellipsis as the last one where something is cut. -/
def ellipsize (limit : Nat) (text : List Char) : List Char :=
  if text.length ≤ limit then text else text.take (limit - 1) ++ ['…']

/-- The summary after one more prompt. -/
def summarize (previous prompt : String) (limit : Nat) : String :=
  String.ofList (ellipsize limit (trimChars (previous.toList ++ ' ' :: prompt.toList)))

end Minigame
