import Minigame.Json.Basic

/-! Values compared as numbers compare, so that zeros of either sign are alike. -/

namespace Minigame

/-- Whether two numbers are of one kind and compare as equal. -/
def Number.alike : Number → Number → Bool
  | .int a, .int b => a = b
  -- The comparison of doubles takes both zeros for one number.
  | .double a, .double b => a == b
  | _, _ => false

namespace Json

mutual

/-- Whether two values differ at most in the signs of zeros. -/
def alike : Json → Json → Bool
  | .null, .null => true
  | .bool a, .bool b => a = b
  | .num a, .num b => a.alike b
  | .str a, .str b => a = b
  | .arr a, .arr b => alikeItems a b
  | .obj a, .obj b => alikeFields a b
  | _, _ => false

/-- Whether two sequences hold values that are alike. -/
def alikeItems : List Json → List Json → Bool
  | [], [] => true
  | a :: restA, b :: restB => alike a b && alikeItems restA restB
  | _, _ => false

/-- Whether two mappings hold values that are alike under the same names. -/
def alikeFields : List (String × Json) → List (String × Json) → Bool
  | [], [] => true
  | (nameA, a) :: restA, (nameB, b) :: restB =>
    nameA = nameB && alike a b && alikeFields restA restB
  | _, _ => false

end

end Json

end Minigame
