/-
This file looks characters up in tables of ranges. A table lists ranges of codes,
both ends included, in ascending order and apart from each other, and is searched
by halving.
-/

namespace ScriptBridge.Text

/-- Is the code within one of the ranges from the first place up to the second? Each step of the
search halves the places, so as many steps as places are plenty. -/
def searchRanges (ranges : Array (Nat × Nat)) (code : Nat) : Nat → Nat → Nat → Bool
  | 0, _, _ => false
  | steps + 1, first, last =>
    if last ≤ first then false
    else
      let middle := (first + last) / 2
      match ranges[middle]? with
      | none => false
      | some (low, high) =>
        if code < low then searchRanges ranges code steps first middle
        else if high < code then searchRanges ranges code steps (middle + 1) last
        else true

/-- Is the character in the table? -/
def inRanges (ranges : Array (Nat × Nat)) (character : Char) : Bool :=
  searchRanges ranges character.toNat ranges.size 0 ranges.size

end ScriptBridge.Text
