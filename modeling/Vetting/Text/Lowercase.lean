import Vetting.Text.Table.Casing

/-!
# Vetting.Text.Lowercase

Lower case by the full mapping: every character by its simple mapping, but for two. The dotted
capital I becomes a small i and a combining dot, and a capital sigma becomes the final form at the
end of a word.
-/

namespace Vetting.Text

/-- The lower case of a single character by the simple mapping. -/
def lowerChar (c : Char) : Char :=
  let n := c.toNat
  if n < 128 then c.toLower
  else
    match Table.lowerRuns.find? fun (first, last, step, _) =>
        decide (first ≤ n) && decide (n ≤ last) && (n - first) % step == 0 with
    | some (first, _, _, lower) => Char.ofNat (lower + (n - first))
    | none => c

/-- Whether the nearest character that is not passed over has case. -/
def nearestIsCased (text : List Char) : Bool :=
  match text.dropWhile (fun c => Table.caseIgnorables.covers c.toNat) with
  | [] => false
  | c :: _ => Table.cased.covers c.toNat

/-- Lower case of `text`, given the characters before it, nearest first. -/
def lowerFrom (before : List Char) : List Char → List Char
  | [] => []
  | c :: rest =>
    let lower :=
      if c == 'Σ' then [if nearestIsCased before && !nearestIsCased rest then 'ς' else 'σ']
      else if c == 'İ' then ['i', Char.ofNat 0x307]
      else [lowerChar c]
    lower ++ lowerFrom (c :: before) rest

/-- The text in lower case. -/
def lower (text : String) : String := String.ofList (lowerFrom [] text.toList)

end Vetting.Text
