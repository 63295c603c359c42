import Vetting.Text.Lowercase

/-!
# Vetting.Text.CaseVariant

Characters that differ by their case only. Two characters do when they are folded to the same one:
to their lower case, but for some characters that are variants of another small letter. The letters
I with and without a dot are variants of one another as some languages have it.
-/

namespace Vetting.Text

/-- Small letters that are variants of another small letter, and that letter. -/
def foldedVariants : List (Nat × Nat) :=
  [(0xB5, 0x3BC), (0x17F, 0x73), (0x345, 0x3B9), (0x3C2, 0x3C3), (0x3D0, 0x3B2), (0x3D1, 0x3B8),
   (0x3D5, 0x3C6), (0x3D6, 0x3C0), (0x3F0, 0x3BA), (0x3F1, 0x3C1), (0x3F5, 0x3B5), (0x1C80, 0x432),
   (0x1C81, 0x434), (0x1C82, 0x43E), (0x1C83, 0x441), (0x1C84, 0x442), (0x1C85, 0x442),
   (0x1C86, 0x44A), (0x1C87, 0x463), (0x1C88, 0xA64B), (0x1E9B, 0x1E61), (0x1FBE, 0x3B9)]

/-- The character that stands for all that differ from `c` by their case only. -/
def foldChar (c : Char) : Char :=
  match foldedVariants.lookup c.toNat with
  | some n => Char.ofNat n
  | none => lowerChar c

/-- The characters other than itself that are folded to a character. -/
def unfolded (c : Char) : List Char :=
  let n := c.toNat
  let upper : List Nat := Table.lowerRuns.filterMap fun (first, last, step, lower) =>
    if lower ≤ n ∧ n ≤ lower + (last - first) ∧ (n - lower) % step = 0 then
      some (first + (n - lower))
    else none
  let other : List Nat := foldedVariants.filterMap fun (variant, folded) =>
    if folded = n then some variant else none
  (upper ++ other).map Char.ofNat

/-- The letters I, and their variants. -/
def dottedVariants : List (Char × List Char) :=
  [('I', ['i', 'ı']), ('i', ['I', 'İ']), ('ı', ['I']), ('İ', ['i'])]

/-- A character, and all that differ from it by their case only. -/
def caseVariants (c : Char) : List Char :=
  match dottedVariants.lookup c with
  | some variants => c :: variants
  | none => c :: foldChar c :: unfolded (foldChar c)

end Vetting.Text
