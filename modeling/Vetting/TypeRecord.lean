import Vetting.Text.Scan

/-!
# Vetting.TypeRecord

What is known of one type definition, and the names that stand for it in source text: the type's
own name without its arity, and for a tag type the short name without the ending that tags share.
-/

namespace Vetting

/-- What is known of one type definition. -/
structure TypeRecord where
  /-- The dotted namespace that declares the type; empty for the root namespace. -/
  home : String
  /-- The simple name, with an arity where the type has parameters. -/
  name : String
  /-- The type is a tag. -/
  isTag : Bool := false
  isSealed : Bool := false
  isAbstract : Bool := false
  isClass : Bool := true
  /-- How many extension methods the type holds. -/
  extensionMethods : Int := 0
  deriving DecidableEq, Repr, Inhabited

namespace TypeRecord

/-- Whether the type is a class of static members only: sealed and abstract at once. -/
def isStaticContainer (record : TypeRecord) : Bool :=
  record.isClass && record.isSealed && record.isAbstract

/-- Whether the type holds extension methods, which are used without naming the type. -/
def isExtensionContainer (record : TypeRecord) : Bool :=
  record.isStaticContainer && decide (0 < record.extensionMethods)

/-- The mark before a type's arity. -/
def arityMark : Char := Char.ofNat 0x60

/-- A type's name without its arity. -/
def stripArity (name : List Char) : List Char := name.takeWhile (· != arityMark)

/-- The ending that the names of tag types share. -/
def tagEnding : List Char := ['A', 't', 't', 'r', 'i', 'b', 'u', 't', 'e']

/-- The name of a tag type without the shared ending, if anything stands before it. -/
def tagShort? (name : List Char) : Option (List Char) :=
  match Text.after? tagEnding.reverse name.reverse with
  | some (c :: front) => some (c :: front).reverse
  | _ => none

/-- The name that stands for the type in source text. -/
def shortName (record : TypeRecord) : List Char := stripArity record.name.toList

/-- The short name that stands for the type where it is used as a tag. -/
def tagName? (record : TypeRecord) : Option (List Char) :=
  if record.isTag then tagShort? record.shortName else none

/-- A name has the short form `short` exactly when it is `short` and the shared ending. -/
theorem tagShort?_eq_some_iff {name short : List Char} :
    tagShort? name = some short ↔ short ≠ [] ∧ name = short ++ tagEnding := by
  have key : ∀ front : List Char, Text.after? tagEnding.reverse name.reverse = some front ↔
      name = front.reverse ++ tagEnding := by
    intro front
    rw [Text.after?_eq_some_iff, List.reverse_eq_iff, List.reverse_append, List.reverse_reverse]
  constructor
  · intro h
    simp only [tagShort?] at h
    split at h
    · next c front hf =>
      obtain rfl := Option.some.inj h
      exact ⟨by simp, (key _).1 hf⟩
    · cases h
  · rintro ⟨hne, hname⟩
    have hf := (key short.reverse).2 (by rw [List.reverse_reverse]; exact hname)
    cases hs : short.reverse with
    | nil => exact absurd (List.reverse_eq_nil_iff.1 hs) hne
    | cons c front =>
      rw [hs] at hf
      simp only [tagShort?, hf]
      rw [← hs, List.reverse_reverse]

end TypeRecord

end Vetting
