import Vetting.Validator.Hint.Expression

/-!
# Vetting.Validator.Hint.Naming

Where an expression may give names to things. Nothing is named within what things are taken from one
by one, and no name is given that stands for each of these things.
-/

namespace Vetting

namespace Target

mutual

/-- The names of a target. -/
def names : Target → List String
  | .name s => [s]
  | .several targets => namesOfAll targets

/-- The names of some targets. -/
def namesOfAll : List Target → List String
  | [] => []
  | target :: rest => names target ++ namesOfAll rest

end

end Target

/-- What surrounds an expression where names are given. -/
structure NamingPlace where
  /-- Whether things are taken one by one from what the expression belongs to. -/
  isSource : Bool := false
  /-- The names that stand for things that are taken one by one. -/
  taken : List String := []

namespace Expression

/-- The names that stand for the things of sources. -/
def sourceNames : List (Target × Expression × List Expression) → List String
  | [] => []
  | (target, _, _) :: rest => target.names ++ sourceNames rest

mutual

/-- Whether an expression gives names only where it may. -/
def namesWell (place : NamingPlace) : Expression → Bool
  | .name _ | .constant _ | .imaginary _ | .bytes _ | .ellipsis => true
  | .collection _ items => allNameWell place items
  | .mapping keys values => allNameWell place keys && allNameWell place values
  | .spread e | .keyword _ e | .attribute e _ | .unary _ e => namesWell place e
  | .item object key => namesWell place object && namesWell place key
  | .slice first last step =>
    namesWell place first && namesWell place last && namesWell place step
  | .call callee arguments => namesWell place callee && allNameWell place arguments
  | .binary _ left right => namesWell place left && namesWell place right
  | .compare first _ others => namesWell place first && allNameWell place others
  | .andThen first second | .orElse first second =>
    namesWell place first && namesWell place second
  | .choose test yes no => namesWell place test && namesWell place yes && namesWell place no
  | .function parameters body =>
    parametersNameWell place parameters && namesWell { place with taken := [] } body
  | .each _ element sources =>
    let place := { place with taken := sourceNames sources ++ place.taken }
    namesWell place element && sourcesNameWell place sources
  | .filled parts => allNameWell place parts
  | .formed e _ form => namesWell place e && namesWell place form
  | .named s e => !place.isSource && !place.taken.contains s && namesWell place e

/-- Whether some expressions give names only where they may. -/
def allNameWell (place : NamingPlace) : List Expression → Bool
  | [] => true
  | e :: rest => namesWell place e && allNameWell place rest

/-- Whether the values that parameters have give names only where they may. -/
def parametersNameWell (place : NamingPlace) : List (String × Option Expression) → Bool
  | [] => true
  | (_, some e) :: rest => namesWell place e && parametersNameWell place rest
  | (_, none) :: rest => parametersNameWell place rest

/-- Whether sources and the tests behind them give names only where they may. -/
def sourcesNameWell (place : NamingPlace) : List (Target × Expression × List Expression) → Bool
  | [] => true
  | (_, source, tests) :: rest =>
    namesWell { place with isSource := true } source && allNameWell place tests &&
      sourcesNameWell place rest

end

end Expression

end Vetting
