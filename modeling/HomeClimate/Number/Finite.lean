import HomeClimate.Number.Layout
import HomeClimate.Number.Scalar

/-!
# Finite scalars

A setting must be a finite scalar.  One that is not is refused, with the name of
what it was meant for.
-/

namespace HomeClimate

/-- A scalar that is not finite, and what it was meant for. -/
structure NotFinite (ν : Type) where
  /-- What it was meant for. -/
  what : String
  /-- The scalar. -/
  value : ν
  deriving Repr

/-- The refusal as a text. -/
def NotFinite.message (e : NotFinite Float) : String :=
  "Non-finite numeric value for " ++ e.what ++ ": " ++ NumberLayout.plain.write e.value

/-- A scalar, if it is finite. -/
def Scalar.finite {ν : Type} [Scalar ν] (what : String) (value : ν) : Except (NotFinite ν) ν :=
  if Scalar.isFinite value then .ok value else .error ⟨what, value⟩

end HomeClimate
