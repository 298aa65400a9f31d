import HomeClimate.Number.Scalar

/-!
# Units of temperature

Temperatures are in degrees Celsius.  A temperature in another unit goes through
kelvin, with every step rounded in the order that is written here.
-/

namespace HomeClimate.Temperature

variable {ν : Type} [Scalar ν]

/-- The freezing point of water in kelvin. -/
def freezingPoint : ν := Scalar.ofDigits 27315 (-2)

/-- Degrees Celsius in kelvin. -/
def kelvinOfCelsius (v : ν) : ν := (v + freezingPoint) * 1

/-- Kelvin in degrees Celsius. -/
def celsiusOfKelvin (k : ν) : ν := k / 1 - freezingPoint

/-- Degrees Fahrenheit in kelvin. -/
def kelvinOfFahrenheit (v : ν) : ν :=
  (v + Scalar.ofDigits 45967 (-2)) * (Scalar.ofInt 5 / Scalar.ofInt 9)

/-- Degrees Fahrenheit in degrees Celsius. -/
def celsiusOfFahrenheit (v : ν) : ν := celsiusOfKelvin (kelvinOfFahrenheit v)

end HomeClimate.Temperature
