import SealedEnvelope.Decimal.Shortest

/-!
JSON numbers: their values and their text.

A number literal without fraction and exponent whose value lies in -2⁶³ … 2⁶⁴-1 is an
integer; every other one, and minus zero, is a double.
-/

namespace SealedEnvelope.Json

/-- The value of a number literal. -/
inductive Number where
  | integer (value : Int)
  | float (value : Float)
deriving Repr

namespace Number

/-- The largest significand that is kept exactly. -/
def maxSignificand : Nat := 0xFFFFFFFFFFFFFFFF

/-- The largest exponent whose value matters. -/
def maxExponent : Nat := 0x7FFFFFFF

/-- Ten to the power of `exponent`, for exponents up to 308. -/
def powerOfTen (exponent : Nat) : Float := Float.ofScientific 1 false exponent

/-- A double divided by ten to the power of `exponent`, in steps that a double can hold. -/
def scaleDown (value : Float) (exponent : Nat) : Float :=
  if exponent ≤ 308 then value / powerOfTen exponent
  else if value == 0 then value
  else scaleDown (value / powerOfTen 308) (exponent - 308)
termination_by exponent

/-- The double nearest the significand, times ten to the power of `exponent`; nothing when
that is too large for a double. -/
def scale? (significand : Nat) (exponent : Int) : Option Float :=
  let value := significand.toUInt64.toFloat
  if exponent < 0 then some (scaleDown value exponent.natAbs)
  else if exponent ≤ 308 then
    let scaled := value * powerOfTen exponent.toNat
    if scaled.isInf then none else some scaled
  else if significand = 0 then some value
  else none

/-- The significand after more digits, and how many digits at the end no longer fitted. -/
def extend (significand : Nat) : List Nat → Nat × Nat
  | [] => (significand, 0)
  | digit :: rest =>
    let longer := significand * 10 + digit
    if longer ≤ maxSignificand then extend longer rest else (significand, rest.length + 1)

/-- The integer of a literal, or the double when it has no integer. -/
def ofWhole (negative : Bool) (significand : Nat) : Number :=
  if negative then
    if significand = 0 ∨ 0x8000000000000000 < significand then
      .float (-significand.toUInt64.toFloat)
    else .integer (-significand)
  else .integer significand

/-- A double that is not negative, with the sign of its literal. -/
def withSign (negative : Bool) (value : Float) : Number :=
  .float (if negative then -value else value)

/-- A double is written with all its places when its first digit is one of 10⁻⁵ … 10¹⁵, and
with one digit before the point and an exponent otherwise. -/
def scaledText (scaled : Decimal.Scaled) : String :=
  let digits := Nat.toDigits 10 scaled.digits
  let text := String.ofList
  let zeros (count : Int) := List.replicate count.toNat '0'
  -- The value is below ten to the power of `point`.
  let point := digits.length + scaled.exponent
  if 0 ≤ scaled.exponent ∧ point ≤ 16 then
    text (digits ++ zeros scaled.exponent) ++ ".0"
  else if 0 < point ∧ point ≤ 16 then
    text (digits.take point.toNat) ++ "." ++ text (digits.drop point.toNat)
  else if -5 < point ∧ point ≤ 0 then
    "0." ++ text (zeros (-point) ++ digits)
  else
    let fraction := if digits.length = 1 then "" else "." ++ text (digits.drop 1)
    let sign := if point ≤ 0 then "-" else "+"
    text (digits.take 1) ++ fraction ++ "e" ++ sign ++ toString (point - 1).natAbs

/-- The text of a finite double. -/
def floatText (value : Float) : String :=
  let negative := value.toBits >>> 63 == 1
  let size := value.abs
  (if negative then "-" else "") ++
    if size == 0 then "0.0" else scaledText (Decimal.Binary.ofFloat size).shortest

/-- The text of a number. -/
def text : Number → String
  | integer value => toString value
  | float value => floatText value

end Number

end SealedEnvelope.Json
