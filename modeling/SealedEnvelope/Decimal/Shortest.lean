/-!
The shortest decimal that reads back as a given double.

A double stands for every real number that rounds to it. Of the decimals among these the
coarsest grid of powers of ten is taken that has a point there, and on it the point nearest
to the double itself. All comparisons are between natural numbers.
-/

namespace SealedEnvelope.Decimal

/-- The number `digits · 10 ^ exponent`. -/
structure Scaled where
  digits : Nat
  exponent : Int
deriving DecidableEq, Repr

/-- A positive double as `mantissa · 2 ^ exponent`. -/
structure Binary where
  mantissa : Nat
  exponent : Int
  /-- Whether the next smaller double is only half as far as the next larger one. -/
  closeBelow : Bool

namespace Binary

/-- The parts of a positive finite double. -/
def ofFloat (value : Float) : Binary :=
  let bits := value.toBits.toNat
  let biased : Nat := bits / 0x10000000000000 % 0x800
  let fraction : Nat := bits % 0x10000000000000
  if biased = 0 then ⟨fraction, -1074, false⟩
  else ⟨0x10000000000000 + fraction, (biased : Int) - 1075, fraction = 0 && 1 < biased⟩

/-- Factors `(left, right)` with which `c · 10 ^ grid` compares to `b · 2 ^ (exponent - 2)` as
`c · left` compares to `b · right`. -/
def factors (binary : Binary) (grid : Int) : Nat × Nat :=
  let quarter := binary.exponent - 2
  (Nat.pow 10 grid.toNat * Nat.pow 2 (-quarter).toNat,
    Nat.pow 2 quarter.toNat * Nat.pow 10 (-grid).toNat)

/-- Whether the point `point · 10 ^ grid` reads back as the double: it lies between the halfway
marks to both neighbours, and the marks themselves count when the mantissa is even. -/
def contains (binary : Binary) (grid : Int) (point : Nat) : Bool :=
  let (left, right) := binary.factors grid
  let low := (4 * binary.mantissa - if binary.closeBelow then 1 else 2) * right
  let high := (4 * binary.mantissa + 2) * right
  let here := point * left
  if binary.mantissa % 2 = 0 then low ≤ here && here ≤ high else low < here && here < high

/-- The nearer of the two grid points around the double that reads back, the even one when both
are equally near. -/
def onGrid? (binary : Binary) (grid : Int) : Option Scaled :=
  let (left, right) := binary.factors grid
  let exact := 4 * binary.mantissa * right
  let below := exact / left
  let above := below + 1
  let pick (point : Nat) : Option Scaled := some ⟨point, grid⟩
  match binary.contains grid below, binary.contains grid above with
  | false, false => none
  | true, false => pick below
  | false, true => pick above
  | true, true =>
    match compare (exact - below * left) (above * left - exact) with
    | .lt => pick below
    | .gt => pick above
    | .eq => pick (if below % 2 = 0 then below else above)

/-- A power of ten above the double, and less than three places above its first digit. -/
def topGrid (binary : Binary) : Int :=
  ((binary.mantissa.log2 : Int) + binary.exponent + 1) * 30103 / 100000 + 2

/-- The shortest decimal that reads back. Seventeen digits always do. -/
def shortest (binary : Binary) : Scaled :=
  let grids := (List.range 24).map fun (down : Nat) => binary.topGrid - down
  (grids.findSome? binary.onGrid?).getD ⟨0, 0⟩

end Binary

end SealedEnvelope.Decimal
