/-!
# Shortest decimals

A binary fraction `m * 2 ^ q` is written with the fewest decimal digits that read back to it. Every number closer to it
than half the distance to its neighbours reads back, and so does a number exactly half way if `m` is even. On the grid
of the multiples of `10 ^ k` only the two grid points around the value matter, so the search goes from coarse grids to
fine ones and takes the first hit, the nearer one of two.

All quantities are natural numbers: value and half-way marks are scaled to a common denominator first.
-/

namespace Transparency

namespace Decimal

/-- A positive decimal `digits * 10 ^ exponent`. -/
structure Scientific where
  digits : Nat
  exponent : Int
  deriving DecidableEq, Repr

/-- A positive number between its half-way marks, each over the denominator `unit`. -/
structure Interval where
  lower : Nat
  value : Nat
  upper : Nat
  unit : Nat
  /-- whether the marks themselves read back to the value -/
  isClosed : Bool

/-- The interval of `m * 2 ^ q`. Below the value the distance is halved when `m` is the least mantissa of its
binade. -/
def intervalOf (m : Nat) (q : Int) (isBinadeStart : Bool) : Interval :=
  let scale := fun n : Nat => n * Nat.pow 2 (q - 2).toNat
  { lower := scale (if isBinadeStart then 4 * m - 1 else 4 * m - 2)
    value := scale (4 * m)
    upper := scale (4 * m + 2)
    unit := Nat.pow 2 (2 - q).toNat
    isClosed := m % 2 = 0 }

/-- Whether `digits * 10 ^ exponent` reads back. -/
def Interval.admits (i : Interval) (digits : Nat) (exponent : Int) : Bool :=
  let point := digits * Nat.pow 10 exponent.toNat * i.unit
  let scale := Nat.pow 10 (-exponent).toNat
  if i.isClosed then i.lower * scale ≤ point && point ≤ i.upper * scale
  else i.lower * scale < point && point < i.upper * scale

/-- The grid point below the value. -/
def Interval.floor (i : Interval) (exponent : Int) : Nat :=
  i.value * Nat.pow 10 (-exponent).toNat / (Nat.pow 10 exponent.toNat * i.unit)

/-- Whether the value is nearer to the grid point `digits` than to the next one; half way the even one is nearer. -/
def Interval.prefersLower (i : Interval) (digits : Nat) (exponent : Int) : Bool :=
  let twice := 2 * i.value * Nat.pow 10 (-exponent).toNat
  let middle := (2 * digits + 1) * Nat.pow 10 exponent.toNat * i.unit
  twice < middle || (twice = middle && digits % 2 = 0)

/-- The point of one grid that reads back, the nearer one of two. -/
def Interval.pick? (i : Interval) (exponent : Int) : Option Scientific :=
  let below := i.floor exponent
  match i.admits below exponent && below ≠ 0, i.admits (below + 1) exponent with
  | true, true => some ⟨if i.prefersLower below exponent then below else below + 1, exponent⟩
  | true, false => some ⟨below, exponent⟩
  | false, true => some ⟨below + 1, exponent⟩
  | false, false => none

/-- The first hit on the grids `exponent`, `exponent - 1`, …; at most `grids` of them are tried. -/
def Interval.search (i : Interval) : (grids : Nat) → (exponent : Int) → Scientific
  | 0, exponent => ⟨i.floor exponent, exponent⟩
  | grids + 1, exponent => (i.pick? exponent).getD (i.search grids (exponent - 1))

/-- The shortest decimal that reads back to `m * 2 ^ q`, for a positive `m`. The coarsest grid that can have a hit lies
just above the value: `2 ^ e` is less than `10 ^ (e * 30103 / 100000 + 1)`. -/
def shortest (m : Nat) (q : Int) (isBinadeStart : Bool) : Scientific :=
  let top := (q + Nat.log2 m + 1) * 30103 / 100000 + 1
  (intervalOf m q isBinadeStart).search 24 top

/-- Mantissa, exponent and whether the mantissa is the least of its binade, from the bits of a finite number. -/
def partsOfBits (bits : UInt64) : Nat × Int × Bool :=
  let fraction := (bits &&& 0xFFFFFFFFFFFFF).toNat
  let exponent := ((bits >>> 52) &&& 0x7FF).toNat
  if exponent = 0 then (fraction, -1074, false)
  else (fraction + 0x10000000000000, (exponent : Int) - 1075, fraction = 0 && exponent > 1)

/-- How decimals are laid out: where positional notation ends, and how an exponent is written. -/
structure Layout where
  /-- the least decimal exponent of the leading digit that is written positionally -/
  leastPositional : Int
  /-- the greatest one -/
  greatestPositional : Int
  /-- what stands in front of an exponent that is not negative -/
  plus : String
  /-- the least number of digits of an exponent -/
  exponentDigits : Nat

/-- A positive decimal in the layout; whole numbers get a zero after the point. -/
def Layout.render (layout : Layout) (s : Scientific) : String :=
  let digits := (toString s.digits).toList
  let leading : Int := s.exponent + digits.length - 1
  if layout.leastPositional ≤ leading ∧ leading ≤ layout.greatestPositional then
    if 0 ≤ s.exponent then
      String.ofList (digits ++ List.replicate s.exponent.toNat '0') ++ ".0"
    else if 0 ≤ leading then
      let whole := (leading + 1).toNat
      String.ofList (digits.take whole) ++ "." ++ String.ofList (digits.drop whole)
    else
      "0." ++ String.ofList (List.replicate (-leading - 1).toNat '0' ++ digits)
  else
    let mantissa := match digits with
      | [d] => String.ofList [d]
      | d :: ds => String.ofList (d :: '.' :: ds)
      | [] => ""
    let exponent := (toString leading.natAbs).toList
    let padding := List.replicate (layout.exponentDigits - exponent.length) '0'
    mantissa ++ "e" ++ (if leading < 0 then "-" else layout.plus) ++ String.ofList (padding ++ exponent)

/-- A finite number in the layout. -/
def Layout.renderFloat (layout : Layout) (x : Float) : String :=
  let bits := x.toBits
  let (m, q, isBinadeStart) := partsOfBits bits
  let sign := if bits >>> 63 = 1 then "-" else ""
  sign ++ if m = 0 then "0.0" else layout.render (shortest m q isBinadeStart)

end Decimal

end Transparency
