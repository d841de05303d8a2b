/-! # Sixty-four-bit floating-point numbers, exactly

A finite number is `significand · 2 ^ exponent` with at most 53 significant bits and an exponent of
at least -1074. Reading rounds a decimal to the nearest such number, an exact half to the even
significand; writing gives the fewest digits that read back to the same number. All arithmetic is
on natural numbers.
-/

namespace FileGateway

inductive Binary64
  | finite (negative : Bool) (significand : Nat) (exponent : Int)
  | infinite (negative : Bool)
  | notANumber
deriving DecidableEq, Repr

namespace Binary64

/-- Significands have 53 bits, so they are below 2 to the power of 53. -/
def significandLimit : Nat := 0x20000000000000

/-- `numerator / denominator` rounded to a natural number, an exact half to the even one. -/
def roundHalfEven (numerator denominator : Nat) : Nat :=
  let quotient := numerator / denominator
  let twice := 2 * (numerator % denominator)
  if twice < denominator then quotient
  else if denominator < twice then quotient + 1
  else quotient + quotient % 2

/-- The quotient of two numbers after one of them is scaled, so that `value / 2 ^ exponent` is
`fst / snd`. -/
def unscale (numerator denominator : Nat) (exponent : Int) : Nat × Nat :=
  if exponent < 0 then (numerator <<< exponent.natAbs, denominator)
  else (numerator, denominator <<< exponent.natAbs)

/-- The nearest number to the positive quotient `numerator / denominator`. -/
def ofQuotient (negative : Bool) (numerator denominator : Nat) : Binary64 :=
  if numerator = 0 then .finite negative 0 0 else
    let estimate := (Nat.log2 numerator : Int) - Nat.log2 denominator - 53
    let (n, d) := unscale numerator denominator estimate
    let exponent := max (if n / d < significandLimit then estimate else estimate + 1) (-1074)
    let (n, d) := unscale numerator denominator exponent
    let rounded := roundHalfEven n d
    let (significand, exponent) :=
      if rounded = significandLimit then (significandLimit / 2, exponent + 1)
      else (rounded, exponent)
    if 971 < exponent then .infinite negative else .finite negative significand exponent

/-- The nearest number to `digits · 10 ^ exponent`. Exponents far outside the range are settled by
the size alone. -/
def ofDecimal (negative : Bool) (digits : Nat) (exponent : Int) : Binary64 :=
  if digits = 0 then .finite negative 0 0
  else
    let size := (Nat.toDigits 10 digits).length + exponent
    if 400 < size then .infinite negative
    else if size < -400 then .finite negative 0 0
    else if exponent < 0 then ofQuotient negative digits (Nat.pow 10 exponent.natAbs)
    else ofQuotient negative (digits * Nat.pow 10 exponent.natAbs) 1

/-- The power of ten just above the quotient: `10 ^ (m - 1) ≤ numerator / denominator < 10 ^ m`. -/
def magnitude (numerator denominator : Nat) : Int :=
  if denominator ≤ numerator then (Nat.toDigits 10 (numerator / denominator)).length
  else
    let reaches := fun shift => decide (denominator ≤ numerator * Nat.pow 10 (shift + 1))
    match (List.range 400).find? reaches with
    | some shift => -(shift : Int)
    | none => 0

/-- The multiple of `10 ^ grid` that reads back as the given number and lies nearest to it, the
upper one on a tie. The interval of values that round to the number includes its ends when the
significand is even. -/
def onGrid? (significand : Nat) (exponent grid : Int) : Option Nat :=
  let below := if significand = significandLimit / 2 ∧ -1074 < exponent then 1 else 2
  let scale := if exponent < 0 then 1 else 1 <<< exponent.natAbs
  let unit := (if exponent < 0 then 1 <<< exponent.natAbs else 1)
    * (if grid < 0 then 1 else Nat.pow 10 grid.natAbs) * 4
  let weight := scale * (if grid < 0 then Nat.pow 10 grid.natAbs else 1)
  let value := 4 * significand * weight
  let low := value - below * weight
  let high := value + 2 * weight
  let inside := fun candidate : Nat =>
    if significand % 2 = 0 then decide (low ≤ candidate * unit ∧ candidate * unit ≤ high)
    else decide (low < candidate * unit ∧ candidate * unit < high)
  let lower := value / unit
  let upper := lower + 1
  match inside lower, inside upper with
  | true, true => some (if 2 * (value % unit) < unit then lower else upper)
  | true, false => some lower
  | false, true => some upper
  | false, false => none

/-- The fewest digits that read back, with the power of ten they are multiplied by.
Rounding up to the next power of ten leaves one final zero, which is dropped. -/
def shortest (significand : Nat) (exponent : Int) : Nat × Int :=
  let (n, d) :=
    if exponent < 0 then (significand, 1 <<< exponent.natAbs)
    else (significand <<< exponent.natAbs, 1)
  let top := magnitude n d
  let hit := (List.range 17).findSome? fun (count : Nat) =>
    let grid : Int := top - (count + 1)
    (onGrid? significand exponent grid).map (·, grid)
  let (digits, power) := hit.getD (0, 0)
  if digits % 10 = 0 then (digits / 10, power + 1) else (digits, power)

/-- Digits in positional notation with at least one digit after the point. -/
def positional (digits : Nat) (exponent : Int) : List Char :=
  let shown := Nat.toDigits 10 digits
  if 0 ≤ exponent then shown ++ List.replicate exponent.natAbs '0' ++ ['.', '0']
  else
    let places := exponent.natAbs
    if shown.length ≤ places then
      '0' :: '.' :: List.replicate (places - shown.length) '0' ++ shown
    else shown.take (shown.length - places) ++ '.' :: shown.drop (shown.length - places)

/-- A number is written positionally, never with an exponent. -/
def text : Binary64 → String
  | .notANumber => "NaN"
  | .infinite negative => if negative then "-inf" else "inf"
  | .finite negative significand exponent =>
    let (digits, power) := if significand = 0 then (0, 0) else shortest significand exponent
    String.ofList ((if negative then ['-'] else []) ++ positional digits power)

end Binary64

end FileGateway
