import Flowchart.Number.Binary64
import Flowchart.Text.Basic

/-!
The shortest decimal text of a binary number: the fewest digits that are read back as the same
number, and of those the ones nearest to it.
-/

namespace Flowchart

def digitCount (n : Nat) : Nat :=
  (Nat.toDigits 10 n).length

namespace Binary64

/-- The magnitudes that are rounded to a rank: from `low` to `high`, in units of `2 ^ -1075`,
the ends included when `closed`. -/
structure Basin where
  low : Nat
  high : Nat
  closed : Bool

/-- The basin of a rank. Below a power of two the neighbours stand twice as close. -/
def basin (rank : Nat) : Basin :=
  let (significand, scale) := significandOf rank
  let middle := 2 * unitsOf rank
  let below := if significand = twoTo 52 ∧ 0 < scale then twoTo (scale - 1) else twoTo scale
  ⟨middle - below, middle + twoTo scale, significand % 2 == 0⟩

/-- Whether `numerator / denominator`, in the same units, is rounded to the basin's rank. -/
def Basin.holds (b : Basin) (numerator denominator : Nat) : Bool :=
  if b.closed then b.low * denominator ≤ numerator && numerator ≤ b.high * denominator
  else b.low * denominator < numerator && numerator < b.high * denominator

/-- The power of ten of the first digit of `units * 2 ^ -1074`, for positive `units`. -/
def leadingPower (units : Nat) : Int :=
  let one := twoTo 1074
  if one ≤ units then digitCount (units / one) - 1
  else -(digitCount ((one + units - 1) / units - 1) : Int)

/-- Of the two multiples of `10 ^ power` around a magnitude, the nearer one that is rounded to its
rank; a tie goes to the even multiple. -/
def onGrid? (rank : Nat) (power : Int) : Option Nat :=
  let middle := 2 * unitsOf rank
  let up := if 0 ≤ power then tenTo power.toNat * twoTo 1075 else twoTo 1075
  let down := if 0 ≤ power then 1 else tenTo power.natAbs
  let floor := middle * down / up
  let remainder := middle * down % up
  let fits := fun multiple => (basin rank).holds (multiple * up) down
  match fits floor && floor != 0, fits (floor + 1) with
  | true, true =>
      if 2 * remainder < up ∨ 2 * remainder = up ∧ floor % 2 = 0 then some floor
      else some (floor + 1)
  | true, false => some floor
  | false, true => some (floor + 1)
  | false, false => none

/-- Digits and power of ten of the shortest decimal that is rounded to a positive rank. Seventeen
digits always suffice. -/
def shortest (rank : Nat) : Nat × Int :=
  let lead := leadingPower (unitsOf rank)
  ((List.range 17).findSome? fun (count : Nat) =>
    let power := lead - count
    (onGrid? rank power).map fun multiple => (multiple, power)).getD (0, 0)

/-- A magnitude in digits. From `10 ^ -4` up to below `10 ^ 16` the point is written in place, and
a whole number ends in `.0`; otherwise a power of ten of at least two digits follows. -/
def magnitudeText (rank : Nat) : List Char :=
  if rank = 0 then "0.0".toList
  else
    let (multiple, power) := shortest rank
    let digits := (Nat.toDigits 10 multiple).reverse.dropWhile (· == '0') |>.reverse
    let lead : Int := power + (digitCount multiple : Int) - 1
    if -4 ≤ lead ∧ lead < 16 then
      if lead < 0 then
        '0' :: '.' :: List.replicate (lead.natAbs - 1) '0' ++ digits
      else
        let places := lead.toNat + 1
        let whole := digits.take places ++ List.replicate (places - digits.length) '0'
        let fraction := digits.drop places
        whole ++ '.' :: (if fraction = [] then ['0'] else fraction)
    else
      let size := Nat.toDigits 10 lead.natAbs
      let mantissa :=
        match digits with
        | first :: second :: rest => first :: '.' :: second :: rest
        | digits => digits
      mantissa ++ 'e' :: (if lead < 0 then '-' else '+') ::
        (List.replicate (2 - size.length) '0' ++ size)

/-- The text of a number, given the words for what is not finite. -/
def text (notANumber infinity : Text) : Binary64 → Text
  | .nan => notANumber
  | .infinite negative => if negative then "-" ++ infinity else infinity
  | .finite negative rank =>
      .ofChars (if negative then '-' :: magnitudeText rank else magnitudeText rank)

end Binary64

end Flowchart
