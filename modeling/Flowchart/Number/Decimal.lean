import Flowchart.Number.Binary64
import Flowchart.Text.Basic

/-!
Decimal literals: digits with an optional point and an optional power of ten, and the binary
number nearest to one.
-/

namespace Flowchart

/-- The number `digits * 10 ^ exponent` with a sign. -/
structure Decimal where
  negative : Bool
  digits : Nat
  exponent : Int
  deriving DecidableEq, Repr

/-- The most digits that are read as a whole number. -/
def maxDigits : Nat := 4300

def numberOfDigits (digits : List Code) : Nat :=
  digits.foldl (fun total digit => 10 * total + (digit.toNat - '0'.toNat)) 0

def spanDigits (cs : List Code) : List Code × List Code :=
  (cs.takeWhile Code.isDigit, cs.dropWhile Code.isDigit)

theorem spanDigits_append (cs : List Code) : (spanDigits cs).1 ++ (spanDigits cs).2 = cs :=
  List.takeWhile_append_dropWhile

/-- Splits a text after an optional sign; the flag tells a minus. -/
def spanSign : List Code → Bool × List Code
  | .char '+' :: rest => (false, rest)
  | .char '-' :: rest => (true, rest)
  | rest => (false, rest)

namespace Decimal

/-- The binary number nearest to a decimal one. Powers of ten that decide the answer alone are not
computed. -/
def toBinary64 (decimal : Decimal) : Binary64 :=
  if decimal.digits = 0 then .ofRank decimal.negative 0
  else if 400 < decimal.exponent then .infinite decimal.negative
  else if 0 ≤ decimal.exponent then
    .ofRatio decimal.negative (decimal.digits * tenTo decimal.exponent.toNat) 1
  else
    let places := decimal.exponent.natAbs
    if Nat.log2 decimal.digits + 1100 < 3 * places then .ofRank decimal.negative 0
    else .ofRatio decimal.negative decimal.digits (tenTo places)

/-- The power of ten after a literal's digits: nothing, or `e`, a sign if wanted, and digits. -/
def exponent? : List Code → Option Int
  | [] => some 0
  | mark :: rest =>
      let (negative, digits) := spanSign rest
      if (mark = 'e' ∨ mark = 'E') ∧ digits ≠ [] ∧ digits.all Code.isDigit then
        let size : Int := numberOfDigits digits
        some (if negative then -size else size)
      else none

/-- A literal without its sign: digits with a point before, among or after them, or none. -/
def ofUnsigned? (negative : Bool) (cs : List Code) : Option Decimal :=
  let (whole, rest) := spanDigits cs
  let (fraction, rest) :=
    match rest with
    | .char '.' :: rest => spanDigits rest
    | rest => ([], rest)
  if whole = [] ∧ fraction = [] then none
  else
    (exponent? rest).map fun exponent =>
      ⟨negative, numberOfDigits (whole ++ fraction), exponent - fraction.length⟩

end Decimal

end Flowchart
