import Flowchart.Number.Power

/-!
Binary floating-point numbers of 64 bits as data. A finite number is a sign and the rank of its
magnitude: its place, from zero up, among all finite magnitudes. There is one value for all NaNs.
-/

namespace Flowchart

def finiteMagnitudes : Nat := 2047 * twoTo 52

/-- A number of the IEEE 754 format binary64. -/
inductive Binary64 where
  | nan
  | infinite (negative : Bool)
  | finite (negative : Bool) (rank : Fin finiteMagnitudes)
  deriving DecidableEq, Repr

namespace Binary64

/-- The number of a sign and a rank; ranks beyond the last finite one are infinite. -/
def ofRank (negative : Bool) (rank : Nat) : Binary64 :=
  if inRange : rank < finiteMagnitudes then .finite negative ⟨rank, inRange⟩ else .infinite negative

def zero : Binary64 := ofRank false 0

instance : Inhabited Binary64 := ⟨zero⟩

/-- The 64 bits as a number: sign, 11 bits of exponent, 52 bits of fraction. -/
def bits : Binary64 → Nat
  | .nan => 0x7ff8 * twoTo 48
  | .infinite negative => (if negative then twoTo 63 else 0) + finiteMagnitudes
  | .finite negative rank => (if negative then twoTo 63 else 0) + rank

def isFinite : Binary64 → Bool
  | .finite .. => true
  | _ => false

/-- A quotient rounded to the nearest whole number, a half to the even neighbour. -/
def roundHalfEven (numerator denominator : Nat) : Nat :=
  let quotient := numerator / denominator
  let twice := 2 * (numerator % denominator)
  if twice < denominator ∨ twice = denominator ∧ quotient % 2 = 0 then quotient else quotient + 1

/-- The rank of the magnitude nearest to a quotient. Ranks with the same leading part are
`2 ^ scale` smallest magnitudes apart, where `scale` is chosen so that 53 bits remain. -/
def nearestRank (numerator denominator : Nat) : Nat :=
  let units := numerator * twoTo 1074
  let scale := Nat.log2 (units / denominator) - 52
  scale * twoTo 52 + roundHalfEven units (denominator * twoTo scale)

def ofRatio (negative : Bool) (numerator denominator : Nat) : Binary64 :=
  ofRank negative (nearestRank numerator denominator)

/-- The number nearest to a whole number, unless that is too large for a finite one. -/
def ofInt? (value : Int) : Option Binary64 :=
  match ofRatio (value < 0) value.natAbs 1 with
  | .finite negative rank => some (.finite negative rank)
  | _ => none

/-- Significand and scale of a rank: its magnitude is `significand * 2 ^ scale` times the
smallest positive one, which is `2 ^ -1074`. -/
def significandOf (rank : Nat) : Nat × Nat :=
  let field := rank / twoTo 52
  let fraction := rank % twoTo 52
  if field = 0 then (fraction, 0) else (twoTo 52 + fraction, field - 1)

/-- The magnitude of a rank in units of `2 ^ -1074`. -/
def unitsOf (rank : Nat) : Nat :=
  (significandOf rank).1 * twoTo (significandOf rank).2

def toInt? : Binary64 → Option Int
  | .finite negative rank =>
      let size : Int := (unitsOf rank / twoTo 1074 : Nat)
      if unitsOf rank % twoTo 1074 = 0 then some (if negative then -size else size) else none
  | _ => none

def isZero : Binary64 → Bool
  | .finite _ rank => rank.val == 0
  | _ => false

end Binary64

end Flowchart
