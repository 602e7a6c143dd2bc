import Flowchart.Text.Basic

/-!
UTF-16: a character beyond U+FFFF is a pair of surrogates. A surrogate that is no half of a pair
stands for itself.
-/

namespace Flowchart

def isHighSurrogate (unit : Nat) : Bool :=
  0xd800 ≤ unit && unit ≤ 0xdbff

def isLowSurrogate (unit : Nat) : Bool :=
  0xdc00 ≤ unit && unit ≤ 0xdfff

/-- The character of a pair of surrogates. -/
def pairCode (high low : Nat) : Code :=
  .ofNat (0x10000 + (high - 0xd800) * 0x400 + (low - 0xdc00))

/-- The code points that code units stand for. -/
def decodeUtf16 : List Nat → List Code
  | [] => []
  | [unit] => [.ofNat unit]
  | unit :: next :: rest =>
      if isHighSurrogate unit && isLowSurrogate next then pairCode unit next :: decodeUtf16 rest
      else .ofNat unit :: decodeUtf16 (next :: rest)

end Flowchart
