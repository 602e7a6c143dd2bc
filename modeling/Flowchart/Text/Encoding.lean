import Flowchart.Text.Utf16
import Flowchart.Text.Utf8

/-!
Encodings of text as bytes, and how bytes tell their own: by a byte order mark, or, if they start
with two ASCII characters, by the zero bytes around them.
-/

namespace Flowchart

inductive ByteOrder where
  | bigEndian
  | littleEndian
  deriving DecidableEq, Repr

inductive Encoding where
  | utf8
  | utf16 (order : ByteOrder)
  | utf32 (order : ByteOrder)
  deriving DecidableEq, Repr

namespace ByteOrder

/-- Joins every two digits of a number system to one of its square; a digit alone is refused. -/
def joinPairs? (order : ByteOrder) (base : Nat) : List Nat → Option (List Nat)
  | [] => some []
  | [_] => none
  | first :: second :: rest =>
      let pair :=
        match order with
        | bigEndian => base * first + second
        | littleEndian => first + base * second
      (pair :: ·) <$> joinPairs? order base rest

def words? (order : ByteOrder) (bytes : List UInt8) : Option (List Nat) :=
  order.joinPairs? 0x100 (bytes.map UInt8.toNat)

def doubleWords? (order : ByteOrder) (bytes : List UInt8) : Option (List Nat) :=
  (order.words? bytes).bind (order.joinPairs? 0x10000)

end ByteOrder

namespace Encoding

/-- The byte order marks. One that another one starts with comes after it. -/
def marks : List (List UInt8 × Encoding) :=
  [([0x00, 0x00, 0xfe, 0xff], utf32 .bigEndian), ([0xff, 0xfe, 0x00, 0x00], utf32 .littleEndian),
    ([0xfe, 0xff], utf16 .bigEndian), ([0xff, 0xfe], utf16 .littleEndian),
    ([0xef, 0xbb, 0xbf], utf8)]

/-- The encoding of bytes without a mark. -/
def unmarked (bytes : List UInt8) : Encoding :=
  match bytes.map (· == 0) with
  | true :: second :: _ :: _ :: _ => if second then utf32 .bigEndian else utf16 .bigEndian
  | false :: true :: third :: fourth :: _ =>
      if third && fourth then utf32 .littleEndian else utf16 .littleEndian
  | [true, _] => utf16 .bigEndian
  | [false, true] => utf16 .littleEndian
  | _ => utf8

/-- The text of bytes in a given encoding, if they are whole code points. -/
def decode? (bytes : List UInt8) : Encoding → Option Text
  | utf8 => (decodeUtf8? (bytes.map UInt8.toNat)).map Text.mk
  | utf16 order => (order.words? bytes).map fun units => ⟨decodeUtf16 units⟩
  | utf32 order => do
      let codes ← order.doubleWords? bytes
      if codes.all (· < 0x110000) then some ⟨codes.map .ofNat⟩ else none

end Encoding

/-- The text of bytes that tell their encoding themselves. -/
def textOfBytes? (bytes : List UInt8) : Option Text :=
  match Encoding.marks.find? fun mark => mark.1.isPrefixOf bytes with
  | some (mark, encoding) => encoding.decode? (bytes.drop mark.length)
  | none => (Encoding.unmarked bytes).decode? bytes

end Flowchart
