import Flowchart.Json.Basic
import Flowchart.Number.Shortest
import Flowchart.Text.Hex

/-!
Writing JSON values as text. The text is plain ASCII: every other code point is written as one or
two escaped code units.
-/

namespace Flowchart.Json

def unitEscape (unit : Nat) : List Code :=
  ('\\' :: 'u' :: hexDigits 4 unit).map .char

def escapeCode (c : Code) : List Code :=
  if c = '"' ∨ c = '\\' then ['\\', c]
  else if c = '\n' then ['\\', 'n']
  else if c = '\r' then ['\\', 'r']
  else if c = '\t' then ['\\', 't']
  else if c = '\x08' then ['\\', 'b']
  else if c = '\x0c' then ['\\', 'f']
  else if 0x20 ≤ c.toNat ∧ c.toNat < 0x7f then [c]
  else if c.toNat < 0x10000 then unitEscape c.toNat
  else
    unitEscape (0xd800 + (c.toNat - 0x10000) / 0x400) ++
      unitEscape (0xdc00 + (c.toNat - 0x10000) % 0x400)

def writeText (text : Text) : List Code :=
  .char '"' :: text.codes.flatMap escapeCode ++ [.char '"']

def writeDigits (n : Nat) : List Code :=
  (Nat.toDigits 10 n).map .char

def writeInt (value : Int) : List Code :=
  if value < 0 then .char '-' :: writeDigits value.natAbs else writeDigits value.natAbs

/-- What stands in front of an item at a depth: with an indent, a line break and the indent once
per level. -/
def lineBreak (indent : Option Nat) (depth : Nat) : List Code :=
  match indent with
  | none => []
  | some width => .char '\n' :: List.replicate (width * depth) (.char ' ')

/-- What stands between two items of a container at a depth. -/
def separator (indent : Option Nat) (depth : Nat) : List Code :=
  match indent with
  | none => [',', ' ']
  | some _ => .char ',' :: lineBreak indent depth

mutual

/-- Writes a value that stands at a depth. -/
def write (indent : Option Nat) (depth : Nat) : Json → List Code
  | .null => Text.codes "null"
  | .bool true => Text.codes "true"
  | .bool false => Text.codes "false"
  | .int value => writeInt value
  | .float value => (value.text "NaN" "Infinity").codes
  | .str text => writeText text
  | .arr [] => ['[', ']']
  | .arr (first :: rest) =>
      .char '[' :: lineBreak indent (depth + 1) ++ write indent (depth + 1) first ++
        writeItems indent (depth + 1) rest ++ lineBreak indent depth ++ [.char ']']
  | .obj [] => ['\x7b', '\x7d']
  | .obj ((name, first) :: rest) =>
      .char '\x7b' :: lineBreak indent (depth + 1) ++ writeText name ++ [.char ':', .char ' '] ++
        write indent (depth + 1) first ++ writeMembers indent (depth + 1) rest ++
        lineBreak indent depth ++ [.char '\x7d']

def writeItems (indent : Option Nat) (depth : Nat) : List Json → List Code
  | [] => []
  | item :: rest =>
      separator indent depth ++ write indent depth item ++ writeItems indent depth rest

def writeMembers (indent : Option Nat) (depth : Nat) : List (Text × Json) → List Code
  | [] => []
  | (name, value) :: rest =>
      separator indent depth ++ writeText name ++ [.char ':', .char ' '] ++ write indent depth value ++
        writeMembers indent depth rest

end

/-- The text of a value: on one line without an indent; an indent below zero counts as zero. -/
def render (indent : Option Int) (value : Json) : Text :=
  ⟨write (indent.map Int.toNat) 0 value⟩

end Flowchart.Json
