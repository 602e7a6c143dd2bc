import Flowchart.Text.Basic

/-!
Reading UTF-8 in two ways. Where it may be broken, every longest piece that starts a character but
does not complete it, and every byte that starts none, becomes one replacement character. Where it
has to be whole, a surrogate may be encoded as if it were a character.
-/

namespace Flowchart

/-- What has to follow the first byte of a character: how many bytes, and the range of the first
one of them. -/
structure Utf8Lead where
  count : Nat
  low : Nat
  high : Nat
  /-- The bits of the character that the first byte holds. -/
  bits : Nat

def utf8Lead? (byte : Nat) : Option Utf8Lead :=
  if 0xc2 ≤ byte ∧ byte ≤ 0xdf then some ⟨1, 0x80, 0xbf, byte - 0xc0⟩
  else if byte = 0xe0 then some ⟨2, 0xa0, 0xbf, 0⟩
  else if byte = 0xed then some ⟨2, 0x80, 0x9f, 0xd⟩
  else if 0xe1 ≤ byte ∧ byte ≤ 0xef then some ⟨2, 0x80, 0xbf, byte - 0xe0⟩
  else if byte = 0xf0 then some ⟨3, 0x90, 0xbf, 0⟩
  else if 0xf1 ≤ byte ∧ byte ≤ 0xf3 then some ⟨3, 0x80, 0xbf, byte - 0xf0⟩
  else if byte = 0xf4 then some ⟨3, 0x80, 0x8f, 4⟩
  else none

/-- The same where surrogates are let through. -/
def passingLead? (byte : Nat) : Option Utf8Lead :=
  if byte = 0xed then some ⟨2, 0x80, 0xbf, 0xd⟩ else utf8Lead? byte

/-- The bytes that can follow, at most `count` of them; the first one lies in the given range. -/
def utf8Tail (count low high : Nat) : List Nat → List Nat
  | [] => []
  | byte :: rest =>
      match count with
      | 0 => []
      | count + 1 =>
          if low ≤ byte ∧ byte ≤ high then byte :: utf8Tail count 0x80 0xbf rest else []

namespace Utf8Lead

/-- The bytes behind the first one that belong to the same character. -/
def tail (lead : Utf8Lead) (rest : List Nat) : List Nat :=
  utf8Tail lead.count lead.low lead.high rest

/-- The number of a character, from the bytes behind the first one; they have to be complete. -/
def code? (lead : Utf8Lead) (tail : List Nat) : Option Nat :=
  if tail.length = lead.count then
    some (tail.foldl (fun code byte => 64 * code + (byte - 0x80)) lead.bits)
  else none

end Utf8Lead

def decodeUtf8 : List Nat → List Char
  | [] => []
  | byte :: rest =>
      if byte < 0x80 then Char.ofNat byte :: decodeUtf8 rest
      else
        match utf8Lead? byte with
        | none => '\ufffd' :: decodeUtf8 rest
        | some lead =>
            let tail := lead.tail rest
            ((lead.code? tail).map Char.ofNat).getD '\ufffd' :: decodeUtf8 (rest.drop tail.length)
termination_by bytes => bytes.length
decreasing_by all_goals simp only [List.length_cons, List.length_drop]; omega

/-- The code points of bytes that are whole throughout. -/
def decodeUtf8? : List Nat → Option (List Code)
  | [] => some []
  | byte :: rest =>
      if byte < 0x80 then (decodeUtf8? rest).map (.ofNat byte :: ·)
      else do
        let lead ← passingLead? byte
        let tail := lead.tail rest
        let code ← lead.code? tail
        (decodeUtf8? (rest.drop tail.length)).map (.ofNat code :: ·)
termination_by bytes => bytes.length
decreasing_by all_goals simp only [List.length_cons, List.length_drop]; omega

end Flowchart
