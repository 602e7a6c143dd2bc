import Flowchart.Json.Basic
import Flowchart.Keyed
import Flowchart.Number.Decimal
import Flowchart.Text.Hex
import Flowchart.Text.Utf16

/-!
Reading JSON text. The reader keeps a stack of the containers that are still open; a misreading
tells at which code point the text stops being JSON. Beside the standard it knows `NaN`, `Infinity`
and `-Infinity`.
-/

namespace Flowchart.Json

inductive Misread where
  /-- What stands at this offset cannot stand there. -/
  | unexpected (offset : Nat)
  /-- A whole number has more digits than are read. -/
  | tooManyDigits
  deriving DecidableEq, Repr

/-- A misreading while `left` code points were left; an offset is counted from the end until the
whole text is known. -/
abbrev Result (α : Type) := Except Misread α

def stopAt {α : Type} (rest : List Code) : Result α :=
  .error (.unexpected rest.length)

def isGap (c : Code) : Bool :=
  c = ' ' || c = '\t' || c = '\n' || c = '\r'

def skipGap (cs : List Code) : List Code :=
  cs.dropWhile isGap

/-! ## Strings -/

def escaped? : Code → Option Code
  | .char '"' => some '"'
  | .char '\\' => some '\\'
  | .char '/' => some '/'
  | .char 'b' => some '\x08'
  | .char 'f' => some '\x0c'
  | .char 'n' => some '\n'
  | .char 'r' => some '\r'
  | .char 't' => some '\t'
  | _ => none

/-- The code unit of four hexadecimal digits; at least one more code point has to follow. -/
def codeUnit? : List Code → Option Nat
  | .char a :: .char b :: .char c :: .char d :: _ :: _ => do
      return 4096 * (← hexValue? a) + 256 * (← hexValue? b) + 16 * (← hexValue? c) + (← hexValue? d)
  | _ => none

/-- The second surrogate of a pair, if a complete escape for one follows. -/
def lowSurrogate? : List Code → Result (Option Nat)
  | .char '\\' :: .char 'u' :: rest =>
      if rest.length < 5 then .ok none
      else
        match codeUnit? rest with
        | none => stopAt (.char 'u' :: rest)
        | some unit => .ok (if isLowSurrogate unit then some unit else none)
  | _ => .ok none

/-- Reads the inside of a string up to its closing quote. `opening` is the text from the opening
quote on: an unclosed string is reported there. A surrogate that is no half of a pair is kept. -/
def readString (opening : List Code) : List Code → Result (List Code × List Code)
  | [] => stopAt opening
  | .char '"' :: rest => .ok ([], rest)
  | .char '\\' :: .char 'u' :: rest =>
      match codeUnit? rest with
      | none => stopAt (.char 'u' :: rest)
      | some unit =>
          if isHighSurrogate unit then
            match lowSurrogate? (rest.drop 4) with
            | .error misread => .error misread
            | .ok (some low) =>
                (readString opening (rest.drop 10)).map fun (text, after) =>
                  (pairCode unit low :: text, after)
            | .ok none =>
                (readString opening (rest.drop 4)).map fun (text, after) =>
                  (.ofNat unit :: text, after)
          else
            (readString opening (rest.drop 4)).map fun (text, after) =>
              (.ofNat unit :: text, after)
  | .char '\\' :: c :: rest =>
      match escaped? c with
      | none => stopAt (.char '\\' :: c :: rest)
      | some meant => (readString opening rest).map fun (text, after) => (meant :: text, after)
  | [.char '\\'] => stopAt opening
  | c :: rest =>
      if c.toNat < 0x20 then stopAt (c :: rest)
      else (readString opening rest).map fun (text, after) => (c :: text, after)
termination_by cs => cs.length
decreasing_by all_goals simp only [List.length_cons, List.length_drop]; omega

theorem length_readString {opening cs text rest : List Code}
    (read : readString opening cs = .ok (text, rest)) : rest.length < cs.length := by
  fun_induction readString opening cs generalizing text rest <;>
    simp_all [stopAt, Except.map] <;> grind

/-! ## Numbers and words -/

/-- The digits before the point: a single zero, or digits that do not start with one. -/
def wholeDigits? : List Code → Option (List Code × List Code)
  | .char '0' :: rest => some ([.char '0'], rest)
  | cs => if (spanDigits cs).1 = [] then none else some (spanDigits cs)

/-- The digits after a point; without digits the point is not taken. -/
def fractionDigits : List Code → List Code × List Code
  | .char '.' :: rest =>
      if (spanDigits rest).1 = [] then ([], .char '.' :: rest) else spanDigits rest
  | rest => ([], rest)

/-- The power of ten; a mark without digits is not taken. -/
def powerOfTen : List Code → Option Int × List Code
  | mark :: rest =>
      let (negative, unsigned) := spanSign rest
      let (digits, after) := spanDigits unsigned
      if (mark = 'e' ∨ mark = 'E') ∧ digits ≠ [] then
        let size : Int := numberOfDigits digits
        (some (if negative then -size else size), after)
      else (none, mark :: rest)
  | [] => (none, [])

def readUnsigned (negative : Bool) (cs : List Code) : Option (Result Json × List Code) :=
  (wholeDigits? cs).map fun (whole, rest) =>
    let (fraction, rest) := fractionDigits rest
    let (power, rest) := powerOfTen rest
    if fraction = [] ∧ power = none then
      let size : Int := numberOfDigits whole
      if maxDigits < whole.length then (.error .tooManyDigits, rest)
      else (.ok (.int (if negative then -size else size)), rest)
    else
      let digits := numberOfDigits (whole ++ fraction)
      let exponent := power.getD 0 - fraction.length
      (.ok (.float (Decimal.toBinary64 ⟨negative, digits, exponent⟩)), rest)

def readNumber (cs : List Code) : Option (Result Json × List Code) :=
  match cs with
  | .char '-' :: rest => readUnsigned true rest
  | cs => readUnsigned false cs

def words : List (Text × Json) :=
  [("null", .null), ("true", .bool true), ("false", .bool false), ("NaN", .float .nan),
   ("Infinity", .float (.infinite false)), ("-Infinity", .float (.infinite true))]

def readWord (cs : List Code) : Option (Result Json × List Code) :=
  (words.find? fun word => word.1.codes.isPrefixOf cs).map fun word =>
    (.ok word.2, cs.drop word.1.codes.length)

/-- Reads a value that is neither a string nor a container. -/
def readScalar (cs : List Code) : Option (Result Json × List Code) :=
  (readWord cs).or (readNumber cs)

theorem length_spanDigits {cs : List Code} (some_digit : (spanDigits cs).1 ≠ []) :
    (spanDigits cs).2.length < cs.length := by
  have parts := congrArg List.length (spanDigits_append cs)
  have positive := List.length_pos_iff.mpr some_digit
  simp only [List.length_append] at parts
  omega

theorem length_spanDigits_le (cs : List Code) : (spanDigits cs).2.length ≤ cs.length := by
  have parts := congrArg List.length (spanDigits_append cs)
  simp only [List.length_append] at parts
  omega

theorem length_fractionDigits_le (cs : List Code) :
    (fractionDigits cs).2.length ≤ cs.length := by
  unfold fractionDigits
  split
  · next rest =>
    have shorter := length_spanDigits_le rest
    split
    · simp
    · simp only [List.length_cons]
      omega
  · simp

theorem length_spanSign_le (cs : List Code) : (spanSign cs).2.length ≤ cs.length := by
  unfold spanSign
  split <;> simp

theorem length_powerOfTen_le (cs : List Code) : (powerOfTen cs).2.length ≤ cs.length := by
  cases cs with
  | nil => simp [powerOfTen]
  | cons mark rest =>
      have signShorter := length_spanSign_le rest
      have digitsShorter := length_spanDigits_le (spanSign rest).2
      simp only [powerOfTen]
      split
      · simp only [List.length_cons]
        omega
      · simp

theorem length_readUnsigned {negative : Bool} {cs rest : List Code} {value : Result Json}
    (read : readUnsigned negative cs = some (value, rest)) : rest.length < cs.length := by
  simp only [readUnsigned, Option.map_eq_some_iff] at read
  obtain ⟨⟨whole, afterWhole⟩, isWhole, parts⟩ := read
  have wholeShorter : afterWhole.length < cs.length := by
    unfold wholeDigits? at isWhole
    split at isWhole
    · simp only [Option.some.injEq, Prod.mk.injEq] at isWhole
      simp [isWhole.2]
    · split at isWhole
      · simp at isWhole
      · next some_digit =>
        simp only [Option.some.injEq] at isWhole
        have shorter := length_spanDigits some_digit
        rwa [isWhole] at shorter
  have fractionShorter := length_fractionDigits_le afterWhole
  have powerShorter := length_powerOfTen_le (fractionDigits afterWhole).2
  have restIs : rest = (powerOfTen (fractionDigits afterWhole).2).2 := by
    revert parts
    dsimp only
    split
    · split <;> (intro parts; exact (congrArg Prod.snd parts).symm)
    · intro parts
      exact (congrArg Prod.snd parts).symm
  rw [restIs]
  omega

theorem length_readNumber {cs rest : List Code} {value : Result Json}
    (read : readNumber cs = some (value, rest)) : rest.length < cs.length := by
  unfold readNumber at read
  split at read
  · have shorter := length_readUnsigned read
    simp only [List.length_cons]
    omega
  · exact length_readUnsigned read

theorem length_readWord {cs rest : List Code} {value : Result Json}
    (read : readWord cs = some (value, rest)) : rest.length < cs.length := by
  simp only [readWord, Option.map_eq_some_iff] at read
  obtain ⟨word, found, equality⟩ := read
  have isWord := List.find?_some found
  have member := List.mem_of_find?_eq_some found
  simp only [Prod.mk.injEq] at equality
  obtain ⟨-, rfl⟩ := equality
  obtain ⟨tail, rfl⟩ := List.isPrefixOf_iff_prefix.mp isWord
  have positive : 0 < word.1.codes.length := by
    revert member
    generalize word = candidate
    revert candidate
    decide
  simp only [List.length_drop, List.length_append]
  omega

theorem length_readScalar {cs rest : List Code} {value : Result Json}
    (read : readScalar cs = some (value, rest)) : rest.length < cs.length := by
  simp only [readScalar, Option.or_eq_some_iff] at read
  rcases read with word | ⟨-, number⟩
  · exact length_readWord word
  · exact length_readNumber number

/-! ## Containers -/

/-- A container whose end has not been read: what it holds so far, last first. -/
inductive Opened where
  | array (items : List Json)
  | object (members : List (Text × Json)) (name : Text)

theorem length_skipGap_le (cs : List Code) : (skipGap cs).length ≤ cs.length :=
  (List.dropWhile_sublist isGap).length_le

theorem length_of_skipGap {cs rest : List Code} {c : Code} (start : skipGap cs = c :: rest) :
    rest.length < cs.length := by
  have shorter := length_skipGap_le cs
  rw [start, List.length_cons] at shorter
  omega

section

set_option linter.unusedVariables false

mutual

/-- Reads the value that starts at `cs` and then all that follows it. -/
def readValue (opened : List Opened) (cs : List Code) : Result Json :=
  match start : skipGap cs with
  | .char '"' :: rest =>
      match closing : readString (.char '"' :: rest) rest with
      | .error misread => .error misread
      | .ok (text, rest) => readAfter opened (.str ⟨text⟩) rest
  | .char '[' :: rest =>
      match inside : skipGap rest with
      | .char ']' :: rest => readAfter opened (.arr []) rest
      | rest => readValue (.array [] :: opened) rest
  | .char '{' :: rest =>
      match inside : skipGap rest with
      | .char '}' :: rest => readAfter opened (.obj []) rest
      | rest => readName opened [] rest
  | rest =>
      match scalar : readScalar rest with
      | none => stopAt rest
      | some (.error misread, _) => .error misread
      | some (.ok value, rest) => readAfter opened value rest
termination_by cs.length
decreasing_by
  · exact Nat.lt_trans (length_readString closing) (length_of_skipGap start)
  · exact Nat.lt_trans (length_of_skipGap inside) (length_of_skipGap start)
  · exact Nat.lt_of_le_of_lt (inside ▸ length_skipGap_le _) (length_of_skipGap start)
  · exact Nat.lt_trans (length_of_skipGap inside) (length_of_skipGap start)
  · exact Nat.lt_of_le_of_lt (inside ▸ length_skipGap_le _) (length_of_skipGap start)
  · exact Nat.lt_of_lt_of_le (length_readScalar scalar) (start ▸ length_skipGap_le cs)

/-- Reads the name of a member, its colon and then all that follows. -/
def readName (opened : List Opened) (members : List (Text × Json)) (cs : List Code) :
    Result Json :=
  match cs with
  | .char '"' :: rest =>
      match closing : readString (.char '"' :: rest) rest with
      | .error misread => .error misread
      | .ok (name, rest) =>
          match colon : skipGap rest with
          | .char ':' :: rest => readValue (.object members ⟨name⟩ :: opened) rest
          | rest => stopAt rest
  | rest => stopAt rest
termination_by cs.length
decreasing_by
  · exact Nat.lt_trans (length_of_skipGap colon)
      (Nat.lt_trans (length_readString closing) (Nat.lt_succ_self _))

/-- Goes on after a value that is complete. -/
def readAfter (opened : List Opened) (value : Json) (cs : List Code) : Result Json :=
  match opened with
  | [] => if skipGap cs = [] then .ok value else stopAt (skipGap cs)
  | .array items :: opened =>
      match next : skipGap cs with
      | .char ']' :: rest => readAfter opened (.arr (value :: items).reverse) rest
      | .char ',' :: rest => readValue (.array (value :: items) :: opened) rest
      | rest => stopAt rest
  | .object members name :: opened =>
      match next : skipGap cs with
      | .char '}' :: rest => readAfter opened (.obj (putEntry name value members)) rest
      | .char ',' :: rest => readName opened (putEntry name value members) (skipGap rest)
      | rest => stopAt rest
termination_by cs.length
decreasing_by
  · exact length_of_skipGap next
  · exact length_of_skipGap next
  · exact length_of_skipGap next
  · exact Nat.lt_of_le_of_lt (length_skipGap_le _) (length_of_skipGap next)

end

end

/-- Reads a text that holds one value and nothing else but gaps. -/
def read (text : Text) : Result Json :=
  match readValue [] text.codes with
  | .ok value => .ok value
  | .error (.unexpected left) => .error (.unexpected (text.codes.length - left))
  | .error .tooManyDigits => .error .tooManyDigits

end Flowchart.Json
