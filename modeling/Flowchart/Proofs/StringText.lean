import Flowchart.Json.Printer
import Flowchart.Json.Reader
import Mathlib.Tactic.IntervalCases

/-!
A text is read back from its written form, unless a surrogate stands on its own in it. Each character
is written so that the reader takes exactly what stands for it; one beyond U+FFFF stands as a pair
of surrogates.
-/

namespace Flowchart

/-! ## Hexadecimal digits -/

theorem hexValue?_digitChar {digit : Nat} (small : digit < 16) :
    hexValue? digit.digitChar = some digit := by
  interval_cases digit <;> rfl

theorem digitChar_ascii {digit : Nat} (small : digit < 16) : digit.digitChar.toNat < 0x80 := by
  interval_cases digit <;> decide

theorem hexDigits_one {n : Nat} (small : n < 16) : hexDigits 1 n = [n.digitChar] := by
  simp [hexDigits, Nat.toDigits_of_lt_base small]

/-- One digit more is the last digit, behind those of what is left. -/
theorem hexDigits_succ {width : Nat} (positive : 0 < width) (n : Nat) :
    hexDigits (width + 1) n = hexDigits width (n / 16) ++ [(n % 16).digitChar] := by
  obtain ⟨width, rfl⟩ := Nat.exists_eq_succ_of_ne_zero positive.ne'
  by_cases small : n < 16
  · have nothing : n / 16 = 0 := Nat.div_eq_of_lt small
    simp [hexDigits, nothing, Nat.toDigits_of_lt_base small, Nat.mod_eq_of_lt small,
      Nat.toDigits_of_lt_base (b := 16) (n := 0) (by decide), List.replicate_succ']
  · rw [hexDigits, Nat.toDigits_eq_if (by decide), if_neg small]
    simp [hexDigits]

/-- A code unit in four digits. -/
theorem hexDigits_four {unit : Nat} (small : unit < 0x10000) :
    hexDigits 4 unit = [(unit / 4096).digitChar, (unit / 256 % 16).digitChar,
      (unit / 16 % 16).digitChar, (unit % 16).digitChar] := by
  rw [hexDigits_succ (by decide), hexDigits_succ (by decide), hexDigits_succ (by decide),
    hexDigits_one (by omega)]
  simp only [Nat.div_div_eq_div_mul, List.cons_append, List.nil_append]

namespace Json

/-- The digits of a code unit, as they stand in a text. -/
def unitDigits (unit : Nat) : List Code :=
  (hexDigits 4 unit).map .char

theorem unitEscape_eq (unit : Nat) : unitEscape unit = .char '\\' :: .char 'u' :: unitDigits unit := rfl

theorem codeUnit?_unitDigits {unit : Nat} (small : unit < 0x10000) {more : List Code}
    (goesOn : more ≠ []) : codeUnit? (unitDigits unit ++ more) = some unit := by
  obtain ⟨next, rest, rfl⟩ := List.exists_cons_of_ne_nil goesOn
  simp only [unitDigits, hexDigits_four small, List.map_cons, List.map_nil, List.cons_append,
    List.nil_append, codeUnit?, hexValue?_digitChar (show unit / 4096 < 16 by omega),
    hexValue?_digitChar (show unit / 256 % 16 < 16 by omega),
    hexValue?_digitChar (show unit / 16 % 16 < 16 by omega),
    hexValue?_digitChar (show unit % 16 < 16 by omega)]
  simp only [Option.pure_def, Option.bind_eq_bind, Option.bind_some, Option.some.injEq]
  omega

theorem length_unitDigits {unit : Nat} (small : unit < 0x10000) : (unitDigits unit).length = 4 := by
  simp [unitDigits, hexDigits_four small]

theorem drop_unitDigits {unit : Nat} (small : unit < 0x10000) (more : List Code) :
    (unitDigits unit ++ more).drop 4 = more :=
  List.drop_left' (length_unitDigits small)

/-! ## Characters -/

variable {opening more : List Code} {c : Code}

/-- What is read when a code point comes in front of the rest. -/
def consText (c : Code) : List Code × List Code → List Code × List Code
  | (text, after) => (c :: text, after)

theorem readString_plain (noQuote : c ≠ '"') (noBackslash : c ≠ '\\') (visible : 0x20 ≤ c.toNat) :
    readString opening (c :: more) = (readString opening more).map (consText c) := by
  have noControl : ¬c.toNat < 0x20 := Nat.not_lt.mpr visible
  rw [readString]
  · simp only [noControl, if_false]
    rfl
  all_goals simp_all

theorem readString_short {mark : Code} (meant : escaped? mark = some c) :
    readString opening (.char '\\' :: mark :: more) =
      (readString opening more).map (consText c) := by
  have noUnit : mark ≠ 'u' := by
    rintro rfl
    simp [escaped?] at meant
  rw [readString]
  · simp only [meant]
    rfl
  · intro isUnit
    exact noUnit isUnit

theorem isHighSurrogate_iff {unit : Nat} :
    isHighSurrogate unit = true ↔ 0xd800 ≤ unit ∧ unit ≤ 0xdbff := by
  simp [isHighSurrogate]

theorem isLowSurrogate_iff {unit : Nat} :
    isLowSurrogate unit = true ↔ 0xdc00 ≤ unit ∧ unit ≤ 0xdfff := by
  simp [isLowSurrogate]

theorem readString_unit (noSurrogate : c.isChar = true) (single : c.toNat < 0x10000)
    (goesOn : more ≠ []) :
    readString opening (unitEscape c.toNat ++ more) =
      (readString opening more).map (consText c) := by
  have notHigh : isHighSurrogate c.toNat = false := by
    have apart := Code.toNat_of_isChar noSurrogate
    rw [Bool.eq_false_iff, Ne, isHighSurrogate_iff]
    omega
  rw [unitEscape_eq, List.cons_append, List.cons_append, readString]
  simp only [codeUnit?_unitDigits single goesOn, notHigh, drop_unitDigits single, Code.ofNat_toNat]
  rfl

theorem readString_pair {high low : Nat} (isHigh : isHighSurrogate high = true)
    (isLow : isLowSurrogate low = true) (goesOn : more ≠ []) :
    readString opening (unitEscape high ++ (unitEscape low ++ more)) =
      (readString opening more).map (consText (pairCode high low)) := by
  have highFits : high < 0x10000 := by
    have bounds := isHighSurrogate_iff.mp isHigh
    omega
  have lowFits : low < 0x10000 := by
    have bounds := isLowSurrogate_iff.mp isLow
    omega
  have goesOnBehind : unitEscape low ++ more ≠ [] := by simp [goesOn]
  have secondHalf : lowSurrogate? (unitEscape low ++ more) = .ok (some low) := by
    have enough : ¬(unitDigits low ++ more).length < 5 := by
      have positive := List.length_pos_iff.mpr goesOn
      rw [List.length_append, length_unitDigits lowFits]
      omega
    rw [unitEscape_eq, List.cons_append, List.cons_append, lowSurrogate?, if_neg enough,
      codeUnit?_unitDigits lowFits goesOn]
    simp [isLow]
  have afterBoth : (unitDigits high ++ (unitEscape low ++ more)).drop 10 = more := by
    rw [← List.drop_drop (i := 6) (j := 4), drop_unitDigits highFits]
    exact drop_unitDigits lowFits more
  rw [unitEscape_eq, List.cons_append, List.cons_append, readString]
  simp only [codeUnit?_unitDigits highFits goesOnBehind, isHigh, if_true, drop_unitDigits highFits,
    secondHalf, afterBoth]
  rfl

/-- The surrogates of a character beyond U+FFFF stand for it. -/
theorem surrogates (beyond : 0x10000 ≤ c.toNat) :
    isHighSurrogate (0xd800 + (c.toNat - 0x10000) / 0x400) = true ∧
      isLowSurrogate (0xdc00 + (c.toNat - 0x10000) % 0x400) = true ∧
      pairCode (0xd800 + (c.toNat - 0x10000) / 0x400) (0xdc00 + (c.toNat - 0x10000) % 0x400) =
        c := by
  have last := c.toNat_lt
  refine ⟨isHighSurrogate_iff.mpr ?_, isLowSurrogate_iff.mpr ?_, ?_⟩
  · omega
  · omega
  · have code : 0x10000 + (0xd800 + (c.toNat - 0x10000) / 0x400 - 0xd800) * 0x400 +
        (0xdc00 + (c.toNat - 0x10000) % 0x400 - 0xdc00) = c.toNat := by
      omega
    rw [pairCode, code, Code.ofNat_toNat]

/-- The four ways of writing a code point: a mark behind a backslash, the character as it is, its
code unit, or its two surrogates. -/
theorem escapeCode_cases (c : Code) :
    (∃ mark, escaped? mark = some c ∧ mark.toNat < 0x80 ∧ escapeCode c = [.char '\\', mark]) ∨
    (c ≠ '"' ∧ c ≠ '\\' ∧ 0x20 ≤ c.toNat ∧ c.toNat < 0x7f ∧ escapeCode c = [c]) ∨
    (c.toNat < 0x10000 ∧ escapeCode c = unitEscape c.toNat) ∨
    ∃ high low, isHighSurrogate high = true ∧ isLowSurrogate low = true ∧ pairCode high low = c ∧
      escapeCode c = unitEscape high ++ unitEscape low := by
  by_cases mark : c = '"' ∨ c = '\\'
  · left
    rcases mark with rfl | rfl
    · exact ⟨'"', rfl, by decide, rfl⟩
    · exact ⟨'\\', rfl, by decide, rfl⟩
  by_cases newline : c = '\n'
  · exact .inl ⟨'n', newline ▸ rfl, by decide, newline ▸ rfl⟩
  by_cases carriage : c = '\r'
  · exact .inl ⟨'r', carriage ▸ rfl, by decide, carriage ▸ rfl⟩
  by_cases tab : c = '\t'
  · exact .inl ⟨'t', tab ▸ rfl, by decide, tab ▸ rfl⟩
  by_cases backspace : c = '\x08'
  · exact .inl ⟨'b', backspace ▸ rfl, by decide, backspace ▸ rfl⟩
  by_cases feed : c = '\x0c'
  · exact .inl ⟨'f', feed ▸ rfl, by decide, feed ▸ rfl⟩
  right
  rw [escapeCode, if_neg mark, if_neg newline, if_neg carriage, if_neg tab, if_neg backspace,
    if_neg feed]
  by_cases visible : 0x20 ≤ c.toNat ∧ c.toNat < 0x7f
  · rw [not_or] at mark
    exact .inl ⟨mark.1, mark.2, visible.1, visible.2, if_pos visible⟩
  right
  rw [if_neg visible]
  by_cases single : c.toNat < 0x10000
  · exact .inl ⟨single, if_pos single⟩
  · obtain ⟨isHigh, isLow, isPair⟩ := surrogates (Nat.not_lt.mp single)
    exact .inr ⟨_, _, isHigh, isLow, isPair, if_neg single⟩

/-- A character is read back from the way in which it is written, if the text goes on behind it. -/
theorem readString_escapeCode (noSurrogate : c.isChar = true) (goesOn : more ≠ []) :
    readString opening (escapeCode c ++ more) = (readString opening more).map (consText c) := by
  rcases escapeCode_cases c with ⟨mark, meant, -, written⟩ |
    ⟨noQuote, noBackslash, visible, -, written⟩ | ⟨single, written⟩ |
    ⟨high, low, isHigh, isLow, isPair, written⟩
  · rw [written]
    exact readString_short meant
  · rw [written]
    exact readString_plain noQuote noBackslash visible
  · rw [written]
    exact readString_unit noSurrogate single goesOn
  · rw [written, List.append_assoc, readString_pair isHigh isLow goesOn, isPair]

/-- The inside of a written text is read up to its closing quote. -/
theorem readString_escape {cs : List Code} (noSurrogates : cs.all Code.isChar = true)
    (opening rest : List Code) :
    readString opening (cs.flatMap escapeCode ++ .char '"' :: rest) = .ok (cs, rest) := by
  induction cs with
  | nil => rw [List.flatMap_nil, List.nil_append, readString]
  | cons c cs inductionHypothesis =>
      rw [List.all_cons, Bool.and_eq_true] at noSurrogates
      rw [List.flatMap_cons, List.append_assoc, readString_escapeCode noSurrogates.1 (by simp),
        inductionHypothesis noSurrogates.2]
      rfl

/-! ## Characters of a written text -/

/-- Plain ASCII. -/
def IsAscii (cs : List Code) : Prop :=
  ∀ c ∈ cs, c.toNat < 0x80

theorem isUnicode_of_isAscii {text : Text} (ascii : IsAscii text.codes) :
    text.isUnicode = true := by
  rw [Text.isUnicode, List.all_eq_true]
  intro c member
  cases c with
  | char c => rfl
  | surrogate place =>
      have small : 0xd800 + place.val < 0x80 := ascii _ member
      omega

@[simp]
theorem isAscii_nil : IsAscii [] := by
  simp [IsAscii]

@[simp]
theorem isAscii_cons {c : Code} {cs : List Code} :
    IsAscii (c :: cs) ↔ c.toNat < 0x80 ∧ IsAscii cs := by
  simp [IsAscii]

@[simp]
theorem isAscii_append {first second : List Code} :
    IsAscii (first ++ second) ↔ IsAscii first ∧ IsAscii second := by
  simp [IsAscii, or_imp, forall_and]

theorem isAscii_flatMap {α : Type} {items : List α} {write : α → List Code}
    (each : ∀ item ∈ items, IsAscii (write item)) : IsAscii (items.flatMap write) := by
  intro c membership
  obtain ⟨item, itemMembership, written⟩ := List.mem_flatMap.mp membership
  exact each item itemMembership c written

theorem isAscii_unitEscape {unit : Nat} (small : unit < 0x10000) : IsAscii (unitEscape unit) := by
  simp only [unitEscape_eq, unitDigits, hexDigits_four small, List.map_cons, List.map_nil,
    isAscii_cons, isAscii_nil, and_true]
  refine ⟨by decide, by decide, ?_, ?_, ?_, ?_⟩ <;> apply digitChar_ascii <;> omega

theorem isAscii_escapeCode (c : Code) : IsAscii (escapeCode c) := by
  rcases escapeCode_cases c with ⟨mark, -, ascii, written⟩ | ⟨-, -, -, visible, written⟩ |
    ⟨single, written⟩ | ⟨high, low, isHigh, isLow, -, written⟩
  · rw [written, isAscii_cons, isAscii_cons]
    exact ⟨by decide, ascii, isAscii_nil⟩
  · rw [written, isAscii_cons]
    exact ⟨by omega, isAscii_nil⟩
  · rw [written]
    exact isAscii_unitEscape single
  · rw [isHighSurrogate_iff] at isHigh
    rw [isLowSurrogate_iff] at isLow
    rw [written, isAscii_append]
    exact ⟨isAscii_unitEscape (by omega), isAscii_unitEscape (by omega)⟩

theorem isAscii_writeText (text : Text) : IsAscii (writeText text) := by
  simp only [writeText, List.cons_append, isAscii_cons, isAscii_append, isAscii_nil, and_true]
  exact ⟨by decide, isAscii_flatMap fun c _ => isAscii_escapeCode c, by decide⟩

end Json

end Flowchart
