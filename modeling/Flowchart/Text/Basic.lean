/-!
Texts as lists of code points. JSON can name a surrogate that is no half of a pair, and such a
surrogate is kept like any other code point; what is written for characters alone has to look out
for it.
-/

namespace Flowchart

/-- A code point: a character, or a surrogate on its own. -/
inductive Code where
  | char (c : Char)
  /-- The surrogate at a place among all of them, from U+D800 on. -/
  | surrogate (place : Fin 0x800)
  deriving DecidableEq, Repr

namespace Code

instance : Coe Char Code := ⟨char⟩

def toNat : Code → Nat
  | char c => c.toNat
  | surrogate place => 0xd800 + place

/-- The code point of a number. -/
def ofNat (n : Nat) : Code :=
  if isSurrogate : 0xd800 ≤ n ∧ n < 0xe000 then surrogate ⟨n - 0xd800, by omega⟩
  else char (Char.ofNat n)

def isChar : Code → Bool
  | char _ => true
  | surrogate _ => false

/-- Changes a character; a surrogate stays. -/
def map (change : Char → Char) : Code → Code
  | char c => char (change c)
  | surrogate place => surrogate place

def isDigit : Code → Bool
  | char c => c.isDigit
  | surrogate _ => false

@[simp]
theorem toNat_char (c : Char) : (char c).toNat = c.toNat := rfl

theorem toNat_lt (c : Code) : c.toNat < 0x110000 := by
  cases c with
  | char c =>
      have valid : c.toNat < 0xd800 ∨ 0xdfff < c.toNat ∧ c.toNat < 0x110000 := c.valid
      simp only [toNat]
      omega
  | surrogate place =>
      simp only [toNat]
      omega

theorem toNat_ofNat {n : Nat} (small : n < 0x110000) : (ofNat n).toNat = n := by
  unfold ofNat
  split
  · simp only [toNat]
    omega
  · next noSurrogate =>
    have valid : n.isValidChar := by
      simp only [Nat.isValidChar]
      omega
    rw [toNat, Char.ofNat, dif_pos valid]
    rfl

theorem ofNat_of_beyond {n : Nat} (beyond : 0x110000 ≤ n) : ofNat n = char '\x00' := by
  have noSurrogate : ¬(0xd800 ≤ n ∧ n < 0xe000) := by omega
  have noChar : ¬n.isValidChar := by
    simp only [Nat.isValidChar]
    omega
  rw [ofNat, dif_neg noSurrogate, Char.ofNat, dif_neg noChar]
  rfl

theorem ofNat_toNat (c : Code) : ofNat c.toNat = c := by
  cases c with
  | char c =>
      have valid : c.toNat < 0xd800 ∨ 0xdfff < c.toNat ∧ c.toNat < 0x110000 := c.valid
      rw [ofNat, dif_neg (by simp only [toNat]; omega)]
      simp [toNat]
  | surrogate place =>
      rw [ofNat, dif_pos (by simp only [toNat]; omega)]
      simp [toNat]

theorem toNat_inj {first second : Code} : first.toNat = second.toNat ↔ first = second := by
  refine ⟨fun same => ?_, fun same => same ▸ rfl⟩
  rw [← ofNat_toNat first, same, ofNat_toNat]

theorem toNat_of_isChar {c : Code} (noSurrogate : c.isChar = true) :
    c.toNat < 0xd800 ∨ 0xdfff < c.toNat := by
  cases c with
  | char c =>
      have valid : c.toNat < 0xd800 ∨ 0xdfff < c.toNat ∧ c.toNat < 0x110000 := c.valid
      simp only [toNat]
      omega
  | surrogate place => cases noSurrogate

end Code

structure Text where
  codes : List Code
  deriving DecidableEq, Repr, Inhabited

namespace Text

/-- The text of characters alone. -/
def ofChars (cs : List Char) : Text := ⟨cs.map .char⟩

def ofString (text : String) : Text := ofChars text.toList

instance : Coe String Text := ⟨ofString⟩

instance : Append Text := ⟨fun first second => ⟨first.codes ++ second.codes⟩⟩

/-- Texts one after another, with a separator between every two of them. -/
def intercalate (separator : Text) (texts : List Text) : Text :=
  ⟨separator.codes.intercalate (texts.map codes)⟩

/-- Whether no surrogate stands on its own in a text. -/
def isUnicode (text : Text) : Bool :=
  text.codes.all Code.isChar

/-- A text where only characters can stand. A surrogate becomes three replacement characters, one for
each byte that it would be encoded as. -/
def withoutSurrogates (text : Text) : Text :=
  ⟨text.codes.flatMap fun
    | .char c => [.char c]
    | .surrogate _ => List.replicate 3 (.char '\ufffd')⟩

@[simp]
theorem codes_empty : ("" : Text).codes = [] := rfl

@[simp]
theorem codes_intercalate (separator : Text) (texts : List Text) :
    (separator.intercalate texts).codes = separator.codes.intercalate (texts.map codes) := rfl

theorem codes_ofString (text : String) : (ofString text).codes = text.toList.map .char := rfl

@[simp]
theorem codes_append (first second : Text) :
    (first ++ second).codes = first.codes ++ second.codes := rfl

theorem ext {first second : Text} (same : first.codes = second.codes) : first = second := by
  cases first
  cases second
  exact congrArg mk same

@[simp]
theorem codes_inj {first second : Text} : first.codes = second.codes ↔ first = second :=
  ⟨ext, congrArg codes⟩

@[simp]
theorem ofString_inj {first second : String} :
    ofString first = ofString second ↔ first = second := by
  rw [← codes_inj]
  change first.toList.map Code.char = second.toList.map Code.char ↔ _
  rw [List.map_inj_right fun _ _ => Code.char.inj, String.toList_inj]

@[simp]
theorem ofString_beq (first second : String) :
    (ofString first == ofString second) = (first == second) := by
  rw [Bool.eq_iff_iff, beq_iff_eq, beq_iff_eq, ofString_inj]

@[simp]
theorem append_right_inj {first second third : Text} :
    first ++ second = first ++ third ↔ second = third := by
  rw [← codes_inj, codes_append, codes_append, List.append_right_inj, codes_inj]

@[simp]
theorem append_left_inj {first second third : Text} :
    first ++ third = second ++ third ↔ first = second := by
  rw [← codes_inj, codes_append, codes_append, List.append_left_inj, codes_inj]

@[simp]
theorem empty_append (text : Text) : ("" : Text) ++ text = text := rfl

@[simp]
theorem append_empty (text : Text) : text ++ ("" : Text) = text :=
  ext (List.append_nil text.codes)

@[simp]
theorem isUnicode_ofChars (cs : List Char) : (ofChars cs).isUnicode = true := by
  simp [isUnicode, ofChars, Code.isChar]

@[simp]
theorem isUnicode_ofString (text : String) : (ofString text).isUnicode = true :=
  isUnicode_ofChars text.toList

@[simp]
theorem isUnicode_append (first second : Text) :
    (first ++ second).isUnicode = (first.isUnicode && second.isUnicode) :=
  List.all_append

theorem isUnicode_intercalate {separator : Text} {texts : List Text}
    (plain : separator.isUnicode = true) (each : ∀ text ∈ texts, text.isUnicode = true) :
    (separator.intercalate texts).isUnicode = true := by
  simp only [isUnicode, List.all_eq_true, codes_intercalate] at *
  induction texts with
  | nil => simp
  | cons first rest inductionHypothesis =>
      rw [List.forall_mem_cons] at each
      cases rest with
      | nil => simpa using each.1
      | cons second rest =>
          rw [List.map_cons, List.intercalate_cons_of_ne_nil (by simp)]
          simp only [List.forall_mem_append]
          exact ⟨⟨each.1, plain⟩, inductionHypothesis each.2⟩

theorem eq_empty_iff {text : Text} : text = "" ↔ text.codes = [] :=
  ⟨fun same => same ▸ codes_empty, fun nothing => ext nothing⟩

end Text

end Flowchart
