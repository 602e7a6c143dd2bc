import Flowchart.Json.Sendable
import Flowchart.Proofs.Keyed
import Flowchart.Proofs.StringText

/-!
Values made of texts alone, in arrays and under names, as documents are. Their written form is plain
ASCII. Where no surrogate stands on its own, the reader takes it for the value that was written, at
every indent: the line breaks and blanks between the items are gaps to it.
-/

namespace Flowchart.Json

/-- A value that stands somewhere inside another one, or is that value. -/
inductive IsPartOf : Json → Json → Prop where
  | self (value : Json) : IsPartOf value value
  | item {part item : Json} {items : List Json} :
      item ∈ items → IsPartOf part item → IsPartOf part (.arr items)
  | member {part : Json} {member : Text × Json} {members : List (Text × Json)} :
      member ∈ members → IsPartOf part member.2 → IsPartOf part (.obj members)

/-- A value made of texts alone; no object has a name twice. -/
inductive Textual : Json → Prop where
  | str (text : Text) : Textual (.str text)
  | arr {items : List Json} : (∀ item ∈ items, Textual item) → Textual (.arr items)
  | obj {members : List (Text × Json)} :
      (members.map Prod.fst).Nodup → (∀ member ∈ members, Textual member.2) →
      Textual (.obj members)

theorem Textual.part {part value : Json} (isPart : IsPartOf part value)
    (textual : Textual value) : Textual part := by
  induction isPart with
  | self => exact textual
  | item membership _ inductionHypothesis =>
      cases textual with
      | arr each => exact inductionHypothesis (each _ membership)
  | member membership _ inductionHypothesis =>
      cases textual with
      | obj _ each => exact inductionHypothesis (each _ membership)

theorem Textual.null_not_part {value : Json} (textual : Textual value) :
    ¬IsPartOf .null value := by
  intro isPart
  cases textual.part isPart

/-! ## Gaps -/

theorem skipGap_append {gap : List Code} (isGaps : ∀ c ∈ gap, isGap c = true) (cs : List Code) :
    skipGap (gap ++ cs) = skipGap cs :=
  List.dropWhile_append_of_pos isGaps

theorem skipGap_cons {c : Code} (noGap : isGap c = false) (rest : List Code) :
    skipGap (c :: rest) = c :: rest := by
  simp [skipGap, noGap]

theorem isGap_of_mem_lineBreak (indent : Option Nat) (depth : Nat) :
    ∀ c ∈ lineBreak indent depth, isGap c = true := by
  cases indent with
  | none => simp [lineBreak]
  | some width =>
      intro c membership
      rw [lineBreak, List.mem_cons, List.mem_replicate] at membership
      rcases membership with rfl | ⟨-, rfl⟩ <;> rfl

/-- Two items stand a comma and a gap apart. -/
theorem exists_gap_of_separator (indent : Option Nat) (depth : Nat) :
    ∃ gap, (∀ c ∈ gap, isGap c = true) ∧ separator indent depth = .char ',' :: gap := by
  cases indent with
  | none => exact ⟨[.char ' '], by simp [isGap], rfl⟩
  | some width => exact ⟨lineBreak (some width) depth, isGap_of_mem_lineBreak _ _, rfl⟩

/-! ## What the reader does at a character that is no gap -/

section

variable {opened : List Opened} {cs rest after text : List Code}

theorem readValue_text (start : skipGap cs = .char '"' :: rest)
    (closing : readString (.char '"' :: rest) rest = .ok (text, after)) :
    readValue opened cs = readAfter opened (.str ⟨text⟩) after := by
  rw [readValue]
  grind

theorem readValue_emptyArray (start : skipGap cs = .char '[' :: rest)
    (closing : skipGap rest = .char ']' :: after) :
    readValue opened cs = readAfter opened (.arr []) after := by
  rw [readValue]
  grind

theorem readValue_array (start : skipGap cs = .char '[' :: rest)
    (inside : (skipGap rest).head? ≠ some (.char ']')) :
    readValue opened cs = readValue (.array [] :: opened) (skipGap rest) := by
  rw [readValue]
  grind

theorem readValue_emptyObject (start : skipGap cs = .char '\x7b' :: rest)
    (closing : skipGap rest = .char '\x7d' :: after) :
    readValue opened cs = readAfter opened (.obj []) after := by
  rw [readValue]
  grind

theorem readValue_object (start : skipGap cs = .char '\x7b' :: rest)
    (inside : (skipGap rest).head? ≠ some (.char '\x7d')) :
    readValue opened cs = readName opened [] (skipGap rest) := by
  rw [readValue]
  grind

theorem readName_text {members : List (Text × Json)}
    (closing : readString (.char '"' :: rest) rest = .ok (text, cs))
    (colon : skipGap cs = .char ':' :: after) :
    readName opened members (.char '"' :: rest) =
      readValue (.object members ⟨text⟩ :: opened) after := by
  rw [readName]
  grind

theorem readAfter_arrayEnd {items : List Json} {value : Json}
    (next : skipGap cs = .char ']' :: rest) :
    readAfter (.array items :: opened) value cs =
      readAfter opened (.arr (value :: items).reverse) rest := by
  rw [readAfter]
  grind

theorem readAfter_arrayNext {items : List Json} {value : Json}
    (next : skipGap cs = .char ',' :: rest) :
    readAfter (.array items :: opened) value cs =
      readValue (.array (value :: items) :: opened) rest := by
  rw [readAfter]
  grind

theorem readAfter_objectEnd {members : List (Text × Json)} {name : Text} {value : Json}
    (next : skipGap cs = .char '\x7d' :: rest) :
    readAfter (.object members name :: opened) value cs =
      readAfter opened (.obj (putEntry name value members)) rest := by
  rw [readAfter]
  grind

theorem readAfter_objectNext {members : List (Text × Json)} {name : Text} {value : Json}
    (next : skipGap cs = .char ',' :: rest) :
    readAfter (.object members name :: opened) value cs =
      readName opened (putEntry name value members) (skipGap rest) := by
  rw [readAfter]
  grind

end

/-! ## Reading what is written -/

theorem writeText_append (text : Text) (rest : List Code) :
    writeText text ++ rest =
      .char '"' :: (text.codes.flatMap escapeCode ++ .char '"' :: rest) := by
  simp [writeText]

/-- A written value starts with a quote or a bracket: with no gap, and not with a closing one. -/
theorem Textual.start {value : Json} (textual : Textual value) (indent : Option Nat)
    (depth : Nat) (rest : List Code) :
    ∃ c cs, write indent depth value ++ rest = c :: cs ∧ isGap c = false ∧ c ≠ .char ']' := by
  cases textual with
  | str text => exact ⟨_, _, writeText_append text rest, rfl, by decide⟩
  | @arr items _ => cases items <;> exact ⟨.char '[', _, rfl, rfl, by decide⟩
  | @obj members _ _ => cases members <;> exact ⟨.char '\x7b', _, rfl, rfl, by decide⟩

theorem Textual.skipGap_self {value : Json} (textual : Textual value) (indent : Option Nat)
    (depth : Nat) (rest : List Code) :
    skipGap (write indent depth value ++ rest) = write indent depth value ++ rest := by
  obtain ⟨c, cs, written, noGap, -⟩ := textual.start indent depth rest
  rw [written, skipGap_cons noGap]

theorem Textual.skipGap_write {value : Json} (textual : Textual value) {gap : List Code}
    (isGaps : ∀ c ∈ gap, isGap c = true) (indent : Option Nat) (depth : Nat) (rest : List Code) :
    skipGap (gap ++ (write indent depth value ++ rest)) = write indent depth value ++ rest := by
  rw [skipGap_append isGaps, textual.skipGap_self]

/-- Wherever the reader meets the written form of a value, it goes on with that value. -/
def ReadsBack (value : Json) : Prop :=
  ∀ (indent : Option Nat) (depth : Nat) (opened : List Opened) (cs rest : List Code),
    skipGap cs = write indent depth value ++ rest →
      readValue opened cs = readAfter opened value rest

theorem skipGap_lineBreak {c : Code} (noGap : isGap c = false) (indent : Option Nat) (depth : Nat)
    (rest : List Code) : skipGap (lineBreak indent depth ++ c :: rest) = c :: rest := by
  rw [skipGap_append (isGap_of_mem_lineBreak indent depth), skipGap_cons noGap]

theorem readAfter_writeItems {items : List Json} (textual : ∀ item ∈ items, Textual item)
    (each : ∀ item ∈ items, ReadsBack item) (indent : Option Nat) (depth outer : Nat)
    (opened : List Opened) (earlier : List Json) (value : Json) (rest : List Code) :
    readAfter (.array earlier :: opened) value
        (writeItems indent depth items ++ (lineBreak indent outer ++ .char ']' :: rest)) =
      readAfter opened (.arr (earlier.reverse ++ value :: items)) rest := by
  induction items generalizing earlier value with
  | nil =>
      rw [writeItems, List.nil_append, readAfter_arrayEnd (skipGap_lineBreak rfl indent outer rest),
        List.reverse_cons]
  | cons item items inductionHypothesis =>
      obtain ⟨gap, isGaps, apart⟩ := exists_gap_of_separator indent depth
      have itemTextual := textual item List.mem_cons_self
      rw [writeItems, apart, List.append_assoc, List.append_assoc, List.cons_append,
        readAfter_arrayNext (skipGap_cons rfl _),
        each item List.mem_cons_self indent depth _ _ _
          (itemTextual.skipGap_write isGaps indent depth _),
        inductionHypothesis (fun other membership => textual other (List.mem_cons_of_mem _ membership))
          (fun other membership => each other (List.mem_cons_of_mem _ membership)),
        List.reverse_cons, List.append_assoc]
      rfl

/-- A member's name, its colon and its value. -/
theorem readName_write {name : Text} {value : Json} (unicode : name.isUnicode = true)
    (textual : Textual value) (reads : ReadsBack value) (indent : Option Nat) (depth : Nat)
    (opened : List Opened) (earlier : List (Text × Json)) (rest : List Code) :
    readName opened earlier
        (writeText name ++ (.char ':' :: .char ' ' :: (write indent depth value ++ rest))) =
      readAfter (.object earlier name :: opened) value rest := by
  have start : skipGap (.char ' ' :: (write indent depth value ++ rest)) =
      write indent depth value ++ rest :=
    textual.skipGap_self indent depth rest
  rw [writeText_append, readName_text (readString_escape unicode _ _) (skipGap_cons rfl _),
    reads indent depth _ _ _ start]

theorem new_of_distinct {earlier later : List (Text × Json)} {name : Text} {value : Json}
    (distinct : ((earlier ++ (name, value) :: later).map Prod.fst).Nodup) :
    name ∉ earlier.map Prod.fst := by
  rw [List.map_append, List.map_cons, List.nodup_append] at distinct
  intro known
  exact distinct.2.2 name known name List.mem_cons_self rfl

theorem readAfter_writeMembers {members : List (Text × Json)}
    (unicode : ∀ member ∈ members, member.1.isUnicode = true)
    (textual : ∀ member ∈ members, Textual member.2)
    (each : ∀ member ∈ members, ReadsBack member.2) (indent : Option Nat) (depth outer : Nat)
    (opened : List Opened) (earlier : List (Text × Json)) (name : Text) (value : Json)
    (rest : List Code) (distinct : ((earlier ++ (name, value) :: members).map Prod.fst).Nodup) :
    readAfter (.object earlier name :: opened) value
        (writeMembers indent depth members ++ (lineBreak indent outer ++ .char '\x7d' :: rest)) =
      readAfter opened (.obj (earlier ++ (name, value) :: members)) rest := by
  induction members generalizing earlier name value with
  | nil =>
      rw [writeMembers, List.nil_append,
        readAfter_objectEnd (skipGap_lineBreak rfl indent outer rest),
        putEntry_of_not_mem (new_of_distinct distinct)]
  | cons member members inductionHypothesis =>
      obtain ⟨next, nextValue⟩ := member
      obtain ⟨gap, isGaps, apart⟩ := exists_gap_of_separator indent depth
      have separated : skipGap (gap ++ (writeText next ++ (.char ':' :: .char ' ' ::
          (write indent depth nextValue ++ (writeMembers indent depth members ++
            (lineBreak indent outer ++ .char '\x7d' :: rest)))))) =
          writeText next ++ (.char ':' :: .char ' ' :: (write indent depth nextValue ++
            (writeMembers indent depth members ++
              (lineBreak indent outer ++ .char '\x7d' :: rest)))) := by
        rw [skipGap_append isGaps, writeText_append, skipGap_cons rfl]
      have distinctNext :
          ((earlier ++ [(name, value)] ++ (next, nextValue) :: members).map Prod.fst).Nodup := by
        rwa [List.append_assoc]
      rw [writeMembers, apart]
      simp only [List.append_assoc, List.cons_append, List.nil_append]
      rw [readAfter_objectNext (skipGap_cons rfl _), separated,
        putEntry_of_not_mem (new_of_distinct distinct),
        readName_write (unicode _ List.mem_cons_self) (textual _ List.mem_cons_self)
          (each _ List.mem_cons_self),
        inductionHypothesis
          (fun other membership => unicode other (List.mem_cons_of_mem _ membership))
          (fun other membership => textual other (List.mem_cons_of_mem _ membership))
          (fun other membership => each other (List.mem_cons_of_mem _ membership)) _ _ _ distinctNext,
        List.append_assoc]
      rfl

theorem Textual.readsBack {value : Json} (textual : Textual value)
    (unicode : value.isUnicode = true) : ReadsBack value := by
  induction textual with
  | str text =>
      intro indent depth opened cs rest start
      rw [write, writeText_append] at start
      rw [readValue_text start (readString_escape unicode _ _)]
  | @arr items each inductionHypothesis =>
      intro indent depth opened cs rest start
      have itemsUnicode : ∀ item ∈ items, item.isUnicode = true := by simpa [isUnicode] using unicode
      cases items with
      | nil => exact readValue_emptyArray start (skipGap_cons rfl _)
      | cons first items =>
          have firstTextual := each first List.mem_cons_self
          rw [write] at start
          simp only [List.append_assoc, List.cons_append, List.nil_append] at start
          have inside := firstTextual.skipGap_write (isGap_of_mem_lineBreak indent (depth + 1))
            indent (depth + 1)
            (writeItems indent (depth + 1) items ++ (lineBreak indent depth ++ .char ']' :: rest))
          obtain ⟨c, more, written, -, noEnd⟩ := firstTextual.start indent (depth + 1)
            (writeItems indent (depth + 1) items ++ (lineBreak indent depth ++ .char ']' :: rest))
          rw [readValue_array start (by rw [inside, written]; simpa using noEnd), inside,
            inductionHypothesis first List.mem_cons_self (itemsUnicode _ List.mem_cons_self) indent
              (depth + 1) _ _ _ (firstTextual.skipGap_self _ _ _),
            readAfter_writeItems (fun item membership => each item (List.mem_cons_of_mem _ membership))
              (fun item membership => inductionHypothesis item (List.mem_cons_of_mem _ membership)
                (itemsUnicode item (List.mem_cons_of_mem _ membership)))]
          rfl
  | @obj members distinct each inductionHypothesis =>
      intro indent depth opened cs rest start
      obtain ⟨names, values⟩ : (∀ member ∈ members, member.1.isUnicode = true) ∧
          ∀ member ∈ members, member.2.isUnicode = true := by
        simpa [isUnicode, forall_and] using unicode
      cases members with
      | nil => exact readValue_emptyObject start (skipGap_cons rfl _)
      | cons member members =>
          obtain ⟨name, first⟩ := member
          rw [write] at start
          simp only [List.append_assoc, List.cons_append, List.nil_append] at start
          have inside : skipGap (lineBreak indent (depth + 1) ++ (writeText name ++
              (.char ':' :: .char ' ' :: (write indent (depth + 1) first ++ (writeMembers indent (depth + 1) members ++
                (lineBreak indent depth ++ .char '\x7d' :: rest)))))) = _ :=
            (skipGap_append (isGap_of_mem_lineBreak _ _) _).trans
              (by rw [writeText_append, skipGap_cons rfl])
          rw [readValue_object start (by rw [inside]; simp), inside, ← writeText_append,
            readName_write (names _ List.mem_cons_self) (each _ List.mem_cons_self)
              (inductionHypothesis _ List.mem_cons_self (values _ List.mem_cons_self)),
            readAfter_writeMembers
              (fun member membership => names member (List.mem_cons_of_mem _ membership))
              (fun member membership => each member (List.mem_cons_of_mem _ membership))
              (fun member membership =>
                inductionHypothesis member (List.mem_cons_of_mem _ membership)
                  (values member (List.mem_cons_of_mem _ membership)))
              _ _ _ _ _ _ _ _ distinct]
          rfl

/-- A value made of texts is read back from its text at every indent. -/
theorem read_render {value : Json} (textual : Textual value) (unicode : value.isUnicode = true)
    (indent : Option Int) :
    read (value.render indent) = .ok value := by
  have start : skipGap (write (indent.map Int.toNat) 0 value) =
      write (indent.map Int.toNat) 0 value ++ [] := by
    simpa using textual.skipGap_self (indent.map Int.toNat) 0 []
  have readBack := textual.readsBack unicode _ _ [] _ _ start
  rw [read, render, readBack]
  simp [readAfter, skipGap]

/-! ## The characters of what is written -/

theorem isAscii_lineBreak (indent : Option Nat) (depth : Nat) :
    IsAscii (lineBreak indent depth) := by
  cases indent with
  | none => exact isAscii_nil
  | some width =>
      apply isAscii_cons.mpr
      refine ⟨by decide, fun c membership => ?_⟩
      rw [List.eq_of_mem_replicate membership]
      decide

theorem isAscii_separator (indent : Option Nat) (depth : Nat) :
    IsAscii (separator indent depth) := by
  cases indent with
  | none => simp [separator]
  | some width => exact isAscii_cons.mpr ⟨by decide, isAscii_lineBreak (some width) depth⟩

theorem isAscii_writeItems {indent : Option Nat} {depth : Nat} {items : List Json}
    (each : ∀ item ∈ items, IsAscii (write indent depth item)) :
    IsAscii (writeItems indent depth items) := by
  induction items with
  | nil => exact isAscii_nil
  | cons item items inductionHypothesis =>
      rw [List.forall_mem_cons] at each
      simp only [writeItems, isAscii_append]
      exact ⟨⟨isAscii_separator indent depth, each.1⟩, inductionHypothesis each.2⟩

theorem isAscii_writeMembers {indent : Option Nat} {depth : Nat} {members : List (Text × Json)}
    (each : ∀ member ∈ members, IsAscii (write indent depth member.2)) :
    IsAscii (writeMembers indent depth members) := by
  induction members with
  | nil => exact isAscii_nil
  | cons member members inductionHypothesis =>
      rw [List.forall_mem_cons] at each
      simp [writeMembers, isAscii_separator, isAscii_writeText, each.1, inductionHypothesis each.2]

theorem Textual.isAscii_write {value : Json} (textual : Textual value) (indent : Option Nat)
    (depth : Nat) : IsAscii (write indent depth value) := by
  induction textual generalizing depth with
  | str text => exact isAscii_writeText text
  | @arr items each inductionHypothesis =>
      cases items with
      | nil => simp [write]
      | cons first items =>
          rw [List.forall_mem_cons] at inductionHypothesis
          have rest : IsAscii (writeItems indent (depth + 1) items) :=
            isAscii_writeItems fun item membership =>
              inductionHypothesis.2 item membership (depth + 1)
          simp [write, isAscii_lineBreak, inductionHypothesis.1 (depth + 1), rest]
  | @obj members distinct each inductionHypothesis =>
      cases members with
      | nil => simp [write]
      | cons member members =>
          obtain ⟨name, first⟩ := member
          rw [List.forall_mem_cons] at inductionHypothesis
          have rest : IsAscii (writeMembers indent (depth + 1) members) :=
            isAscii_writeMembers fun member membership =>
              inductionHypothesis.2 member membership (depth + 1)
          simp [write, isAscii_lineBreak, isAscii_writeText, inductionHypothesis.1 (depth + 1), rest]

end Flowchart.Json
