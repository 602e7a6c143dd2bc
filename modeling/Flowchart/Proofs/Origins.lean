import Flowchart.Settings.Origins
import Flowchart.Proofs.Trimming

/-!
Lists of origins and the texts that spell them. A text spells a list if its items, which stand
between commas, are the origins in order, with blanks around each and blank items anywhere. Every
text spells exactly the list that is read from it.
-/

namespace Flowchart

/-- A text that can stand in a list of origins: it is not empty, has no comma in it and no blank at
its ends. -/
structure IsOrigin (text : Text) : Prop where
  filled : text ≠ ""
  undivided : Code.char ',' ∉ text.codes
  stripped : strip text = text

instance {text : Text} : Decidable (IsOrigin text) :=
  decidable_of_iff (text ≠ "" ∧ Code.char ',' ∉ text.codes ∧ strip text = text)
    ⟨fun ⟨filled, undivided, stripped⟩ => ⟨filled, undivided, stripped⟩,
      fun origin => ⟨origin.filled, origin.undivided, origin.stripped⟩⟩

/-- The items of a text that spells a list of origins: each origin with blanks around it, and blank
items before, between and behind. -/
inductive Padded : List Text → List Text → Prop where
  | nil : Padded [] []
  | blank {origins items : List Text} {item : Text} (blank : isBlankText item = true)
      (rest : Padded origins items) : Padded origins (item :: items)
  | origin {origins items : List Text} {origin before after : Text}
      (front : isBlankText before = true) (back : isBlankText after = true)
      (rest : Padded origins items) : Padded (origin :: origins) ((before ++ origin ++ after) :: items)

theorem comma_not_mem_of_blank {cs : List Code} (blank : cs.all isBlank = true) :
    Code.char ',' ∉ cs := by
  intro member
  have skipped := List.all_eq_true.mp blank (.char ',') member
  exact absurd skipped (by decide)

theorem strip_around {before text after : Text} (front : isBlankText before = true)
    (back : isBlankText after = true) : strip (before ++ text ++ after) = strip text := by
  rw [strip, strip, Text.codes_append, Text.codes_append, trimBy_around front back]

theorem exists_around_strip (text : Text) :
    ∃ before after, isBlankText before = true ∧ isBlankText after = true ∧
      text = before ++ strip text ++ after := by
  obtain ⟨before, after, front, back, whole⟩ := exists_around_trimBy isBlank text.codes
  exact ⟨⟨before⟩, ⟨after⟩, front, back, Text.ext whole⟩

theorem not_mem_of_mem_splitOn {c : Code} {cs part : List Code} (member : part ∈ cs.splitOn c) :
    c ∉ part := by
  induction cs generalizing part with
  | nil =>
      rw [List.splitOn_nil, List.mem_singleton] at member
      exact member ▸ List.not_mem_nil
  | cons first rest inductionHypothesis =>
      obtain ⟨head, tail, parts⟩ := List.exists_cons_of_ne_nil (List.splitOn_ne_nil c rest)
      rw [List.splitOn_cons_eq_if_modifyHead] at member
      split at member
      · rcases List.mem_cons.mp member with rfl | member
        · exact List.not_mem_nil
        · exact inductionHypothesis member
      · next differs =>
        rw [parts, List.modifyHead_cons] at member
        rcases List.mem_cons.mp member with rfl | member
        · rw [List.mem_cons, not_or]
          refine ⟨fun same => differs (beq_iff_eq.mpr same.symm), ?_⟩
          exact inductionHypothesis (parts ▸ List.mem_cons_self)
        · exact inductionHypothesis (parts ▸ List.mem_cons_of_mem _ member)

/-! ## Items -/

/-- The items of a text are what its commas divide it into. -/
theorem exists_items (text : Text) :
    ∃ items, text = Text.intercalate "," items ∧ ∀ item ∈ items, Code.char ',' ∉ item.codes := by
  refine ⟨(text.codes.splitOn (Code.char ',')).map Text.mk, ?_, ?_⟩
  · rw [← Text.codes_inj, Text.codes_intercalate, List.map_map]
    have same : Text.codes ∘ Text.mk = id := rfl
    rw [same, List.map_id]
    exact (List.intercalate_splitOn (Code.char ',')).symm
  · intro item member
    obtain ⟨part, among, rfl⟩ := List.mem_map.mp member
    exact not_mem_of_mem_splitOn among

theorem splitOrigins_intercalate {items : List Text}
    (undivided : ∀ item ∈ items, Code.char ',' ∉ item.codes) :
    splitOrigins (Text.intercalate "," items) = (items.map strip).filter (· ≠ ("" : Text)) := by
  cases items with
  | nil => decide
  | cons first rest =>
      have parts : ((Text.intercalate "," (first :: rest)).codes.splitOn (.char ',')) =
          (first :: rest).map Text.codes := by
        rw [Text.codes_intercalate]
        apply List.splitOn_intercalate (Code.char ',')
        · intro part member
          obtain ⟨item, among, rfl⟩ := List.mem_map.mp member
          exact undivided item among
        · exact List.cons_ne_nil _ _
      rw [splitOrigins, parts, List.map_map]
      rfl

/-- Commas divide a text into texts that are looked at by themselves. -/
theorem splitOrigins_comma (first second : List Code) :
    splitOrigins ⟨first ++ .char ',' :: second⟩ =
      splitOrigins ⟨first⟩ ++ splitOrigins ⟨second⟩ := by
  simp only [splitOrigins, List.splitOn_append_cons_self, List.map_append, List.filter_append]

theorem splitOrigins_of_undivided {cs : List Code} (undivided : Code.char ',' ∉ cs) :
    splitOrigins ⟨cs⟩ = [strip ⟨cs⟩].filter (· ≠ ("" : Text)) := by
  rw [splitOrigins, List.splitOn_eq_singleton undivided, List.map_singleton]

theorem splitOrigins_around_undivided {before part after : List Code}
    (front : before.all isBlank = true) (undivided : Code.char ',' ∉ part)
    (back : after.all isBlank = true) :
    splitOrigins ⟨before ++ part ++ after⟩ = splitOrigins ⟨part⟩ := by
  have whole : Code.char ',' ∉ before ++ part ++ after := by
    simp [comma_not_mem_of_blank front, undivided, comma_not_mem_of_blank back]
  have same : strip ⟨before ++ part ++ after⟩ = strip ⟨part⟩ := by
    rw [strip, strip, trimBy_around front back]
  rw [splitOrigins_of_undivided whole, splitOrigins_of_undivided undivided, same]

/-- Blanks at the ends of a text do not count. -/
theorem splitOrigins_around {parts : List (List Code)} {before after : List Code}
    (front : before.all isBlank = true) (undivided : ∀ part ∈ parts, Code.char ',' ∉ part)
    (back : after.all isBlank = true) :
    splitOrigins ⟨before ++ [Code.char ','].intercalate parts ++ after⟩ =
      splitOrigins ⟨[Code.char ','].intercalate parts⟩ := by
  induction parts generalizing before with
  | nil => exact splitOrigins_around_undivided front List.not_mem_nil back
  | cons first rest inductionHypothesis =>
      obtain ⟨plain, others⟩ := List.forall_mem_cons.mp undivided
      by_cases last : rest = []
      · rw [last, List.intercalate_singleton]
        exact splitOrigins_around_undivided front plain back
      · -- The blanks in front belong to the first part, those behind to the others.
        have ending := splitOrigins_around_undivided front plain List.all_nil
        have later := @inductionHypothesis [] List.all_nil others
        rw [List.append_nil] at ending
        rw [List.nil_append] at later
        have regrouped :
            before ++ [Code.char ','].intercalate (first :: rest) ++ after =
              (before ++ first) ++ .char ',' :: ([Code.char ','].intercalate rest ++ after) := by
          simp [List.intercalate_cons_of_ne_nil last]
        rw [regrouped, splitOrigins_comma, ending, later, ← splitOrigins_comma,
          List.intercalate_cons_of_ne_nil last, List.append_assoc, List.singleton_append]

theorem splitOrigins_strip (text : Text) : splitOrigins (strip text) = splitOrigins text := by
  obtain ⟨before, after, front, back, whole⟩ := exists_around_trimBy isBlank text.codes
  have undivided :
      ∀ part ∈ (trimBy isBlank text.codes).splitOn (.char ','), Code.char ',' ∉ part :=
    fun part => not_mem_of_mem_splitOn
  have same := splitOrigins_around front undivided back
  rw [List.intercalate_splitOn, ← whole] at same
  exact same.symm

/-- The star needs no rule of its own to be read as itself. -/
theorem Settings.origins_eq (settings : Settings) :
    settings.origins = splitOrigins settings.allowedOrigins := by
  rw [← splitOrigins_strip, origins]
  by_cases star : strip settings.allowedOrigins = "*"
  · rw [if_pos star, star]
    decide
  · rw [if_neg star]

/-! ## Spelling -/

namespace Padded

variable {origins items : List Text}

theorem strip_items (padded : Padded origins items) (plain : ∀ origin ∈ origins, IsOrigin origin) :
    (items.map strip).filter (· ≠ ("" : Text)) = origins := by
  induction padded with
  | nil => rfl
  | blank blank _ inductionHypothesis =>
      have nothing := strip_eq_empty_iff.mpr blank
      simpa [nothing] using inductionHypothesis plain
  | origin front back _ inductionHypothesis =>
      obtain ⟨first, others⟩ := List.forall_mem_cons.mp plain
      have kept := inductionHypothesis others
      simpa [strip_around front back, first.stripped, first.filled] using kept

theorem undivided (padded : Padded origins items) (plain : ∀ origin ∈ origins, IsOrigin origin) :
    ∀ item ∈ items, Code.char ',' ∉ item.codes := by
  induction padded with
  | nil => exact List.forall_mem_nil _
  | blank blank _ inductionHypothesis =>
      exact List.forall_mem_cons.mpr ⟨comma_not_mem_of_blank blank, inductionHypothesis plain⟩
  | origin front back _ inductionHypothesis =>
      obtain ⟨first, others⟩ := List.forall_mem_cons.mp plain
      refine List.forall_mem_cons.mpr ⟨?_, inductionHypothesis others⟩
      simp [comma_not_mem_of_blank front, first.undivided, comma_not_mem_of_blank back]

/-- Any items are those of the origins that stripping makes of them. -/
theorem of_items (items : List Text) : Padded ((items.map strip).filter (· ≠ ("" : Text))) items := by
  induction items with
  | nil => exact .nil
  | cons item rest inductionHypothesis =>
      by_cases blank : strip item = ""
      · simpa [blank] using Padded.blank (strip_eq_empty_iff.mp blank) inductionHypothesis
      · obtain ⟨before, after, front, back, whole⟩ := exists_around_strip item
        have padded : Padded (strip item :: _) ((before ++ strip item ++ after) :: rest) :=
          .origin front back inductionHypothesis
        rw [← whole] at padded
        simpa [blank] using padded

theorem refl (origins : List Text) : Padded origins origins := by
  induction origins with
  | nil => exact .nil
  | cons origin rest inductionHypothesis =>
      have padded : Padded (origin :: rest) ((("" : Text) ++ origin ++ "") :: rest) :=
        .origin rfl rfl inductionHypothesis
      simpa using padded

end Padded

theorem isOrigin_of_mem_strip {items : List Text}
    (undivided : ∀ item ∈ items, Code.char ',' ∉ item.codes)
    {origin : Text} (member : origin ∈ (items.map strip).filter (· ≠ ("" : Text))) : IsOrigin origin := by
  obtain ⟨stripped, filled⟩ := List.mem_filter.mp member
  obtain ⟨item, among, rfl⟩ := List.mem_map.mp stripped
  obtain ⟨before, after, -, -, whole⟩ := exists_around_strip item
  refine ⟨of_decide_eq_true filled, ?_, strip_strip item⟩
  intro inside
  apply undivided item among
  rw [whole]
  simp [inside]

namespace Settings

variable {settings : Settings} {origins : List Text}

/-- The list of origins is the one that the text spells. -/
theorem origins_eq_iff :
    settings.origins = origins ↔
      (∀ origin ∈ origins, IsOrigin origin) ∧
        ∃ items, Padded origins items ∧ settings.allowedOrigins = Text.intercalate "," items := by
  rw [origins_eq]
  constructor
  · rintro rfl
    obtain ⟨items, text, undivided⟩ := exists_items settings.allowedOrigins
    rw [text, splitOrigins_intercalate undivided]
    exact ⟨fun origin => isOrigin_of_mem_strip undivided, items, .of_items items, rfl⟩
  · rintro ⟨plain, items, padded, text⟩
    rw [text, splitOrigins_intercalate (padded.undivided plain), padded.strip_items plain]

end Settings

/-- The origins are not empty, have no comma in them and no blank at their ends, and the text is these
origins in this order with commas between, blanks around each and blank items anywhere. Joined by
commas they spell themselves; and so does every list of such texts, however it is padded. -/
theorem Settings.origins_roundTrip (settings : Settings) :
    (∀ origin ∈ settings.origins, IsOrigin origin) ∧
    (∃ items, Padded settings.origins items ∧ settings.allowedOrigins = Text.intercalate "," items) ∧
    { settings with allowedOrigins := Text.intercalate "," settings.origins }.origins =
      settings.origins ∧
    ∀ origins items, (∀ origin ∈ origins, IsOrigin origin) → Padded origins items →
      { settings with allowedOrigins := Text.intercalate "," items }.origins = origins := by
  obtain ⟨plain, spelled⟩ := Settings.origins_eq_iff.mp (Eq.refl settings.origins)
  refine ⟨plain, spelled, ?_, ?_⟩
  · exact Settings.origins_eq_iff.mpr ⟨plain, settings.origins, .refl _, rfl⟩
  · intro origins items plain padded
    exact Settings.origins_eq_iff.mpr ⟨plain, items, padded, rfl⟩

/-- A star among others is an origin like them, and a blank within an origin stays. -/
theorem Settings.starred_origins_roundTrip :
    let origins : List Text := ["*", "https://a.b c"]
    let items : List Text := [" ", "\t*", "", "https://a.b c\u3000", ""]
    (∀ origin ∈ origins, IsOrigin origin) ∧ Padded origins items ∧
    { Settings.default with allowedOrigins := Text.intercalate "," items }.origins = origins := by
  intro origins items
  have plain : ∀ origin ∈ origins, IsOrigin origin := by decide +kernel
  have listed : (items.map strip).filter (· ≠ ("" : Text)) = origins := by decide +kernel
  have padded : Padded origins items := listed ▸ .of_items items
  exact ⟨plain, padded, (Settings.origins_roundTrip .default).2.2.2 _ items plain padded⟩

end Flowchart
