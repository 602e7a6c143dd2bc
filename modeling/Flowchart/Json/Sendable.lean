import Flowchart.Json.Basic

/-!
Values that can be sent. They are sent as UTF-8, where a surrogate has no bytes of its own, and JSON
has no words for a number that is not finite.
-/

namespace Flowchart.Json

mutual

/-- Whether all numbers of a value pass one test, and all its texts and names another. -/
def passes (number : Binary64 → Bool) (text : Text → Bool) : Json → Bool
  | .float value => number value
  | .str content => text content
  | .arr items => itemsPass number text items
  | .obj members => membersPass number text members
  | .null | .bool _ | .int _ => true

def itemsPass (number : Binary64 → Bool) (text : Text → Bool) : List Json → Bool
  | [] => true
  | item :: rest => passes number text item && itemsPass number text rest

def membersPass (number : Binary64 → Bool) (text : Text → Bool) : List (Text × Json) → Bool
  | [] => true
  | (name, value) :: rest =>
      text name && passes number text value && membersPass number text rest

end

/-- Whether no surrogate stands on its own in a value. -/
def isUnicode : Json → Bool :=
  passes (fun _ => true) Text.isUnicode

def isSendable : Json → Bool :=
  passes Binary64.isFinite Text.isUnicode

variable {number : Binary64 → Bool} {text : Text → Bool}

@[simp]
theorem passes_arr (items : List Json) :
    (arr items).passes number text = items.all (passes number text) := by
  rw [passes]
  induction items with
  | nil => rfl
  | cons first rest inductionHypothesis => rw [itemsPass, List.all_cons, inductionHypothesis]

@[simp]
theorem passes_obj (members : List (Text × Json)) :
    (obj members).passes number text =
      members.all fun member => text member.1 && member.2.passes number text := by
  rw [passes]
  induction members with
  | nil => rfl
  | cons first rest inductionHypothesis => rw [membersPass, List.all_cons, inductionHypothesis]

@[simp]
theorem passes_null : null.passes number text = true := rfl

@[simp]
theorem passes_bool (value : Bool) : (bool value).passes number text = true := rfl

@[simp]
theorem passes_int (value : Int) : (int value).passes number text = true := rfl

@[simp]
theorem passes_float (value : Binary64) : (float value).passes number text = number value := rfl

@[simp]
theorem passes_str (content : Text) : (str content).passes number text = text content := rfl

@[simp]
theorem passes_ofText? (content : Option Text) :
    (ofText? content).passes number text = content.all text := by
  cases content <;> rfl

@[simp]
theorem passes_ofTexts (contents : List Text) :
    (ofTexts contents).passes number text = contents.all text := by
  simp [ofTexts, Function.comp_def]

theorem passes_of_member? {members : List (Text × Json)} {name : Text} {value : Json}
    (passed : (obj members).passes number text = true)
    (found : member? members name = some value) : value.passes number text = true := by
  obtain ⟨before, after, rfl, -⟩ := List.lookup_eq_some_iff.mp found
  simp only [passes_obj, List.all_append, List.all_cons, Bool.and_eq_true] at passed
  exact passed.2.1.2

mutual

/-- A test of numbers may be replaced by a weaker one. -/
theorem passes_mono {weaker : Binary64 → Bool}
    (implied : ∀ value, number value = true → weaker value = true) (value : Json)
    (passed : value.passes number text = true) : value.passes weaker text = true := by
  cases value with
  | float value => exact implied value passed
  | arr items => exact itemsPass_mono implied items passed
  | obj members => exact membersPass_mono implied members passed
  | _ => exact passed

theorem itemsPass_mono {weaker : Binary64 → Bool}
    (implied : ∀ value, number value = true → weaker value = true) (items : List Json)
    (passed : itemsPass number text items = true) : itemsPass weaker text items = true := by
  cases items with
  | nil => rfl
  | cons item rest =>
      rw [itemsPass, Bool.and_eq_true] at passed ⊢
      exact ⟨passes_mono implied item passed.1, itemsPass_mono implied rest passed.2⟩

theorem membersPass_mono {weaker : Binary64 → Bool}
    (implied : ∀ value, number value = true → weaker value = true) (members : List (Text × Json))
    (passed : membersPass number text members = true) :
    membersPass weaker text members = true := by
  cases members with
  | nil => rfl
  | cons member rest =>
      obtain ⟨name, value⟩ := member
      rw [membersPass, Bool.and_eq_true, Bool.and_eq_true] at passed ⊢
      exact ⟨⟨passed.1.1, passes_mono implied value passed.1.2⟩,
        membersPass_mono implied rest passed.2⟩

end

theorem isUnicode_of_isSendable {value : Json} (sendable : value.isSendable = true) :
    value.isUnicode = true :=
  passes_mono (fun _ _ => rfl) value sendable

end Flowchart.Json
