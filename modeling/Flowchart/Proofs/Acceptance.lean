import Flowchart.Graph.Dump
import Flowchart.Proofs.Keyed

/-!
What a reading accepts, apart from what it says of flaws. What is accepted of the whole is told by
what is accepted of its parts, so it depends neither on the faults that a reader names nor on where
a value comes from.
-/

namespace Flowchart

namespace Json

def items? : Json → Option (List Json)
  | .arr items => some items
  | _ => none

def members? : Json → Option (List (Text × Json))
  | .obj members => some members
  | _ => none

end Json

namespace Reading

variable {α β : Type}

/-- The thing read, if no flaw prevents it. -/
def value? : Reading α → Option α
  | accepted value => some value
  | flawed _ => none

theorem value?_eq_some_iff {reading : Reading α} {value : α} :
    reading.value? = some value ↔ reading = accepted value := by
  cases reading <;> simp [value?]

@[simp]
theorem value?_accepted (value : α) : (accepted value).value? = some value := rfl

@[simp]
theorem value?_fault (wrong : Fault) : (fault wrong : Reading α).value? = none := rfl

@[simp]
theorem value?_map (change : α → β) (reading : Reading α) :
    (change <$> reading).value? = reading.value?.map change := by
  cases reading <;> rfl

@[simp]
theorem value?_seq (reading : Reading (α → β)) (next : Reading α) :
    (reading <*> next).value? = reading.value?.bind fun change => next.value?.map change := by
  cases reading <;> cases next <;> rfl

@[simp]
theorem value?_under (step : Step) (reading : Reading α) :
    (reading.under step).value? = reading.value? := by
  cases reading <;> rfl

/-! ## Single values -/

@[simp]
theorem value?_text (content : Text) : (text (.str content)).value? = some content := rfl

@[simp]
theorem value?_flag (set : Bool) : (flag (.bool set)).value? = some set := rfl

@[simp]
theorem value?_number (size : Binary64) : (number (.float size)).value? = some size := rfl

@[simp]
theorem value?_nullable_text (content : Option Text) :
    (nullable text (.ofText? content)).value? = some content := by
  cases content <;> rfl

/-! ## Members and containers -/

@[simp]
theorem value?_field (members : List (Text × Json)) (name : Text)
    (read : Json → Reading α) :
    (field members name read).value? =
      (Json.member? members name).bind fun value => (read value).value? := by
  unfold field
  cases Json.member? members name <;> simp

@[simp]
theorem value?_fieldOr (members : List (Text × Json)) (name : Text) (default : α)
    (read : Json → Reading α) :
    (fieldOr members name default read).value? =
      (Json.member? members name).elim (some default) fun value => (read value).value? := by
  unfold fieldOr
  cases Json.member? members name <;> simp

@[simp]
theorem value?_items (read : Json → Reading α) (place : Nat) (values : List Json) :
    (items read place values).value? = values.mapM fun value => (read value).value? := by
  induction values generalizing place with
  | nil => rfl
  | cons value rest inductionHypothesis =>
      simp only [items, value?_seq, value?_map, value?_under, inductionHypothesis, List.mapM_cons]
      cases (read value).value? <;> cases rest.mapM (fun value => (read value).value?) <;> rfl

@[simp]
theorem value?_array (otherwise : Fault) (read : Json → Reading α) (value : Json) :
    (array otherwise read value).value? =
      value.items?.bind fun values => values.mapM fun value => (read value).value? := by
  cases value <;> simp [array, Json.items?]

@[simp]
theorem value?_object (otherwise : Fault) (read : List (Text × Json) → Reading α)
    (value : Json) :
    (object otherwise read value).value? =
      value.members?.bind fun members => (read members).value? := by
  cases value <;> simp [object, Json.members?]

@[simp]
theorem value?_entries (read : Json → Reading α) (members : List (Text × Json)) :
    (entries read members).value? =
      members.mapM fun member => (read member.2).value?.map (Prod.mk member.1) := by
  induction members with
  | nil => rfl
  | cons member rest inductionHypothesis =>
      simp only [entries, value?_seq, value?_map, value?_under, inductionHypothesis,
        List.mapM_cons]
      cases (read member.2).value? <;>
        cases rest.mapM (fun member => (read member.2).value?.map (Prod.mk member.1)) <;> rfl

@[simp]
theorem value?_keyed (read : Json → Reading α) (value : Json) :
    (keyed read value).value? = value.members?.bind fun members =>
      (members.mapM fun member => (read member.2).value?.map (Prod.mk member.1)).map
        Keyed.ofList := by
  cases value <;> simp [keyed, Json.members?]

/-! ## What is written for a list -/

variable {write : α → Json} {read : Json → Reading α}

/-- Items are read back if each of them is. -/
theorem mapM_value?_map (each : ∀ item, (read (write item)).value? = some item)
    (items : List α) : (items.map write).mapM (fun value => (read value).value?) = some items := by
  induction items with
  | nil => rfl
  | cons item rest inductionHypothesis => simp [each, inductionHypothesis]

theorem value?_array_map (each : ∀ item, (read (write item)).value? = some item) (otherwise : Fault)
    (items : List α) : (array otherwise read (.arr (items.map write))).value? = some items := by
  rw [value?_array, Json.items?, Option.bind_some, mapM_value?_map each]

/-- A map is read back if each of its values is. -/
theorem value?_keyed_map (each : ∀ value, (read (write value)).value? = some value)
    (map : Keyed α) :
    (keyed read (.obj (map.entries.map fun entry => (entry.1, write entry.2)))).value? =
      some map := by
  have entriesRead (entries : List (Text × α)) :
      (entries.map fun entry => (entry.1, write entry.2)).mapM
        (fun member => (read member.2).value?.map (Prod.mk member.1)) = some entries := by
    induction entries with
    | nil => rfl
    | cons entry rest inductionHypothesis => simp [each, inductionHypothesis]
  rw [value?_keyed, Json.members?, Option.bind_some, entriesRead, Option.map_some,
    Keyed.ofList_entries]

end Reading

/-! ## Readings in the body of a request -/

@[simp]
theorem InputProperty.value?_read_body (value : Json) :
    (InputProperty.read .body value).value? = (InputProperty.read .caller value).value? := by
  simp [InputProperty.read]

@[simp]
theorem Binding.value?_read_body (value : Json) :
    (Binding.read .body value).value? = (Binding.read .caller value).value? := by
  simp [Binding.read]

@[simp]
theorem BranchRow.value?_read_body (value : Json) :
    (BranchRow.read .body value).value? = (BranchRow.read .caller value).value? := by
  simp [BranchRow.read]

theorem Payload.value?_readMembers_body (members : List (Text × Json)) (kind : Kind) :
    (Payload.readMembers .body members kind).value? =
      (Payload.readMembers .caller members kind).value? := by
  cases kind <;> simp [Payload.readMembers, Payload.readInput]

@[simp]
theorem Payload.value?_read_body (value : Json) :
    (Payload.read .body value).value? = (Payload.read .caller value).value? := by
  simp only [Payload.read, Reading.value?_object]
  congr 1
  funext members
  cases Json.member? members "type" with
  | none => rfl
  | some tag =>
      dsimp only
      split
      · simp [Payload.value?_readMembers_body]
      · rfl

@[simp]
theorem Node.value?_read_body (value : Json) :
    (Node.read .body value).value? = (Node.read .caller value).value? := by
  simp [Node.read, Node.readTagged, Node.readMembers]

@[simp]
theorem Edge.value?_read_body (value : Json) :
    (Edge.read .body value).value? = (Edge.read .caller value).value? := by
  simp [Edge.read]

theorem Graph.value?_readMembers_body (members : List (Text × Json)) :
    (Graph.readMembers .body members).value? = (Graph.readMembers .caller members).value? := by
  simp [Graph.readMembers]

/-! ## Values that are handed over -/

/-- What is handed over is loaded if its canvas types can be looked up and it is accepted. -/
theorem checked_eq_ok_iff {α : Type} {reading : Reading α} {model : Text}
    {unusable : Option Container} {result : α} :
    (match unusable with
      | some container => Except.error (Refusal.unusableCanvasType container)
      | none => reading.toExcept.mapError (.invalid model)) = .ok result ↔
      unusable = none ∧ reading.value? = some result := by
  cases unusable with
  | some container => simp
  | none =>
      cases reading with
      | accepted value => simp [Reading.toExcept, Except.mapError]
      | flawed flaws => simp [Reading.toExcept, Except.mapError, Reading.value?]

theorem Node.load_eq_ok_iff {value : Json} {node : Node} :
    load value = .ok node ↔
      unusableType? value = none ∧ (read .caller value).value? = some node :=
  checked_eq_ok_iff

theorem Graph.load_eq_ok_iff {value : Json} {graph : Graph} :
    load value = .ok graph ↔
      unusableType? value = none ∧ (read .caller value).value? = some graph :=
  checked_eq_ok_iff

end Flowchart
