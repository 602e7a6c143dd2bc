import Flowchart.Service.Body

/-!
A reading that accepts nothing names a flaw. Each way of putting readings together keeps this, so it
holds for all that is read of a graph.
-/

namespace Flowchart

open Reading

namespace Reading

variable {α β : Type}

/-- What accepts nothing has a flaw to tell. -/
inductive TellsWhy : Reading α → Prop
  | accepted (value : α) : TellsWhy (accepted value)
  | flawed {flaws : List Flaw} (someFlaw : flaws ≠ []) : TellsWhy (flawed flaws)

theorem tellsWhy_fault (wrong : Fault) : (fault wrong : Reading α).TellsWhy :=
  .flawed (List.cons_ne_nil _ _)

theorem TellsWhy.map {reading : Reading α} (tells : reading.TellsWhy) (change : α → β) :
    (change <$> reading).TellsWhy := by
  cases tells with
  | accepted value => exact .accepted (change value)
  | flawed someFlaw => exact .flawed someFlaw

theorem TellsWhy.seq {reading : Reading (α → β)} {next : Reading α} (tells : reading.TellsWhy)
    (nextTells : next.TellsWhy) : (reading <*> next).TellsWhy := by
  cases tells with
  | accepted change =>
      cases nextTells with
      | accepted value => exact .accepted (change value)
      | flawed someFlaw => exact .flawed someFlaw
  | flawed someFlaw =>
      cases nextTells with
      | accepted value => exact .flawed someFlaw
      | flawed _ => exact .flawed (List.append_ne_nil_of_left_ne_nil someFlaw _)

theorem TellsWhy.under {reading : Reading α} (tells : reading.TellsWhy) (step : Step) :
    (reading.under step).TellsWhy := by
  cases tells with
  | accepted value => exact .accepted value
  | flawed someFlaw => exact .flawed (by simpa using someFlaw)

/-! ## Members and containers -/

variable {read : Json → Reading α}

theorem tellsWhy_field (tells : ∀ value, (read value).TellsWhy) (members : List (Text × Json))
    (name : Text) : (field members name read).TellsWhy := by
  unfold field
  split
  · exact (tells _).under _
  · exact (tellsWhy_fault _).under _

theorem tellsWhy_fieldOr (tells : ∀ value, (read value).TellsWhy)
    (members : List (Text × Json)) (name : Text) (default : α) :
    (fieldOr members name default read).TellsWhy := by
  unfold fieldOr
  split
  · exact (tells _).under _
  · exact .accepted _

theorem tellsWhy_nullable (tells : ∀ value, (read value).TellsWhy) (value : Json) :
    (nullable read value).TellsWhy := by
  unfold nullable
  split
  · exact .accepted _
  · exact (tells _).map _

theorem tellsWhy_array (tells : ∀ value, (read value).TellsWhy) (otherwise : Fault)
    (value : Json) : (array otherwise read value).TellsWhy := by
  have itemsTell (place : Nat) (values : List Json) : (items read place values).TellsWhy := by
    induction values generalizing place with
    | nil => exact .accepted _
    | cons item rest inductionHypothesis =>
        exact (((tells item).under _).map _).seq (inductionHypothesis (place + 1))
  cases value with
  | arr values => exact itemsTell 0 values
  | _ => exact tellsWhy_fault otherwise

theorem tellsWhy_keyed (tells : ∀ value, (read value).TellsWhy) (value : Json) :
    (keyed read value).TellsWhy := by
  have entriesTell (members : List (Text × Json)) : (entries read members).TellsWhy := by
    induction members with
    | nil => exact .accepted _
    | cons member rest inductionHypothesis =>
        exact ((((tells member.2).under _).map _).map _).seq inductionHypothesis
  cases value with
  | obj members => exact (entriesTell members).map _
  | _ => exact tellsWhy_fault .notMap

theorem tellsWhy_object {read : List (Text × Json) → Reading α}
    (tells : ∀ members, (read members).TellsWhy) (otherwise : Fault) (value : Json) :
    (object otherwise read value).TellsWhy := by
  cases value with
  | obj members => exact tells members
  | _ => exact tellsWhy_fault otherwise

/-! ## Single values -/

theorem tellsWhy_text (value : Json) : (text value).TellsWhy := by
  cases value with
  | str content => exact .accepted _
  | _ => exact tellsWhy_fault .notText

theorem tellsWhy_oneOf (choices : List (Text × α)) (value : Json) :
    (oneOf choices value).TellsWhy := by
  unfold oneOf
  dsimp only
  split
  · exact .accepted _
  · exact tellsWhy_fault _

theorem tellsWhy_flagOfWhole (value : Int) : (flagOfWhole value).TellsWhy := by
  unfold flagOfWhole
  split
  · exact .accepted false
  split
  · exact .accepted true
  split
  · exact tellsWhy_fault .unreadableFlag
  · exact tellsWhy_fault .notFlag

theorem tellsWhy_flag (value : Json) : (flag value).TellsWhy := by
  unfold flag
  split
  · exact .accepted _
  · exact tellsWhy_flagOfWhole _
  · split
    · exact tellsWhy_flagOfWhole _
    · exact tellsWhy_fault .notFlag
  · split
    · exact .accepted _
    · exact tellsWhy_fault .unreadableFlag
  · exact tellsWhy_fault .notFlag

/-- Reading a number, with the roundings left open: a proof that meets them tries to work them
out. -/
theorem tellsWhy_rounded (ofFlag : Bool → Binary64) (ofInt? : Int → Option Binary64)
    (ofText? : Text → Option Binary64) (value : Json) :
    TellsWhy (match value with
      | .float value => accepted value
      | .bool value => accepted (ofFlag value)
      | .int value =>
          match ofInt? value with
          | some nearest => accepted nearest
          | none => fault .notNumber
      | .str text =>
          match ofText? text with
          | some value => accepted value
          | none => fault .unreadableNumber
      | _ => fault .notNumber) := by
  cases value with
  | float value => exact .accepted value
  | bool value => exact .accepted (ofFlag value)
  | int value =>
      cases rounded : ofInt? value with
      | some nearest => simpa only [rounded] using .accepted nearest
      | none => simpa only [rounded] using tellsWhy_fault .notNumber
  | str text =>
      cases rounded : ofText? text with
      | some nearest => simpa only [rounded] using .accepted nearest
      | none => simpa only [rounded] using tellsWhy_fault .unreadableNumber
  | _ => exact tellsWhy_fault .notNumber

theorem tellsWhy_number (value : Json) : (number value).TellsWhy :=
  tellsWhy_rounded _ Binary64.ofInt? numberOfText? value

end Reading

/-! ## Parts of a graph -/

theorem PropertyType.tellsWhy_read (value : Json) : (PropertyType.read value).TellsWhy := by
  unfold PropertyType.read
  split <;> exact tellsWhy_oneOf _ _

theorem InputProperty.tellsWhy_read (source : Source) (value : Json) :
    (InputProperty.read source value).TellsWhy := by
  apply tellsWhy_object
  intro members
  have id := tellsWhy_fieldOr tellsWhy_text members "id" ""
  have name := tellsWhy_field tellsWhy_text members "name"
  have type := tellsWhy_fieldOr PropertyType.tellsWhy_read members "type" .string
  have required := tellsWhy_fieldOr tellsWhy_flag members "required" false
  exact (((id.map _).seq name).seq type).seq required

theorem Binding.tellsWhy_read (source : Source) (value : Json) :
    (Binding.read source value).TellsWhy := by
  apply tellsWhy_object
  intro members
  have id := tellsWhy_fieldOr tellsWhy_text members "id" ""
  have parameter := tellsWhy_field tellsWhy_text members "parameter"
  have expression := tellsWhy_fieldOr tellsWhy_text members "expression" ""
  exact ((id.map _).seq parameter).seq expression

theorem BranchRow.tellsWhy_read (source : Source) (value : Json) :
    (BranchRow.read source value).TellsWhy := by
  apply tellsWhy_object
  intro members
  have id := tellsWhy_field tellsWhy_text members "id"
  have label := tellsWhy_fieldOr tellsWhy_text members "label" ""
  have expression := tellsWhy_fieldOr tellsWhy_text members "expression" ""
  exact ((id.map _).seq label).seq expression

theorem Payload.tellsWhy_readMembers (source : Source) (members : List (Text × Json))
    (kind : Kind) : (Payload.readMembers source members kind).TellsWhy := by
  have stated (kind : Kind) : (statedType members kind).TellsWhy :=
    tellsWhy_fieldOr (tellsWhy_oneOf _) members "type" ()
  cases kind with
  | input =>
      have properties := tellsWhy_fieldOr
        (tellsWhy_array (InputProperty.tellsWhy_read source) .notRow) members "properties" []
      exact (((stated .input).map _).seq properties).map _
  | action =>
      have name := tellsWhy_fieldOr (tellsWhy_nullable tellsWhy_text) members
        (spelling members "actionName" "action_name") none
      have bindings := tellsWhy_fieldOr
        (tellsWhy_array (Binding.tellsWhy_read source) .notRow) members "inputs" []
      exact (((stated .action).map _).seq name).seq bindings
  | condition =>
      have rows := tellsWhy_fieldOr
        (tellsWhy_array (BranchRow.tellsWhy_read source) .notRow) members "conditions" []
      exact ((stated .condition).map _).seq rows

theorem Payload.tellsWhy_read (source : Source) (value : Json) :
    (Payload.read source value).TellsWhy := by
  apply tellsWhy_object
  intro members
  split
  · exact tellsWhy_fault .noTag
  · dsimp only
    split
    · exact (tellsWhy_readMembers source members _).under _
    · exact tellsWhy_fault _

theorem Node.tellsWhy_readMembers (source : Source) (members : List (Text × Json)) :
    (Node.readMembers source members).TellsWhy := by
  have id := tellsWhy_field tellsWhy_text members "id"
  have canvasType := tellsWhy_fieldOr (tellsWhy_nullable tellsWhy_text) members "type" none
  have position := tellsWhy_fieldOr (tellsWhy_keyed tellsWhy_number) members "position" origin
  have payload := tellsWhy_field (Payload.tellsWhy_read source) members "data"
  exact (((id.map _).seq canvasType).seq position).seq payload

theorem Node.tellsWhy_read (source : Source) (value : Json) :
    (Node.read source value).TellsWhy := by
  apply tellsWhy_object
  intro members
  exact tellsWhy_readMembers source (tagPayload members)

theorem Edge.tellsWhy_read (source : Source) (value : Json) :
    (Edge.read source value).TellsWhy := by
  apply tellsWhy_object
  intro members
  have optional (name : Text) :=
    tellsWhy_fieldOr (tellsWhy_nullable tellsWhy_text) members name none
  have required (name : Text) := tellsWhy_field tellsWhy_text members name
  exact (((((optional "id").map _).seq (required "source")).seq (required "target")).seq
    (optional _)).seq (optional _)

theorem Graph.tellsWhy_readMembers (source : Source) (members : List (Text × Json)) :
    (Graph.readMembers source members).TellsWhy := by
  have nodes := tellsWhy_fieldOr
    (tellsWhy_array (Node.tellsWhy_read source) source.notCollection) members "nodes" []
  have edges := tellsWhy_fieldOr
    (tellsWhy_array (Edge.tellsWhy_read source) source.notCollection) members "edges" []
  exact (nodes.map _).seq edges

theorem Graph.tellsWhy_read (source : Source) (value : Json) :
    (Graph.read source value).TellsWhy :=
  tellsWhy_object (Graph.tellsWhy_readMembers source) _ value

theorem FlowRequest.tellsWhy_read (value : Json) : (FlowRequest.read value).TellsWhy := by
  apply tellsWhy_object
  intro members
  have graph := Graph.tellsWhy_readMembers .body members
  have summary := tellsWhy_fieldOr tellsWhy_text members "summary" ""
  have description := tellsWhy_fieldOr tellsWhy_text members "description" ""
  exact ((graph.map _).seq summary).seq description

end Flowchart
