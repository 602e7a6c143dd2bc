import Flowchart.Proofs.Resolution
import Mathlib.Logic.Relation

/-!
What may be written otherwise in a value without changing the graph that is read from it: members
that its objects do not know, the order of members, and the spelling of their names. An object is
read by what is looked up in it, and none of this changes what is found.
-/

namespace Flowchart

open Reading

/-- What an object in a value is read as. -/
inductive Model where
  | graph
  | node
  /-- A payload of the kind that it is taken for, or of none. -/
  | payload (kind? : Option Kind)
  | property
  | binding
  | branch
  | edge
  deriving DecidableEq

namespace Model

/-- The members with one name that are no lists of objects. -/
def names : Model → List Text
  | graph => []
  | node => ["id", "type", "position", "data"]
  | payload _ => ["type"]
  | property => ["id", "name", "type", "required"]
  | binding => ["id", "parameter", "expression"]
  | branch => ["id", "label", "expression"]
  | edge => ["id", "source", "target"]

/-- The members that are lists of objects, with what these are read as. -/
def lists : Model → List (Text × Model)
  | graph => [("nodes", node), ("edges", edge)]
  | payload (some .input) => [("properties", property)]
  | payload (some .action) => [("inputs", binding)]
  | payload (some .condition) => [("conditions", branch)]
  | _ => []

/-- The members with two names, of which the first one counts. -/
def spellings : Model → List (Text × Text)
  | payload (some .action) => [("actionName", "action_name")]
  | edge => [("sourceHandle", "source_handle"), ("targetHandle", "target_handle")]
  | _ => []

def Knows (model : Model) (name : Text) : Prop :=
  name ∈ model.names ∨ name ∈ model.lists.map Prod.fst ∨
    ∃ pair ∈ model.spellings, name = pair.1 ∨ name = pair.2

instance (model : Model) (name : Text) : Decidable (model.Knows name) :=
  inferInstanceAs (Decidable (_ ∨ _ ∨ _))

theorem ne_of_mem_names (model : Model) :
    ∀ name ∈ model.names ++ model.lists.map Prod.fst, ∀ pair ∈ model.spellings,
      name ≠ pair.1 ∧ name ≠ pair.2 := by
  rcases model with _ | _ | (_ | _ | _ | _) | _ | _ | _ | _ <;> decide

theorem ne_of_mem_lists (model : Model) :
    ∀ list ∈ model.lists, ∀ name ∈ model.names, name ≠ list.1 := by
  rcases model with _ | _ | (_ | _ | _ | _) | _ | _ | _ | _ <;> decide

theorem eq_of_mem_lists (model : Model) :
    ∀ list ∈ model.lists, ∀ other ∈ model.lists, other.1 = list.1 → other = list := by
  rcases model with _ | _ | (_ | _ | _ | _) | _ | _ | _ | _ <;> decide

theorem ne_of_mem_spellings (model : Model) : ∀ pair ∈ model.spellings, pair.1 ≠ pair.2 := by
  rcases model with _ | _ | (_ | _ | _ | _) | _ | _ | _ | _ <;> decide

theorem ne_of_spellings_ne (model : Model) :
    ∀ pair ∈ model.spellings, ∀ other ∈ model.spellings, other ≠ pair →
      (other.1 ≠ pair.1 ∧ other.1 ≠ pair.2) ∧ other.2 ≠ pair.1 ∧ other.2 ≠ pair.2 := by
  rcases model with _ | _ | (_ | _ | _ | _) | _ | _ | _ | _ <;> decide

end Model

/-! ## Changes -/

/-- The members of an object are written otherwise. -/
inductive Rewords (model : Model) : List (Text × Json) → List (Text × Json) → Prop
  | add {before after : List (Text × Json)} {name : Text} (unknown : ¬model.Knows name)
      (value : Json) : Rewords model (before ++ after) (before ++ (name, value) :: after)
  | reorder {members others : List (Text × Json)} (order : members.Perm others)
      (distinct : (members.map Prod.fst).Nodup) : Rewords model members others
  | respell {before after : List (Text × Json)} {first second : Text}
      (pair : (first, second) ∈ model.spellings)
      (newFirst : first ∉ (before ++ after).map Prod.fst)
      (newSecond : second ∉ (before ++ after).map Prod.fst) (value : Json) :
      Rewords model (before ++ (first, value) :: after) (before ++ (second, value) :: after)
  /-- Under the second name, where the first one is there as well. -/
  | replace {before after : List (Text × Json)} {first second : Text}
      (pair : (first, second) ∈ model.spellings)
      (counted : first ∈ (before ++ after).map Prod.fst) (value other : Json) :
      Rewords model (before ++ (second, value) :: after) (before ++ (second, other) :: after)

/-- One object in a value is written otherwise: the value itself, or one further in. -/
inductive Edits : Model → Json → Json → Prop
  | own {model : Model} {members others : List (Text × Json)}
      (reworded : Rewords model members others) : Edits model (.obj members) (.obj others)
  | payload {members payload : List (Text × Json)} {other : Json}
      (data : Json.member? members "data" = some (.obj payload))
      (edited : Edits (.payload (Payload.resolvedKind? (Node.registeredKind? members) payload))
        (.obj payload) other) :
      Edits .node (.obj members) (.obj (putEntry "data" other members))
  | item {model part : Model} {name : Text} {members : List (Text × Json)}
      {before after : List Json} {value other : Json} (isList : (name, part) ∈ model.lists)
      (listed : Json.member? members name = some (.arr (before ++ value :: after)))
      (edited : Edits part value other) :
      Edits model (.obj members) (.obj (putEntry name (.arr (before ++ other :: after)) members))

/-! ## Readings -/

/-- What stands under the name that counts. -/
theorem Reading.member?_spelling (members : List (Text × Json)) (first second : Text) :
    Json.member? members (spelling members first second) =
      (Json.member? members first).or (Json.member? members second) := by
  unfold spelling
  cases ofFirst : Json.member? members first <;> cases ofSecond : Json.member? members second <;>
    simp [ofFirst, ofSecond]

/-- Two values are read alike: as the same thing, or neither of them as anything. -/
def Alike : Model → Json → Json → Prop
  | .graph, value, other =>
      Graph.unusableType? value = Graph.unusableType? other ∧
        (Graph.read .caller value).value? = (Graph.read .caller other).value?
  | .node, value, other =>
      Node.unusableType? value = Node.unusableType? other ∧
        (Node.read .caller value).value? = (Node.read .caller other).value?
  | .payload kind?, value, other =>
      -- The canvas type of the node tells only what kind the payload is taken for.
      ∀ registered?, (∀ members, value = .obj members →
          Payload.resolvedKind? registered? members = kind?) →
        (Payload.readAs .caller registered? value).value? =
          (Payload.readAs .caller registered? other).value?
  | .property, value, other =>
      (InputProperty.read .caller value).value? = (InputProperty.read .caller other).value?
  | .binding, value, other =>
      (Binding.read .caller value).value? = (Binding.read .caller other).value?
  | .branch, value, other =>
      (BranchRow.read .caller value).value? = (BranchRow.read .caller other).value?
  | .edge, value, other => (Edge.read .caller value).value? = (Edge.read .caller other).value?

/-- What stands for a list of objects, with at most one item that differs. -/
inductive ItemsAlike (part : Model) : Option Json → Option Json → Prop
  | same (found : Option Json) : ItemsAlike part found found
  | item {before after : List Json} {value other : Json} (alike : Alike part value other) :
      ItemsAlike part (some (.arr (before ++ value :: after)))
        (some (.arr (before ++ other :: after)))

/-- Two objects in which a model finds what is read alike. -/
structure Keeps (model : Model) (members others : List (Text × Json)) : Prop where
  names : ∀ name ∈ model.names, Json.member? members name = Json.member? others name
  spellings : ∀ pair ∈ model.spellings,
    (Json.member? members pair.1).or (Json.member? members pair.2) =
      (Json.member? others pair.1).or (Json.member? others pair.2)
  lists : ∀ list ∈ model.lists,
    ItemsAlike list.2 (Json.member? members list.1) (Json.member? others list.1)

section

variable {model : Model} {members others : List (Text × Json)}

theorem Keeps.of_names
    (same : ∀ name, model.Knows name → Json.member? members name = Json.member? others name) :
    Keeps model members others := by
  refine ⟨fun name known => same name (.inl known), ?_, ?_⟩
  · intro pair spelled
    have first := same pair.1 (.inr (.inr ⟨pair, spelled, .inl rfl⟩))
    have second := same pair.2 (.inr (.inr ⟨pair, spelled, .inr rfl⟩))
    rw [first, second]
  · intro list isList
    rw [same list.1 (.inr (.inl (List.mem_map_of_mem isList)))]
    exact .same _

/-- A change under the two names of one member is not seen elsewhere. -/
theorem Keeps.of_pair {pair : Text × Text} (spelled : pair ∈ model.spellings)
    (elsewhere : ∀ name, name ≠ pair.1 → name ≠ pair.2 →
      Json.member? members name = Json.member? others name)
    (same : (Json.member? members pair.1).or (Json.member? members pair.2) =
      (Json.member? others pair.1).or (Json.member? others pair.2)) :
    Keeps model members others := by
  have apart (name : Text) (known : name ∈ model.names ++ model.lists.map Prod.fst) :
      Json.member? members name = Json.member? others name := by
    obtain ⟨first, second⟩ := model.ne_of_mem_names name known pair spelled
    exact elsewhere name first second
  refine ⟨fun name known => apart name (List.mem_append_left _ known), ?_, ?_⟩
  · intro other otherSpelled
    by_cases isPair : other = pair
    · rw [isPair, same]
    · obtain ⟨first, second⟩ := model.ne_of_spellings_ne pair spelled other otherSpelled isPair
      rw [elsewhere other.1 first.1 first.2, elsewhere other.2 second.1 second.2]
  · intro list isList
    rw [apart list.1 (List.mem_append_right _ (List.mem_map_of_mem isList))]
    exact .same _

theorem Rewords.keeps (reworded : Rewords model members others) : Keeps model members others := by
  cases reworded with
  | @add before after name unknown value =>
      apply Keeps.of_names
      intro asked known
      have other : asked ≠ name := fun same => unknown (same ▸ known)
      exact (lookup_insert_of_ne other value before after).symm
  | reorder order distinct =>
      apply Keeps.of_names
      intro name _
      exact lookup_perm order distinct name
  | @respell before after first second pair newFirst newSecond value =>
      have unseen {name asked : Text} (other : asked ≠ name) :
          Json.member? (before ++ (name, value) :: after) asked =
            Json.member? (before ++ after) asked :=
        lookup_insert_of_ne other value before after
      have here {name : Text} (new : name ∉ (before ++ after).map Prod.fst) :
          Json.member? (before ++ (name, value) :: after) name = some value :=
        lookup_insert_self new value
      have missing : Json.member? (before ++ after) first = none :=
        lookup_eq_none_iff_not_mem.mpr newFirst
      refine Keeps.of_pair pair ?_ ?_
      · intro name notFirst notSecond
        rw [unseen notFirst, unseen notSecond]
      · rw [here newFirst, here newSecond, unseen (model.ne_of_mem_spellings _ pair), missing]
        rfl
  | @replace before after first second pair counted value other =>
      have unseen {asked : Text} (notSecond : asked ≠ second) (held : Json) :
          Json.member? (before ++ (second, held) :: after) asked =
            Json.member? (before ++ after) asked :=
        lookup_insert_of_ne notSecond held before after
      obtain ⟨found, isFound⟩ : ∃ found, Json.member? (before ++ after) first = some found := by
        rw [← Option.ne_none_iff_exists']
        exact fun missing => lookup_eq_none_iff_not_mem.mp missing counted
      refine Keeps.of_pair pair ?_ ?_
      · intro name _ notSecond
        rw [unseen notSecond, unseen notSecond]
      · have apart := model.ne_of_mem_spellings _ pair
        rw [unseen apart, unseen apart, isFound]
        rfl

/-- An item of a list is only seen where the list is read. -/
theorem Keeps.of_item {part : Model} {name : Text} {before after : List Json}
    {value other : Json} (isList : (name, part) ∈ model.lists)
    (listed : Json.member? members name = some (.arr (before ++ value :: after)))
    (alike : Alike part value other) :
    Keeps model members (putEntry name (.arr (before ++ other :: after)) members) := by
  have elsewhere {asked : Text} (different : asked ≠ name) :=
    (Json.member?_putEntry_of_ne different (.arr (before ++ other :: after)) members).symm
  refine ⟨?_, ?_, ?_⟩
  · intro asked known
    exact elsewhere (model.ne_of_mem_lists _ isList asked known)
  · intro pair spelled
    have apart := model.ne_of_mem_names name
      (List.mem_append_right _ (List.mem_map_of_mem isList)) pair spelled
    rw [elsewhere apart.1.symm, elsewhere apart.2.symm]
  · intro list otherList
    by_cases same : list.1 = name
    · obtain rfl := model.eq_of_mem_lists _ isList list otherList same
      rw [listed, Json.member?_putEntry_self]
      exact .item alike
    · rw [elsewhere same]
      exact .same _

theorem ItemsAlike.value?_fieldOr {α : Type} {read : Json → Reading α} {part : Model}
    {name : Text}
    (items : ItemsAlike part (Json.member? members name) (Json.member? others name))
    (reads : ∀ {value other}, Alike part value other → (read value).value? = (read other).value?)
    (otherwise : Fault) :
    (fieldOr members name [] (array otherwise read)).value? =
      (fieldOr others name [] (array otherwise read)).value? := by
  rw [Reading.value?_fieldOr, Reading.value?_fieldOr]
  generalize Json.member? members name = found at items ⊢
  generalize Json.member? others name = foundOther at items ⊢
  cases items with
  | same => rfl
  | item alike => simp [Json.items?, reads alike]

theorem Keeps.alike_graph (keeps : Keeps .graph members others) :
    Alike .graph (.obj members) (.obj others) := by
  have nodes := keeps.lists ("nodes", .node) (by decide)
  have edges := keeps.lists ("edges", .edge) (by decide)
  refine ⟨?_, ?_⟩
  · simp only [Graph.unusableType?]
    generalize Json.member? members "nodes" = found at nodes ⊢
    generalize Json.member? others "nodes" = foundOther at nodes ⊢
    cases nodes with
    | same => rfl
    | item alike => simp [List.findSome?_cons, show _ = _ from alike.1]
  · simp only [Graph.read, value?_object, Json.members?, Option.bind_some, Graph.readMembers,
      value?_seq, value?_map, nodes.value?_fieldOr (fun alike => alike.2),
      edges.value?_fieldOr (fun alike => alike)]

theorem Keeps.alike_node (keeps : Keeps .node members others) :
    Alike .node (.obj members) (.obj others) := by
  have type := keeps.names "type" (by decide)
  have registered : Node.registeredKind? members = Node.registeredKind? others := by
    simp only [Node.registeredKind?, type]
  refine ⟨?_, ?_⟩
  · simp only [Node.unusableType?, type]
  · change (Node.readTagged .caller members).value? = (Node.readTagged .caller others).value?
    simp (disch := decide) only [Node.readTagged_eq, value?_seq, value?_map, value?_field,
      value?_fieldOr, keeps.names, registered]

theorem Keeps.value?_readMembers {kind : Kind}
    (keeps : Keeps (.payload (some kind)) members others) :
    (Payload.readMembers .caller members kind).value? =
      (Payload.readMembers .caller others kind).value? := by
  have stated (kind : Kind) : Payload.statedType members kind = Payload.statedType others kind :=
    fieldOr_congr (keeps.names "type" (List.mem_singleton_self _)) _ _
  cases kind with
  | input =>
      have properties := keeps.lists ("properties", .property) (by decide)
      simp only [Payload.readMembers, Payload.readInput, value?_map, value?_seq, stated,
        properties.value?_fieldOr (fun alike => alike)]
  | action =>
      have spelled := keeps.spellings ("actionName", "action_name") (by decide)
      have name : (fieldOr members (spelling members "actionName" "action_name") none
          (nullable text)).value? =
            (fieldOr others (spelling others "actionName" "action_name") none
              (nullable text)).value? := by
        rw [value?_fieldOr, value?_fieldOr, member?_spelling, member?_spelling, spelled]
      have bindings := keeps.lists ("inputs", .binding) (by decide)
      simp only [Payload.readMembers, value?_map, value?_seq, stated, name,
        bindings.value?_fieldOr (fun alike => alike)]
  | condition =>
      have rows := keeps.lists ("conditions", .branch) (by decide)
      simp only [Payload.readMembers, value?_map, value?_seq, stated,
        rows.value?_fieldOr (fun alike => alike)]

theorem Keeps.alike_payload {kind? : Option Kind} (keeps : Keeps (.payload kind?) members others) :
    Alike (.payload kind?) (.obj members) (.obj others) := by
  intro registered? resolves
  have type := keeps.names "type" (List.mem_singleton_self _)
  have same : Payload.resolvedKind? registered? members =
      Payload.resolvedKind? registered? others := by
    simp only [Payload.resolvedKind?, type]
  rw [Payload.value?_readAs, Payload.value?_readAs, ← same, resolves members rfl]
  cases kind? with
  | none => rfl
  | some kind => exact keeps.value?_readMembers

theorem Keeps.alike_edge (keeps : Keeps .edge members others) :
    Alike .edge (.obj members) (.obj others) := by
  have sourceHandle := keeps.spellings ("sourceHandle", "source_handle") (by decide)
  have targetHandle := keeps.spellings ("targetHandle", "target_handle") (by decide)
  change (Edge.readMembers members).value? = (Edge.readMembers others).value?
  simp (disch := decide) only [Edge.readMembers, value?_seq, value?_map, value?_fieldOr,
    value?_field, member?_spelling, keeps.names, sourceHandle, targetHandle]

theorem Keeps.alike (keeps : Keeps model members others) :
    Alike model (.obj members) (.obj others) := by
  cases model with
  | graph => exact keeps.alike_graph
  | node => exact keeps.alike_node
  | payload kind? => exact keeps.alike_payload
  | property =>
      simp (disch := decide) only [Alike, InputProperty.read, value?_object, Json.members?,
        Option.bind_some, value?_seq, value?_map, value?_field, value?_fieldOr, keeps.names]
  | binding =>
      simp (disch := decide) only [Alike, Binding.read, value?_object, Json.members?,
        Option.bind_some, value?_seq, value?_map, value?_field, value?_fieldOr, keeps.names]
  | branch =>
      simp (disch := decide) only [Alike, BranchRow.read, value?_object, Json.members?,
        Option.bind_some, value?_seq, value?_map, value?_field, value?_fieldOr, keeps.names]
  | edge => exact keeps.alike_edge

end

/-- A payload is only seen where it is read, as of the kind that the node gives it. -/
theorem alike_of_data {members payload : List (Text × Json)} {other : Json}
    (data : Json.member? members "data" = some (.obj payload))
    (alike : Alike (.payload (Payload.resolvedKind? (Node.registeredKind? members) payload))
      (.obj payload) other) :
    Alike .node (.obj members) (.obj (putEntry "data" other members)) := by
  have type : Json.member? (putEntry "data" other members) "type" = Json.member? members "type" :=
    Json.member?_putEntry_of_ne (by decide) other members
  have registered : Node.registeredKind? (putEntry "data" other members) =
      Node.registeredKind? members := by
    simp only [Node.registeredKind?, type]
  have payloads := alike (Node.registeredKind? members) (by rintro _ ⟨⟩; rfl)
  refine ⟨?_, ?_⟩
  · simp only [Node.unusableType?, type]
  · change (Node.readTagged .caller members).value? = (Node.readTagged .caller _).value?
    simp (disch := decide) only [Node.readTagged_eq, value?_seq, value?_map, value?_field,
      value?_fieldOr, Json.member?_putEntry_of_ne, Json.member?_putEntry_self, data, registered,
      Option.bind_some, payloads]

/-- What is written otherwise is read alike, however far in it stands. -/
theorem Edits.alike {model : Model} {value other : Json} (edited : Edits model value other) :
    Alike model value other := by
  induction edited with
  | own reworded => exact reworded.keeps.alike
  | payload data _ inductionHypothesis => exact alike_of_data data inductionHypothesis
  | item isList listed _ inductionHypothesis =>
      exact (Keeps.of_item isList listed inductionHypothesis).alike

namespace Graph

theorem toOption_load (value : Json) :
    (load value).toOption =
      if (unusableType? value).isSome then none else (read .caller value).value? := by
  unfold load
  cases unusableType? value with
  | some container => rfl
  | none => cases read .caller value <;> rfl

/-- A graph is read as it was after any number of changes in its objects, wherever they stand:
members that are not known may come and go, members may be put in any order, and those with two names
may be written under the other one; what stands under the second of two names does not count. -/
theorem load_rewritten {value other : Json}
    (rewritten : Relation.EqvGen (Edits .graph) value other) :
    (load value).toOption = (load other).toOption := by
  induction rewritten with
  | rel value other edited =>
      obtain ⟨usable, same⟩ := edited.alike
      rw [toOption_load, toOption_load, usable, same]
  | refl value => rfl
  | symm _ _ _ inductionHypothesis => exact inductionHypothesis.symm
  | trans _ _ _ _ _ first second => exact first.trans second

/-- An action that is drawn with its name under the given one, and with more members. -/
def named (name : Text) (more : List (Text × Json)) : Json :=
  let id : Text × Json := ("id", .str "send")
  let type : Text × Json := ("type", .str "app-action")
  .obj [("nodes", .arr [.obj (id :: more ++ [type, ("data", .obj [(name, .str "f/send")])])])]

theorem named_rewritten :
    Relation.EqvGen (Edits .graph) (named "actionName" [])
      (named "action_name" [("selected", .bool true)]) ∧
    (load (named "actionName" [])).toOption =
      (load (named "action_name" [("selected", .bool true)])).toOption ∧
    load (named "actionName" []) =
      .ok ⟨[⟨"send", some "app-action", Node.origin, .action (some "f/send") []⟩], []⟩ := by
  have respelled : Edits .graph (named "actionName" []) (named "action_name" []) :=
    @Edits.item .graph .node "nodes" _ [] [] _ _ (by decide) rfl
      (.payload rfl (.own (@Rewords.respell _ [] [] "actionName" "action_name" (by decide)
        (by decide) (by decide) _)))
  have marked : Edits .graph (named "action_name" [])
      (named "action_name" [("selected", .bool true)]) :=
    @Edits.item .graph .node "nodes" _ [] [] _ _ (by decide) rfl
      (.own (@Rewords.add _ [("id", .str "send")] _ "selected" (by decide) _))
  have rewritten := (Relation.EqvGen.rel _ _ respelled).trans _ _ _ (.rel _ _ marked)
  exact ⟨rewritten, load_rewritten rewritten, rfl⟩

end Graph

end Flowchart
