import Flowchart.Text.Basic

/-!
Finite maps from names that remember the order in which names first came. Storing a value under a
name that is already there keeps the name's place.
-/

namespace Flowchart

variable {α β : Type}

/-- Puts a value under a name, at the name's old place if it has one, else at the end. -/
def putEntry (name : Text) (value : α) : List (Text × α) → List (Text × α)
  | [] => [(name, value)]
  | entry :: rest =>
      if entry.1 = name then (name, value) :: rest else entry :: putEntry name value rest

theorem names_putEntry (name : Text) (value : α) (entries : List (Text × α)) :
    (putEntry name value entries).map Prod.fst =
      if name ∈ entries.map Prod.fst then entries.map Prod.fst
      else entries.map Prod.fst ++ [name] := by
  induction entries with
  | nil => simp [putEntry]
  | cons entry rest inductionHypothesis =>
      by_cases same : entry.1 = name
      · simp [putEntry, same]
      · have other : ¬name = entry.1 := fun equality => same equality.symm
        simp only [putEntry, same, if_false, List.map_cons, inductionHypothesis, List.mem_cons,
          other, false_or]
        split <;> simp

/-- A map from names, in order of first appearance, with no name twice. -/
structure Keyed (α : Type) where
  entries : List (Text × α)
  distinct : (entries.map Prod.fst).Nodup
  deriving DecidableEq

namespace Keyed

def empty : Keyed α := ⟨[], by simp⟩

instance : Inhabited (Keyed α) := ⟨empty⟩

def names (map : Keyed α) : List Text :=
  map.entries.map Prod.fst

def put (map : Keyed α) (name : Text) (value : α) : Keyed α where
  entries := putEntry name value map.entries
  distinct := by
    rw [names_putEntry]
    split
    · exact map.distinct
    · next absent =>
      rw [List.nodup_append]
      refine ⟨map.distinct, by simp, ?_⟩
      intro known inMap new isNew
      simp only [List.mem_singleton] at isNew
      subst isNew
      exact fun equality => absent (equality ▸ inMap)

/-- The map of a list of entries: every name at its first place, with its last value. -/
def ofList (entries : List (Text × α)) : Keyed α :=
  entries.foldl (fun map entry => map.put entry.1 entry.2) empty

@[simp]
theorem names_put (map : Keyed α) (name : Text) (value : α) :
    (map.put name value).names = if name ∈ map.names then map.names else map.names ++ [name] :=
  names_putEntry name value map.entries

end Keyed

end Flowchart
