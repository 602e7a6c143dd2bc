import Flowchart.Proofs.FollowedPart
import Mathlib.Data.List.FinRange
import Mathlib.Data.List.Sort
import Mathlib.Logic.Equiv.Fin.Basic

/-!
Graphs whose nodes and edges are put down in another order. Nodes with different ids are found
wherever they stand; of the edges that leave a node, only the order matters in which they stand for
the same way out. A graph that keeps this order compiles to the same.
-/

namespace Flowchart

section

variable {α : Type} {bound : α → α → Prop} {list other : List α} {test : α → Bool}

/-- Whether a list is rearranged into another one in such a way that members which are bound to each
other keep their order. Members are told by their places, since equal ones may occur. -/
def Rearranges (bound : α → α → Prop) (list other : List α) : Prop :=
  ∃ place : Fin list.length ≃ Fin other.length,
    (∀ position, other[place position] = list[position]) ∧
    ∀ first second, first < second → bound list[first] list[second] → place first < place second

/-- The places of the members that pass a test, in order. -/
def passing (test : α → Bool) (list : List α) : List (Fin list.length) :=
  (List.finRange list.length).filter fun position => test list[position]

theorem mem_passing_iff {position : Fin list.length} :
    position ∈ passing test list ↔ test list[position] = true := by
  simp [passing]

theorem sorted_passing : (passing test list).Pairwise (· < ·) :=
  (List.sortedLT_finRange list.length).pairwise.filter _

theorem map_passing : (passing test list).map (fun position => list[position]) =
    list.filter test := by
  have listed : (List.finRange list.length).map (fun position => list[position]) = list := by
    apply List.ext_getElem <;> simp
  calc (passing test list).map (fun position => list[position])
      = ((List.finRange list.length).map fun position => list[position]).filter test := by
        rw [List.filter_map]
        rfl
    _ = list.filter test := by rw [listed]

/-- Members that are all bound to each other are the same list in either order. -/
theorem Rearranges.filter_eq (rearranged : Rearranges bound list other)
    (apart : ∀ first second, test first = true → test second = true → bound first second) :
    other.filter test = list.filter test := by
  obtain ⟨place, same, ordered⟩ := rearranged
  have moved : (passing test list).map place = passing test other := by
    have sorted : ((passing test list).map place).Pairwise (· < ·) := by
      rw [List.pairwise_map]
      refine sorted_passing.imp_of_mem fun {first second} isFirst isSecond less => ?_
      exact ordered first second less
        (apart _ _ (mem_passing_iff.mp isFirst) (mem_passing_iff.mp isSecond))
    refine sorted.eq_of_mem_iff sorted_passing fun position => ?_
    obtain ⟨before, rfl⟩ := place.surjective position
    rw [List.mem_map_of_injective place.injective, mem_passing_iff, mem_passing_iff, same]
  rw [← map_passing, ← map_passing, ← moved, List.map_map]
  apply List.map_congr_left
  intro position _
  exact same position

theorem Rearranges.length_eq (rearranged : Rearranges bound list other) :
    other.length = list.length := by
  obtain ⟨place, -, -⟩ := rearranged
  exact (Fin.equiv_iff_eq.mp ⟨place⟩).symm

end

namespace Graph

/-- Whether two edges stand for the same way out of a node. -/
def Rival (graph : Graph) (first second : Edge) : Prop :=
  first.source = second.source ∧
    ((∃ node ∈ graph.nodes, node.id = first.source ∧ node.kind ≠ .condition) ∨
      first.sourceHandle = second.sourceHandle)

instance {graph : Graph} {first second : Edge} : Decidable (graph.Rival first second) :=
  inferInstanceAs (Decidable (_ ∧ ((∃ node ∈ graph.nodes, _ ∧ _) ∨ _)))

/-- Whether another graph has the same nodes in any order and the same edges in an order that is the
same for rivals. -/
structure IsReordering (graph other : Graph) : Prop where
  nodes : other.nodes.Perm graph.nodes
  edges : Rearranges graph.Rival graph.edges other.edges

variable {graph other : Graph} {node : Node}

section

variable (reordered : graph.IsReordering other)
include reordered

theorem outgoing_reordered (member : node ∈ graph.nodes) (linear : node.kind ≠ .condition) :
    other.outgoing node.id = graph.outgoing node.id := by
  apply reordered.edges.filter_eq
  intro first second leaves leavesToo
  have source : first.source = node.id := of_decide_eq_true leaves
  have sourceToo : second.source = node.id := of_decide_eq_true leavesToo
  exact ⟨source.trans sourceToo.symm, .inl ⟨node, member, source.symm, linear⟩⟩

theorem edge?_reordered (source : Text) (handle : Option Text) :
    other.edge? source handle = graph.edge? source handle := by
  rw [edge?, edge?, ← List.head?_filter, ← List.head?_filter]
  congr 1
  apply reordered.edges.filter_eq
  intro first second leaves leavesToo
  obtain ⟨source, byHandle⟩ := of_decide_eq_true leaves
  obtain ⟨sourceToo, byHandleToo⟩ := of_decide_eq_true leavesToo
  exact ⟨source.trans sourceToo.symm, .inr (byHandle.trans byHandleToo.symm)⟩

theorem inputs_reordered (few : graph.inputs.length ≤ 1) : other.inputs = graph.inputs := by
  have rearranged : other.inputs.Perm graph.inputs := reordered.nodes.filter Node.isInput
  cases inputs : graph.inputs with
  | nil => exact List.perm_nil.mp (inputs ▸ rearranged)
  | cons entry others =>
      obtain rfl : others = [] := by simpa [inputs] using few
      exact List.perm_singleton.mp (inputs ▸ rearranged)

variable (distinct : (graph.nodes.map Node.id).Nodup)
include distinct

theorem node?_reordered (id : Text) : other.node? id = graph.node? id := by
  have distinctThere := (reordered.nodes.map Node.id).nodup_iff.mpr distinct
  cases found : graph.node? id with
  | none =>
      rw [node?_eq_none_iff] at found ⊢
      intro node member
      exact found node (reordered.nodes.mem_iff.mp member)
  | some node =>
      have there := node?_of_distinct distinctThere (reordered.nodes.mem_iff.mpr (mem_of_node? found))
      rwa [id_of_node? found] at there

theorem alikeAt_reordered (member : node ∈ graph.nodes) : graph.AlikeAt other node where
  outgoing := outgoing_reordered reordered member
  handles := fun _ _ handle _ => edge?_reordered reordered node.id handle
  targets := fun edge _ => node?_reordered reordered distinct edge.target

theorem walkFrom_reordered {entry : Node} (member : entry ∈ graph.nodes) :
    other.walkFrom entry = graph.walkFrom entry := by
  have there : entry ∈ other.nodes := reordered.nodes.mem_iff.mpr member
  rw [walkFrom_of_mem member, walkFrom_of_mem there]
  refine walk_congr ⟨entry, member⟩ ?_ there
  intro node reached
  exact alikeAt_reordered reordered distinct (reached.mem_nodes member)

variable (few : graph.inputs.length ≤ 1) (options : Options) (summary description : Text)
include few

/-- The order in which nodes and edges are put down makes no difference to a compilation, except for
that of edges which stand for the same way out of a node. -/
theorem compile_reordered :
    other.compile options summary description = graph.compile options summary description := by
  have nodeCount : other.nodes.length = graph.nodes.length := reordered.nodes.length_eq
  have edgeCount : other.edges.length = graph.edges.length := reordered.edges.length_eq
  have inputs := inputs_reordered reordered few
  rcases graph.inputs_cases with noInput | ⟨entry, single⟩ | several
  · rw [compile_of_no_input options summary description noInput,
      compile_of_no_input options summary description (inputs.trans noInput), nodeCount, edgeCount]
  · have walk := walkFrom_reordered reordered distinct (mem_nodes_of_inputs single)
    rw [compile_of_input options summary description single,
      compile_of_input options summary description (inputs.trans single), nodeCount, edgeCount, walk]
  · exact absurd few (Nat.not_le.mpr several)

end

/-- The forked graph with its nodes the other way round, and likewise all of its edges from the
second one by the default handle on. -/
def shuffled : Graph where
  nodes := forked.nodes.reverse
  edges := forked.edges.take 3 ++ (forked.edges.drop 3).reverse

theorem shuffled_compile :
    (forked.nodes.map Node.id).Nodup ∧ forked.inputs.length ≤ 1 ∧ forked.IsReordering shuffled ∧
      shuffled.compile .default "flow" "" = forked.compile .default "flow" "" := by
  have distinct : (forked.nodes.map Node.id).Nodup := by decide +kernel
  have few : forked.inputs.length ≤ 1 := by decide +kernel
  have reordered : forked.IsReordering shuffled :=
    ⟨List.reverse_perm forked.nodes,
      show Fin 8 ≃ Fin 8 from (Equiv.swap 3 7).trans (Equiv.swap 4 6), by decide +kernel⟩
  exact ⟨distinct, few, reordered, compile_reordered reordered distinct few .default "flow" ""⟩

end Graph

end Flowchart
