import TemplatePrinter.Proofs.Tree.Children
/-!
# The nodes of a tree

All the nodes of a tree in one list, the tree itself first: whatever a node holds, in a body, as an
argument or in the name of a partial, is in the list with everything below it. What is said of
every node of a tree is said through this list.
-/

namespace TemplatePrinter

/-- A node and all nodes below it. -/
def Node.nodes (node : Node) : List Node :=
  node :: node.children.attach.flatMap fun child => child.val.nodes
termination_by sizeOf node
decreasing_by exact Node.sizeOf_children_lt child.property

theorem Node.nodes_eq (node : Node) : node.nodes = node :: node.children.flatMap Node.nodes := by
  rw [Node.nodes, List.flatMap_subtype (fun _ _ => rfl), List.unattach_attach]

theorem Node.mem_nodes_self (node : Node) : node ∈ node.nodes := by
  rw [Node.nodes_eq]
  exact List.mem_cons_self

theorem Node.mem_nodes_of_child {node child inner : Node} (hchild : child ∈ node.children)
    (hinner : inner ∈ child.nodes) : inner ∈ node.nodes := by
  rw [Node.nodes_eq]
  exact List.mem_cons_of_mem _ (List.mem_flatMap.mpr ⟨child, hchild, hinner⟩)

theorem Node.mem_nodes_trans {tree node inner : Node} (hnode : node ∈ tree.nodes)
    (hinner : inner ∈ node.nodes) : inner ∈ tree.nodes := by
  induction tree using Node.childInduction with
  | step tree ih =>
    rw [Node.nodes_eq] at hnode
    rcases List.mem_cons.mp hnode with rfl | hbelow
    · exact hinner
    · obtain ⟨child, hchild, hnode⟩ := List.mem_flatMap.mp hbelow
      exact Node.mem_nodes_of_child hchild (ih child hchild hnode)

theorem Node.sizeOf_le_of_mem_nodes {node inner : Node} (hinner : inner ∈ node.nodes) :
    sizeOf inner ≤ sizeOf node := by
  induction node using Node.childInduction with
  | step node ih =>
    rw [Node.nodes_eq] at hinner
    rcases List.mem_cons.mp hinner with rfl | hbelow
    · exact Nat.le_refl _
    · obtain ⟨child, hchild, hinner⟩ := List.mem_flatMap.mp hbelow
      have hlt := Node.sizeOf_children_lt hchild
      have hle := ih child hchild hinner
      omega

/-- What holds of every node of a tree holds of its root and of every node of its children. -/
theorem Node.forall_mem_nodes {P : Node → Prop} {node : Node} :
    (∀ inner ∈ node.nodes, P inner) ↔
      P node ∧ ∀ child ∈ node.children, ∀ inner ∈ child.nodes, P inner := by
  rw [Node.nodes_eq, List.forall_mem_cons]
  simp only [List.mem_flatMap, forall_exists_index, and_imp]
  exact and_congr_right fun _ =>
    ⟨fun h child hchild inner hinner => h inner child hchild hinner,
      fun h inner child hchild hinner => h child hchild inner hinner⟩

end TemplatePrinter
