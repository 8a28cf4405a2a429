import TemplatePrinter.Proofs.ElseChain.Clauses
import TemplatePrinter.Proofs.Tree.Nodes
/-!
# What the printer visits

Not every node of a tree is printed. The values of the pairs of a call are written as they are, a
call that computes the name of a partial has no pairs at all, a partial block keeps its program to
itself, and of an inverse program that starts with a block only that block counts. The nodes that
are printed are visited one after the other, and a visit is done when all visits below it are.

`Node.steps` says which visits stand directly below a node and in which order, and `Visit.visits`
lists all of them as they are done. Neither knows of a rule: whatever a rule does, it does to the
same visits. A visit remembers the call that its node is an argument of, as this is all that a rule
asks for.
-/

namespace TemplatePrinter

/-! ### Clauses -/

/-- The nodes that are printed for a clause: the arguments of its tag, then its program. -/
def Clause.nodes : Clause → List Node
  | .chained block => block.args.children ++ block.main.body
  | .final program => program.body

/-! ### Visits -/

/-- A node that is printed. -/
structure Visit where
  node : Node
  /-- If the node is an argument in a call by a helper: the helper, and the position of the
  argument, counted from one. -/
  place : Option (String × Nat)

/-- Visits of nodes that are no arguments in a call by a helper. -/
def Visit.ofNodes (nodes : List Node) : List Visit :=
  nodes.map fun node => ⟨node, none⟩

/-- Visits of the arguments in a call by a helper. -/
def Visit.ofParams (callee : String) (params : List Node) : List Visit :=
  params.mapIdx fun i param => ⟨param, some (callee, i + 1)⟩

/-- The nodes that are printed for the name of a partial. -/
def PartialName.params : PartialName → List Node
  | .path _ => []
  | .sub _ args => args.params

/-- The visits directly below a node, in the order in which they are made. -/
def Node.steps : Node → List Visit
  | .program p => Visit.ofNodes p.body
  | .block b => Visit.ofNodes (b.args.children ++ b.main.body ++ b.elseChain.flatMap Clause.nodes)
  | .mustache _ args _ => Visit.ofNodes args.children
  | .sub callee args => Visit.ofParams callee args.params
  | .partialTag name args => Visit.ofNodes (name.params ++ args.children)
  | .partialBlock name args _ => Visit.ofNodes (name.params ++ args.children)
  | _ => []

theorem Visit.mem_ofNodes {nodes : List Node} {visit : Visit} :
    visit ∈ Visit.ofNodes nodes ↔ visit.node ∈ nodes ∧ visit.place = none := by
  obtain ⟨node, place⟩ := visit
  simp only [Visit.ofNodes, List.mem_map, Visit.mk.injEq]
  constructor
  · rintro ⟨inner, hinner, rfl, rfl⟩
    exact ⟨hinner, rfl⟩
  · rintro ⟨hnode, rfl⟩
    exact ⟨node, hnode, rfl, rfl⟩

theorem Visit.mem_ofParams {callee : String} {params : List Node} {visit : Visit} :
    visit ∈ Visit.ofParams callee params ↔
      ∃ i, params[i]? = some visit.node ∧ visit.place = some (callee, i + 1) := by
  obtain ⟨node, place⟩ := visit
  rw [Visit.ofParams, List.mem_iff_getElem?]
  simp only [List.getElem?_mapIdx, Option.map_eq_some_iff, Visit.mk.injEq]
  refine exists_congr fun i => ⟨?_, ?_⟩
  · rintro ⟨param, hparam, rfl, rfl⟩
    exact ⟨hparam, rfl⟩
  · rintro ⟨hparam, rfl⟩
    exact ⟨node, hparam, rfl, rfl⟩

/-! ### Visits are to nodes of the tree -/

theorem mem_nodes_of_mem_elseClauses {inverse : Option Program} {inner : Node}
    (hinner : inner ∈ (elseClauses inverse).flatMap Clause.nodes) :
    ∃ node ∈ inverseBody inverse, inner ∈ node.nodes := by
  induction inverse using elseInduction with
  | absent => simp [elseClauses] at hinner
  | chained block tail names ih =>
    refine ⟨.block block, List.mem_cons_self, ?_⟩
    rw [elseClauses_chained, List.flatMap_cons, List.mem_append] at hinner
    rcases hinner with hclause | hlater
    · exact Node.mem_nodes_of_child (List.mem_append_left _ hclause) inner.mem_nodes_self
    · obtain ⟨node, hnode, hinner⟩ := ih hlater
      exact Node.mem_nodes_of_child (List.mem_append_right _ hnode) hinner
  | final program hfirst =>
    rw [elseClauses_final hfirst, List.flatMap_singleton] at hinner
    exact ⟨inner, hinner, inner.mem_nodes_self⟩

theorem PartialName.mem_children_of_mem_params {name : PartialName} {param : Node}
    (hparam : param ∈ name.params) : param ∈ name.children := by
  cases name with
  | path text => cases hparam
  | sub callee args => exact List.mem_append_left _ hparam

/-- A visit below a node is to a node below one of its children: further down than the child itself
where an else chain is followed. -/
theorem Node.exists_child_of_mem_steps {node : Node} {step : Visit} (hstep : step ∈ node.steps) :
    ∃ child ∈ node.children, step.node ∈ child.nodes := by
  suffices hbelow : step.node ∈ node.children ∨ ∃ child ∈ node.children, step.node ∈ child.nodes by
    rcases hbelow with hchild | hbelow
    · exact ⟨step.node, hchild, step.node.mem_nodes_self⟩
    · exact hbelow
  cases node with
  | program program => exact .inl (Visit.mem_ofNodes.mp hstep).1
  | block block =>
    rcases List.mem_append.mp (Visit.mem_ofNodes.mp hstep).1 with hmain | helse
    · exact .inl (List.mem_append_left _ hmain)
    · rw [Block.elseChain_eq] at helse
      obtain ⟨child, hchild, hinner⟩ := mem_nodes_of_mem_elseClauses helse
      exact .inr ⟨child, List.mem_append_right _ hchild, hinner⟩
  | mustache path args escaped => exact .inl (Visit.mem_ofNodes.mp hstep).1
  | sub callee args =>
    obtain ⟨i, hparam, -⟩ := Visit.mem_ofParams.mp hstep
    exact .inl (List.mem_append_left _ (List.mem_of_getElem? hparam))
  | partialTag name args =>
    rcases List.mem_append.mp (Visit.mem_ofNodes.mp hstep).1 with hname | hargs
    · exact .inl (List.mem_append_left _ (PartialName.mem_children_of_mem_params hname))
    · exact .inl (List.mem_append_right _ hargs)
  | partialBlock name args fallback =>
    refine .inl (List.mem_append_left _ ?_)
    rcases List.mem_append.mp (Visit.mem_ofNodes.mp hstep).1 with hname | hargs
    · exact List.mem_append_left _ (PartialName.mem_children_of_mem_params hname)
    · exact List.mem_append_right _ hargs
  | _ => cases hstep

theorem Node.sizeOf_steps_lt {node : Node} {step : Visit} (hstep : step ∈ node.steps) :
    sizeOf step.node < sizeOf node := by
  obtain ⟨child, hchild, hinner⟩ := Node.exists_child_of_mem_steps hstep
  have hlt := Node.sizeOf_children_lt hchild
  have hle := Node.sizeOf_le_of_mem_nodes hinner
  omega

/-- A visit with all visits below it, in the order in which they are done. -/
def Visit.visits (visit : Visit) : List Visit :=
  (visit.node.steps.attach.flatMap fun step => step.val.visits) ++ [visit]
termination_by sizeOf visit.node
decreasing_by exact Node.sizeOf_steps_lt step.property

theorem Visit.visits_eq (visit : Visit) :
    visit.visits = visit.node.steps.flatMap Visit.visits ++ [visit] := by
  rw [Visit.visits, List.flatMap_subtype (fun _ _ => rfl), List.unattach_attach]

/-- What passes from the visits below a node to the visit of the node holds of every visit. -/
@[elab_as_elim]
theorem Visit.induction {motive : Visit → Prop}
    (step : ∀ visit : Visit, (∀ below ∈ visit.node.steps, motive below) → motive visit)
    (visit : Visit) : motive visit := by
  induction hsize : sizeOf visit.node using Nat.strongRecOn generalizing visit with
  | ind size ih =>
    refine step visit fun below hbelow => ih (sizeOf below.node) ?_ below rfl
    rw [← hsize]
    exact Node.sizeOf_steps_lt hbelow

/-- All visits that printing a tree makes. -/
def Node.visits (node : Node) : List Visit :=
  (Visit.mk node none).visits

end TemplatePrinter
