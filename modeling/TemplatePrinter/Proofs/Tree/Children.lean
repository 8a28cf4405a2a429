import TemplatePrinter.Node.Basic
/-!
# Children and induction

The nodes directly below a node, wherever it holds them: in a body, as a parameter, as the value
of a pair, or in the name of a partial. What holds of a node whenever it holds of its children
holds of every node, which is the induction that facts about whole trees go by.
-/

namespace TemplatePrinter

def Arguments.children (args : Arguments) : List Node :=
  args.params ++ args.pairs.map Pair.value

def PartialName.children : PartialName → List Node
  | .path _ => []
  | .sub _ args => args.children

/-- The statements of an inverse program, none when there is no such program. -/
def inverseBody : Option Program → List Node
  | none => []
  | some program => program.body

def Node.children : Node → List Node
  | .program p => p.body
  | .block b => b.args.children ++ b.main.body ++ inverseBody b.inverse
  | .mustache _ args _ => args.children
  | .sub _ args => args.children
  | .partialTag name args => name.children ++ args.children
  | .partialBlock name args fallback => name.children ++ args.children ++ fallback.body
  | _ => []

theorem Program.sizeOf_body_lt {program : Program} {child : Node} (hchild : child ∈ program.body) :
    sizeOf child < sizeOf program := by
  obtain ⟨body, names⟩ := program
  have hlt : sizeOf child < sizeOf body := List.sizeOf_lt_of_mem hchild
  simp only [Program.mk.sizeOf_spec]
  omega

theorem Arguments.sizeOf_children_lt {args : Arguments} {child : Node}
    (hchild : child ∈ args.children) : sizeOf child < sizeOf args := by
  obtain ⟨params, hash⟩ := args
  rcases List.mem_append.mp hchild with hchild | hchild
  · have hlt : sizeOf child < sizeOf params := List.sizeOf_lt_of_mem hchild
    simp only [Arguments.mk.sizeOf_spec]
    omega
  · obtain ⟨⟨key, value⟩, hpair, rfl⟩ := List.mem_map.mp hchild
    cases hash with
    | none => simp [Arguments.pairs] at hpair
    | some pairs =>
      have hlt : sizeOf (Pair.mk key value) < sizeOf pairs := List.sizeOf_lt_of_mem hpair
      simp only [Arguments.mk.sizeOf_spec, Option.some.sizeOf_spec, Pair.mk.sizeOf_spec] at hlt ⊢
      omega

theorem PartialName.sizeOf_children_lt {name : PartialName} {child : Node}
    (hchild : child ∈ name.children) : sizeOf child < sizeOf name := by
  cases name with
  | path text => simp [PartialName.children] at hchild
  | sub callee args =>
    have hlt := Arguments.sizeOf_children_lt hchild
    simp only [PartialName.sub.sizeOf_spec]
    omega

theorem sizeOf_inverseBody_lt {inverse : Option Program} {child : Node}
    (hchild : child ∈ inverseBody inverse) : sizeOf child < sizeOf inverse := by
  cases inverse with
  | none => simp [inverseBody] at hchild
  | some program =>
    have hlt := Program.sizeOf_body_lt hchild
    simp only [Option.some.sizeOf_spec]
    omega

theorem Node.sizeOf_children_lt {node child : Node} (hchild : child ∈ node.children) :
    sizeOf child < sizeOf node := by
  cases node with
  | program program =>
    have hlt := Program.sizeOf_body_lt hchild
    simp only [Node.program.sizeOf_spec]
    omega
  | block block =>
    obtain ⟨path, args, main, inverse⟩ := block
    simp only [Node.block.sizeOf_spec, Block.mk.sizeOf_spec]
    rcases List.mem_append.mp hchild with hchild | hchild
    · rcases List.mem_append.mp hchild with hchild | hchild
      · have hlt : sizeOf child < sizeOf args := Arguments.sizeOf_children_lt hchild
        omega
      · have hlt : sizeOf child < sizeOf main := Program.sizeOf_body_lt hchild
        omega
    · have hlt : sizeOf child < sizeOf inverse := sizeOf_inverseBody_lt hchild
      omega
  | mustache path args escaped =>
    have hlt := Arguments.sizeOf_children_lt hchild
    simp only [Node.mustache.sizeOf_spec]
    omega
  | sub callee args =>
    have hlt := Arguments.sizeOf_children_lt hchild
    simp only [Node.sub.sizeOf_spec]
    omega
  | partialTag name args =>
    simp only [Node.partialTag.sizeOf_spec]
    rcases List.mem_append.mp hchild with hchild | hchild
    · have hlt := PartialName.sizeOf_children_lt hchild
      omega
    · have hlt := Arguments.sizeOf_children_lt hchild
      omega
  | partialBlock name args fallback =>
    simp only [Node.partialBlock.sizeOf_spec]
    rcases List.mem_append.mp hchild with hchild | hchild
    · rcases List.mem_append.mp hchild with hchild | hchild
      · have hlt := PartialName.sizeOf_children_lt hchild
        omega
      · have hlt := Arguments.sizeOf_children_lt hchild
        omega
    · have hlt := Program.sizeOf_body_lt hchild
      omega
  | _ => simp [Node.children] at hchild

/-- What passes from the children of a node to the node holds of every node. -/
@[elab_as_elim]
theorem Node.childInduction {motive : Node → Prop}
    (step : ∀ node : Node, (∀ child ∈ node.children, motive child) → motive node) (node : Node) :
    motive node := by
  induction hsize : sizeOf node using Nat.strongRecOn generalizing node with
  | ind size ih =>
    refine step node fun child hchild => ih (sizeOf child) ?_ child rfl
    rw [← hsize]
    exact Node.sizeOf_children_lt hchild

end TemplatePrinter
