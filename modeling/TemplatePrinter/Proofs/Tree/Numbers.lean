import TemplatePrinter.Proofs.Tree.Nodes
/-!
# The numbers of a tree

A function on numbers can be run over a tree. The nodes of the new tree are the images of the nodes
of the old one, and a function that leaves the numbers of a tree alone leaves the tree alone. A tree
without NaNs is one whose numbers all equal themselves.
-/

namespace TemplatePrinter

/-! ### A function on the numbers -/

mutual

/-- The tree with a function run over its numbers. -/
def Node.mapNumbers (f : Binary64 → Binary64) : Node → Node
  | .program p => .program (p.mapNumbers f)
  | .block b => .block (b.mapNumbers f)
  | .mustache path args escaped => .mustache path (args.mapNumbers f) escaped
  | .content text => .content text
  | .comment text => .comment text
  | .path text => .path text
  | .sub callee args => .sub callee (args.mapNumbers f)
  | .partialTag name args => .partialTag (name.mapNumbers f) (args.mapNumbers f)
  | .partialBlock name args fallback =>
    .partialBlock (name.mapNumbers f) (args.mapNumbers f) (fallback.mapNumbers f)
  | .string value => .string value
  | .number value => .number (f value)
  | .boolean value => .boolean value
  | .undefined => .undefined
  | .null => .null
  | .unknown => .unknown

def Program.mapNumbers (f : Binary64 → Binary64) : Program → Program
  | ⟨body, names⟩ => ⟨mapNumbersOf f body, names⟩

def Block.mapNumbers (f : Binary64 → Binary64) : Block → Block
  | ⟨path, args, main, inverse⟩ =>
    ⟨path, args.mapNumbers f, main.mapNumbers f, mapInverseNumbers f inverse⟩

def Arguments.mapNumbers (f : Binary64 → Binary64) : Arguments → Arguments
  | ⟨params, none⟩ => ⟨mapNumbersOf f params, none⟩
  | ⟨params, some pairs⟩ => ⟨mapNumbersOf f params, some (mapPairNumbers f pairs)⟩

def PartialName.mapNumbers (f : Binary64 → Binary64) : PartialName → PartialName
  | .path text => .path text
  | .sub callee args => .sub callee (args.mapNumbers f)

def mapInverseNumbers (f : Binary64 → Binary64) : Option Program → Option Program
  | none => none
  | some program => some (program.mapNumbers f)

def mapNumbersOf (f : Binary64 → Binary64) : List Node → List Node
  | [] => []
  | node :: rest => node.mapNumbers f :: mapNumbersOf f rest

def mapPairNumbers (f : Binary64 → Binary64) : List Pair → List Pair
  | [] => []
  | ⟨key, value⟩ :: rest => ⟨key, value.mapNumbers f⟩ :: mapPairNumbers f rest

end

section Equations

attribute [local simp] Node.mapNumbers Program.mapNumbers Block.mapNumbers Arguments.mapNumbers
  PartialName.mapNumbers mapInverseNumbers mapNumbersOf mapPairNumbers

theorem mapNumbersOf_eq_map (f : Binary64 → Binary64) (nodes : List Node) :
    mapNumbersOf f nodes = nodes.map (Node.mapNumbers f) := by
  induction nodes with
  | nil => rfl
  | cons node rest ih => simp [ih]

theorem Program.body_mapNumbers (f : Binary64 → Binary64) (program : Program) :
    (program.mapNumbers f).body = program.body.map (Node.mapNumbers f) := by
  obtain ⟨body, names⟩ := program
  exact mapNumbersOf_eq_map f body

theorem Arguments.children_mapNumbers (f : Binary64 → Binary64) (args : Arguments) :
    (args.mapNumbers f).children = args.children.map (Node.mapNumbers f) := by
  have hpairs : ∀ pairs : List Pair, (mapPairNumbers f pairs).map Pair.value =
      (pairs.map Pair.value).map (Node.mapNumbers f) := by
    intro pairs
    induction pairs with
    | nil => rfl
    | cons pair rest ih =>
      obtain ⟨key, value⟩ := pair
      simp [ih]
  obtain ⟨params, hash⟩ := args
  cases hash with
  | none => simp [Arguments.children, Arguments.pairs, mapNumbersOf_eq_map]
  | some pairs => simp [Arguments.children, Arguments.pairs, mapNumbersOf_eq_map, hpairs]

end Equations

theorem PartialName.children_mapNumbers (f : Binary64 → Binary64) (name : PartialName) :
    (name.mapNumbers f).children = name.children.map (Node.mapNumbers f) := by
  cases name with
  | path text => rfl
  | sub callee args => exact args.children_mapNumbers f

theorem inverseBody_mapNumbers (f : Binary64 → Binary64) (inverse : Option Program) :
    inverseBody (mapInverseNumbers f inverse) = (inverseBody inverse).map (Node.mapNumbers f) := by
  cases inverse with
  | none => rfl
  | some program => exact program.body_mapNumbers f

theorem Node.children_mapNumbers (f : Binary64 → Binary64) (node : Node) :
    (node.mapNumbers f).children = node.children.map (Node.mapNumbers f) := by
  cases node with
  | program program => exact program.body_mapNumbers f
  | block block =>
    obtain ⟨path, args, main, inverse⟩ := block
    simp only [Node.mapNumbers, Block.mapNumbers, Node.children, Arguments.children_mapNumbers,
      Program.body_mapNumbers, inverseBody_mapNumbers, List.map_append]
  | mustache path args escaped => exact args.children_mapNumbers f
  | sub callee args => exact args.children_mapNumbers f
  | partialTag name args =>
    simp only [Node.mapNumbers, Node.children, Arguments.children_mapNumbers,
      PartialName.children_mapNumbers, List.map_append]
  | partialBlock name args fallback =>
    simp only [Node.mapNumbers, Node.children, Arguments.children_mapNumbers,
      PartialName.children_mapNumbers, Program.body_mapNumbers, List.map_append]
  | _ => rfl

theorem Node.nodes_mapNumbers (f : Binary64 → Binary64) (node : Node) :
    (node.mapNumbers f).nodes = node.nodes.map (Node.mapNumbers f) := by
  induction node using Node.childInduction with
  | step node ih =>
    have hbelow : (node.children.map fun child => (child.mapNumbers f).nodes) =
        node.children.map fun child => child.nodes.map (Node.mapNumbers f) :=
      List.map_congr_left ih
    rw [Node.nodes_eq, Node.nodes_eq, Node.children_mapNumbers, List.map_cons, List.flatMap_map,
      List.map_flatMap, List.flatMap_def, List.flatMap_def, hbelow]

section Fixed

variable {f : Binary64 → Binary64}

theorem mapNumbersOf_eq_self {nodes : List Node}
    (hnodes : ∀ node ∈ nodes, node.mapNumbers f = node) : mapNumbersOf f nodes = nodes := by
  rw [mapNumbersOf_eq_map, List.map_congr_left (g := id) hnodes, List.map_id]

theorem Program.mapNumbers_eq_self {program : Program}
    (hbody : ∀ node ∈ program.body, node.mapNumbers f = node) : program.mapNumbers f = program := by
  obtain ⟨body, names⟩ := program
  rw [Program.mapNumbers, mapNumbersOf_eq_self hbody]

theorem mapInverseNumbers_eq_self {inverse : Option Program}
    (hinverse : ∀ node ∈ inverseBody inverse, node.mapNumbers f = node) :
    mapInverseNumbers f inverse = inverse := by
  cases inverse with
  | none => rfl
  | some program => rw [mapInverseNumbers, Program.mapNumbers_eq_self hinverse]

theorem Arguments.mapNumbers_eq_self {args : Arguments}
    (hargs : ∀ child ∈ args.children, child.mapNumbers f = child) : args.mapNumbers f = args := by
  have hpairs : ∀ pairs : List Pair, (∀ pair ∈ pairs, pair.value.mapNumbers f = pair.value) →
      mapPairNumbers f pairs = pairs := by
    intro pairs hvalues
    induction pairs with
    | nil => rfl
    | cons pair rest ih =>
      obtain ⟨key, value⟩ := pair
      have hvalue : value.mapNumbers f = value := hvalues ⟨key, value⟩ List.mem_cons_self
      rw [mapPairNumbers, hvalue, ih fun other h => hvalues other (List.mem_cons_of_mem _ h)]
  obtain ⟨params, hash⟩ := args
  have hparams := mapNumbersOf_eq_self fun param h => hargs param (List.mem_append_left _ h)
  cases hash with
  | none => rw [Arguments.mapNumbers, hparams]
  | some pairs =>
    rw [Arguments.mapNumbers, hparams, hpairs pairs fun pair h =>
      hargs _ (List.mem_append_right _ (List.mem_map_of_mem h))]

theorem PartialName.mapNumbers_eq_self {name : PartialName}
    (hname : ∀ child ∈ name.children, child.mapNumbers f = child) : name.mapNumbers f = name := by
  cases name with
  | path text => rfl
  | sub callee args => rw [PartialName.mapNumbers, Arguments.mapNumbers_eq_self hname]

theorem Node.mapNumbers_eq_self {node : Node}
    (hnumbers : ∀ value, .number value ∈ node.nodes → f value = value) :
    node.mapNumbers f = node := by
  induction node using Node.childInduction with
  | step node ih =>
    have hchildren : ∀ child ∈ node.children, child.mapNumbers f = child := fun child hchild =>
      ih child hchild fun value h => hnumbers value (Node.mem_nodes_of_child hchild h)
    cases node with
    | program program => rw [Node.mapNumbers, Program.mapNumbers_eq_self hchildren]
    | block block =>
      obtain ⟨path, args, main, inverse⟩ := block
      rw [Node.mapNumbers, Block.mapNumbers,
        Arguments.mapNumbers_eq_self fun child h =>
          hchildren child (List.mem_append_left _ (List.mem_append_left _ h)),
        Program.mapNumbers_eq_self fun child h =>
          hchildren child (List.mem_append_left _ (List.mem_append_right _ h)),
        mapInverseNumbers_eq_self fun child h => hchildren child (List.mem_append_right _ h)]
    | mustache path args escaped =>
      rw [Node.mapNumbers, Arguments.mapNumbers_eq_self hchildren]
    | sub callee args => rw [Node.mapNumbers, Arguments.mapNumbers_eq_self hchildren]
    | partialTag name args =>
      rw [Node.mapNumbers,
        PartialName.mapNumbers_eq_self fun child h => hchildren child (List.mem_append_left _ h),
        Arguments.mapNumbers_eq_self fun child h => hchildren child (List.mem_append_right _ h)]
    | partialBlock name args fallback =>
      rw [Node.mapNumbers,
        PartialName.mapNumbers_eq_self fun child h =>
          hchildren child (List.mem_append_left _ (List.mem_append_left _ h)),
        Arguments.mapNumbers_eq_self fun child h =>
          hchildren child (List.mem_append_left _ (List.mem_append_right _ h)),
        Program.mapNumbers_eq_self fun child h => hchildren child (List.mem_append_right _ h)]
    | number value => rw [Node.mapNumbers, hnumbers value (Node.mem_nodes_self _)]
    | _ => rw [Node.mapNumbers]

end Fixed

/-! ### Trees without NaNs -/

/-- No number of the tree is a NaN. -/
def Node.NaNFree (node : Node) : Prop :=
  ∀ value, .number value ∈ node.nodes → value.isNaN = false

def AreNaNFree (nodes : List Node) : Prop :=
  ∀ node ∈ nodes, node.NaNFree

/-- Whether a node is not itself a NaN. -/
def Node.isNotNaN : Node → Bool
  | .number value => !value.isNaN
  | _ => true

theorem Node.naNFree_iff {node : Node} :
    node.NaNFree ↔ node.isNotNaN ∧ AreNaNFree node.children := by
  have hown : ∀ inner : Node,
      inner.isNotNaN ↔ ∀ value, inner = .number value → value.isNaN = false := by
    intro inner
    cases inner <;> simp [Node.isNotNaN]
  have hall : ∀ tree : Node, tree.NaNFree ↔ ∀ inner ∈ tree.nodes, inner.isNotNaN := by
    intro tree
    constructor
    · intro htree inner hinner
      exact (hown inner).mpr fun value hvalue => htree value (hvalue ▸ hinner)
    · intro htree value hvalue
      exact (hown _).mp (htree _ hvalue) value rfl
  simp only [AreNaNFree, hall]
  exact Node.forall_mem_nodes

@[simp] theorem areNaNFree_nil : AreNaNFree [] := by simp [AreNaNFree]

@[simp] theorem areNaNFree_cons {node : Node} {rest : List Node} :
    AreNaNFree (node :: rest) ↔ node.NaNFree ∧ AreNaNFree rest := List.forall_mem_cons

@[simp] theorem areNaNFree_append {left right : List Node} :
    AreNaNFree (left ++ right) ↔ AreNaNFree left ∧ AreNaNFree right := List.forall_mem_append

end TemplatePrinter
