import TemplatePrinter.Node.Build
import TemplatePrinter.Proofs.Printer.Erasure
import TemplatePrinter.Proofs.Tree.Equality
/-!
# Trees built step by step

A call node is started blank and then takes parameters, pairs and programs in any order. Steps of
different kinds do not meet: the parameters of the result are those of the parameter steps, in their
order, the pairs are those of the pair steps, and of the programs the last one stays. So the result
can be read off the steps without building anything, `Blank.filled`, and two builds whose steps are
the same kind by kind give the same node, however the kinds are mixed.
-/

namespace TemplatePrinter

/-! ### Steps -/

/-- One step of building a node. A node leaves out steps that make no sense for it. -/
inductive BuildStep where
  | param (node : Node)
  | pair (key : String) (value : Node)
  | main (program : Program)
  | inverse (program : Program)
  | unescaped

namespace BuildStep

inductive Kind where
  | param
  | pair
  | main
  | inverse
  | unescaped
deriving DecidableEq

def kind : BuildStep → Kind
  | .param _ => .param
  | .pair .. => .pair
  | .main _ => .main
  | .inverse _ => .inverse
  | .unescaped => .unescaped

/-- What a step makes of a node. -/
def apply (node : Node) : BuildStep → Node
  | .param added => node.addParam added
  | .pair key value => node.addPair key value
  | .main program => node.withMain program
  | .inverse program => node.withInverse program
  | .unescaped => node.unescaped

def param? : BuildStep → Option Node
  | .param node => some node
  | _ => none

def pair? : BuildStep → Option Pair
  | .pair key value => some ⟨key, value⟩
  | _ => none

def main? : BuildStep → Option Program
  | .main program => some program
  | _ => none

def inverse? : BuildStep → Option Program
  | .inverse program => some program
  | _ => none

/-- The nodes that a step brings along. -/
def nodes : BuildStep → List Node
  | .param node => [node]
  | .pair _ value => [value]
  | .main program | .inverse program => program.body
  | .unescaped => []

end BuildStep

/-- The node after all steps. -/
def Node.build (node : Node) (steps : List BuildStep) : Node :=
  steps.foldl BuildStep.apply node

/-! ### The result of a build -/

/-- How a call node is started. -/
inductive Blank where
  | mustache (path : String)
  | sub (path : String)
  | block (path : String)
  | partialTag (name : PartialName)
  | partialBlock (name : PartialName)

/-- The node before all steps. -/
def Blank.node : Blank → Node
  | .mustache path => .ofMustache path
  | .sub path => .ofSub path
  | .block path => .ofBlock path
  | .partialTag name => .ofPartial name
  | .partialBlock name => .ofPartialBlock name

/-- The arguments that steps give: all parameters and all pairs in order, and no list of pairs if no
step gives one. -/
def builtArguments (steps : List BuildStep) : Arguments :=
  ⟨steps.filterMap BuildStep.param?, nonemptyHash (steps.filterMap BuildStep.pair?)⟩

/-- The main program of a block, the last one that a step gives. -/
def builtMain (steps : List BuildStep) : Program :=
  (steps.filterMap BuildStep.main?).getLastD {}

/-- The inverse program of a block, the last one that a step gives. -/
def builtInverse (steps : List BuildStep) : Option Program :=
  (steps.filterMap BuildStep.inverse?).getLast?

/-- A mustache stays escaped until a step says otherwise. -/
def builtEscaped (steps : List BuildStep) : Bool :=
  steps.all (·.kind != .unescaped)

/-- The node that steps give, part by part. -/
def Blank.filled (steps : List BuildStep) : Blank → Node
  | .mustache path => .mustache path (builtArguments steps) (builtEscaped steps)
  | .sub path => .sub path (builtArguments steps)
  | .block path => .block ⟨path, builtArguments steps, builtMain steps, builtInverse steps⟩
  | .partialTag name => .partialTag name (builtArguments steps)
  | .partialBlock name => .partialBlock name (builtArguments steps) {}

/-! ### One step and all steps -/

/-- What a step makes of the arguments of a node. -/
def BuildStep.onArguments (args : Arguments) : BuildStep → Arguments
  | .param node => args.addParam node
  | .pair key value => args.addPair key value
  | _ => args

section Concat

variable (steps : List BuildStep) (step : BuildStep)

theorem builtArguments_concat :
    builtArguments (steps ++ [step]) = step.onArguments (builtArguments steps) := by
  have hhash : ∀ (pairs : List Pair) (pair : Pair),
      nonemptyHash (pairs ++ [pair]) = some (pairs ++ [pair]) := by
    intro pairs pair
    cases pairs <;> rfl
  simp only [builtArguments, List.filterMap_append]
  cases step with
  | param node =>
    simp only [List.filterMap_cons, List.filterMap_nil, BuildStep.param?, BuildStep.pair?,
      BuildStep.onArguments, Arguments.addParam, List.append_nil]
  | pair key value =>
    simp only [List.filterMap_cons, List.filterMap_nil, BuildStep.param?, BuildStep.pair?,
      BuildStep.onArguments, Arguments.addPair, pairs_nonemptyHash, List.append_nil, hhash]
  | _ =>
    simp only [List.filterMap_cons, List.filterMap_nil, BuildStep.param?, BuildStep.pair?,
      BuildStep.onArguments, List.append_nil]

theorem builtMain_concat :
    builtMain (steps ++ [step]) = step.main?.getD (builtMain steps) := by
  cases hmain : step.main? <;> simp [builtMain, hmain]

theorem builtInverse_concat :
    builtInverse (steps ++ [step]) = step.inverse?.or (builtInverse steps) := by
  cases hinverse : step.inverse? <;> simp [builtInverse, hinverse]

theorem builtEscaped_concat :
    builtEscaped (steps ++ [step]) = (step.kind != .unescaped && builtEscaped steps) := by
  simp [builtEscaped, Bool.and_comm]

/-- What the steps up to some point give is all that the next step changes. -/
theorem Blank.filled_concat (blank : Blank) :
    blank.filled (steps ++ [step]) = step.apply (blank.filled steps) := by
  cases blank with
  | mustache path =>
    rw [Blank.filled, builtArguments_concat, builtEscaped_concat]
    cases step <;> rfl
  | sub path =>
    rw [Blank.filled, builtArguments_concat]
    cases step <;> rfl
  | block path =>
    rw [Blank.filled, builtArguments_concat, builtMain_concat, builtInverse_concat]
    cases step <;> rfl
  | partialTag name =>
    rw [Blank.filled, builtArguments_concat]
    cases step <;> rfl
  | partialBlock name =>
    rw [Blank.filled, builtArguments_concat]
    cases step <;> rfl

end Concat

theorem Blank.filled_nil (blank : Blank) : blank.filled [] = blank.node := by
  cases blank <;> rfl

/-- Going on with a build from the point that some steps have led to. -/
theorem Blank.build_filled (blank : Blank) (before steps : List BuildStep) :
    (blank.filled before).build steps = blank.filled (before ++ steps) := by
  induction steps generalizing before with
  | nil => rw [List.append_nil, Node.build, List.foldl_nil]
  | cons step rest ih =>
    rw [Node.build, List.foldl_cons, ← Blank.filled_concat, ← Node.build, ih (before ++ [step]),
      List.append_assoc, List.singleton_append]

theorem Blank.build_node (blank : Blank) (steps : List BuildStep) :
    blank.node.build steps = blank.filled steps := by
  rw [← Blank.filled_nil, Blank.build_filled, List.nil_append]

/-! ### Steps kind by kind -/

/-- The same steps of every kind, in the same order. -/
def SameByKind (steps steps' : List BuildStep) : Prop :=
  ∀ kind, steps.filter (·.kind == kind) = steps'.filter (·.kind == kind)

namespace SameByKind

variable {steps steps' : List BuildStep}

/-- What is taken from steps of one kind alone is the same. -/
theorem filterMap_eq {α : Type} {part? : BuildStep → Option α} (hsame : SameByKind steps steps')
    (kind : BuildStep.Kind) (hpart : ∀ step, step.kind ≠ kind → part? step = none) :
    steps.filterMap part? = steps'.filterMap part? := by
  have hfilter : ∀ steps : List BuildStep,
      (steps.filter (·.kind == kind)).filterMap part? = steps.filterMap part? := by
    intro steps
    rw [List.filterMap_filter]
    congr 1
    funext step
    by_cases hkind : step.kind = kind
    · rw [if_pos (beq_iff_eq.mpr hkind)]
    · rw [if_neg (mt beq_iff_eq.mp hkind), hpart step hkind]
  rw [← hfilter steps, hsame kind, hfilter]

theorem builtArguments_eq (hsame : SameByKind steps steps') :
    builtArguments steps = builtArguments steps' := by
  have hparams : steps.filterMap BuildStep.param? = steps'.filterMap BuildStep.param? :=
    hsame.filterMap_eq (BuildStep.Kind.param) fun step h => by
      cases step <;> simp_all [BuildStep.kind, BuildStep.param?]
  have hpairs : steps.filterMap BuildStep.pair? = steps'.filterMap BuildStep.pair? :=
    hsame.filterMap_eq (BuildStep.Kind.pair) fun step h => by
      cases step <;> simp_all [BuildStep.kind, BuildStep.pair?]
  rw [builtArguments, hparams, hpairs, builtArguments]

theorem builtMain_eq (hsame : SameByKind steps steps') : builtMain steps = builtMain steps' := by
  have hmains : steps.filterMap BuildStep.main? = steps'.filterMap BuildStep.main? :=
    hsame.filterMap_eq (BuildStep.Kind.main) fun step h => by
      cases step <;> simp_all [BuildStep.kind, BuildStep.main?]
  rw [builtMain, hmains, builtMain]

theorem builtInverse_eq (hsame : SameByKind steps steps') :
    builtInverse steps = builtInverse steps' := by
  have hinverses : steps.filterMap BuildStep.inverse? = steps'.filterMap BuildStep.inverse? :=
    hsame.filterMap_eq (BuildStep.Kind.inverse) fun step h => by
      cases step <;> simp_all [BuildStep.kind, BuildStep.inverse?]
  rw [builtInverse, hinverses, builtInverse]

theorem builtEscaped_eq (hsame : SameByKind steps steps') :
    builtEscaped steps = builtEscaped steps' := by
  have hescaped : ∀ steps : List BuildStep,
      builtEscaped steps = (steps.filter (·.kind == .unescaped)).isEmpty := by
    intro steps
    rw [Bool.eq_iff_iff, List.isEmpty_iff, List.filter_eq_nil_iff]
    simp [builtEscaped]
  rw [hescaped, hsame, ← hescaped]

theorem filled_eq (hsame : SameByKind steps steps') (blank : Blank) :
    blank.filled steps = blank.filled steps' := by
  cases blank <;>
    simp only [Blank.filled, hsame.builtArguments_eq, hsame.builtMain_eq, hsame.builtInverse_eq,
      hsame.builtEscaped_eq]

end SameByKind

/-! ### Builds without NaNs -/

theorem Arguments.areNaNFree_addParam {args : Arguments} {param : Node}
    (hargs : AreNaNFree args.children) (hparam : param.NaNFree) :
    AreNaNFree (args.addParam param).children := by
  obtain ⟨params, hash⟩ := args
  have hpairs : Arguments.pairs ⟨params ++ [param], hash⟩ = Arguments.pairs ⟨params, hash⟩ := by
    cases hash <;> rfl
  simp only [Arguments.children, areNaNFree_append] at hargs
  simp only [Arguments.addParam, Arguments.children, hpairs, areNaNFree_append, areNaNFree_cons,
    areNaNFree_nil, and_true]
  exact ⟨⟨hargs.1, hparam⟩, hargs.2⟩

theorem Arguments.areNaNFree_addPair {args : Arguments} {key : String} {value : Node}
    (hargs : AreNaNFree args.children) (hvalue : value.NaNFree) :
    AreNaNFree (args.addPair key value).children := by
  have hchildren : (args.addPair key value).children = args.children ++ [value] := by
    simp only [Arguments.addPair, Arguments.children, Arguments.pairs, List.map_append,
      List.map_cons, List.map_nil, List.append_assoc]
  rw [hchildren, areNaNFree_append, areNaNFree_cons]
  exact ⟨hargs, hvalue, areNaNFree_nil⟩

theorem Node.naNFree_mapArguments {node : Node} (hnode : node.NaNFree)
    {f : Arguments → Arguments}
    (hf : ∀ args, AreNaNFree args.children → AreNaNFree (f args).children) :
    (node.mapArguments f).NaNFree := by
  cases node with
  | block block =>
    simp only [Node.mapArguments, Node.naNFree_iff, Node.isNotNaN, Node.children,
      areNaNFree_append, true_and] at hnode ⊢
    exact ⟨⟨hf _ hnode.1.1, hnode.1.2⟩, hnode.2⟩
  | mustache path args escaped | sub path args =>
    simp only [Node.mapArguments, Node.naNFree_iff, Node.isNotNaN, Node.children, true_and]
      at hnode ⊢
    exact hf args hnode
  | partialTag name args =>
    simp only [Node.mapArguments, Node.naNFree_iff, Node.isNotNaN, Node.children,
      areNaNFree_append, true_and] at hnode ⊢
    exact ⟨hnode.1, hf args hnode.2⟩
  | partialBlock name args fallback =>
    simp only [Node.mapArguments, Node.naNFree_iff, Node.isNotNaN, Node.children,
      areNaNFree_append, true_and] at hnode ⊢
    exact ⟨⟨hnode.1.1, hf args hnode.1.2⟩, hnode.2⟩
  | _ => exact hnode

theorem BuildStep.naNFree_apply {node : Node} (hnode : node.NaNFree) {step : BuildStep}
    (hstep : AreNaNFree step.nodes) : (step.apply node).NaNFree := by
  cases step with
  | param param =>
    exact Node.naNFree_mapArguments hnode fun args hargs =>
      Arguments.areNaNFree_addParam hargs (hstep param List.mem_cons_self)
  | pair key value =>
    exact Node.naNFree_mapArguments hnode fun args hargs =>
      Arguments.areNaNFree_addPair hargs (hstep value List.mem_cons_self)
  | main program =>
    cases node with
    | block block =>
      simp only [BuildStep.apply, Node.withMain, Node.naNFree_iff, Node.isNotNaN, Node.children,
        areNaNFree_append, true_and] at hnode ⊢
      exact ⟨⟨hnode.1.1, hstep⟩, hnode.2⟩
    | _ => exact hnode
  | inverse program =>
    cases node with
    | block block =>
      simp only [BuildStep.apply, Node.withInverse, Node.naNFree_iff, Node.isNotNaN,
        Node.children, areNaNFree_append, true_and] at hnode ⊢
      exact ⟨hnode.1, hstep⟩
    | _ => exact hnode
  | unescaped =>
    cases node with
    | mustache path args escaped =>
      simp only [BuildStep.apply, Node.unescaped, Node.naNFree_iff, Node.isNotNaN,
        Node.children, true_and] at hnode ⊢
      exact hnode
    | _ => exact hnode

theorem Node.naNFree_build {node : Node} (hnode : node.NaNFree) {steps : List BuildStep}
    (hsteps : ∀ step ∈ steps, AreNaNFree step.nodes) : (node.build steps).NaNFree := by
  induction steps generalizing node with
  | nil => exact hnode
  | cons step rest ih =>
    exact ih (step.naNFree_apply hnode (hsteps step List.mem_cons_self))
      fun other h => hsteps other (List.mem_cons_of_mem _ h)

/-! ### Builds -/

/-- **A build keeps the order of its steps within each kind and forgets it between kinds.** The
node has the parameters and the pairs of the steps in order, the last of their programs, and the
path or name that it was started with; so steps that are the same kind by kind build the same node,
which equals itself when no NaN went in, and the same text. -/
theorem build_eq_filled (blank : Blank) (steps : List BuildStep) :
    blank.node.build steps = blank.filled steps ∧
      ∀ steps', SameByKind steps steps' →
        blank.node.build steps = blank.node.build steps' ∧
          (∀ rule, (blank.node.build steps).text rule = (blank.node.build steps').text rule) ∧
          (blank.node.NaNFree → (∀ step ∈ steps, AreNaNFree step.nodes) →
            (blank.node.build steps).equals (blank.node.build steps')) := by
  refine ⟨blank.build_node steps, fun steps' hsame => ?_⟩
  have hbuild : blank.node.build steps = blank.node.build steps' := by
    rw [Blank.build_node, Blank.build_node, hsame.filled_eq]
  refine ⟨hbuild, fun rule => by rw [hbuild], fun hblank hsteps => ?_⟩
  rw [← hbuild, Node.equals_self_iff]
  exact Node.naNFree_build hblank hsteps

/-- A block with a key that occurs twice and a main program that another one replaces, built in two
orders. -/
theorem build_eq_filled_block :
    let items : Node := .path "items"
    let name : Node := .string "name"
    let one : Node := .number ⟨0x3ff0000000000000⟩
    let steps : List BuildStep := [.param items, .pair "by" name, .main ⟨[.content "a"], none⟩,
      .pair "by" one, .main ⟨[.content "b"], none⟩]
    let steps' : List BuildStep := [.pair "by" name, .main ⟨[.content "a"], none⟩,
      .main ⟨[.content "b"], none⟩, .pair "by" one, .param items]
    let built : Node := .block
      ⟨"each", ⟨[items], some [⟨"by", name⟩, ⟨"by", one⟩]⟩, ⟨[.content "b"], none⟩, none⟩
    SameByKind steps steps' ∧ (Node.ofBlock "each").build steps = built ∧
      (Node.ofBlock "each").build steps' = built ∧
      ((Node.ofBlock "each").build steps).equals ((Node.ofBlock "each").build steps') := by
  intro items name one steps steps' built
  have hsame : SameByKind steps steps' := by
    intro kind
    cases kind <;> rfl
  have hblank : (Node.ofBlock "each").NaNFree := by
    simp [Node.naNFree_iff, Node.ofBlock, Node.isNotNaN, Node.children, Arguments.children,
      Arguments.pairs, inverseBody]
  have hone : one.NaNFree := by
    rw [Node.naNFree_iff]
    exact ⟨by decide, areNaNFree_nil⟩
  have hsteps : ∀ step ∈ steps, AreNaNFree step.nodes := by
    simp [steps, BuildStep.nodes, hone, items, name, Node.naNFree_iff, Node.isNotNaN,
      Node.children]
  obtain ⟨hbuilt, hothers⟩ := build_eq_filled (.block "each") steps
  obtain ⟨heq, -, hequal⟩ := hothers steps' hsame
  exact ⟨hsame, hbuilt, heq.symm.trans hbuilt, hequal hblank hsteps⟩

end TemplatePrinter
