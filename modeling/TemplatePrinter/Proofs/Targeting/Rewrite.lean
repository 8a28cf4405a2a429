import TemplatePrinter.Proofs.Printer.Text
import TemplatePrinter.Proofs.Tree.Children
/-!
# Targeting as a rewriting of trees

A printer with a rule works in one pass: it threads the rule through the tree and passes the text
of an argument through the modifiers when it gets there. The same text comes out of two passes:
first the tree is rewritten from the bottom up, each argument that the rule picks giving way to a
path with its modified text, and then the new tree is printed without a rule.

A call that computes the name of a partial keeps its own arguments, as the printer leaves them
alone; the arguments of these are rewritten like any other.
-/

namespace TemplatePrinter

/-! ### The rewriting -/

namespace Rule

/-- What stands in the place of an argument: a call gives way to a path with its text after all
modifiers, the first of them first. -/
def replaceCall (rule : Rule) : Node → Node
  | .sub callee args =>
    .path (rule.modifiers.foldl (fun text modifier => modifier text)
      ((Node.sub callee args).text none))
  | other => other

/-- The arguments of a call with the parameter at the position of the rule replaced. -/
def replaceParam (rule : Rule) (callee : String) (args : Arguments) : Arguments :=
  if rule.paramKind = .sub ∧ callee = rule.helper then
    { args with params := args.params.modify (rule.position - 1) rule.replaceCall }
  else args

end Rule

mutual

def Node.rewrite (rule : Rule) : Node → Node
  | .program p => .program (p.rewrite rule)
  | .block b => .block (b.rewrite rule)
  | .mustache path args escaped => .mustache path (args.rewrite rule) escaped
  | .sub callee args => .sub callee (rule.replaceParam callee (args.rewrite rule))
  | .partialTag name args => .partialTag (name.rewrite rule) (args.rewrite rule)
  | .partialBlock name args fallback =>
    .partialBlock (name.rewrite rule) (args.rewrite rule) (fallback.rewrite rule)
  | .content text => .content text
  | .comment text => .comment text
  | .path text => .path text
  | .string value => .string value
  | .number value => .number value
  | .boolean value => .boolean value
  | .undefined => .undefined
  | .null => .null
  | .unknown => .unknown

def Program.rewrite (rule : Rule) : Program → Program
  | ⟨body, names⟩ => ⟨rewriteNodes rule body, names⟩

def Block.rewrite (rule : Rule) : Block → Block
  | ⟨path, args, main, inverse⟩ =>
    ⟨path, args.rewrite rule, main.rewrite rule, rewriteInverse rule inverse⟩

def Arguments.rewrite (rule : Rule) : Arguments → Arguments
  | ⟨params, hash⟩ => ⟨rewriteNodes rule params, rewriteHash rule hash⟩

def PartialName.rewrite (rule : Rule) : PartialName → PartialName
  | .path text => .path text
  | .sub callee args => .sub callee (args.rewrite rule)

def rewriteInverse (rule : Rule) : Option Program → Option Program
  | none => none
  | some program => some (program.rewrite rule)

def rewriteHash (rule : Rule) : Option (List Pair) → Option (List Pair)
  | none => none
  | some pairs => some (rewritePairs rule pairs)

def rewriteNodes (rule : Rule) : List Node → List Node
  | [] => []
  | node :: rest => node.rewrite rule :: rewriteNodes rule rest

def rewritePairs (rule : Rule) : List Pair → List Pair
  | [] => []
  | ⟨key, value⟩ :: rest => ⟨key, value.rewrite rule⟩ :: rewritePairs rule rest

end

/-! ### What the rewriting leaves alone -/

section Equations

attribute [local simp] Node.rewrite Program.rewrite Block.rewrite Arguments.rewrite
  PartialName.rewrite rewriteInverse rewriteHash rewriteNodes rewritePairs

@[simp] theorem Node.kind?_rewrite (rule : Rule) (node : Node) :
    (node.rewrite rule).kind? = node.kind? := by
  cases node <;> simp [Node.kind?]

@[simp] theorem Node.isBlock_rewrite (rule : Rule) (node : Node) :
    (node.rewrite rule).isBlock = node.isBlock := by
  cases node <;> simp [Node.isBlock]

@[simp] theorem Node.rawValue_rewrite (rule : Rule) (node : Node) :
    (node.rewrite rule).rawValue = node.rawValue := by
  cases node <;> simp [Node.rawValue]

theorem rewriteNodes_eq_map (rule : Rule) (nodes : List Node) :
    rewriteNodes rule nodes = nodes.map (Node.rewrite rule) := by
  induction nodes with
  | nil => rfl
  | cons node rest ih => simp [ih]

theorem Arguments.params_rewrite (rule : Rule) (args : Arguments) :
    (args.rewrite rule).params = args.params.map (Node.rewrite rule) := by
  obtain ⟨params, hash⟩ := args
  exact rewriteNodes_eq_map rule params

theorem Arguments.pairs_rewrite (rule : Rule) (args : Arguments) :
    (args.rewrite rule).pairs = args.pairs.map fun pair => ⟨pair.key, pair.value.rewrite rule⟩ := by
  have hpairs : ∀ pairs : List Pair,
      rewritePairs rule pairs = pairs.map fun pair => ⟨pair.key, pair.value.rewrite rule⟩ := by
    intro pairs
    induction pairs with
    | nil => rfl
    | cons pair rest ih =>
      obtain ⟨key, value⟩ := pair
      simp [ih]
  obtain ⟨params, hash⟩ := args
  cases hash with
  | none => rfl
  | some pairs => exact hpairs pairs

theorem Rule.pairs_replaceParam (rule : Rule) (callee : String) (args : Arguments) :
    (rule.replaceParam callee args).pairs = args.pairs := by
  obtain ⟨params, hash⟩ := args
  unfold Rule.replaceParam
  split <;> cases hash <;> rfl

@[simp] theorem Block.path_rewrite (rule : Rule) (block : Block) :
    (block.rewrite rule).path = block.path := by
  obtain ⟨path, args, main, inverse⟩ := block
  rfl

theorem blockParams_rewrite (rule : Rule) (main : Program) :
    Delimiter.blockParams (main.rewrite rule) = Delimiter.blockParams main := by
  obtain ⟨body, names⟩ := main
  rfl

end Equations

/-! ### The text of the rewritten parts -/

/-- The two ways to print a tree with a rule agree on the tree. -/
def Rule.Agrees (rule : Rule) (node : Node) : Prop :=
  (node.rewrite rule).text none = node.text (some rule)

theorem Rule.text_replaceCall (rule : Rule) (node : Node) :
    (rule.replaceCall node).text none =
      if node.kind? = some .sub then rule.apply (node.text none) else node.text none := by
  cases node <;> simp [Rule.replaceCall, Rule.apply, Node.kind?]

/-- The text of an argument after the rewriting of its call: modified exactly when the rule picks
the argument. -/
theorem Rule.text_argument (rule : Rule) (callee : String) (i : Nat) {param : Node}
    (hparam : rule.Agrees param) :
    (if rule.paramKind = .sub ∧ callee = rule.helper ∧ rule.position - 1 = i then
      rule.replaceCall (param.rewrite rule) else param.rewrite rule).text none =
        argumentText (some rule) (some callee) (i + 1) param := by
  unfold Rule.Agrees at hparam
  have hposition : rule.position - 1 = i ↔ rule.position = i + 1 := by
    have := rule.position_pos
    omega
  have hselects : rule.selects callee (i + 1) param ↔
      (rule.paramKind = .sub ∧ callee = rule.helper ∧ rule.position - 1 = i) ∧
        param.kind? = some .sub := by
    rw [Rule.selects_iff, hposition]
    constructor
    · rintro ⟨hkind, hi, hsub, hhelper⟩
      exact ⟨⟨hkind, hhelper.symm, hi⟩, hsub⟩
    · rintro ⟨⟨hkind, hhelper, hi⟩, hsub⟩
      exact ⟨hkind, hi, hsub, hhelper.symm⟩
  by_cases hchosen : rule.paramKind = .sub ∧ callee = rule.helper ∧ rule.position - 1 = i
  · rw [if_pos hchosen, Rule.text_replaceCall, Node.kind?_rewrite, hparam, argumentText, selected?]
    by_cases hkind : param.kind? = some .sub
    · rw [if_pos hkind, if_pos (hselects.mpr ⟨hchosen, hkind⟩)]
    · rw [if_neg hkind, if_neg (fun h => hkind (hselects.mp h).2)]
  · rw [if_neg hchosen, hparam, argumentText, selected?, if_neg (fun h => hchosen (hselects.mp h).1)]

theorem Rule.paramsText_replaceParam (rule : Rule) (callee : String) (args : Arguments)
    (hparams : ∀ param ∈ args.params, rule.Agrees param) :
    paramsText none (some callee) (rule.replaceParam callee (args.rewrite rule)).params =
      paramsText (some rule) (some callee) args.params := by
  have htexts : ((rule.replaceParam callee (args.rewrite rule)).params.map fun param =>
        param.text none) =
      args.params.mapIdx fun i param => argumentText (some rule) (some callee) (i + 1) param := by
    refine (List.mapIdx_eq_iff.mpr fun i => ?_).symm
    have hrewritten : (rule.replaceParam callee (args.rewrite rule)).params[i]? =
        args.params[i]?.map fun param =>
          if rule.paramKind = .sub ∧ callee = rule.helper ∧ rule.position - 1 = i then
            rule.replaceCall (param.rewrite rule) else param.rewrite rule := by
      unfold Rule.replaceParam
      by_cases hcall : rule.paramKind = .sub ∧ callee = rule.helper
      · rw [if_pos hcall]
        simp only [List.getElem?_modify, Arguments.params_rewrite, List.getElem?_map, hcall,
          true_and]
        cases args.params[i]? <;> simp
      · rw [if_neg hcall, Arguments.params_rewrite, List.getElem?_map]
        simp only [← and_assoc, hcall, false_and, if_false]
    rw [List.getElem?_map, hrewritten, Option.map_map]
    refine Option.map_congr fun param hparam => ?_
    exact rule.text_argument callee i (hparams param (List.mem_of_getElem? hparam))
  rw [paramsText_untargeted, htexts, paramsText]

section Parts

variable {rule : Rule}

/-- The arguments of a statement. No rule picks any of them, but calls in them may be rewritten. -/
theorem Arguments.text_rewrite {args : Arguments}
    (hargs : ∀ child ∈ args.children, rule.Agrees child) :
    (args.rewrite rule).text none = args.text (some rule) := by
  have hparams : (args.params.map fun param => (param.rewrite rule).text none) =
      args.params.map fun param => param.text (some rule) :=
    List.map_congr_left fun param hparam => hargs param (List.mem_append_left _ hparam)
  have hpairs : pairsText (fun value => value.text none)
        (args.pairs.map fun pair => ⟨pair.key, pair.value.rewrite rule⟩) =
      pairsText (fun value => value.text (some rule)) args.pairs :=
    pairsText_map fun pair hpair =>
      hargs pair.value (List.mem_append_right _ (List.mem_map_of_mem hpair))
  rw [Arguments.text_eq, Arguments.pairs_rewrite, hpairs]
  simp only [Arguments.text_eq, paramsText_uncalled, Arguments.params_rewrite, List.map_map,
    Function.comp_def, hparams]

theorem PartialName.text_rewrite {name : PartialName}
    (hname : ∀ child ∈ name.children, rule.Agrees child) :
    (name.rewrite rule).text none = name.text (some rule) := by
  cases name with
  | path text => rfl
  | sub callee args =>
    have hparams : (args.params.map fun param => (param.rewrite rule).text none) =
        args.params.map fun param => param.text (some rule) :=
      List.map_congr_left fun param hparam => hname param (List.mem_append_left _ hparam)
    simp only [PartialName.rewrite, PartialName.text_sub, paramsText_uncalled,
      Arguments.params_rewrite, List.map_map, Function.comp_def, hparams]

/-- A call. The values of its pairs are written as they are, and no rewriting reaches them. -/
theorem Node.agrees_sub {callee : String} {args : Arguments}
    (hargs : ∀ child ∈ args.children, rule.Agrees child) : rule.Agrees (.sub callee args) := by
  have hparams : ∀ param ∈ args.params, rule.Agrees param :=
    fun param hparam => hargs param (List.mem_append_left _ hparam)
  rw [Rule.Agrees, Node.rewrite, Node.text_sub, Node.text_sub,
    rule.paramsText_replaceParam callee args hparams, Rule.pairs_replaceParam,
    Arguments.pairs_rewrite]
  simp only [pairsText, List.map_map, Function.comp_def, Node.rawValue_rewrite]

theorem bodyText_rewrite {body : List Node} (hbody : ∀ child ∈ body, rule.Agrees child) :
    bodyText none (rewriteNodes rule body) = bodyText (some rule) body := by
  rw [rewriteNodes_eq_map, bodyText_map hbody]

theorem clauseText_rewrite {path : String} {args : Arguments} {main : Program}
    (hargs : ∀ child ∈ args.children, rule.Agrees child)
    (hmain : ∀ child ∈ main.body, rule.Agrees child) :
    clauseText none path (args.rewrite rule) (main.rewrite rule) =
      clauseText (some rule) path args main := by
  obtain ⟨body, names⟩ := main
  have hbody : bodyText none (rewriteNodes rule body) = bodyText (some rule) body :=
    bodyText_rewrite hmain
  rw [clauseText, clauseText, Arguments.text_rewrite hargs, blockParams_rewrite, Program.rewrite,
    hbody]

/-- The first statement of an inverse program is a block before the rewriting if and only if it is
one after it, so the rewriting keeps the else chain. -/
theorem elseText_rewrite {inverse : Option Program}
    (hinverse : ∀ child ∈ inverseBody inverse, rule.Agrees child) :
    elseText none (rewriteInverse rule inverse) = elseText (some rule) inverse := by
  match inverse with
  | none => rfl
  | some ⟨[], names⟩ => rfl
  | some ⟨node :: rest, names⟩ =>
    have hnode : rule.Agrees node := hinverse node List.mem_cons_self
    have hbody : bodyText none (rewriteNodes rule (node :: rest)) = _ := bodyText_rewrite hinverse
    rw [rewriteInverse, Program.rewrite]
    cases hblock : node.isBlock with
    | true =>
      cases node with
      | block block =>
        rw [Rule.Agrees, Node.rewrite] at hnode
        rw [rewriteNodes, Node.rewrite, elseText_chained, elseText_chained,
          Block.insideText_eq_of_text_eq (Block.path_rewrite rule block) hnode]
      | _ => cases hblock
    | false =>
      have hfirst : ∀ first ∈ (node :: rest).head?, first.isBlock = false := by
        simpa using hblock
      have hfirst' : ∀ first ∈ (rewriteNodes rule (node :: rest)).head?, first.isBlock = false := by
        simpa [rewriteNodes, Node.isBlock_rewrite] using hblock
      rw [elseText_final none ⟨rewriteNodes rule (node :: rest), names⟩ hfirst', hbody,
        elseText_final (some rule) ⟨node :: rest, names⟩ hfirst]

theorem Node.agrees_block {block : Block}
    (hblock : ∀ child ∈ (Node.block block).children, rule.Agrees child) :
    rule.Agrees (.block block) := by
  obtain ⟨path, args, main, inverse⟩ := block
  have hclause : clauseText none path (args.rewrite rule) (main.rewrite rule) =
      clauseText (some rule) path args main :=
    clauseText_rewrite
      (fun child hchild => hblock child (List.mem_append_left _ (List.mem_append_left _ hchild)))
      fun child hchild => hblock child (List.mem_append_left _ (List.mem_append_right _ hchild))
  have helse : elseText none (rewriteInverse rule inverse) = elseText (some rule) inverse :=
    elseText_rewrite fun child hchild => hblock child (List.mem_append_right _ hchild)
  rw [Rule.Agrees, Node.rewrite, Block.rewrite, Node.text_block, Node.text_block,
    Block.insideText, Block.insideText, hclause, helse]

end Parts

/-! ### One pass and two passes -/

/-- **Printing with a rule is rewriting the tree and printing it without.** -/
theorem text_eq_text_rewrite (rule : Rule) (node : Node) :
    node.text (some rule) = (node.rewrite rule).text none := by
  suffices hagrees : rule.Agrees node from hagrees.symm
  induction node using Node.childInduction with
  | step node ih =>
    cases node with
    | program program =>
      obtain ⟨body, names⟩ := program
      rw [Rule.Agrees, Node.rewrite, Program.rewrite, Node.text_program, Node.text_program]
      exact bodyText_rewrite ih
    | block block => exact Node.agrees_block ih
    | mustache path args escaped =>
      rw [Rule.Agrees, Node.rewrite, Node.text_mustache, Node.text_mustache,
        Arguments.text_rewrite ih]
    | sub callee args => exact Node.agrees_sub ih
    | partialTag name args =>
      rw [Rule.Agrees, Node.rewrite, Node.text_partialTag, Node.text_partialTag,
        PartialName.text_rewrite fun child hchild => ih child (List.mem_append_left _ hchild),
        Arguments.text_rewrite fun child hchild => ih child (List.mem_append_right _ hchild)]
    | partialBlock name args fallback =>
      rw [Rule.Agrees, Node.rewrite, Node.text_partialBlock, Node.text_partialBlock,
        PartialName.text_rewrite fun child hchild =>
          ih child (List.mem_append_left _ (List.mem_append_left _ hchild)),
        Arguments.text_rewrite fun child hchild =>
          ih child (List.mem_append_left _ (List.mem_append_right _ hchild))]
    | _ => simp [Rule.Agrees, Node.rewrite]

end TemplatePrinter
