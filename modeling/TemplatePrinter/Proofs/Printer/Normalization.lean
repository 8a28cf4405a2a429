import TemplatePrinter.Proofs.Grammar.Basic
import TemplatePrinter.Proofs.Tree.Nodes
/-!
# Normalization of bodies

Different bodies may print alike: a statement of unknown kind leaves no text, a program stands for
its statements, and two contents in a row print like one. Normalization drops, splices and merges
such statements in every body of a tree. It keeps the text under every rule, and no body is left
with anything to drop, splice or merge.

The first statement of an inverse program has to stay in place, whatever it is. A block there turns
the program into a clause of the chain, and would do so too if it came there from behind a statement
that is dropped or out of a program that is spliced.
-/

namespace TemplatePrinter

/-! ### Bodies -/

/-- The statements that stand for a statement in a body. -/
def Node.spliced : Node → List Node
  | .program p => p.body
  | .unknown => []
  | other => [other]

/-- A statement in front of others, merged with the first of them if both are content. -/
def consMerged : Node → List Node → List Node
  | .content text, .content next :: rest => .content (text ++ next) :: rest
  | node, rest => node :: rest

/-- The body with nothing left to drop, splice or merge, if the programs in it have such bodies
themselves. -/
def flattened (body : List Node) : List Node :=
  (body.flatMap Node.spliced).foldr consMerged []

/-- Whether a statement stands for itself in a body. -/
def Node.isSingle : Node → Bool
  | .program _ | .unknown => false
  | _ => true

/-- Whether a body has nothing to drop, splice or merge. -/
def isFlat : List Node → Bool
  | [] => true
  | node :: rest =>
    node.isSingle && isFlat rest && !(node.isContent && startsWith Node.isContent rest)

@[simp] theorem bodyText_spliced (rule : Option Rule) (node : Node) :
    bodyText rule node.spliced = node.text rule := by
  cases node with
  | program program => exact (Node.text_program program rule).symm
  | unknown => exact (Node.text_unknown rule).symm
  | _ => exact (bodyText_cons rule _ []).trans String.append_empty

@[simp] theorem bodyText_consMerged (rule : Option Rule) (node : Node) (rest : List Node) :
    bodyText rule (consMerged node rest) = node.text rule ++ bodyText rule rest := by
  unfold consMerged
  split
  · simp only [bodyText_cons, Node.text_content, String.append_assoc]
  · exact bodyText_cons rule node rest

@[simp] theorem bodyText_flattened (rule : Option Rule) (body : List Node) :
    bodyText rule (flattened body) = bodyText rule body := by
  have hmerged : ∀ body : List Node,
      bodyText rule (body.foldr consMerged []) = bodyText rule body := by
    intro body
    induction body with
    | nil => rfl
    | cons node rest ih => rw [List.foldr_cons, bodyText_consMerged, ih, bodyText_cons]
  rw [flattened, hmerged]
  induction body with
  | nil => rfl
  | cons node rest ih =>
    rw [List.flatMap_cons, bodyText_append, bodyText_spliced, ih, bodyText_cons]

theorem isSingle_of_isFlat {body : List Node} (hbody : isFlat body) :
    ∀ node ∈ body, node.isSingle := by
  induction body with
  | nil => simp
  | cons node rest ih =>
    simp only [isFlat, Bool.and_eq_true] at hbody
    exact List.forall_mem_cons.mpr ⟨hbody.1.1, ih hbody.1.2⟩

theorem isFlat_consMerged {node : Node} {rest : List Node} (hnode : node.isSingle)
    (hrest : isFlat rest) : isFlat (consMerged node rest) := by
  unfold consMerged
  split
  · simpa only [isFlat, Node.isSingle, Node.isContent] using hrest
  · rename_i hnext
    have hapart : (node.isContent && startsWith Node.isContent rest) = false := by
      cases node with
      | content text =>
        cases rest with
        | nil => rfl
        | cons next rest =>
          cases next with
          | content next => exact absurd rfl (hnext text next rest rfl)
          | _ => rfl
      | _ => rfl
    rw [isFlat, hnode, hrest, hapart]
    rfl

theorem isFlat_flattened {body : List Node}
    (hbody : ∀ program, .program program ∈ body → isFlat program.body) :
    isFlat (flattened body) := by
  have hsingle : ∀ node ∈ body.flatMap Node.spliced, node.isSingle := by
    intro node hnode
    obtain ⟨statement, hstatement, hnode⟩ := List.mem_flatMap.mp hnode
    cases statement with
    | program program => exact isSingle_of_isFlat (hbody program hstatement) node hnode
    | unknown => cases hnode
    | _ => rw [List.mem_singleton.mp hnode]; rfl
  rw [flattened]
  generalize body.flatMap Node.spliced = single at hsingle
  induction single with
  | nil => rfl
  | cons node rest ih =>
    rw [List.forall_mem_cons] at hsingle
    exact isFlat_consMerged hsingle.1 (ih hsingle.2)

/-- A statement of the new body is content, or stood in the old body or in a program there. -/
theorem forall_mem_flattened {P : Node → Prop} (hcontent : ∀ text, P (.content text))
    {body : List Node} (hbody : ∀ node ∈ body, ∀ inner ∈ node.spliced, P inner) :
    ∀ node ∈ flattened body, P node := by
  have hall : ∀ node ∈ body.flatMap Node.spliced, P node := by
    intro node hnode
    obtain ⟨statement, hstatement, hnode⟩ := List.mem_flatMap.mp hnode
    exact hbody statement hstatement node hnode
  rw [flattened]
  generalize body.flatMap Node.spliced = statements at hall
  induction statements with
  | nil => simp
  | cons node rest ih =>
    rw [List.forall_mem_cons] at hall
    have hrest := ih hall.2
    rw [List.foldr_cons]
    generalize rest.foldr consMerged [] = merged at hrest
    unfold consMerged
    split
    · exact List.forall_mem_cons.mpr ⟨hcontent _, (List.forall_mem_cons.mp hrest).2⟩
    · exact List.forall_mem_cons.mpr ⟨hall.1, hrest⟩

/-! ### Trees -/

mutual

/-- The tree with every body normalized, from the bottom up. -/
def Node.normalize : Node → Node
  | .program p => .program p.normalize
  | .block b => .block b.normalize
  | .mustache path args escaped => .mustache path args.normalize escaped
  | .sub callee args => .sub callee args.normalize
  | .partialTag name args => .partialTag name.normalize args.normalize
  | .partialBlock name args fallback =>
    .partialBlock name.normalize args.normalize fallback.normalize
  | .content text => .content text
  | .comment text => .comment text
  | .path text => .path text
  | .string value => .string value
  | .number value => .number value
  | .boolean value => .boolean value
  | .undefined => .undefined
  | .null => .null
  | .unknown => .unknown

def Program.normalize : Program → Program
  | ⟨body, names⟩ => ⟨flattened (normalizeNodes body), names⟩

def Block.normalize : Block → Block
  | ⟨path, args, main, inverse⟩ =>
    ⟨path, args.normalize, main.normalize, normalizeInverse inverse⟩

def Arguments.normalize : Arguments → Arguments
  | ⟨params, none⟩ => ⟨normalizeNodes params, none⟩
  | ⟨params, some pairs⟩ => ⟨normalizeNodes params, some (normalizePairs pairs)⟩

def PartialName.normalize : PartialName → PartialName
  | .path text => .path text
  | .sub callee args => .sub callee args.normalize

/-- The first statement of an inverse program stays in place. -/
def normalizeInverse : Option Program → Option Program
  | none => none
  | some ⟨[], names⟩ => some ⟨[], names⟩
  | some ⟨first :: rest, names⟩ =>
    some ⟨first.normalize :: flattened (normalizeNodes rest), names⟩

def normalizeNodes : List Node → List Node
  | [] => []
  | node :: rest => node.normalize :: normalizeNodes rest

def normalizePairs : List Pair → List Pair
  | [] => []
  | ⟨key, value⟩ :: rest => ⟨key, value.normalize⟩ :: normalizePairs rest

end

section Equations

attribute [local simp] Node.normalize Program.normalize Block.normalize Arguments.normalize
  PartialName.normalize normalizeInverse normalizeNodes normalizePairs

@[simp] theorem Node.kind?_normalize (node : Node) : node.normalize.kind? = node.kind? := by
  cases node <;> simp [Node.kind?]

@[simp] theorem Node.isBlock_normalize (node : Node) :
    node.normalize.isBlock = node.isBlock := by
  cases node <;> simp [Node.isBlock]

@[simp] theorem Node.rawValue_normalize (node : Node) :
    node.normalize.rawValue = node.rawValue := by
  cases node <;> simp [Node.rawValue]

theorem normalizeNodes_eq_map (nodes : List Node) :
    normalizeNodes nodes = nodes.map Node.normalize := by
  induction nodes with
  | nil => rfl
  | cons node rest ih => simp [ih]

@[simp] theorem Program.body_normalize (program : Program) :
    program.normalize.body = flattened (program.body.map Node.normalize) := by
  obtain ⟨body, names⟩ := program
  simp [normalizeNodes_eq_map]

@[simp] theorem Arguments.params_normalize (args : Arguments) :
    args.normalize.params = args.params.map Node.normalize := by
  obtain ⟨params, hash⟩ := args
  cases hash <;> exact normalizeNodes_eq_map params

@[simp] theorem Arguments.pairs_normalize (args : Arguments) :
    args.normalize.pairs = args.pairs.map fun pair => ⟨pair.key, pair.value.normalize⟩ := by
  have hpairs : ∀ pairs : List Pair,
      normalizePairs pairs = pairs.map fun pair => ⟨pair.key, pair.value.normalize⟩ := by
    intro pairs
    induction pairs with
    | nil => rfl
    | cons pair rest ih =>
      obtain ⟨key, value⟩ := pair
      simp [ih]
  obtain ⟨params, hash⟩ := args
  cases hash with
  | none => rfl
  | some pairs => exact hpairs pairs

@[simp] theorem Arguments.children_normalize (args : Arguments) :
    args.normalize.children = args.children.map Node.normalize := by
  rw [Arguments.children, Arguments.params_normalize, Arguments.pairs_normalize,
    Arguments.children, List.map_append, List.map_map, List.map_map]
  rfl

@[simp] theorem PartialName.children_normalize (name : PartialName) :
    name.normalize.children = name.children.map Node.normalize := by
  cases name with
  | path text => rfl
  | sub callee args => exact args.children_normalize

@[simp] theorem Block.path_normalize (block : Block) : block.normalize.path = block.path := by
  obtain ⟨path, args, main, inverse⟩ := block
  rfl

end Equations

/-! ### The text -/

/-- A rule prints a node and its normalization alike. -/
def Node.KeepsText (rule : Option Rule) (node : Node) : Prop :=
  node.normalize.text rule = node.text rule

theorem Node.keepsText_iff {rule : Option Rule} {node : Node} :
    node.KeepsText rule ↔ node.normalize.text rule = node.text rule :=
  Iff.rfl

section Parts

variable {rule : Option Rule}

/-- A rule looks at the kind of an argument and at its text. -/
theorem argumentText_normalize {caller : Option String} {position : Nat} {param : Node}
    (hparam : param.KeepsText rule) :
    argumentText rule caller position param.normalize =
      argumentText rule caller position param := by
  have hselected : selected? rule caller position param.normalize =
      selected? rule caller position param := by
    unfold selected? Rule.selects
    rw [Node.kind?_normalize]
  rw [argumentText, argumentText, hselected, hparam]

theorem paramsText_normalize {caller : Option String} {args : Arguments}
    (hargs : ∀ child ∈ args.children, child.KeepsText rule) :
    paramsText rule caller args.normalize.params = paramsText rule caller args.params := by
  have htexts : (args.normalize.params.mapIdx fun i param =>
        argumentText rule caller (i + 1) param) =
      args.params.mapIdx fun i param => argumentText rule caller (i + 1) param := by
    refine List.mapIdx_eq_iff.mpr fun i => ?_
    rw [Arguments.params_normalize, List.getElem?_mapIdx, List.getElem?_map, Option.map_map]
    refine Option.map_congr fun param hparam => ?_
    have hchild : param ∈ args.children := List.mem_append_left _ (List.mem_of_getElem? hparam)
    exact (argumentText_normalize (hargs param hchild)).symm
  rw [paramsText, htexts, paramsText]

theorem Arguments.text_normalize {args : Arguments}
    (hargs : ∀ child ∈ args.children, child.KeepsText rule) :
    args.normalize.text rule = args.text rule := by
  have hpairs : pairsText (fun value => value.text rule)
        (args.pairs.map fun pair => ⟨pair.key, pair.value.normalize⟩) =
      pairsText (fun value => value.text rule) args.pairs :=
    pairsText_map fun pair hpair =>
      hargs pair.value (List.mem_append_right _ (List.mem_map_of_mem hpair))
  rw [Arguments.text_eq, paramsText_normalize hargs, Arguments.pairs_normalize, hpairs,
    Arguments.text_eq]

theorem PartialName.text_normalize {name : PartialName}
    (hname : ∀ child ∈ name.children, child.KeepsText rule) :
    name.normalize.text rule = name.text rule := by
  cases name with
  | path text => rfl
  | sub callee args =>
    rw [PartialName.normalize, PartialName.text_sub, PartialName.text_sub,
      paramsText_normalize hname]

theorem Program.bodyText_normalize {program : Program}
    (hbody : ∀ child ∈ program.body, child.KeepsText rule) :
    bodyText rule program.normalize.body = bodyText rule program.body := by
  rw [Program.body_normalize, bodyText_flattened, bodyText_map hbody]

theorem clauseText_normalize {path : String} {args : Arguments} {main : Program}
    (hargs : ∀ child ∈ args.children, child.KeepsText rule)
    (hmain : ∀ child ∈ main.body, child.KeepsText rule) :
    clauseText rule path args.normalize main.normalize = clauseText rule path args main := by
  have hnames : Delimiter.blockParams main.normalize = Delimiter.blockParams main := by
    obtain ⟨body, names⟩ := main
    rfl
  rw [clauseText, Arguments.text_normalize hargs, hnames, Program.bodyText_normalize hmain,
    clauseText]

/-- The first statement is a block before if and only if it is one after, and of what follows a
block nothing is printed. -/
theorem elseText_normalize {inverse : Option Program}
    (hinverse : ∀ child ∈ inverseBody inverse, child.KeepsText rule) :
    elseText rule (normalizeInverse inverse) = elseText rule inverse := by
  match inverse with
  | none => rfl
  | some ⟨[], names⟩ => rfl
  | some ⟨first :: rest, names⟩ =>
    obtain ⟨hnode, hrest⟩ := List.forall_mem_cons.mp hinverse
    rw [normalizeInverse]
    cases hblock : first.isBlock with
    | true =>
      cases first with
      | block block =>
        rw [Node.keepsText_iff, Node.normalize] at hnode
        rw [Node.normalize, elseText_chained, elseText_chained,
          Block.insideText_eq_of_text_eq (Block.path_normalize block) hnode]
      | _ => cases hblock
    | false =>
      have hbefore : ∀ node ∈ (first :: rest).head?, node.isBlock = false := by
        simpa using hblock
      have hafter : ∀ node ∈ (first.normalize :: flattened (normalizeNodes rest)).head?,
          node.isBlock = false := by
        simpa [Node.isBlock_normalize] using hblock
      rw [elseText_final rule ⟨_, names⟩ hafter, elseText_final rule ⟨_, names⟩ hbefore,
        bodyText_cons, bodyText_cons, hnode, bodyText_flattened, normalizeNodes_eq_map,
        bodyText_map hrest]

theorem Node.keepsText_block {block : Block}
    (hblock : ∀ child ∈ (Node.block block).children, child.KeepsText rule) :
    (Node.block block).KeepsText rule := by
  obtain ⟨path, args, main, inverse⟩ := block
  have hclause : clauseText rule path args.normalize main.normalize =
      clauseText rule path args main :=
    clauseText_normalize
      (fun child hchild => hblock child (List.mem_append_left _ (List.mem_append_left _ hchild)))
      fun child hchild => hblock child (List.mem_append_left _ (List.mem_append_right _ hchild))
  have helse : elseText rule (normalizeInverse inverse) = elseText rule inverse :=
    elseText_normalize fun child hchild => hblock child (List.mem_append_right _ hchild)
  rw [Node.keepsText_iff, Node.normalize, Block.normalize, Node.text_block, Node.text_block,
    Block.insideText, Block.insideText, hclause, helse]

end Parts

theorem Node.keepsText (rule : Option Rule) (node : Node) : node.KeepsText rule := by
  induction node using Node.childInduction with
  | step node ih =>
    cases node with
    | program program =>
      rw [Node.keepsText_iff, Node.normalize, Node.text_program, Node.text_program,
        Program.bodyText_normalize ih]
    | block block => exact Node.keepsText_block ih
    | mustache path args escaped =>
      rw [Node.keepsText_iff, Node.normalize, Node.text_mustache, Node.text_mustache,
        Arguments.text_normalize ih]
    | sub callee args =>
      have hpairs : pairsText (fun value => Text.quoteSingle value.rawValue)
            (args.pairs.map fun pair => ⟨pair.key, pair.value.normalize⟩) =
          pairsText (fun value => Text.quoteSingle value.rawValue) args.pairs :=
        pairsText_map fun pair _ => by rw [Node.rawValue_normalize]
      rw [Node.keepsText_iff, Node.normalize, Node.text_sub, Node.text_sub, paramsText_normalize ih,
        Arguments.pairs_normalize, hpairs]
    | partialTag name args =>
      rw [Node.keepsText_iff, Node.normalize, Node.text_partialTag, Node.text_partialTag,
        PartialName.text_normalize fun child hchild => ih child (List.mem_append_left _ hchild),
        Arguments.text_normalize fun child hchild => ih child (List.mem_append_right _ hchild)]
    | partialBlock name args fallback =>
      rw [Node.keepsText_iff, Node.normalize, Node.text_partialBlock, Node.text_partialBlock,
        PartialName.text_normalize fun child hchild =>
          ih child (List.mem_append_left _ (List.mem_append_left _ hchild)),
        Arguments.text_normalize fun child hchild =>
          ih child (List.mem_append_left _ (List.mem_append_right _ hchild))]
    | _ => rw [Node.keepsText_iff, Node.normalize]

/-! ### The normal form -/

/-- Whether the bodies that a node holds itself have nothing to drop, splice or merge. -/
def Node.hasFlatBodies : Node → Bool
  | .program p => isFlat p.body
  | .block b => isFlat b.main.body && isFlat (inverseBody b.inverse).tail
  | .partialBlock _ _ fallback => isFlat fallback.body
  | _ => true

/-- No body of the tree has anything to drop, splice or merge. -/
def Node.IsNormal (node : Node) : Prop :=
  ∀ inner ∈ node.nodes, inner.hasFlatBodies

theorem Node.isNormal_iff {node : Node} :
    node.IsNormal ↔ node.hasFlatBodies ∧ ∀ child ∈ node.children, child.IsNormal :=
  Node.forall_mem_nodes

theorem Node.isNormal_content (text : String) : (Node.content text).IsNormal :=
  Node.isNormal_iff.mpr ⟨rfl, List.forall_mem_nil _⟩

theorem Node.isNormal_of_mem_spliced {node inner : Node} (hnode : node.IsNormal)
    (hinner : inner ∈ node.spliced) : inner.IsNormal := by
  cases node with
  | program program => exact (Node.isNormal_iff.mp hnode).2 inner hinner
  | unknown => cases hinner
  | _ => rw [List.mem_singleton.mp hinner]; exact hnode

/-- Flattening normal statements gives a flat body of normal statements. -/
theorem isNormal_flattened {body : List Node} (hbody : ∀ node ∈ body, node.IsNormal) :
    isFlat (flattened body) ∧ ∀ node ∈ flattened body, node.IsNormal :=
  ⟨isFlat_flattened fun _ hprogram => (Node.isNormal_iff.mp (hbody _ hprogram)).1,
    forall_mem_flattened Node.isNormal_content fun _ hnode _ hinner =>
      Node.isNormal_of_mem_spliced (hbody _ hnode) hinner⟩

theorem Program.isNormal_normalize {program : Program}
    (hbody : ∀ child ∈ program.body, child.normalize.IsNormal) :
    isFlat program.normalize.body ∧ ∀ node ∈ program.normalize.body, node.IsNormal := by
  rw [Program.body_normalize]
  exact isNormal_flattened (List.forall_mem_map.mpr hbody)

theorem isNormal_normalizeInverse {inverse : Option Program}
    (hinverse : ∀ child ∈ inverseBody inverse, child.normalize.IsNormal) :
    isFlat (inverseBody (normalizeInverse inverse)).tail ∧
      ∀ node ∈ inverseBody (normalizeInverse inverse), node.IsNormal := by
  match inverse with
  | none => exact ⟨rfl, List.forall_mem_nil _⟩
  | some ⟨[], names⟩ => exact ⟨rfl, List.forall_mem_nil _⟩
  | some ⟨first :: rest, names⟩ =>
    obtain ⟨hfirst, hrest⟩ := List.forall_mem_cons.mp hinverse
    rw [normalizeInverse, normalizeNodes_eq_map]
    obtain ⟨hflat, hnormal⟩ := isNormal_flattened (List.forall_mem_map.mpr hrest)
    exact ⟨hflat, List.forall_mem_cons.mpr ⟨hfirst, hnormal⟩⟩

theorem Arguments.isNormal_normalize {args : Arguments}
    (hargs : ∀ child ∈ args.children, child.normalize.IsNormal) :
    ∀ node ∈ args.normalize.children, node.IsNormal := by
  rw [Arguments.children_normalize]
  exact List.forall_mem_map.mpr hargs

theorem PartialName.isNormal_normalize {name : PartialName}
    (hname : ∀ child ∈ name.children, child.normalize.IsNormal) :
    ∀ node ∈ name.normalize.children, node.IsNormal := by
  rw [PartialName.children_normalize]
  exact List.forall_mem_map.mpr hname

theorem Node.isNormal_normalize (node : Node) : node.normalize.IsNormal := by
  induction node using Node.childInduction with
  | step node ih =>
    rw [Node.isNormal_iff]
    cases node with
    | program program => exact Program.isNormal_normalize ih
    | block block =>
      obtain ⟨path, args, main, inverse⟩ := block
      simp only [Node.children, List.forall_mem_append] at ih
      obtain ⟨⟨hargs, hmain⟩, hinverse⟩ := ih
      obtain ⟨hmainFlat, hmainNormal⟩ := Program.isNormal_normalize hmain
      obtain ⟨hinverseFlat, hinverseNormal⟩ := isNormal_normalizeInverse hinverse
      simp only [Node.normalize, Block.normalize, Node.hasFlatBodies, Node.children,
        List.forall_mem_append, Bool.and_eq_true]
      exact ⟨⟨hmainFlat, hinverseFlat⟩,
        ⟨Arguments.isNormal_normalize hargs, hmainNormal⟩, hinverseNormal⟩
    | mustache path args escaped => exact ⟨rfl, Arguments.isNormal_normalize ih⟩
    | sub callee args => exact ⟨rfl, Arguments.isNormal_normalize ih⟩
    | partialTag name args =>
      simp only [Node.children, List.forall_mem_append] at ih
      exact ⟨rfl, List.forall_mem_append.mpr
        ⟨PartialName.isNormal_normalize ih.1, Arguments.isNormal_normalize ih.2⟩⟩
    | partialBlock name args fallback =>
      simp only [Node.children, List.forall_mem_append] at ih
      obtain ⟨⟨hname, hargs⟩, hfallback⟩ := ih
      obtain ⟨hflat, hnormal⟩ := Program.isNormal_normalize hfallback
      simp only [Node.normalize, Node.hasFlatBodies, Node.children, List.forall_mem_append]
      exact ⟨hflat,
        ⟨PartialName.isNormal_normalize hname, Arguments.isNormal_normalize hargs⟩, hnormal⟩
    | _ => exact ⟨rfl, List.forall_mem_nil _⟩

/-- **Normalization keeps the text under every rule,** and no body of the tree has anything left to
drop, splice or merge. -/
theorem text_eq_text_normalize (rule : Option Rule) (node : Node) :
    node.normalize.text rule = node.text rule ∧
      ∀ inner ∈ node.normalize.nodes, inner.hasFlatBodies :=
  ⟨node.keepsText rule, node.isNormal_normalize⟩

/-- A block behind a statement of unknown kind is not a clause, and would be one without it. -/
example :
    let leading := Node.block ⟨"a", {}, {}, some ⟨[.unknown, .block ⟨"b", {}, {}, none⟩], none⟩⟩
    let dropped := Node.block ⟨"a", {}, {}, some ⟨[.block ⟨"b", {}, {}, none⟩], none⟩⟩
    leading.normalize = leading ∧ leading.text none ≠ dropped.text none :=
  ⟨rfl, by decide +kernel⟩

end TemplatePrinter
