import TemplatePrinter.Proofs.Printer.Visits
/-!
# Writing is composing

The printer hands one output on from writer to writer, and a group of arguments is written after a
space that may have to be taken back, by cutting the output at the byte where the space begins.
What a tree prints can be said without any of that: the text of a node is composed of the texts of
its parts, each made on its own, and a group of arguments stands after a space unless its text is
empty.

`Node.composedText` is that text. It knows of no output, no byte and no cut. Whatever was written
before, the printer keeps it and adds the composed text of the node. Every group of arguments only
adds to the output too, so the byte to cut at is still the end of what stood there before the
group: a cut takes the space and nothing else.
-/

namespace TemplatePrinter

/-! ### Composed texts -/

/-- Texts with a space between any two and one before the first, or nothing when they come to
nothing. -/
def Text.group (texts : List String) : String :=
  Text.afterSpace (" ".intercalate texts)

/-- The text of an argument in a call of `callee`, made of its text on its own. Where a rule asks for
the calls at this position in calls of `callee`, a call is changed by the modifiers, the first of
them first. -/
def targetedText (rule : Option Rule) (callee : String) (position : Nat) (param : Node)
    (text : String) : String :=
  match rule, param with
  | some rule, .sub .. =>
    if rule.paramKind = .sub ∧ rule.helper = callee ∧ rule.position = position then
      rule.modifiers.foldl (fun text modifier => modifier text) text
    else text
  | _, _ => text

mutual

/-- The text of a node, composed of the texts of its parts. -/
def Node.composedText (rule : Option Rule) : Node → String
  | .program p => p.composedText rule
  | .block b =>
    b.elseChain.attach.foldl (fun text clause => text ++ clause.val.composedText rule)
        (Delimiter.openBlock ++ b.composedHead rule)
      ++ (Delimiter.openEnd ++ b.path ++ Delimiter.closeTag)
  | .mustache path args escaped =>
    Delimiter.openMustache escaped ++ Text.bracketed path ++ args.composedText rule
      ++ Delimiter.closeMustache escaped
  | .content text => text
  | .comment text => Delimiter.openComment ++ text ++ Delimiter.closeComment
  | .path text => text
  | .sub callee args =>
    "(" ++ callee
      ++ Text.group (args.params.attach.mapIdx fun i param =>
          targetedText rule callee (i + 1) param.val (param.val.composedText rule))
      ++ Text.group (args.pairs.map fun pair => pair.key ++ "='" ++ pair.value.rawValue ++ "'")
      ++ ")"
  | .partialTag name args =>
    Delimiter.openPartial ++ name.composedText rule ++ args.composedText rule
      ++ Delimiter.closePartial
  | .partialBlock name args _ =>
    Delimiter.openPartial ++ name.composedText rule ++ args.composedText rule
      ++ Delimiter.closePartial
  | .string value => "'" ++ value ++ "'"
  | .number value => value.text
  | .boolean value => boolText value
  | .undefined => "undefined"
  | .null => "null"
  | .unknown => ""
termination_by node => sizeOf node
decreasing_by
  all_goals simp only [Node.program.sizeOf_spec, Node.block.sizeOf_spec, Node.mustache.sizeOf_spec,
    Node.sub.sizeOf_spec, Node.partialTag.sizeOf_spec, Node.partialBlock.sizeOf_spec]
  all_goals try omega
  -- What is left is not a field of the node: a clause further down its chain, and a parameter.
  · have hclause := Block.sizeOf_clause_lt clause.property
    omega
  · have hparam := Arguments.sizeOf_children_lt (List.mem_append_left _ param.property)
    omega

def Program.composedText (rule : Option Rule) : Program → String
  | ⟨body, _⟩ => String.join (body.map fun node => node.composedText rule)
termination_by program => sizeOf program

/-- The parameters of a statement, then its pairs. -/
def Arguments.composedText (rule : Option Rule) (args : Arguments) : String :=
  Text.group (args.params.map fun param => param.composedText rule)
    ++ Text.group (args.pairs.attach.map fun pair =>
      pair.val.key ++ "=" ++ pair.val.value.composedText rule)
termination_by sizeOf args
decreasing_by
  · rename_i hparam
    exact Arguments.sizeOf_children_lt (List.mem_append_left _ hparam)
  · have hvalue := List.mem_map_of_mem (f := Pair.value) pair.property
    exact Arguments.sizeOf_children_lt (List.mem_append_right _ hvalue)

/-- The name of a partial. No rule is asked about the arguments of a call that computes it. -/
def PartialName.composedText (rule : Option Rule) : PartialName → String
  | .path text => text
  | .sub callee ⟨params, _⟩ =>
    "(" ++ callee ++ Text.group (params.map fun param => param.composedText rule) ++ ")"
termination_by name => sizeOf name

/-- A block from its path to the end of its main program. -/
def Block.composedHead (rule : Option Rule) : Block → String
  | ⟨path, args, main, _⟩ =>
    path ++ args.composedText rule ++ Delimiter.blockParams main ++ Delimiter.closeTag
      ++ main.composedText rule
termination_by block => sizeOf block

def Clause.composedText (rule : Option Rule) : Clause → String
  | .chained block => Delimiter.openElse ++ block.composedHead rule
  | .final program => Delimiter.bareElse ++ program.composedText rule
termination_by clause => sizeOf clause

end

theorem Arguments.composedText_eq (rule : Option Rule) (args : Arguments) :
    args.composedText rule =
      Text.group (args.params.map fun param => param.composedText rule)
        ++ Text.group (args.pairs.map fun pair =>
          pair.key ++ "=" ++ pair.value.composedText rule) := by
  have hpairs := @List.attach_map_val _ _ args.pairs fun pair =>
    pair.key ++ "=" ++ pair.value.composedText rule
  rw [Arguments.composedText, hpairs]

theorem Node.composedText_block (rule : Option Rule) (block : Block) :
    (Node.block block).composedText rule =
      block.elseChain.foldl (fun text clause => text ++ clause.composedText rule)
          (Delimiter.openBlock ++ block.composedHead rule)
        ++ (Delimiter.openEnd ++ block.path ++ Delimiter.closeTag) := by
  have hclauses := @List.foldl_attach _ _ block.elseChain
    (fun text clause => text ++ clause.composedText rule)
    (Delimiter.openBlock ++ block.composedHead rule)
  rw [Node.composedText, hclauses]

private theorem mapIdx_attach {α β : Type} (f : Nat → α → β) (xs : List α) :
    (xs.attach.mapIdx fun i x => f i x.val) = xs.mapIdx f := by
  apply List.ext_getElem
  · simp
  · intro i h h'
    simp

theorem Node.composedText_sub (rule : Option Rule) (callee : String) (args : Arguments) :
    (Node.sub callee args).composedText rule =
      "(" ++ callee
        ++ Text.group (args.params.mapIdx fun i param =>
          targetedText rule callee (i + 1) param (param.composedText rule))
        ++ Text.group (args.pairs.map fun pair => pair.key ++ "='" ++ pair.value.rawValue ++ "'")
        ++ ")" := by
  have hparams := mapIdx_attach
    (fun i param => targetedText rule callee (i + 1) param (param.composedText rule)) args.params
  rw [Node.composedText, hparams]

/-! ### A tree prints its composed text -/

private theorem foldl_append_eq_join {α : Type} (f : α → String) (xs : List α) (start : String) :
    xs.foldl (fun text x => text ++ f x) start = start ++ String.join (xs.map f) := by
  induction xs generalizing start with
  | nil => simp
  | cons x rest ih =>
    rw [List.foldl_cons, ih, List.map_cons, String.join_cons, String.append_assoc]

theorem argumentText_eq_targetedText (rule : Option Rule) (callee : String) (position : Nat)
    (param : Node) :
    argumentText rule (some callee) position param =
      targetedText rule callee position param (param.text rule) := by
  cases rule with
  | none => rfl
  | some rule =>
    rw [argumentText, selected?]
    cases param with
    | sub inner args =>
      have hselects : rule.selects callee position (.sub inner args) ↔
          rule.paramKind = .sub ∧ rule.helper = callee ∧ rule.position = position := by
        rw [Rule.selects_iff]
        constructor
        · rintro ⟨hkind, hposition, -, hhelper⟩
          exact ⟨hkind, hhelper, hposition⟩
        · rintro ⟨hkind, hhelper, hposition⟩
          exact ⟨hkind, hposition, rfl, hhelper⟩
      by_cases hasks : rule.paramKind = .sub ∧ rule.helper = callee ∧ rule.position = position
      · rw [if_pos (hselects.mpr hasks), targetedText, if_pos hasks]
        rfl
      · rw [if_neg (mt hselects.mp hasks), targetedText, if_neg hasks]
    | _ => simp [Rule.selects_iff, Node.kind?, targetedText]

variable {rule : Option Rule}

theorem Program.bodyText_eq_composedText {program : Program}
    (hbody : ∀ node ∈ program.body, node.text rule = node.composedText rule) :
    bodyText rule program.body = program.composedText rule := by
  obtain ⟨body, names⟩ := program
  rw [Program.composedText, ← List.map_congr_left hbody, bodyText_eq_join]

theorem Arguments.text_eq_composedText {args : Arguments}
    (hchildren : ∀ child ∈ args.children, child.text rule = child.composedText rule) :
    args.text rule = args.composedText rule := by
  obtain ⟨hparams, hvalues⟩ := List.forall_mem_append.mp hchildren
  have hpairs : (args.pairs.map fun pair => pair.key ++ "=" ++ pair.value.text rule) =
      args.pairs.map fun pair => pair.key ++ "=" ++ pair.value.composedText rule :=
    List.map_congr_left fun pair hpair => by rw [hvalues _ (List.mem_map_of_mem hpair)]
  rw [Arguments.text_eq, paramsText_uncalled, pairsText, hpairs, List.map_congr_left hparams,
    Arguments.composedText_eq]
  rfl

theorem PartialName.text_eq_composedText {name : PartialName}
    (hparams : ∀ param ∈ name.params, param.text rule = param.composedText rule) :
    name.text rule = name.composedText rule := by
  cases name with
  | path text =>
    rw [PartialName.text_path, PartialName.composedText]
  | sub callee args =>
    obtain ⟨params, hash⟩ := args
    have htexts : (params.map fun param => param.text rule) =
        params.map fun param => param.composedText rule := List.map_congr_left hparams
    rw [PartialName.text_sub, paramsText_uncalled, htexts, PartialName.composedText]
    rfl

theorem Block.headText_eq_composedHead {block : Block}
    (hnodes : ∀ node ∈ block.args.children ++ block.main.body,
      node.text rule = node.composedText rule) :
    block.headText rule = block.composedHead rule := by
  obtain ⟨hargs, hmain⟩ := List.forall_mem_append.mp hnodes
  obtain ⟨path, args, main, inverse⟩ := block
  rw [Block.headText, clauseText, Arguments.text_eq_composedText hargs,
    Program.bodyText_eq_composedText hmain, Block.composedHead]

theorem Clause.text_eq_composedText {clause : Clause}
    (hnodes : ∀ node ∈ clause.nodes, node.text rule = node.composedText rule) :
    clause.text rule = clause.composedText rule := by
  cases clause with
  | chained block =>
    rw [Clause.text, Clause.composedText, Block.headText_eq_composedHead hnodes]
  | final program =>
    rw [Clause.text, Clause.composedText, Node.text_program,
      Program.bodyText_eq_composedText hnodes]

private theorem agree_of_ofNodes {nodes : List Node}
    (hsteps : ∀ step ∈ Visit.ofNodes nodes, step.node.text rule = step.node.composedText rule) :
    ∀ node ∈ nodes, node.text rule = node.composedText rule :=
  fun node hnode => hsteps ⟨node, none⟩ (Visit.mem_ofNodes.mpr ⟨hnode, rfl⟩)

theorem Node.text_block_eq_composedText {block : Block}
    (hhead : ∀ node ∈ block.args.children ++ block.main.body,
      node.text rule = node.composedText rule)
    (hchain : ∀ node ∈ block.elseChain.flatMap Clause.nodes,
      node.text rule = node.composedText rule) :
    (Node.block block).text rule = (Node.block block).composedText rule := by
  have hclauses : block.elseChain.map (Clause.text rule) =
      block.elseChain.map (Clause.composedText rule) :=
    List.map_congr_left fun clause hclause =>
      Clause.text_eq_composedText fun node hnode =>
        hchain node (List.mem_flatMap.mpr ⟨clause, hclause, hnode⟩)
  have hinside : block.insideText rule =
      block.composedHead rule ++ String.join (block.elseChain.map (Clause.composedText rule)) := by
    rw [← hclauses, Block.elseChain_eq, ← elseText_eq_join, ← Block.headText_eq_composedHead hhead]
    rfl
  rw [Node.text_block, hinside, Node.composedText_block, foldl_append_eq_join]
  simp only [String.append_assoc]

theorem Node.text_sub_eq_composedText {callee : String} {args : Arguments}
    (hparams : ∀ param ∈ args.params, param.text rule = param.composedText rule) :
    (Node.sub callee args).text rule = (Node.sub callee args).composedText rule := by
  have htexts : (args.params.mapIdx fun i param => argumentText rule (some callee) (i + 1) param) =
      args.params.mapIdx fun i param =>
        targetedText rule callee (i + 1) param (param.composedText rule) := by
    rw [List.mapIdx_eq_mapIdx_iff]
    intro i hi
    rw [argumentText_eq_targetedText, hparams _ (List.getElem_mem hi)]
  have hquotes : "='" = "=" ++ "'" := rfl
  rw [Node.text_sub, paramsText, htexts, pairsText, Node.composedText_sub]
  simp only [Text.group, Text.quoteSingle, hquotes, String.append_assoc]

/-- A tree prints its composed text. -/
theorem Node.text_eq_composedText (rule : Option Rule) (node : Node) :
    node.text rule = node.composedText rule := by
  -- The clauses of a chain lie deeper than the children of its block. Visits follow the chain.
  suffices hvisit : ∀ visit : Visit, visit.node.text rule = visit.node.composedText rule from
    hvisit ⟨node, none⟩
  intro visit
  induction visit using Visit.induction with
  | step visit ih =>
    obtain ⟨node, place⟩ := visit
    cases node with
    | program program =>
      rw [Node.text_program, Node.composedText,
        Program.bodyText_eq_composedText (agree_of_ofNodes ih)]
    | block block =>
      obtain ⟨hhead, hchain⟩ := List.forall_mem_append.mp (agree_of_ofNodes ih)
      exact Node.text_block_eq_composedText hhead hchain
    | mustache path args escaped =>
      rw [Node.text_mustache, Node.composedText,
        Arguments.text_eq_composedText (agree_of_ofNodes ih)]
    | sub callee args =>
      refine Node.text_sub_eq_composedText fun param hparam => ?_
      obtain ⟨i, hi⟩ := List.mem_iff_getElem?.mp hparam
      exact ih ⟨param, some (callee, i + 1)⟩ (Visit.mem_ofParams.mpr ⟨i, hi, rfl⟩)
    | partialTag name args =>
      obtain ⟨hname, hargs⟩ := List.forall_mem_append.mp (agree_of_ofNodes ih)
      rw [Node.text_partialTag, Node.composedText, PartialName.text_eq_composedText hname,
        Arguments.text_eq_composedText hargs]
    | partialBlock name args fallback =>
      obtain ⟨hname, hargs⟩ := List.forall_mem_append.mp (agree_of_ofNodes ih)
      rw [Node.text_partialBlock, Node.composedText, PartialName.text_eq_composedText hname,
        Arguments.text_eq_composedText hargs]
    | _ => simp [Node.composedText, Text.quoteSingle]

/-! ### Writing into an output -/

/-- Arguments that stand together after one space: parameters, in a call by a helper or not, or
pairs, with their values printed or quoted as they are. -/
inductive ArgumentGroup where
  | positional (caller : Option String) (params : List Node)
  | named (pairs : List Pair)
  | quoted (pairs : List Pair)

namespace ArgumentGroup

/-- Writes the arguments of a group, but not the space before them. -/
def write (rule : Option Rule) : ArgumentGroup → Output → Output
  | .positional caller params => writeParams rule caller 1 params
  | .named pairs => writePairs rule true pairs
  | .quoted pairs => writeRawPairs true pairs

theorem exists_write_eq_append (rule : Option Rule) (group : ArgumentGroup) :
    ∃ added, ∀ out, group.write rule out = out ++ added := by
  cases group with
  | positional caller params => exact ⟨_, (writeParams_eq_append rule caller params).2⟩
  | named pairs => exact ⟨_, fun out => (writePairs_eq_append rule pairs out).2⟩
  | quoted pairs => exact ⟨_, fun out => (writeRawPairs_eq_append pairs out).2⟩

end ArgumentGroup

/-- **The printer only ever appends.** Whatever an output holds, writing a node leaves that text as
it is and puts the composed text of the node after it, which does not depend on what was there. The
cut that takes back a space cannot reach further: made after the space and any group of arguments,
it leaves the text that stood there before the space. -/
theorem text_write_eq_append (rule : Option Rule) :
    (∀ (node : Node) (out : Output),
        (node.write rule out).text = out.text ++ node.composedText rule) ∧
      ∀ (group : ArgumentGroup) (out : Output),
        ((group.write rule (out.push " ")).truncate out.text.rawEndPos).text = out.text := by
  constructor
  · intro node out
    rw [node.write_eq_append, Output.text_append, ← node.text_eq_render,
      node.text_eq_composedText]
  · intro group out
    obtain ⟨added, hadded⟩ := group.exists_write_eq_append rule
    rw [hadded, Output.push_eq_append, Output.append_assoc, Output.truncate_append]

end TemplatePrinter
