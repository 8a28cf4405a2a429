import TemplatePrinter.Proofs.Printer.Events
import TemplatePrinter.Proofs.Targeting.ComputedName
/-!
# Where a rule shows

A rule reaches the text of a tree through the arguments that it picks and in no other way. If the
modifiers give back the text of every argument that is picked, the text of the tree is the one that
it has without a rule. So a rule whose modifiers change nothing is not seen, and neither is one that
picks nothing, which the events tell: no modification is reported. A rule for anything but calls
picks nothing, and a rule for calls picks something only where a call of its helper has a call at
its position.
-/

namespace TemplatePrinter

/-! ### Texts that a rule leaves alone -/

/-- The text of the node is the same with the rule and without one. -/
def Rule.Spares (rule : Rule) (node : Node) : Prop :=
  node.text (some rule) = node.text none

/-- The text of a visit: the modifiers make it when the rule picks the argument. -/
def Visit.text (rule : Rule) (visit : Visit) : String :=
  if rule.Picks visit then rule.apply (visit.node.text (some rule)) else visit.node.text (some rule)

theorem argumentText_eq_visit (rule : Rule) (callee : String) (position : Nat) (param : Node) :
    argumentText (some rule) (some callee) position param =
      Visit.text rule ⟨param, some (callee, position)⟩ := by
  rw [argumentText, selected?, Visit.text]
  by_cases hselects : rule.selects callee position param
  · rw [if_pos hselects, if_pos (Rule.selects_iff_picks.mp hselects)]
  · rw [if_neg hselects, if_neg (mt Rule.selects_iff_picks.mpr hselects)]

theorem Visit.text_of_unplaced (rule : Rule) {visit : Visit} (hplace : visit.place = none) :
    visit.text rule = visit.node.text (some rule) := by
  refine if_neg fun hpicks => ?_
  rw [hpicks.2.2] at hplace
  cases hplace

section Parts

variable {rule : Rule}

theorem map_text_spared {nodes : List Node} (hnodes : ∀ node ∈ nodes, rule.Spares node) :
    (nodes.map fun node => node.text (some rule)) = nodes.map fun node => node.text none :=
  List.map_congr_left hnodes

theorem Arguments.text_spared {args : Arguments}
    (hargs : ∀ child ∈ args.children, rule.Spares child) :
    args.text (some rule) = args.text none := by
  have hparams := map_text_spared fun param hparam => hargs param (List.mem_append_left _ hparam)
  have hpairs : (args.pairs.map fun pair => pair.key ++ "=" ++ pair.value.text (some rule)) =
      args.pairs.map fun pair => pair.key ++ "=" ++ pair.value.text none := by
    refine List.map_congr_left fun pair hpair => ?_
    rw [hargs pair.value (List.mem_append_right _ (List.mem_map_of_mem hpair))]
  rw [Arguments.text_eq, Arguments.text_eq, paramsText_uncalled, paramsText_uncalled, hparams,
    pairsText, pairsText, hpairs]

theorem PartialName.text_spared {name : PartialName}
    (hname : ∀ param ∈ name.params, rule.Spares param) :
    name.text (some rule) = name.text none := by
  cases name with
  | path text => rfl
  | sub callee args =>
    have hparams : ∀ param ∈ args.params, rule.Spares param := hname
    rw [PartialName.text_sub, PartialName.text_sub, paramsText_uncalled, paramsText_uncalled,
      map_text_spared hparams]

theorem bodyText_spared {body : List Node} (hbody : ∀ node ∈ body, rule.Spares node) :
    bodyText (some rule) body = bodyText none body := by
  simpa using bodyText_map (f := id) hbody

theorem clauseText_spared {path : String} {args : Arguments} {main : Program}
    (hclause : ∀ node ∈ args.children ++ main.body, rule.Spares node) :
    clauseText (some rule) path args main = clauseText none path args main := by
  rw [clauseText, clauseText,
    Arguments.text_spared fun child hchild => hclause child (List.mem_append_left _ hchild),
    bodyText_spared fun node hnode => hclause node (List.mem_append_right _ hnode)]

theorem elseText_spared {inverse : Option Program}
    (hinverse : ∀ node ∈ (elseClauses inverse).flatMap Clause.nodes, rule.Spares node) :
    elseText (some rule) inverse = elseText none inverse := by
  induction inverse using elseInduction with
  | absent => rfl
  | chained block tail names ih =>
    rw [elseClauses_chained, List.flatMap_cons] at hinverse
    rw [elseText_chained, elseText_chained, Block.insideText, Block.insideText,
      clauseText_spared fun node hnode => hinverse node (List.mem_append_left _ hnode),
      ih fun node hnode => hinverse node (List.mem_append_right _ hnode)]
  | final program hfirst =>
    rw [elseClauses_final hfirst, List.flatMap_singleton, Clause.nodes] at hinverse
    rw [elseText_final _ program hfirst, elseText_final _ program hfirst, bodyText_spared hinverse]

/-- Visits of nodes that are no arguments of a call. -/
theorem spares_of_ofNodes {nodes : List Node}
    (hnodes : ∀ step ∈ Visit.ofNodes nodes, step.text rule = step.node.text none) :
    ∀ node ∈ nodes, rule.Spares node := by
  intro node hnode
  have hstep := hnodes ⟨node, none⟩ (Visit.mem_ofNodes.mpr ⟨hnode, rfl⟩)
  rwa [Visit.text_of_unplaced rule rfl] at hstep

theorem paramsText_spared {callee : String} {params : List Node}
    (hparams : ∀ step ∈ Visit.ofParams callee params, step.text rule = step.node.text none) :
    paramsText (some rule) (some callee) params = paramsText none (some callee) params := by
  have htexts :
      (params.mapIdx fun i param => argumentText (some rule) (some callee) (i + 1) param) =
        params.map fun param => param.text none := by
    refine List.mapIdx_eq_iff.mpr fun i => ?_
    rw [List.getElem?_map]
    refine Option.map_congr fun param hparam => ?_
    rw [argumentText_eq_visit]
    exact (hparams ⟨param, some (callee, i + 1)⟩ (Visit.mem_ofParams.mpr ⟨i, hparam, rfl⟩)).symm
  rw [paramsText_untargeted, paramsText, htexts]

/-- One step: a node is spared when every visit directly below it gives the text that its node has
without a rule. -/
theorem Node.spared_of_steps {node : Node}
    (hsteps : ∀ step ∈ node.steps, step.text rule = step.node.text none) : rule.Spares node := by
  unfold Rule.Spares
  cases node with
  | program program =>
    rw [Node.text_program, Node.text_program, bodyText_spared (spares_of_ofNodes hsteps)]
  | block block =>
    have hnodes := spares_of_ofNodes hsteps
    rw [Block.elseChain_eq] at hnodes
    rw [Node.text_block, Node.text_block, Block.insideText, Block.insideText,
      clauseText_spared fun node hnode => hnodes node (List.mem_append_left _ hnode),
      elseText_spared fun node hnode => hnodes node (List.mem_append_right _ hnode)]
  | mustache path args escaped =>
    rw [Node.text_mustache, Node.text_mustache, Arguments.text_spared (spares_of_ofNodes hsteps)]
  | sub callee args => rw [Node.text_sub, Node.text_sub, paramsText_spared hsteps]
  | partialTag name args =>
    have hnodes := spares_of_ofNodes hsteps
    rw [Node.text_partialTag, Node.text_partialTag,
      PartialName.text_spared fun param hparam => hnodes param (List.mem_append_left _ hparam),
      Arguments.text_spared fun child hchild => hnodes child (List.mem_append_right _ hchild)]
  | partialBlock name args fallback =>
    have hnodes := spares_of_ofNodes hsteps
    rw [Node.text_partialBlock, Node.text_partialBlock,
      PartialName.text_spared fun param hparam => hnodes param (List.mem_append_left _ hparam),
      Arguments.text_spared fun child hchild => hnodes child (List.mem_append_right _ hchild)]
  | _ => simp

/-- A whole run: where the modifiers give back every text that they get, the text of a visit is the
one that its node has without a rule. -/
theorem Visit.text_of_fixed {visit : Visit}
    (hfixed : ∀ inner ∈ visit.visits, rule.Picks inner →
      rule.apply (inner.node.text (some rule)) = inner.node.text (some rule)) :
    visit.text rule = visit.node.text none := by
  induction visit using Visit.induction with
  | step visit ih =>
    rw [Visit.visits_eq] at hfixed
    have hnode : rule.Spares visit.node := by
      refine Node.spared_of_steps fun below hbelow => ih below hbelow fun inner hinner => ?_
      exact hfixed inner (List.mem_append_left _ (List.mem_flatMap.mpr ⟨below, hbelow, hinner⟩))
    rw [← hnode, Visit.text]
    by_cases hpicks : rule.Picks visit
    · rw [if_pos hpicks, hfixed visit (List.mem_append_right _ List.mem_cons_self) hpicks]
    · rw [if_neg hpicks]

end Parts

/-! ### Arguments that a rule picks -/

/-- The printer reports no modification of the tree. -/
def Rule.ReportsNone (rule : Rule) (node : Node) : Prop :=
  ∀ helper position, .modifying helper position ∉ (print (some rule) (some node)).events

theorem Visit.event?_eq_modifying_iff {rule : Rule} {visit : Visit} {helper : String}
    {position : Nat} :
    visit.event? (some rule) = some (.modifying helper position) ↔
      rule.Picks visit ∧ rule.helper = helper ∧ rule.position = position := by
  obtain ⟨node, place⟩ := visit
  cases node with
  | unknown => simp [Visit.event?, Node.event?, Rule.Picks, Node.isSub]
  | _ => simp [Visit.event?, Node.event?, Rule.event?]

/-- The events tell whether a rule picks anything. -/
theorem Rule.reportsNone_iff {rule : Rule} {node : Node} :
    rule.ReportsNone node ↔ ∀ visit ∈ node.visits, ¬ rule.Picks visit := by
  have hevents : ∀ helper position,
      .modifying helper position ∈ (print (some rule) (some node)).events ↔
        ∃ visit ∈ node.visits, rule.Picks visit ∧ rule.helper = helper ∧
          rule.position = position := by
    intro helper position
    rw [print_events, List.mem_cons, List.mem_filterMap]
    simp [Visit.event?_eq_modifying_iff]
  constructor
  · intro hnone visit hvisit hpicks
    exact hnone rule.helper rule.position
      ((hevents _ _).mpr ⟨visit, hvisit, hpicks, rfl, rfl⟩)
  · intro hvisits helper position hevent
    obtain ⟨visit, hvisit, hpicks, -, -⟩ := (hevents helper position).mp hevent
    exact hvisits visit hvisit hpicks

theorem Node.exists_args_of_mem_steps {node : Node} {step : Visit} {callee : String}
    {position : Nat} (hstep : step ∈ node.steps) (hplace : step.place = some (callee, position)) :
    ∃ args, node = .sub callee args ∧ args.params[position - 1]? = some step.node := by
  -- Only a call gives places to the visits below it.
  have hunplaced : ∀ nodes, step ∉ Visit.ofNodes nodes := by
    intro nodes hnodes
    rw [(Visit.mem_ofNodes.mp hnodes).2] at hplace
    cases hplace
  cases node with
  | sub path args =>
    obtain ⟨i, hparam, hplace'⟩ := Visit.mem_ofParams.mp hstep
    rw [hplace, Option.some_inj, Prod.mk.injEq] at hplace'
    obtain ⟨rfl, rfl⟩ := hplace'
    exact ⟨args, rfl, hparam⟩
  | program | block | mustache | partialTag | partialBlock => exact absurd hstep (hunplaced _)
  | _ => cases hstep

/-- A visit of an argument, other than the one that is started with, is one of an argument of a call
that the tree holds. -/
theorem Visit.exists_call {visit inner : Visit} {callee : String} {position : Nat}
    (hinner : inner ∈ visit.visits) (hplace : inner.place = some (callee, position)) :
    inner = visit ∨ ∃ args, Node.sub callee args ∈ visit.node.nodes ∧
      args.params[position - 1]? = some inner.node := by
  induction visit using Visit.induction with
  | step visit ih =>
    rw [Visit.visits_eq, List.mem_append, List.mem_flatMap, List.mem_singleton] at hinner
    rcases hinner with ⟨below, hbelow, hinner⟩ | hself
    · right
      rcases ih below hbelow hinner with rfl | ⟨args, hcall, hparam⟩
      · obtain ⟨args, hnode, hparam⟩ := Node.exists_args_of_mem_steps hbelow hplace
        exact ⟨args, hnode ▸ visit.node.mem_nodes_self, hparam⟩
      · obtain ⟨child, hchild, hnode⟩ := Node.exists_child_of_mem_steps hbelow
        exact ⟨args, Node.mem_nodes_of_child hchild (Node.mem_nodes_trans hnode hcall), hparam⟩
    · exact .inl hself

/-- A rule picks nothing in a tree where no call of its helper has a call at its position. -/
theorem Rule.not_picks_of_no_call {rule : Rule} {node : Node}
    (hcalls : ∀ args, Node.sub rule.helper args ∈ node.nodes →
      ∀ param, args.params[rule.position - 1]? = some param → param.kind? ≠ some .sub) :
    ∀ visit ∈ node.visits, ¬ rule.Picks visit := by
  rintro visit hvisit ⟨-, hsub, hplace⟩
  rcases Visit.exists_call hvisit hplace with rfl | ⟨args, hcall, hparam⟩
  · cases hplace
  · exact hcalls args hcall visit.node hparam (Node.isSub_iff.mp hsub)

/-- **A rule shows in nothing but what it modifies.** The text of a tree is the one that it has
without a rule if the modifiers give back every text, or if no modification is reported; and none is
if the rule is not one for calls, or if no call of its helper has a call at its position. -/
theorem text_eq_of_unmodified (rule : Rule) (node : Node) :
    ((∀ text, rule.apply text = text) ∨ rule.ReportsNone node →
        node.text (some rule) = node.text none) ∧
      (rule.paramKind ≠ .sub ∨
          (∀ args, Node.sub rule.helper args ∈ node.nodes →
            ∀ param, args.params[rule.position - 1]? = some param → param.kind? ≠ some .sub) →
        rule.ReportsNone node) := by
  constructor
  · intro hrule
    have hfixed : ∀ inner ∈ node.visits, rule.Picks inner →
        rule.apply (inner.node.text (some rule)) = inner.node.text (some rule) := by
      intro inner hinner hpicks
      rcases hrule with hidentity | hnone
      · exact hidentity _
      · exact absurd hpicks (Rule.reportsNone_iff.mp hnone inner hinner)
    have htext := Visit.text_of_fixed hfixed
    rwa [Visit.text_of_unplaced rule rfl] at htext
  · intro hrule
    rw [Rule.reportsNone_iff]
    rcases hrule with hkind | hcalls
    · exact fun visit _ hpicks => hkind hpicks.1
    · exact Rule.not_picks_of_no_call hcalls

/-- A call of `filter` with a path for its second argument, and beside it, as the second argument of
another helper, a call. -/
def filterByPath : Node :=
  .sub "all" ⟨[.sub "filter" ⟨[.path "items", .path "id"], none⟩, .sub "id" {}], none⟩

theorem text_filterByPath :
    (∀ args, Node.sub quoteSecondOfFilter.helper args ∈ filterByPath.nodes → ∀ param,
        args.params[quoteSecondOfFilter.position - 1]? = some param → param.kind? ≠ some .sub) ∧
      quoteSecondOfFilter.ReportsNone filterByPath ∧
      filterByPath.text (some quoteSecondOfFilter) = filterByPath.text none := by
  have hcalls : ∀ args, Node.sub quoteSecondOfFilter.helper args ∈ filterByPath.nodes → ∀ param,
      args.params[quoteSecondOfFilter.position - 1]? = some param → param.kind? ≠ some .sub := by
    simp [filterByPath, quoteSecondOfFilter, Node.nodes_eq, Node.children, Arguments.children,
      Arguments.pairs, Node.kind?]
  have hnone := (text_eq_of_unmodified quoteSecondOfFilter filterByPath).2 (.inr hcalls)
  exact ⟨hcalls, hnone, (text_eq_of_unmodified quoteSecondOfFilter filterByPath).1 (.inr hnone)⟩

end TemplatePrinter
