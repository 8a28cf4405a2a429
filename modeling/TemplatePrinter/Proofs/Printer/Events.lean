import TemplatePrinter.Proofs.Printer.Visits
/-!
# The events of a run

Beside its text, the printer leaves a record of events. It holds nothing that the visits of the
tree do not say: after the event that starts the run there is one event for every visit that has
something to report, in the order in which the visits are done. A visit of an unknown node reports
that it is passed over, and a visit of an argument that the rule picks reports that it is about to
be modified. The modifiers themselves come after their event and leave no trace in the record.
-/

namespace TemplatePrinter

/-! ### What a visit reports -/

/-- Whether a node is a call that stands for an expression. -/
def Node.isSub : Node → Bool
  | .sub .. => true
  | _ => false

theorem Node.isSub_iff {node : Node} : node.isSub ↔ node.kind? = some .sub := by
  cases node <;> simp [Node.isSub, Node.kind?]

/-- The visit is one of an argument that the rule is for: a call, at the position of the rule in a
call of the helper of the rule, where the rule asks for calls. -/
def Rule.Picks (rule : Rule) (visit : Visit) : Prop :=
  rule.paramKind = .sub ∧ visit.node.isSub ∧ visit.place = some (rule.helper, rule.position)

instance (rule : Rule) (visit : Visit) : Decidable (rule.Picks visit) :=
  inferInstanceAs (Decidable (_ ∧ _ ∧ _))

/-- What is reported of an argument when it is done. -/
def Rule.event? (rule : Rule) (visit : Visit) : Option Event :=
  if rule.Picks visit then some (.modifying rule.helper rule.position) else none

/-- What is reported of a node wherever it stands. -/
def Node.event? : Node → Option Event
  | .unknown => some .skipped
  | _ => none

/-- What is reported of a visit. -/
def Visit.event? (rule : Option Rule) (visit : Visit) : Option Event :=
  visit.node.event?.or (rule.bind fun rule => rule.event? visit)

theorem Rule.selects_iff_picks {rule : Rule} {callee : String} {position : Nat} {param : Node} :
    rule.selects callee position param ↔ rule.Picks ⟨param, some (callee, position)⟩ := by
  rw [Rule.selects_iff, Rule.Picks, Node.isSub_iff, Option.some_inj, Prod.mk.injEq]
  constructor
  · rintro ⟨hkind, hposition, hparam, hhelper⟩
    exact ⟨hkind, hparam, hhelper.symm, hposition.symm⟩
  · rintro ⟨hkind, hparam, hhelper, hposition⟩
    exact ⟨hkind, hposition.symm, hparam, hhelper.symm⟩

theorem Rule.event?_of_unplaced (rule : Rule) (node : Node) : rule.event? ⟨node, none⟩ = none :=
  if_neg fun hpicks => nomatch hpicks.2.2

/-- An unknown node is never picked, so a visit has one event at most. -/
theorem Visit.toList_event? (rule : Option Rule) (visit : Visit) :
    (visit.event? rule).toList =
      visit.node.event?.toList ++ (rule.bind fun rule => rule.event? visit).toList := by
  obtain ⟨node, place⟩ := visit
  cases node with
  | unknown =>
    have hnone : (rule.bind fun rule => rule.event? ⟨.unknown, place⟩) = none := by
      cases rule with
      | none => rfl
      | some rule => exact if_neg fun hpicks => nomatch hpicks.2.1
    rw [Visit.event?, hnone]
    rfl
  | _ => rfl

/-! ### The events of the parts -/

namespace Output

@[simp] theorem events_spaced (out : Output) : out.spaced.events = out.events := by
  unfold spaced
  split
  · rfl
  · rw [events_append, events_ofText, List.nil_append]

@[simp] theorem events_joined (outs : List Output) :
    (joined outs).events = outs.flatMap Output.events := by
  have heach : ∀ rest : List Output, (eachSpaced rest).events = rest.flatMap Output.events := by
    intro rest
    induction rest with
    | nil => rfl
    | cons out rest ih => simp [eachSpaced, ih]
  cases outs with
  | nil => rfl
  | cons out rest => simp [joined, heach]

end Output

/-- The events of a visit as the printer leaves them: those of its node, then its own. -/
def Visit.reports (rule : Option Rule) (visit : Visit) : List Event :=
  (visit.node.render rule).events ++ (rule.bind fun rule => rule.event? visit).toList

section Parts

variable (rule : Option Rule)

theorem reports_of_unplaced (node : Node) :
    Visit.reports rule ⟨node, none⟩ = (node.render rule).events := by
  cases rule with
  | none => exact List.append_nil _
  | some rule =>
    rw [Visit.reports, Option.bind_some, Rule.event?_of_unplaced]
    exact List.append_nil _

theorem events_modified (callee : String) (position : Nat) (param : Node) :
    (modified (selected? rule (some callee) position param) position (param.render rule)).events =
      Visit.reports rule ⟨param, some (callee, position)⟩ := by
  cases rule with
  | none => exact (List.append_nil _).symm
  | some rule =>
    rw [Visit.reports, Option.bind_some, Rule.event?, selected?]
    by_cases hselects : rule.selects callee position param
    · have hposition : rule.position = position := (Rule.selects_iff.mp hselects).2.1
      rw [if_pos hselects, if_pos (Rule.selects_iff_picks.mp hselects), hposition]
      rfl
    · rw [if_neg hselects, if_neg (mt Rule.selects_iff_picks.mpr hselects)]
      exact (List.append_nil _).symm

theorem flatMap_reports_ofNodes (nodes : List Node) :
    (Visit.ofNodes nodes).flatMap (Visit.reports rule) =
      nodes.flatMap fun node => (node.render rule).events := by
  simp only [Visit.ofNodes, List.flatMap_map, reports_of_unplaced]

theorem events_renderParams (callee : String) (start : Nat) (params : List Node) :
    (renderParams rule (some callee) start params).flatMap Output.events =
      (params.mapIdx fun i param => Visit.mk param (some (callee, start + i))).flatMap
        (Visit.reports rule) := by
  induction params generalizing start with
  | nil => rfl
  | cons param rest ih =>
    rw [renderParams, List.flatMap_cons, ih, events_modified, List.mapIdx_cons, List.flatMap_cons]
    simp only [Nat.add_zero, Nat.add_assoc, Nat.add_comm 1]

theorem events_renderParams_uncalled (start : Nat) (params : List Node) :
    (renderParams rule none start params).flatMap Output.events =
      params.flatMap fun param => (param.render rule).events := by
  induction params generalizing start with
  | nil => rfl
  | cons param rest ih =>
    rw [renderParams, List.flatMap_cons, ih, selected?_uncalled, List.flatMap_cons]
    rfl

theorem events_renderPairs (pairs : List Pair) :
    (renderPairs rule pairs).flatMap Output.events =
      (pairs.map Pair.value).flatMap fun value => (value.render rule).events := by
  induction pairs with
  | nil => rfl
  | cons pair rest ih =>
    obtain ⟨key, value⟩ := pair
    rw [renderPairs, List.flatMap_cons, ih, List.map_cons, List.flatMap_cons]
    rfl

theorem events_renderRawPairs (pairs : List Pair) :
    (renderRawPairs pairs).flatMap Output.events = [] := by
  induction pairs with
  | nil => rfl
  | cons pair rest ih =>
    obtain ⟨key, value⟩ := pair
    rw [renderRawPairs, List.flatMap_cons, ih]
    rfl

theorem Arguments.events_render (args : Arguments) :
    (args.render rule).events = args.children.flatMap fun child => (child.render rule).events := by
  obtain ⟨params, hash⟩ := args
  cases hash with
  | none =>
    simp [Arguments.render, events_renderParams_uncalled, Arguments.children, Arguments.pairs]
  | some pairs =>
    simp only [Arguments.render, Output.events_append, Output.events_spaced, Output.events_joined,
      events_renderParams_uncalled, events_renderPairs, Arguments.children, Arguments.pairs,
      List.flatMap_append]

theorem PartialName.events_render (name : PartialName) :
    (name.render rule).events = name.params.flatMap fun param => (param.render rule).events := by
  cases name with
  | path text => rfl
  | sub callee args =>
    obtain ⟨params, hash⟩ := args
    simp [PartialName.render, events_renderParams_uncalled, PartialName.params]

theorem events_renderBody (body : List Node) :
    (renderBody rule body).events = body.flatMap fun node => (node.render rule).events := by
  induction body with
  | nil => rfl
  | cons node rest ih => rw [renderBody, Output.events_append, ih, List.flatMap_cons]

theorem events_renderClause (path : String) (args : Arguments) (main : Program) :
    (renderClause path main (args.render rule) (main.render rule)).events =
      (args.children ++ main.body).flatMap fun node => (node.render rule).events := by
  obtain ⟨body, names⟩ := main
  simp [renderClause, Program.render, args.events_render rule, events_renderBody]

/-- The loop along the else chain reports clause by clause. -/
theorem events_renderElse (inverse : Option Program) :
    (renderElse rule inverse).events = ((elseClauses inverse).flatMap Clause.nodes).flatMap
      fun node => (node.render rule).events := by
  induction inverse using elseInduction with
  | absent => rfl
  | chained block tail names ih =>
    obtain ⟨path, args, main, inverse⟩ := block
    rw [elseClauses_chained, List.flatMap_cons, List.flatMap_append, renderElse,
      Output.events_append, ih, Output.events_append, events_renderClause]
    rfl
  | final program hfirst =>
    obtain ⟨body, names⟩ := program
    have hrender : renderElse rule (some ⟨body, names⟩) =
        Output.ofText Delimiter.bareElse ++ renderBody rule body := by
      cases body with
      | nil => rfl
      | cons node rest =>
        have hnode : node.isBlock = false := hfirst node rfl
        cases node with
        | block block => cases hnode
        | _ => rfl
    rw [hrender, Output.events_append, events_renderBody, elseClauses_final hfirst,
      List.flatMap_singleton]
    rfl

/-- One step: a node reports what the visits directly below it report, and then itself. -/
theorem Node.events_render (node : Node) :
    (node.render rule).events =
      node.steps.flatMap (Visit.reports rule) ++ node.event?.toList := by
  cases node with
  | program program =>
    obtain ⟨body, names⟩ := program
    simp [Node.render, Program.render, events_renderBody, Node.steps, flatMap_reports_ofNodes,
      Node.event?]
  | block block =>
    obtain ⟨path, args, main, inverse⟩ := block
    rw [Node.steps, flatMap_reports_ofNodes, Block.elseChain_eq, List.flatMap_append,
      ← events_renderClause rule path, ← events_renderElse, Node.render, Block.render]
    simp [Node.event?]
  | mustache path args escaped =>
    simp [Node.render, args.events_render rule, Node.steps, flatMap_reports_ofNodes, Node.event?]
  | sub callee args =>
    obtain ⟨params, hash⟩ := args
    simp [Node.render, events_renderParams, events_renderRawPairs, Node.steps, Visit.ofParams,
      Node.event?, Nat.add_comm 1]
  | partialTag name args =>
    simp [Node.render, name.events_render rule, args.events_render rule, Node.steps,
      flatMap_reports_ofNodes, Node.event?]
  | partialBlock name args fallback =>
    simp [Node.render, name.events_render rule, args.events_render rule, Node.steps,
      flatMap_reports_ofNodes, Node.event?]
  | _ => rfl

/-- A whole run: a visit reports what all visits in it have to report, as they are done. -/
theorem Visit.filterMap_visits (visit : Visit) :
    visit.visits.filterMap (Visit.event? rule) = visit.reports rule := by
  induction visit using Visit.induction with
  | step visit ih =>
    have hsteps : (visit.node.steps.flatMap Visit.visits).filterMap (Visit.event? rule) =
        visit.node.steps.flatMap (Visit.reports rule) := by
      rw [List.filterMap_flatMap, List.flatMap_def, List.flatMap_def, List.map_congr_left ih]
    have hown : [visit].filterMap (Visit.event? rule) = (visit.event? rule).toList := by
      cases hevent : visit.event? rule <;> simp [hevent]
    rw [Visit.visits_eq, List.filterMap_append, hsteps, hown, Visit.toList_event?, Visit.reports,
      Node.events_render, List.append_assoc]

theorem print_events (node : Node) :
    (print rule (some node)).events =
      .started node.kind? rule.isSome :: node.visits.filterMap (Visit.event? rule) := by
  rw [print_some, Output.events_append, Node.visits, Visit.filterMap_visits, reports_of_unplaced]
  rfl

end Parts

/-! ### Events and modifiers -/

/-- The rule with other modifiers. -/
def Rule.withModifiers (rule : Rule) (modifiers : List (String → String)) : Rule :=
  { rule with modifiers := modifiers }

theorem Visit.event?_withModifiers (rule : Option Rule) (modifiers : List (String → String)) :
    Visit.event? (rule.map (·.withModifiers modifiers)) = Visit.event? rule := by
  cases rule <;> rfl

/-- **The events are the visits that have something to report.** One event starts the run, then come
those of the visits as they are done, and no other; the modifiers of the rule have no part in
them. -/
theorem events_eq_visits (rule : Option Rule) (node : Node) :
    (print rule (some node)).events =
        .started node.kind? rule.isSome :: node.visits.filterMap (Visit.event? rule) ∧
      ∀ modifiers, (print (rule.map (·.withModifiers modifiers)) (some node)).events =
        (print rule (some node)).events := by
  refine ⟨print_events rule node, fun modifiers => ?_⟩
  rw [print_events, print_events, Visit.event?_withModifiers, Option.isSome_map]

end TemplatePrinter
