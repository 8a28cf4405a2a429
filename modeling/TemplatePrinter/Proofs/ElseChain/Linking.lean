import TemplatePrinter.Proofs.ElseChain.Clauses
/-!
# Linking else chains

A chain hides a list of blocks and perhaps a final program in the inverse programs of blocks. To link
is to hide them, to walk is to find them again. This module says that each undoes the other. Blocks
that are linked are found in the order in which they were given, each with the rest of the chain in
its own inverse program. Whatever an inverse program holds, a walk along it comes to an end, and to
link what it finds gives back the program, except for what a chain has no place for: the statements
after a leading block, and names on a program that leads to a block.
-/

namespace TemplatePrinter

/-! ### Walking -/

/-- Walking along a chain meets these clauses and is over. -/
inductive Walk : Option Program → List Clause → Prop
  | ended {inverse : Option Program} : nextClause? inverse = none → Walk inverse []
  | step {inverse rest : Option Program} {clause : Clause} {clauses : List Clause} :
      nextClause? inverse = some (clause, rest) → Walk rest clauses → Walk inverse (clause :: clauses)

theorem nextClause?_chained (block : Block) (tail : List Node) (names : Option (List String)) :
    nextClause? (some ⟨.block block :: tail, names⟩) = some (.chained block, block.inverse) := rfl

theorem nextClause?_final {program : Program}
    (hfirst : ∀ node ∈ program.body.head?, node.isBlock = false) :
    nextClause? (some program) = some (.final program, none) := by
  obtain ⟨body, names⟩ := program
  cases body with
  | nil => rfl
  | cons node rest =>
    have hnode : node.isBlock = false := hfirst node rfl
    cases node with
    | block block => cases hnode
    | _ => rfl

/-- The clauses of a chain are those that the steps along it give. -/
theorem elseClauses_eq_step (inverse : Option Program) :
    elseClauses inverse =
      match nextClause? inverse with
      | none => []
      | some (clause, rest) => clause :: elseClauses rest := by
  induction inverse using elseInduction with
  | absent => rfl
  | chained block tail names _ => exact elseClauses_chained block tail names
  | final program hfirst =>
    rw [nextClause?_final hfirst]
    exact elseClauses_final hfirst

/-- A walk always ends, and it meets the clauses of the chain and no others. -/
theorem walk_iff {inverse : Option Program} {clauses : List Clause} :
    Walk inverse clauses ↔ clauses = elseClauses inverse := by
  constructor
  · intro hwalk
    -- On the walk itself: one step of it is one clause of the chain.
    induction hwalk with
    | ended hended => rw [elseClauses_eq_step, hended]
    | step hnext _ ih => rw [elseClauses_eq_step, hnext, ih]
  · rintro rfl
    induction inverse using elseInduction with
    | absent => exact .ended rfl
    | chained block tail names ih =>
      rw [elseClauses_chained]
      exact .step (nextClause?_chained block tail names) ih
    | final program hfirst =>
      rw [elseClauses_final hfirst]
      exact .step (nextClause?_final hfirst) (.ended rfl)

/-! ### Linking -/

/-- The inverse program that leads along the blocks to the final program. Each block gets what comes
after it in the place of the inverse program that it has. -/
def link (blocks : List Block) (final : Option Program) : Option Program :=
  blocks.foldr (fun block rest => some ⟨[.block { block with inverse := rest }], none⟩) final

/-- The blocks of a chain as they stand in it. -/
def linked : List Block → Option Program → List Block
  | [], _ => []
  | block :: rest, final => { block with inverse := link rest final } :: linked rest final

/-- A chain can end like this: with no program, or with one that does not start with a block. -/
def IsFinal (final : Option Program) : Prop :=
  ∀ program ∈ final, ∀ node ∈ program.body.head?, node.isBlock = false

/-- Two inverse programs that differ at most in what a chain has no place for. -/
inductive LeadAlike : Option Program → Option Program → Prop
  | same (inverse : Option Program) : LeadAlike inverse inverse
  | chained {path : String} {args : Arguments} {main : Program} {inverse inverse' : Option Program}
      {tail tail' : List Node} {names names' : Option (List String)} :
      LeadAlike inverse inverse' →
        LeadAlike (some ⟨.block ⟨path, args, main, inverse⟩ :: tail, names⟩)
          (some ⟨.block ⟨path, args, main, inverse'⟩ :: tail', names'⟩)

theorem elseClauses_link {blocks : List Block} {final : Option Program} (hfinal : IsFinal final) :
    elseClauses (link blocks final) =
      (linked blocks final).map .chained ++ final.toList.map .final := by
  induction blocks with
  | nil =>
    cases final with
    | none => rfl
    | some program => exact elseClauses_final (hfinal program rfl)
  | cons block rest ih =>
    rw [link, List.foldr_cons, ← link, elseClauses_chained, ih]
    rfl

theorem exists_link (inverse : Option Program) :
    ∃ blocks final, IsFinal final ∧
      elseClauses inverse = blocks.map .chained ++ final.toList.map .final ∧
      LeadAlike (link blocks final) inverse := by
  induction inverse using elseInduction with
  | absent => exact ⟨[], none, nofun, rfl, .same none⟩
  | chained block tail names ih =>
    obtain ⟨blocks, final, hfinal, hclauses, halike⟩ := ih
    -- The block keeps all that it has but its inverse program, which is linked anew.
    obtain ⟨path, args, main, inverse⟩ := block
    refine ⟨⟨path, args, main, inverse⟩ :: blocks, final, hfinal, ?_, .chained halike⟩
    rw [elseClauses_chained, hclauses]
    rfl
  | final program hfirst =>
    refine ⟨[], some program, ?_, ?_, .same _⟩
    · intro other hother
      obtain rfl := Option.mem_some_iff.mp hother
      exact hfirst
    · rw [elseClauses_final hfirst]
      rfl

/-- **Linking and walking undo each other.** A walk along a chain meets the clauses of the chain and
is over. The chain of a block that is linked to others consists of those in order, as they stand in
it, and of the final program if there is one. And every chain is made of blocks and at most one final
program, which comes last and does not start with a block; linked again, they lead alike. -/
theorem Block.elseChain_link (block : Block) :
    (∀ clauses, Walk block.inverse clauses ↔ clauses = block.elseChain) ∧
      (∀ blocks final, IsFinal final →
        Block.elseChain { block with inverse := link blocks final } =
          (linked blocks final).map .chained ++ final.toList.map .final) ∧
      ∃ blocks final, IsFinal final ∧
        block.elseChain = blocks.map .chained ++ final.toList.map .final ∧
        LeadAlike (link blocks final) block.inverse := by
  rw [Block.elseChain_eq]
  refine ⟨fun clauses => walk_iff, fun blocks final hfinal => ?_, exists_link block.inverse⟩
  rw [Block.elseChain_eq]
  exact elseClauses_link hfinal

end TemplatePrinter
