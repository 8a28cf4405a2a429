import TemplatePrinter.Node.ElseChain
import TemplatePrinter.Proofs.Printer.Text
/-!
# Else chains clause by clause

The printer follows an inverse program from block to block and writes a clause for each. A chain can
also be read the other way round: the first block below a block is written with all that follows it,
and it does not matter to that text that the block stands in a chain. Both readings give one text.
A block that is chained is written from its path on as it is written alone, and the chain is the
clauses of its blocks, each written as if its block had no inverse program.
-/

namespace TemplatePrinter

/-! ### Chains by clauses -/

theorem elseClauses_chained (block : Block) (tail : List Node) (names : Option (List String)) :
    elseClauses (some ⟨.block block :: tail, names⟩) =
      .chained block :: elseClauses block.inverse := by
  rw [elseClauses, Block.elseChain_eq]

theorem elseClauses_final {program : Program}
    (hfirst : ∀ node ∈ program.body.head?, node.isBlock = false) :
    elseClauses (some program) = [.final program] := by
  obtain ⟨body, names⟩ := program
  cases body with
  | nil => rfl
  | cons node rest =>
    have hnode : node.isBlock = false := hfirst node rfl
    cases node with
    | block block => cases hnode
    | _ => rfl

/-- Induction along an else chain. A clause hands on to the inverse program of its block. -/
@[elab_as_elim]
theorem elseInduction {motive : Option Program → Prop} (absent : motive none)
    (chained : ∀ block tail names, motive block.inverse →
      motive (some ⟨.block block :: tail, names⟩))
    (final : ∀ program, (∀ node ∈ program.body.head?, node.isBlock = false) →
      motive (some program))
    (inverse : Option Program) : motive inverse := by
  induction hsize : sizeOf inverse using Nat.strongRecOn generalizing inverse with
  | ind size ih =>
    rcases inverse with _ | ⟨body, names⟩
    · exact absent
    cases body with
    | nil => exact final ⟨[], names⟩ (by simp)
    | cons node rest =>
      cases node with
      | block block =>
        refine chained block rest names (ih _ ?_ block.inverse rfl)
        obtain ⟨path, args, main, inverse⟩ := block
        simp only [Option.some.sizeOf_spec, Program.mk.sizeOf_spec, List.cons.sizeOf_spec,
          Node.block.sizeOf_spec, Block.mk.sizeOf_spec] at hsize
        show sizeOf inverse < size
        omega
      | _ => exact final _ (by simp [Node.isBlock])

theorem sizeOf_le_of_mem_elseClauses {inverse : Option Program} {clause : Clause}
    (hclause : clause ∈ elseClauses inverse) : sizeOf clause ≤ sizeOf inverse := by
  induction inverse using elseInduction with
  | absent => simp [elseClauses] at hclause
  | chained block tail names ih =>
    have hinverse : sizeOf block.inverse ≤ sizeOf block := by
      obtain ⟨path, args, main, inverse⟩ := block
      simp only [Block.mk.sizeOf_spec]
      omega
    simp only [Option.some.sizeOf_spec, Program.mk.sizeOf_spec, List.cons.sizeOf_spec,
      Node.block.sizeOf_spec]
    rw [elseClauses_chained, List.mem_cons] at hclause
    rcases hclause with rfl | hlater
    · simp only [Clause.chained.sizeOf_spec]
      omega
    · have hle := ih hlater
      omega
  | final program hfirst =>
    rw [elseClauses_final hfirst, List.mem_singleton] at hclause
    rw [hclause]
    exact Nat.le_refl _

theorem Block.sizeOf_clause_lt {block : Block} {clause : Clause}
    (hclause : clause ∈ block.elseChain) : sizeOf clause < sizeOf block := by
  rw [Block.elseChain_eq] at hclause
  obtain ⟨path, args, main, inverse⟩ := block
  have hle : sizeOf clause ≤ sizeOf inverse := sizeOf_le_of_mem_elseClauses hclause
  simp only [Block.mk.sizeOf_spec]
  omega

/-! ### The text of a chain -/

/-- The tag that closes a block. -/
def Block.endTag (block : Block) : String :=
  Delimiter.openEnd ++ block.path ++ Delimiter.closeTag

/-- A block from its path to the end of its main program. -/
def Block.headText (block : Block) (rule : Option Rule) : String :=
  clauseText rule block.path block.args block.main

/-- A clause of a chain. Of a chained block it shows the head, of the final program the whole. -/
def Clause.text (rule : Option Rule) : Clause → String
  | .chained block => Delimiter.openElse ++ block.headText rule
  | .final program => Delimiter.bareElse ++ (Node.program program).text rule

theorem elseText_eq_join (rule : Option Rule) (inverse : Option Program) :
    elseText rule inverse = String.join ((elseClauses inverse).map (Clause.text rule)) := by
  induction inverse using elseInduction with
  | absent => rfl
  | chained block tail names ih =>
    rw [elseText_chained, elseClauses_chained, List.map_cons, String.join_cons, ← ih, Clause.text,
      Block.insideText, Block.headText, String.append_assoc]
  | final program hfirst =>
    rw [elseText_final rule program hfirst, elseClauses_final hfirst, List.map_singleton,
      String.join_cons, String.join_nil, String.append_empty, Clause.text, Node.text_program]

/-- **A chained block is written as it is written alone.** The text of a block is its inside between
its tags, and without an inverse program its inside is its head. When an inverse program starts with
a block, the inside of that block, with all clauses that come after it, follows the head. Step by
step along the chain this makes the heads of all chained blocks in order, then the final program if
there is one. -/
theorem Block.text_along_chain (rule : Option Rule) (block : Block) :
    (Node.block block).text rule =
        Delimiter.openBlock ++ block.insideText rule ++ block.endTag ∧
      (Node.block { block with inverse := none }).text rule =
        Delimiter.openBlock ++ block.headText rule ++ block.endTag ∧
      (∀ next tail names, block.inverse = some ⟨.block next :: tail, names⟩ →
        (Node.block block).text rule =
          Delimiter.openBlock ++ block.headText rule
            ++ (Delimiter.openElse ++ next.insideText rule) ++ block.endTag) ∧
      (Node.block block).text rule =
        Delimiter.openBlock ++ block.headText rule
          ++ String.join (block.elseChain.map (Clause.text rule)) ++ block.endTag := by
  have htext : (Node.block block).text rule =
      Delimiter.openBlock ++ block.insideText rule ++ block.endTag := Node.text_block block rule
  have hinside : ∀ rest, elseText rule block.inverse = rest →
      Delimiter.openBlock ++ block.insideText rule =
        Delimiter.openBlock ++ block.headText rule ++ rest := by
    rintro rest rfl
    rw [String.append_assoc]
    rfl
  refine ⟨htext, ?alone, fun next tail names hinverse => ?chained, ?whole⟩
  case alone =>
    have hnone : elseText rule none = "" := rfl
    rw [Node.text_block, Block.insideText, hnone, String.append_empty]
    rfl
  case chained =>
    have hclauses : elseText rule block.inverse = Delimiter.openElse ++ next.insideText rule := by
      rw [hinverse, elseText_chained]
    rw [htext, hinside _ hclauses]
  case whole =>
    rw [htext, hinside _ (elseText_eq_join rule block.inverse), Block.elseChain_eq]

end TemplatePrinter
