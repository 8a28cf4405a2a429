import TemplatePrinter.Node.Basic
/-!
# Else chains

A block whose inverse program starts with another block reads as `else if`: the second block is a
clause of the first. The chain of a block follows such clauses until an inverse program starts
with something else, which is the final clause, or until there is no inverse program. What follows
a leading block in an inverse program does not belong to the chain.
-/

namespace TemplatePrinter

/-- One clause of an else chain. -/
inductive Clause where
  | chained (block : Block)
  | final (program : Program)

/-- The clauses after the main program of a block. -/
def Block.elseChain : Block → List Clause
  | ⟨_, _, _, none⟩ => []
  | ⟨_, _, _, some ⟨.block next :: _, _⟩⟩ => .chained next :: next.elseChain
  | ⟨_, _, _, some program⟩ => [.final program]

/-- The clauses that an inverse program starts. -/
def elseClauses : Option Program → List Clause
  | none => []
  | some ⟨.block next :: _, _⟩ => .chained next :: next.elseChain
  | some program => [.final program]

/-- One step along a chain: the clause that an inverse program starts, and the inverse program that
comes after it. The chain is over when there is no program to go on with. -/
def nextClause? : Option Program → Option (Clause × Option Program)
  | none => none
  | some ⟨.block next :: _, _⟩ => some (.chained next, next.inverse)
  | some program => some (.final program, none)

theorem Block.elseChain_eq (block : Block) : block.elseChain = elseClauses block.inverse := by
  unfold Block.elseChain elseClauses
  split <;> simp_all

end TemplatePrinter
