import TemplatePrinter.Node.Basic
/-!
# Kinds of nodes

The fourteen kinds of nodes, each with the name it goes by. A node of unknown kind has none. Kinds
are ordered as they are declared.
-/

namespace TemplatePrinter

inductive Kind where
  | program
  | block
  | mustache
  | content
  | comment
  | path
  | sub
  | partialTag
  | partialBlock
  | string
  | number
  | boolean
  | undefined
  | null
deriving DecidableEq

namespace Kind

/-- All kinds in order. -/
def all : List Kind :=
  [.program, .block, .mustache, .content, .comment, .path, .sub, .partialTag, .partialBlock,
    .string, .number, .boolean, .undefined, .null]

def name : Kind → String
  | .program => "Program"
  | .block => "BlockStatement"
  | .mustache => "MustacheStatement"
  | .content => "ContentStatement"
  | .comment => "CommentStatement"
  | .path => "PathExpression"
  | .sub => "SubExpression"
  | .partialTag => "PartialStatement"
  | .partialBlock => "PartialBlockStatement"
  | .string => "StringLiteral"
  | .number => "NumberLiteral"
  | .boolean => "BooleanLiteral"
  | .undefined => "UndefinedLiteral"
  | .null => "NullLiteral"

/-- The kind that goes by a name. -/
def ofName? (name : String) : Option Kind :=
  all.find? (·.name == name)

/-- The place of a kind in the order. -/
def rank (kind : Kind) : Nat :=
  all.idxOf kind

/-- The kinds in order, repetitions kept. -/
def sort (kinds : List Kind) : List Kind :=
  kinds.mergeSort fun a b => decide (a.rank ≤ b.rank)

theorem mem_all (kind : Kind) : kind ∈ all := by
  cases kind <;> simp [all]

theorem ofName?_name (kind : Kind) : ofName? kind.name = some kind := by
  cases kind <;> decide

theorem ofName?_eq_some_iff {name : String} {kind : Kind} :
    ofName? name = some kind ↔ kind.name = name := by
  constructor
  · intro h
    simpa using List.find?_some h
  · rintro rfl
    exact ofName?_name kind

end Kind

/-- The kind of a node, if it is known. -/
def Node.kind? : Node → Option Kind
  | .program _ => some .program
  | .block _ => some .block
  | .mustache .. => some .mustache
  | .content _ => some .content
  | .comment _ => some .comment
  | .path _ => some .path
  | .sub .. => some .sub
  | .partialTag .. => some .partialTag
  | .partialBlock .. => some .partialBlock
  | .string _ => some .string
  | .number _ => some .number
  | .boolean _ => some .boolean
  | .undefined => some .undefined
  | .null => some .null
  | .unknown => none

end TemplatePrinter
