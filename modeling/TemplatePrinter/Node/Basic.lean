import TemplatePrinter.Number.Layout
/-!
# Template trees

A template is a tree of nodes: statements that stand in the body of a program, and the expressions
that they take as arguments. The tree is closed, with one constructor for each kind of node and
one for a node whose kind nobody knows. Nothing ties a kind to a place: any node may stand in a
body, as a parameter or as the value of a pair.

A program is a list of nodes with the names that the block around it binds. A block has a path,
arguments, a main program and perhaps an inverse program, the one that `else` introduces.
-/

namespace TemplatePrinter

mutual

inductive Node where
  | program (program : Program)
  | block (block : Block)
  | mustache (path : String) (args : Arguments) (escaped : Bool)
  | content (text : String)
  | comment (text : String)
  | path (text : String)
  | sub (path : String) (args : Arguments)
  | partialTag (name : PartialName) (args : Arguments)
  | partialBlock (name : PartialName) (args : Arguments) (fallback : Program)
  | string (value : String)
  | number (value : Binary64)
  | boolean (value : Bool)
  | undefined
  | null
  | unknown

/-- A list of statements, and the names that are bound in it. -/
structure Program where
  body : List Node := []
  blockParams : Option (List String) := none

/-- An open and a close tag with programs between them. -/
structure Block where
  path : String
  args : Arguments
  main : Program
  inverse : Option Program := none

/-- The arguments of a call: parameters by position, then pairs by name. A call without pairs is
not the same as a call with an empty list of them. -/
structure Arguments where
  params : List Node := []
  hash : Option (List Pair) := none

structure Pair where
  key : String
  value : Node

/-- What a partial tag names: a path, or a call that computes one. -/
inductive PartialName where
  | path (text : String)
  | sub (path : String) (args : Arguments)

end

instance : Inhabited Node := ⟨.unknown⟩
instance : Inhabited Program := ⟨{}⟩
instance : Inhabited Arguments := ⟨{}⟩

/-- The pairs of a call, none when it has no list of them. -/
def Arguments.pairs : Arguments → List Pair
  | ⟨_, none⟩ => []
  | ⟨_, some pairs⟩ => pairs

/-- The text of a truth value. -/
def boolText (value : Bool) : String :=
  if value then "true" else "false"

/-- The value of a literal as text, without quotes. A node that carries no value has the text
`undefined`. -/
def Node.rawValue : Node → String
  | .string value => value
  | .number value => value.text
  | .boolean value => boolText value
  | .null => "null"
  | _ => "undefined"

end TemplatePrinter
