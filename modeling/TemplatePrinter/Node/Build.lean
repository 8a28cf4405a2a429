import TemplatePrinter.Node.Basic
/-!
# Building trees

A call starts without arguments and takes them one by one, each after those it has. The operations
are total: one that makes no sense for a node, such as an argument for a comment, leaves the node
alone.
-/

namespace TemplatePrinter

namespace Arguments

/-- Adds a parameter after the others. -/
def addParam (args : Arguments) (param : Node) : Arguments :=
  { args with params := args.params ++ [param] }

/-- Adds a pair after the others. A key may occur again. -/
def addPair (args : Arguments) (key : String) (value : Node) : Arguments :=
  { args with hash := some (args.pairs ++ [⟨key, value⟩]) }

end Arguments

/-- An escaped mustache without arguments. -/
def Node.ofMustache (path : String) : Node :=
  .mustache path {} true

/-- A call without arguments, for use as an expression. -/
def Node.ofSub (path : String) : Node :=
  .sub path {}

/-- An empty block without arguments. -/
def Node.ofBlock (path : String) : Node :=
  .block { path, args := {}, main := {} }

/-- A partial tag without arguments. -/
def Node.ofPartial (name : PartialName) : Node :=
  .partialTag name {}

/-- A partial block without arguments and with nothing in it. -/
def Node.ofPartialBlock (name : PartialName) : Node :=
  .partialBlock name {} {}

/-- A program with a body. -/
def Node.ofBody (body : List Node) : Node :=
  .program { body }

/-- Changes the arguments of a node that takes some. -/
def Node.mapArguments (f : Arguments → Arguments) : Node → Node
  | .block b => .block { b with args := f b.args }
  | .mustache callee args escaped => .mustache callee (f args) escaped
  | .sub callee args => .sub callee (f args)
  | .partialTag name args => .partialTag name (f args)
  | .partialBlock name args fallback => .partialBlock name (f args) fallback
  | other => other

def Node.addParam (node param : Node) : Node :=
  node.mapArguments (·.addParam param)

def Node.addPair (node : Node) (key : String) (value : Node) : Node :=
  node.mapArguments (·.addPair key value)

/-- Sets the main program of a block. -/
def Node.withMain (node : Node) (main : Program) : Node :=
  match node with
  | .block b => .block { b with main }
  | other => other

/-- Sets the inverse program of a block. -/
def Node.withInverse (node : Node) (inverse : Program) : Node :=
  match node with
  | .block b => .block { b with inverse := some inverse }
  | other => other

/-- Sets the names that a program binds. -/
def Node.withBlockParams (node : Node) (names : List String) : Node :=
  match node with
  | .program p => .program { p with blockParams := some names }
  | other => other

/-- Makes a mustache write its value without escaping. -/
def Node.unescaped : Node → Node
  | .mustache callee args _ => .mustache callee args false
  | other => other

/-- Makes the node the only parameter of a call, as often as asked. -/
def Node.wrap (helper : String) : Nat → Node → Node
  | 0, node => node
  | times + 1, node => wrap helper times ((Node.ofSub helper).addParam node)

/-- The partial name that a path or a call stands for. -/
def Node.toPartialName? : Node → Option PartialName
  | .path text => some (.path text)
  | .sub callee args => some (.sub callee args)
  | _ => none

end TemplatePrinter
