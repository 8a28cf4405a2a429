import TemplatePrinter.Proofs.Printer.Text
/-!
# Well-formed templates

The trees that template text can carry without loss. Nothing in the type of nodes ties a kind of
node to a place, and a string payload may hold any character; a tree is well-formed when every
node stands where its kind belongs and no payload holds a character that ends it early.

Three categories of trees are told apart: expressions, which stand as arguments, statements, which
stand in a body, and templates, which are bodies at the root. The same text may belong to a tree
of each category, so membership is always asked of one category.
-/

namespace TemplatePrinter

/-! ### Names -/

/-- A character that may stand in a name. -/
def nameChar (c : Char) : Bool :=
  c.isAlphanum || "_.@-/".toList.contains c

/-- A name is not empty and does not start with a slash, which would end a block. -/
def isName (text : String) : Bool :=
  text != "" && text.toList.all nameChar && text.toList.head? != some '/'

/-- The words that stand for literals. -/
def literalWords : List String :=
  ["true", "false", "undefined", "null"]

/-! ### Expressions -/

/-- A value that its quotes delimit. -/
def isQuotable (value : String) : Bool :=
  !value.toList.contains '\x27'

/-- A pair of a call in an expression: such a call writes the values of its pairs without quoting
them again, so they are strings. -/
def Pair.isLiteral : Pair → Bool
  | ⟨key, .string value⟩ => isName key && isQuotable value
  | _ => false

mutual

def Node.isExpression : Node → Bool
  | .path text => isName text && !literalWords.contains text
  | .string value => isQuotable value
  | .boolean _ | .undefined | .null => true
  | .sub callee ⟨params, hash⟩ =>
    isName callee && areExpressions params && hash.all fun pairs =>
      !pairs.isEmpty && pairs.all Pair.isLiteral
  | _ => false

def areExpressions : List Node → Bool
  | [] => true
  | node :: rest => node.isExpression && areExpressions rest

end

/-- A pair of a statement, whose value may be any expression. -/
def Pair.isWellFormed (pair : Pair) : Bool :=
  isName pair.key && pair.value.isExpression

/-- Arguments of a statement. A list of pairs is not empty, since an empty one leaves no trace. -/
def Arguments.isWellFormed (args : Arguments) : Bool :=
  areExpressions args.params && args.hash.all fun pairs =>
    !pairs.isEmpty && pairs.all Pair.isWellFormed

/-- The name of a partial. A call that computes one has no pairs. -/
def PartialName.isWellFormed : PartialName → Bool
  | .path text => isName text
  | .sub callee args => isName callee && areExpressions args.params && args.hash.isNone

/-! ### Statements -/

/-- Whether a statement is content, the only kind of statement without delimiters of its own. -/
def Node.isContent : Node → Bool
  | .content _ => true
  | _ => false

/-- Whether a body starts with a statement of some kind. -/
def startsWith (kind : Node → Bool) (body : List Node) : Bool :=
  body.head?.any kind

/-- The names that the main program of a block binds. -/
def areBlockParams : Option (List String) → Bool
  | none => true
  | some names => !names.isEmpty && names.all isName

mutual

def Node.isStatement : Node → Bool
  | .content text => text != "" && !text.toList.contains '\x7b'
  | .comment text => !text.toList.contains '\x7d'
  | .mustache path args _ => isName path && path != "else" && args.isWellFormed
  | .partialTag name args => name.isWellFormed && args.isWellFormed
  | .block block => block.isWellFormed
  | _ => false

def Block.isWellFormed : Block → Bool
  | ⟨path, args, ⟨body, names⟩, inverse⟩ =>
    isName path && args.isWellFormed && areBlockParams names && isBody body && isInverse inverse

/-- An inverse program: a leading block is a clause of the chain, and nothing follows it. -/
def isInverse : Option Program → Bool
  | none => true
  | some ⟨body, names⟩ =>
    names.isNone && isBody body && (body.length == 1 || !startsWith Node.isBlock body)

/-- Statements one after the other, with no content next to content. -/
def isBody : List Node → Bool
  | [] => true
  | node :: rest =>
    node.isStatement && isBody rest && !(node.isContent && startsWith Node.isContent rest)

end

/-! ### Categories -/

inductive Category where
  | expression
  | statement
  | template
deriving DecidableEq

/-- Whether a tree is a well-formed member of a category. -/
def Node.belongsTo : Node → Category → Bool
  | node, .expression => node.isExpression
  | node, .statement => node.isStatement
  | .program ⟨body, names⟩, .template => names.isNone && isBody body
  | _, .template => false

end TemplatePrinter
