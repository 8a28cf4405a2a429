import TemplatePrinter.Printer.Render
/-!
# What the printer never looks at

A tree holds more than its output shows. The printer leaves out the program of a partial block, the
pairs of a call that computes the name of a partial, whatever follows a leading block in an inverse
program, names bound anywhere but in the main program of a block, and in the pairs of a call every
value that is not a literal with a value of its own. An empty list of pairs, and names that make no
text, print as if there were none.

`Node.erase` replaces all of this by something fixed, at every depth. A tree and its erasure have
the same output, text and events, with any rule, so nothing that is erased can be told from the
output.
-/

namespace TemplatePrinter

/-! ### Erasure -/

/-- The value of a pair of a call, if it is a literal with a value of its own. -/
def Node.eraseRaw : Node → Node
  | .string value => .string value
  | .number value => .number value
  | .boolean value => .boolean value
  | .null => .null
  | _ => .undefined

/-- Pairs, where an empty list of them is the same as none. -/
def nonemptyHash : List Pair → Option (List Pair)
  | [] => none
  | pairs => some pairs

/-- The pairs of a call. -/
def eraseRawHash (hash : Option (List Pair)) : Option (List Pair) :=
  hash.bind fun pairs => nonemptyHash (pairs.map fun pair => ⟨pair.key, pair.value.eraseRaw⟩)

/-- The names bound in the main program of a block, if they make a text. -/
def eraseNames : Option (List String) → Option (List String)
  | none => none
  | some names => if " ".intercalate names = "" then none else some names

mutual

/-- The tree with everything replaced that the printer does not look at. -/
def Node.erase : Node → Node
  | .program p => .program p.erase
  | .block b => .block b.erase
  | .mustache path args escaped => .mustache path args.erase escaped
  | .sub callee args => .sub callee args.eraseRaw
  | .partialTag name args => .partialTag name.erase args.erase
  | .partialBlock name args _ => .partialBlock name.erase args.erase {}
  | .content text => .content text
  | .comment text => .comment text
  | .path text => .path text
  | .string value => .string value
  | .number value => .number value
  | .boolean value => .boolean value
  | .undefined => .undefined
  | .null => .null
  | .unknown => .unknown

/-- A program that is not the main program of a block. -/
def Program.erase : Program → Program
  | ⟨body, _⟩ => ⟨eraseNodes body, none⟩

def Block.erase : Block → Block
  | ⟨path, args, ⟨body, names⟩, inverse⟩ =>
    ⟨path, args.erase, ⟨eraseNodes body, eraseNames names⟩, eraseInverse inverse⟩

/-- The arguments of a statement. -/
def Arguments.erase : Arguments → Arguments
  | ⟨params, none⟩ => ⟨eraseNodes params, none⟩
  | ⟨params, some pairs⟩ => ⟨eraseNodes params, nonemptyHash (erasePairs pairs)⟩

/-- The arguments of a call. -/
def Arguments.eraseRaw : Arguments → Arguments
  | ⟨params, hash⟩ => ⟨eraseNodes params, eraseRawHash hash⟩

def PartialName.erase : PartialName → PartialName
  | .path text => .path text
  | .sub callee ⟨params, _⟩ => .sub callee ⟨eraseNodes params, none⟩

def eraseInverse : Option Program → Option Program
  | none => none
  | some ⟨.block next :: _, _⟩ => some ⟨[.block next.erase], none⟩
  | some program => some program.erase

def eraseNodes : List Node → List Node
  | [] => []
  | node :: rest => node.erase :: eraseNodes rest

def erasePairs : List Pair → List Pair
  | [] => []
  | ⟨key, value⟩ :: rest => ⟨key, value.erase⟩ :: erasePairs rest

end

/-! ### What is left of a part -/

theorem Node.kind?_erase (node : Node) : node.erase.kind? = node.kind? := by
  cases node <;> simp [Node.erase, Node.kind?]

theorem selected?_erase (rule : Option Rule) (caller : Option String) (position : Nat)
    (param : Node) :
    selected? rule caller position param.erase = selected? rule caller position param := by
  unfold selected? Rule.selects
  rw [Node.kind?_erase]

theorem Node.rawValue_eraseRaw (node : Node) : node.eraseRaw.rawValue = node.rawValue := by
  cases node <;> rfl

theorem pairs_nonemptyHash (params : List Node) (pairs : List Pair) :
    Arguments.pairs ⟨params, nonemptyHash pairs⟩ = pairs := by
  cases pairs <;> rfl

theorem renderRawPairs_erase (hash : Option (List Pair)) :
    renderRawPairs (Arguments.pairs ⟨[], eraseRawHash hash⟩) =
      renderRawPairs (Arguments.pairs ⟨[], hash⟩) := by
  cases hash with
  | none => rfl
  | some pairs =>
    show renderRawPairs (Arguments.pairs ⟨[], nonemptyHash _⟩) = renderRawPairs pairs
    rw [pairs_nonemptyHash]
    induction pairs with
    | nil => rfl
    | cons pair rest ih =>
      obtain ⟨key, value⟩ := pair
      rw [List.map_cons, renderRawPairs, Node.rawValue_eraseRaw, ih, renderRawPairs]

theorem blockParams_eraseNames (body body' : List Node) (names : Option (List String)) :
    Delimiter.blockParams ⟨body', eraseNames names⟩ = Delimiter.blockParams ⟨body, names⟩ := by
  cases names with
  | none => rfl
  | some names =>
    by_cases hempty : " ".intercalate names = ""
    · simp [eraseNames, Delimiter.blockParams, hempty]
    · simp [eraseNames, Delimiter.blockParams, hempty]

theorem Arguments.render_nonemptyHash (rule : Option Rule) (params : List Node)
    (pairs : List Pair) :
    Arguments.render rule ⟨params, nonemptyHash pairs⟩ =
      Arguments.render rule ⟨params, some pairs⟩ := by
  cases pairs with
  | nil =>
    simp [nonemptyHash, Arguments.render, renderPairs, Output.joined, Output.spaced]
  | cons pair rest => rfl

/-! ### The output -/

mutual

theorem Node.render_erase (rule : Option Rule) (node : Node) :
    node.erase.render rule = node.render rule := by
  match node with
  | .program p => simp only [Node.erase, Node.render, p.render_erase rule]
  | .block b => simp only [Node.erase, Node.render, b.render_erase rule]
  | .mustache path args escaped => simp only [Node.erase, Node.render, args.render_erase rule]
  | .sub callee ⟨params, hash⟩ =>
    simp only [Node.erase, Arguments.eraseRaw, Node.render,
      renderParams_erase rule (some callee) 1 params, renderRawPairs_erase]
  | .partialTag name args =>
    simp only [Node.erase, Node.render, name.render_erase rule, args.render_erase rule]
  | .partialBlock name args _ =>
    simp only [Node.erase, Node.render, name.render_erase rule, args.render_erase rule]
  | .content _ | .comment _ | .path _ | .string _ | .number _ | .boolean _ | .undefined | .null
  | .unknown => simp only [Node.erase]

theorem Program.render_erase (rule : Option Rule) (program : Program) :
    program.erase.render rule = program.render rule := by
  match program with
  | ⟨body, _⟩ => simp only [Program.erase, Program.render, renderBody_erase rule body]

theorem Block.render_erase (rule : Option Rule) (block : Block) :
    block.erase.render rule = block.render rule := by
  match block with
  | ⟨path, args, ⟨body, names⟩, inverse⟩ =>
    simp only [Block.erase, Block.render, Program.render, renderClause, args.render_erase rule,
      renderBody_erase rule body, renderElse_erase rule inverse,
      blockParams_eraseNames body _ names]

theorem Arguments.render_erase (rule : Option Rule) (args : Arguments) :
    args.erase.render rule = args.render rule := by
  match args with
  | ⟨params, none⟩ =>
    simp only [Arguments.erase, Arguments.render, renderParams_erase rule none 1 params]
  | ⟨params, some pairs⟩ =>
    simp only [Arguments.erase, Arguments.render_nonemptyHash, Arguments.render,
      renderParams_erase rule none 1 params, renderPairs_erase rule pairs]

theorem PartialName.render_erase (rule : Option Rule) (name : PartialName) :
    name.erase.render rule = name.render rule := by
  match name with
  | .path text => simp only [PartialName.erase]
  | .sub callee ⟨params, _⟩ =>
    simp only [PartialName.erase, PartialName.render, renderParams_erase rule none 1 params]

/-- The first statement of an inverse program decides how it prints. If it is a block, no other
statement is printed. -/
theorem renderElse_erase (rule : Option Rule) (inverse : Option Program) :
    renderElse rule (eraseInverse inverse) = renderElse rule inverse := by
  match inverse with
  | none => simp only [eraseInverse]
  | some ⟨[], names⟩ =>
    simp only [eraseInverse, Program.erase, eraseNodes, renderElse, Program.render]
  | some ⟨node :: rest, names⟩ =>
    have hbody := renderBody_erase rule (node :: rest)
    cases node with
    | block next =>
      obtain ⟨path, args, ⟨body, names'⟩, inverse⟩ := next
      simp only [eraseInverse, Block.erase, renderElse, Program.render, renderClause,
        args.render_erase rule, renderBody_erase rule body, renderElse_erase rule inverse,
        blockParams_eraseNames body _ names']
    | _ =>
      simp only [eraseInverse, Program.erase, eraseNodes, Node.erase, renderElse, Program.render]
        at hbody ⊢
      rw [hbody]

theorem renderBody_erase (rule : Option Rule) (body : List Node) :
    renderBody rule (eraseNodes body) = renderBody rule body := by
  match body with
  | [] => simp only [eraseNodes]
  | node :: rest =>
    simp only [eraseNodes, renderBody, node.render_erase rule, renderBody_erase rule rest]

theorem renderParams_erase (rule : Option Rule) (caller : Option String) (position : Nat)
    (params : List Node) :
    renderParams rule caller position (eraseNodes params) =
      renderParams rule caller position params := by
  match params with
  | [] => simp only [eraseNodes]
  | param :: rest =>
    simp only [eraseNodes, renderParams, selected?_erase, param.render_erase rule,
      renderParams_erase rule caller (position + 1) rest]

theorem renderPairs_erase (rule : Option Rule) (pairs : List Pair) :
    renderPairs rule (erasePairs pairs) = renderPairs rule pairs := by
  match pairs with
  | [] => simp only [erasePairs]
  | ⟨key, value⟩ :: rest =>
    simp only [erasePairs, renderPairs, value.render_erase rule, renderPairs_erase rule rest]

end

/-- **A tree and its erasure are printed alike,** so two trees with one erasure are: no rule tells
them apart, by text or by events. -/
theorem print_erase (rule : Option Rule) (node : Node) :
    print rule (some node.erase) = print rule (some node) ∧
      ∀ other : Node, other.erase = node.erase →
        print rule (some other) = print rule (some node) := by
  have herase : ∀ tree : Node, print rule (some tree.erase) = print rule (some tree) := by
    intro tree
    rw [print_some, print_some, Node.kind?_erase, Node.render_erase]
  refine ⟨herase node, fun other hother => ?_⟩
  rw [← herase other, hother, herase node]

/-- A call that the rule would change, hidden in a pair of another call, is printed like nothing. -/
theorem print_hidden_call :
    (Node.sub "f" ⟨[], some [⟨"k", .undefined⟩]⟩).erase =
        (Node.sub "f" ⟨[], some [⟨"k", .sub "filter" ⟨[.sub "id" {}], none⟩⟩]⟩).erase ∧
      print (some ⟨"filter", .sub, 1, [fun text => text ++ "!"], by decide, by decide⟩)
          (some (.sub "f" ⟨[], some [⟨"k", .undefined⟩]⟩)) =
        print (some ⟨"filter", .sub, 1, [fun text => text ++ "!"], by decide, by decide⟩)
          (some (.sub "f" ⟨[], some [⟨"k", .sub "filter" ⟨[.sub "id" {}], none⟩⟩]⟩)) :=
  ⟨rfl, (print_erase _ _).2 _ rfl⟩

end TemplatePrinter
