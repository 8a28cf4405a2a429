import TemplatePrinter.Printer.Write
/-!
# Rendering trees

What a tree adds to an output, by recursion on the tree alone: no output is handed on, and the
output of a node is put together from the outputs of its parts. `Node.write_eq_append` says that
the printer does nothing else: whatever was written before, it adds the rendering of the node
after it.
-/

namespace TemplatePrinter

open Output (ofText)

/-- The pairs of a call in an expression. -/
def renderRawPairs : List Pair → List Output
  | [] => []
  | ⟨key, value⟩ :: rest => ofText (key ++ "='" ++ value.rawValue ++ "'") :: renderRawPairs rest

/-- A tag from its path on, and the program that the tag introduces. -/
def renderClause (path : String) (main : Program) (args body : Output) : Output :=
  ofText path ++ args ++ ofText (Delimiter.blockParams main ++ Delimiter.closeTag) ++ body

/-- The output of an argument: the text passed through the modifiers when a rule picks it. -/
def modified (chosen : Option Rule) (position : Nat) (param : Output) : Output :=
  match chosen with
  | some rule => ⟨rule.apply param.text, param.events ++ [.modifying rule.helper position]⟩
  | none => param

mutual

def Node.render (rule : Option Rule) : Node → Output
  | .program p => p.render rule
  | .block b => b.render rule
  | .mustache callee args escaped =>
    ofText (Delimiter.openMustache escaped ++ Text.bracketed callee) ++ args.render rule
      ++ ofText (Delimiter.closeMustache escaped)
  | .content text => ofText text
  | .comment text => ofText (Delimiter.openComment ++ text ++ Delimiter.closeComment)
  | .path text => ofText text
  | .sub callee ⟨params, hash⟩ =>
    ofText ("(" ++ callee) ++ (Output.joined (renderParams rule (some callee) 1 params)).spaced
      ++ (Output.joined (renderRawPairs (Arguments.pairs ⟨[], hash⟩))).spaced ++ ofText ")"
  | .partialTag name args =>
    ofText Delimiter.openPartial ++ name.render rule ++ args.render rule
      ++ ofText Delimiter.closePartial
  | .partialBlock name args _ =>
    ofText Delimiter.openPartial ++ name.render rule ++ args.render rule
      ++ ofText Delimiter.closePartial
  | .string value => ofText ("'" ++ value ++ "'")
  | .number value => ofText value.text
  | .boolean value => ofText (boolText value)
  | .undefined => ofText "undefined"
  | .null => ofText "null"
  | .unknown => ⟨"", [.skipped]⟩

def Program.render (rule : Option Rule) : Program → Output
  | ⟨body, _⟩ => renderBody rule body

def Block.render (rule : Option Rule) : Block → Output
  | ⟨path, args, main, inverse⟩ =>
    ofText Delimiter.openBlock ++ renderClause path main (args.render rule) (main.render rule)
      ++ renderElse rule inverse ++ ofText (Delimiter.openEnd ++ path ++ Delimiter.closeTag)

def Arguments.render (rule : Option Rule) : Arguments → Output
  | ⟨params, none⟩ => (Output.joined (renderParams rule none 1 params)).spaced
  | ⟨params, some pairs⟩ =>
    (Output.joined (renderParams rule none 1 params)).spaced
      ++ (Output.joined (renderPairs rule pairs)).spaced

def PartialName.render (rule : Option Rule) : PartialName → Output
  | .path text => ofText text
  | .sub callee ⟨params, _⟩ =>
    ofText ("(" ++ callee) ++ (Output.joined (renderParams rule none 1 params)).spaced ++ ofText ")"

def renderElse (rule : Option Rule) : Option Program → Output
  | none => {}
  | some ⟨.block ⟨path, args, main, inverse⟩ :: _, _⟩ =>
    ofText Delimiter.openElse ++ renderClause path main (args.render rule) (main.render rule)
      ++ renderElse rule inverse
  | some program => ofText Delimiter.bareElse ++ program.render rule

def renderBody (rule : Option Rule) : List Node → Output
  | [] => {}
  | node :: rest => node.render rule ++ renderBody rule rest

/-- The outputs of parameters, the first of them at `position`. -/
def renderParams (rule : Option Rule) (caller : Option String) : Nat → List Node → List Output
  | _, [] => []
  | position, param :: rest =>
    modified (selected? rule caller position param) position (param.render rule)
      :: renderParams rule caller (position + 1) rest

def renderPairs (rule : Option Rule) : List Pair → List Output
  | [] => []
  | ⟨key, value⟩ :: rest => (ofText (key ++ "=") ++ value.render rule) :: renderPairs rule rest

end

private theorem clause_eq_append (out : Output) (path : String) (main : Program)
    {writeArgs writeMain : Output → Output} {args body : Output}
    (appendsArgs : ∀ out, writeArgs out = out ++ args)
    (appendsMain : ∀ out, writeMain out = out ++ body) :
    out.clause path main writeArgs writeMain = out ++ renderClause path main args body := by
  unfold Output.clause renderClause
  rw [appendsArgs, appendsMain]
  ext1 <;> simp [Output.push, String.append_assoc]

private theorem argument_eq_append {write : Output → Output} {param : Output}
    (appends : ∀ out, write out = out ++ param) (out : Output) (chosen : Option Rule)
    (position : Nat) :
    out.argument chosen position write = out ++ modified chosen position param := by
  cases chosen with
  | none => exact appends out
  | some rule =>
    simp only [Output.argument, modified, appends]
    ext1 <;> simp [Output.emit]

theorem writeRawPairs_eq_append (pairs : List Pair) (out : Output) :
    writeRawPairs false pairs out = out ++ Output.eachSpaced (renderRawPairs pairs)
      ∧ writeRawPairs true pairs out = out ++ Output.joined (renderRawPairs pairs) := by
  induction pairs generalizing out with
  | nil => simp [writeRawPairs, renderRawPairs, Output.eachSpaced, Output.joined]
  | cons pair rest ih =>
    obtain ⟨key, value⟩ := pair
    simp only [writeRawPairs, renderRawPairs, Output.eachSpaced, Output.joined, (ih _).1]
    constructor <;> ext1 <;> simp [Output.push, String.append_assoc]

mutual

/-- The printer adds the rendering of a node to what was written before, and changes none of it.
-/
theorem Node.write_eq_append (rule : Option Rule) (node : Node) (out : Output) :
    node.write rule out = out ++ node.render rule := by
  match node with
  | .program p => exact p.write_eq_append rule out
  | .block b => exact b.write_eq_append rule out
  | .mustache callee args escaped =>
    simp only [Node.write, Node.render, args.write_eq_append rule]
    ext1 <;> simp [Output.push, String.append_assoc]
  | .content text => exact Output.push_eq_append out text
  | .comment text =>
    simp only [Node.write, Node.render]
    ext1 <;> simp [Output.push, String.append_assoc]
  | .path text => exact Output.push_eq_append out text
  | .sub callee ⟨params, hash⟩ =>
    simp only [Node.write, Node.render]
    rw [Output.segment_eq_append _ (writeParams_eq_append rule (some callee) params).2,
      Output.segment_eq_append _ fun out => (writeRawPairs_eq_append _ out).2]
    ext1 <;> simp [Output.push, String.append_assoc]
  | .partialTag name args =>
    simp only [Node.write, Node.render, name.write_eq_append rule, args.write_eq_append rule]
    ext1 <;> simp [Output.push, String.append_assoc]
  | .partialBlock name args _ =>
    simp only [Node.write, Node.render, name.write_eq_append rule, args.write_eq_append rule]
    ext1 <;> simp [Output.push, String.append_assoc]
  | .string value =>
    simp only [Node.write, Node.render]
    ext1 <;> simp [Output.push, String.append_assoc]
  | .number value => exact Output.push_eq_append out value.text
  | .boolean value => exact Output.push_eq_append out (boolText value)
  | .undefined => exact Output.push_eq_append out "undefined"
  | .null => exact Output.push_eq_append out "null"
  | .unknown => exact Output.emit_eq_append out .skipped

theorem Program.write_eq_append (rule : Option Rule) (program : Program) (out : Output) :
    program.write rule out = out ++ program.render rule := by
  match program with
  | ⟨body, _⟩ => exact writeBody_eq_append rule body out

theorem Block.write_eq_append (rule : Option Rule) (block : Block) (out : Output) :
    block.write rule out = out ++ block.render rule := by
  match block with
  | ⟨path, args, main, inverse⟩ =>
    simp only [Block.write, Block.render]
    rw [writeElse_eq_append rule inverse,
      clause_eq_append _ _ _ (args.write_eq_append rule) (main.write_eq_append rule)]
    ext1 <;> simp [Output.push, String.append_assoc]

theorem Arguments.write_eq_append (rule : Option Rule) (args : Arguments) (out : Output) :
    args.write rule out = out ++ args.render rule := by
  match args with
  | ⟨params, none⟩ =>
    simp only [Arguments.write, Arguments.render]
    rw [Output.segment_eq_append _ (writeParams_eq_append rule none params).2,
      Output.segment_eq_append _ fun out => (Output.append_empty out).symm]
    exact Output.append_empty _
  | ⟨params, some pairs⟩ =>
    simp only [Arguments.write, Arguments.render]
    rw [Output.segment_eq_append _ (writeParams_eq_append rule none params).2,
      Output.segment_eq_append _ fun out => (writePairs_eq_append rule pairs out).2,
      Output.append_assoc]

theorem PartialName.write_eq_append (rule : Option Rule) (name : PartialName) (out : Output) :
    name.write rule out = out ++ name.render rule := by
  match name with
  | .path text => exact Output.push_eq_append out text
  | .sub callee ⟨params, _⟩ =>
    simp only [PartialName.write, PartialName.render]
    rw [Output.segment_eq_append _ (writeParams_eq_append rule none params).2]
    ext1 <;> simp [Output.push, String.append_assoc]

theorem writeElse_eq_append (rule : Option Rule) (inverse : Option Program) (out : Output) :
    writeElse rule inverse out = out ++ renderElse rule inverse := by
  match inverse with
  | none => simp [writeElse, renderElse]
  | some ⟨[], names⟩ =>
    simp only [writeElse, renderElse]
    rw [Program.write_eq_append, Output.push_eq_append, Output.append_assoc]
  | some ⟨node :: rest, names⟩ =>
    have whole := Program.write_eq_append rule ⟨node :: rest, names⟩ (out.push Delimiter.bareElse)
    cases node with
    | block block =>
      obtain ⟨path, args, main, inverse⟩ := block
      simp only [writeElse, renderElse]
      rw [writeElse_eq_append rule inverse,
        clause_eq_append _ _ _ (args.write_eq_append rule) (main.write_eq_append rule),
        Output.push_eq_append]
      simp only [Output.append_assoc]
    | _ =>
      simp only [writeElse, renderElse]
      rw [whole, Output.push_eq_append, Output.append_assoc]

theorem writeBody_eq_append (rule : Option Rule) (body : List Node) (out : Output) :
    writeBody rule body out = out ++ renderBody rule body := by
  match body with
  | [] => simp [writeBody, renderBody]
  | node :: rest =>
    simp only [writeBody, renderBody]
    rw [writeBody_eq_append rule rest, node.write_eq_append rule, Output.append_assoc]

theorem writeParams_eq_append (rule : Option Rule) (caller : Option String) (params : List Node) :
    (∀ position out, writeParams rule caller (position + 2) params out =
        out ++ Output.eachSpaced (renderParams rule caller (position + 2) params))
      ∧ ∀ out, writeParams rule caller 1 params out =
        out ++ Output.joined (renderParams rule caller 1 params) := by
  match params with
  | [] => simp [writeParams, renderParams, Output.eachSpaced, Output.joined]
  | param :: rest =>
    have step := argument_eq_append (param.write_eq_append rule)
    have others := (writeParams_eq_append rule caller rest).1
    constructor
    · intro position out
      simp only [writeParams, renderParams, Output.eachSpaced]
      rw [others (position + 1), step, if_neg (by omega), Output.push_eq_append]
      simp only [Output.append_assoc]
    · intro out
      simp only [writeParams, renderParams, Output.joined]
      rw [others 0, step, if_pos (by omega), Output.append_assoc]

theorem writePairs_eq_append (rule : Option Rule) (pairs : List Pair) (out : Output) :
    writePairs rule false pairs out = out ++ Output.eachSpaced (renderPairs rule pairs)
      ∧ writePairs rule true pairs out = out ++ Output.joined (renderPairs rule pairs) := by
  match pairs with
  | [] => simp [writePairs, renderPairs, Output.eachSpaced, Output.joined]
  | ⟨key, value⟩ :: rest =>
    simp only [writePairs, renderPairs, Output.eachSpaced, Output.joined,
      (writePairs_eq_append rule rest _).1, value.write_eq_append rule]
    constructor <;> ext1 <;> simp [Output.push, String.append_assoc]

end

theorem print_some (rule : Option Rule) (node : Node) :
    print rule (some node) = ⟨"", [.started node.kind? rule.isSome]⟩ ++ node.render rule :=
  node.write_eq_append rule _

theorem Node.text_eq_render (node : Node) (rule : Option Rule) :
    node.text rule = (node.render rule).text := by
  rw [Node.text, print_some, Output.text_append, String.empty_append]

end TemplatePrinter
