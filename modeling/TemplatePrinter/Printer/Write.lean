import TemplatePrinter.Output.Basic
import TemplatePrinter.Printer.Delimiter
import TemplatePrinter.Rule.Basic
import TemplatePrinter.Text.Path
/-!
# Writing trees

The printer writes every node after what it has written before, into one output that it hands on.
A call writes its parameters and then its pairs, each group after a space that is taken back when
the group comes out empty. A block writes its main program, then one clause after another along
its else chain, then its end. An argument that the rule picks is written into an output of its own
first, so that the modifiers see its text alone.
-/

namespace TemplatePrinter

/-- The rule, when it picks this argument. Arguments that do not belong to a call by a helper have
no caller and are never picked. -/
def selected? (rule : Option Rule) (caller : Option String) (position : Nat) (param : Node) :
    Option Rule :=
  match rule, caller with
  | some rule, some helper => if rule.selects helper position param then some rule else none
  | _, _ => none

/-- Writes the rest of a tag after its opening, and the program that the tag introduces. -/
def Output.clause (out : Output) (path : String) (main : Program) (args body : Output → Output) :
    Output :=
  body (((args (out.push path)).push (Delimiter.blockParams main)).push Delimiter.closeTag)

/-- Writes an argument. One that a rule picks is written on its own first, and what is written in
its place is the text that the modifiers make of it. -/
def Output.argument (out : Output) (chosen : Option Rule) (position : Nat)
    (write : Output → Output) : Output :=
  match chosen with
  | some rule =>
    let alone := write ⟨"", out.events⟩
    (Output.mk (out.text ++ rule.apply alone.text) alone.events).emit
      (.modifying rule.helper position)
  | none => write out

/-- Writes the pairs of a call in an expression. Values stand in quotes as they are. -/
def writeRawPairs : Bool → List Pair → Output → Output
  | _, [], out => out
  | first, ⟨key, value⟩ :: rest, out =>
    let out := if first then out else out.push " "
    writeRawPairs false rest (((out.push key).push "='").push value.rawValue |>.push "'")

mutual

/-- Writes a node. -/
def Node.write (rule : Option Rule) : Node → Output → Output
  | .program p, out => p.write rule out
  | .block b, out => b.write rule out
  | .mustache callee args escaped, out =>
    let opened := (out.push (Delimiter.openMustache escaped)).push (Text.bracketed callee)
    (args.write rule opened).push (Delimiter.closeMustache escaped)
  | .content text, out => out.push text
  | .comment text, out => ((out.push Delimiter.openComment).push text).push Delimiter.closeComment
  | .path text, out => out.push text
  | .sub callee ⟨params, hash⟩, out =>
    let called := (out.push "(").push callee
    let withParams := called.segment (writeParams rule (some callee) 1 params)
    (withParams.segment (writeRawPairs true (Arguments.pairs ⟨[], hash⟩))).push ")"
  | .partialTag name args, out =>
    (args.write rule (name.write rule (out.push Delimiter.openPartial))).push Delimiter.closePartial
  | .partialBlock name args _, out =>
    (args.write rule (name.write rule (out.push Delimiter.openPartial))).push Delimiter.closePartial
  | .string value, out => ((out.push "'").push value).push "'"
  | .number value, out => out.push value.text
  | .boolean value, out => out.push (boolText value)
  | .undefined, out => out.push "undefined"
  | .null, out => out.push "null"
  | .unknown, out => out.emit .skipped

/-- Writes the statements of a program. -/
def Program.write (rule : Option Rule) : Program → Output → Output
  | ⟨body, _⟩, out => writeBody rule body out

def Block.write (rule : Option Rule) : Block → Output → Output
  | ⟨path, args, main, inverse⟩, out =>
    let opened :=
      (out.push Delimiter.openBlock).clause path main (args.write rule) (main.write rule)
    ((writeElse rule inverse opened).push Delimiter.openEnd).push path |>.push Delimiter.closeTag

/-- Writes the parameters and then the pairs of a statement. Without a list of pairs the second
group writes nothing. -/
def Arguments.write (rule : Option Rule) : Arguments → Output → Output
  | ⟨params, none⟩, out => (out.segment (writeParams rule none 1 params)).segment fun out => out
  | ⟨params, some pairs⟩, out =>
    (out.segment (writeParams rule none 1 params)).segment (writePairs rule true pairs)

/-- Writes the name of a partial. A call that computes the name has no pairs and is no call that a
rule looks at. -/
def PartialName.write (rule : Option Rule) : PartialName → Output → Output
  | .path text, out => out.push text
  | .sub callee ⟨params, _⟩, out =>
    (((out.push "(").push callee).segment (writeParams rule none 1 params)).push ")"

/-- Writes the clauses along an else chain. -/
def writeElse (rule : Option Rule) : Option Program → Output → Output
  | none, out => out
  | some ⟨.block ⟨path, args, main, inverse⟩ :: _, _⟩, out =>
    writeElse rule inverse
      ((out.push Delimiter.openElse).clause path main (args.write rule) (main.write rule))
  | some program, out => program.write rule (out.push Delimiter.bareElse)

/-- Writes statements one after the other. -/
def writeBody (rule : Option Rule) : List Node → Output → Output
  | [], out => out
  | node :: rest, out => writeBody rule rest (node.write rule out)

/-- Writes parameters with spaces between them, the first of them at `position`. -/
def writeParams (rule : Option Rule) (caller : Option String) :
    Nat → List Node → Output → Output
  | _, [], out => out
  | position, param :: rest, out =>
    let out := if position ≤ 1 then out else out.push " "
    let chosen := selected? rule caller position param
    writeParams rule caller (position + 1) rest (out.argument chosen position (param.write rule))

/-- Writes pairs with spaces between them. -/
def writePairs (rule : Option Rule) : Bool → List Pair → Output → Output
  | _, [], out => out
  | first, ⟨key, value⟩ :: rest, out =>
    let out := if first then out else out.push " "
    writePairs rule false rest (value.write rule ((out.push key).push "="))

end

/-- Prints a tree, with the rule if there is one. No tree gives no text and no events. -/
def print (rule : Option Rule) : Option Node → Output
  | none => {}
  | some node => node.write rule ⟨"", [.started node.kind? rule.isSome]⟩

/-- The text of a tree. -/
def Node.text (node : Node) (rule : Option Rule) : String :=
  (print rule (some node)).text

end TemplatePrinter
