import TemplatePrinter.Json.Basic
import TemplatePrinter.Node.Kind
/-!
# Events

What a printer reports while it works: that it starts on a tree, that it has rendered an argument
it is about to modify, and that it passes over a node of unknown kind.
-/

namespace TemplatePrinter

inductive Event where
  | started (kind : Option Kind) (targeted : Bool)
  | modifying (helper : String) (position : Nat)
  | skipped
deriving DecidableEq

namespace Event

def level : Event → String
  | .started .. | .modifying .. => "TRACE"
  | .skipped => "DEBUG"

def message : Event → String
  | .started .. => "serializing template tree"
  | .modifying .. => "rewriting targeted parameter"
  | .skipped => "skipping node of unknown type"

/-- The text of a kind in an event. -/
def kindText : Option Kind → String
  | some kind => "Some(" ++ kind.name ++ ")"
  | none => "None"

/-- What an event says beside its message. -/
def details : Event → Json.Fields
  | .started kind targeted => [("node_type", .string (kindText kind)), ("targeted", .bool targeted)]
  | .modifying helper position =>
    [("helper", .string helper), ("position", .number (.int position))]
  | .skipped => []

end Event

end TemplatePrinter
