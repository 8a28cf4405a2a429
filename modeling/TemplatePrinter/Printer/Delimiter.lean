import TemplatePrinter.Node.Basic
/-!
# Delimiters

The fixed texts around the parts of a template.
-/

namespace TemplatePrinter.Delimiter

def openTag : String := "\x7b\x7b"
def closeTag : String := "\x7d\x7d"

/-- Opens a mustache, with a third brace when its value is not escaped. -/
def openMustache (escaped : Bool) : String :=
  if escaped then openTag else "\x7b\x7b\x7b"

/-- Closes a mustache, with a third brace when its value is not escaped. -/
def closeMustache (escaped : Bool) : String :=
  if escaped then closeTag else "\x7d\x7d\x7d"

def openComment : String := "\x7b\x7b!--"
def closeComment : String := "--\x7d\x7d"
def openBlock : String := "\x7b\x7b#"
def openElse : String := "\x7b\x7belse "
def bareElse : String := "\x7b\x7belse\x7d\x7d"
def openEnd : String := "\x7b\x7b/"
def openPartial : String := "\x7b\x7b> "
def closePartial : String := " \x7d\x7d"

/-- The names that a program binds, as they stand at the end of an open tag. Nothing is written
when the names give no text. -/
def blockParams (program : Program) : String :=
  let names := " ".intercalate (program.blockParams.getD [])
  if names = "" then "" else " as |" ++ names ++ "|"

end TemplatePrinter.Delimiter
