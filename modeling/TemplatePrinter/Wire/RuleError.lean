import TemplatePrinter.Rule.Error
import TemplatePrinter.Wire.Field
/-!
# Rule errors as JSON

A rule error without content is its bare name, or an object that gives the name a null. One with
content is an object whose only field is its name.
-/

namespace TemplatePrinter.RuleError

def emptyHelperName : String := "EmptyHelperName"
def invalidPositionName : String := "InvalidParamPosition"

def toJson : RuleError → Json
  | .emptyHelper => .string emptyHelperName
  | .invalidPosition position =>
    .object [(invalidPositionName, .object [("position", .number (.int position))])]

/-- Reads a position, a natural number. -/
def readPosition : Json → Except ReadError Nat
  | .number (.int (.ofNat value)) => .ok value
  | .number (.int value) => .error (.invalidValue (.int value) .position)
  | other => .error (.unexpected other .position)

/-- Reads the content of the error that has a position. -/
def readContent : Json → Except ReadError RuleError
  | .object fields => do
    let position ← readField? fields "position" fun value _ => readPosition value
    return .invalidPosition (← required "position" position)
  | other => .error (.unexpected other .structVariant)

private def unknownName (name : String) : ReadError :=
  .unknownVariant name [emptyHelperName, invalidPositionName]

def read : Json → Except ReadError RuleError
  | .string name =>
    if name = emptyHelperName then .ok .emptyHelper
    else if name = invalidPositionName then .error (.invalidType .unitVariant .structVariant)
    else .error (unknownName name)
  | .object [(name, content)] =>
    if name = emptyHelperName then
      match content with
      | .null => .ok .emptyHelper
      | other => .error (.unexpected other .unit)
    else if name = invalidPositionName then readContent content
    else .error (unknownName name)
  | .object _ => .error (.invalidValue .map .singleKeyMap)
  | other => .error (.unexpected other .stringOrMap)

end TemplatePrinter.RuleError
