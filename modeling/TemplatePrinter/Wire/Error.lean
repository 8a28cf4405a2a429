import TemplatePrinter.Json.Basic
import TemplatePrinter.Number.Layout
import TemplatePrinter.Text.Quoted
/-!
# Refused JSON

A reader stops at the first fault of a value. The fault says what was found and what was expected
there, which field is missing, or which name is none of the names that may stand there.
-/

namespace TemplatePrinter

/-- What a reader came upon. -/
inductive Found where
  | null
  | bool (value : Bool)
  | int (value : Int)
  | float (value : Binary64)
  | string (value : String)
  | sequence
  | map
  /-- A bare name that stands for a case without content. -/
  | unitVariant
deriving DecidableEq

/-- What a reader was looking for. -/
inductive Expected where
  | string
  | boolean
  | number
  | sequence
  | path
  | program
  | hash
  | pair
  | node
  | partialName
  | tag
  | stringOrMap
  | singleKeyMap
  | unit
  | structVariant
  | position
deriving DecidableEq

inductive ReadError where
  | missingField (name : String)
  | invalidType (found : Found) (expected : Expected)
  | invalidValue (found : Found) (expected : Expected)
  | unknownVariant (name : String) (choices : List String)
deriving DecidableEq

def Found.ofJson : Json → Found
  | .null => .null
  | .bool value => .bool value
  | .number (.int value) => .int value
  | .number (.float value) => .float value
  | .string value => .string value
  | .array _ => .sequence
  | .object _ => .map

/-- A text between backquotes. -/
def Text.backquoted (text : String) : String :=
  "`" ++ text ++ "`"

def Found.text : Found → String
  | .null => "null"
  | .bool value => "boolean " ++ Text.backquoted (if value then "true" else "false")
  | .int value => "integer " ++ Text.backquoted (toString value)
  | .float value => "floating point " ++ Text.backquoted (Layout.diagnostic.text value)
  | .string value => "string " ++ Text.quoted value
  | .sequence => "sequence"
  | .map => "map"
  | .unitVariant => "unit variant"

def Expected.text : Expected → String
  | .string => "a string"
  | .boolean => "a boolean"
  | .number => "f64"
  | .sequence => "a sequence"
  | .path => "struct PathExpression"
  | .program => "struct Program"
  | .hash => "struct Hash"
  | .pair => "struct HashPair"
  | .node => "internally tagged enum Node"
  | .partialName => "internally tagged enum PartialName"
  | .tag => "variant identifier"
  | .stringOrMap => "string or map"
  | .singleKeyMap => "map with a single key"
  | .unit => "unit"
  | .structVariant => "struct variant"
  | .position => "usize"

/-- The names that may stand in a place, as a message lists them. -/
def choicesText : List String → String
  | [a, b] => Text.backquoted a ++ " or " ++ Text.backquoted b
  | [a] => Text.backquoted a
  | choices => "one of " ++ ", ".intercalate (choices.map Text.backquoted)

def ReadError.message : ReadError → String
  | .missingField name => "missing field " ++ Text.backquoted name
  | .invalidType found expected =>
    "invalid type: " ++ found.text ++ ", expected " ++ expected.text
  | .invalidValue found expected =>
    "invalid value: " ++ found.text ++ ", expected " ++ expected.text
  | .unknownVariant name choices =>
    "unknown variant " ++ Text.backquoted name ++ ", expected " ++ choicesText choices

/-- A value of the wrong sort. -/
def ReadError.unexpected (value : Json) (expected : Expected) : ReadError :=
  .invalidType (.ofJson value) expected

end TemplatePrinter
