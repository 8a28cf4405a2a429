import TemplatePrinter.Wire.Error
/-!
# Reading fields

A reader of an object asks for the fields it knows, one after the other, and does not look at any
other. A field that is absent gives `none`, which `required` turns into a fault. The value of a
field comes with a proof that it is smaller than the object, for readers that recurse into it.
-/

namespace TemplatePrinter

/-- Reads a field if it is there. -/
def readField? {α : Type} (fields : Json.Fields) (name : String)
    (read : (value : Json) → sizeOf value < sizeOf fields → Except ReadError α) :
    Except ReadError (Option α) :=
  match found : fields.lookup name with
  | none => .ok none
  | some value => (read value (Json.sizeOf_lt_of_lookup found)).map some

theorem readField?_of_absent {α : Type} {fields : Json.Fields} {name : String}
    (read : Json → Except ReadError α) (habsent : fields.lookup name = none) :
    readField? fields name (fun value _ => read value) = .ok none := by
  unfold readField?
  split <;> simp_all

theorem readField?_of_lookup {α : Type} {fields : Json.Fields} {name : String} {value : Json}
    (read : Json → Except ReadError α) (hfound : fields.lookup name = some value) :
    readField? fields name (fun value _ => read value) = (read value).map some := by
  unfold readField?
  split <;> simp_all

/-- Reads the name of the kind of an object. -/
def readTag (fields : Json.Fields) : Except ReadError String :=
  match fields.lookup "type" with
  | none => .error (.missingField "type")
  | some (.string name) => .ok name
  | some other => .error (.unexpected other .tag)

/-- The content of a field that has to be there. -/
def required {α : Type} (name : String) : Option α → Except ReadError α
  | some value => .ok value
  | none => .error (.missingField name)

namespace Json

def readString : Json → Except ReadError String
  | .string value => .ok value
  | other => .error (.unexpected other .string)

def readBool : Json → Except ReadError Bool
  | .bool value => .ok value
  | other => .error (.unexpected other .boolean)

def readNumber : Json → Except ReadError Binary64
  | .number value => .ok value.toBinary64
  | other => .error (.unexpected other .number)

def readStrings : List Json → Except ReadError (List String)
  | [] => .ok []
  | item :: rest => do
    let first ← item.readString
    let others ← readStrings rest
    return first :: others

/-- Reads a list of names, which may also be left out by a null. -/
def readNames : Json → Except ReadError (Option (List String))
  | .null => .ok none
  | .array items => (readStrings items).map some
  | other => .error (.unexpected other .sequence)

/-- Reads a field that has to be there and to hold a string. -/
def readStringField (fields : Fields) (name : String) : Except ReadError String := do
  let value ← readField? fields name fun value _ => value.readString
  required name value

/-- Reads a path, an object whose text is in one field. -/
def readPath : Json → Except ReadError String
  | .object fields => readStringField fields "original"
  | other => .error (.unexpected other .path)

end Json

end TemplatePrinter
