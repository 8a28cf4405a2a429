import TemplatePrinter.Node.Kind
import TemplatePrinter.Wire.Field
/-!
# Reading trees

Reads a tree from its JSON form. The kind of a node is read before anything else in its object.
Then the fields that the kind knows are read in the order of their names, whatever order they
stand in, and only when all of them are in order is a missing one noticed. A list that is absent
is empty, and so is an absent program; a null stands for absence only where absence means
something of its own. A kind that nobody knows gives an unknown node, whatever else its object
holds.

Two shorthands are left out. An array that lists the values of an object may stand for the object,
and a number for the name of a kind; a fuller reader takes them where this one finds a fault. What
is proved of the reader against the schema is proved of values without them (`Json.isPlain`).
-/

namespace TemplatePrinter

mutual

/-- Reads a node. -/
def readNode : Json → Except ReadError Node
  | .object fields => do
    let tag ← readTag fields
    match Kind.ofName? tag with
    | none => return .unknown
    | some .program => return .program (← readProgramFields fields)
    | some .block => return .block (← readBlockFields fields)
    | some .mustache =>
      let escaped ← readField? fields "escaped" fun value _ => value.readBool
      let (path, args) ← readCallFields fields
      return .mustache path args (← required "escaped" escaped)
    | some .content => return .content (← Json.readStringField fields "original")
    | some .comment => return .comment (← Json.readStringField fields "value")
    | some .path => return .path (← Json.readStringField fields "original")
    | some .sub =>
      let (path, args) ← readCallFields fields
      return .sub path args
    | some .partialTag =>
      let (name, args) ← readPartialFields fields
      return .partialTag name args
    | some .partialBlock =>
      let hash ← readField? fields "hash" fun value _ => readHash value
      let name ← readField? fields "name" fun value _ => readPartialName value
      let params ← readField? fields "params" fun value _ => readNodes value
      let fallback ← readField? fields "program" fun value _ => readProgram value
      return .partialBlock (← required "name" name) ⟨params.getD [], hash.join⟩ (fallback.getD {})
    | some .string => return .string (← Json.readStringField fields "value")
    | some .number =>
      let value ← readField? fields "value" fun value _ => value.readNumber
      return .number (← required "value" value)
    | some .boolean =>
      let value ← readField? fields "value" fun value _ => value.readBool
      return .boolean (← required "value" value)
    | some .undefined => return .undefined
    | some .null => return .null
  | other => .error (.unexpected other .node)
termination_by value => sizeOf value

/-- Reads a list of nodes. -/
def readNodes : Json → Except ReadError (List Node)
  | .array items => readNodeItems items
  | other => .error (.unexpected other .sequence)
termination_by value => sizeOf value

def readNodeItems : List Json → Except ReadError (List Node)
  | [] => .ok []
  | item :: rest => do
    let first ← readNode item
    let others ← readNodeItems rest
    return first :: others
termination_by items => sizeOf items

/-- Reads the path and the arguments of a call. -/
def readCallFields (fields : Json.Fields) : Except ReadError (String × Arguments) := do
  let hash ← readField? fields "hash" fun value _ => readHash value
  let params ← readField? fields "params" fun value _ => readNodes value
  let path ← readField? fields "path" fun value _ => value.readPath
  return (← required "path" path, ⟨params.getD [], hash.join⟩)
termination_by sizeOf fields

/-- Reads the name and the arguments of a partial tag. -/
def readPartialFields (fields : Json.Fields) : Except ReadError (PartialName × Arguments) := do
  let hash ← readField? fields "hash" fun value _ => readHash value
  let name ← readField? fields "name" fun value _ => readPartialName value
  let params ← readField? fields "params" fun value _ => readNodes value
  return (← required "name" name, ⟨params.getD [], hash.join⟩)
termination_by sizeOf fields

def readBlockFields (fields : Json.Fields) : Except ReadError Block := do
  let hash ← readField? fields "hash" fun value _ => readHash value
  let inverse ← readField? fields "inverse" fun value _ => readInverse value
  let params ← readField? fields "params" fun value _ => readNodes value
  let path ← readField? fields "path" fun value _ => value.readPath
  let main ← readField? fields "program" fun value _ => readProgram value
  return ⟨← required "path" path, ⟨params.getD [], hash.join⟩, main.getD {}, inverse.join⟩
termination_by sizeOf fields

def readProgramFields (fields : Json.Fields) : Except ReadError Program := do
  let blockParams ← readField? fields "blockParams" fun value _ => value.readNames
  let body ← readField? fields "body" fun value _ => readNodes value
  return ⟨body.getD [], blockParams.join⟩
termination_by sizeOf fields

/-- Reads a program that no kind introduces. -/
def readProgram : Json → Except ReadError Program
  | .object fields => readProgramFields fields
  | other => .error (.unexpected other .program)
termination_by value => sizeOf value

/-- Reads an inverse program, which may also be left out by a null. -/
def readInverse : Json → Except ReadError (Option Program)
  | .null => .ok none
  | .object fields => return some (← readProgramFields fields)
  | other => .error (.unexpected other .program)
termination_by value => sizeOf value

/-- Reads the pairs of a call, which may also be left out by a null. -/
def readHash : Json → Except ReadError (Option (List Pair))
  | .null => .ok none
  | .object fields => do
    let pairs ← readField? fields "pairs" fun value _ => readPairs value
    return some (pairs.getD [])
  | other => .error (.unexpected other .hash)
termination_by value => sizeOf value

def readPairs : Json → Except ReadError (List Pair)
  | .array items => readPairItems items
  | other => .error (.unexpected other .sequence)
termination_by value => sizeOf value

def readPairItems : List Json → Except ReadError (List Pair)
  | [] => .ok []
  | item :: rest => do
    let first ← readPair item
    let others ← readPairItems rest
    return first :: others
termination_by items => sizeOf items

def readPair : Json → Except ReadError Pair
  | .object fields => do
    let key ← readField? fields "key" fun value _ => value.readString
    let value ← readField? fields "value" fun value _ => readNode value
    return ⟨← required "key" key, ← required "value" value⟩
  | other => .error (.unexpected other .pair)
termination_by value => sizeOf value

/-- Reads the name of a partial: a path or a call, told apart by its kind. -/
def readPartialName : Json → Except ReadError PartialName
  | .object fields => do
    let tag ← readTag fields
    match Kind.ofName? tag with
    | some .path => return .path (← Json.readStringField fields "original")
    | some .sub =>
      let (path, args) ← readCallFields fields
      return .sub path args
    | _ => .error (.unknownVariant tag [Kind.path.name, Kind.sub.name])
  | other => .error (.unexpected other .partialName)
termination_by value => sizeOf value

end

/-- Reads the name of a kind. -/
def readKind (name : String) : Except ReadError Kind :=
  match Kind.ofName? name with
  | some kind => .ok kind
  | none => .error (.unknownVariant name (Kind.all.map Kind.name))

end TemplatePrinter
