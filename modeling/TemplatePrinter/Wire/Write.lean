import TemplatePrinter.Json.Basic
import TemplatePrinter.Node.Kind
/-!
# Trees as JSON

The JSON form of a tree. Every object lists its fields in the order of their names. Pairs, an
inverse program and bound names are left out when there are none, which is not the same as an
empty list of them; lists and programs that every node of a kind has are written also when they
are empty. A number that is not finite has no JSON form and becomes a null.
-/

namespace TemplatePrinter

/-- The name of a kind as a field. -/
def Kind.field (kind : Kind) : String × Json :=
  ("type", .string kind.name)

def Binary64.toJson (x : Binary64) : Json :=
  if x.isFinite then .number (.float x) else .null

/-- A path as an object of its own. -/
def pathToJson (text : String) : Json :=
  .object [("original", .string text)]

/-- The bound names of a program as a field, if it binds any. -/
def blockParamsFields : Option (List String) → Json.Fields
  | none => []
  | some names => [("blockParams", .array (names.map .string))]

mutual

def Node.toJson : Node → Json
  | .program p => .object (p.toFields ++ [Kind.program.field])
  | .block ⟨callee, ⟨params, hash⟩, main, inverse⟩ =>
    .object (hashToFields hash ++ inverseToFields inverse ++
      [("params", .array (nodesToJson params)), ("path", pathToJson callee),
        ("program", .object main.toFields), Kind.block.field])
  | .mustache callee ⟨params, hash⟩ escaped =>
    .object (("escaped", .bool escaped) :: hashToFields hash ++
      [("params", .array (nodesToJson params)), ("path", pathToJson callee), Kind.mustache.field])
  | .content text => .object [("original", .string text), Kind.content.field]
  | .comment text => .object [Kind.comment.field, ("value", .string text)]
  | .path text => .object [("original", .string text), Kind.path.field]
  | .sub callee ⟨params, hash⟩ =>
    .object (hashToFields hash ++
      [("params", .array (nodesToJson params)), ("path", pathToJson callee), Kind.sub.field])
  | .partialTag name ⟨params, hash⟩ =>
    .object (hashToFields hash ++
      [("name", name.toJson), ("params", .array (nodesToJson params)), Kind.partialTag.field])
  | .partialBlock name ⟨params, hash⟩ fallback =>
    .object (hashToFields hash ++
      [("name", name.toJson), ("params", .array (nodesToJson params)),
        ("program", .object fallback.toFields), Kind.partialBlock.field])
  | .string value => .object [Kind.string.field, ("value", .string value)]
  | .number value => .object [Kind.number.field, ("value", value.toJson)]
  | .boolean value => .object [Kind.boolean.field, ("value", .bool value)]
  | .undefined => .object [Kind.undefined.field]
  | .null => .object [Kind.null.field]
  | .unknown => .object [("type", .string "Unknown")]

def Program.toFields : Program → Json.Fields
  | ⟨body, blockParams⟩ => blockParamsFields blockParams ++ [("body", .array (nodesToJson body))]

def PartialName.toJson : PartialName → Json
  | .path text => .object [("original", .string text), Kind.path.field]
  | .sub callee ⟨params, hash⟩ =>
    .object (hashToFields hash ++
      [("params", .array (nodesToJson params)), ("path", pathToJson callee), Kind.sub.field])

def inverseToFields : Option Program → Json.Fields
  | none => []
  | some program => [("inverse", .object program.toFields)]

def hashToFields : Option (List Pair) → Json.Fields
  | none => []
  | some pairs => [("hash", .object [("pairs", .array (pairsToJson pairs))])]

def nodesToJson : List Node → List Json
  | [] => []
  | node :: rest => node.toJson :: nodesToJson rest

def pairsToJson : List Pair → List Json
  | [] => []
  | ⟨key, value⟩ :: rest =>
    .object [("key", .string key), ("value", value.toJson)] :: pairsToJson rest

end

end TemplatePrinter
