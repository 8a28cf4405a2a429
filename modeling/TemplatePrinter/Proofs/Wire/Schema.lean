import TemplatePrinter.Json.Basic
/-!
# The schema of trees in JSON

Which JSON values stand for a tree, said by tables: for every name that a node may go by, and for
every object without such a name, the fields it knows, what the value of each has to look like, and
what it means when the field is absent. A value conforms when every object in it has its required
fields and every known field that is there conforms. Fields that no table knows are not looked at.
The tables stand on their own: no part of a reader or of a writer is used here.

A value that conforms is one of many that stand for the same tree. The canonical form of a value,
`Json.canon`, is the one that a writer gives: its objects hold the fields of their table, in the
order of their names, with defaults filled in and nothing else.

`Json.isPlain` excludes two shorthands: an array that lists the values of an object, in the place of
the object, and a number in the place of the name of a kind. The schema has no room for them, but a
fuller reader takes them.
-/

namespace TemplatePrinter

/-! ### Tables -/

/-- Objects that no kind introduces. -/
inductive Record where
  | path
  | program
  | hash
  | pair

/-- What a value has to look like. -/
inductive Shape where
  | string
  | boolean
  | number
  /-- The name of a kind. -/
  | tag
  | list (item : Shape)
  | record (record : Record)
  | node
  /-- A node that may name a partial. -/
  | partialName

/-- What the absence of a field means. -/
inductive Presence where
  | required
  /-- The field may be left out, also by a null. -/
  | optional
  | filled (default : Json)

structure FieldShape where
  name : String
  shape : Shape
  presence : Presence

namespace FieldShape

def type : FieldShape := ⟨"type", .tag, .required⟩
def hash : FieldShape := ⟨"hash", .record .hash, .optional⟩
def params : FieldShape := ⟨"params", .list .node, .filled (.array [])⟩
def path : FieldShape := ⟨"path", .record .path, .required⟩
def partialName : FieldShape := ⟨"name", .partialName, .required⟩
def program : FieldShape := ⟨"program", .record .program, .filled (.object [("body", .array [])])⟩
def inverse : FieldShape := ⟨"inverse", .record .program, .optional⟩
def pairs : FieldShape := ⟨"pairs", .list (.record .pair), .filled (.array [])⟩
def original : FieldShape := ⟨"original", .string, .required⟩
def blockParams : FieldShape := ⟨"blockParams", .list .string, .optional⟩
def body : FieldShape := ⟨"body", .list .node, .filled (.array [])⟩

end FieldShape

/-- The fields of an object that no kind introduces, in the order of their names. -/
def Record.fieldShapes : Record → List FieldShape
  | .path => [.original]
  | .program => [.blockParams, .body]
  | .hash => [.pairs]
  | .pair => [⟨"key", .string, .required⟩, ⟨"value", .node, .required⟩]

/-- The fields of a node, in the order of their names, by the name of its kind. -/
def nodeTable : List (String × List FieldShape) :=
  [("Program", [.blockParams, .body, .type]),
    ("BlockStatement", [.hash, .inverse, .params, .path, .program, .type]),
    ("MustacheStatement", [⟨"escaped", .boolean, .required⟩, .hash, .params, .path, .type]),
    ("ContentStatement", [.original, .type]),
    ("CommentStatement", [.type, ⟨"value", .string, .required⟩]),
    ("PathExpression", [.original, .type]),
    ("SubExpression", [.hash, .params, .path, .type]),
    ("PartialStatement", [.hash, .partialName, .params, .type]),
    ("PartialBlockStatement", [.hash, .partialName, .params, .program, .type]),
    ("StringLiteral", [.type, ⟨"value", .string, .required⟩]),
    ("NumberLiteral", [.type, ⟨"value", .number, .required⟩]),
    ("BooleanLiteral", [.type, ⟨"value", .boolean, .required⟩]),
    ("UndefinedLiteral", [.type]),
    ("NullLiteral", [.type])]

/-- The nodes that may name a partial. -/
def partialNameTable : List (String × List FieldShape) :=
  [("PathExpression", [.original, .type]), ("SubExpression", [.hash, .params, .path, .type])]

/-- The name of the kind of an object, if it has one. -/
def tag? (fields : Json.Fields) : Option String :=
  match fields.lookup "type" with
  | some (.string name) => some name
  | _ => none

/-- The fields that an object of a shape knows. They depend on its kind where the shape leaves the
kind open. A node of a kind that is not in the table has no field but its kind. -/
def Shape.fieldShapes? (shape : Shape) (fields : Json.Fields) : Option (List FieldShape) :=
  match shape with
  | .record r => some r.fieldShapes
  | .node => (tag? fields).map fun tag => (nodeTable.lookup tag).getD [.type]
  | .partialName => (tag? fields).bind fun tag => partialNameTable.lookup tag
  | _ => none

/-- The fields that are read of an object of a shape, if objects of the shape are read at all. -/
def Shape.readFields? (shape : Shape) (fields : Json.Fields) : Option (List FieldShape) :=
  match shape with
  | .record r => some r.fieldShapes
  | .node | .partialName => some ((shape.fieldShapes? fields).getD [.type])
  | _ => none

/-! ### Conformance -/

def Json.isNull : Json → Bool
  | .null => true
  | _ => false

def Presence.isOptional : Presence → Bool
  | .optional => true
  | _ => false

def Presence.isRequired : Presence → Bool
  | .required => true
  | _ => false

/-- Whether a field is there, if it has to be. -/
def FieldShape.isThere (field : FieldShape) (fields : Json.Fields) : Bool :=
  !field.presence.isRequired || (fields.lookup field.name).isSome

/-- Whether a field that is there has a value as it should be. -/
def FieldShape.admits (field : FieldShape) (fields : Json.Fields)
    (conforms : (value : Json) → sizeOf value < sizeOf fields → Bool) : Bool :=
  match found : fields.lookup field.name with
  | none => true
  | some value =>
    field.presence.isOptional && value.isNull || conforms value (Json.sizeOf_lt_of_lookup found)

theorem Json.sizeOf_lt_of_mem {items : List Json} {item : Json} (hitem : item ∈ items) :
    sizeOf item < sizeOf (Json.array items) := by
  have hlt : sizeOf item < sizeOf items := List.sizeOf_lt_of_mem hitem
  simp only [Json.array.sizeOf_spec]
  omega

theorem Json.sizeOf_lt_of_lt_fields {fields : Json.Fields} {value : Json}
    (hvalue : sizeOf value < sizeOf fields) : sizeOf value < sizeOf (Json.object fields) := by
  simp only [Json.object.sizeOf_spec]
  omega

/-- Whether a value is of a shape. -/
def Json.conforms (shape : Shape) (value : Json) : Bool :=
  match shape, value with
  | .string, .string _ | .tag, .string _ | .boolean, .bool _ | .number, .number _ => true
  | .list item, .array items => items.attach.all fun element => element.val.conforms item
  | shape, .object fields =>
    match shape.fieldShapes? fields with
    | some known => known.all fun field =>
      (field.admits fields fun value _ => value.conforms field.shape) && field.isThere fields
    | none => false
  | _, _ => false
termination_by sizeOf value
decreasing_by
  · exact Json.sizeOf_lt_of_mem element.property
  · exact Json.sizeOf_lt_of_lt_fields (by assumption)

/-! ### Plain values -/

/-- Whether no array stands for an object in a value of a shape, and no number for the name of a
kind. -/
def Json.isPlain (shape : Shape) (value : Json) : Bool :=
  match shape, value with
  | .record _, .array _ | .node, .array _ | .partialName, .array _ | .tag, .number _ => false
  | .list item, .array items => items.attach.all fun element => element.val.isPlain item
  | shape, .object fields =>
    ((shape.readFields? fields).getD []).all fun field =>
      field.admits fields fun value _ => value.isPlain field.shape
  | _, _ => true
termination_by sizeOf value
decreasing_by
  · exact Json.sizeOf_lt_of_mem element.property
  · exact Json.sizeOf_lt_of_lt_fields (by assumption)

/-- Whether the number of double precision nearest to a number is finite. -/
def JsonNumber.isInRange : JsonNumber → Bool
  | .int value => (Binary64.ofInt value).isFinite
  | .float value => value.isFinite

/-! ### Canonical forms -/

/-- A field as it stands in the canonical form of its object, or nothing where it does not. -/
def FieldShape.fill (field : FieldShape) (fields : Json.Fields)
    (canon : (value : Json) → sizeOf value < sizeOf fields → Json) : Json.Fields :=
  match found : fields.lookup field.name with
  | none =>
    match field.presence with
    | .filled default => [(field.name, default)]
    | _ => []
  | some value =>
    if field.presence.isOptional && value.isNull then []
    else [(field.name, canon value (Json.sizeOf_lt_of_lookup found))]

/-- The canonical form of a value of a shape. An integer becomes the nearest number of double
precision, and a name that is not in the table becomes the one of an unknown node. -/
def Json.canon (shape : Shape) (value : Json) : Json :=
  match shape, value with
  | .tag, .string name => .string (if (nodeTable.lookup name).isSome then name else "Unknown")
  | .number, .number (.int value) => .number (.float (.ofInt value))
  | .list item, .array items => .array (items.attach.map fun element => element.val.canon item)
  | shape, .object fields =>
    .object (((shape.fieldShapes? fields).getD []).flatMap fun field =>
      field.fill fields fun value _ => value.canon field.shape)
  | _, value => value
termination_by sizeOf value
decreasing_by
  · exact Json.sizeOf_lt_of_mem element.property
  · exact Json.sizeOf_lt_of_lt_fields (by assumption)

/-! ### Objects field by field -/

namespace FieldShape

variable (field : FieldShape) {fields : Json.Fields}

/-- Whether a field that is there conforms. -/
def isTyped (fields : Json.Fields) : Bool :=
  field.admits fields fun value _ => value.conforms field.shape

/-- Whether a field is as its table says. -/
def holds (fields : Json.Fields) : Bool :=
  field.isTyped fields && field.isThere fields

/-- A field in the canonical form of its object. -/
def canon (fields : Json.Fields) : Json.Fields :=
  field.fill fields fun value _ => value.canon field.shape

/-- A field that may be left out only has to conform if it is there. -/
theorem holds_of_not_required (hpresence : field.presence.isRequired = false) :
    field.holds fields = field.isTyped fields := by
  simp [holds, isThere, hpresence]

theorem isTyped_of_absent (habsent : fields.lookup field.name = none) :
    field.isTyped fields = true := by
  unfold isTyped admits
  split <;> simp_all

theorem isTyped_of_lookup {value : Json} (hfound : fields.lookup field.name = some value) :
    field.isTyped fields =
      (field.presence.isOptional && value.isNull || value.conforms field.shape) := by
  unfold isTyped admits
  split <;> simp_all

theorem canon_of_absent (habsent : fields.lookup field.name = none) :
    field.canon fields = match field.presence with
      | .filled default => [(field.name, default)]
      | _ => [] := by
  unfold canon fill
  split <;> simp_all

theorem canon_of_lookup {value : Json} (hfound : fields.lookup field.name = some value) :
    field.canon fields = if field.presence.isOptional && value.isNull then []
      else [(field.name, value.canon field.shape)] := by
  unfold canon fill
  split <;> simp_all

end FieldShape

theorem Json.conforms_list (item : Shape) (items : List Json) :
    Json.conforms (.list item) (.array items) = items.all (Json.conforms item) := by
  rw [Json.conforms, List.all_subtype fun _ _ => rfl, List.unattach_attach]

theorem Json.canon_list (item : Shape) (items : List Json) :
    Json.canon (.list item) (.array items) = .array (items.map (Json.canon item)) := by
  rw [Json.canon, List.map_subtype fun _ _ => rfl, List.unattach_attach]

/-- An object of a shape that fixes its fields. -/
theorem Json.conforms_object {shape : Shape} {fields : Json.Fields} {known : List FieldShape}
    (hknown : shape.fieldShapes? fields = some known) :
    Json.conforms shape (.object fields) = known.all (·.holds fields) := by
  cases shape <;> simp [Json.conforms, hknown] <;> rfl

/-- An object of a shape that has no objects like it. -/
theorem Json.conforms_unknown {shape : Shape} {fields : Json.Fields}
    (hunknown : shape.fieldShapes? fields = none) : Json.conforms shape (.object fields) = false := by
  cases shape <;> simp [Json.conforms, hunknown]

theorem Json.canon_object {shape : Shape} {fields : Json.Fields} {known : List FieldShape}
    (hknown : shape.fieldShapes? fields = some known) :
    Json.canon shape (.object fields) = .object (known.flatMap (·.canon fields)) := by
  cases shape <;> simp [Json.canon, hknown] <;> rfl

end TemplatePrinter
