import TemplatePrinter.Proofs.Wire.Conformance
/-!
# Fields that nobody reads

An object may hold more than its table knows. `Json.strip` takes out of a value, at every depth, all
fields that are not read where they stand: those that the table of the kind or of the record does
not list, and every field but the kind where nobody knows the kind. The reader gives the same result
for a value and for what is left of it, the same tree or the same fault. So what an unknown field
holds, and where it stands among the others, makes no difference, not even to which fault is found
first. A value that is not plain, one with a shorthand in it, is refused by this reader; of a fuller
reader nothing is said there.

As in the theory of the schema, `Json.ReadsAlike` collects what is known of all reading functions at
one value, and passes from the values in a value to the value.
-/

namespace TemplatePrinter

/-! ### Stripped values -/

mutual

/-- The value without the fields that are not read in a value of its shape. -/
def Json.strip (shape : Shape) : Json → Json
  | .array items =>
    match shape with
    | .list item => .array (stripItems item items)
    | _ => .array items
  | .object fields =>
    match shape.readFields? fields with
    | some known => .object (stripFields known fields)
    | none => .object fields
  | value => value

def stripItems (item : Shape) : List Json → List Json
  | [] => []
  | value :: rest => value.strip item :: stripItems item rest

/-- The fields that a table knows, each stripped by its own shape. -/
def stripFields (known : List FieldShape) : Json.Fields → Json.Fields
  | [] => []
  | (name, value) :: rest =>
    match known.find? (·.name == name) with
    | some field => (name, value.strip field.shape) :: stripFields known rest
    | none => stripFields known rest

end

theorem stripItems_eq_map (item : Shape) (items : List Json) :
    stripItems item items = items.map (Json.strip item) := by
  induction items with
  | nil => rfl
  | cons value rest ih => rw [stripItems, ih, List.map_cons]

/-- A table knows a field, and no other field before it goes by the same name. -/
def Knows (known : List FieldShape) (field : FieldShape) : Prop :=
  known.find? (·.name == field.name) = some field

/-- A known field is found in what is left of an object, stripped by its shape. -/
theorem lookup_stripFields {known : List FieldShape} {field : FieldShape}
    (hknown : Knows known field) (fields : Json.Fields) :
    (stripFields known fields).lookup field.name =
      (fields.lookup field.name).map (Json.strip field.shape) := by
  induction fields with
  | nil => rfl
  | cons entry rest ih =>
    obtain ⟨name, value⟩ := entry
    rw [stripFields]
    by_cases hname : name = field.name
    · subst hname
      rw [show known.find? (·.name == field.name) = some field from hknown]
      simp
    · have hne : (field.name == name) = false := by simpa using Ne.symm hname
      cases known.find? (·.name == name) with
      | none => rw [ih, List.lookup_cons, hne]
      | some other => rw [List.lookup_cons, List.lookup_cons, hne, ih]

/-! ### Readers of values and fields -/

/-- The reader gives the same for the value and for what is left of it. -/
def ReadsStripped {α : Type} (shape : Shape) (read : Json → Except ReadError α) (value : Json) :
    Prop :=
  read (value.strip shape) = read value

/-- What is known of all reading functions at one value. -/
structure Json.ReadsAlike (value : Json) : Prop where
  node : ReadsStripped .node readNode value
  nodes : ReadsStripped (.list .node) readNodes value
  partialName : ReadsStripped .partialName readPartialName value
  program : ReadsStripped (.record .program) readProgram value
  inverse : ReadsStripped (.record .program) readInverse value
  hash : ReadsStripped (.record .hash) readHash value
  pair : ReadsStripped (.record .pair) readPair value
  pairs : ReadsStripped (.list (.record .pair)) readPairs value

theorem readField?_strip {α : Type} {known : List FieldShape} {fields : Json.Fields}
    {field : FieldShape} {read : Json → Except ReadError α} (hknown : Knows known field)
    (hread : ∀ value, fields.lookup field.name = some value →
      ReadsStripped field.shape read value) :
    readField? (stripFields known fields) field.name (fun value _ => read value) =
      readField? fields field.name fun value _ => read value := by
  have hlookup := lookup_stripFields hknown fields
  cases hfound : fields.lookup field.name with
  | none =>
    rw [hfound] at hlookup
    rw [readField?_of_absent read hlookup, readField?_of_absent read hfound]
  | some value =>
    rw [hfound] at hlookup
    rw [readField?_of_lookup read hlookup, readField?_of_lookup read hfound, hread value hfound]

/-- A list is read item by item. -/
theorem readItems_strip {α : Type} {shape : Shape} {read : Json → Except ReadError α}
    (readItems : List Json → Except ReadError (List α))
    (hcons : ∀ item rest, readItems (item :: rest) = do
      let first ← read item
      let others ← readItems rest
      return first :: others)
    {items : List Json} (hitems : ∀ item ∈ items, ReadsStripped shape read item) :
    readItems (stripItems shape items) = readItems items := by
  induction items with
  | nil => rfl
  | cons item rest ih =>
    rw [stripItems, hcons, hcons, hitems item List.mem_cons_self,
      ih fun other hother => hitems other (List.mem_cons_of_mem _ hother)]

/-! ### Values without known fields -/

/-- Whether values of the shape hold no other values. -/
def Shape.isAtom : Shape → Bool
  | .string | .boolean | .number | .tag => true
  | _ => false

theorem Json.strip_atom {shape : Shape} (hatom : shape.isAtom) (value : Json) :
    value.strip shape = value := by
  cases shape with
  | string | boolean | number | tag => cases value <;> rfl
  | _ => cases hatom

theorem Json.strip_names (value : Json) : value.strip (.list .string) = value := by
  cases value with
  | array items =>
    have hitems : items.map (Json.strip .string) = items :=
      List.map_id'' (Json.strip_atom rfl) items
    rw [Json.strip, stripItems_eq_map, hitems]
  | _ => rfl

/-! ### Objects -/

section Objects

variable (known : List FieldShape) {fields : Json.Fields}

theorem atom_strip {α : Type} (name : String) (shape : Shape) (read : Json → Except ReadError α)
    (hatom : shape.isAtom) (hknown : Knows known ⟨name, shape, .required⟩) :
    readField? (stripFields known fields) name (fun value _ => read value) =
      readField? fields name fun value _ => read value :=
  readField?_strip hknown fun value _ => congrArg read (Json.strip_atom hatom value)

theorem readStringField_strip (name : String) (hknown : Knows known ⟨name, .string, .required⟩) :
    Json.readStringField (stripFields known fields) name = Json.readStringField fields name := by
  rw [Json.readStringField, Json.readStringField, atom_strip known name .string _ rfl hknown]

theorem readTag_strip (hknown : Knows known .type) :
    readTag (stripFields known fields) = readTag fields := by
  have hlookup : (stripFields known fields).lookup "type" = fields.lookup "type" := by
    rw [show "type" = FieldShape.type.name from rfl, lookup_stripFields hknown]
    cases fields.lookup FieldShape.type.name with
    | none => rfl
    | some value => exact congrArg some (Json.strip_atom rfl value)
  rw [readTag, readTag, hlookup]

theorem readTag_eq_ok_iff {tag : String} : readTag fields = .ok tag ↔ tag? fields = some tag := by
  rw [readTag, tag?]
  cases fields.lookup "type" with
  | none => simp
  | some value => cases value <;> simp

theorem readPath_strip (value : Json) : ReadsStripped (.record .path) Json.readPath value := by
  cases value with
  | object fields => exact readStringField_strip Record.path.fieldShapes "original" rfl
  | _ => rfl

variable (hfields : ∀ name value, fields.lookup name = some value → value.ReadsAlike)
include hfields

/-- A field that is read by one of the readers that are known to read its value alike. -/
theorem field_strip {α : Type} (name : String) {shape : Shape} {presence : Presence}
    {read : Json → Except ReadError α}
    (hread : ∀ {value : Json}, value.ReadsAlike → ReadsStripped shape read value)
    (hknown : Knows known ⟨name, shape, presence⟩) :
    readField? (stripFields known fields) name (fun value _ => read value) =
      readField? fields name fun value _ => read value :=
  readField?_strip hknown fun value hfound => hread (hfields name value hfound)

/-! ### Groups of fields -/

theorem call_strip (hhash : Knows known .hash) (hparams : Knows known .params)
    (hpath : Knows known .path) :
    readCallFields (stripFields known fields) = readCallFields fields := by
  rw [readCallFields, readCallFields, field_strip known hfields "hash" (·.hash) hhash,
    field_strip known hfields "params" (·.nodes) hparams,
    field_strip known hfields "path" (fun _ => readPath_strip _) hpath]

theorem program_fields_strip (hnames : Knows known .blockParams) (hbody : Knows known .body) :
    readProgramFields (stripFields known fields) = readProgramFields fields := by
  rw [readProgramFields, readProgramFields,
    field_strip known hfields "blockParams" (fun _ => congrArg _ (Json.strip_names _)) hnames,
    field_strip known hfields "body" (·.nodes) hbody]

theorem block_fields_strip :
    readBlockFields (stripFields Kind.block.fieldShapes fields) = readBlockFields fields := by
  rw [readBlockFields, readBlockFields,
    field_strip Kind.block.fieldShapes hfields "hash" (·.hash) rfl,
    field_strip Kind.block.fieldShapes hfields "inverse" (·.inverse) rfl,
    field_strip Kind.block.fieldShapes hfields "params" (·.nodes) rfl,
    field_strip Kind.block.fieldShapes hfields "path" (fun _ => readPath_strip _) rfl,
    field_strip Kind.block.fieldShapes hfields "program" (·.program) rfl]

theorem partial_fields_strip :
    readPartialFields (stripFields Kind.partialTag.fieldShapes fields) =
      readPartialFields fields := by
  rw [readPartialFields, readPartialFields,
    field_strip Kind.partialTag.fieldShapes hfields "hash" (·.hash) rfl,
    field_strip Kind.partialTag.fieldShapes hfields "name" (·.partialName) rfl,
    field_strip Kind.partialTag.fieldShapes hfields "params" (·.nodes) rfl]

/-! ### Nodes -/

/-- A node of a known kind. -/
theorem node_kind_strip {kind : Kind} (htag : readTag fields = .ok kind.name) :
    readNode (.object (stripFields kind.fieldShapes fields)) = readNode (.object fields) := by
  have htag' : readTag (stripFields kind.fieldShapes fields) = .ok kind.name := by
    rw [readTag_strip kind.fieldShapes (by cases kind <;> rfl), htag]
  rw [readNode, readNode, htag, htag', ok_bind, ok_bind, Kind.ofName?_name]
  cases kind with
  | program => simp only [program_fields_strip Kind.program.fieldShapes hfields rfl rfl]
  | block => simp only [block_fields_strip hfields]
  | mustache =>
    simp only [call_strip Kind.mustache.fieldShapes hfields rfl rfl rfl,
      atom_strip Kind.mustache.fieldShapes "escaped" .boolean _ rfl rfl]
  | content => simp only [readStringField_strip Kind.content.fieldShapes "original" rfl]
  | comment => simp only [readStringField_strip Kind.comment.fieldShapes "value" rfl]
  | path => simp only [readStringField_strip Kind.path.fieldShapes "original" rfl]
  | sub => simp only [call_strip Kind.sub.fieldShapes hfields rfl rfl rfl]
  | partialTag => simp only [partial_fields_strip hfields]
  | partialBlock =>
    simp only [field_strip Kind.partialBlock.fieldShapes hfields "hash" (·.hash) rfl,
      field_strip Kind.partialBlock.fieldShapes hfields "name" (·.partialName) rfl,
      field_strip Kind.partialBlock.fieldShapes hfields "params" (·.nodes) rfl,
      field_strip Kind.partialBlock.fieldShapes hfields "program" (·.program) rfl]
  | string => simp only [readStringField_strip Kind.string.fieldShapes "value" rfl]
  | number => simp only [atom_strip Kind.number.fieldShapes "value" .number _ rfl rfl]
  | boolean => simp only [atom_strip Kind.boolean.fieldShapes "value" .boolean _ rfl rfl]
  | undefined | null => rfl

theorem node_object_strip : ReadsStripped .node readNode (.object fields) := by
  show readNode (.object (stripFields ((Shape.node.fieldShapes? fields).getD [.type]) fields)) = _
  cases htag : tag? fields with
  | none =>
    obtain ⟨error, herror⟩ := readTag_of_untagged htag
    rw [(Shape.fieldShapes?_untagged htag).1, Option.getD_none, readNode, readNode,
      readTag_strip [.type] rfl, herror]
    rfl
  | some tag =>
    have hread : readTag fields = .ok tag := readTag_eq_ok_iff.mpr htag
    rw [Shape.fieldShapes?_node htag, Option.getD_some]
    cases hkind : Kind.ofName? tag with
    | some kind =>
      obtain rfl := Kind.ofName?_eq_some_iff.mp hkind
      exact node_kind_strip hfields hread
    | none =>
      rw [Option.elim_none, readNode, readNode, readTag_strip [.type] rfl, hread, ok_bind, ok_bind,
        hkind]

/-- The name of a partial is of one of two kinds. With any other, the kind is the fault. -/
theorem partialName_object_strip : ReadsStripped .partialName readPartialName (.object fields) := by
  show readPartialName
    (.object (stripFields ((Shape.partialName.fieldShapes? fields).getD [.type]) fields)) = _
  cases htag : tag? fields with
  | none =>
    obtain ⟨error, herror⟩ := readTag_of_untagged htag
    rw [(Shape.fieldShapes?_untagged htag).2, Option.getD_none, readPartialName, readPartialName,
      readTag_strip [.type] rfl, herror]
    rfl
  | some tag =>
    have hread : readTag fields = .ok tag := readTag_eq_ok_iff.mpr htag
    rw [Shape.fieldShapes?_partialName htag]
    by_cases hpath : tag = Kind.path.name
    · subst hpath
      rw [if_pos rfl, Option.getD_some, readPartialName, readPartialName,
        readTag_strip Kind.path.fieldShapes rfl, hread, ok_bind, ok_bind, Kind.ofName?_name]
      simp only [readStringField_strip Kind.path.fieldShapes "original" rfl]
    by_cases hsub : tag = Kind.sub.name
    · subst hsub
      rw [if_neg hpath, if_pos rfl, Option.getD_some, readPartialName, readPartialName,
        readTag_strip Kind.sub.fieldShapes rfl, hread, ok_bind, ok_bind, Kind.ofName?_name]
      simp only [call_strip Kind.sub.fieldShapes hfields rfl rfl rfl]
    · rw [if_neg hpath, if_neg hsub, Option.getD_none, readPartialName, readPartialName,
        readTag_strip [.type] rfl, hread, ok_bind, ok_bind]
      split
      · exact absurd (Kind.ofName?_eq_some_iff.mp ‹_›).symm hpath
      · exact absurd (Kind.ofName?_eq_some_iff.mp ‹_›).symm hsub
      · rfl

theorem program_object_strip : ReadsStripped (.record .program) readProgram (.object fields) := by
  show readProgram (.object (stripFields Record.program.fieldShapes fields)) = _
  rw [readProgram, readProgram, program_fields_strip Record.program.fieldShapes hfields rfl rfl]

theorem inverse_object_strip : ReadsStripped (.record .program) readInverse (.object fields) := by
  show readInverse (.object (stripFields Record.program.fieldShapes fields)) = _
  rw [readInverse, readInverse, program_fields_strip Record.program.fieldShapes hfields rfl rfl]

theorem hash_object_strip : ReadsStripped (.record .hash) readHash (.object fields) := by
  show readHash (.object (stripFields Record.hash.fieldShapes fields)) = _
  rw [readHash, readHash, field_strip Record.hash.fieldShapes hfields "pairs" (·.pairs) rfl]

theorem pair_object_strip : ReadsStripped (.record .pair) readPair (.object fields) := by
  show readPair (.object (stripFields Record.pair.fieldShapes fields)) = _
  rw [readPair, readPair, atom_strip Record.pair.fieldShapes "key" .string _ rfl rfl,
    field_strip Record.pair.fieldShapes hfields "value" (·.node) rfl]

theorem Json.readsAlike_object : (Json.object fields).ReadsAlike where
  node := node_object_strip hfields
  nodes := rfl
  partialName := partialName_object_strip hfields
  program := program_object_strip hfields
  inverse := inverse_object_strip hfields
  hash := hash_object_strip hfields
  pair := pair_object_strip hfields
  pairs := rfl

end Objects

/-! ### All values -/

theorem Json.readsAlike_array {items : List Json} (hitems : ∀ item ∈ items, item.ReadsAlike) :
    (Json.array items).ReadsAlike where
  node := rfl
  nodes := by
    show readNodes (.array (stripItems .node items)) = _
    rw [readNodes, readNodes]
    exact readItems_strip readNodeItems (fun item rest => by rw [readNodeItems])
      fun item h => (hitems item h).node
  partialName := rfl
  program := rfl
  inverse := rfl
  hash := rfl
  pair := rfl
  pairs := by
    show readPairs (.array (stripItems (.record .pair) items)) = _
    rw [readPairs, readPairs]
    exact readItems_strip readPairItems (fun item rest => by rw [readPairItems])
      fun item h => (hitems item h).pair

/-- All readers read every value as what is left of it, by recursion into the items and the fields
that are looked at. -/
theorem Json.readsAlike (value : Json) : value.ReadsAlike :=
  match value with
  | .array items => Json.readsAlike_array fun item hitem =>
    have := Json.sizeOf_lt_of_mem hitem
    Json.readsAlike item
  | .object fields => Json.readsAlike_object fun _ inner hfound =>
    have := Json.sizeOf_lt_of_lt_fields (Json.sizeOf_lt_of_lookup hfound)
    Json.readsAlike inner
  | .null | .bool _ | .number _ | .string _ => ⟨rfl, rfl, rfl, rfl, rfl, rfl, rfl, rfl⟩
termination_by sizeOf value
decreasing_by all_goals assumption

/-- **Fields that nobody reads make no difference.** A value and what is left of it when all unknown
fields are taken out are read alike, so two values that differ in unknown fields alone give the same
tree or the same fault. -/
theorem readNode_strip (value : Json) :
    readNode (value.strip .node) = readNode value ∧
      ∀ other : Json, other.strip .node = value.strip .node → readNode other = readNode value := by
  have hstrip : ∀ value : Json, readNode (value.strip .node) = readNode value :=
    fun value => value.readsAlike.node
  refine ⟨hstrip value, fun other hother => ?_⟩
  rw [← hstrip other, hother, hstrip value]

/-- A call with a fault in its last argument, a string without a value. -/
def faultyCall : Json :=
  .object [("type", .string "MustacheStatement"), ("escaped", .bool true),
    ("path", .object [("original", .string "f")]),
    ("params", .array [.object [("type", .string "NullLiteral")],
      .object [("type", .string "Decorator")], .object [("type", .string "StringLiteral")]])]

/-- The same call with fields that nobody reads, some of which would be faults where they are
read. -/
def strewnCall : Json :=
  .object [("body", .array [.null]), ("type", .string "MustacheStatement"), ("escaped", .bool true),
    ("loc", .object [("start", .number (.int 0))]),
    ("path", .object [("type", .bool true), ("original", .string "f"), ("parts", .null)]),
    ("params", .array [.object [("type", .string "NullLiteral"), ("value", .array [])],
      .object [("path", .null), ("type", .string "Decorator")],
      .object [("original", .null), ("type", .string "StringLiteral")]])]

theorem readNode_strewnCall :
    strewnCall.strip .node = faultyCall ∧ readNode strewnCall = readNode faultyCall ∧
      readNode faultyCall = .error (.missingField "value") := by
  have hstrewn : strewnCall.strip .node = faultyCall := by rfl
  have hfaulty : faultyCall.strip .node = faultyCall := by rfl
  refine ⟨hstrewn, (readNode_strip faultyCall).2 strewnCall (hstrewn.trans hfaulty.symm), ?_⟩
  with_unfolding_all rfl

end TemplatePrinter
