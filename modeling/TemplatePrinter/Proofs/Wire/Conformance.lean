import TemplatePrinter.Proofs.Wire.RoundTrip
import TemplatePrinter.Proofs.Wire.FieldReading
/-!
# The reader and the schema

The reader accepts the values that conform to the schema of trees and no others, and the tree that
it makes of a value is written as the canonical form of the value.

The reading functions call one another on the values in a value. `Json.Agrees` collects what is
known of all of them at one value. It holds of an object when it holds of the values of its fields,
kind by kind, and of an array when it holds of its items, so it holds of every value. The one
condition is on numbers: JSON has more of them than there are finite doubles. The result is stated of
plain values alone: a value with a shorthand in it neither conforms nor is read here, but a fuller
reader takes it.
-/

namespace TemplatePrinter

/-! ### One value -/

/-- The fields of a call. -/
def callFields : List FieldShape :=
  [.hash, .params, .path]

/-- The fields of a tag that names a partial. -/
def partialFields : List FieldShape :=
  [.hash, .partialName, .params]

/-- The fields of a block. -/
def blockFields : List FieldShape :=
  [.hash, .inverse, .params, .path, .program]

def pairToJson (pair : Pair) : Json :=
  .object [("key", .string pair.key), ("value", pair.value.toJson)]

/-- What is known of all reading functions at one value. -/
structure Json.Agrees (value : Json) : Prop where
  number : ReadsShape .number Json.readNumber Binary64.toJson value
  node : ReadsShape .node readNode Node.toJson value
  nodes : ReadsShape (.list .node) readNodes (.array <| nodesToJson ·) value
  partialName : ReadsShape .partialName readPartialName PartialName.toJson value
  program : ReadsShape (.record .program) readProgram (.object <| Program.toFields ·) value
  inverse : ReadsOptional (.record .program) readInverse (.object <| Program.toFields ·) value
  hash : ReadsOptional (.record .hash) readHash hashToJson value
  pair : ReadsShape (.record .pair) readPair pairToJson value
  pairs : ReadsShape (.list (.record .pair)) readPairs (.array <| pairsToJson ·) value

/-! ### Single fields

The fields of one object, whose values the readers are known to agree on. -/

section Objects

variable {fields : Json.Fields}

theorem path_decides :
    Decides (readField? fields "path" fun value _ => value.readPath)
      (FieldShape.path.isTyped fields) fun found =>
        found.isSome = FieldShape.path.isThere fields ∧
          ∀ path ∈ found, FieldShape.path.canon fields = [("path", pathToJson path)] :=
  readField?_required fun value _ => readsShape_path value

theorem blockParams_decides :
    Decides (readField? fields "blockParams" fun value _ => value.readNames)
      (FieldShape.blockParams.holds fields) fun found =>
        FieldShape.blockParams.canon fields = blockParamsFields found.join := by
  refine (readField?_optional fun value _ => readsOptional_names value).imp fun found hfound => ?_
  rw [FieldShape.blockParams, hfound]
  cases found.join <;> rfl

theorem tag?_eq_some_iff {tag : String} :
    tag? fields = some tag ↔ fields.lookup "type" = some (.string tag) := by
  unfold tag?
  split <;> simp_all

theorem readTag_of_untagged (htag : tag? fields = none) :
    ∃ error, readTag fields = .error error := by
  unfold readTag
  split
  · exact ⟨_, rfl⟩
  · rename_i name hname
    simp [tag?_eq_some_iff.2 hname] at htag
  · exact ⟨_, rfl⟩

theorem type_typed {tag : String} (htype : fields.lookup "type" = some (.string tag)) :
    FieldShape.type.isTyped fields = true ∧ FieldShape.type.isThere fields = true := by
  constructor
  · rw [FieldShape.isTyped_of_lookup .type htype]
    simp [FieldShape.type, Json.conforms]
  · simp [FieldShape.isThere, FieldShape.type, htype]

theorem type_canon {tag : String} (htype : fields.lookup "type" = some (.string tag)) :
    FieldShape.type.canon fields =
      [("type", .string (if (Kind.ofName? tag).isSome then tag else "Unknown"))] := by
  rw [FieldShape.canon_of_lookup .type htype]
  simp [FieldShape.type, Presence.isOptional, Json.canon, lookup_nodeTable]

theorem type_holds {tag : String} (htype : fields.lookup "type" = some (.string tag)) :
    FieldShape.type.holds fields = true := by
  simp [FieldShape.holds, type_typed htype]

theorem type_canon_kind {kind : Kind} (htype : fields.lookup "type" = some (.string kind.name)) :
    FieldShape.type.canon fields = [kind.field] := by
  simp [type_canon htype, Kind.ofName?_name, Kind.field]

variable (hfields : ∀ name value, fields.lookup name = some value → value.Agrees)
include hfields

theorem body_decides :
    Decides (readField? fields "body" fun value _ => readNodes value)
      (FieldShape.body.holds fields) fun found =>
        FieldShape.body.canon fields = [("body", .array (nodesToJson (found.getD [])))] :=
  readField?_filled [] fun value h => (hfields _ value h).nodes

theorem params_decides :
    Decides (readField? fields "params" fun value _ => readNodes value)
      (FieldShape.params.holds fields) fun found =>
        FieldShape.params.canon fields = [("params", .array (nodesToJson (found.getD [])))] :=
  readField?_filled [] fun value h => (hfields _ value h).nodes

theorem hash_decides :
    Decides (readField? fields "hash" fun value _ => readHash value)
      (FieldShape.hash.holds fields) fun found =>
        FieldShape.hash.canon fields = hashToFields found.join := by
  refine (readField?_optional fun value h => (hfields _ value h).hash).imp fun found hfound => ?_
  rw [FieldShape.hash, hfound]
  cases found.join <;> rfl

theorem pairs_decides :
    Decides (readField? fields "pairs" fun value _ => readPairs value)
      (FieldShape.pairs.holds fields) fun found =>
        FieldShape.pairs.canon fields = [("pairs", .array (pairsToJson (found.getD [])))] :=
  readField?_filled [] fun value h => (hfields _ value h).pairs

theorem partialName_decides :
    Decides (readField? fields "name" fun value _ => readPartialName value)
      (FieldShape.partialName.isTyped fields) fun found =>
        found.isSome = FieldShape.partialName.isThere fields ∧
          ∀ name ∈ found, FieldShape.partialName.canon fields = [("name", name.toJson)] :=
  readField?_required fun value h => (hfields _ value h).partialName

theorem program_decides :
    Decides (readField? fields "program" fun value _ => readProgram value)
      (FieldShape.program.holds fields) fun found =>
        FieldShape.program.canon fields = [("program", .object (found.getD {}).toFields)] :=
  readField?_filled {} fun value h => (hfields _ value h).program

theorem inverse_decides :
    Decides (readField? fields "inverse" fun value _ => readInverse value)
      (FieldShape.inverse.holds fields) fun found =>
        FieldShape.inverse.canon fields = inverseToFields found.join := by
  refine (readField?_optional fun value h => (hfields _ value h).inverse).imp fun found hfound => ?_
  rw [FieldShape.inverse, hfound]
  cases found.join <;> rfl

/-! ### Groups of fields

A field that is missing is noticed only when all fields are read, so a reader tests the conditions
of its table in another order than the table does. -/

theorem call_decides :
    Decides (readCallFields fields) (callFields.all (·.holds fields)) fun call =>
      callFields.flatMap (·.canon fields) = hashToFields call.2.hash ++
        [("params", .array (nodesToJson call.2.params)), ("path", pathToJson call.1)] := by
  rw [readCallFields]
  refine Decides.of_eq ((hash_decides hfields).bind fun hash hhash =>
    (params_decides hfields).bind fun params hparams => path_decides.bind fun path hpath =>
    (required_decides hpath).bind fun callee hcallee => .ok ?_) ?_
  · simp [callFields, hhash, hparams, hcallee]
  · simp [callFields, FieldShape.holds]

theorem program_fields_decide :
    Decides (readProgramFields fields) (Record.program.fieldShapes.all (·.holds fields))
      fun program => Record.program.fieldShapes.flatMap (·.canon fields) = program.toFields := by
  rw [readProgramFields]
  refine Decides.of_eq (blockParams_decides.bind fun names hnames =>
    (body_decides hfields).bind fun body hbody => .ok ?_) ?_
  · simp [Record.fieldShapes, hnames, hbody, Program.toFields]
  · simp [Record.fieldShapes, FieldShape.holds]

theorem partial_fields_decide :
    Decides (readPartialFields fields) (partialFields.all (·.holds fields)) fun tag =>
      partialFields.flatMap (·.canon fields) = hashToFields tag.2.hash ++
        [("name", tag.1.toJson), ("params", .array (nodesToJson tag.2.params))] := by
  rw [readPartialFields]
  refine Decides.of_eq ((hash_decides hfields).bind fun hash hhash =>
    (partialName_decides hfields).bind fun name hname => (params_decides hfields).bind
    fun params hparams => (required_decides hname).bind fun named hnamed => .ok ?_) ?_
  · simp [partialFields, hhash, hparams, hnamed]
  · simp [partialFields, FieldShape.holds, Bool.and_assoc, Bool.and_comm, Bool.and_left_comm]

theorem block_fields_decide :
    Decides (readBlockFields fields) (blockFields.all (·.holds fields)) fun block =>
      blockFields.flatMap (·.canon fields) =
        hashToFields block.args.hash ++ (inverseToFields block.inverse ++
          [("params", .array (nodesToJson block.args.params)), ("path", pathToJson block.path),
            ("program", .object block.main.toFields)]) := by
  rw [readBlockFields]
  refine Decides.of_eq ((hash_decides hfields).bind fun hash hhash =>
    (inverse_decides hfields).bind fun inverse hinverse => (params_decides hfields).bind
    fun params hparams => path_decides.bind fun path hpath => (program_decides hfields).bind
    fun main hmain => (required_decides hpath).bind fun callee hcallee => .ok ?_) ?_
  · simp [blockFields, hhash, hinverse, hparams, hmain, hcallee]
  · simp [blockFields, FieldShape.holds, Bool.and_assoc, Bool.and_comm, Bool.and_left_comm]

/-! ### Objects -/

theorem pair_decides :
    ReadsShape (.record .pair) readPair pairToJson (.object fields) := by
  rw [ReadsShape, readPair, Json.conforms_object rfl, Json.canon_object rfl]
  refine Decides.of_eq ((readField?_required fun value _ => readsShape_string value).bind
    fun key hkey => (readField?_required fun value h => (hfields _ value h).node).bind
    fun value hvalue => (required_decides hkey).bind fun name hname =>
    (required_decides hvalue).bind fun node hnode => .ok ?_) ?_
  · simp [Record.fieldShapes, hname, hnode, pairToJson]
  · simp [Record.fieldShapes, FieldShape.holds, Bool.and_assoc, Bool.and_comm, Bool.and_left_comm]

theorem hash_object_decides :
    ReadsOptional (.record .hash) readHash hashToJson (.object fields) := by
  rw [ReadsOptional, readHash, Json.conforms_object rfl, Json.canon_object rfl]
  refine Decides.of_eq ((pairs_decides hfields).bind fun pairs hpairs => .ok ?_) ?_
  · simp [Json.isNull, hashToJson, Record.fieldShapes, hpairs]
  · simp [Record.fieldShapes, FieldShape.holds, Json.isNull]

section Kinds

-- The fields of a kind are looked up in the table by its name.
attribute [local simp] Kind.fieldShapes nodeTable Kind.name List.lookup_cons

/-- A node of a known kind. -/
theorem node_decides {kind : Kind} (htype : fields.lookup "type" = some (.string kind.name)) :
    Decides (readNode (.object fields)) (kind.fieldShapes.all (·.holds fields)) fun node =>
      node.toJson = .object (kind.fieldShapes.flatMap (·.canon fields)) := by
  have htyped := type_typed htype
  have hholds := type_holds htype
  have hcanon := type_canon_kind htype
  rw [readNode, readTag_of_lookup kind htype]
  cases kind with
  | program =>
    rw [show Kind.program.fieldShapes = Record.program.fieldShapes ++ [.type] from rfl]
    refine Decides.of_eq ((program_fields_decide hfields).bind fun program hprogram => .ok ?_) ?_
    · simp [Node.toJson, hcanon, hprogram]
    · simp [hholds]
  | block =>
    rw [show Kind.block.fieldShapes = blockFields ++ [.type] from rfl]
    refine Decides.of_eq ((block_fields_decide hfields).bind fun block hblock => .ok ?_) ?_
    · obtain ⟨callee, ⟨params, hash⟩, main, inverse⟩ := block
      simp [Node.toJson, hcanon, hblock]
    · simp [hholds]
  | mustache =>
    rw [show Kind.mustache.fieldShapes = ⟨"escaped", .boolean, .required⟩ :: callFields ++ [.type]
      from rfl]
    refine Decides.of_eq ((readField?_required fun value _ => readsShape_boolean value).bind
      fun found hfound => (call_decides hfields).bind fun call hcall =>
      (required_decides hfound).bind fun escaped hescaped => .ok ?_) ?_
    · obtain ⟨callee, params, hash⟩ := call
      simp [Node.toJson, hcanon, hcall, hescaped]
    · simp [htyped, FieldShape.holds, Bool.and_assoc, Bool.and_comm, Bool.and_left_comm]
  | sub =>
    rw [show Kind.sub.fieldShapes = callFields ++ [.type] from rfl]
    refine Decides.of_eq ((call_decides hfields).bind fun call hcall => .ok ?_) ?_
    · obtain ⟨callee, params, hash⟩ := call
      simp [Node.toJson, hcanon, hcall]
    · simp [hholds]
  | partialTag =>
    rw [show Kind.partialTag.fieldShapes = partialFields ++ [.type] from rfl]
    refine Decides.of_eq ((partial_fields_decide hfields).bind fun tag htag => .ok ?_) ?_
    · obtain ⟨name, params, hash⟩ := tag
      simp [Node.toJson, hcanon, htag]
    · simp [hholds]
  | partialBlock =>
    refine Decides.of_eq ((hash_decides hfields).bind fun hash hhash =>
      (partialName_decides hfields).bind fun name hname => (params_decides hfields).bind
      fun params hparams => (program_decides hfields).bind fun fallback hfallback =>
      (required_decides hname).bind fun named hnamed => .ok ?_) ?_
    · simp [Node.toJson, hcanon, hhash, hparams, hfallback, hnamed]
    · simp [htyped, FieldShape.holds, Bool.and_assoc, Bool.and_comm,
        Bool.and_left_comm]
  | content | path =>
    refine Decides.of_eq ((stringField_decides fields "original").bind fun text htext => .ok ?_) ?_
    · simp [FieldShape.original, Node.toJson, hcanon, htext]
    · simp [FieldShape.original, hholds]
  | comment | string =>
    refine Decides.of_eq ((stringField_decides fields "value").bind fun text htext => .ok ?_) ?_
    · simp [Node.toJson, hcanon, htext]
    · simp [hholds]
  | number =>
    refine Decides.of_eq ((readField?_required fun value h => (hfields _ value h).number).bind
      fun found hfound => (required_decides hfound).bind fun value hvalue => .ok ?_) ?_
    · simp [Node.toJson, hcanon, hvalue]
    · simp [htyped, FieldShape.holds]
  | boolean =>
    refine Decides.of_eq ((readField?_required fun value _ => readsShape_boolean value).bind
      fun found hfound => (required_decides hfound).bind fun value hvalue => .ok ?_) ?_
    · simp [Node.toJson, hcanon, hvalue]
    · simp [htyped, FieldShape.holds]
  | undefined | null =>
    refine Decides.of_eq (.ok ?_) ?_
    · simp [Node.toJson, hcanon]
    · simp [hholds]

omit hfields in
theorem partialName_path_decides
    (htype : fields.lookup "type" = some (.string Kind.path.name)) :
    Decides (readPartialName (.object fields)) (Kind.path.fieldShapes.all (·.holds fields))
      fun name => name.toJson = .object (Kind.path.fieldShapes.flatMap (·.canon fields)) := by
  rw [readPartialName, readTag_of_lookup .path htype]
  refine Decides.of_eq ((stringField_decides fields "original").bind fun text htext => .ok ?_) ?_
  · simp [FieldShape.original, PartialName.toJson, type_canon_kind htype, htext]
  · simp [FieldShape.original, type_holds htype]

theorem partialName_sub_decides (htype : fields.lookup "type" = some (.string Kind.sub.name)) :
    Decides (readPartialName (.object fields)) (Kind.sub.fieldShapes.all (·.holds fields))
      fun name => name.toJson = .object (Kind.sub.fieldShapes.flatMap (·.canon fields)) := by
  rw [readPartialName, readTag_of_lookup .sub htype,
    show Kind.sub.fieldShapes = callFields ++ [.type] from rfl]
  refine Decides.of_eq ((call_decides hfields).bind fun call hcall => .ok ?_) ?_
  · obtain ⟨callee, params, hash⟩ := call
    simp [PartialName.toJson, type_canon_kind htype, hcall]
  · simp [type_holds htype]

end Kinds

theorem node_object_decides : ReadsShape .node readNode Node.toJson (.object fields) := by
  rw [ReadsShape]
  cases htag : tag? fields with
  | none =>
    obtain ⟨error, herror⟩ := readTag_of_untagged htag
    rw [readNode, herror, Json.conforms_unknown (Shape.fieldShapes?_untagged htag).1]
    rfl
  | some tag =>
    have htype : fields.lookup "type" = some (.string tag) := tag?_eq_some_iff.1 htag
    cases hkind : Kind.ofName? tag with
    | some kind =>
      have hknown : Shape.node.fieldShapes? fields = some kind.fieldShapes := by
        rw [Shape.fieldShapes?_node htag, hkind, Option.elim_some]
      obtain rfl := Kind.ofName?_eq_some_iff.1 hkind
      rw [Json.conforms_object hknown, Json.canon_object hknown]
      exact node_decides hfields htype
    | none =>
      have hknown : Shape.node.fieldShapes? fields = some [.type] := by
        rw [Shape.fieldShapes?_node htag, hkind, Option.elim_none]
      have hread : readNode (.object fields) = .ok .unknown := by
        simp [readNode, readTag, htype, hkind, bind, Except.bind, pure, Except.pure]
      rw [hread, Json.conforms_object hknown, Json.canon_object hknown]
      refine Decides.of_eq (.ok ?_) ?_
      · simp [Node.toJson, type_canon htype, hkind]
      · simp [type_holds htype]

/-- The name of a partial is read as the node of its kind, of which there are two. -/
theorem partialName_object_decides :
    ReadsShape .partialName readPartialName PartialName.toJson (.object fields) := by
  rw [ReadsShape]
  cases htag : tag? fields with
  | none =>
    obtain ⟨error, herror⟩ := readTag_of_untagged htag
    rw [readPartialName, herror, Json.conforms_unknown (Shape.fieldShapes?_untagged htag).2]
    rfl
  | some tag =>
    have htype : fields.lookup "type" = some (.string tag) := tag?_eq_some_iff.1 htag
    have hknown := Shape.fieldShapes?_partialName htag
    by_cases hpath : tag = Kind.path.name
    · rw [if_pos hpath] at hknown
      rw [Json.conforms_object hknown, Json.canon_object hknown]
      exact partialName_path_decides (hpath ▸ htype)
    rw [if_neg hpath] at hknown
    by_cases hsub : tag = Kind.sub.name
    · rw [if_pos hsub] at hknown
      rw [Json.conforms_object hknown, Json.canon_object hknown]
      exact partialName_sub_decides hfields (hsub ▸ htype)
    · rw [if_neg hsub] at hknown
      have hread : readTag fields = .ok tag := by rw [readTag, htype]
      rw [Json.conforms_unknown hknown, readPartialName, hread, ok_bind]
      split
      · exact absurd (Kind.ofName?_eq_some_iff.mp ‹_›).symm hpath
      · exact absurd (Kind.ofName?_eq_some_iff.mp ‹_›).symm hsub
      · rfl

theorem program_object_decides : ReadsShape (.record .program) readProgram
    (fun program => .object program.toFields) (.object fields) := by
  rw [ReadsShape, readProgram, Json.conforms_object rfl, Json.canon_object rfl]
  exact (program_fields_decide hfields).imp fun program hprogram => by rw [hprogram]

theorem inverse_object_decides : ReadsOptional (.record .program) readInverse
    (fun program => .object program.toFields) (.object fields) := by
  rw [ReadsOptional, readInverse, Json.conforms_object rfl, Json.canon_object rfl]
  refine Decides.of_eq ((program_fields_decide hfields).bind fun program hprogram => .ok ?_) ?_
  · simp [Json.isNull, hprogram]
  · simp [Json.isNull]

theorem Json.agrees_object : (Json.object fields).Agrees where
  number := by simp [ReadsShape, Decides, Json.readNumber, Json.conforms, Shape.fieldShapes?]
  node := node_object_decides hfields
  nodes := by simp [ReadsShape, Decides, readNodes, Json.conforms, Shape.fieldShapes?]
  partialName := partialName_object_decides hfields
  program := program_object_decides hfields
  inverse := inverse_object_decides hfields
  hash := hash_object_decides hfields
  pair := pair_decides hfields
  pairs := by simp [ReadsShape, Decides, readPairs, Json.conforms, Shape.fieldShapes?]

end Objects

/-! ### All values -/

theorem nodesToJson_eq_map (nodes : List Node) : nodesToJson nodes = nodes.map Node.toJson := by
  induction nodes with
  | nil => rfl
  | cons node rest ih => rw [nodesToJson, ih, List.map_cons]

theorem pairsToJson_eq_map (pairs : List Pair) : pairsToJson pairs = pairs.map pairToJson := by
  induction pairs with
  | nil => rfl
  | cons pair rest ih =>
    obtain ⟨key, value⟩ := pair
    rw [pairsToJson, ih, List.map_cons, pairToJson]

theorem Json.agrees_array {items : List Json} (hitems : ∀ item ∈ items, item.Agrees) :
    (Json.array items).Agrees where
  number := by simp [ReadsShape, Decides, Json.readNumber, Json.conforms]
  node := by simp [ReadsShape, Decides, readNode, Json.conforms]
  nodes := by
    rw [ReadsShape, readNodes, Json.conforms_list, Json.canon_list]
    refine (decides_items readNodeItems (by rw [readNodeItems])
      (fun item rest => by rw [readNodeItems]) fun item h => (hitems item h).node).imp
      fun nodes hnodes => ?_
    rw [nodesToJson_eq_map, hnodes]
  partialName := by simp [ReadsShape, Decides, readPartialName, Json.conforms]
  program := by simp [ReadsShape, Decides, readProgram, Json.conforms]
  inverse := by simp [ReadsOptional, Decides, readInverse, Json.conforms, Json.isNull]
  hash := by simp [ReadsOptional, Decides, readHash, Json.conforms, Json.isNull]
  pair := by simp [ReadsShape, Decides, readPair, Json.conforms]
  pairs := by
    rw [ReadsShape, readPairs, Json.conforms_list, Json.canon_list]
    refine (decides_items readPairItems (by rw [readPairItems])
      (fun item rest => by rw [readPairItems]) fun item h => (hitems item h).pair).imp
      fun pairs hpairs => ?_
    rw [pairsToJson_eq_map, hpairs]

/-- A value that has no values in it. -/
theorem Json.agrees_atom {value : Json} (hitems : ∀ items, value ≠ .array items)
    (hfields : ∀ fields, value ≠ .object fields)
    (hfinite : ∀ number, value = .number number → number.isInRange) : value.Agrees where
  number := readsShape_number hfinite
  node := by cases value <;> simp_all [ReadsShape, Decides, readNode, Json.conforms]
  nodes := by cases value <;> simp_all [ReadsShape, Decides, readNodes, Json.conforms]
  partialName := by cases value <;> simp_all [ReadsShape, Decides, readPartialName, Json.conforms]
  program := by cases value <;> simp_all [ReadsShape, Decides, readProgram, Json.conforms]
  inverse := by
    cases value <;> simp_all [ReadsOptional, Decides, readInverse, Json.conforms, Json.isNull]
  hash := by
    cases value <;> simp_all [ReadsOptional, Decides, readHash, Json.conforms, Json.isNull]
  pair := by cases value <;> simp_all [ReadsShape, Decides, readPair, Json.conforms]
  pairs := by cases value <;> simp_all [ReadsShape, Decides, readPairs, Json.conforms]

mutual

/-- The numbers in a value. -/
def Json.numbers : Json → List JsonNumber
  | .number number => [number]
  | .array items => itemNumbers items
  | .object fields => fieldNumbers fields
  | _ => []

def itemNumbers : List Json → List JsonNumber
  | [] => []
  | item :: rest => item.numbers ++ itemNumbers rest

def fieldNumbers : Json.Fields → List JsonNumber
  | [] => []
  | (_, value) :: rest => value.numbers ++ fieldNumbers rest

end

theorem mem_itemNumbers {items : List Json} {item : Json} {number : JsonNumber}
    (hitem : item ∈ items) (hnumber : number ∈ item.numbers) : number ∈ itemNumbers items := by
  induction items with
  | nil => simp at hitem
  | cons first rest ih =>
    rw [itemNumbers, List.mem_append]
    obtain rfl | hrest := List.mem_cons.1 hitem
    · exact .inl hnumber
    · exact .inr (ih hrest)

theorem mem_fieldNumbers {fields : Json.Fields} {name : String} {value : Json} {number : JsonNumber}
    (hfound : fields.lookup name = some value) (hnumber : number ∈ value.numbers) :
    number ∈ fieldNumbers fields := by
  induction fields with
  | nil => simp at hfound
  | cons field rest ih =>
    obtain ⟨key, first⟩ := field
    rw [fieldNumbers, List.mem_append]
    rw [List.lookup_cons] at hfound
    split at hfound
    · obtain rfl := Option.some.inj hfound
      exact .inl hnumber
    · exact .inr (ih hfound)

/-- All readers agree with the schema at every value whose numbers are finite, by recursion into
the items and the fields that are looked at. -/
theorem Json.agrees (value : Json)
    (hfinite : ∀ number ∈ value.numbers, number.isInRange) : value.Agrees :=
  match value with
  | .array items => Json.agrees_array fun item hitem =>
    Json.agrees item fun number h => hfinite number (mem_itemNumbers hitem h)
  | .object fields => Json.agrees_object fun _ inner hfound =>
    Json.agrees inner fun number h => hfinite number (mem_fieldNumbers hfound h)
  | .null | .bool _ | .string _ => Json.agrees_atom (by simp) (by simp) (by simp)
  | .number _ =>
    Json.agrees_atom (by simp) (by simp) fun number h => hfinite number (by simp_all [Json.numbers])
termination_by sizeOf value
decreasing_by
  · exact Json.sizeOf_lt_of_mem hitem
  · exact Json.sizeOf_lt_of_lt_fields (Json.sizeOf_lt_of_lookup hfound)

/-- The values on which the reader is compared with the schema: plain ones, with all numbers in the
range of double precision. -/
structure Json.InScope (value : Json) : Prop where
  plain : value.isPlain .node
  inRange : ∀ number ∈ value.numbers, number.isInRange

/-- **The reader and the schema.** A plain value whose numbers are in range is read as a node exactly
when it conforms to the schema, and the node is then written as the canonical form of the value. -/
theorem readNode_ok_iff_conforms {value : Json} (hvalue : value.InScope) :
    ((∃ node, readNode value = .ok node) ↔ value.conforms .node) ∧
      ∀ node, readNode value = .ok node → node.toJson = value.canon .node :=
  have hnode := (value.agrees hvalue.inRange).node
  ⟨hnode.exists_ok_iff, fun _ hread => hnode.property hread⟩

/-- A call with all that the schema leaves open: fields and a kind that nobody knows, a null for
pairs that are left out, and an integer for a number. -/
def looseCall : Json :=
  .object [("type", .string "MustacheStatement"), ("escaped", .bool true), ("hash", .null),
    ("path", .object [("type", .string "PathExpression"), ("original", .string "sum"),
      ("depth", .number (.int 0))]),
    ("params", .array [
      .object [("type", .string "NumberLiteral"), ("value", .number (.int 3))],
      .object [("type", .string "Decorator"), ("value", .array [.null])]])]

/-- The tree that the call is read as. -/
def looseCallTree : Node :=
  .mustache "sum" ⟨[.number ⟨0x4008000000000000⟩, .unknown], none⟩ true

/-- The call as it is written back. -/
def looseCallForm : Json :=
  .object [("escaped", .bool true),
    ("params", .array [
      .object [("type", .string "NumberLiteral"),
        ("value", .number (.float ⟨0x4008000000000000⟩))],
      .object [("type", .string "Unknown")]]),
    ("path", .object [("original", .string "sum")]), ("type", .string "MustacheStatement")]

theorem readNode_looseCall :
    looseCall.InScope ∧ looseCall.conforms .node ∧ readNode looseCall = .ok looseCallTree ∧
      looseCallTree.toJson = looseCallForm := by
  have hscope : looseCall.InScope := ⟨by decide +kernel, by decide +kernel⟩
  have hread : readNode looseCall = .ok looseCallTree := by with_unfolding_all rfl
  have hform : looseCall.canon .node = looseCallForm := by with_unfolding_all rfl
  have hcall := readNode_ok_iff_conforms hscope
  exact ⟨hscope, hcall.1.mp ⟨looseCallTree, hread⟩, hread,
    (hcall.2 looseCallTree hread).trans hform⟩

end TemplatePrinter
