import TemplatePrinter.Proofs.Tree.Nodes
import TemplatePrinter.Wire.Read
import TemplatePrinter.Wire.Write
/-!
# Reading back what was written

The JSON form of a tree reads back as the tree, bit for bit, unless a number in it is infinite or
a NaN. Such a number is written as a null, and the reader stops at that null with the one fault
that can occur in a written tree, wherever in the tree it stands. So every part of a tree reads
back in the same way, `readBack`: as the part itself when all numbers in it are finite, and with
that fault when they are not. Reading a node puts the results of its parts together.
-/

namespace TemplatePrinter

/-! ### The result of reading back -/

/-- The fault of a number without a JSON form. -/
def nullNumber : ReadError :=
  .invalidType .null .number

/-- What reading back gives: the value that was written, if every number in it is finite. -/
def readBack {α : Type} (finite : Bool) (value : α) : Except ReadError α :=
  if finite then .ok value else .error nullNumber

/-- Whether a node is not itself a number that is infinite or a NaN. -/
def Node.hasFiniteValue : Node → Bool
  | .number value => value.isFinite
  | _ => true

/-- Whether all numbers in a tree are finite. -/
def Node.isFinite (node : Node) : Bool :=
  node.nodes.all Node.hasFiniteValue

theorem Node.isFinite_eq (node : Node) :
    node.isFinite = (node.hasFiniteValue && node.children.all Node.isFinite) := by
  rw [Node.isFinite, Node.nodes_eq, List.all_cons, List.all_flatMap]
  rfl

theorem Node.isFinite_iff {node : Node} :
    node.isFinite ↔ ∀ value, Node.number value ∈ node.nodes → value.isFinite := by
  rw [Node.isFinite, List.all_eq_true]
  constructor
  · intro h value hvalue
    exact h _ hvalue
  · intro h inner hinner
    cases inner with
    | number value => exact h value hinner
    | _ => rfl

/-- A tree reads back as itself, or with the fault of a number in it. -/
def Node.Survives (node : Node) : Prop :=
  readNode node.toJson = readBack node.isFinite node

/-! ### Lists -/

theorem readNodeItems_nodesToJson {nodes : List Node} (hnodes : ∀ node ∈ nodes, node.Survives) :
    readNodeItems (nodesToJson nodes) = readBack (nodes.all Node.isFinite) nodes := by
  induction nodes with
  | nil =>
    rw [nodesToJson, readNodeItems]
    rfl
  | cons node rest ih =>
    have hnode : readNode node.toJson = readBack node.isFinite node := hnodes node List.mem_cons_self
    rw [nodesToJson, readNodeItems, hnode, ih fun other h => hnodes other (List.mem_cons_of_mem _ h),
      List.all_cons]
    cases node.isFinite <;> cases rest.all Node.isFinite <;> rfl

theorem readPair_toJson {key : String} {value : Node} (hvalue : value.Survives) :
    readPair (.object [("key", .string key), ("value", value.toJson)]) =
      readBack value.isFinite ⟨key, value⟩ := by
  rw [readPair, readField?_of_lookup Json.readString rfl, readField?_of_lookup readNode rfl, hvalue]
  cases value.isFinite <;> rfl

theorem readPairItems_pairsToJson {pairs : List Pair} (hpairs : ∀ pair ∈ pairs, pair.value.Survives) :
    readPairItems (pairsToJson pairs) = readBack (pairs.all (·.value.isFinite)) pairs := by
  induction pairs with
  | nil =>
    rw [pairsToJson, readPairItems]
    rfl
  | cons pair rest ih =>
    obtain ⟨key, value⟩ := pair
    rw [pairsToJson, readPairItems, readPair_toJson (hpairs _ List.mem_cons_self),
      ih fun other h => hpairs other (List.mem_cons_of_mem _ h), List.all_cons]
    cases value.isFinite <;> cases rest.all (·.value.isFinite) <;> rfl

theorem readStrings_map_string (names : List String) :
    Json.readStrings (names.map .string) = .ok names := by
  induction names with
  | nil => rfl
  | cons name rest ih =>
    rw [List.map_cons, Json.readStrings, ih]
    rfl

/-! ### Arguments -/

theorem Arguments.params_survive {args : Arguments}
    (hargs : ∀ child ∈ args.children, child.Survives) : ∀ param ∈ args.params, param.Survives :=
  fun param hparam => hargs param (List.mem_append_left _ hparam)

theorem Arguments.pairs_survive {args : Arguments}
    (hargs : ∀ child ∈ args.children, child.Survives) : ∀ pair ∈ args.pairs, pair.value.Survives :=
  fun _ hpair => hargs _ (List.mem_append_right _ (List.mem_map_of_mem hpair))

theorem Arguments.all_children (args : Arguments) :
    args.children.all Node.isFinite =
      (args.params.all Node.isFinite && args.pairs.all (·.value.isFinite)) := by
  rw [Arguments.children, List.all_append, List.all_map]
  rfl

/-! ### Fields

Each of these says what a field gives, from the value that the fields hold under its name. -/

section Fields

variable {fields : Json.Fields}

/-- The JSON form of pairs, without the field that they stand in. -/
def hashToJson (pairs : List Pair) : Json :=
  .object [("pairs", .array (pairsToJson pairs))]

theorem readField?_nodes {name : String} {nodes : List Node}
    (hfound : fields.lookup name = some (.array (nodesToJson nodes)))
    (hnodes : ∀ node ∈ nodes, node.Survives) :
    readField? fields name (fun value _ => readNodes value) =
      readBack (nodes.all Node.isFinite) (some nodes) := by
  rw [readField?_of_lookup readNodes hfound, readNodes, readNodeItems_nodesToJson hnodes]
  cases nodes.all Node.isFinite <;> rfl

/-- Pairs that are left out read as none at all, and an empty list of pairs as an empty list. -/
theorem readField?_hash (args : Arguments) (hfound : fields.lookup "hash" = args.hash.map hashToJson)
    (hpairs : ∀ pair ∈ args.pairs, pair.value.Survives) :
    ∃ found, found.join = args.hash ∧ readField? fields "hash" (fun value _ => readHash value) =
      readBack (args.pairs.all (·.value.isFinite)) found := by
  obtain ⟨params, hash⟩ := args
  cases hash with
  | none => exact ⟨none, rfl, readField?_of_absent readHash hfound⟩
  | some pairs =>
    have hitems : readPairItems (pairsToJson pairs) = readBack (pairs.all (·.value.isFinite)) pairs :=
      readPairItems_pairsToJson hpairs
    refine ⟨some (some pairs), rfl, ?_⟩
    rw [readField?_of_lookup readHash hfound, hashToJson, readHash, readField?_of_lookup readPairs rfl,
      readPairs, hitems, Arguments.pairs]
    cases pairs.all (·.value.isFinite) <;> rfl

theorem readStringField_of_lookup (name : String) {text : String}
    (hfound : fields.lookup name = some (.string text)) :
    Json.readStringField fields name = .ok text := by
  rw [Json.readStringField, readField?_of_lookup Json.readString hfound]
  rfl

theorem readField?_path {callee : String} (hfound : fields.lookup "path" = some (pathToJson callee)) :
    readField? fields "path" (fun value _ => value.readPath) = .ok (some callee) := by
  rw [readField?_of_lookup Json.readPath hfound, pathToJson, Json.readPath,
    readStringField_of_lookup "original" rfl]
  rfl

theorem readProgramFields_eq_readBack {program : Program}
    (hnames : fields.lookup "blockParams" =
      program.blockParams.map fun names => .array (names.map .string))
    (hbody : fields.lookup "body" = some (.array (nodesToJson program.body)))
    (hnodes : ∀ node ∈ program.body, node.Survives) :
    readProgramFields fields = readBack (program.body.all Node.isFinite) program := by
  obtain ⟨body, names⟩ := program
  rw [readProgramFields, readField?_nodes hbody hnodes]
  cases names with
  | none =>
    rw [readField?_of_absent Json.readNames hnames]
    cases body.all Node.isFinite <;> rfl
  | some names =>
    rw [readField?_of_lookup Json.readNames hnames, Json.readNames, readStrings_map_string]
    cases body.all Node.isFinite <;> rfl

/-- The path and the arguments of a call, in any object that holds them in their fields. -/
theorem readCallFields_eq_readBack (callee : String) {args : Arguments}
    (hhash : fields.lookup "hash" = args.hash.map hashToJson)
    (hparams : fields.lookup "params" = some (.array (nodesToJson args.params)))
    (hpath : fields.lookup "path" = some (pathToJson callee))
    (hargs : ∀ child ∈ args.children, child.Survives) :
    readCallFields fields = readBack (args.children.all Node.isFinite) (callee, args) := by
  obtain ⟨found, hjoin, hread⟩ := readField?_hash _ hhash (Arguments.pairs_survive hargs)
  rw [readCallFields, hread, readField?_nodes hparams (Arguments.params_survive hargs),
    readField?_path hpath, Arguments.all_children]
  obtain ⟨params, hash⟩ := args
  subst hjoin
  cases params.all Node.isFinite <;> cases List.all _ _ <;> rfl

end Fields

/-! ### Objects

A field of a written object is found under its name, whatever optional fields stand before it. -/

@[simp] theorem lookup_hashToFields (hash : Option (List Pair)) (name : String) :
    (hashToFields hash).lookup name = if name = "hash" then hash.map hashToJson else none := by
  cases hash <;> by_cases hname : name = "hash" <;> simp [hashToFields, hashToJson, hname]

@[simp] theorem lookup_inverseToFields (inverse : Option Program) (name : String) :
    (inverseToFields inverse).lookup name =
      if name = "inverse" then inverse.map fun program => .object program.toFields else none := by
  cases inverse <;> by_cases hname : name = "inverse" <;> simp [inverseToFields, hname]

@[simp] theorem lookup_blockParamsFields (names : Option (List String)) (name : String) :
    (blockParamsFields names).lookup name =
      if name = "blockParams" then names.map fun names => .array (names.map .string) else none := by
  cases names <;> by_cases hname : name = "blockParams" <;> simp [blockParamsFields, hname]

attribute [local simp] List.lookup_append List.lookup_cons Kind.field
attribute [local simp] Node.toJson Program.toFields PartialName.toJson

/-- A program in any object, also in one that goes on after the fields of the program. -/
theorem readProgramFields_toFields {program : Program} {rest : Json.Fields}
    (hrest : rest.lookup "blockParams" = none) (hnodes : ∀ node ∈ program.body, node.Survives) :
    readProgramFields (program.toFields ++ rest) =
      readBack (program.body.all Node.isFinite) program := by
  obtain ⟨body, names⟩ := program
  refine readProgramFields_eq_readBack ?_ ?_ hnodes
  · simp [hrest]
  · simp

theorem readField?_program {fields : Json.Fields} {program : Program}
    (hfound : fields.lookup "program" = some (.object program.toFields))
    (hnodes : ∀ node ∈ program.body, node.Survives) :
    readField? fields "program" (fun value _ => readProgram value) =
      readBack (program.body.all Node.isFinite) (some program) := by
  rw [readField?_of_lookup readProgram hfound, readProgram, ← List.append_nil program.toFields,
    readProgramFields_toFields rfl hnodes]
  cases program.body.all Node.isFinite <;> rfl

theorem readField?_inverse {fields : Json.Fields} {inverse : Option Program}
    (hfound : fields.lookup "inverse" = inverse.map fun program => .object program.toFields)
    (hnodes : ∀ node ∈ inverseBody inverse, node.Survives) :
    ∃ found, found.join = inverse ∧ readField? fields "inverse" (fun value _ => readInverse value) =
      readBack ((inverseBody inverse).all Node.isFinite) found := by
  cases inverse with
  | none => exact ⟨none, rfl, readField?_of_absent readInverse hfound⟩
  | some program =>
    refine ⟨some (some program), rfl, ?_⟩
    have hbody : readProgramFields (program.toFields ++ []) =
        readBack (program.body.all Node.isFinite) program := readProgramFields_toFields rfl hnodes
    rw [readField?_of_lookup readInverse hfound, readInverse, ← List.append_nil program.toFields,
      hbody, inverseBody]
    cases program.body.all Node.isFinite <;> rfl

theorem readBlockFields_eq_readBack {fields : Json.Fields} {block : Block}
    (hhash : fields.lookup "hash" = block.args.hash.map hashToJson)
    (hinverse : fields.lookup "inverse" =
      block.inverse.map fun program => .object program.toFields)
    (hparams : fields.lookup "params" = some (.array (nodesToJson block.args.params)))
    (hpath : fields.lookup "path" = some (pathToJson block.path))
    (hprogram : fields.lookup "program" = some (.object block.main.toFields))
    (hblock : ∀ child ∈ (Node.block block).children, child.Survives) :
    readBlockFields fields =
      readBack ((Node.block block).children.all Node.isFinite) block := by
  have hargs : ∀ child ∈ block.args.children, child.Survives :=
    fun child h => hblock child (List.mem_append_left _ (List.mem_append_left _ h))
  have hmain : ∀ child ∈ block.main.body, child.Survives :=
    fun child h => hblock child (List.mem_append_left _ (List.mem_append_right _ h))
  have hbranch : ∀ child ∈ inverseBody block.inverse, child.Survives :=
    fun child h => hblock child (List.mem_append_right _ h)
  obtain ⟨found, hjoin, hread⟩ := readField?_hash _ hhash (Arguments.pairs_survive hargs)
  obtain ⟨found', hjoin', hread'⟩ := readField?_inverse hinverse hbranch
  rw [readBlockFields, hread, hread', readField?_nodes hparams (Arguments.params_survive hargs),
    readField?_path hpath, readField?_program hprogram hmain, Node.children, List.all_append,
    List.all_append, Arguments.all_children]
  obtain ⟨path, ⟨params, hash⟩, main, inverse⟩ := block
  subst hjoin hjoin'
  cases params.all Node.isFinite <;> cases main.body.all Node.isFinite <;>
    cases (inverseBody found'.join).all Node.isFinite <;> cases List.all _ _ <;> rfl

/-- The fields of a call that stands for an expression, as a node and as the name of a partial. -/
theorem readCallFields_toFields (callee : String) {args : Arguments}
    (hargs : ∀ child ∈ args.children, child.Survives) :
    readCallFields (hashToFields args.hash ++ [("params", .array (nodesToJson args.params)),
        ("path", pathToJson callee), Kind.sub.field]) =
      readBack (args.children.all Node.isFinite) (callee, args) :=
  readCallFields_eq_readBack callee (by simp) (by simp) (by simp) hargs

theorem readTag_of_lookup {fields : Json.Fields} (kind : Kind)
    (htype : fields.lookup "type" = some (.string kind.name)) : readTag fields = .ok kind.name := by
  rw [readTag, htype]

theorem PartialName.readBack_toJson {name : PartialName}
    (hname : ∀ child ∈ name.children, child.Survives) :
    readPartialName name.toJson = readBack (name.children.all Node.isFinite) name := by
  cases name with
  | path text =>
    rw [PartialName.toJson, readPartialName, readTag_of_lookup .path rfl,
      readStringField_of_lookup "original" rfl]
    rfl
  | sub callee args =>
    have hcall := readCallFields_toFields callee hname
    obtain ⟨params, hash⟩ := args
    rw [PartialName.toJson, readPartialName, readTag_of_lookup .sub (by simp), hcall,
      PartialName.children]
    cases List.all _ Node.isFinite <;> rfl

theorem Node.survives_sub {callee : String} {args : Arguments}
    (hargs : ∀ child ∈ args.children, child.Survives) : (Node.sub callee args).Survives := by
  have hcall := readCallFields_toFields callee hargs
  obtain ⟨params, hash⟩ := args
  rw [Node.Survives, Node.toJson, readNode, readTag_of_lookup .sub (by simp), hcall,
    Node.isFinite_eq, Node.children]
  cases List.all _ Node.isFinite <;> rfl

theorem Node.survives_mustache {path : String} {args : Arguments} {escaped : Bool}
    (hargs : ∀ child ∈ args.children, child.Survives) :
    (Node.mustache path args escaped).Survives := by
  obtain ⟨params, hash⟩ := args
  rw [Node.Survives, Node.toJson, readNode, readTag_of_lookup .mustache (by simp),
    readField?_of_lookup Json.readBool rfl,
    readCallFields_eq_readBack path (by simp) (by simp) (by simp) hargs, Node.isFinite_eq, Node.children]
  cases List.all _ Node.isFinite <;> rfl

theorem Node.survives_block {block : Block}
    (hblock : ∀ child ∈ (Node.block block).children, child.Survives) :
    (Node.block block).Survives := by
  obtain ⟨path, ⟨params, hash⟩, main, inverse⟩ := block
  rw [Node.Survives, Node.toJson, readNode, readTag_of_lookup .block (by simp),
    readBlockFields_eq_readBack (by simp) (by simp) (by simp) (by simp) (by simp) hblock,
    Node.isFinite_eq]
  cases List.all _ Node.isFinite <;> rfl

theorem readField?_name {fields : Json.Fields} {name : PartialName}
    (hfound : fields.lookup "name" = some name.toJson)
    (hname : ∀ child ∈ name.children, child.Survives) :
    readField? fields "name" (fun value _ => readPartialName value) =
      readBack (name.children.all Node.isFinite) (some name) := by
  rw [readField?_of_lookup readPartialName hfound, PartialName.readBack_toJson hname]
  cases name.children.all Node.isFinite <;> rfl

theorem Node.survives_partialTag {name : PartialName} {args : Arguments}
    (hname : ∀ child ∈ name.children, child.Survives)
    (hargs : ∀ child ∈ args.children, child.Survives) : (Node.partialTag name args).Survives := by
  obtain ⟨params, hash⟩ := args
  have hhash : List.lookup "hash" (hashToFields hash ++ [("name", name.toJson),
      ("params", .array (nodesToJson params)), Kind.partialTag.field]) = hash.map hashToJson := by
    simp
  obtain ⟨found, rfl, hread⟩ := readField?_hash ⟨params, hash⟩ hhash (Arguments.pairs_survive hargs)
  rw [Node.Survives, Node.toJson, readNode, readTag_of_lookup .partialTag (by simp),
    readPartialFields, hread, readField?_name (by simp) hname,
    readField?_nodes (by simp) (Arguments.params_survive hargs), Node.isFinite_eq, Node.children,
    List.all_append, Arguments.all_children]
  cases params.all Node.isFinite <;> cases name.children.all Node.isFinite <;>
    cases List.all _ _ <;> rfl

theorem Node.survives_partialBlock {name : PartialName} {args : Arguments} {fallback : Program}
    (hname : ∀ child ∈ name.children, child.Survives)
    (hargs : ∀ child ∈ args.children, child.Survives)
    (hfallback : ∀ child ∈ fallback.body, child.Survives) :
    (Node.partialBlock name args fallback).Survives := by
  obtain ⟨params, hash⟩ := args
  have hhash : List.lookup "hash" (hashToFields hash ++ [("name", name.toJson),
      ("params", .array (nodesToJson params)), ("program", .object fallback.toFields),
      Kind.partialBlock.field]) = hash.map hashToJson := by
    simp
  obtain ⟨found, rfl, hread⟩ := readField?_hash ⟨params, hash⟩ hhash (Arguments.pairs_survive hargs)
  rw [Node.Survives, Node.toJson, readNode, readTag_of_lookup .partialBlock (by simp), hread,
    readField?_name (by simp) hname, readField?_nodes (by simp) (Arguments.params_survive hargs),
    readField?_program (by simp) hfallback, Node.isFinite_eq, Node.children, List.all_append,
    List.all_append, Arguments.all_children]
  cases params.all Node.isFinite <;> cases name.children.all Node.isFinite <;>
    cases fallback.body.all Node.isFinite <;> cases List.all _ _ <;> rfl

/-- Every tree reads back as itself or with the fault of a number in it, by induction on the tree. -/
theorem Node.survives (node : Node) : node.Survives := by
  induction node using Node.childInduction with
  | step node ih =>
    cases node with
    | program program =>
      rw [Node.Survives, Node.toJson, readNode, readTag_of_lookup .program,
        readProgramFields_toFields rfl ih, Node.isFinite_eq, Node.children]
      · cases program.body.all Node.isFinite <;> rfl
      · obtain ⟨body, names⟩ := program
        simp [Program.toFields]
    | block block => exact Node.survives_block ih
    | mustache path args escaped => exact Node.survives_mustache ih
    | sub callee args => exact Node.survives_sub ih
    | partialTag name args =>
      exact Node.survives_partialTag (fun child h => ih child (List.mem_append_left _ h))
        fun child h => ih child (List.mem_append_right _ h)
    | partialBlock name args fallback =>
      exact Node.survives_partialBlock
        (fun child h => ih child (List.mem_append_left _ (List.mem_append_left _ h)))
        (fun child h => ih child (List.mem_append_left _ (List.mem_append_right _ h)))
        fun child h => ih child (List.mem_append_right _ h)
    | content text | path text =>
      rw [Node.Survives, Node.isFinite_eq, Node.toJson, readNode, readTag_of_lookup _ rfl,
        readStringField_of_lookup "original" rfl]
      rfl
    | comment text | string text =>
      rw [Node.Survives, Node.isFinite_eq, Node.toJson, readNode, readTag_of_lookup _ rfl,
        readStringField_of_lookup "value" rfl]
      rfl
    | number value =>
      rw [Node.Survives, Node.isFinite_eq, Node.toJson, readNode, readTag_of_lookup .number rfl,
        readField?_of_lookup Json.readNumber rfl, Binary64.toJson, Node.hasFiniteValue]
      cases value.isFinite <;> rfl
    | boolean value =>
      rw [Node.Survives, Node.isFinite_eq, Node.toJson, readNode, readTag_of_lookup .boolean rfl,
        readField?_of_lookup Json.readBool (show List.lookup "value" _ = _ from rfl)]
      rfl
    | undefined | null | unknown =>
      rw [Node.Survives, Node.isFinite_eq, Node.toJson, readNode]
      rfl

/-- **Reading back what was written.** A tree reads back as itself exactly when every number in it is
finite, and with one and the same message exactly when some number is not. -/
theorem readNode_toJson_eq_ok_iff (node : Node) :
    (readNode node.toJson = .ok node ↔ ∀ value, Node.number value ∈ node.nodes → value.isFinite) ∧
      ((∃ error, readNode node.toJson = .error error ∧
          error.message = "invalid type: null, expected f64") ↔
        ∃ value, Node.number value ∈ node.nodes ∧ value.isFinite = false) := by
  rw [node.survives, ← Node.isFinite_iff]
  have hexists : (∃ value, Node.number value ∈ node.nodes ∧ value.isFinite = false) ↔
      ¬ node.isFinite := by
    simp [Node.isFinite_iff]
  rw [hexists]
  cases node.isFinite with
  | true => simp [readBack]
  | false =>
    refine ⟨by simp [readBack], ?_⟩
    simp only [Bool.false_eq_true, not_false_eq_true, iff_true]
    exact ⟨nullNumber, rfl, by decide +kernel⟩

end TemplatePrinter
