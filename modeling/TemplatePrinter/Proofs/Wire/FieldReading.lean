import TemplatePrinter.Proofs.Wire.Schema
import TemplatePrinter.Wire.Read
import TemplatePrinter.Wire.Write
/-!
# Fields that are read as the schema says

That a reader accepts what the schema admits, and that what it makes of a value is written as the
canonical form of the value, is one statement about each reading function. `Decides` says that a
result is a success exactly when a condition holds, and then has a property. It passes through
sequencing, so a reader of an object is followed field by field: whatever reads the value of a field
as a shape says, reads the field as the table says, whether its absence is a fault, means nothing or
stands for a default.
-/

namespace TemplatePrinter

/-! ### Names and kinds -/

/-- The fields of a node, by its kind. -/
def Kind.fieldShapes (kind : Kind) : List FieldShape :=
  (nodeTable.lookup kind.name).getD []

/-- A name is in the table of nodes exactly when it is the name of a kind. -/
theorem lookup_nodeTable (name : String) :
    nodeTable.lookup name = (Kind.ofName? name).map Kind.fieldShapes := by
  have hnames : ∀ entry ∈ nodeTable, Kind.ofName? entry.1 ≠ none := by decide
  cases hkind : Kind.ofName? name with
  | some kind =>
    obtain rfl := Kind.ofName?_eq_some_iff.mp hkind
    cases kind <;> rfl
  | none =>
    refine List.lookup_eq_none_iff.mpr fun entry hentry => ?_
    rw [bne_iff_ne]
    rintro rfl
    exact hnames entry hentry hkind

/-- The names in the table of partial names are those of two kinds. -/
theorem lookup_partialNameTable (name : String) :
    partialNameTable.lookup name =
      if name = Kind.path.name then some Kind.path.fieldShapes
      else if name = Kind.sub.name then some Kind.sub.fieldShapes
      else none := by
  by_cases hpath : name = Kind.path.name
  · rw [if_pos hpath, hpath]
    rfl
  by_cases hsub : name = Kind.sub.name
  · rw [if_neg hpath, if_pos hsub, hsub]
    rfl
  rw [if_neg hpath, if_neg hsub]
  refine List.lookup_eq_none_iff.mpr ?_
  simpa [partialNameTable, Kind.name] using And.intro hpath hsub

section Objects

variable {fields : Json.Fields} {tag : String}

/-- An object without a kind is neither a node nor the name of a partial. -/
theorem Shape.fieldShapes?_untagged (htag : tag? fields = none) :
    Shape.node.fieldShapes? fields = none ∧ Shape.partialName.fieldShapes? fields = none := by
  simp [Shape.fieldShapes?, htag]

theorem Shape.fieldShapes?_node (htag : tag? fields = some tag) :
    Shape.node.fieldShapes? fields = some ((Kind.ofName? tag).elim [.type] Kind.fieldShapes) := by
  rw [Shape.fieldShapes?, htag, Option.map_some, lookup_nodeTable]
  cases Kind.ofName? tag <;> rfl

theorem Shape.fieldShapes?_partialName (htag : tag? fields = some tag) :
    Shape.partialName.fieldShapes? fields =
      if tag = Kind.path.name then some Kind.path.fieldShapes
      else if tag = Kind.sub.name then some Kind.sub.fieldShapes
      else none := by
  rw [Shape.fieldShapes?, htag, Option.bind_some, lookup_partialNameTable]

end Objects

/-! ### Exact success -/

theorem ok_bind {α β : Type} (value : α) (next : α → Except ReadError β) :
    (Except.ok value >>= next) = next value := rfl

/-- The result is a success exactly when it is `accepted`, and then it has the property. -/
def Decides {α : Type} (result : Except ReadError α) (accepted : Bool) (P : α → Prop) : Prop :=
  match result with
  | .ok value => accepted = true ∧ P value
  | .error _ => accepted = false

namespace Decides

variable {α β : Type} {result : Except ReadError α} {accepted accepted' : Bool} {P : α → Prop}
  {Q : β → Prop}

theorem ok {value : α} (h : P value) : Decides (.ok value) true P :=
  ⟨rfl, h⟩

theorem bind {next : α → Except ReadError β} (hresult : Decides result accepted P)
    (hnext : ∀ value, P value → Decides (next value) accepted' Q) :
    Decides (result >>= next) (accepted && accepted') Q := by
  cases result with
  | error error =>
    rw [show accepted = false from hresult]
    rfl
  | ok value =>
    obtain ⟨rfl, hvalue⟩ := hresult
    exact hnext value hvalue

theorem map {f : α → β} (hresult : Decides result accepted P)
    (hf : ∀ value, P value → Q (f value)) : Decides (result.map f) accepted Q := by
  cases result with
  | error error => exact hresult
  | ok value => exact ⟨hresult.1, hf value hresult.2⟩

theorem imp {P' : α → Prop} (hresult : Decides result accepted P)
    (hP : ∀ value, P value → P' value) : Decides result accepted P' := by
  cases result with
  | error error => exact hresult
  | ok value => exact ⟨hresult.1, hP value hresult.2⟩

theorem of_eq (hresult : Decides result accepted P) (h : accepted = accepted') :
    Decides result accepted' P :=
  h ▸ hresult

theorem exists_ok_iff (hresult : Decides result accepted P) :
    (∃ value, result = .ok value) ↔ accepted := by
  cases result with
  | error error => simp [show accepted = false from hresult]
  | ok value => simp [hresult.1]

theorem property {value : α} (hresult : Decides result accepted P) (hvalue : result = .ok value) :
    P value := by
  subst hvalue
  exact hresult.2

end Decides

/-! ### Values and fields -/

/-- A reader of values of a shape: it accepts those that conform, and its result is written in
canonical form. -/
def ReadsShape {α : Type} (shape : Shape) (read : Json → Except ReadError α) (write : α → Json)
    (value : Json) : Prop :=
  Decides (read value) (value.conforms shape) fun result => write result = value.canon shape

/-- A reader of values of a shape that may also be left out by a null. -/
def ReadsOptional {α : Type} (shape : Shape) (read : Json → Except ReadError (Option α))
    (write : α → Json) (value : Json) : Prop :=
  Decides (read value) (value.isNull || value.conforms shape) fun result =>
    result.map write = if value.isNull then none else some (value.canon shape)

section Fields

variable {α : Type} {fields : Json.Fields} {name : String} {shape : Shape}

theorem readField?_required {read : Json → Except ReadError α} {write : α → Json}
    (hread : ∀ value, fields.lookup name = some value → ReadsShape shape read write value) :
    Decides (readField? fields name fun value _ => read value)
      (FieldShape.isTyped ⟨name, shape, .required⟩ fields) fun found =>
        found.isSome = FieldShape.isThere ⟨name, shape, .required⟩ fields ∧
          ∀ result ∈ found, FieldShape.canon ⟨name, shape, .required⟩ fields =
            [(name, write result)] := by
  cases hfound : fields.lookup name with
  | none =>
    rw [readField?_of_absent read hfound, FieldShape.isTyped_of_absent _ hfound]
    exact .ok ⟨by simp [FieldShape.isThere, hfound, Presence.isRequired], by simp⟩
  | some value =>
    rw [readField?_of_lookup read hfound, FieldShape.isTyped_of_lookup _ hfound,
      FieldShape.canon_of_lookup _ hfound]
    refine (hread value hfound).map fun result hresult => ?_
    simp [FieldShape.isThere, hfound, Presence.isOptional, hresult]

theorem readField?_filled {read : Json → Except ReadError α} {write : α → Json} (default : α)
    (hread : ∀ value, fields.lookup name = some value → ReadsShape shape read write value) :
    Decides (readField? fields name fun value _ => read value)
      (FieldShape.holds ⟨name, shape, .filled (write default)⟩ fields) fun found =>
        FieldShape.canon ⟨name, shape, .filled (write default)⟩ fields =
          [(name, write (found.getD default))] := by
  rw [FieldShape.holds_of_not_required _ rfl]
  cases hfound : fields.lookup name with
  | none =>
    rw [readField?_of_absent read hfound, FieldShape.isTyped_of_absent _ hfound,
      FieldShape.canon_of_absent _ hfound]
    exact .ok rfl
  | some value =>
    rw [readField?_of_lookup read hfound, FieldShape.isTyped_of_lookup _ hfound,
      FieldShape.canon_of_lookup _ hfound]
    refine (hread value hfound).map fun result hresult => ?_
    simp [Presence.isOptional, hresult]

/-- The fields that an optional field gives. -/
def optionalField (name : String) (value : Option Json) : Json.Fields :=
  value.toList.map fun value => (name, value)

theorem readField?_optional {read : Json → Except ReadError (Option α)} {write : α → Json}
    (hread : ∀ value, fields.lookup name = some value → ReadsOptional shape read write value) :
    Decides (readField? fields name fun value _ => read value)
      (FieldShape.holds ⟨name, shape, .optional⟩ fields) fun found =>
        FieldShape.canon ⟨name, shape, .optional⟩ fields =
          optionalField name (found.join.map write) := by
  rw [FieldShape.holds_of_not_required _ rfl]
  cases hfound : fields.lookup name with
  | none =>
    rw [readField?_of_absent read hfound, FieldShape.isTyped_of_absent _ hfound,
      FieldShape.canon_of_absent _ hfound]
    exact .ok rfl
  | some value =>
    rw [readField?_of_lookup read hfound, FieldShape.isTyped_of_lookup _ hfound,
      FieldShape.canon_of_lookup _ hfound]
    refine (hread value hfound).map fun result hresult => ?_
    simp only [Option.join_some, hresult, Presence.isOptional, Bool.true_and]
    cases value.isNull <;> rfl

/-- A field that has to be there, once it is known what it gives if it is. -/
theorem required_decides {found : Option α} {there : Bool} {P : α → Prop}
    (hfound : found.isSome = there ∧ ∀ result ∈ found, P result) :
    Decides (required name found) there P := by
  obtain ⟨rfl, hresult⟩ := hfound
  cases found with
  | none => rfl
  | some result => exact .ok (hresult result rfl)

end Fields

/-! ### Values without fields -/

theorem readsShape_string (value : Json) : ReadsShape .string Json.readString .string value := by
  cases value <;>
    simp [ReadsShape, Decides, Json.readString, Json.conforms, Json.canon, Shape.fieldShapes?]

theorem readsShape_boolean (value : Json) : ReadsShape .boolean Json.readBool .bool value := by
  cases value <;>
    simp [ReadsShape, Decides, Json.readBool, Json.conforms, Json.canon, Shape.fieldShapes?]

theorem readsShape_number {value : Json}
    (hfinite : ∀ number, value = .number number → number.isInRange) :
    ReadsShape .number Json.readNumber Binary64.toJson value := by
  cases value with
  | number number =>
    have hnumber := hfinite number rfl
    cases number <;>
      simp_all [ReadsShape, Decides, Json.readNumber, JsonNumber.toBinary64, JsonNumber.isInRange,
        Json.conforms, Json.canon, Binary64.toJson]
  | _ => simp [ReadsShape, Decides, Json.readNumber, Json.conforms, Shape.fieldShapes?]

/-- A reader of lists that reads one item after the other. -/
theorem decides_items {α : Type} {shape : Shape} {read : Json → Except ReadError α}
    {write : α → Json} (readItems : List Json → Except ReadError (List α))
    (hnil : readItems [] = .ok [])
    (hcons : ∀ item rest, readItems (item :: rest) = do
      let first ← read item
      let others ← readItems rest
      return first :: others)
    {items : List Json} (hitems : ∀ item ∈ items, ReadsShape shape read write item) :
    Decides (readItems items) (items.all (Json.conforms shape)) fun results =>
      results.map write = items.map (Json.canon shape) := by
  induction items with
  | nil =>
    rw [hnil]
    exact .ok rfl
  | cons item rest ih =>
    rw [hcons, List.all_cons]
    refine (hitems item List.mem_cons_self).bind fun first hfirst => ?_
    refine Decides.of_eq ((ih fun other h => hitems other (List.mem_cons_of_mem _ h)).bind
      fun others hothers => .ok ?_) (Bool.and_true _)
    rw [List.map_cons, List.map_cons, hfirst, hothers]

theorem stringField_decides (fields : Json.Fields) (name : String) :
    Decides (Json.readStringField fields name) (FieldShape.holds ⟨name, .string, .required⟩ fields)
      fun text => FieldShape.canon ⟨name, .string, .required⟩ fields = [(name, .string text)] :=
  (readField?_required fun value _ => readsShape_string value).bind fun _ hfound =>
    required_decides hfound

theorem readsShape_path (value : Json) :
    ReadsShape (.record .path) Json.readPath pathToJson value := by
  cases value with
  | object fields =>
    rw [ReadsShape, Json.conforms_object rfl, Json.canon_object rfl, Json.readPath]
    refine Decides.of_eq ((stringField_decides fields "original").imp fun text htext => ?_) ?_
    · simp [Record.fieldShapes, FieldShape.original, htext, pathToJson]
    · simp [Record.fieldShapes, FieldShape.original]
  | _ => simp [ReadsShape, Decides, Json.readPath, Json.conforms]

theorem readsOptional_names (value : Json) :
    ReadsOptional (.list .string) Json.readNames (fun names => .array (names.map .string))
      value := by
  cases value with
  | array items =>
    rw [ReadsOptional, Json.readNames, Json.conforms_list, Json.canon_list]
    refine (decides_items Json.readStrings rfl (fun _ _ => rfl) fun item _ =>
      readsShape_string item).map fun names hnames => ?_
    simp [Json.isNull, hnames]
  | _ =>
    simp [ReadsOptional, Decides, Json.readNames, Json.conforms, Json.isNull, Shape.fieldShapes?]

end TemplatePrinter
