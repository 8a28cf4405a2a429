import TemplatePrinter.Proofs.Bracketing.Plain
import TemplatePrinter.Proofs.Tree.Nodes
/-!
# Trees without stray braces

The trees whose text shows braces only where the printer puts them. No text in such a tree holds a
brace, only expressions stand as arguments, and the path of a mustache or a block is a plain name
that no tag can take for something else. What a tidy tree writes between the braces of a tag is free
of braces: arguments, the name of a partial, and the names that a block binds.
-/

namespace TemplatePrinter

/-! ### Tidy trees -/

def notBrace (c : Char) : Bool :=
  c != '\x7b' && c != '\x7d'

/-- A text without braces. -/
def braceFree (text : String) : Bool :=
  text.toList.all notBrace

def isPlainPath (path : String) : Bool :=
  path != "" && path.toList.all plainChar

/-- A path, a call or a literal. -/
def Node.isArgument : Node → Bool
  | .path _ | .sub .. | .string _ | .number _ | .boolean _ | .undefined | .null => true
  | _ => false

def Program.hasTidyNames (program : Program) : Bool :=
  (program.blockParams.getD []).all braceFree

def Arguments.isTidy (args : Arguments) : Bool :=
  args.children.all Node.isArgument && args.pairs.all fun pair => braceFree pair.key

def PartialName.isTidy : PartialName → Bool
  | .path text => braceFree text
  | .sub callee args => braceFree callee && args.isTidy

/-- Whether the node itself is tidy. A tree is tidy when all its nodes are. -/
def Node.isTidy : Node → Bool
  | .program p => p.hasTidyNames
  | .block b =>
    isPlainPath b.path && b.args.isTidy && b.main.hasTidyNames
      && b.inverse.all Program.hasTidyNames
  | .mustache callee args _ => isPlainPath callee && callee != "else" && args.isTidy
  | .sub callee args => braceFree callee && args.isTidy
  | .partialTag name args => name.isTidy && args.isTidy
  | .partialBlock name args fallback => name.isTidy && args.isTidy && fallback.hasTidyNames
  | .content text | .comment text | .path text | .string text => braceFree text
  | .number _ | .boolean _ | .undefined | .null | .unknown => true

/-! ### Texts without braces -/

@[simp] theorem braceFree_append (a b : String) :
    braceFree (a ++ b) = (braceFree a && braceFree b) := by
  simp [braceFree]

theorem braceFree_passesOn : PassesOn fun text => braceFree text where
  empty := rfl
  space := by decide
  append ha hb := by rw [braceFree_append, ha, hb]; rfl

theorem braceFree_quoteSingle {text : String} (htext : braceFree text) :
    braceFree (Text.quoteSingle text) := by
  rw [Text.quoteSingle, braceFree_append, braceFree_append, htext]
  decide

/-- A character of a class is none that the class leaves out. -/
theorem ne_of_class {inClass : Char → Bool} {c d : Char} (hc : inClass c)
    (hd : inClass d = false) : c ≠ d := by
  rintro rfl
  rw [hd] at hc
  cases hc

theorem notBrace_of_class {inClass : Char → Bool} {c : Char} (hc : inClass c)
    (hopen : inClass '\x7b' = false) (hclose : inClass '\x7d' = false) : notBrace c := by
  rw [notBrace, Bool.and_eq_true, bne_iff_ne, bne_iff_ne]
  exact ⟨ne_of_class hc hopen, ne_of_class hc hclose⟩

theorem plainChar_of_mem {path : String} (hpath : isPlainPath path) {c : Char}
    (hc : c ∈ path.toList) : plainChar c := by
  rw [isPlainPath, Bool.and_eq_true] at hpath
  exact List.all_eq_true.mp hpath.2 c hc

theorem braceFree_of_isPlainPath {path : String} (hpath : isPlainPath path) : braceFree path := by
  refine List.all_eq_true.mpr fun c hc => ?_
  exact notBrace_of_class (plainChar_of_mem hpath hc) (by decide) (by decide)

theorem braceFree_number (value : Binary64) : braceFree value.text :=
  List.all_eq_true.mpr fun _ hc =>
    notBrace_of_class (Binary64.numberChar_of_mem_text hc) (by decide) (by decide)

theorem Node.braceFree_rawValue {node : Node} (hnode : node.isTidy) : braceFree node.rawValue := by
  cases node with
  | string value => exact hnode
  | number value => exact braceFree_number value
  | boolean value => cases value <;> decide
  | null => decide
  | _ => exact (by decide : braceFree "undefined")

theorem braceFree_pairsText {value : Node → String} {pairs : List Pair}
    (hkeys : pairs.all fun pair => braceFree pair.key)
    (hvalues : ∀ pair ∈ pairs, braceFree (value pair.value)) :
    braceFree (pairsText value pairs) := by
  refine braceFree_passesOn.afterSpace (braceFree_passesOn.intercalate fun text htext => ?_)
  obtain ⟨pair, hpair, rfl⟩ := List.mem_map.mp htext
  rw [braceFree_append, braceFree_append, List.all_eq_true.mp hkeys pair hpair, hvalues pair hpair]
  rfl

theorem braceFree_paramsText {caller : Option String} {params : List Node}
    (hparams : ∀ param ∈ params, braceFree (param.text none)) :
    braceFree (paramsText none caller params) := by
  rw [paramsText_untargeted]
  refine braceFree_passesOn.afterSpace (braceFree_passesOn.intercalate fun text htext => ?_)
  obtain ⟨param, hparam, rfl⟩ := List.mem_map.mp htext
  exact hparams param hparam

/-- An argument is written without braces, by induction on the calls in it. -/
theorem Node.braceFree_text {node : Node} (hnodes : ∀ inner ∈ node.nodes, inner.isTidy)
    (hnode : node.isArgument) : braceFree (node.text none) := by
  induction node using Node.childInduction with
  | step node ih =>
    obtain ⟨htidy, hchildren⟩ := Node.forall_mem_nodes.mp hnodes
    cases node with
    | path text => simpa using (show braceFree text from htidy)
    | string value => simpa using braceFree_quoteSingle htidy
    | number value => simpa using braceFree_number value
    | boolean value =>
      rw [Node.text_boolean]
      cases value <;> decide
    | undefined =>
      rw [Node.text_undefined]
      decide
    | null =>
      rw [Node.text_null]
      decide
    | sub callee args =>
      simp only [Node.isTidy, Arguments.isTidy, Bool.and_eq_true] at htidy
      obtain ⟨hcallee, hargs, hkeys⟩ := htidy
      have hparams : braceFree (paramsText none (some callee) args.params) :=
        braceFree_paramsText fun param h => by
          have hparam : param ∈ args.children := List.mem_append_left _ h
          exact ih param hparam (hchildren param hparam) (List.all_eq_true.mp hargs param hparam)
      have hpairs : braceFree
          (pairsText (fun value => Text.quoteSingle value.rawValue) args.pairs) :=
        braceFree_pairsText hkeys fun pair h => by
          have hvalue : pair.value ∈ args.children :=
            List.mem_append_right _ (List.mem_map_of_mem h)
          have htidy : pair.value.isTidy := (Node.forall_mem_nodes.mp (hchildren _ hvalue)).1
          exact braceFree_quoteSingle (Node.braceFree_rawValue htidy)
      rw [Node.text_sub]
      simp only [braceFree_append, hcallee, hparams, hpairs]
      decide
    | _ => cases hnode

theorem Arguments.braceFree_children {args : Arguments} (hargs : args.isTidy)
    (hnodes : ∀ child ∈ args.children, ∀ inner ∈ child.nodes, inner.isTidy) :
    ∀ child ∈ args.children, braceFree (child.text none) := by
  intro child hchild
  rw [Arguments.isTidy, Bool.and_eq_true] at hargs
  exact Node.braceFree_text (hnodes child hchild) (List.all_eq_true.mp hargs.1 child hchild)

theorem Arguments.braceFree_text {args : Arguments} (hargs : args.isTidy)
    (hnodes : ∀ child ∈ args.children, ∀ inner ∈ child.nodes, inner.isTidy) :
    braceFree (args.text none) := by
  have hchildren := Arguments.braceFree_children hargs hnodes
  rw [Arguments.isTidy, Bool.and_eq_true] at hargs
  have hparams : braceFree (paramsText none none args.params) :=
    braceFree_paramsText fun param h => hchildren param (List.mem_append_left _ h)
  have hpairs : braceFree (pairsText (fun value => value.text none) args.pairs) :=
    braceFree_pairsText hargs.2 fun pair h =>
      hchildren _ (List.mem_append_right _ (List.mem_map_of_mem h))
  rw [Arguments.text_eq, braceFree_append, hparams, hpairs]
  rfl

theorem PartialName.braceFree_text {name : PartialName} (hname : name.isTidy)
    (hnodes : ∀ child ∈ name.children, ∀ inner ∈ child.nodes, inner.isTidy) :
    braceFree (name.text none) := by
  cases name with
  | path text => exact hname
  | sub callee args =>
    rw [PartialName.isTidy, Bool.and_eq_true] at hname
    have hchildren := Arguments.braceFree_children hname.2 hnodes
    have hparams : braceFree (paramsText none none args.params) :=
      braceFree_paramsText fun param h => hchildren param (List.mem_append_left _ h)
    rw [PartialName.text_sub]
    simp only [braceFree_append, hname.1, hparams]
    decide

theorem braceFree_blockParams {program : Program} (hprogram : program.hasTidyNames) :
    braceFree (Delimiter.blockParams program) := by
  simp only [Delimiter.blockParams]
  split
  · decide
  · have hnames := braceFree_passesOn.intercalate (List.all_eq_true.mp hprogram)
    rw [braceFree_append, braceFree_append, hnames]
    decide

end TemplatePrinter
