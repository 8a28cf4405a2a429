import TemplatePrinter.Proofs.Printer.Text
import TemplatePrinter.Proofs.Tree.Nodes
/-!
# Balanced brackets

Whatever the printer opens it closes: braces around tags, parentheses around calls, square brackets
around paths. The brackets of a text are its characters of these six, and a text is balanced when
they are nested. All texts that the printer puts together from balanced parts are balanced, so a
tree that holds no brackets in its own texts is printed in balance, and a rule cannot disturb that
if its modifiers keep balanced texts balanced.

A clause of an else chain is printed without the two braces that open its block. So of the inside of
a block it is shown that it is balanced once two braces are put in front of it, `ClosesTag`, be they
those of the block or those of an else tag.
-/

namespace TemplatePrinter

/-! ### Nested brackets -/

def bracketChars : List Char :=
  ['(', ')', '\x7b', '\x7d', '[', ']']

def isBracket (c : Char) : Bool :=
  bracketChars.contains c

/-- The bracket that closes what an opening bracket opens. -/
def closing? : Char → Option Char
  | '(' => some ')'
  | '\x7b' => some '\x7d'
  | '[' => some ']'
  | _ => none

/-- Words of brackets in which each opening bracket is closed by one of its own sort, with a nested
word between them. -/
inductive Nested : List Char → Prop
  | empty : Nested []
  | pair {opening closing : Char} {inner rest : List Char}
      (hpair : closing? opening = some closing) (hinner : Nested inner) (hrest : Nested rest) :
      Nested (opening :: (inner ++ closing :: rest))

theorem Nested.append {left right : List Char} (hleft : Nested left) (hright : Nested right) :
    Nested (left ++ right) := by
  induction hleft with
  | empty => exact hright
  | pair hpair hinner _ _ ih =>
    rw [List.cons_append, List.append_assoc, List.cons_append]
    exact .pair hpair hinner ih

/-- A nested word in two pairs of braces. -/
theorem Nested.braces {inner : List Char} (hinner : Nested inner) :
    Nested ('\x7b' :: '\x7b' :: (inner ++ ['\x7d', '\x7d'])) := by
  have hword : '\x7b' :: '\x7b' :: (inner ++ ['\x7d', '\x7d']) =
      '\x7b' :: (('\x7b' :: (inner ++ ['\x7d'])) ++ ['\x7d']) := by simp
  rw [hword]
  exact .pair rfl (.pair rfl hinner .empty) .empty

/-- Reads a word from left to right, with the closing brackets that are still to come, the next one
first. -/
def closesAll : List Char → List Char → Bool
  | expected, [] => expected.isEmpty
  | expected, c :: rest =>
    match closing? c with
    | some closing => closesAll (closing :: expected) rest
    | none => expected.head? == some c && closesAll expected.tail rest

theorem closesAll_opening {opening closing : Char} (hpair : closing? opening = some closing)
    (expected rest : List Char) :
    closesAll expected (opening :: rest) = closesAll (closing :: expected) rest := by
  simp only [closesAll, hpair]

theorem closesAll_other {c : Char} (hc : closing? c = none) (expected rest : List Char) :
    closesAll expected (c :: rest) =
      (expected.head? == some c && closesAll expected.tail rest) := by
  simp only [closesAll, hc]

theorem Nested.closesAll_append {word : List Char} (hword : Nested word)
    (expected rest : List Char) : closesAll expected (word ++ rest) = closesAll expected rest := by
  induction hword generalizing expected rest with
  | empty => rfl
  | @pair opening closing inner after hpair _ _ ihinner ihafter =>
    have hclosing : closing? closing = none := by
      unfold closing? at hpair
      split at hpair <;> cases hpair <;> rfl
    rw [List.cons_append, closesAll_opening hpair, List.append_assoc, ihinner, List.cons_append,
      closesAll_other hclosing, ihafter]
    simp

/-- What is left to read when closing brackets are still to come: nested words before, between and
after them. -/
def Closes : List Char → List Char → Prop
  | [], word => Nested word
  | next :: expected, word =>
    ∃ inner rest, word = inner ++ next :: rest ∧ Nested inner ∧ Closes expected rest

theorem Closes.append {expected word rest : List Char} (hword : Nested word)
    (hrest : Closes expected rest) : Closes expected (word ++ rest) := by
  cases expected with
  | nil => exact hword.append hrest
  | cons next expected =>
    obtain ⟨inner, after, rfl, hinner, hafter⟩ := hrest
    exact ⟨word ++ inner, after, (List.append_assoc ..).symm, hword.append hinner, hafter⟩

theorem closes_of_closesAll {expected word : List Char} (hword : closesAll expected word) :
    Closes expected word := by
  induction word generalizing expected with
  | nil =>
    obtain rfl : expected = [] := List.isEmpty_iff.mp hword
    exact Nested.empty
  | cons c rest ih =>
    cases hc : closing? c with
    | some closing =>
      rw [closesAll_opening hc] at hword
      obtain ⟨inner, after, rfl, hinner, hafter⟩ := ih hword
      have hclosed : Nested (c :: (inner ++ [closing])) := .pair hc hinner .empty
      have happend := Closes.append hclosed hafter
      rwa [List.cons_append, List.append_assoc, List.singleton_append] at happend
    | none =>
      rw [closesAll_other hc, Bool.and_eq_true, beq_iff_eq] at hword
      obtain ⟨others, rfl⟩ := List.head?_eq_some_iff.mp hword.1
      exact ⟨[], rest, rfl, .empty, ih hword.2⟩

theorem nested_iff {word : List Char} : Nested word ↔ closesAll [] word := by
  constructor
  · intro hword
    have hread := hword.closesAll_append [] []
    rwa [List.append_nil] at hread
  · exact closes_of_closesAll

/-! ### Balanced texts -/

/-- The brackets of a text in order. -/
def brackets (text : String) : List Char :=
  text.toList.filter isBracket

def Balanced (text : String) : Prop :=
  Nested (brackets text)

instance (text : String) : Decidable (Balanced text) :=
  decidable_of_iff _ nested_iff.symm

def bracketFree (text : String) : Bool :=
  text.toList.all fun c => !isBracket c

@[simp] theorem brackets_append (a b : String) : brackets (a ++ b) = brackets a ++ brackets b := by
  simp [brackets]

theorem balanced_of_bracketFree {text : String} (htext : bracketFree text) : Balanced text := by
  have hnone : brackets text = [] := by
    refine List.filter_eq_nil_iff.mpr fun c hc => ?_
    simpa using List.all_eq_true.mp htext c hc
  rw [Balanced, hnone]
  exact .empty

theorem Balanced.append {a b : String} (ha : Balanced a) (hb : Balanced b) :
    Balanced (a ++ b) := by
  rw [Balanced, brackets_append]
  exact Nested.append ha hb

/-- Two texts that are one bracket each, around a balanced one. -/
theorem Balanced.between {text opening closing : String} {o c : Char} (htext : Balanced text)
    (hopening : brackets opening = [o]) (hclosing : brackets closing = [c])
    (hpair : closing? o = some c) : Balanced (opening ++ text ++ closing) := by
  rw [Balanced, brackets_append, brackets_append, hopening, hclosing, List.append_assoc]
  exact .pair hpair htext .empty

theorem balanced_passesOn : PassesOn Balanced where
  empty := .empty
  space := by decide
  append := Balanced.append

theorem balanced_quoteSingle {text : String} (htext : Balanced text) :
    Balanced (Text.quoteSingle text) :=
  (Balanced.append (by decide) htext).append (by decide)

theorem balanced_bracketed {path : String} (hpath : Balanced path) :
    Balanced (Text.bracketed path) := by
  unfold Text.bracketed
  split
  · exact hpath.between (o := '[') (c := ']') (by decide) (by decide) rfl
  · exact hpath

theorem balanced_number (value : Binary64) : Balanced value.text := by
  refine balanced_of_bracketFree (List.all_eq_true.mpr fun c hc => ?_)
  have hnumber := Binary64.numberChar_of_mem_text hc
  have hnone : bracketChars.all fun bracket => !numberChar bracket := by decide
  rw [Bool.not_eq_true', ← Bool.not_eq_true, isBracket, List.contains_iff_mem]
  intro hbracket
  simpa [hnumber] using List.all_eq_true.mp hnone c hbracket

/-! ### Tags -/

/-- A text that is balanced once two braces are put in front of it. -/
def ClosesTag (text : String) : Prop :=
  Nested ('\x7b' :: '\x7b' :: brackets text)

theorem ClosesTag.opened {text opening : String} (htext : ClosesTag text)
    (hopening : brackets opening = ['\x7b', '\x7b']) : Balanced (opening ++ text) := by
  rw [Balanced, brackets_append, hopening]
  exact htext

theorem Balanced.closesTag {inside closing : String} (hinside : Balanced inside)
    (hclosing : brackets closing = ['\x7d', '\x7d']) : ClosesTag (inside ++ closing) := by
  rw [ClosesTag, brackets_append, hclosing]
  exact Nested.braces hinside

theorem ClosesTag.append {text rest : String} (htext : ClosesTag text) (hrest : Balanced rest) :
    ClosesTag (text ++ rest) := by
  rw [ClosesTag, brackets_append]
  exact Nested.append htext hrest

/-- A tag with something balanced in it. -/
theorem Balanced.tag {inside opening closing : String} (hinside : Balanced inside)
    (hopening : brackets opening = ['\x7b', '\x7b'])
    (hclosing : brackets closing = ['\x7d', '\x7d']) : Balanced (opening ++ inside ++ closing) := by
  rw [String.append_assoc]
  exact (hinside.closesTag hclosing).opened hopening

/-- A mustache, which is written with a third pair of braces if its value is not escaped. -/
theorem Balanced.mustache {inside : String} (hinside : Balanced inside) (escaped : Bool) :
    Balanced (Delimiter.openMustache escaped ++ inside ++ Delimiter.closeMustache escaped) := by
  have htag : Balanced (Delimiter.openTag ++ inside ++ Delimiter.closeTag) :=
    hinside.tag (by decide) (by decide)
  cases escaped with
  | true => exact htag
  | false =>
    have hopening : Delimiter.openMustache false = "\x7b" ++ Delimiter.openTag := by decide
    have hclosing : Delimiter.closeMustache false = Delimiter.closeTag ++ "\x7d" := by decide
    have houter :
        Balanced ("\x7b" ++ (Delimiter.openTag ++ inside ++ Delimiter.closeTag) ++ "\x7d") :=
      htag.between (o := '\x7b') (c := '\x7d') (by decide) (by decide) rfl
    rw [hopening, hclosing]
    simpa only [String.append_assoc] using houter

/-- A call, whether it is an expression or the name of a partial. -/
theorem Balanced.call {inside : String} (hinside : Balanced inside) :
    Balanced ("(" ++ inside ++ ")") :=
  hinside.between (o := '(') (c := ')') (by decide) (by decide) rfl

/-! ### The texts that a tree holds -/

def Arguments.keys (args : Arguments) : List String :=
  args.pairs.map Pair.key

/-- The names that a program binds. -/
def Program.names (program : Program) : List String :=
  program.blockParams.getD []

def inverseNames : Option Program → List String
  | none => []
  | some program => program.names

def PartialName.payloads : PartialName → List String
  | .path text => [text]
  | .sub callee args => callee :: args.keys

/-- The texts that a node holds itself, those of its children apart. -/
def Node.payloads : Node → List String
  | .program p => p.names
  | .block b => b.path :: (b.args.keys ++ b.main.names ++ inverseNames b.inverse)
  | .mustache callee args _ => callee :: args.keys
  | .sub callee args => callee :: args.keys
  | .partialTag name args => name.payloads ++ args.keys
  | .partialBlock name args fallback => name.payloads ++ args.keys ++ fallback.names
  | .content text | .comment text | .path text | .string text => [text]
  | .number _ | .boolean _ | .undefined | .null | .unknown => []

/-- The modifiers of the rule make balanced texts of balanced texts. -/
def Rule.KeepsBalance (rule : Rule) : Prop :=
  ∀ modifier ∈ rule.modifiers, ∀ text, Balanced text → Balanced (modifier text)

theorem Rule.KeepsBalance.apply {rule : Rule} (hrule : rule.KeepsBalance) {text : String}
    (htext : Balanced text) : Balanced (rule.apply text) := by
  unfold Rule.apply
  exact List.foldlRecOn rule.modifiers _ htext fun text htext modifier hmodifier =>
    hrule modifier hmodifier text htext

/-! ### The text of a tree -/

section Parts

variable {rule : Option Rule}

theorem balanced_argumentText (hrule : ∀ chosen ∈ rule, chosen.KeepsBalance)
    {caller : Option String} {position : Nat} {param : Node} (hparam : Balanced (param.text rule)) :
    Balanced (argumentText rule caller position param) := by
  unfold argumentText selected?
  cases rule with
  | none => exact hparam
  | some chosen =>
    cases caller with
    | none => exact hparam
    | some helper =>
      dsimp only
      split
      · rename_i picked hpicked
        obtain ⟨-, hsame⟩ := Option.ite_none_right_eq_some.mp hpicked
        cases hsame
        exact (hrule chosen rfl).apply hparam
      · exact hparam

theorem balanced_paramsText (hrule : ∀ chosen ∈ rule, chosen.KeepsBalance)
    (caller : Option String) {args : Arguments}
    (hargs : ∀ child ∈ args.children, Balanced (child.text rule)) :
    Balanced (paramsText rule caller args.params) := by
  refine balanced_passesOn.afterSpace (balanced_passesOn.intercalate fun text htext => ?_)
  obtain ⟨i, hi, rfl⟩ := List.mem_mapIdx.mp htext
  exact balanced_argumentText hrule (hargs _ (List.mem_append_left _ (List.getElem_mem hi)))

theorem balanced_pairsText {value : Node → String} {args : Arguments}
    (hkeys : ∀ key ∈ args.keys, Balanced key)
    (hvalues : ∀ child ∈ args.children, Balanced (value child)) :
    Balanced (pairsText value args.pairs) := by
  refine balanced_passesOn.afterSpace (balanced_passesOn.intercalate fun text htext => ?_)
  obtain ⟨pair, hpair, rfl⟩ := List.mem_map.mp htext
  have hkey : Balanced pair.key := hkeys _ (List.mem_map_of_mem hpair)
  have hvalue : Balanced (value pair.value) :=
    hvalues _ (List.mem_append_right _ (List.mem_map_of_mem hpair))
  exact (hkey.append (by decide)).append hvalue

theorem Arguments.balanced_text (hrule : ∀ chosen ∈ rule, chosen.KeepsBalance) {args : Arguments}
    (hkeys : ∀ key ∈ args.keys, Balanced key)
    (hargs : ∀ child ∈ args.children, Balanced (child.text rule)) : Balanced (args.text rule) := by
  rw [Arguments.text_eq]
  exact (balanced_paramsText hrule none hargs).append (balanced_pairsText hkeys hargs)

theorem PartialName.balanced_text (hrule : ∀ chosen ∈ rule, chosen.KeepsBalance)
    {name : PartialName} (hpayloads : ∀ text ∈ name.payloads, Balanced text)
    (hname : ∀ child ∈ name.children, Balanced (child.text rule)) : Balanced (name.text rule) := by
  cases name with
  | path text => exact hpayloads text List.mem_cons_self
  | sub callee args =>
    have hcallee : Balanced callee := hpayloads callee List.mem_cons_self
    rw [PartialName.text_sub, @String.append_assoc "("]
    exact (hcallee.append (balanced_paramsText hrule none hname)).call

theorem Program.balanced_blockParams {program : Program}
    (hnames : ∀ name ∈ program.names, Balanced name) :
    Balanced (Delimiter.blockParams program) := by
  simp only [Delimiter.blockParams]
  split
  · exact .empty
  · exact (Balanced.append (by decide) (balanced_passesOn.intercalate hnames)).append (by decide)

theorem balanced_bodyText {body : List Node} (hbody : ∀ node ∈ body, Balanced (node.text rule)) :
    Balanced (bodyText rule body) := by
  induction body with
  | nil => exact .empty
  | cons node rest ih =>
    obtain ⟨hnode, hrest⟩ := List.forall_mem_cons.mp hbody
    rw [bodyText_cons]
    exact hnode.append (ih hrest)

theorem closesTag_clauseText (hrule : ∀ chosen ∈ rule, chosen.KeepsBalance) {path : String}
    {args : Arguments} {main : Program} (hpath : Balanced path)
    (hkeys : ∀ key ∈ args.keys, Balanced key) (hnames : ∀ name ∈ main.names, Balanced name)
    (hargs : ∀ child ∈ args.children, Balanced (child.text rule))
    (hbody : ∀ node ∈ main.body, Balanced (node.text rule)) :
    ClosesTag (clauseText rule path args main) := by
  have htag : Balanced (path ++ args.text rule ++ Delimiter.blockParams main) :=
    (hpath.append (Arguments.balanced_text hrule hkeys hargs)).append
      (Program.balanced_blockParams hnames)
  exact (htag.closesTag (by decide)).append (balanced_bodyText hbody)

end Parts

/-- What is known of every node: its text is balanced, and if it is a block, so is its inside once
it is opened by some tag. -/
def Node.Balances (rule : Option Rule) (node : Node) : Prop :=
  Balanced (node.text rule) ∧ ∀ block, node = .block block → ClosesTag (block.insideText rule)

/-- The clauses of an else chain, by the first statement of the inverse program. -/
theorem balanced_elseText {rule : Option Rule} {inverse : Option Program}
    (hinverse : ∀ node ∈ inverseBody inverse, node.Balances rule) :
    Balanced (elseText rule inverse) := by
  have hfinal : ∀ program : Program, (∀ node ∈ program.body, node.Balances rule) →
      (∀ node ∈ program.body.head?, node.isBlock = false) →
      Balanced (elseText rule (some program)) := by
    intro program hbody hfirst
    rw [elseText_final rule program hfirst]
    exact Balanced.append (by decide) (balanced_bodyText fun node h => (hbody node h).1)
  match inverse with
  | none => exact .empty
  | some ⟨[], names⟩ => exact hfinal ⟨[], names⟩ hinverse (by simp)
  | some ⟨node :: rest, names⟩ =>
    cases hblock : node.isBlock with
    | true =>
      cases node with
      | block next =>
        rw [elseText_chained]
        exact ((hinverse _ List.mem_cons_self).2 next rfl).opened (by decide)
      | _ => cases hblock
    | false => exact hfinal ⟨node :: rest, names⟩ hinverse (by simpa using hblock)

theorem Node.balances_block {rule : Option Rule} (hrule : ∀ chosen ∈ rule, chosen.KeepsBalance)
    {block : Block} (hpayloads : ∀ text ∈ (Node.block block).payloads, Balanced text)
    (hchildren : ∀ child ∈ (Node.block block).children, child.Balances rule) :
    (Node.block block).Balances rule := by
  simp only [Node.payloads, List.forall_mem_cons, List.forall_mem_append] at hpayloads
  simp only [Node.children, List.forall_mem_append] at hchildren
  obtain ⟨hpath, ⟨hkeys, hnames⟩, -⟩ := hpayloads
  obtain ⟨⟨hargs, hmain⟩, hinverse⟩ := hchildren
  have hclause : ClosesTag (clauseText rule block.path block.args block.main) :=
    closesTag_clauseText hrule hpath hkeys hnames (fun child h => (hargs child h).1)
      fun node h => (hmain node h).1
  have hinside : ClosesTag (block.insideText rule) := hclause.append (balanced_elseText hinverse)
  refine ⟨?_, fun other hother => ?_⟩
  · rw [Node.text_block]
    exact (hinside.opened (by decide)).append (hpath.tag (by decide) (by decide))
  · cases hother
    exact hinside

theorem Node.balanced_rawValue {node : Node} (hnode : ∀ text ∈ node.payloads, Balanced text) :
    Balanced node.rawValue := by
  cases node with
  | string value => exact hnode value List.mem_cons_self
  | number value => exact balanced_number value
  | boolean value => cases value <;> decide
  | null => decide
  | _ => exact (by decide : Balanced "undefined")

/-- A partial tag, of a partial block too, since the program of a partial block is not written. -/
theorem balanced_partial {rule : Option Rule} (hrule : ∀ chosen ∈ rule, chosen.KeepsBalance)
    {name : PartialName} {args : Arguments} (hname : ∀ text ∈ name.payloads, Balanced text)
    (hkeys : ∀ key ∈ args.keys, Balanced key)
    (hnameChildren : ∀ child ∈ name.children, Balanced (child.text rule))
    (hargs : ∀ child ∈ args.children, Balanced (child.text rule)) :
    Balanced (Delimiter.openPartial ++ name.text rule ++ args.text rule
      ++ Delimiter.closePartial) := by
  have hinside : Balanced (name.text rule ++ args.text rule) :=
    (PartialName.balanced_text hrule hname hnameChildren).append
      (Arguments.balanced_text hrule hkeys hargs)
  rw [@String.append_assoc Delimiter.openPartial]
  exact hinside.tag (by decide) (by decide)

/-- A node other than a block, from its own texts and its children. The values of the pairs of a call
are written without the rule. -/
theorem Node.balanced_of_children {rule : Option Rule}
    (hrule : ∀ chosen ∈ rule, chosen.KeepsBalance) {node : Node} (hnode : node.isBlock = false)
    (hpayloads : ∀ text ∈ node.payloads, Balanced text)
    (hchildren : ∀ child ∈ node.children, Balanced (child.text rule))
    (hvalues : ∀ child ∈ node.children, Balanced child.rawValue) : Balanced (node.text rule) := by
  cases node with
  | block block => cases hnode
  | program program =>
    rw [Node.text_program]
    exact balanced_bodyText hchildren
  | mustache path args escaped =>
    obtain ⟨hpath, hkeys⟩ := List.forall_mem_cons.mp hpayloads
    have hinside : Balanced (Text.bracketed path ++ args.text rule) :=
      (balanced_bracketed hpath).append (Arguments.balanced_text hrule hkeys hchildren)
    rw [Node.text_mustache, @String.append_assoc (Delimiter.openMustache escaped)]
    exact hinside.mustache escaped
  | sub callee args =>
    obtain ⟨hcallee, hkeys⟩ := List.forall_mem_cons.mp hpayloads
    have hpairs : Balanced (pairsText (fun value => Text.quoteSingle value.rawValue) args.pairs) :=
      balanced_pairsText hkeys fun child h => balanced_quoteSingle (hvalues child h)
    have hparams := balanced_paramsText hrule (some callee) hchildren
    have hcall := ((hcallee.append hparams).append hpairs).call
    rw [Node.text_sub]
    simpa only [String.append_assoc] using hcall
  | partialTag name args =>
    simp only [Node.payloads, List.forall_mem_append] at hpayloads
    simp only [Node.children, List.forall_mem_append] at hchildren
    rw [Node.text_partialTag]
    exact balanced_partial hrule hpayloads.1 hpayloads.2 hchildren.1 hchildren.2
  | partialBlock name args fallback =>
    simp only [Node.payloads, List.forall_mem_append] at hpayloads
    simp only [Node.children, List.forall_mem_append] at hchildren
    rw [Node.text_partialBlock]
    exact balanced_partial hrule hpayloads.1.1 hpayloads.1.2 hchildren.1.1 hchildren.1.2
  | comment text =>
    rw [Node.text_comment]
    exact (hpayloads text List.mem_cons_self).tag (by decide) (by decide)
  | content text =>
    rw [Node.text_content]
    exact hpayloads text List.mem_cons_self
  | path text =>
    rw [Node.text_path]
    exact hpayloads text List.mem_cons_self
  | string value =>
    rw [Node.text_string]
    exact balanced_quoteSingle (hpayloads value List.mem_cons_self)
  | number value =>
    rw [Node.text_number]
    exact balanced_number value
  | boolean value =>
    rw [Node.text_boolean]
    cases value <;> decide
  | undefined =>
    rw [Node.text_undefined]
    decide
  | null =>
    rw [Node.text_null]
    decide
  | unknown =>
    rw [Node.text_unknown]
    decide

/-- A tree of balanced texts is printed in balance, by induction on the tree. -/
theorem Node.balances {rule : Option Rule} (hrule : ∀ chosen ∈ rule, chosen.KeepsBalance)
    {node : Node} (hpayloads : ∀ inner ∈ node.nodes, ∀ text ∈ inner.payloads, Balanced text) :
    node.Balances rule := by
  induction node using Node.childInduction with
  | step node ih =>
    obtain ⟨hown, hbelow⟩ := Node.forall_mem_nodes.mp hpayloads
    have hchildren : ∀ child ∈ node.children, child.Balances rule :=
      fun child h => ih child h (hbelow child h)
    cases hblock : node.isBlock with
    | true =>
      cases node with
      | block block => exact Node.balances_block hrule hown hchildren
      | _ => cases hblock
    | false =>
      have hvalues : ∀ child ∈ node.children, Balanced child.rawValue := fun child h =>
        Node.balanced_rawValue (Node.forall_mem_nodes.mp (hbelow child h)).1
      refine ⟨Node.balanced_of_children hrule hblock hown (fun child h => (hchildren child h).1)
        hvalues, fun block hnode => ?_⟩
      rw [hnode] at hblock
      cases hblock

/-- **Brackets in the output are balanced.** If no text that a tree holds has a bracket in it, the
brackets of its text are nested, and a rule whose modifiers keep balanced texts balanced leaves it
at that. -/
theorem balanced_text_of_bracketFree {rule : Option Rule} {node : Node}
    (hrule : ∀ chosen ∈ rule, chosen.KeepsBalance)
    (hpayloads : ∀ inner ∈ node.nodes, ∀ text ∈ inner.payloads, bracketFree text) :
    Balanced (node.text rule) :=
  (Node.balances hrule fun inner hinner text htext =>
    balanced_of_bracketFree (hpayloads inner hinner text htext)).1

/-- Puts the first argument of every call of `box` in square brackets. -/
def bracketBoxed : Rule :=
  ⟨"box", .sub, 1, [fun text => "[" ++ text ++ "]"], by decide, by decide⟩

/-- A chain with a call for the rule, a path that takes brackets, and a computed partial name. -/
def bracketedChain : Node :=
  .block ⟨"if", ⟨[.sub "box" ⟨[.sub "id" {}], none⟩], none⟩,
    ⟨[.mustache "user-name" {} false], some ["x"]⟩,
    some ⟨[.block ⟨"unless", ⟨[.path "b"], none⟩,
      ⟨[.partialTag (.sub "pick" ⟨[.number ⟨0⟩], none⟩) {}], none⟩, none⟩], none⟩⟩

theorem balanced_text_bracketedChain :
    bracketBoxed.KeepsBalance ∧
      (∀ inner ∈ bracketedChain.nodes, ∀ text ∈ inner.payloads, bracketFree text) ∧
      Balanced (bracketedChain.text (some bracketBoxed)) := by
  have hrule : bracketBoxed.KeepsBalance := by
    intro modifier hmodifier text htext
    rw [List.mem_singleton.mp hmodifier]
    exact htext.between (o := '[') (c := ']') (by decide) (by decide) rfl
  have hpayloads : ∀ inner ∈ bracketedChain.nodes, ∀ text ∈ inner.payloads, bracketFree text := by
    decide +kernel
  refine ⟨hrule, hpayloads, balanced_text_of_bracketFree (fun chosen hchosen => ?_) hpayloads⟩
  cases hchosen
  exact hrule

/-- Nothing in a content is changed, so a bracket in one stays without its partner. -/
example : ¬ Balanced ((Node.content "a)").text none) := by
  rw [Node.text_content]
  decide

end TemplatePrinter
