import TemplatePrinter.Proofs.Grammar.Statement
import TemplatePrinter.Proofs.Tags.Tidy
/-!
# Nesting of block tags

The tags of a text are read from left to right with a stack of open blocks. The open tag of a block
puts a frame on the stack, and an end tag takes it off if it has the same path. An else tag belongs
to the frame on top; after a bare one the frame is in its final part and may have no other.

The text of a tidy tree is read without a fault, and no block is left open. A clause of an else
chain is the inside of a block without its open tag and its end, so two things are carried through
the tree. The text of a node leaves the stack alone, `Neutral`, and the inside of a block goes on
with the frame on top, `GoesOn`: whatever chain of clauses it writes, the frame is still there for
the end tag of the block that the chain belongs to.
-/

namespace TemplatePrinter

/-! ### Tags -/

inductive Tag where
  | opening (path : List Char)
  | closing (path : List Char)
  | chainedElse
  | bareElse
  /-- Any tag that is not a tag of a block. -/
  | other

/-- The tag that goes on with these characters after its two braces. -/
def tagAt : List Char → Tag
  | '#' :: rest => .opening (rest.takeWhile fun c => c != ' ' && c != '\x7d')
  | '/' :: rest => .closing (rest.takeWhile (· != '\x7d'))
  | 'e' :: 'l' :: 's' :: 'e' :: ' ' :: _ => .chainedElse
  | 'e' :: 'l' :: 's' :: 'e' :: '\x7d' :: '\x7d' :: _ => .bareElse
  | _ => .other

/-- The tags of a text in order. -/
def tags : List Char → List Tag
  | [] => []
  | '\x7b' :: '\x7b' :: rest => tagAt rest :: tags rest
  | _ :: rest => tags rest

/-- A block that is open. -/
structure Frame where
  path : List Char
  /-- Whether the block is past the else tag that no other else tag may follow. -/
  final : Bool
deriving DecidableEq

/-- What a tag makes of the open blocks, if it may stand there. -/
def Tag.step (stack : List Frame) : Tag → Option (List Frame)
  | .opening path => some (⟨path, false⟩ :: stack)
  | .closing path =>
    match stack with
    | frame :: rest => if frame.path = path then some rest else none
    | [] => none
  | .chainedElse =>
    match stack with
    | ⟨path, false⟩ :: rest => some (⟨path, false⟩ :: rest)
    | _ => none
  | .bareElse =>
    match stack with
    | ⟨path, false⟩ :: rest => some (⟨path, true⟩ :: rest)
    | _ => none
  | .other => some stack

/-- The blocks that are open after tags, if each of the tags may stand where it does. -/
def nesting (stack : List Frame) (tags : List Tag) : Option (List Frame) :=
  tags.foldlM Tag.step stack

@[simp] theorem tags_skip {c : Char} (hc : c ≠ '\x7b') (rest : List Char) :
    tags (c :: rest) = tags rest := by
  simp [tags, hc]

@[simp] theorem nesting_cons (stack : List Frame) (tag : Tag) (rest : List Tag) :
    nesting stack (tag :: rest) = (tag.step stack).bind fun next => nesting next rest :=
  List.foldlM_cons

/-! ### What a tag is -/

/-- What may follow a path in its tag. -/
def endsPath : List Char → Bool
  | ' ' :: _ | '\x7d' :: _ => true
  | _ => false

theorem endsPath_afterSpace (text : String) {rest : List Char} (hrest : endsPath rest) :
    endsPath ((Text.afterSpace text).toList ++ rest) := by
  unfold Text.afterSpace
  split
  · exact hrest
  · simp [endsPath]

theorem Arguments.endsPath_chars (args : Arguments) {rest : List Char} (hrest : endsPath rest) :
    endsPath (args.chars ++ rest) := by
  rw [Arguments.chars, Arguments.text_eq, paramsText, pairsText, String.toList_append,
    List.append_assoc]
  exact endsPath_afterSpace _ (endsPath_afterSpace _ hrest)

theorem endsPath_blockParams (program : Program) {rest : List Char} (hrest : endsPath rest) :
    endsPath ((Delimiter.blockParams program).toList ++ rest) := by
  simp only [Delimiter.blockParams]
  split
  · exact hrest
  · simp [endsPath]

/-- A path is all that is taken from its start on, by any condition that its characters meet and
that fails at a space and at a brace. -/
theorem takeWhile_path {inPath : Char → Bool} {path : String} {rest : List Char}
    (hpath : ∀ c ∈ path.toList, inPath c) (hspace : inPath ' ' = false)
    (hbrace : inPath '\x7d' = false) (hrest : endsPath rest) :
    (path.toList ++ rest).takeWhile inPath = path.toList := by
  have hnone : rest.takeWhile inPath = [] := by
    unfold endsPath at hrest
    split at hrest
    · simp [hspace]
    · simp [hbrace]
    · cases hrest
  rw [List.takeWhile_append_of_pos hpath, hnone, List.append_nil]

theorem tagAt_opening {path : String} {rest : List Char} (hpath : isPlainPath path)
    (hrest : endsPath rest) : tagAt ('#' :: (path.toList ++ rest)) = .opening path.toList := by
  rw [tagAt, takeWhile_path _ (by decide) (by decide) hrest]
  intro c hc
  have hplain := plainChar_of_mem hpath hc
  rw [Bool.and_eq_true, bne_iff_ne, bne_iff_ne]
  exact ⟨ne_of_class hplain (by decide), ne_of_class hplain (by decide)⟩

theorem tagAt_closing {path : String} (rest : List Char) (hpath : isPlainPath path) :
    tagAt ('/' :: (path.toList ++ '\x7d' :: rest)) = .closing path.toList := by
  rw [tagAt, List.takeWhile_append_of_pos]
  · simp
  · intro c hc
    rw [bne_iff_ne]
    exact ne_of_class (plainChar_of_mem hpath hc) (by decide)

/-- A tag that starts with a plain word other than `else` is no tag of a block. -/
theorem tagAt_word {chars word : List Char} (hword : chars.takeWhile plainChar = word)
    (hne : word ≠ []) (helse : word ≠ ['e', 'l', 's', 'e']) : tagAt chars = .other := by
  unfold tagAt
  split
  · exact absurd hword.symm hne
  · exact absurd hword.symm hne
  · exact absurd hword.symm helse
  · exact absurd hword.symm helse
  · rfl

theorem tagAt_bracketed {path : String} {rest : List Char} (hpath : isPlainPath path)
    (helse : path ≠ "else") (hrest : endsPath rest) :
    tagAt ((Text.bracketed path).toList ++ rest) = .other := by
  unfold Text.bracketed
  split
  · rw [String.toList_append, String.toList_append]
    rfl
  · have hword : (path.toList ++ rest).takeWhile plainChar = path.toList :=
      takeWhile_path (fun c => plainChar_of_mem hpath) (by decide) (by decide) hrest
    rw [isPlainPath, Bool.and_eq_true, bne_iff_ne] at hpath
    exact tagAt_word hword (fun h => hpath.1 (String.toList_eq_nil_iff.mp h))
      fun h => helse (String.toList_inj.mp h)

/-! ### Parts of a text -/

/-- Characters whose tags leave all open blocks as they are, whatever follows. -/
def Neutral (chars : List Char) : Prop :=
  ∀ (stack : List Frame) (rest : List Char),
    nesting stack (tags (chars ++ rest)) = nesting stack (tags rest)

/-- Characters whose tags go on with the innermost open block, and may bring it to its final part.
-/
def GoesOn (chars : List Char) : Prop :=
  ∀ (path : List Char) (stack : List Frame) (rest : List Char), ∃ final,
    nesting (⟨path, false⟩ :: stack) (tags (chars ++ rest)) =
      nesting (⟨path, final⟩ :: stack) (tags rest)

theorem tags_braceFree {chars : List Char} (hchars : chars.all notBrace) (rest : List Char) :
    tags (chars ++ rest) = tags rest := by
  induction chars with
  | nil => rfl
  | cons c chars ih =>
    rw [List.all_cons, Bool.and_eq_true, notBrace, Bool.and_eq_true, bne_iff_ne] at hchars
    rw [List.cons_append, tags_skip hchars.1.1, ih hchars.2]

theorem neutral_of_braceFree {text : String} (htext : braceFree text) : Neutral text.toList := by
  intro stack rest
  rw [tags_braceFree htext]

theorem Neutral.append {chars chars' : List Char} (h : Neutral chars) (h' : Neutral chars') :
    Neutral (chars ++ chars') := by
  intro stack rest
  rw [List.append_assoc, h, h']

theorem Neutral.goesOn_append {chars chars' : List Char} (h : Neutral chars) (h' : GoesOn chars') :
    GoesOn (chars ++ chars') := by
  intro path stack rest
  obtain ⟨final, hfinal⟩ := h' path stack rest
  exact ⟨final, by rw [List.append_assoc, h, hfinal]⟩

/-- A tag that is not a tag of a block, with no other tag in it. -/
theorem neutral_of_other {inside : List Char} (hother : ∀ rest, tagAt (inside ++ rest) = .other)
    (hinside : ∀ rest, tags (inside ++ rest) = tags rest) :
    Neutral ('\x7b' :: '\x7b' :: inside) := by
  intro stack rest
  rw [List.cons_append, List.cons_append, tags, hother, hinside, nesting_cons]
  rfl

theorem neutral_closeTag : Neutral ['\x7d', '\x7d'] := by
  intro stack rest
  simp

theorem neutral_bodyChars {body : List Node} (hbody : ∀ node ∈ body, Neutral node.chars) :
    Neutral (bodyChars body) := by
  induction body with
  | nil => exact fun stack rest => rfl
  | cons node rest ih =>
    rw [bodyChars_cons]
    exact (hbody node List.mem_cons_self).append
      (ih fun other h => hbody other (List.mem_cons_of_mem _ h))

/-- A third brace opens nothing. -/
theorem tags_third_brace {text : String} (htext : braceFree text) (hne : text ≠ "")
    (rest : List Char) : tags ('\x7b' :: (text.toList ++ rest)) = tags rest := by
  have hskip := tags_braceFree htext rest
  unfold braceFree at htext
  cases hchars : text.toList with
  | nil => exact absurd (String.toList_eq_nil_iff.mp hchars) hne
  | cons c tail =>
    rw [hchars] at htext hskip
    rw [List.all_cons, Bool.and_eq_true, notBrace, Bool.and_eq_true, bne_iff_ne] at htext
    rw [← hskip, List.cons_append]
    simp [tags, htext.1.1]

theorem bracketed_braceFree {path : String} (hpath : isPlainPath path) :
    braceFree (Text.bracketed path) ∧ Text.bracketed path ≠ "" := by
  have hplain : braceFree path := braceFree_of_isPlainPath hpath
  rw [isPlainPath, Bool.and_eq_true, bne_iff_ne] at hpath
  unfold Text.bracketed
  split
  · refine ⟨?_, by simp⟩
    rw [braceFree_append, braceFree_append, hplain]
    decide
  · exact ⟨hplain, hpath.1⟩

theorem neutral_mustache {path : String} {args : Arguments} {escaped : Bool}
    (hpath : isPlainPath path) (helse : path ≠ "else") (hargs : braceFree (args.text none)) :
    Neutral (Node.mustache path args escaped).chars := by
  obtain ⟨hbracketed, hne⟩ := bracketed_braceFree hpath
  cases escaped with
  | true =>
    rw [Node.chars_escaped]
    refine neutral_of_other (fun rest => ?_) fun rest => ?_
    · rw [List.append_assoc]
      refine tagAt_bracketed hpath helse ?_
      rw [List.append_assoc]
      exact args.endsPath_chars rfl
    · rw [List.append_assoc, tags_braceFree hbracketed, List.append_assoc, Arguments.chars,
        tags_braceFree hargs]
      simp
  | false =>
    rw [Node.chars_unescaped]
    refine neutral_of_other (fun rest => rfl) fun rest => ?_
    rw [List.cons_append, List.append_assoc, tags_third_brace hbracketed hne, List.append_assoc,
      Arguments.chars, tags_braceFree hargs]
    simp

theorem neutral_comment {text : String} (htext : braceFree text) :
    Neutral (Node.comment text).chars := by
  rw [Node.chars_comment]
  refine neutral_of_other (fun rest => rfl) fun rest => ?_
  simp [tags_braceFree htext]

theorem neutral_partialTag {name : PartialName} {args : Arguments}
    (hname : braceFree (name.text none)) (hargs : braceFree (args.text none)) :
    Neutral (Node.partialTag name args).chars := by
  rw [Node.chars_partialTag]
  refine neutral_of_other (fun rest => rfl) fun rest => ?_
  simp [PartialName.chars, Arguments.chars, tags_braceFree hname, tags_braceFree hargs]

/-! ### Blocks -/

theorem neutral_clauseChars {path : String} {args : Arguments} {main : Program}
    (hpath : isPlainPath path) (hargs : braceFree (args.text none)) (hnames : main.hasTidyNames)
    (hbody : ∀ node ∈ main.body, Neutral node.chars) : Neutral (clauseChars path args main) := by
  rw [clauseChars_eq]
  exact (neutral_of_braceFree (braceFree_of_isPlainPath hpath)).append
    ((neutral_of_braceFree hargs).append
      ((neutral_of_braceFree (braceFree_blockParams hnames)).append
        (neutral_closeTag.append (neutral_bodyChars hbody))))

/-- What is known of every node of a tidy tree: its tags are nested, and if it is a block, the
tags between its path and its end go on with it. -/
def Node.Nests (node : Node) : Prop :=
  Neutral node.chars ∧ ∀ block, node = .block block → GoesOn block.insideChars

theorem goesOn_chained {next : Block} (hnext : GoesOn next.insideChars) (others : List Node)
    (names : Option (List String)) : GoesOn (elseChars (some ⟨.block next :: others, names⟩)) := by
  intro path stack rest
  obtain ⟨final, hfinal⟩ := hnext path stack rest
  have hchars : elseChars (some ⟨.block next :: others, names⟩) ++ rest =
      '\x7b' :: '\x7b' :: 'e' :: 'l' :: 's' :: 'e' :: ' ' :: (next.insideChars ++ rest) := by
    simp [elseChars, elseText_chained, Delimiter.openElse, Block.insideChars]
  refine ⟨final, ?_⟩
  rw [hchars, tags, nesting_cons]
  simp [tagAt, Tag.step, hfinal]

theorem goesOn_final {program : Program}
    (hfirst : ∀ node ∈ program.body.head?, node.isBlock = false)
    (hbody : ∀ node ∈ program.body, Neutral node.chars) : GoesOn (elseChars (some program)) := by
  intro path stack rest
  have hchars : elseChars (some program) ++ rest = '\x7b' :: '\x7b' :: 'e' :: 'l' :: 's' :: 'e' ::
      '\x7d' :: '\x7d' :: (bodyChars program.body ++ rest) := by
    simp [elseChars, elseText_final none program hfirst, Delimiter.bareElse, bodyChars]
  refine ⟨true, ?_⟩
  rw [hchars, tags, nesting_cons]
  simp [tagAt, Tag.step, neutral_bodyChars hbody _ rest]

/-- The else tags of a block, by the first statement of its inverse program. -/
theorem goesOn_elseChars {inverse : Option Program}
    (hinverse : ∀ node ∈ inverseBody inverse, node.Nests) : GoesOn (elseChars inverse) := by
  match inverse with
  | none => exact fun path stack rest => ⟨false, rfl⟩
  | some ⟨[], names⟩ => exact goesOn_final (by simp) (by simp)
  | some ⟨node :: rest, names⟩ =>
    cases hblock : node.isBlock with
    | true =>
      cases node with
      | block next => exact goesOn_chained ((hinverse _ List.mem_cons_self).2 next rfl) rest names
      | _ => cases hblock
    | false => exact goesOn_final (by simpa using hblock) fun other h => (hinverse other h).1

/-- Whatever follows the inside of a block, its open tag has the path of the block. -/
theorem Block.tagAt_insideChars {block : Block} (hpath : isPlainPath block.path)
    (rest : List Char) :
    tagAt ('#' :: (block.insideChars ++ rest)) = .opening block.path.toList := by
  rw [Block.insideChars_eq, clauseChars_eq]
  simp only [List.append_assoc, List.cons_append]
  exact tagAt_opening hpath (block.args.endsPath_chars (endsPath_blockParams block.main rfl))

theorem Block.neutral_chars {block : Block} (hpath : isPlainPath block.path)
    (hinside : GoesOn block.insideChars) : Neutral (Node.block block).chars := by
  intro stack rest
  obtain ⟨final, hfinal⟩ := hinside block.path.toList stack
    ('\x7b' :: '\x7b' :: '/' :: (block.path.toList ++ '\x7d' :: '\x7d' :: rest))
  have hopen : (Node.block block).chars ++ rest = '\x7b' :: '\x7b' :: '#' :: (block.insideChars ++
      '\x7b' :: '\x7b' :: '/' :: (block.path.toList ++ '\x7d' :: '\x7d' :: rest)) := by
    simp [Node.chars_block]
  calc nesting stack (tags ((Node.block block).chars ++ rest))
    _ = nesting (⟨block.path.toList, false⟩ :: stack) (tags (block.insideChars ++
          '\x7b' :: '\x7b' :: '/' :: (block.path.toList ++ '\x7d' :: '\x7d' :: rest))) := by
      rw [hopen, tags, Block.tagAt_insideChars hpath, nesting_cons, tags_skip (by decide)]
      rfl
    _ = nesting (⟨block.path.toList, final⟩ :: stack)
          (.closing block.path.toList :: tags (block.path.toList ++ '\x7d' :: '\x7d' :: rest)) := by
      rw [hfinal, tags, tagAt_closing _ hpath, tags_skip (by decide)]
    _ = nesting stack (tags rest) := by
      have hbraceFree : braceFree block.path := braceFree_of_isPlainPath hpath
      rw [nesting_cons, tags_braceFree hbraceFree]
      simp [Tag.step]

theorem Node.nests_block {block : Block} (hblock : (Node.block block).isTidy)
    (hargs : braceFree (block.args.text none)) (hmain : ∀ node ∈ block.main.body, node.Nests)
    (hinverse : ∀ node ∈ inverseBody block.inverse, node.Nests) : (Node.block block).Nests := by
  simp only [Node.isTidy, Bool.and_eq_true] at hblock
  obtain ⟨⟨⟨hpath, -⟩, hnames⟩, -⟩ := hblock
  have hinside : GoesOn block.insideChars := by
    rw [Block.insideChars_eq]
    exact (neutral_clauseChars hpath hargs hnames fun node h => (hmain node h).1).goesOn_append
      (goesOn_elseChars hinverse)
  refine ⟨Block.neutral_chars hpath hinside, fun other hother => ?_⟩
  cases hother
  exact hinside

theorem Node.nests_of_neutral {node : Node} (hnode : node.isBlock = false)
    (hchars : Neutral node.chars) : node.Nests := by
  refine ⟨hchars, fun block hblock => ?_⟩
  rw [hblock] at hnode
  cases hnode

/-- The tags of a tidy tree are nested, by induction on the tree. -/
theorem Node.nests {node : Node} (hnodes : ∀ inner ∈ node.nodes, inner.isTidy) : node.Nests := by
  induction node using Node.childInduction with
  | step node ih =>
    have hargument : node.isArgument → Neutral node.chars :=
      fun h => neutral_of_braceFree (Node.braceFree_text hnodes h)
    obtain ⟨htidy, hchildren⟩ := Node.forall_mem_nodes.mp hnodes
    have hnests : ∀ child ∈ node.children, child.Nests :=
      fun child h => ih child h (hchildren child h)
    cases node with
    | program program =>
      refine Node.nests_of_neutral rfl ?_
      rw [Node.chars, Node.text_program]
      exact neutral_bodyChars fun node h => (hnests node h).1
    | block block =>
      have hargs : braceFree (block.args.text none) := by
        simp only [Node.isTidy, Bool.and_eq_true] at htidy
        exact Arguments.braceFree_text htidy.1.1.2 fun child h =>
          hchildren child (List.mem_append_left _ (List.mem_append_left _ h))
      exact Node.nests_block htidy hargs
        (fun child h => hnests child (List.mem_append_left _ (List.mem_append_right _ h)))
        fun child h => hnests child (List.mem_append_right _ h)
    | mustache path args escaped =>
      simp only [Node.isTidy, Bool.and_eq_true, bne_iff_ne] at htidy
      exact Node.nests_of_neutral rfl (neutral_mustache htidy.1.1 htidy.1.2
        (Arguments.braceFree_text htidy.2 hchildren))
    | partialTag name args =>
      rw [Node.isTidy, Bool.and_eq_true] at htidy
      have hname : braceFree (name.text none) := PartialName.braceFree_text htidy.1
        fun child h => hchildren child (List.mem_append_left _ h)
      have hargs : braceFree (args.text none) := Arguments.braceFree_text htidy.2
        fun child h => hchildren child (List.mem_append_right _ h)
      exact Node.nests_of_neutral rfl (neutral_partialTag hname hargs)
    | partialBlock name args fallback =>
      simp only [Node.isTidy, Bool.and_eq_true] at htidy
      have hname : braceFree (name.text none) := PartialName.braceFree_text htidy.1.1
        fun child h => hchildren child (List.mem_append_left _ (List.mem_append_left _ h))
      have hargs : braceFree (args.text none) := Arguments.braceFree_text htidy.1.2
        fun child h => hchildren child (List.mem_append_left _ (List.mem_append_right _ h))
      -- the program of a partial block is not written, so it is written like a partial tag
      have hchars : (Node.partialBlock name args fallback).chars =
          (Node.partialTag name args).chars := by
        rw [Node.chars, Node.text_partialBlock, Node.chars, Node.text_partialTag]
      refine Node.nests_of_neutral rfl ?_
      rw [hchars]
      exact neutral_partialTag hname hargs
    | content text =>
      refine Node.nests_of_neutral rfl ?_
      rw [Node.chars_content]
      exact neutral_of_braceFree htidy
    | comment text => exact Node.nests_of_neutral rfl (neutral_comment htidy)
    | unknown =>
      refine Node.nests_of_neutral rfl ?_
      rw [Node.chars, Node.text_unknown]
      exact neutral_of_braceFree rfl
    | _ => exact Node.nests_of_neutral rfl (hargument rfl)

/-- **Block tags are nested.** In the text of a tidy tree every end tag meets the path of the
innermost open block, every else tag an open block that is not in its final part, and no block is
left open. -/
theorem nesting_tags {node : Node} (hnodes : ∀ inner ∈ node.nodes, inner.isTidy) :
    nesting [] (tags (node.text none).toList) = some [] := by
  have hneutral := (Node.nests hnodes).1 [] []
  rw [List.append_nil] at hneutral
  exact hneutral

/-- A chain of three clauses, with a block that has a final clause of its own in the first. -/
def nestedChain : Node :=
  .block ⟨"if", ⟨[.path "a"], none⟩,
    ⟨[.block ⟨"each", ⟨[.path "xs"], some [⟨"as", .string "x"⟩]⟩,
      ⟨[.mustache "elsewhere" {} true], some ["x", "i"]⟩, some ⟨[.content "none"], none⟩⟩], none⟩,
    some ⟨[.block ⟨"unless", ⟨[.sub "eq" ⟨[.path "b"], none⟩], none⟩, {},
      some ⟨[.mustache "c.d" {} false], none⟩⟩], none⟩⟩

theorem nesting_tags_nestedChain :
    (∀ inner ∈ nestedChain.nodes, inner.isTidy) ∧
      nesting [] (tags (nestedChain.text none).toList) = some [] :=
  have htidy : ∀ inner ∈ nestedChain.nodes, inner.isTidy := by decide +kernel
  ⟨htidy, nesting_tags htidy⟩

end TemplatePrinter
