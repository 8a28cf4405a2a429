import TemplatePrinter.Proofs.Grammar.Expression
/-!
# Reading statements back

The statements of a body are told apart by how they open: content by a character that opens no
tag, the others by the third character of their tag. A body is read statement by statement until
a tag that belongs to the block around it, which no statement of the body can be taken for.

A block is read along its else chain. Its open tag, its main program and all its clauses make up
its inside, `Block.insideChars`, and a clause of the chain is the inside of the next block. So the
recursion goes from a block to the blocks in its two bodies, and `Block.readsBack` is its result.
-/

namespace TemplatePrinter

/-! ### What follows a statement -/

/-- What may follow a body: the end of the text, or a tag that goes on or ends the block. -/
def endsBody : List Char → Bool
  | [] | '\x7b' :: '\x7b' :: '/' :: _ => true
  | '\x7b' :: '\x7b' :: 'e' :: 'l' :: 's' :: 'e' :: c :: _ => c == ' ' || c == '\x7d'
  | _ => false

/-- What follows an else chain: the tag that ends the block. -/
def endsChain : List Char → Bool
  | '\x7b' :: '\x7b' :: '/' :: _ => true
  | _ => false

/-- What may follow a statement. Content goes on until a tag opens. -/
def afterStatement : Node → List Char → Bool
  | .content _, rest => rest.head?.all (· == '\x7b')
  | _, _ => true

theorem endsBody_of_endsChain {rest : List Char} (hrest : endsChain rest) : endsBody rest := by
  unfold endsChain at hrest
  split at hrest
  · rfl
  · cases hrest

/-! ### The characters of statements -/

def bodyChars (body : List Node) : List Char :=
  (bodyText none body).toList

def PartialName.chars (name : PartialName) : List Char :=
  (name.text none).toList

def elseChars (inverse : Option Program) : List Char :=
  (elseText none inverse).toList

/-- A tag from its path on, and the program that the tag introduces. -/
def clauseChars (path : String) (args : Arguments) (main : Program) : List Char :=
  (clauseText none path args main).toList

def Block.insideChars (block : Block) : List Char :=
  (block.insideText none).toList

theorem bodyChars_cons (node : Node) (rest : List Node) :
    bodyChars (node :: rest) = node.chars ++ bodyChars rest := by
  rw [bodyChars, bodyText_cons, String.toList_append]
  rfl

theorem clauseChars_eq (path : String) (args : Arguments) (main : Program) :
    clauseChars path args main = path.toList ++ (args.chars ++
      ((Delimiter.blockParams main).toList ++ '\x7d' :: '\x7d' :: bodyChars main.body)) := by
  simp [clauseChars, clauseText, Arguments.chars, bodyChars, Delimiter.closeTag]

theorem Block.insideChars_eq (block : Block) :
    block.insideChars = clauseChars block.path block.args block.main ++ elseChars block.inverse := by
  rw [Block.insideChars, Block.insideText, String.toList_append]
  rfl

theorem Node.chars_content (text : String) : (Node.content text).chars = text.toList := by
  rw [Node.chars, Node.text_content]

theorem Node.chars_comment (text : String) :
    (Node.comment text).chars =
      '\x7b' :: '\x7b' :: '!' :: '-' :: '-' :: (text.toList ++ ['-', '-', '\x7d', '\x7d']) := by
  simp [Node.chars, Delimiter.openComment, Delimiter.closeComment]

theorem Node.chars_escaped (path : String) (args : Arguments) :
    (Node.mustache path args true).chars =
      '\x7b' :: '\x7b' :: ((Text.bracketed path).toList ++ (args.chars ++ ['\x7d', '\x7d'])) := by
  simp [Node.chars, Node.text_mustache, Arguments.chars, Delimiter.openMustache,
    Delimiter.closeMustache, Delimiter.openTag, Delimiter.closeTag]

theorem Node.chars_unescaped (path : String) (args : Arguments) :
    (Node.mustache path args false).chars =
      '\x7b' :: '\x7b' :: '\x7b' ::
        ((Text.bracketed path).toList ++ (args.chars ++ ['\x7d', '\x7d', '\x7d'])) := by
  simp [Node.chars, Node.text_mustache, Arguments.chars, Delimiter.openMustache,
    Delimiter.closeMustache]

theorem Node.chars_partialTag (name : PartialName) (args : Arguments) :
    (Node.partialTag name args).chars =
      '\x7b' :: '\x7b' :: '>' :: ' ' :: (name.chars ++ (args.chars ++ [' ', '\x7d', '\x7d'])) := by
  simp [Node.chars, Node.text_partialTag, PartialName.chars, Arguments.chars,
    Delimiter.openPartial, Delimiter.closePartial]

theorem Node.chars_block (block : Block) :
    (Node.block block).chars = '\x7b' :: '\x7b' :: '#' :: (block.insideChars ++
      '\x7b' :: '\x7b' :: '/' :: (block.path.toList ++ ['\x7d', '\x7d'])) := by
  simp [Node.chars, Node.text_block, Block.insideChars, Delimiter.openBlock, Delimiter.openEnd,
    Delimiter.closeTag]

theorem elseChars_chained (block : Block) :
    elseChars (some ⟨[.block block], none⟩) =
      '\x7b' :: '\x7b' :: 'e' :: 'l' :: 's' :: 'e' :: ' ' :: block.insideChars := by
  simp [elseChars, elseText_chained, Block.insideChars, Delimiter.openElse]

theorem elseChars_final {body : List Node} (hbody : startsWith Node.isBlock body = false) :
    elseChars (some ⟨body, none⟩) =
      '\x7b' :: '\x7b' :: 'e' :: 'l' :: 's' :: 'e' :: '\x7d' :: '\x7d' :: bodyChars body := by
  have hfirst : ∀ node ∈ body.head?, node.isBlock = false := by
    intro node hnode
    rw [startsWith, hnode] at hbody
    exact hbody
  rw [elseChars, elseText_final none ⟨body, none⟩ hfirst]
  simp [bodyChars, Delimiter.bareElse]

/-! ### Paths and names in tags -/

/-- The first character of the path of a mustache, in brackets or not. -/
theorem bracketed_eq_cons {path : String} (hpath : isName path) :
    ∃ c tail, (Text.bracketed path).toList = c :: tail ∧ (c = '[' ∨ nameChar c ∧ c ≠ '/') := by
  unfold Text.bracketed
  split
  · exact ⟨'[', path.toList ++ [']'], by simp, .inl rfl⟩
  · obtain ⟨-, c, tail, hchars, hc⟩ := isName_chars hpath
    exact ⟨c, tail, hchars, .inr hc⟩

theorem bracketed_call_readsBack {path path' : String} {args args' : Arguments}
    {rest rest' : List Char} (hpath : isName path) (hpath' : isName path')
    (hargs : args.isWellFormed) (hargs' : args'.isWellFormed) (hrest : endsArguments rest)
    (hrest' : endsArguments rest')
    (h : (Text.bracketed path).toList ++ (args.chars ++ rest) =
      (Text.bracketed path').toList ++ (args'.chars ++ rest')) :
    path = path' ∧ args = args' ∧ rest = rest' := by
  have hbracket : ∀ (path path' : String) (tail tail' : List Char), isName path' →
      ("[" ++ path ++ "]").toList ++ tail ≠ path'.toList ++ tail' := by
    intro path path' tail tail' hpath' h
    obtain ⟨-, c, name, hchars, hc, -⟩ := isName_chars hpath'
    rw [hchars, String.toList_append, String.toList_append] at h
    have hfirst : '[' = c := (List.cons.inj h).1
    subst hfirst
    exact absurd hc (by decide)
  unfold Text.bracketed at h
  split at h <;> split at h
  · simp only [String.toList_append, List.append_assoc] at h
    have hstop : ∀ tail, EndsRun nameChar ("]".toList ++ tail) := by simp [EndsRun, nameChar]
    obtain ⟨rfl, hrests⟩ := name_readsBack hpath hpath' (hstop _) (hstop _)
      (List.append_cancel_left h)
    obtain ⟨rfl, rfl⟩ := Arguments.readsBack hargs hargs' hrest hrest'
      (List.append_cancel_left hrests)
    exact ⟨rfl, rfl, rfl⟩
  · exact absurd h (hbracket _ _ _ _ hpath')
  · exact absurd h.symm (hbracket _ _ _ _ hpath)
  · exact call_readsBack hpath hpath' hargs hargs' hrest hrest' h

/-- A call that computes the name of a partial is written as one that stands as an argument. -/
theorem PartialName.chars_sub {callee : String} {args : Arguments} (hargs : args.hash = none) :
    (PartialName.sub callee args).chars = (Node.sub callee args).chars := by
  obtain ⟨params, hash⟩ := args
  subst hargs
  rw [PartialName.chars, PartialName.text_sub, Node.chars, Node.text_sub]
  simp [paramsText_untargeted, paramsText_uncalled, Arguments.pairs, pairsText, Text.afterSpace]

theorem PartialName.readsBack {name name' : PartialName} {rest rest' : List Char}
    (hname : name.isWellFormed) (hname' : name'.isWellFormed) (hrest : afterArgument rest)
    (hrest' : afterArgument rest') (h : name.chars ++ rest = name'.chars ++ rest') :
    name = name' ∧ rest = rest' := by
  have hsub : ∀ {callee : String} {args : Arguments},
      (PartialName.sub callee args).isWellFormed →
        args.hash = none ∧ (Node.sub callee args).isExpression := by
    rintro callee ⟨params, hash⟩ hcall
    cases hash <;> simp_all [PartialName.isWellFormed, Node.isExpression]
  cases name with
  | path text =>
    cases name' with
    | path text' =>
      obtain ⟨rfl, rfl⟩ := name_readsBack hname hname' (endsRun_of_afterArgument hrest)
        (endsRun_of_afterArgument hrest') h
      exact ⟨rfl, rfl⟩
    | sub callee' args' =>
      obtain ⟨hhash, hcall⟩ := hsub hname'
      rw [PartialName.chars_sub hhash] at h
      cases (Node.rest_eq_of_chars_eq_name hcall hname hrest' (endsRun_of_afterArgument hrest)
        h.symm).1
  | sub callee args =>
    obtain ⟨hhash, hcall⟩ := hsub hname
    rw [PartialName.chars_sub hhash] at h
    cases name' with
    | path text' =>
      cases (Node.rest_eq_of_chars_eq_name hcall hname' hrest (endsRun_of_afterArgument hrest')
        h).1
    | sub callee' args' =>
      obtain ⟨hhash', hcall'⟩ := hsub hname'
      rw [PartialName.chars_sub hhash'] at h
      obtain ⟨hnode, hrests⟩ := Node.readsBack _ hcall _ _ _ hcall' hrest hrest' h
      cases hnode
      exact ⟨rfl, hrests⟩

/-! ### The names that a block binds -/

theorem blockParams_none (body : List Node) :
    (Delimiter.blockParams ⟨body, none⟩).toList = [] := by
  simp [Delimiter.blockParams]

theorem blockParams_cons {body : List Node} {name : String} {names : List String}
    (hname : isName name) :
    (Delimiter.blockParams ⟨body, some (name :: names)⟩).toList =
      " as |".toList ++ (name.toList ++ ((names.flatMap fun name => ' ' :: name.toList) ++ ['|'])) := by
  have hne : " ".intercalate (name :: names) ≠ "" := by
    intro hempty
    have hchars := toList_intercalate_cons name names
    obtain ⟨-, c, tail, hcons, -⟩ := isName_chars hname
    rw [hempty, hcons] at hchars
    cases hchars
  simp only [Delimiter.blockParams, Option.getD_some, if_neg hne, String.toList_append,
    toList_intercalate_cons, List.append_assoc]
  rfl

private theorem names_readBack {names names' : List String} {rest rest' : List Char}
    (hnames : names.all isName) (hnames' : names'.all isName)
    (h : (names.flatMap fun name => ' ' :: name.toList) ++ '|' :: rest =
      (names'.flatMap fun name => ' ' :: name.toList) ++ '|' :: rest') :
    names = names' ∧ rest = rest' := by
  have hends : ∀ (names : List String) (rest : List Char),
      EndsRun nameChar ((names.flatMap fun name => ' ' :: name.toList) ++ '|' :: rest) := by
    intro names rest
    cases names <;> simp [EndsRun, nameChar]
  induction names generalizing names' with
  | nil =>
    cases names' with
    | nil => exact ⟨rfl, by simpa using h⟩
    | cons name' names' => simp at h
  | cons name names ih =>
    cases names' with
    | nil => simp at h
    | cons name' names' =>
      simp only [List.all_cons, Bool.and_eq_true] at hnames hnames'
      simp only [List.flatMap_cons, List.cons_append, List.append_assoc, List.cons.injEq,
        true_and] at h
      obtain ⟨rfl, hrests⟩ := name_readsBack hnames.1 hnames'.1 (hends _ _) (hends _ _) h
      obtain ⟨rfl, rfl⟩ := ih hnames.2 hnames'.2 hrests
      exact ⟨rfl, rfl⟩

theorem endsArguments_blockParams {main : Program} (hmain : areBlockParams main.blockParams)
    (rest : List Char) :
    endsArguments ((Delimiter.blockParams main).toList ++ '\x7d' :: rest) := by
  obtain ⟨body, names⟩ := main
  match names with
  | none =>
    rw [blockParams_none]
    rfl
  | some [] => simp [areBlockParams] at hmain
  | some (name :: names) =>
    simp only [areBlockParams, List.all_cons, Bool.and_eq_true] at hmain
    rw [blockParams_cons hmain.2.1]
    rfl

theorem blockParams_readsBack {main main' : Program} {rest rest' : List Char}
    (hmain : areBlockParams main.blockParams) (hmain' : areBlockParams main'.blockParams)
    (h : (Delimiter.blockParams main).toList ++ '\x7d' :: rest =
      (Delimiter.blockParams main').toList ++ '\x7d' :: rest') :
    main.blockParams = main'.blockParams ∧ rest = rest' := by
  obtain ⟨body, names⟩ := main
  obtain ⟨body', names'⟩ := main'
  match names, names' with
  | none, none =>
    rw [blockParams_none, blockParams_none] at h
    exact ⟨rfl, (List.cons.inj h).2⟩
  | some [], _ => simp [areBlockParams] at hmain
  | _, some [] => simp [areBlockParams] at hmain'
  | none, some (name' :: names') =>
    simp only [areBlockParams, List.all_cons, Bool.and_eq_true] at hmain'
    rw [blockParams_none, blockParams_cons hmain'.2.1] at h
    simp at h
  | some (name :: names), none =>
    simp only [areBlockParams, List.all_cons, Bool.and_eq_true] at hmain
    rw [blockParams_none, blockParams_cons hmain.2.1] at h
    simp at h
  | some (name :: names), some (name' :: names') =>
    simp only [areBlockParams, List.all_cons, Bool.and_eq_true] at hmain hmain'
    rw [blockParams_cons hmain.2.1, blockParams_cons hmain'.2.1] at h
    simp only [List.append_assoc] at h
    have hrow : ((name :: names).flatMap fun name => ' ' :: name.toList) ++ '|' :: '\x7d' :: rest =
        ((name' :: names').flatMap fun name => ' ' :: name.toList) ++ '|' :: '\x7d' :: rest' := by
      simpa using List.append_cancel_left h
    obtain ⟨hnames, hrests⟩ := names_readBack (by simpa using hmain.2) (by simpa using hmain'.2) hrow
    exact ⟨congrArg some hnames, (List.cons.inj hrests).2⟩

/-! ### The opening of a statement -/

/-- The kind of statement that a text opens, as far as its first three characters tell. -/
def openingKind : List Char → Option Kind
  | '\x7b' :: '\x7b' :: '!' :: _ => some .comment
  | '\x7b' :: '\x7b' :: '>' :: _ => some .partialTag
  | '\x7b' :: '\x7b' :: '#' :: _ => some .block
  | '\x7b' :: '\x7b' :: _ :: _ => some .mustache
  | '\x7b' :: _ => none
  | [] => none
  | _ :: _ => some .content

theorem isStatement_content {text : String} (htext : (Node.content text).isStatement) :
    text.toList.all (· != '\x7b') ∧ ∃ c tail, text.toList = c :: tail ∧ c ≠ '\x7b' := by
  simp only [Node.isStatement, Bool.and_eq_true, bne_iff_ne, ne_eq] at htext
  have hall := all_bne_of_not_contains htext.2
  refine ⟨hall, ?_⟩
  cases hchars : text.toList with
  | nil => exact absurd (String.toList_eq_nil_iff.mp hchars) htext.1
  | cons c tail =>
    rw [hchars, List.all_cons, Bool.and_eq_true, bne_iff_ne] at hall
    exact ⟨c, tail, rfl, hall.1⟩

theorem isStatement_mustache {path : String} {args : Arguments} {escaped : Bool}
    (hnode : (Node.mustache path args escaped).isStatement) :
    isName path ∧ path ≠ "else" ∧ args.isWellFormed := by
  simpa [Node.isStatement, and_assoc] using hnode

theorem isStatement_partialTag {name : PartialName} {args : Arguments}
    (hnode : (Node.partialTag name args).isStatement) :
    name.isWellFormed ∧ args.isWellFormed := by
  simpa [Node.isStatement] using hnode

/-- A statement opens as its kind does. -/
theorem openingKind_chars {node : Node} (hnode : node.isStatement) (rest : List Char) :
    openingKind (node.chars ++ rest) = node.kind? := by
  cases node with
  | content text =>
    obtain ⟨-, c, tail, hchars, hc⟩ := isStatement_content hnode
    rw [Node.chars_content, hchars]
    simp [openingKind, Node.kind?, hc]
  | comment text =>
    rw [Node.chars_comment]
    rfl
  | mustache path args escaped =>
    cases escaped with
    | false =>
      rw [Node.chars_unescaped]
      rfl
    | true =>
      obtain ⟨c, tail, hchars, hc⟩ := bracketed_eq_cons (isStatement_mustache hnode).1
      have hmark : c ≠ '!' ∧ c ≠ '>' ∧ c ≠ '#' := by
        refine ⟨?_, ?_, ?_⟩ <;> rintro rfl <;> exact absurd hc (by decide)
      rw [Node.chars_escaped, hchars]
      simp [openingKind, Node.kind?, hmark]
  | partialTag name args =>
    rw [Node.chars_partialTag]
    rfl
  | block block =>
    rw [Node.chars_block]
    rfl
  | _ => simp [Node.isStatement] at hnode

/-- No statement stands where a body has ended. An else tag could only be taken for a mustache
with the path `else`. -/
theorem not_endsBody_of_statement {node : Node} (hnode : node.isStatement) (rest : List Char) :
    ¬ endsBody (node.chars ++ rest) := by
  intro hends
  cases node with
  | content text =>
    obtain ⟨-, c, tail, hchars, hc⟩ := isStatement_content hnode
    rw [Node.chars_content, hchars] at hends
    simp [endsBody, hc] at hends
  | comment text =>
    rw [Node.chars_comment] at hends
    cases hends
  | mustache path args escaped =>
    cases escaped with
    | false =>
      rw [Node.chars_unescaped] at hends
      cases hends
    | true =>
      obtain ⟨hpath, helse, hargs⟩ := isStatement_mustache hnode
      obtain ⟨c, tail, hchars, hc⟩ := bracketed_eq_cons hpath
      rw [Node.chars_escaped] at hends
      unfold endsBody at hends
      split at hends
      case h_1 hstart => cases hstart
      case h_2 hstart =>
        rw [hchars] at hstart
        have hslash : c = '/' := (List.cons.inj (List.cons.inj (List.cons.inj hstart).2).2).1
        subst hslash
        exact absurd hc (by decide)
      case h_3 d after hstart =>
        have hword : (Text.bracketed path).toList ++ (args.chars ++ ('\x7d' :: '\x7d' :: rest)) =
            "else".toList ++ d :: after := by
          simpa using hstart
        have hd : EndsRun nameChar (d :: after) := by
          simp only [Bool.or_eq_true, beq_iff_eq] at hends
          rcases hends with rfl | rfl <;> simp [EndsRun, nameChar]
        unfold Text.bracketed at hword
        split at hword
        · simp at hword
        · exact helse (name_readsBack hpath (by decide) (endsRun_of_afterArgument
            (Arguments.afterArgument_chars hargs rfl)) hd hword).1
      case h_4 => cases hends
  | partialTag name args =>
    rw [Node.chars_partialTag] at hends
    cases hends
  | block block =>
    rw [Node.chars_block] at hends
    cases hends
  | _ => simp [Node.isStatement] at hnode

/-! ### Statements and bodies -/

/-- The inside of a block leaves one choice for the block and for the end of it. -/
def Block.ReadsBack (block : Block) : Prop :=
  ∀ (block' : Block) (rest rest' : List Char), block'.isWellFormed → endsChain rest →
    endsChain rest' → block.insideChars ++ rest = block'.insideChars ++ rest' →
    block = block' ∧ rest = rest'

theorem content_readsBack {text text' : String} {rest rest' : List Char}
    (hnode : (Node.content text).isStatement) (hnode' : (Node.content text').isStatement)
    (hafter : afterStatement (.content text) rest)
    (hafter' : afterStatement (.content text') rest')
    (h : (Node.content text).chars ++ rest = (Node.content text').chars ++ rest') :
    text = text' ∧ rest = rest' := by
  have hstop : ∀ rest : List Char, rest.head?.all (· == '\x7b') → EndsRun (· != '\x7b') rest := by
    intro rest hrest c hc
    rw [hc] at hrest
    simpa using hrest
  rw [Node.chars_content, Node.chars_content] at h
  obtain ⟨htext, hrests⟩ := run_readsBack (isStatement_content hnode).1
    (isStatement_content hnode').1 (hstop _ hafter) (hstop _ hafter') h
  exact ⟨String.toList_inj.mp htext, hrests⟩

theorem comment_readsBack {text text' : String} {rest rest' : List Char}
    (hnode : (Node.comment text).isStatement) (hnode' : (Node.comment text').isStatement)
    (h : (Node.comment text).chars ++ rest = (Node.comment text').chars ++ rest') :
    text = text' ∧ rest = rest' := by
  -- The dashes that close a comment belong to the run: only the braces after them end it.
  have hrun : ∀ text : String, (Node.comment text).isStatement →
      (text.toList ++ ['-', '-']).all (· != '\x7d') := by
    intro text htext
    rw [List.all_append, Bool.and_eq_true]
    exact ⟨all_bne_of_not_contains (by simpa [Node.isStatement] using htext), by decide⟩
  have hstop : ∀ tail, EndsRun (· != '\x7d') ('\x7d' :: tail) := by simp [EndsRun]
  rw [Node.chars_comment, Node.chars_comment] at h
  have hruns : (text.toList ++ ['-', '-']) ++ '\x7d' :: '\x7d' :: rest =
      (text'.toList ++ ['-', '-']) ++ '\x7d' :: '\x7d' :: rest' := by
    simpa using h
  obtain ⟨htext, hrests⟩ := run_readsBack (hrun text hnode) (hrun text' hnode') (hstop _)
    (hstop _) hruns
  exact ⟨String.toList_inj.mp (List.append_cancel_right htext), by simpa using hrests⟩

theorem mustache_readsBack {path path' : String} {args args' : Arguments} {escaped escaped' : Bool}
    {rest rest' : List Char} (hnode : (Node.mustache path args escaped).isStatement)
    (hnode' : (Node.mustache path' args' escaped').isStatement)
    (h : (Node.mustache path args escaped).chars ++ rest =
      (Node.mustache path' args' escaped').chars ++ rest') :
    path = path' ∧ args = args' ∧ escaped = escaped' ∧ rest = rest' := by
  obtain ⟨hpath, -, hargs⟩ := isStatement_mustache hnode
  obtain ⟨hpath', -, hargs'⟩ := isStatement_mustache hnode'
  have hbrace : ∀ {path : String} {tail tail' : List Char}, isName path →
      (Text.bracketed path).toList ++ tail ≠ '\x7b' :: tail' := by
    intro path tail tail' hpath h
    obtain ⟨c, name, hchars, hc⟩ := bracketed_eq_cons hpath
    rw [hchars] at h
    obtain ⟨rfl, -⟩ := List.cons.inj h
    exact absurd hc (by decide)
  cases escaped <;> cases escaped' <;>
    simp only [Node.chars_escaped, Node.chars_unescaped, List.cons_append, List.append_assoc,
      List.cons.injEq, true_and, List.nil_append] at h
  · obtain ⟨hsame, hcall, hrests⟩ :=
      bracketed_call_readsBack hpath hpath' hargs hargs' rfl rfl h
    exact ⟨hsame, hcall, rfl, by simpa using hrests⟩
  · exact absurd h.symm (hbrace hpath')
  · exact absurd h (hbrace hpath)
  · obtain ⟨hsame, hcall, hrests⟩ :=
      bracketed_call_readsBack hpath hpath' hargs hargs' rfl rfl h
    exact ⟨hsame, hcall, rfl, by simpa using hrests⟩

theorem partialTag_readsBack {name name' : PartialName} {args args' : Arguments}
    {rest rest' : List Char} (hnode : (Node.partialTag name args).isStatement)
    (hnode' : (Node.partialTag name' args').isStatement)
    (h : (Node.partialTag name args).chars ++ rest =
      (Node.partialTag name' args').chars ++ rest') :
    name = name' ∧ args = args' ∧ rest = rest' := by
  obtain ⟨hname, hargs⟩ := isStatement_partialTag hnode
  obtain ⟨hname', hargs'⟩ := isStatement_partialTag hnode'
  simp only [Node.chars_partialTag, List.cons_append, List.append_assoc, List.cons.injEq,
    true_and, List.nil_append] at h
  obtain ⟨hsame, htails⟩ := PartialName.readsBack hname hname'
    (Arguments.afterArgument_chars hargs rfl) (Arguments.afterArgument_chars hargs' rfl) h
  obtain ⟨hcall, hrests⟩ := Arguments.readsBack hargs hargs' rfl rfl htails
  exact ⟨hsame, hcall, by simpa using hrests⟩

/-- A statement reads back when it is no block, or a block whose inside does. -/
theorem Node.statement_readsBack {node node' : Node} {rest rest' : List Char}
    (hnode : node.isStatement) (hnode' : node'.isStatement) (hafter : afterStatement node rest)
    (hafter' : afterStatement node' rest') (hblock : ∀ block, node = .block block → block.ReadsBack)
    (h : node.chars ++ rest = node'.chars ++ rest') : node = node' ∧ rest = rest' := by
  have hkind : node.kind? = node'.kind? := by
    rw [← openingKind_chars hnode rest, h, openingKind_chars hnode' rest']
  cases node with
  | content text =>
    cases node' with
    | content text' =>
      obtain ⟨rfl, rfl⟩ := content_readsBack hnode hnode' hafter hafter' h
      exact ⟨rfl, rfl⟩
    | _ => cases hkind
  | comment text =>
    cases node' with
    | comment text' =>
      obtain ⟨rfl, rfl⟩ := comment_readsBack hnode hnode' h
      exact ⟨rfl, rfl⟩
    | _ => cases hkind
  | mustache path args escaped =>
    cases node' with
    | mustache path' args' escaped' =>
      obtain ⟨rfl, rfl, rfl, rfl⟩ := mustache_readsBack hnode hnode' h
      exact ⟨rfl, rfl⟩
    | _ => cases hkind
  | partialTag name args =>
    cases node' with
    | partialTag name' args' =>
      obtain ⟨rfl, rfl, rfl⟩ := partialTag_readsBack hnode hnode' h
      exact ⟨rfl, rfl⟩
    | _ => cases hkind
  | block block =>
    cases node' with
    | block block' =>
      have hwell : block'.isWellFormed := by rwa [Node.isStatement] at hnode'
      simp only [Node.chars_block, List.cons_append, List.append_assoc, List.cons.injEq, true_and,
        List.nil_append] at h
      obtain ⟨rfl, hrests⟩ := hblock block rfl block' _ _ hwell rfl rfl h
      exact ⟨rfl, by simpa using hrests⟩
    | _ => cases hkind
  | _ => simp [Node.isStatement] at hnode

theorem isBody_cons {node : Node} {rest : List Node} (hbody : isBody (node :: rest)) :
    node.isStatement ∧ isBody rest ∧ (node.isContent → startsWith Node.isContent rest = false) := by
  simp only [isBody, Bool.and_eq_true, Bool.not_eq_true', Bool.and_eq_false_iff] at hbody
  refine ⟨hbody.1.1, hbody.1.2, fun hcontent => ?_⟩
  simpa [hcontent] using hbody.2

private theorem head_of_openingKind_ne {chars : List Char}
    (hkind : openingKind chars ≠ some .content) : chars.head?.all (· == '\x7b') := by
  cases chars with
  | nil => rfl
  | cons c tail =>
    by_cases hc : c = '\x7b'
    · simp [hc]
    · exact absurd (by simp [openingKind, hc]) hkind

/-- In a body, content ends where the next statement or the end of the body opens a tag. -/
theorem afterStatement_bodyChars {node : Node} {body : List Node} {rest : List Char}
    (hbody : isBody (node :: body)) (hrest : endsBody rest) :
    afterStatement node (bodyChars body ++ rest) := by
  obtain ⟨-, htail, hnext⟩ := isBody_cons hbody
  cases node with
  | content text =>
    cases body with
    | nil =>
      show rest.head?.all (· == '\x7b')
      unfold endsBody at hrest
      split at hrest <;> simp_all
    | cons next body =>
      have htag : next.isContent = false := hnext rfl
      rw [bodyChars_cons, List.append_assoc]
      refine head_of_openingKind_ne ?_
      rw [openingKind_chars (isBody_cons htail).1]
      intro hkind
      cases next <;> cases hkind
      cases htag
  | _ => rfl

/-- A body reads back when the blocks in it do. -/
theorem body_readsBack {body body' : List Node} {rest rest' : List Char} (hbody : isBody body)
    (hbody' : isBody body') (hblocks : ∀ block, Node.block block ∈ body → block.ReadsBack)
    (hrest : endsBody rest) (hrest' : endsBody rest')
    (h : bodyChars body ++ rest = bodyChars body' ++ rest') : body = body' ∧ rest = rest' := by
  induction body generalizing body' with
  | nil =>
    cases body' with
    | nil => exact ⟨rfl, h⟩
    | cons node' body' =>
      have hstart : rest = node'.chars ++ (bodyChars body' ++ rest') := by
        rw [← List.append_assoc, ← bodyChars_cons]
        exact h
      rw [hstart] at hrest
      exact absurd hrest (not_endsBody_of_statement (isBody_cons hbody').1 _)
  | cons node body ih =>
    cases body' with
    | nil =>
      have hstart : rest' = node.chars ++ (bodyChars body ++ rest) := by
        rw [← List.append_assoc, ← bodyChars_cons]
        exact h.symm
      rw [hstart] at hrest'
      exact absurd hrest' (not_endsBody_of_statement (isBody_cons hbody).1 _)
    | cons node' body' =>
      rw [bodyChars_cons, bodyChars_cons, List.append_assoc, List.append_assoc] at h
      obtain ⟨rfl, hrests⟩ := Node.statement_readsBack (isBody_cons hbody).1 (isBody_cons hbody').1
        (afterStatement_bodyChars hbody hrest) (afterStatement_bodyChars hbody' hrest')
        (fun block hblock => hblocks block (hblock ▸ List.mem_cons_self)) h
      obtain ⟨rfl, rfl⟩ := ih (isBody_cons hbody).2.1 (isBody_cons hbody').2.1
        (fun block hblock => hblocks block (List.mem_cons_of_mem _ hblock)) hrests
      exact ⟨rfl, rfl⟩

/-! ### Blocks -/

theorem clause_readsBack {path path' : String} {args args' : Arguments} {main main' : Program}
    {rest rest' : List Char} (hpath : isName path) (hpath' : isName path')
    (hargs : args.isWellFormed) (hargs' : args'.isWellFormed)
    (hnames : areBlockParams main.blockParams) (hnames' : areBlockParams main'.blockParams)
    (hbody : isBody main.body) (hbody' : isBody main'.body)
    (hblocks : ∀ block, Node.block block ∈ main.body → block.ReadsBack)
    (hrest : endsBody rest) (hrest' : endsBody rest')
    (h : clauseChars path args main ++ rest = clauseChars path' args' main' ++ rest') :
    path = path' ∧ args = args' ∧ main = main' ∧ rest = rest' := by
  simp only [clauseChars_eq, List.append_assoc, List.cons_append] at h
  obtain ⟨hsame, hcall, htails⟩ := call_readsBack hpath hpath' hargs hargs'
    (endsArguments_blockParams hnames _) (endsArguments_blockParams hnames' _) h
  obtain ⟨hparams, hbodies⟩ := blockParams_readsBack hnames hnames' htails
  obtain ⟨hstatements, hrests⟩ := body_readsBack hbody hbody' hblocks hrest hrest'
    (List.cons.inj hbodies).2
  obtain ⟨body, names⟩ := main
  obtain ⟨body', names'⟩ := main'
  refine ⟨hsame, hcall, ?_, hrests⟩
  rw [show body = body' from hstatements, show names = names' from hparams]

/-- An inverse program is a clause of the chain or the last branch. -/
theorem isInverse_cases {inverse : Option Program} (hinverse : isInverse inverse) :
    inverse = none ∨ (∃ block, inverse = some ⟨[.block block], none⟩ ∧ block.isWellFormed) ∨
      ∃ body, inverse = some ⟨body, none⟩ ∧ isBody body ∧ startsWith Node.isBlock body = false := by
  match inverse with
  | none => exact .inl rfl
  | some ⟨body, names⟩ =>
    simp only [isInverse, Bool.and_eq_true, Bool.or_eq_true, Bool.not_eq_true',
      Option.isNone_iff_eq_none, beq_iff_eq] at hinverse
    obtain ⟨⟨rfl, hbody⟩, hshape⟩ := hinverse
    by_cases hfirst : startsWith Node.isBlock body = false
    · exact .inr (.inr ⟨body, rfl, hbody, hfirst⟩)
    · match body with
      | [] => exact absurd rfl hfirst
      | node :: rest =>
        have hrest : rest = [] := by simpa [hfirst] using hshape
        subst hrest
        have hnode := (isBody_cons hbody).1
        cases node with
        | block block =>
          rw [Node.isStatement] at hnode
          exact .inr (.inl ⟨block, rfl, hnode⟩)
        | _ => exact absurd rfl hfirst

theorem endsBody_elseChars {inverse : Option Program} {rest : List Char}
    (hinverse : isInverse inverse) (hrest : endsChain rest) :
    endsBody (elseChars inverse ++ rest) := by
  obtain rfl | ⟨block, rfl, -⟩ | ⟨body, rfl, -, hfirst⟩ := isInverse_cases hinverse
  · exact endsBody_of_endsChain hrest
  · rw [elseChars_chained]
    rfl
  · rw [elseChars_final hfirst]
    rfl

/-- An else chain reads back when the blocks in its first program do. -/
theorem else_readsBack {inverse inverse' : Option Program} {rest rest' : List Char}
    (hinverse : isInverse inverse) (hinverse' : isInverse inverse')
    (hblocks : ∀ program ∈ inverse, ∀ block, Node.block block ∈ program.body → block.ReadsBack)
    (hrest : endsChain rest) (hrest' : endsChain rest')
    (h : elseChars inverse ++ rest = elseChars inverse' ++ rest') :
    inverse = inverse' ∧ rest = rest' := by
  have hend : ∀ {rest tail : List Char}, endsChain rest → rest ≠ '\x7b' :: '\x7b' :: 'e' :: tail := by
    rintro rest tail hrest rfl
    cases hrest
  obtain rfl | ⟨block, rfl, hblock⟩ | ⟨body, rfl, hbody, hfirst⟩ := isInverse_cases hinverse
  · obtain rfl | ⟨block', rfl, -⟩ | ⟨body', rfl, -, hfirst'⟩ := isInverse_cases hinverse'
    · exact ⟨rfl, h⟩
    · rw [elseChars_chained] at h
      exact absurd h (hend hrest)
    · rw [elseChars_final hfirst'] at h
      exact absurd h (hend hrest)
  · rw [elseChars_chained] at h
    obtain rfl | ⟨block', rfl, hblock'⟩ | ⟨body', rfl, -, hfirst'⟩ := isInverse_cases hinverse'
    · exact absurd h.symm (hend hrest')
    · simp only [elseChars_chained, List.cons_append, List.cons.injEq, true_and] at h
      obtain ⟨rfl, rfl⟩ := hblocks _ rfl block List.mem_cons_self block' _ _ hblock' hrest hrest' h
      exact ⟨rfl, rfl⟩
    · rw [elseChars_final hfirst'] at h
      simp at h
  · rw [elseChars_final hfirst] at h
    obtain rfl | ⟨block', rfl, -⟩ | ⟨body', rfl, hbody', hfirst'⟩ := isInverse_cases hinverse'
    · exact absurd h.symm (hend hrest')
    · rw [elseChars_chained] at h
      simp at h
    · simp only [elseChars_final hfirst', List.cons_append, List.cons.injEq, true_and] at h
      obtain ⟨rfl, rfl⟩ := body_readsBack hbody hbody' (hblocks _ rfl)
        (endsBody_of_endsChain hrest) (endsBody_of_endsChain hrest') h
      exact ⟨rfl, rfl⟩

/-- A block reads back when the blocks in its two bodies do. -/
theorem Block.readsBack_of_bodies {block : Block} (hblock : block.isWellFormed)
    (hmain : ∀ inner, Node.block inner ∈ block.main.body → inner.ReadsBack)
    (hinverse : ∀ program ∈ block.inverse, ∀ inner, Node.block inner ∈ program.body →
      inner.ReadsBack) : block.ReadsBack := by
  have hparts : ∀ {block : Block}, block.isWellFormed →
      isName block.path ∧ block.args.isWellFormed ∧ areBlockParams block.main.blockParams ∧
        isBody block.main.body ∧ isInverse block.inverse := by
    rintro ⟨path, args, ⟨body, names⟩, inverse⟩ hblock
    simpa [Block.isWellFormed, and_assoc] using hblock
  intro block' rest rest' hblock' hrest hrest' h
  obtain ⟨hpath, hargs, hnames, hbody, hchain⟩ := hparts hblock
  obtain ⟨hpath', hargs', hnames', hbody', hchain'⟩ := hparts hblock'
  simp only [Block.insideChars_eq, List.append_assoc] at h
  obtain ⟨hsame, hcall, hprogram, htails⟩ := clause_readsBack hpath hpath' hargs hargs' hnames
    hnames' hbody hbody' hmain (endsBody_elseChars hchain hrest)
    (endsBody_elseChars hchain' hrest') h
  obtain ⟨hbranch, hrests⟩ := else_readsBack hchain hchain' hinverse hrest hrest' htails
  obtain ⟨path, args, main, inverse⟩ := block
  obtain ⟨path', args', main', inverse'⟩ := block'
  simp only at hsame hcall hprogram hbranch
  exact ⟨by rw [hsame, hcall, hprogram, hbranch], hrests⟩

mutual

/-- Every block reads back, by recursion on the blocks inside it. -/
theorem Block.readsBack (block : Block) (hblock : block.isWellFormed) : block.ReadsBack := by
  match block with
  | ⟨path, args, ⟨body, names⟩, none⟩ =>
    simp only [Block.isWellFormed, Bool.and_eq_true] at hblock
    refine Block.readsBack_of_bodies (by simpa [Block.isWellFormed] using hblock)
      (blocks_readBack body hblock.1.2) ?_
    simp
  | ⟨path, args, ⟨body, names⟩, some ⟨body', names'⟩⟩ =>
    simp only [Block.isWellFormed, isInverse, Bool.and_eq_true] at hblock
    refine Block.readsBack_of_bodies (by simpa [Block.isWellFormed, isInverse] using hblock)
      (blocks_readBack body hblock.1.2) ?_
    rintro program ⟨⟩
    exact blocks_readBack body' hblock.2.1.2

theorem blocks_readBack (body : List Node) (hbody : isBody body) :
    ∀ block, Node.block block ∈ body → block.ReadsBack := by
  match body with
  | [] => simp
  | node :: rest =>
    have hrest := blocks_readBack rest (isBody_cons hbody).2.1
    have hnode := (isBody_cons hbody).1
    intro other hother
    rcases List.mem_cons.mp hother with hother | hother
    · match node with
      | .block block =>
        rw [Node.isStatement] at hnode
        rw [show other = block from Node.block.inj hother]
        exact block.readsBack hnode
    · exact hrest other hother

end

end TemplatePrinter
