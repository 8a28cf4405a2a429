import TemplatePrinter.Proofs.Grammar.Basic
/-!
# Reading expressions back

Text is read from left to right: what was written first is settled first, and the rest of the text
is settled after it. A part of a tree reads back when its characters, followed by a rest, leave
only one choice for the part and for the rest, among all parts of its category. The rest must not
go on where the part ends, so each category comes with the rests that may follow it.

This module does so for arguments. `Node.readsBack` is the statement for expressions, by recursion
on the expression, and `Arguments.readsBack` the one for the arguments of a call.
-/

namespace TemplatePrinter

/-! ### Runs of characters -/

/-- A run of the given characters ends where the rest starts. -/
def EndsRun (inRun : Char → Bool) (rest : List Char) : Prop :=
  ∀ c ∈ rest.head?, inRun c = false

/-- A run that has ended reads back. -/
theorem run_readsBack {inRun : Char → Bool} {run run' rest rest' : List Char}
    (hrun : run.all inRun) (hrun' : run'.all inRun) (hrest : EndsRun inRun rest)
    (hrest' : EndsRun inRun rest') (h : run ++ rest = run' ++ rest') :
    run = run' ∧ rest = rest' := by
  induction run generalizing run' with
  | nil =>
    cases run' with
    | nil => exact ⟨rfl, h⟩
    | cons c run' =>
      have hstop : inRun c = false := hrest c (by rw [← List.nil_append rest, h]; rfl)
      simp [hstop] at hrun'
  | cons c run ih =>
    cases run' with
    | nil =>
      have hstop : inRun c = false := hrest' c (by rw [← List.nil_append rest', ← h]; rfl)
      simp [hstop] at hrun
    | cons c' run' =>
      simp only [List.cons_append, List.cons.injEq] at h
      simp only [List.all_cons, Bool.and_eq_true] at hrun hrun'
      obtain ⟨rfl, rfl⟩ := ih hrun.2 hrun'.2 h.2
      exact ⟨by rw [h.1], rfl⟩

/-- A text without a character is a run up to that character. -/
theorem all_bne_of_not_contains {stop : Char} {chars : List Char} (h : !chars.contains stop) :
    chars.all (· != stop) := by
  refine List.all_eq_true.mpr fun c hc => bne_iff_ne.mpr ?_
  rintro rfl
  simp [hc] at h

theorem isName_chars {text : String} (hname : isName text) :
    text.toList.all nameChar ∧ ∃ c rest, text.toList = c :: rest ∧ nameChar c ∧ c ≠ '/' := by
  simp only [isName, Bool.and_eq_true, bne_iff_ne, ne_eq] at hname
  obtain ⟨⟨hne, hall⟩, hslash⟩ := hname
  refine ⟨hall, ?_⟩
  cases hchars : text.toList with
  | nil => exact absurd (String.toList_eq_nil_iff.mp hchars) hne
  | cons c rest =>
    rw [hchars] at hall hslash
    simp only [List.all_cons, Bool.and_eq_true] at hall
    exact ⟨c, rest, rfl, hall.1, by simpa using hslash⟩

/-- Names that are followed by no character of a name read back. -/
theorem name_readsBack {name name' : String} {rest rest' : List Char} (hname : isName name)
    (hname' : isName name') (hrest : EndsRun nameChar rest) (hrest' : EndsRun nameChar rest')
    (h : name.toList ++ rest = name'.toList ++ rest') : name = name' ∧ rest = rest' := by
  obtain ⟨hchars, hrests⟩ :=
    run_readsBack (isName_chars hname).1 (isName_chars hname').1 hrest hrest' h
  exact ⟨String.toList_inj.mp hchars, hrests⟩

/-! ### What follows an argument -/

/-- What may follow an argument: the end of its tag or call, or a space and something other than
the names that a block binds. -/
def afterArgument : List Char → Bool
  | ')' :: _ | '\x7d' :: _ => true
  | ' ' :: c :: _ => c != '|'
  | _ => false

/-- What may follow the last argument: the end of a call, a tag or a partial tag, or the names that
a block binds. -/
def endsArguments : List Char → Bool
  | ')' :: _ | '\x7d' :: _ | ' ' :: '\x7d' :: _ | ' ' :: 'a' :: 's' :: ' ' :: '|' :: _ => true
  | _ => false

theorem endsRun_of_afterArgument {rest : List Char} (hrest : afterArgument rest) :
    EndsRun nameChar rest := by
  intro c hc
  unfold afterArgument at hrest
  split at hrest <;> simp_all <;> subst hc <;> decide

theorem afterArgument_of_endsArguments {rest : List Char} (hrest : endsArguments rest) :
    afterArgument rest := by
  unfold endsArguments at hrest
  split at hrest <;> simp_all [afterArgument]

/-! ### The three shapes of an expression -/

/-- The characters of a node that no rule changes. -/
def Node.chars (node : Node) : List Char :=
  (node.text none).toList

def Arguments.chars (args : Arguments) : List Char :=
  (args.text none).toList

/-- The word that an expression consists of, if neither quotes nor parentheses delimit it. -/
def Node.word? : Node → Option String
  | .path text => some text
  | .boolean value => some (boolText value)
  | .undefined => some "undefined"
  | .null => some "null"
  | _ => none

section Shapes

attribute [local simp] Node.isExpression Node.word?

theorem Node.expression_cases {node : Node} (hnode : node.isExpression) :
    (∃ word, node.word? = some word) ∨ (∃ value, node = .string value) ∨
      ∃ callee args, node = .sub callee args := by
  cases node <;> simp_all

theorem Node.chars_of_word? {node : Node} {word : String} (hword : node.word? = some word) :
    node.chars = word.toList := by
  cases node <;> simp_all [Node.chars]

theorem Node.isName_of_word? {node : Node} {word : String} (hnode : node.isExpression)
    (hword : node.word? = some word) : isName word := by
  cases node with
  | path text =>
    cases hword
    simp only [Node.isExpression, Bool.and_eq_true] at hnode
    exact hnode.1
  | boolean value =>
    cases hword
    cases value <;> decide
  | undefined | null =>
    cases hword
    decide
  | _ => simp at hword

end Shapes

/-- The expression that a word stands for. -/
def Node.ofWord (word : String) : Node :=
  if word = "true" then .boolean true
  else if word = "false" then .boolean false
  else if word = "undefined" then .undefined
  else if word = "null" then .null
  else .path word

theorem Node.eq_ofWord {node : Node} {word : String} (hnode : node.isExpression)
    (hword : node.word? = some word) : node = .ofWord word := by
  cases node with
  | path text =>
    cases hword
    simp only [Node.isExpression, literalWords, Bool.and_eq_true, List.contains_cons,
      List.contains_nil, Bool.or_false, Bool.not_eq_true', Bool.or_eq_false_iff,
      beq_eq_false_iff_ne] at hnode
    obtain ⟨-, htrue, hfalse, hundefined, hnull⟩ := hnode
    rw [Node.ofWord, if_neg htrue, if_neg hfalse, if_neg hundefined, if_neg hnull]
  | boolean value =>
    cases hword
    cases value <;> rfl
  | undefined | null =>
    cases hword
    rfl
  | _ => simp [Node.word?] at hword

theorem Node.chars_string (value : String) :
    (Node.string value).chars = '\x27' :: (value.toList ++ ['\x27']) := by
  simp [Node.chars, Text.quoteSingle]

theorem pairsText_literal {pairs : List Pair} (hpairs : pairs.all Pair.isLiteral) :
    pairsText (fun value => Text.quoteSingle value.rawValue) pairs =
      pairsText (fun value => value.text none) pairs := by
  have htexts : pairs.map (fun pair => pair.key ++ "=" ++ Text.quoteSingle pair.value.rawValue) =
      pairs.map fun pair => pair.key ++ "=" ++ pair.value.text none := by
    refine List.map_congr_left fun pair hpair => ?_
    have hliteral := List.all_eq_true.mp hpairs pair hpair
    obtain ⟨key, value⟩ := pair
    cases value with
    | string value => simp [Node.rawValue]
    | _ => simp [Pair.isLiteral] at hliteral
  rw [pairsText, pairsText, htexts]

/-- A call in an expression writes its arguments as a statement would. -/
theorem Node.chars_sub {callee : String} {args : Arguments}
    (hnode : (Node.sub callee args).isExpression) :
    (Node.sub callee args).chars = '(' :: (callee.toList ++ (args.chars ++ [')'])) := by
  obtain ⟨params, hash⟩ := args
  have hliteral : (Arguments.pairs ⟨params, hash⟩).all Pair.isLiteral := by
    cases hash with
    | none => rfl
    | some pairs => simp_all [Node.isExpression, Arguments.pairs]
  rw [Node.chars, Node.text_sub, pairsText_literal hliteral, Arguments.chars, Arguments.text_eq]
  simp [paramsText_untargeted]

/-! ### Arguments in a row -/

/-- One argument of a statement, by position or by name. -/
inductive Argument where
  | byPosition (node : Node)
  | byName (pair : Pair)

namespace Argument

def isWellFormed : Argument → Bool
  | .byPosition node => node.isExpression
  | .byName pair => pair.isWellFormed

def text : Argument → String
  | .byPosition node => node.text none
  | .byName pair => pair.key ++ "=" ++ pair.value.text none

def chars (item : Argument) : List Char :=
  item.text.toList

theorem chars_byName (pair : Pair) :
    (Argument.byName pair).chars = pair.key.toList ++ '=' :: pair.value.chars := by
  simp [chars, text, Node.chars]

end Argument

/-- Arguments one after the other, each after a space. -/
def rowChars (items : List Argument) : List Char :=
  items.flatMap fun item => ' ' :: item.chars

/-- The arguments of a statement in the order in which they are written. -/
def Arguments.items (args : Arguments) : List Argument :=
  args.params.map .byPosition ++ args.pairs.map .byName

/-- The characters an argument may start with. -/
def startsArgument (c : Char) : Bool :=
  nameChar c || c == '\x27' || c == '('

theorem Node.chars_eq_cons {node : Node} (hnode : node.isExpression) :
    ∃ c tail, node.chars = c :: tail ∧ startsArgument c := by
  obtain ⟨word, hword⟩ | ⟨value, rfl⟩ | ⟨callee, args, rfl⟩ := Node.expression_cases hnode
  · obtain ⟨-, c, tail, hchars, hc, -⟩ := isName_chars (Node.isName_of_word? hnode hword)
    exact ⟨c, tail, by rw [Node.chars_of_word? hword, hchars], by simp [startsArgument, hc]⟩
  · exact ⟨_, _, Node.chars_string value, by decide⟩
  · exact ⟨_, _, Node.chars_sub hnode, by decide⟩

theorem Argument.chars_eq_cons {item : Argument} (hitem : item.isWellFormed) :
    ∃ c tail, item.chars = c :: tail ∧ startsArgument c := by
  cases item with
  | byPosition node => exact Node.chars_eq_cons hitem
  | byName pair =>
    simp only [Argument.isWellFormed, Pair.isWellFormed, Bool.and_eq_true] at hitem
    obtain ⟨-, c, tail, hchars, hc, -⟩ := isName_chars hitem.1
    exact ⟨c, _, by rw [Argument.chars_byName, hchars, List.cons_append], by
      simp [startsArgument, hc]⟩

theorem Arguments.items_isWellFormed {args : Arguments} (hargs : args.isWellFormed) :
    ∀ item ∈ args.items, item.isWellFormed := by
  obtain ⟨params, hash⟩ := args
  simp only [Arguments.isWellFormed, Bool.and_eq_true] at hargs
  have hparams : ∀ nodes, areExpressions nodes → ∀ node ∈ nodes, node.isExpression := by
    intro nodes hnodes
    induction nodes with
    | nil => simp
    | cons node rest ih =>
      simp only [areExpressions, Bool.and_eq_true] at hnodes
      simpa [hnodes.1] using ih hnodes.2
  intro item hitem
  rcases List.mem_append.mp hitem with hitem | hitem
  · obtain ⟨node, hnode, rfl⟩ := List.mem_map.mp hitem
    exact hparams params hargs.1 node hnode
  · obtain ⟨pair, hpair, rfl⟩ := List.mem_map.mp hitem
    cases hash with
    | none => simp [Arguments.pairs] at hpair
    | some pairs =>
      simp only [Option.all_some, Bool.and_eq_true] at hargs
      exact List.all_eq_true.mp hargs.2.2 pair hpair

private theorem filterMap_items (args : Arguments) :
    (args.items.filterMap fun | .byPosition node => some node | .byName _ => none) = args.params ∧
      (args.items.filterMap fun | .byPosition _ => none | .byName pair => some pair) =
        args.pairs := by
  have hnone : ∀ {α β : Type} (xs : List α), xs.filterMap (fun _ => (none : Option β)) = [] :=
    fun xs => List.filterMap_eq_nil_iff.mpr fun _ _ => rfl
  constructor
  · rw [Arguments.items, List.filterMap_append, List.filterMap_map, List.filterMap_map]
    show args.params.filterMap some ++ args.pairs.filterMap (fun _ => none) = args.params
    rw [List.filterMap_some, hnone, List.append_nil]
  · rw [Arguments.items, List.filterMap_append, List.filterMap_map, List.filterMap_map]
    show args.params.filterMap (fun _ => none) ++ args.pairs.filterMap some = args.pairs
    rw [List.filterMap_some, hnone, List.nil_append]

/-- Since no list of pairs is empty, the arguments can be told from their row. -/
theorem Arguments.eq_of_items_eq {args args' : Arguments} (hargs : args.isWellFormed)
    (hargs' : args'.isWellFormed) (h : args.items = args'.items) : args = args' := by
  have hparams : args.params = args'.params := by
    rw [← (filterMap_items args).1, ← (filterMap_items args').1, h]
  have hpairs : args.pairs = args'.pairs := by
    rw [← (filterMap_items args).2, ← (filterMap_items args').2, h]
  obtain ⟨params, hash⟩ := args
  obtain ⟨params', hash'⟩ := args'
  cases hash <;> cases hash' <;> simp_all [Arguments.pairs, Arguments.isWellFormed]

theorem toList_intercalate_cons (first : String) (rest : List String) :
    (" ".intercalate (first :: rest)).toList =
      first.toList ++ rest.flatMap fun text => ' ' :: text.toList := by
  induction rest generalizing first with
  | nil => simp
  | cons next rest ih => simp [String.intercalate_cons_cons, ih next]

private theorem toList_afterSpace {texts : List String} (htexts : ∀ text ∈ texts, text ≠ "") :
    (Text.afterSpace (" ".intercalate texts)).toList =
      texts.flatMap fun text => ' ' :: text.toList := by
  cases texts with
  | nil => rfl
  | cons first rest =>
    have hne : " ".intercalate (first :: rest) ≠ "" := by
      intro hempty
      have hchars := toList_intercalate_cons first rest
      rw [hempty] at hchars
      have hfirst := (List.append_eq_nil_iff.mp hchars.symm).1
      exact htexts first List.mem_cons_self (String.toList_eq_nil_iff.mp hfirst)
    rw [Text.afterSpace, if_neg hne, String.toList_append, toList_intercalate_cons]
    rfl

theorem Arguments.chars_eq {args : Arguments} (hargs : args.isWellFormed) :
    args.chars = rowChars args.items := by
  have hne : ∀ item ∈ args.items, item.text ≠ "" := by
    intro item hitem hempty
    obtain ⟨c, tail, hchars, -⟩ := Argument.chars_eq_cons (items_isWellFormed hargs item hitem)
    simp [Argument.chars, hempty] at hchars
  rw [Arguments.chars, Arguments.text_eq, paramsText_uncalled, pairsText, String.toList_append,
    toList_afterSpace, toList_afterSpace, rowChars, Arguments.items, List.flatMap_append]
  · simp [List.flatMap_map, Argument.chars, Argument.text]
  · intro text htext
    obtain ⟨pair, hpair, rfl⟩ := List.mem_map.mp htext
    exact hne (.byName pair) (List.mem_append_right _ (List.mem_map_of_mem hpair))
  · intro text htext
    obtain ⟨node, hnode, rfl⟩ := List.mem_map.mp htext
    exact hne (.byPosition node) (List.mem_append_left _ (List.mem_map_of_mem hnode))

/-! ### Reading arguments back -/

/-- The characters of an expression leave one choice for it and for what follows it. -/
def Node.ReadsBack (node : Node) : Prop :=
  ∀ (node' : Node) (rest rest' : List Char), node'.isExpression → afterArgument rest →
    afterArgument rest' → node.chars ++ rest = node'.chars ++ rest' → node = node' ∧ rest = rest'

def Argument.ReadsBack (item : Argument) : Prop :=
  ∀ (item' : Argument) (rest rest' : List Char), item'.isWellFormed → afterArgument rest →
    afterArgument rest' → item.chars ++ rest = item'.chars ++ rest' → item = item' ∧ rest = rest'

/-- An expression that starts like a name is that name. -/
theorem Node.rest_eq_of_chars_eq_name {node : Node} {name : String} {rest rest' : List Char}
    (hnode : node.isExpression) (hname : isName name) (hrest : afterArgument rest)
    (hrest' : EndsRun nameChar rest') (h : node.chars ++ rest = name.toList ++ rest') :
    node.word? = some name ∧ rest = rest' := by
  obtain ⟨-, c, tail, hchars, hc, -⟩ := isName_chars hname
  obtain ⟨word, hword⟩ | ⟨value, rfl⟩ | ⟨callee, args, rfl⟩ := Node.expression_cases hnode
  · rw [Node.chars_of_word? hword] at h
    obtain ⟨rfl, rfl⟩ := name_readsBack (Node.isName_of_word? hnode hword) hname
      (endsRun_of_afterArgument hrest) hrest' h
    exact ⟨hword, rfl⟩
  · rw [Node.chars_string, hchars] at h
    obtain ⟨rfl, -⟩ := List.cons.inj h
    exact absurd hc (by decide)
  · rw [Node.chars_sub hnode, hchars] at h
    obtain ⟨rfl, -⟩ := List.cons.inj h
    exact absurd hc (by decide)

theorem Argument.readsBack_byPosition {node : Node} (hnode : node.isExpression)
    (hreads : node.ReadsBack) : (Argument.byPosition node).ReadsBack := by
  intro item' rest rest' hitem' hrest hrest' h
  cases item' with
  | byPosition node' =>
    obtain ⟨rfl, rfl⟩ := hreads node' rest rest' hitem' hrest hrest' h
    exact ⟨rfl, rfl⟩
  | byName pair =>
    simp only [Argument.isWellFormed, Pair.isWellFormed, Bool.and_eq_true] at hitem'
    rw [Argument.chars_byName, List.append_assoc] at h
    have hrests := (Node.rest_eq_of_chars_eq_name hnode hitem'.1 hrest
      (by simp [EndsRun, nameChar]) h).2
    rw [hrests] at hrest
    exact absurd hrest (by simp [afterArgument])

theorem Argument.readsBack_byName {pair : Pair} (hpair : pair.isWellFormed)
    (hreads : pair.value.ReadsBack) : (Argument.byName pair).ReadsBack := by
  intro item' rest rest' hitem' hrest hrest' h
  simp only [Pair.isWellFormed, Bool.and_eq_true] at hpair
  have hequals : ∀ tail, EndsRun nameChar ('=' :: tail) := by simp [EndsRun, nameChar]
  rw [Argument.chars_byName, List.append_assoc] at h
  cases item' with
  | byPosition node =>
    have hrests := (Node.rest_eq_of_chars_eq_name hitem' hpair.1 hrest' (hequals _) h.symm).2
    rw [hrests] at hrest'
    exact absurd hrest' (by simp [afterArgument])
  | byName pair' =>
    simp only [Argument.isWellFormed, Pair.isWellFormed, Bool.and_eq_true] at hitem'
    rw [Argument.chars_byName, List.append_assoc] at h
    obtain ⟨hkey, hvalues⟩ := name_readsBack hpair.1 hitem'.1 (hequals _) (hequals _) h
    obtain ⟨hvalue, hrests⟩ :=
      hreads pair'.value rest rest' hitem'.2 hrest hrest' (List.cons.inj hvalues).2
    obtain ⟨key, value⟩ := pair
    obtain ⟨key', value'⟩ := pair'
    exact ⟨by rw [show key = key' from hkey, show value = value' from hvalue], hrests⟩

theorem afterArgument_rowChars {items : List Argument} {rest : List Char}
    (hitems : ∀ item ∈ items, item.isWellFormed) (hrest : endsArguments rest) :
    afterArgument (rowChars items ++ rest) := by
  cases items with
  | nil => exact afterArgument_of_endsArguments hrest
  | cons item items =>
    obtain ⟨c, tail, hchars, hc⟩ := Argument.chars_eq_cons (hitems item List.mem_cons_self)
    have hbar : c ≠ '|' := by
      rintro rfl
      exact absurd hc (by decide)
    simp [rowChars, hchars, afterArgument, hbar]

/-- No argument stands where the arguments have ended. The names that a block binds look like the
word `as` at first, and then go on as no argument does. -/
theorem not_endsArguments_of_argument {item : Argument} {rest : List Char}
    (hitem : item.isWellFormed) (hrest : afterArgument rest) :
    ¬ endsArguments (' ' :: (item.chars ++ rest)) := by
  intro hends
  obtain ⟨c, tail, hchars, hc⟩ := Argument.chars_eq_cons hitem
  have hbar : ∀ tail, EndsRun nameChar (' ' :: '|' :: tail) := by simp [EndsRun, nameChar]
  unfold endsArguments at hends
  split at hends
  case h_1 hstart => simp at hstart
  case h_2 hstart => simp at hstart
  case h_3 hstart =>
    rw [hchars] at hstart
    obtain ⟨rfl, -⟩ := List.cons.inj (List.cons.inj hstart).2
    exact absurd hc (by decide)
  case h_4 names hstart =>
    have hword : item.chars ++ rest = "as".toList ++ ' ' :: '|' :: names :=
      (List.cons.inj hstart).2
    cases item with
    | byPosition node =>
      have hrests := (Node.rest_eq_of_chars_eq_name hitem (by decide) hrest (hbar _) hword).2
      rw [hrests] at hrest
      exact absurd hrest (by simp [afterArgument])
    | byName pair =>
      simp only [Argument.isWellFormed, Pair.isWellFormed, Bool.and_eq_true] at hitem
      rw [Argument.chars_byName, List.append_assoc] at hword
      have hrests := (name_readsBack hitem.1 (by decide) (by simp [EndsRun, nameChar])
        (hbar _) hword).2
      simp at hrests
  case h_5 => simp at hends

theorem row_readsBack {items items' : List Argument} {rest rest' : List Char}
    (hitems : ∀ item ∈ items, item.isWellFormed) (hitems' : ∀ item ∈ items', item.isWellFormed)
    (hreads : ∀ item ∈ items, item.ReadsBack) (hrest : endsArguments rest)
    (hrest' : endsArguments rest') (h : rowChars items ++ rest = rowChars items' ++ rest') :
    items = items' ∧ rest = rest' := by
  induction items generalizing items' with
  | nil =>
    cases items' with
    | nil => exact ⟨rfl, h⟩
    | cons item' items' =>
      have hafter := afterArgument_rowChars
        (fun item hitem => hitems' item (List.mem_cons_of_mem _ hitem)) hrest'
      have hstart : rest = ' ' :: (item'.chars ++ (rowChars items' ++ rest')) := by
        simpa [rowChars] using h
      rw [hstart] at hrest
      exact absurd hrest (not_endsArguments_of_argument (hitems' item' List.mem_cons_self) hafter)
  | cons item items ih =>
    have hafter := afterArgument_rowChars
      (fun item hitem => hitems item (List.mem_cons_of_mem _ hitem)) hrest
    cases items' with
    | nil =>
      have hstart : rest' = ' ' :: (item.chars ++ (rowChars items ++ rest)) := by
        simpa [rowChars] using h.symm
      rw [hstart] at hrest'
      exact absurd hrest' (not_endsArguments_of_argument (hitems item List.mem_cons_self) hafter)
    | cons item' items' =>
      have hafter' := afterArgument_rowChars
        (fun item hitem => hitems' item (List.mem_cons_of_mem _ hitem)) hrest'
      have hrow : item.chars ++ (rowChars items ++ rest) =
          item'.chars ++ (rowChars items' ++ rest') := by
        simpa [rowChars] using h
      obtain ⟨rfl, hrests⟩ := hreads item List.mem_cons_self item' _ _
        (hitems' item' List.mem_cons_self) hafter hafter' hrow
      obtain ⟨rfl, rfl⟩ := ih (fun item hitem => hitems item (List.mem_cons_of_mem _ hitem))
        (fun item hitem => hitems' item (List.mem_cons_of_mem _ hitem))
        (fun item hitem => hreads item (List.mem_cons_of_mem _ hitem)) hrests
      exact ⟨rfl, rfl⟩

theorem Arguments.afterArgument_chars {args : Arguments} {rest : List Char}
    (hargs : args.isWellFormed) (hrest : endsArguments rest) :
    afterArgument (args.chars ++ rest) := by
  rw [Arguments.chars_eq hargs]
  exact afterArgument_rowChars (Arguments.items_isWellFormed hargs) hrest

private theorem Arguments.readsBack_of_items {args args' : Arguments} {rest rest' : List Char}
    (hargs : args.isWellFormed) (hargs' : args'.isWellFormed)
    (hreads : ∀ item ∈ args.items, item.ReadsBack) (hrest : endsArguments rest)
    (hrest' : endsArguments rest') (h : args.chars ++ rest = args'.chars ++ rest') :
    args = args' ∧ rest = rest' := by
  rw [Arguments.chars_eq hargs, Arguments.chars_eq hargs'] at h
  obtain ⟨hrow, hrests⟩ := row_readsBack (Arguments.items_isWellFormed hargs)
    (Arguments.items_isWellFormed hargs') hreads hrest hrest' h
  exact ⟨Arguments.eq_of_items_eq hargs hargs' hrow, hrests⟩

private theorem call_readsBack_of_items {path path' : String} {args args' : Arguments}
    {rest rest' : List Char} (hpath : isName path) (hpath' : isName path')
    (hargs : args.isWellFormed) (hargs' : args'.isWellFormed)
    (hreads : ∀ item ∈ args.items, item.ReadsBack) (hrest : endsArguments rest)
    (hrest' : endsArguments rest')
    (h : path.toList ++ (args.chars ++ rest) = path'.toList ++ (args'.chars ++ rest')) :
    path = path' ∧ args = args' ∧ rest = rest' := by
  obtain ⟨rfl, hrows⟩ := name_readsBack hpath hpath'
    (endsRun_of_afterArgument (Arguments.afterArgument_chars hargs hrest))
    (endsRun_of_afterArgument (Arguments.afterArgument_chars hargs' hrest')) h
  obtain ⟨hargs, hrests⟩ :=
    Arguments.readsBack_of_items hargs hargs' hreads hrest hrest' hrows
  exact ⟨rfl, hargs, hrests⟩

theorem Node.isExpression_sub {callee : String} {args : Arguments}
    (hnode : (Node.sub callee args).isExpression) :
    isName callee ∧ areExpressions args.params ∧ args.pairs.all Pair.isLiteral ∧
      args.isWellFormed := by
  have hliteral : ∀ pair : Pair, pair.isLiteral → pair.isWellFormed := by
    rintro ⟨key, value⟩ hpair
    cases value <;> simp_all [Pair.isLiteral, Pair.isWellFormed, Node.isExpression]
  obtain ⟨params, hash⟩ := args
  simp only [Node.isExpression, Bool.and_eq_true] at hnode
  obtain ⟨⟨hcallee, hparams⟩, hhash⟩ := hnode
  cases hash with
  | none => simp [hcallee, hparams, Arguments.pairs, Arguments.isWellFormed]
  | some pairs =>
    simp only [Option.all_some, Bool.and_eq_true, List.all_eq_true] at hhash
    simp only [Arguments.isWellFormed, Arguments.pairs, Option.all_some, Bool.and_eq_true,
      List.all_eq_true]
    exact ⟨hcallee, hparams, hhash.2, hparams, hhash.1, fun pair hpair =>
      hliteral pair (hhash.2 pair hpair)⟩

theorem Node.readsBack_word {node : Node} {word : String} (hnode : node.isExpression)
    (hword : node.word? = some word) : node.ReadsBack := by
  intro node' rest rest' hnode' hrest hrest' h
  rw [Node.chars_of_word? hword] at h
  obtain ⟨hword', hrests⟩ := Node.rest_eq_of_chars_eq_name hnode'
    (Node.isName_of_word? hnode hword) hrest' (endsRun_of_afterArgument hrest) h.symm
  exact ⟨by rw [Node.eq_ofWord hnode hword, Node.eq_ofWord hnode' hword'], hrests.symm⟩

theorem Node.readsBack_string {value : String} (hvalue : isQuotable value) :
    (Node.string value).ReadsBack := by
  intro node' rest rest' hnode' hrest hrest' h
  have hnode : (Node.string value).isExpression := by rwa [Node.isExpression]
  obtain ⟨word, hword⟩ | ⟨value', rfl⟩ | ⟨callee, args, rfl⟩ := Node.expression_cases hnode'
  · rw [Node.chars_of_word? hword] at h
    have hnone := (Node.rest_eq_of_chars_eq_name hnode (Node.isName_of_word? hnode' hword) hrest
      (endsRun_of_afterArgument hrest') h).1
    cases hnone
  · have hstop : ∀ tail, EndsRun (· != '\x27') ('\x27' :: tail) := by simp [EndsRun]
    rw [Node.chars_string, Node.chars_string] at h
    simp only [List.cons_append, List.append_assoc, List.nil_append, List.cons.injEq,
      true_and] at h
    obtain ⟨hvalues, hrests⟩ := run_readsBack (all_bne_of_not_contains hvalue)
      (all_bne_of_not_contains hnode') (hstop _) (hstop _) h
    exact ⟨by rw [String.toList_inj.mp hvalues], (List.cons.inj hrests).2⟩
  · rw [Node.chars_string, Node.chars_sub hnode'] at h
    simp at h

/-- A call reads back when its arguments do. -/
theorem Node.readsBack_sub {callee : String} {args : Arguments}
    (hnode : (Node.sub callee args).isExpression)
    (hparams : ∀ param ∈ args.params, param.ReadsBack) : (Node.sub callee args).ReadsBack := by
  intro node' rest rest' hnode' hrest hrest' h
  obtain ⟨hcallee, hexpressions, hpairs, hargs⟩ := Node.isExpression_sub hnode
  have hreads : ∀ item ∈ args.items, item.ReadsBack := by
    intro item hitem
    have hwell := Arguments.items_isWellFormed hargs item hitem
    rcases List.mem_append.mp hitem with hitem | hitem
    · obtain ⟨param, hparam, rfl⟩ := List.mem_map.mp hitem
      exact Argument.readsBack_byPosition hwell (hparams param hparam)
    · obtain ⟨⟨key, value⟩, hpair, rfl⟩ := List.mem_map.mp hitem
      have hliteral := List.all_eq_true.mp hpairs _ hpair
      cases value with
      | string value =>
        simp only [Pair.isLiteral, Bool.and_eq_true] at hliteral
        exact Argument.readsBack_byName hwell (Node.readsBack_string hliteral.2)
      | _ => simp [Pair.isLiteral] at hliteral
  obtain ⟨word, hword⟩ | ⟨value, rfl⟩ | ⟨callee', args', rfl⟩ := Node.expression_cases hnode'
  · rw [Node.chars_of_word? hword] at h
    have hnone := (Node.rest_eq_of_chars_eq_name hnode (Node.isName_of_word? hnode' hword) hrest
      (endsRun_of_afterArgument hrest') h).1
    cases hnone
  · rw [Node.chars_sub hnode, Node.chars_string] at h
    simp at h
  · obtain ⟨hcallee', -, -, hargs'⟩ := Node.isExpression_sub hnode'
    rw [Node.chars_sub hnode, Node.chars_sub hnode'] at h
    simp only [List.cons_append, List.append_assoc, List.nil_append, List.cons.injEq,
      true_and] at h
    obtain ⟨rfl, rfl, hrests⟩ := call_readsBack_of_items hcallee hcallee' hargs hargs' hreads
      (by simp [endsArguments]) (by simp [endsArguments]) h
    exact ⟨rfl, (List.cons.inj hrests).2⟩

mutual

/-- Every expression reads back. -/
theorem Node.readsBack (node : Node) (hnode : node.isExpression) : node.ReadsBack := by
  match node with
  | .sub callee ⟨params, hash⟩ =>
    exact Node.readsBack_sub hnode (readsBack_params params (Node.isExpression_sub hnode).2.1)
  | .string value => exact Node.readsBack_string hnode
  | .path _ | .boolean _ | .undefined | .null => exact Node.readsBack_word hnode rfl
  | .program _ | .block _ | .mustache .. | .content _ | .comment _ | .partialTag ..
  | .partialBlock .. | .number _ | .unknown => simp [Node.isExpression] at hnode

theorem readsBack_params (params : List Node) (hparams : areExpressions params) :
    ∀ param ∈ params, param.ReadsBack := by
  match params with
  | [] => simp
  | param :: rest =>
    simp only [areExpressions, Bool.and_eq_true] at hparams
    rintro other (_ | ⟨_, hother⟩)
    · exact param.readsBack hparams.1
    · exact readsBack_params rest hparams.2 other hother

end

theorem Argument.readsBack {item : Argument} (hitem : item.isWellFormed) : item.ReadsBack := by
  cases item with
  | byPosition node => exact Argument.readsBack_byPosition hitem (node.readsBack hitem)
  | byName pair =>
    have hvalue : pair.value.isExpression := by
      simp only [Argument.isWellFormed, Pair.isWellFormed, Bool.and_eq_true] at hitem
      exact hitem.2
    exact Argument.readsBack_byName hitem (pair.value.readsBack hvalue)

private theorem Arguments.items_readsBack {args : Arguments} (hargs : args.isWellFormed) :
    ∀ item ∈ args.items, item.ReadsBack :=
  fun item hitem => Argument.readsBack (Arguments.items_isWellFormed hargs item hitem)

/-- The arguments of a statement read back. -/
theorem Arguments.readsBack {args args' : Arguments} {rest rest' : List Char}
    (hargs : args.isWellFormed) (hargs' : args'.isWellFormed) (hrest : endsArguments rest)
    (hrest' : endsArguments rest') (h : args.chars ++ rest = args'.chars ++ rest') :
    args = args' ∧ rest = rest' :=
  Arguments.readsBack_of_items hargs hargs' (Arguments.items_readsBack hargs) hrest hrest' h

/-- The path of a statement and its arguments read back. -/
theorem call_readsBack {path path' : String} {args args' : Arguments} {rest rest' : List Char}
    (hpath : isName path) (hpath' : isName path') (hargs : args.isWellFormed)
    (hargs' : args'.isWellFormed) (hrest : endsArguments rest) (hrest' : endsArguments rest')
    (h : path.toList ++ (args.chars ++ rest) = path'.toList ++ (args'.chars ++ rest')) :
    path = path' ∧ args = args' ∧ rest = rest' :=
  call_readsBack_of_items hpath hpath' hargs hargs' (Arguments.items_readsBack hargs) hrest hrest' h

end TemplatePrinter
