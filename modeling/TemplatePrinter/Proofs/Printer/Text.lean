import TemplatePrinter.Printer.Render
/-!
# The text of a tree, part by part

The printer hands on one output of text and events. What it writes can be said without the events:
the text of a node is put together from the texts of its parts, by one equation for each kind of
node. The rest of the theory reaches the text of a tree through these equations alone.

A group of arguments stands after a space, `Text.afterSpace`, unless the group is empty as a text.
A rule shows in one place only, `argumentText`: the text of an argument in a call by a helper.
-/

namespace TemplatePrinter

/-- A text after a space, or nothing when the text is empty. -/
def Text.afterSpace (text : String) : String :=
  if text = "" then "" else " " ++ text

theorem Text.afterSpace_injective : Function.Injective Text.afterSpace := by
  intro a b h
  unfold Text.afterSpace at h
  by_cases ha : a = "" <;> by_cases hb : b = ""
  · rw [ha, hb]
  · rw [if_pos ha, if_neg hb] at h
    simp at h
  · rw [if_neg ha, if_pos hb] at h
    simp at h
  · rw [if_neg ha, if_neg hb] at h
    exact (String.append_right_inj " ").mp h

/-- A property of texts that a text put together from texts with the property has too. -/
structure PassesOn (P : String → Prop) : Prop where
  empty : P ""
  space : P " "
  append {a b : String} : P a → P b → P (a ++ b)

namespace PassesOn

variable {P : String → Prop}

theorem afterSpace (hP : PassesOn P) {text : String} (htext : P text) :
    P (Text.afterSpace text) := by
  unfold Text.afterSpace
  split
  · exact hP.empty
  · exact hP.append hP.space htext

theorem intercalate (hP : PassesOn P) {texts : List String} (htexts : ∀ text ∈ texts, P text) :
    P (" ".intercalate texts) := by
  induction texts with
  | nil => exact hP.empty
  | cons first rest ih =>
    obtain ⟨hfirst, hrest⟩ := List.forall_mem_cons.mp htexts
    cases rest with
    | nil => simpa using hfirst
    | cons next rest =>
      rw [String.intercalate_cons_cons]
      exact hP.append (hP.append hfirst hP.space) (ih hrest)

end PassesOn

namespace Output

theorem text_spaced (out : Output) : out.spaced.text = Text.afterSpace out.text := by
  unfold spaced Text.afterSpace
  by_cases hempty : out.text = ""
  · rw [if_pos hempty, if_pos hempty, hempty]
  · rw [if_neg hempty, if_neg hempty]
    rfl

theorem text_joined (outs : List Output) :
    (joined outs).text = " ".intercalate (outs.map Output.text) := by
  have heach : ∀ (first : Output) (rest : List Output),
      first.text ++ (eachSpaced rest).text = " ".intercalate ((first :: rest).map Output.text) := by
    intro first rest
    induction rest generalizing first with
    | nil => simp [eachSpaced]
    | cons next rest ih =>
      have htail := ih next
      simp only [List.map_cons] at htail
      simp only [eachSpaced, text_append, text_ofText, List.map_cons,
        String.intercalate_cons_cons, ← htail, String.append_assoc]
  cases outs with
  | nil => simp [joined]
  | cons first rest => exact heach first rest

end Output

/-! ### Arguments -/

/-- The text of an argument: the modifiers make it when the rule picks the argument. -/
def argumentText (rule : Option Rule) (caller : Option String) (position : Nat) (param : Node) :
    String :=
  match selected? rule caller position param with
  | some chosen => chosen.apply (param.text rule)
  | none => param.text rule

theorem selected?_uncalled (rule : Option Rule) (position : Nat) (param : Node) :
    selected? rule none position param = none := by
  cases rule <;> rfl

theorem argumentText_untargeted (caller : Option String) (position : Nat) (param : Node) :
    argumentText none caller position param = param.text none := rfl

theorem argumentText_uncalled (rule : Option Rule) (position : Nat) (param : Node) :
    argumentText rule none position param = param.text rule := by
  rw [argumentText, selected?_uncalled]

theorem text_renderParams (rule : Option Rule) (caller : Option String) (start : Nat)
    (params : List Node) :
    (renderParams rule caller start params).map Output.text =
      params.mapIdx fun i param => argumentText rule caller (start + i) param := by
  induction params generalizing start with
  | nil => simp [renderParams]
  | cons param rest ih =>
    have hhead : (modified (selected? rule caller start param) start (param.render rule)).text =
        argumentText rule caller start param := by
      unfold argumentText modified
      cases selected? rule caller start param <;> simp [Node.text_eq_render]
    rw [renderParams, List.map_cons, ih, hhead, List.mapIdx_cons]
    simp only [Nat.add_zero, Nat.add_assoc, Nat.add_comm 1]

/-- The parameters of a call as they stand between its path and its pairs. -/
def paramsText (rule : Option Rule) (caller : Option String) (params : List Node) : String :=
  Text.afterSpace (" ".intercalate (params.mapIdx fun i param =>
    argumentText rule caller (i + 1) param))

theorem text_spaced_renderParams (rule : Option Rule) (caller : Option String)
    (params : List Node) :
    (Output.joined (renderParams rule caller 1 params)).spaced.text =
      paramsText rule caller params := by
  rw [Output.text_spaced, Output.text_joined, text_renderParams]
  simp only [paramsText, Nat.add_comm 1]

private theorem mapIdx_const_eq_map {α β : Type} (f : α → β) (xs : List α) :
    (xs.mapIdx fun _ x => f x) = xs.map f := by
  rw [List.mapIdx_eq_iff]
  intro i
  rw [List.getElem?_map]

theorem paramsText_untargeted (caller : Option String) (params : List Node) :
    paramsText none caller params =
      Text.afterSpace (" ".intercalate (params.map fun param => param.text none)) := by
  simp only [paramsText, argumentText_untargeted, mapIdx_const_eq_map]

theorem paramsText_uncalled (rule : Option Rule) (params : List Node) :
    paramsText rule none params =
      Text.afterSpace (" ".intercalate (params.map fun param => param.text rule)) := by
  simp only [paramsText, argumentText_uncalled, mapIdx_const_eq_map]

/-- The pairs of a call as they stand at its end, each value written by `value`. -/
def pairsText (value : Node → String) (pairs : List Pair) : String :=
  Text.afterSpace (" ".intercalate (pairs.map fun pair => pair.key ++ "=" ++ value pair.value))

/-- Pairs with their values replaced by others that are written alike. -/
theorem pairsText_map {f : Node → Node} {value value' : Node → String} {pairs : List Pair}
    (hvalues : ∀ pair ∈ pairs, value (f pair.value) = value' pair.value) :
    pairsText value (pairs.map fun pair => ⟨pair.key, f pair.value⟩) = pairsText value' pairs := by
  have htexts : (pairs.map fun pair => pair.key ++ "=" ++ value (f pair.value)) =
      pairs.map fun pair => pair.key ++ "=" ++ value' pair.value :=
    List.map_congr_left fun pair hpair => by rw [hvalues pair hpair]
  simp only [pairsText, List.map_map, Function.comp_def, htexts]

theorem text_spaced_renderPairs (rule : Option Rule) (pairs : List Pair) :
    (Output.joined (renderPairs rule pairs)).spaced.text =
      pairsText (fun value => value.text rule) pairs := by
  have htexts : (renderPairs rule pairs).map Output.text =
      pairs.map fun pair => pair.key ++ "=" ++ pair.value.text rule := by
    induction pairs with
    | nil => rfl
    | cons pair rest ih =>
      obtain ⟨key, value⟩ := pair
      rw [renderPairs, List.map_cons, List.map_cons, ih, Output.text_append, Node.text_eq_render]
      rfl
  rw [Output.text_spaced, Output.text_joined, htexts, pairsText]

theorem text_spaced_renderRawPairs (pairs : List Pair) :
    (Output.joined (renderRawPairs pairs)).spaced.text =
      pairsText (fun value => Text.quoteSingle value.rawValue) pairs := by
  have htexts : (renderRawPairs pairs).map Output.text =
      pairs.map fun pair => pair.key ++ "=" ++ Text.quoteSingle pair.value.rawValue := by
    induction pairs with
    | nil => rfl
    | cons pair rest ih =>
      obtain ⟨key, value⟩ := pair
      rw [renderRawPairs, List.map_cons, List.map_cons, ih, Output.text_ofText]
      have hquotes : "='" = "=" ++ "'" := rfl
      simp only [Text.quoteSingle, hquotes, String.append_assoc]
  rw [Output.text_spaced, Output.text_joined, htexts, pairsText]

/-- The arguments of a statement as they stand after its path. -/
def Arguments.text (args : Arguments) (rule : Option Rule) : String :=
  (args.render rule).text

theorem Arguments.text_eq (args : Arguments) (rule : Option Rule) :
    args.text rule =
      paramsText rule none args.params ++ pairsText (fun value => value.text rule) args.pairs := by
  obtain ⟨params, hash⟩ := args
  cases hash with
  | none =>
    rw [Arguments.text, Arguments.render, text_spaced_renderParams]
    simp [Arguments.pairs, pairsText, Text.afterSpace]
  | some pairs =>
    rw [Arguments.text, Arguments.render, Output.text_append, text_spaced_renderParams,
      text_spaced_renderPairs]
    rfl

/-- The name of a partial as it stands in its tag. -/
def PartialName.text (name : PartialName) (rule : Option Rule) : String :=
  (name.render rule).text

theorem PartialName.text_path (text : String) (rule : Option Rule) :
    (PartialName.path text).text rule = text := rfl

theorem PartialName.text_sub (callee : String) (args : Arguments) (rule : Option Rule) :
    (PartialName.sub callee args).text rule =
      "(" ++ callee ++ paramsText rule none args.params ++ ")" := by
  obtain ⟨params, hash⟩ := args
  rw [PartialName.text, PartialName.render, Output.text_append, Output.text_append,
    text_spaced_renderParams]
  rfl

/-! ### Programs and blocks -/

/-- Statements one after the other. -/
def bodyText (rule : Option Rule) (body : List Node) : String :=
  (renderBody rule body).text

/-- A tag from its path on, and the program that the tag introduces. -/
def clauseText (rule : Option Rule) (path : String) (args : Arguments) (main : Program) : String :=
  path ++ args.text rule ++ Delimiter.blockParams main ++ Delimiter.closeTag
    ++ bodyText rule main.body

/-- The clauses along an else chain. -/
def elseText (rule : Option Rule) (inverse : Option Program) : String :=
  (renderElse rule inverse).text

/-- A block from its path to the end of its else chain. A clause of a chain is written as the inside
of its block. -/
def Block.insideText (block : Block) (rule : Option Rule) : String :=
  clauseText rule block.path block.args block.main ++ elseText rule block.inverse

theorem bodyText_cons (rule : Option Rule) (node : Node) (rest : List Node) :
    bodyText rule (node :: rest) = node.text rule ++ bodyText rule rest := by
  rw [bodyText, renderBody, Output.text_append, Node.text_eq_render, bodyText]

theorem bodyText_append (rule : Option Rule) (left right : List Node) :
    bodyText rule (left ++ right) = bodyText rule left ++ bodyText rule right := by
  induction left with
  | nil => exact (String.empty_append).symm
  | cons node rest ih =>
    rw [List.cons_append, bodyText_cons, ih, bodyText_cons, String.append_assoc]

theorem bodyText_eq_join (rule : Option Rule) (body : List Node) :
    bodyText rule body = String.join (body.map fun node => node.text rule) := by
  induction body with
  | nil => rfl
  | cons node rest ih => rw [bodyText_cons, ih, List.map_cons, String.join_cons]

/-- Statements replaced by others that print alike. -/
theorem bodyText_map {f : Node → Node} {rule rule' : Option Rule} {body : List Node}
    (hbody : ∀ node ∈ body, (f node).text rule = node.text rule') :
    bodyText rule (body.map f) = bodyText rule' body := by
  induction body with
  | nil => rfl
  | cons node rest ih =>
    rw [List.forall_mem_cons] at hbody
    rw [List.map_cons, bodyText_cons, bodyText_cons, hbody.1, ih hbody.2]

private theorem text_renderClause (rule : Option Rule) (path : String) (args : Arguments)
    (main : Program) :
    (renderClause path main (args.render rule) (main.render rule)).text =
      clauseText rule path args main := by
  obtain ⟨body, names⟩ := main
  simp only [renderClause, Program.render, Output.text_append, Output.text_ofText, clauseText,
    Arguments.text, bodyText, String.append_assoc]

theorem elseText_chained (rule : Option Rule) (block : Block) (rest : List Node)
    (names : Option (List String)) :
    elseText rule (some ⟨.block block :: rest, names⟩) =
      Delimiter.openElse ++ block.insideText rule := by
  obtain ⟨path, args, main, inverse⟩ := block
  rw [elseText, renderElse, Output.text_append, Output.text_append, text_renderClause,
    String.append_assoc]
  rfl

/-- Whether a statement is a block. -/
def Node.isBlock : Node → Bool
  | .block _ => true
  | _ => false

theorem elseText_final (rule : Option Rule) (program : Program)
    (hfirst : ∀ node ∈ program.body.head?, node.isBlock = false) :
    elseText rule (some program) = Delimiter.bareElse ++ bodyText rule program.body := by
  obtain ⟨body, names⟩ := program
  cases body with
  | nil => rfl
  | cons node rest =>
    have hnode := hfirst node rfl
    cases node with
    | block block => simp [Node.isBlock] at hnode
    | _ => rfl

/-! ### Nodes -/

theorem Node.text_program (program : Program) (rule : Option Rule) :
    (Node.program program).text rule = bodyText rule program.body := by
  obtain ⟨body, names⟩ := program
  rw [Node.text_eq_render]
  rfl

theorem Node.text_block (block : Block) (rule : Option Rule) :
    (Node.block block).text rule =
      Delimiter.openBlock ++ block.insideText rule
        ++ (Delimiter.openEnd ++ block.path ++ Delimiter.closeTag) := by
  obtain ⟨path, args, main, inverse⟩ := block
  rw [Node.text_eq_render, Node.render, Block.render]
  simp only [Output.text_append, Output.text_ofText, text_renderClause, Block.insideText, elseText,
    String.append_assoc]

/-- The text of a block settles the text of its inside, so what is known of blocks as statements
is known of them as clauses too. -/
theorem Block.insideText_eq_of_text_eq {block block' : Block} {rule rule' : Option Rule}
    (hpath : block.path = block'.path)
    (h : (Node.block block).text rule = (Node.block block').text rule') :
    block.insideText rule = block'.insideText rule' := by
  rw [Node.text_block, Node.text_block, hpath] at h
  exact (String.append_right_inj _).mp ((String.append_left_inj _).mp h)

theorem Node.text_mustache (path : String) (args : Arguments) (escaped : Bool)
    (rule : Option Rule) :
    (Node.mustache path args escaped).text rule =
      Delimiter.openMustache escaped ++ Text.bracketed path ++ args.text rule
        ++ Delimiter.closeMustache escaped := by
  rw [Node.text_eq_render]
  rfl

theorem Node.text_bareMustache (path : String) (escaped : Bool) (rule : Option Rule) :
    (Node.mustache path {} escaped).text rule =
      Delimiter.openMustache escaped ++ Text.bracketed path ++ Delimiter.closeMustache escaped := by
  have hargs : Arguments.text {} rule = "" := rfl
  rw [Node.text_mustache, hargs, String.append_empty]

theorem Node.text_sub (callee : String) (args : Arguments) (rule : Option Rule) :
    (Node.sub callee args).text rule =
      "(" ++ callee ++ paramsText rule (some callee) args.params
        ++ pairsText (fun value => Text.quoteSingle value.rawValue) args.pairs ++ ")" := by
  obtain ⟨params, hash⟩ := args
  have hpairs : Arguments.pairs ⟨[], hash⟩ = Arguments.pairs ⟨params, hash⟩ := by
    cases hash <;> rfl
  rw [Node.text_eq_render, Node.render]
  simp only [Output.text_append, Output.text_ofText, text_spaced_renderParams,
    text_spaced_renderRawPairs, hpairs]

theorem Node.text_partialTag (name : PartialName) (args : Arguments) (rule : Option Rule) :
    (Node.partialTag name args).text rule =
      Delimiter.openPartial ++ name.text rule ++ args.text rule ++ Delimiter.closePartial := by
  rw [Node.text_eq_render]
  rfl

theorem Node.text_partialBlock (name : PartialName) (args : Arguments) (fallback : Program)
    (rule : Option Rule) :
    (Node.partialBlock name args fallback).text rule =
      Delimiter.openPartial ++ name.text rule ++ args.text rule ++ Delimiter.closePartial := by
  rw [Node.text_eq_render]
  rfl

@[simp] theorem Node.text_content (text : String) (rule : Option Rule) :
    (Node.content text).text rule = text := by
  rw [Node.text_eq_render]
  rfl

@[simp] theorem Node.text_comment (text : String) (rule : Option Rule) :
    (Node.comment text).text rule = Delimiter.openComment ++ text ++ Delimiter.closeComment := by
  rw [Node.text_eq_render]
  rfl

@[simp] theorem Node.text_path (text : String) (rule : Option Rule) :
    (Node.path text).text rule = text := by
  rw [Node.text_eq_render]
  rfl

@[simp] theorem Node.text_string (value : String) (rule : Option Rule) :
    (Node.string value).text rule = Text.quoteSingle value := by
  rw [Node.text_eq_render]
  rfl

@[simp] theorem Node.text_number (value : Binary64) (rule : Option Rule) :
    (Node.number value).text rule = value.text := by
  rw [Node.text_eq_render]
  rfl

@[simp] theorem Node.text_boolean (value : Bool) (rule : Option Rule) :
    (Node.boolean value).text rule = boolText value := by
  rw [Node.text_eq_render]
  rfl

@[simp] theorem Node.text_undefined (rule : Option Rule) :
    Node.undefined.text rule = "undefined" := by
  rw [Node.text_eq_render]
  rfl

@[simp] theorem Node.text_null (rule : Option Rule) : Node.null.text rule = "null" := by
  rw [Node.text_eq_render]
  rfl

@[simp] theorem Node.text_unknown (rule : Option Rule) : Node.unknown.text rule = "" := by
  rw [Node.text_eq_render]
  rfl

end TemplatePrinter
