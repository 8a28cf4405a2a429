import TemplatePrinter.Proofs.Printer.Text
import TemplatePrinter.Proofs.Tree.Children
/-!
# Contents in and out of else chains

A block holds contents in its main program and in its inverse program, directly or in blocks below
them. Where an inverse program starts with a block, the printer goes on with that block as a clause
of the chain, and the statements after it, the tail of the program, are passed over. So the text of
a block does not depend on any tail. The contents outside of tails always stand in the text in
order. All the contents do, whatever the tails hold, if and only if no tail holds any.
-/

namespace TemplatePrinter

/-! ### Contents and tails -/

mutual

/-- The contents of a block in document order: those of its main program, then those of its
inverse program, with every statement of either and the blocks among them. -/
def Block.contents : Block → List String
  | ⟨_, _, ⟨body, _⟩, inverse⟩ => contentsOf body ++ inverseContents inverse

def Node.contents : Node → List String
  | .content text => [text]
  | .block block => block.contents
  | _ => []

def contentsOf : List Node → List String
  | [] => []
  | node :: rest => node.contents ++ contentsOf rest

def inverseContents : Option Program → List String
  | none => []
  | some ⟨body, _⟩ => contentsOf body

end

mutual

/-- The contents in the tails of a block. -/
def Block.lost : Block → List String
  | ⟨_, _, ⟨body, _⟩, inverse⟩ => lostOf body ++ inverseLost inverse

def Node.lost : Node → List String
  | .block block => block.lost
  | _ => []

def lostOf : List Node → List String
  | [] => []
  | node :: rest => node.lost ++ lostOf rest

def inverseLost : Option Program → List String
  | none => []
  | some ⟨.block block :: tail, _⟩ => block.lost ++ contentsOf tail
  | some ⟨body, _⟩ => lostOf body

end

mutual

/-- A block with every tail replaced, and all else as it is. -/
def Block.mapTails (f : List Node → List Node) : Block → Block
  | ⟨path, args, ⟨body, names⟩, inverse⟩ =>
    ⟨path, args, ⟨mapTailsOf f body, names⟩, inverseMapTails f inverse⟩

def Node.mapTails (f : List Node → List Node) : Node → Node
  | .block block => .block (block.mapTails f)
  | other => other

def mapTailsOf (f : List Node → List Node) : List Node → List Node
  | [] => []
  | node :: rest => node.mapTails f :: mapTailsOf f rest

def inverseMapTails (f : List Node → List Node) : Option Program → Option Program
  | none => none
  | some ⟨.block block :: tail, names⟩ => some ⟨.block (block.mapTails f) :: f tail, names⟩
  | some ⟨body, names⟩ => some ⟨mapTailsOf f body, names⟩

end

/-- The contents of a block that stand in no tail. -/
def Block.kept (block : Block) : List String :=
  (block.mapTails fun _ => []).contents

theorem Node.lost_of_not_block {node : Node} (hnode : node.isBlock = false) : node.lost = [] := by
  cases node with
  | block block => cases hnode
  | _ => rfl

theorem Node.mapTails_of_not_block (f : List Node → List Node) {node : Node}
    (hnode : node.isBlock = false) : node.mapTails f = node := by
  cases node with
  | block block => cases hnode
  | _ => rfl

theorem Block.path_mapTails (f : List Node → List Node) (block : Block) :
    (block.mapTails f).path = block.path := by
  obtain ⟨path, args, ⟨body, names⟩, inverse⟩ := block
  rfl

/-! ### Final clauses

An inverse program that does not start with a block has no tail of its own. -/

section Final

variable {body : List Node} {names : Option (List String)}

theorem inverseLost_final (hfirst : ∀ node ∈ body.head?, node.isBlock = false) :
    inverseLost (some ⟨body, names⟩) = lostOf body := by
  cases body with
  | nil => rfl
  | cons node rest =>
    have hnode : node.isBlock = false := hfirst node rfl
    cases node with
    | block block => cases hnode
    | _ => rfl

theorem inverseMapTails_final (f : List Node → List Node)
    (hfirst : ∀ node ∈ body.head?, node.isBlock = false) :
    inverseMapTails f (some ⟨body, names⟩) = some ⟨mapTailsOf f body, names⟩ := by
  cases body with
  | nil => rfl
  | cons node rest =>
    have hnode : node.isBlock = false := hfirst node rfl
    cases node with
    | block block => cases hnode
    | _ => rfl

theorem isBlock_head?_mapTailsOf (f : List Node → List Node)
    (hfirst : ∀ node ∈ body.head?, node.isBlock = false) :
    ∀ node ∈ (mapTailsOf f body).head?, node.isBlock = false := by
  cases body with
  | nil => exact hfirst
  | cons node rest =>
    have hnode : node.isBlock = false := hfirst node rfl
    rw [mapTailsOf, Node.mapTails_of_not_block f hnode]
    exact hfirst

end Final

/-! ### Induction along chains -/

/-- A property of blocks, with one of bodies and one of inverse programs, that passes from the parts
of a block to the block. An inverse program that starts with a block counts by that block alone. -/
theorem Block.chainInduction (P : Block → Prop) (Q : List Node → Prop) (R : Option Program → Prop)
    (block : ∀ path args body names inverse, Q body → R inverse →
      P ⟨path, args, ⟨body, names⟩, inverse⟩)
    (nil : Q [])
    (nested : ∀ block rest, P block → Q rest → Q (.block block :: rest))
    (other : ∀ node rest, node.isBlock = false → Q rest → Q (node :: rest))
    (none : R none)
    (chained : ∀ block tail names, P block → R (some ⟨.block block :: tail, names⟩))
    (final : ∀ body names, (∀ node ∈ body.head?, node.isBlock = false) → Q body →
      R (some ⟨body, names⟩))
    (whole : Block) : P whole := by
  have hbody : ∀ body : List Node, (∀ below, Node.block below ∈ body → P below) → Q body := by
    intro body
    induction body with
    | nil => exact fun _ => nil
    | cons node rest ih =>
      intro hbelow
      have hrest : Q rest := ih fun below h => hbelow below (List.mem_cons_of_mem _ h)
      cases hnode : node.isBlock with
      | true =>
        cases node with
        | block below => exact nested below rest (hbelow below List.mem_cons_self) hrest
        | _ => cases hnode
      | false => exact other node rest hnode hrest
  have hinverse : ∀ inverse : Option Program,
      (∀ below, Node.block below ∈ inverseBody inverse → P below) → R inverse := by
    intro inverse hbelow
    match inverse with
    | .none => exact none
    | some ⟨[], names⟩ => exact final [] names (by simp) nil
    | some ⟨node :: rest, names⟩ =>
      cases hnode : node.isBlock with
      | true =>
        cases node with
        | block below => exact chained below rest names (hbelow below List.mem_cons_self)
        | _ => cases hnode
      | false => exact final (node :: rest) names (by simpa using hnode) (hbody _ hbelow)
  have hnodes : ∀ node : Node, ∀ below, node = .block below → P below := by
    intro node
    induction node using Node.childInduction with
    | step node ih =>
      rintro ⟨path, args, ⟨body, names⟩, inverse⟩ rfl
      refine block path args body names inverse (hbody body ?_) (hinverse inverse ?_)
      · intro below hbelow
        exact ih _ (List.mem_append_left _ (List.mem_append_right _ hbelow)) below rfl
      · intro below hbelow
        exact ih _ (List.mem_append_right _ hbelow) below rfl
  exact hnodes (.block whole) whole rfl

/-! ### The text does not depend on the tails -/

theorem Block.insideText_mapTails (f : List Node → List Node) (rule : Option Rule) (block : Block) :
    (block.mapTails f).insideText rule = block.insideText rule := by
  refine Block.chainInduction
    (fun block => (block.mapTails f).insideText rule = block.insideText rule)
    (fun body => bodyText rule (mapTailsOf f body) = bodyText rule body)
    (fun inverse => elseText rule (inverseMapTails f inverse) = elseText rule inverse)
    ?parts rfl ?nested ?other rfl ?chained ?final block
  case parts =>
    intro path args body names inverse hbody hinverse
    rw [Block.mapTails, Block.insideText, Block.insideText, hinverse, clauseText, clauseText, hbody]
    rfl
  case nested =>
    intro block rest hblock hrest
    rw [mapTailsOf, bodyText_cons, bodyText_cons, hrest, Node.mapTails, Node.text_block,
      Node.text_block, hblock, Block.path_mapTails]
  case other =>
    intro node rest hnode hrest
    rw [mapTailsOf, Node.mapTails_of_not_block f hnode, bodyText_cons, bodyText_cons, hrest]
  case chained =>
    intro block tail names hblock
    rw [inverseMapTails, elseText_chained, elseText_chained, hblock]
  case final =>
    intro body names hfirst hbody
    rw [inverseMapTails_final f hfirst, elseText_final rule ⟨body, names⟩ hfirst,
      elseText_final rule ⟨mapTailsOf f body, names⟩ (isBlock_head?_mapTailsOf f hfirst), hbody]

/-- **No tail reaches the text**: replacing tails changes nothing in what is printed. -/
theorem Block.text_mapTails (f : List Node → List Node) (rule : Option Rule) (block : Block) :
    (Node.block (block.mapTails f)).text rule = (Node.block block).text rule := by
  rw [Node.text_block, Node.text_block, Block.insideText_mapTails, Block.path_mapTails]

/-! ### Texts in a text -/

/-- Texts that stand in a whole in this order, none overlapping the one before. -/
def OccurInOrder : List String → String → Prop
  | [], _ => True
  | text :: rest, whole =>
    ∃ before after, whole = before ++ text ++ after ∧ OccurInOrder rest after

namespace OccurInOrder

theorem append {texts others : List String} {left right : String}
    (hleft : OccurInOrder texts left) (hright : OccurInOrder others right) :
    OccurInOrder (texts ++ others) (left ++ right) := by
  induction texts generalizing left with
  | nil =>
    -- The first of the other texts is found again with more in front of it.
    cases others with
    | nil => trivial
    | cons text rest =>
      obtain ⟨before, after, rfl, hrest⟩ := hright
      exact ⟨left ++ before, after, by simp only [String.append_assoc], hrest⟩
  | cons text rest ih =>
    obtain ⟨before, after, rfl, hrest⟩ := hleft
    exact ⟨before, after ++ right, by simp only [String.append_assoc], ih hrest⟩

theorem after {texts : List String} {whole : String} (h : OccurInOrder texts whole)
    (before : String) : OccurInOrder texts (before ++ whole) :=
  append (show OccurInOrder [] before from trivial) h

theorem before {texts : List String} {whole : String} (h : OccurInOrder texts whole)
    (after : String) : OccurInOrder texts (whole ++ after) := by
  have happend := append h (show OccurInOrder [] after from trivial)
  rwa [List.append_nil] at happend

theorem isInfix {texts : List String} {whole text : String} (h : OccurInOrder texts whole)
    (htext : text ∈ texts) : text.toList <:+: whole.toList := by
  induction texts generalizing whole with
  | nil => cases htext
  | cons first rest ih =>
    obtain ⟨before, after, rfl, hrest⟩ := h
    simp only [String.toList_append]
    rcases List.mem_cons.mp htext with rfl | htext
    · exact List.infix_append _ _ _
    · exact (ih hrest htext).trans (List.suffix_append _ _).isInfix

end OccurInOrder

/-! ### Contents that are kept -/

theorem Node.contents_occur_of_not_block {node : Node} (hnode : node.isBlock = false) :
    OccurInOrder node.contents (node.text none) := by
  cases node with
  | block block => cases hnode
  | content text =>
    rw [Node.text_content]
    exact ⟨"", "", by simp, trivial⟩
  | _ => trivial

theorem Block.kept_occur (block : Block) :
    OccurInOrder block.kept ((Node.block block).text none) := by
  suffices hinside : OccurInOrder block.kept (block.insideText none) by
    rw [Node.text_block]
    exact (hinside.after _).before _
  refine Block.chainInduction (fun block => OccurInOrder block.kept (block.insideText none))
    (fun body => OccurInOrder (contentsOf (mapTailsOf (fun _ => []) body)) (bodyText none body))
    (fun inverse =>
      OccurInOrder (inverseContents (inverseMapTails (fun _ => []) inverse)) (elseText none inverse))
    ?parts trivial ?nested ?other trivial ?chained ?final block
  case parts =>
    intro path args body names inverse hbody hinverse
    rw [Block.kept, Block.mapTails, Block.contents, Block.insideText, clauseText]
    exact (hbody.after _).append hinverse
  case nested =>
    intro block rest hblock hrest
    rw [mapTailsOf, contentsOf, bodyText_cons, Node.mapTails, Node.contents, Node.text_block]
    exact ((hblock.after _).before _).append hrest
  case other =>
    intro node rest hnode hrest
    rw [mapTailsOf, contentsOf, bodyText_cons, Node.mapTails_of_not_block _ hnode]
    exact (Node.contents_occur_of_not_block hnode).append hrest
  case chained =>
    intro block tail names hblock
    rw [inverseMapTails, inverseContents, contentsOf, contentsOf, List.append_nil, Node.contents,
      elseText_chained]
    exact hblock.after _
  case final =>
    intro body names hfirst hbody
    rw [inverseMapTails_final _ hfirst, inverseContents, elseText_final none ⟨body, names⟩ hfirst]
    exact hbody.after _

/-! ### Contents that are lost -/

/-- Where nothing is lost, tails may give way to anything that holds contents only if they do. -/
theorem Block.contents_mapTails {f : List Node → List Node}
    (hf : ∀ tail, contentsOf tail = [] → contentsOf (f tail) = []) (block : Block) :
    block.lost = [] → (block.mapTails f).contents = block.contents := by
  refine Block.chainInduction
    (fun block => block.lost = [] → (block.mapTails f).contents = block.contents)
    (fun body => lostOf body = [] → contentsOf (mapTailsOf f body) = contentsOf body)
    (fun inverse => inverseLost inverse = [] →
      inverseContents (inverseMapTails f inverse) = inverseContents inverse)
    ?parts (fun _ => rfl) ?nested ?other (fun _ => rfl) ?chained ?final block
  case parts =>
    intro path args body names inverse hbody hinverse hlost
    obtain ⟨hlostBody, hlostInverse⟩ := List.append_eq_nil_iff.mp hlost
    rw [Block.mapTails, Block.contents, Block.contents, hbody hlostBody, hinverse hlostInverse]
  case nested =>
    intro block rest hblock hrest hlost
    obtain ⟨hlostBlock, hlostRest⟩ := List.append_eq_nil_iff.mp hlost
    rw [mapTailsOf, contentsOf, contentsOf, hrest hlostRest, Node.mapTails, Node.contents,
      Node.contents, hblock hlostBlock]
  case other =>
    intro node rest hnode hrest hlost
    rw [mapTailsOf, contentsOf, contentsOf, Node.mapTails_of_not_block f hnode,
      hrest (List.append_eq_nil_iff.mp hlost).2]
  case chained =>
    intro block tail names hblock hlost
    obtain ⟨hlostBlock, hlostTail⟩ := List.append_eq_nil_iff.mp hlost
    rw [inverseMapTails, inverseContents, inverseContents, contentsOf, contentsOf, hlostTail,
      hf tail hlostTail, Node.contents, Node.contents, hblock hlostBlock]
  case final =>
    intro body names hfirst hbody hlost
    rw [inverseLost_final hfirst] at hlost
    rw [inverseMapTails_final f hfirst, inverseContents, inverseContents, hbody hlost]

/-- A text that is put into every tail with contents is a content of the block if one is lost. -/
theorem Block.mem_contents_mapTails {f : List Node → List Node} {text : String}
    (hf : ∀ tail, ∀ old ∈ contentsOf tail, text ∈ contentsOf (f tail)) (block : Block) :
    ∀ old ∈ block.lost, text ∈ (block.mapTails f).contents := by
  refine Block.chainInduction
    (fun block => ∀ old ∈ block.lost, text ∈ (block.mapTails f).contents)
    (fun body => ∀ old ∈ lostOf body, text ∈ contentsOf (mapTailsOf f body))
    (fun inverse => ∀ old ∈ inverseLost inverse, text ∈ inverseContents (inverseMapTails f inverse))
    ?parts (by simp [lostOf]) ?nested ?other (by simp [inverseLost]) ?chained ?final block
  case parts =>
    intro path args body names inverse hbody hinverse old hold
    rw [Block.mapTails, Block.contents]
    rcases List.mem_append.mp hold with hold | hold
    · exact List.mem_append_left _ (hbody old hold)
    · exact List.mem_append_right _ (hinverse old hold)
  case nested =>
    intro block rest hblock hrest old hold
    rw [mapTailsOf, contentsOf, Node.mapTails, Node.contents]
    rcases List.mem_append.mp hold with hold | hold
    · exact List.mem_append_left _ (hblock old hold)
    · exact List.mem_append_right _ (hrest old hold)
  case other =>
    intro node rest hnode hrest old hold
    rw [lostOf, Node.lost_of_not_block hnode, List.nil_append] at hold
    rw [mapTailsOf, contentsOf]
    exact List.mem_append_right _ (hrest old hold)
  case chained =>
    intro block tail names hblock old hold
    rw [inverseMapTails, inverseContents, contentsOf, Node.contents]
    rcases List.mem_append.mp hold with hold | hold
    · exact List.mem_append_left _ (hblock old hold)
    · exact List.mem_append_right _ (hf tail old hold)
  case final =>
    intro body names hfirst hbody old hold
    rw [inverseLost_final hfirst] at hold
    rw [inverseMapTails_final f hfirst, inverseContents]
    exact hbody old hold

theorem contentsOf_map_content (texts : List String) :
    contentsOf (texts.map Node.content) = texts := by
  induction texts with
  | nil => rfl
  | cons text rest ih => rw [List.map_cons, contentsOf, ih, Node.contents, List.singleton_append]

/-- A text for every content of a list of statements, the same for all of them. -/
def uniformContents (text : String) (body : List Node) : List Node :=
  (contentsOf body).map fun _ => .content text

theorem contentsOf_uniformContents (text : String) (body : List Node) :
    contentsOf (uniformContents text body) = (contentsOf body).map fun _ => text := by
  have hmap : uniformContents text body =
      ((contentsOf body).map fun _ => text).map Node.content := by
    rw [List.map_map]
    rfl
  rw [hmap, contentsOf_map_content]

/-- The tails of a block may hold a text for which its own text has no room. -/
theorem Block.not_occur_of_long {block : Block} {old text : String} (hold : old ∈ block.lost)
    (hlong : ((Node.block block).text none).length < text.length) :
    ¬ OccurInOrder (block.mapTails (uniformContents text)).contents
      ((Node.block (block.mapTails (uniformContents text))).text none) := by
  intro hoccur
  have hput : ∀ tail, ∀ old ∈ contentsOf tail, text ∈ contentsOf (uniformContents text tail) := by
    intro tail old hold
    rw [contentsOf_uniformContents]
    exact List.mem_map_of_mem hold
  rw [Block.text_mapTails] at hoccur
  have hlength := (hoccur.isInfix (Block.mem_contents_mapTails hput block old hold)).length_le
  rw [String.length_toList, String.length_toList] at hlength
  omega

/-! ### When all contents are there -/

/-- **Which contents of a block its text holds.** Those in no tail stand in the text in order, so all
of them do when no tail holds any. Nothing less is enough: as soon as a tail holds a content, there
are tails with as many contents in the same places for which the text does not hold them all. -/
theorem contents_occur_iff (block : Block) :
    OccurInOrder block.kept ((Node.block block).text none) ∧
      (block.lost = [] → OccurInOrder block.contents ((Node.block block).text none)) ∧
      (block.lost = [] ↔
        ∀ f : List Node → List Node,
          (∀ tail, (contentsOf (f tail)).length = (contentsOf tail).length) →
            OccurInOrder (block.mapTails f).contents
              ((Node.block (block.mapTails f)).text none)) := by
  have hcontents : block.lost = [] →
      OccurInOrder block.contents ((Node.block block).text none) := by
    intro hlost
    have hkept : block.kept = block.contents := Block.contents_mapTails (fun _ _ => rfl) block hlost
    rw [← hkept]
    exact block.kept_occur
  refine ⟨block.kept_occur, hcontents, ?_, ?_⟩
  · intro hlost f hcount
    have hempty : ∀ tail, contentsOf tail = [] → contentsOf (f tail) = [] := by
      intro tail htail
      rw [← List.length_eq_zero_iff, hcount, htail, List.length_nil]
    rw [Block.text_mapTails, Block.contents_mapTails hempty block hlost]
    exact hcontents hlost
  · intro h
    refine List.eq_nil_iff_forall_not_mem.mpr fun old hold => ?_
    have hlong : ((Node.block block).text none).length <
        ((Node.block block).text none ++ " ").length := by
      rw [String.length_append]
      exact Nat.lt_add_of_pos_right (by decide)
    refine Block.not_occur_of_long hold hlong (h _ fun tail => ?_)
    rw [contentsOf_uniformContents, List.length_map]

/-- A block whose inverse program goes on after the block that it starts with. -/
def blockWithTail : Block where
  path := "if"
  args := ⟨[.path "a"], none⟩
  main := ⟨[.content "X"], none⟩
  inverse := some ⟨[.block ⟨"if", ⟨[.path "b"], none⟩, ⟨[.content "Y"], none⟩, none⟩,
    .content "tail"], none⟩

/-- The last content of this block is not in its text. -/
theorem tail_not_printed :
    (Node.block blockWithTail).text none =
        "\x7b\x7b#if a\x7d\x7dX\x7b\x7belse if b\x7d\x7dY\x7b\x7b/if\x7d\x7d" ∧
      blockWithTail.contents = ["X", "Y", "tail"] ∧
      ¬ OccurInOrder blockWithTail.contents ((Node.block blockWithTail).text none) := by
  have htext : (Node.block blockWithTail).text none =
      "\x7b\x7b#if a\x7d\x7dX\x7b\x7belse if b\x7d\x7dY\x7b\x7b/if\x7d\x7d" := by decide +kernel
  refine ⟨htext, rfl, fun hoccur => ?_⟩
  have htail : "tail" ∈ blockWithTail.contents := by decide +kernel
  have hfound := hoccur.isInfix htail
  rw [htext] at hfound
  have habsent : 't' ∉
      "\x7b\x7b#if a\x7d\x7dX\x7b\x7belse if b\x7d\x7dY\x7b\x7b/if\x7d\x7d".toList := by decide +kernel
  exact habsent (hfound.subset (by decide +kernel))

end TemplatePrinter
