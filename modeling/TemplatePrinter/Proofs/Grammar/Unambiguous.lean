import TemplatePrinter.Node.Build
import TemplatePrinter.Proofs.Grammar.Statement
/-!
# The text of a well-formed tree determines the tree

Two members of one category with the same text are the same tree, whatever their depth. Nothing
about the trees has to be known beforehand except their category: the text `'a'` is an expression
and it is content, and a template with a single statement has the text of that statement.
-/

namespace TemplatePrinter

private theorem Node.chars_eq_of_text_eq {node node' : Node}
    (h : node.text none = node'.text none) : node.chars = node'.chars := by
  rw [Node.chars, Node.chars, h]

theorem Node.expression_eq_of_text_eq {node node' : Node} (hnode : node.isExpression)
    (hnode' : node'.isExpression) (h : node.text none = node'.text none) : node = node' := by
  -- Any rest that may follow an argument will do, since nothing follows a whole text.
  have hclosed : node.chars ++ [')'] = node'.chars ++ [')'] := by
    rw [Node.chars_eq_of_text_eq h]
  exact (node.readsBack hnode node' _ _ hnode' rfl rfl hclosed).1

theorem Node.statement_eq_of_text_eq {node node' : Node} (hnode : node.isStatement)
    (hnode' : node'.isStatement) (h : node.text none = node'.text none) : node = node' := by
  have hafter : ∀ node : Node, afterStatement node [] := by
    intro node
    cases node <;> rfl
  have hblock : ∀ block, node = .block block → block.ReadsBack := by
    rintro block rfl
    rw [Node.isStatement] at hnode
    exact block.readsBack hnode
  have hchars : node.chars ++ [] = node'.chars ++ [] := by
    rw [Node.chars_eq_of_text_eq h]
  exact (Node.statement_readsBack hnode hnode' (hafter node) (hafter node') hblock hchars).1

theorem body_eq_of_text_eq {body body' : List Node} (hbody : isBody body) (hbody' : isBody body')
    (h : bodyText none body = bodyText none body') : body = body' := by
  have hchars : bodyChars body ++ [] = bodyChars body' ++ [] := by
    rw [bodyChars, bodyChars, h]
  exact (body_readsBack hbody hbody' (blocks_readBack body hbody) rfl rfl hchars).1

/-- **The text determines the tree.** -/
theorem eq_of_text_eq {category : Category} {node node' : Node} (hnode : node.belongsTo category)
    (hnode' : node'.belongsTo category) (h : node.text none = node'.text none) :
    node = node' := by
  cases category with
  | expression => exact Node.expression_eq_of_text_eq hnode hnode' h
  | statement => exact Node.statement_eq_of_text_eq hnode hnode' h
  | template =>
    match node, node' with
    | .program ⟨body, names⟩, .program ⟨body', names'⟩ =>
      simp only [Node.belongsTo, Bool.and_eq_true, Option.isNone_iff_eq_none] at hnode hnode'
      obtain ⟨rfl, hbody⟩ := hnode
      obtain ⟨rfl, hbody'⟩ := hnode'
      rw [Node.text_program, Node.text_program] at h
      rw [body_eq_of_text_eq hbody hbody' h]

/-- A tree built call by call and the same tree written out, told to be equal by their text. -/
theorem eq_of_text_eq_chain :
    let built := Node.ofBody [
      ((Node.ofBlock "each").addParam
        ((((Node.ofSub "filter").addParam (.path "as")).addParam
          ((Node.ofSub "id").addParam (.boolean true))).addPair "by" (.string "x y"))).withMain
          ⟨[.content "a\x7d", (Node.ofMustache "foo-bar").unescaped], some ["item", "index"]⟩
        |>.withInverse ⟨[(Node.ofBlock "if").addParam (.path "b")
          |>.withInverse ⟨[.comment " \x7b ", Node.ofPartial (.sub "pick" ⟨[.null], none⟩)], none⟩],
          none⟩]
    let written := Node.program ⟨[.block ⟨"each",
      ⟨[.sub "filter" ⟨[.path "as", .sub "id" ⟨[.boolean true], none⟩],
        some [⟨"by", .string "x y"⟩]⟩], none⟩,
      ⟨[.content "a\x7d", .mustache "foo-bar" ⟨[], none⟩ false], some ["item", "index"]⟩,
      some ⟨[.block ⟨"if", ⟨[.path "b"], none⟩, ⟨[], none⟩,
        some ⟨[.comment " \x7b ", .partialTag (.sub "pick" ⟨[.null], none⟩) ⟨[], none⟩], none⟩⟩],
        none⟩⟩], none⟩
    built.belongsTo .template ∧ written.belongsTo .template ∧
      built.text none = written.text none ∧ built = written := by
  intro built written
  have hbuilt : built.belongsTo .template := by decide
  have hwritten : written.belongsTo .template := by decide
  have htext : built.text none = written.text none := by
    rw [Node.text_eq_render, Node.text_eq_render]
    decide +kernel
  exact ⟨hbuilt, hwritten, htext, eq_of_text_eq hbuilt hwritten htext⟩

end TemplatePrinter
