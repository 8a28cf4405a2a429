import TemplatePrinter.Proofs.Printer.Text
import TemplatePrinter.Rule.Modifier
/-!
# Computed names of partials

A call is written in two places: as an expression, and as the name of a partial that the call
computes. A rule looks at the first and passes over the second. This module says when the
difference shows: the name of a partial is written like the same call anywhere else if and only if
the modifiers leave alone the argument that the rule would pick.
-/

namespace TemplatePrinter

/-- Changing one text of a line of texts shows in the line. -/
theorem intercalate_set_eq_iff (texts : List String) (i : Nat) (text : String) :
    " ".intercalate (texts.set i text) = " ".intercalate texts ↔
      ∀ old, texts[i]? = some old → text = old := by
  induction texts generalizing i with
  | nil => simp
  | cons first rest ih =>
    cases i with
    | zero =>
      have hold : (∀ old, (first :: rest)[0]? = some old → text = old) ↔ text = first := by simp
      rw [hold, List.set_cons_zero]
      cases rest with
      | nil => simp
      | cons next rest =>
        rw [String.intercalate_cons_cons, String.intercalate_cons_cons, String.append_left_inj,
          String.append_left_inj]
    | succ i =>
      rw [List.set_cons_succ, List.getElem?_cons_succ, ← ih i]
      by_cases hrest : rest = []
      · simp [hrest]
      · have hset : rest.set i text ≠ [] := by simpa using hrest
        rw [String.intercalate_cons_of_ne_nil hset, String.intercalate_cons_of_ne_nil hrest,
          String.append_right_inj]

section Call

variable {rule : Rule} {callee : String} {params : List Node}

theorem Rule.selects_position {i : Nat} {param : Node} (h : rule.selects callee (i + 1) param) :
    rule.position - 1 = i := by
  have hposition : rule.position = i + 1 := (Rule.selects_iff.mp h).2.1
  omega

/-- The arguments of a call when the rule picks one of them: that one alone is modified. -/
theorem argumentTexts_of_selected {param : Node} (hparam : params[rule.position - 1]? = some param)
    (hselects : rule.selects callee rule.position param) :
    (params.mapIdx fun i param => argumentText (some rule) (some callee) (i + 1) param) =
      (params.map fun param => param.text (some rule)).set (rule.position - 1)
        (rule.apply (param.text (some rule))) := by
  have hposition : rule.position - 1 + 1 = rule.position := Nat.sub_add_cancel rule.position_pos
  refine List.mapIdx_eq_iff.mpr fun i => ?_
  by_cases hi : rule.position - 1 = i
  · subst hi
    have hlt : rule.position - 1 < params.length := (List.getElem?_eq_some_iff.mp hparam).1
    rw [List.getElem?_set_self (by simpa using hlt), hparam, Option.map_some, hposition,
      argumentText, selected?, if_pos hselects]
  · rw [List.getElem?_set_ne hi, List.getElem?_map]
    refine Option.map_congr fun other _ => ?_
    rw [argumentText, selected?, if_neg fun h => hi (Rule.selects_position h)]

/-- The arguments of a call when the rule picks none of them. -/
theorem argumentTexts_of_unselected
    (hparams : ∀ param, params[rule.position - 1]? = some param →
      rule.selects callee rule.position param = false) :
    (params.mapIdx fun i param => argumentText (some rule) (some callee) (i + 1) param) =
      params.map fun param => param.text (some rule) := by
  refine List.mapIdx_eq_iff.mpr fun i => ?_
  rw [List.getElem?_map]
  refine Option.map_congr fun param hparam => ?_
  have hselects : ¬ rule.selects callee (i + 1) param := by
    intro h
    have hi := Rule.selects_position h
    have hposition : rule.position = i + 1 := by
      have := rule.position_pos
      omega
    rw [← hi] at hparam
    rw [← hposition, hparams param hparam] at h
    exact Bool.false_ne_true h
  rw [argumentText, selected?, if_neg hselects]

theorem PartialName.text_sub_eq_text_sub_iff :
    (PartialName.sub callee ⟨params, none⟩).text (some rule) =
        (Node.sub callee ⟨params, none⟩).text (some rule) ↔
      ∀ param, params[rule.position - 1]? = some param →
        rule.selects callee rule.position param →
          rule.apply (param.text (some rule)) = param.text (some rule) := by
  have hpairs : pairsText (fun value => Text.quoteSingle value.rawValue)
      (Arguments.pairs ⟨params, none⟩) = "" := rfl
  rw [PartialName.text_sub, Node.text_sub, hpairs, String.append_empty, String.append_left_inj,
    String.append_right_inj, paramsText_uncalled, paramsText, Text.afterSpace_injective.eq_iff]
  by_cases hchosen : ∃ param, params[rule.position - 1]? = some param ∧
      rule.selects callee rule.position param
  · obtain ⟨param, hparam, hselects⟩ := hchosen
    rw [argumentTexts_of_selected hparam hselects, eq_comm, intercalate_set_eq_iff]
    simp [hparam, hselects]
  · have hparams : ∀ param, params[rule.position - 1]? = some param →
        rule.selects callee rule.position param = false := by
      intro param hparam
      exact Bool.eq_false_iff.mpr fun h => hchosen ⟨param, hparam, h⟩
    rw [argumentTexts_of_unselected hparams]
    refine iff_of_true rfl fun param hparam hselects => absurd ⟨param, hparam, hselects⟩ hchosen

end Call

/-- **When a computed name is written like the call that computes it.** Both kinds of partial hold
the text of the call as it is anywhere else exactly when the modifiers leave alone the argument that
the rule picks in such a call, if it picks one. -/
theorem text_computed_partial_iff (rule : Rule) (callee : String) (params : List Node)
    (args : Arguments) (fallback : Program) :
    ((Node.partialTag (.sub callee ⟨params, none⟩) args).text (some rule) =
          Delimiter.openPartial ++ (Node.sub callee ⟨params, none⟩).text (some rule)
            ++ args.text (some rule) ++ Delimiter.closePartial ∧
        (Node.partialBlock (.sub callee ⟨params, none⟩) args fallback).text (some rule) =
          Delimiter.openPartial ++ (Node.sub callee ⟨params, none⟩).text (some rule)
            ++ args.text (some rule) ++ Delimiter.closePartial) ↔
      ∀ param, params[rule.position - 1]? = some param →
        rule.selects callee rule.position param →
          rule.apply (param.text (some rule)) = param.text (some rule) := by
  rw [Node.text_partialBlock, Node.text_partialTag, and_self, String.append_left_inj,
    String.append_left_inj, String.append_right_inj]
  exact PartialName.text_sub_eq_text_sub_iff

/-- Puts the second argument of every call of `filter` in quotes. -/
def quoteSecondOfFilter : Rule where
  helper := "filter"
  paramKind := .sub
  position := 2
  modifiers := [Modifier.quoteSingle.run]
  helper_ne_empty := by decide
  position_pos := by decide

/-- Arguments the second of which is a call. -/
def itemsById : Arguments :=
  ⟨[.path "items", .sub "id" ⟨[.path "gt"], none⟩], none⟩

/-- A call that computes a name keeps the argument that the rule quotes in the same call elsewhere. -/
theorem computed_name_unquoted :
    (Node.sub "filter" itemsById).text (some quoteSecondOfFilter) = "(filter items '(id gt)')" ∧
      (Node.partialTag (.sub "filter" itemsById) {}).text (some quoteSecondOfFilter) =
        "\x7b\x7b> (filter items (id gt)) \x7d\x7d" ∧
      (Node.partialTag (.sub "filter" itemsById) {}).text (some quoteSecondOfFilter) ≠
        Delimiter.openPartial ++ (Node.sub "filter" itemsById).text (some quoteSecondOfFilter)
          ++ Arguments.text {} (some quoteSecondOfFilter) ++ Delimiter.closePartial := by
  decide +kernel

end TemplatePrinter
