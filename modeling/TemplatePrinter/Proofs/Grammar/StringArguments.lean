import TemplatePrinter.Proofs.Printer.Text
/-!
# Strings as arguments

A string stands in its tag between single quotes, and nothing in it is changed. So a quote that
belongs to the string reads like the quote that ends it: where one string holds a quote, a space and
a quote, it passes for two, and any row of strings passes for the one string that holds the row with
what stands between its members. Two rows have the same text exactly when they are cut from one
text at different gaps.

This module says which rows can be told from their text. A row that no other row passes for has at
most one string, and no gap in it. Among strings in which no quote is followed by a space, all rows
are told apart, since the first gap is then the end of the first string.
-/

namespace TemplatePrinter

/-- A mustache whose arguments are strings. -/
def stringCall (path : String) (escaped : Bool) (values : List String) : Node :=
  .mustache path ⟨values.map .string, none⟩ escaped

namespace Text

/-- What stands between two strings of a row: the quote that ends the first, a space, and the quote
that starts the second. -/
def gap : String := "' '"

/-- The text holds no gap. -/
def Gapless (text : String) : Prop :=
  ¬ gap.toList <:+: text.toList

/-- No quote of the text is followed by a space. -/
def Tight (text : String) : Prop :=
  ¬ "' ".toList <:+: text.toList

/-! ### Rows of strings -/

/-- The quotes of a row: one before it, one after it, and the rest in the gaps. -/
theorem intercalate_quoteSingle {values : List String} (hvalues : values ≠ []) :
    " ".intercalate (values.map quoteSingle) = "'" ++ gap.intercalate values ++ "'" := by
  induction values with
  | nil => exact absurd rfl hvalues
  | cons value rest ih =>
    cases rest with
    | nil => simp [quoteSingle]
    | cons next rest =>
      have hgap : gap = "'" ++ " " ++ "'" := rfl
      have hrest := ih (List.cons_ne_nil next rest)
      rw [List.map_cons] at hrest
      rw [List.map_cons, List.map_cons, String.intercalate_cons_cons, hrest,
        String.intercalate_cons_cons, quoteSingle, hgap]
      simp only [String.append_assoc]

theorem intercalate_quoteSingle_ne_empty {values : List String} (hvalues : values ≠ []) :
    " ".intercalate (values.map quoteSingle) ≠ "" := by
  rw [intercalate_quoteSingle hvalues]
  simp

/-- Two rows look alike when both are empty, or neither is and they agree from the first quote to
the last. -/
theorem intercalate_quoteSingle_eq_iff (values others : List String) :
    " ".intercalate (others.map quoteSingle) = " ".intercalate (values.map quoteSingle) ↔
      (others = [] ↔ values = []) ∧ gap.intercalate others = gap.intercalate values := by
  by_cases hothers : others = [] <;> by_cases hvalues : values = []
  · simp [hothers, hvalues]
  · simpa [hothers, hvalues] using (intercalate_quoteSingle_ne_empty hvalues).symm
  · simpa [hothers, hvalues] using intercalate_quoteSingle_ne_empty hothers
  · rw [intercalate_quoteSingle hothers, intercalate_quoteSingle hvalues, String.append_left_inj,
      String.append_right_inj]
    simp [hothers, hvalues]

/-! ### Gaps in tight strings -/

/-- In tight text, nothing stands between the start of one gap and the start of the next. -/
theorem eq_nil_of_gap_append (start : List Char) {between rest rest' : List Char}
    (htight : ¬ "' ".toList <:+: start ++ between)
    (h : '\'' :: ' ' :: '\'' :: rest = between ++ '\'' :: ' ' :: '\'' :: rest') :
    between = [] := by
  match between with
  | [] => rfl
  | [c] => simp at h
  | c :: d :: between =>
    simp only [List.cons_append, List.cons.injEq] at h
    obtain ⟨rfl, rfl, -⟩ := h
    have hquote : ['\'', ' '] <+: '\'' :: ' ' :: between := List.prefix_append _ between
    exact absurd (hquote.isInfix.trans (List.suffix_append start _).isInfix) htight

/-- The first gap after a tight string is the one that ends it. -/
theorem tight_append_gap {text text' rest rest' : String} (htext : Tight text)
    (htext' : Tight text') (h : text ++ gap ++ rest = text' ++ gap ++ rest') :
    text = text' ∧ rest = rest' := by
  have hchars : text.toList ++ '\'' :: ' ' :: '\'' :: rest.toList =
      text'.toList ++ '\'' :: ' ' :: '\'' :: rest'.toList := by
    simpa [gap] using congrArg String.toList h
  have hsame : text.toList = text'.toList := by
    rcases List.append_eq_append_iff.mp hchars with ⟨more, hmore, hrest⟩ | ⟨more, hmore, hrest⟩
    · rw [Tight, hmore] at htext'
      rw [hmore, eq_nil_of_gap_append _ htext' hrest, List.append_nil]
    · rw [Tight, hmore] at htext
      rw [hmore, eq_nil_of_gap_append _ htext hrest, List.append_nil]
  obtain rfl := String.toList_inj.mp hsame
  refine ⟨rfl, ?_⟩
  rw [String.append_assoc, String.append_assoc, String.append_right_inj,
    String.append_right_inj] at h
  exact h

theorem Tight.gapless {text : String} (htext : Tight text) : Gapless text :=
  fun hgap => htext ((List.prefix_append ['\'', ' '] ['\'']).isInfix.trans hgap)

theorem not_gapless_append (text rest : String) : ¬ Gapless (text ++ gap ++ rest) := by
  refine not_not_intro ?_
  rw [String.toList_append, String.toList_append]
  exact List.infix_append _ _ _

/-- A row of tight strings is cut at its gaps and nowhere else. -/
theorem eq_of_intercalate_gap_eq {values others : List String}
    (hvalues : ∀ value ∈ values, Tight value) (hothers : ∀ other ∈ others, Tight other)
    (hempty : others = [] ↔ values = [])
    (h : gap.intercalate others = gap.intercalate values) : others = values := by
  induction values generalizing others with
  | nil => exact hempty.mpr rfl
  | cons value rest ih =>
    match others, rest with
    | [], _ => exact absurd (hempty.mp rfl) (List.cons_ne_nil _ _)
    | [other], [] =>
      rw [String.intercalate_singleton, String.intercalate_singleton] at h
      rw [h]
    | [other], next :: rest =>
      rw [String.intercalate_singleton, String.intercalate_cons_cons] at h
      have hgapless := (hothers other List.mem_cons_self).gapless
      rw [h] at hgapless
      exact absurd hgapless (not_gapless_append _ _)
    | other :: another :: others, [] =>
      rw [String.intercalate_singleton, String.intercalate_cons_cons] at h
      have hgapless := (hvalues value List.mem_cons_self).gapless
      rw [← h] at hgapless
      exact absurd hgapless (not_gapless_append _ _)
    | other :: another :: others, next :: rest =>
      rw [String.intercalate_cons_cons, String.intercalate_cons_cons] at h
      obtain ⟨rfl, hrest⟩ := tight_append_gap (hothers other List.mem_cons_self)
        (hvalues value List.mem_cons_self) h
      rw [ih (fun value hvalue => hvalues value (List.mem_cons_of_mem _ hvalue))
        (fun other hother => hothers other (List.mem_cons_of_mem _ hother)) (by simp) hrest]

end Text

theorem text_stringCall_eq_iff (path : String) (escaped : Bool) (values others : List String) :
    (stringCall path escaped others).text none = (stringCall path escaped values).text none ↔
      (others = [] ↔ values = []) ∧
        Text.gap.intercalate others = Text.gap.intercalate values := by
  have hargs : ∀ row : List String, Arguments.text ⟨row.map .string, none⟩ none =
      Text.afterSpace (" ".intercalate (row.map Text.quoteSingle)) := by
    intro row
    rw [Arguments.text_eq, paramsText_untargeted]
    simp [pairsText, Arguments.pairs, Text.afterSpace, Function.comp_def]
  rw [stringCall, stringCall, Node.text_mustache, Node.text_mustache, String.append_left_inj,
    String.append_right_inj, hargs, hargs, Text.afterSpace_injective.eq_iff,
    Text.intercalate_quoteSingle_eq_iff]

/-! ### Rows that can be told from their text -/

/-- Any row passes for the one string that holds it with its gaps. -/
theorem text_stringCall_joined (path : String) (escaped : Bool) {values : List String}
    (hvalues : values ≠ []) :
    (stringCall path escaped [Text.gap.intercalate values]).text none =
      (stringCall path escaped values).text none := by
  rw [text_stringCall_eq_iff, String.intercalate_singleton]
  simp [hvalues]

/-- A string with a gap passes for what stands before and after the gap. -/
theorem exists_passing_pair (path : String) (escaped : Bool) {value : String}
    (hvalue : ¬ Text.Gapless value) :
    ∃ before after, (stringCall path escaped [before, after]).text none =
      (stringCall path escaped [value]).text none := by
  obtain ⟨before, after, hchars⟩ := Classical.not_not.mp hvalue
  refine ⟨.ofList before, .ofList after, ?_⟩
  have hsplit : value = .ofList before ++ Text.gap ++ .ofList after := by
    rw [← String.toList_inj, ← hchars]
    simp
  rw [text_stringCall_eq_iff, String.intercalate_cons_cons, String.intercalate_singleton,
    String.intercalate_singleton]
  exact ⟨by simp, hsplit.symm⟩

/-- Nothing else passes for a string without a gap. -/
theorem eq_of_text_stringCall_eq {path : String} {escaped : Bool} {value : String}
    {others : List String} (hvalue : Text.Gapless value)
    (h : (stringCall path escaped others).text none = (stringCall path escaped [value]).text none) :
    others = [value] := by
  obtain ⟨hempty, hjoined⟩ := (text_stringCall_eq_iff path escaped [value] others).mp h
  rw [String.intercalate_singleton] at hjoined
  rcases others with _ | ⟨other, _ | ⟨another, others⟩⟩
  · exact absurd (hempty.mp rfl) (List.cons_ne_nil _ _)
  · rw [← hjoined, String.intercalate_singleton]
  · rw [← hjoined, String.intercalate_cons_cons] at hvalue
    exact absurd hvalue (Text.not_gapless_append _ _)

/-- **Which strings can be told from the text of their call.** No other row passes for a row exactly
when it has at most one string and no gap in it; and rows of tight strings are all told apart. -/
theorem strings_of_text_iff (path : String) (escaped : Bool) (values : List String) :
    ((∀ others, (stringCall path escaped others).text none =
          (stringCall path escaped values).text none → others = values) ↔
        values.length ≤ 1 ∧ ∀ value ∈ values, Text.Gapless value) ∧
      ∀ others, (∀ value ∈ values ++ others, Text.Tight value) →
        (stringCall path escaped others).text none = (stringCall path escaped values).text none →
          others = values := by
  refine ⟨⟨fun htold => ?_, fun hshort others h => ?_⟩, fun others htight h => ?_⟩
  · rcases values with _ | ⟨value, _ | ⟨next, rest⟩⟩
    · simp
    · refine ⟨Nat.le_refl 1, fun inner hinner => Classical.byContradiction fun hgap => ?_⟩
      obtain rfl := List.mem_singleton.mp hinner
      obtain ⟨before, after, hpasses⟩ := exists_passing_pair path escaped hgap
      simpa using htold _ hpasses
    · have hjoined := htold _ (text_stringCall_joined path escaped (List.cons_ne_nil value _))
      simp at hjoined
  · obtain ⟨hlength, hgapless⟩ := hshort
    rcases values with _ | ⟨value, _ | ⟨next, rest⟩⟩
    · exact ((text_stringCall_eq_iff path escaped [] others).mp h).1.mpr rfl
    · exact eq_of_text_stringCall_eq (hgapless value List.mem_cons_self) h
    · simp at hlength
  · obtain ⟨hempty, hjoined⟩ := (text_stringCall_eq_iff path escaped values others).mp h
    exact Text.eq_of_intercalate_gap_eq
      (fun value hvalue => htight value (List.mem_append_left _ hvalue))
      (fun other hother => htight other (List.mem_append_right _ hother)) hempty hjoined

/-- A quote alone does no harm: nothing else passes for the string with an apostrophe. -/
theorem apostrophe_told_from_text :
    Text.Gapless "it's" ∧
      ∀ others, (stringCall "h" true others).text none =
        (stringCall "h" true ["it's"]).text none → others = ["it's"] := by
  have hgapless : Text.Gapless "it's" := by
    unfold Text.Gapless
    decide
  refine ⟨hgapless, (strings_of_text_iff "h" true ["it's"]).1.mpr ⟨Nat.le_refl 1, ?_⟩⟩
  simpa using hgapless

/-- One string with a gap in it passes for two. -/
theorem string_passes_for_two :
    (stringCall "h" true ["a' 'b"]).text none = "\x7b\x7bh 'a' 'b'\x7d\x7d" ∧
      (stringCall "h" true ["a", "b"]).text none = "\x7b\x7bh 'a' 'b'\x7d\x7d" ∧
      ["a' 'b"] ≠ ["a", "b"] := by
  decide +kernel

end TemplatePrinter
