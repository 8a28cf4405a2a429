import TemplatePrinter.Node.Build
import TemplatePrinter.Proofs.Printer.Text
/-!
# Plain paths

A path is plain when it reads as one name: relative scopes first, then perhaps a built-in variable,
then letters, digits, underscores and dots. A plain path is never put in brackets, since it holds a
reserved token as soon as it holds anything but letters and digits. The converse fails. The printer
asks whether a token occurs, wherever it does and whatever stands beside it, so a path with a space
or a brace in it stays bare when it also has a dot. This module says exactly which paths the printer
puts in brackets.
-/

namespace TemplatePrinter

/-- A letter, a digit, an underscore or a point. -/
def plainChar (c : Char) : Bool :=
  c.isAlphanum || c == '_' || c == '.'

namespace Text

/-- The markers of a scope relative to the one at hand. -/
def scopeMarkers : List String :=
  ["../", "./"]

/-- The variables that are always there. -/
def builtinVariables : List String :=
  ["@root", "@first", "@index", "@key", "@last", "@level"]

/-- The characters of names, markers and variables. -/
def isPathChar (c : Char) : Bool :=
  plainChar c || c == '@' || c == '/'

/-- A path in three parts. -/
structure PlainPath where
  scopes : List String
  builtin : Option String
  name : String
  scopes_markers : ∀ scope ∈ scopes, scope ∈ scopeMarkers
  builtin_known : ∀ known ∈ builtin, known ∈ builtinVariables
  name_chars : ∀ c ∈ name.toList, plainChar c = true

/-- A plain path as it is written. -/
def PlainPath.text (plain : PlainPath) : String :=
  String.join plain.scopes ++ plain.builtin.getD "" ++ plain.name

/-- The path reads as a plain one. -/
def IsPlain (path : String) : Prop :=
  ∃ plain : PlainPath, plain.text = path

/-! ### The characters of a plain path -/

theorem PlainPath.toList_text (plain : PlainPath) :
    plain.text.toList =
      plain.scopes.flatMap String.toList ++ (plain.builtin.getD "").toList ++ plain.name.toList := by
  rw [PlainPath.text, String.toList_append, String.toList_append, String.toList_join]

/-- No other character stands in a plain path. -/
theorem IsPlain.chars {path : String} (hpath : IsPlain path) :
    path.toList.all isPathChar = true := by
  obtain ⟨plain, rfl⟩ := hpath
  have hmarkers : ∀ marker ∈ scopeMarkers, marker.toList.all isPathChar = true := by decide
  have hvariables : ∀ known ∈ builtinVariables, known.toList.all isPathChar = true := by decide
  rw [PlainPath.toList_text, List.all_append, List.all_append, Bool.and_eq_true, Bool.and_eq_true]
  refine ⟨⟨?_, ?_⟩, ?_⟩
  · rw [List.all_flatMap, List.all_eq_true]
    exact fun scope hscope => hmarkers scope (plain.scopes_markers scope hscope)
  · cases hknown : plain.builtin with
    | none => rfl
    | some known => exact hvariables known (plain.builtin_known known hknown)
  · refine List.all_eq_true.mpr fun c hc => ?_
    rw [isPathChar, plain.name_chars c hc, Bool.true_or, Bool.true_or]

section Parts

variable (plain : PlainPath)

theorem PlainPath.scope_infix {scope : String} (hscope : scope ∈ plain.scopes) :
    scope.toList <:+: plain.text.toList := by
  rw [PlainPath.toList_text, List.append_assoc, List.flatMap_def]
  exact (List.infix_of_mem_flatten (List.mem_map_of_mem hscope)).trans
    (List.prefix_append _ _).isInfix

theorem PlainPath.builtin_infix {known : String} (hknown : plain.builtin = some known) :
    known.toList <:+: plain.text.toList := by
  rw [PlainPath.toList_text, hknown, Option.getD_some]
  exact List.infix_append _ _ _

theorem PlainPath.name_infix : plain.name.toList <:+: plain.text.toList := by
  rw [PlainPath.toList_text]
  exact (List.suffix_append _ _).isInfix

end Parts

/-- A plain path that is more than letters and digits holds a reserved token: a marker, a variable,
an underscore or a dot. -/
theorem IsPlain.exists_token {path : String} (hpath : IsPlain path) {c : Char}
    (hc : c ∈ path.toList) (hspecial : c.isAlphanum = false) :
    ∃ token ∈ reservedTokens, token.toList <:+: path.toList := by
  obtain ⟨plain, rfl⟩ := hpath
  rw [PlainPath.toList_text, List.mem_append, List.mem_append] at hc
  rcases hc with (hscope | hbuiltin) | hname
  · obtain ⟨scope, hscope, -⟩ := List.mem_flatMap.mp hscope
    have hmarkers : ∀ marker ∈ scopeMarkers, marker ∈ reservedTokens := by decide
    exact ⟨scope, hmarkers scope (plain.scopes_markers scope hscope), plain.scope_infix hscope⟩
  · cases hknown : plain.builtin with
    | none => simp [hknown] at hbuiltin
    | some known =>
      have hvariables : ∀ known ∈ builtinVariables, known ∈ reservedTokens := by decide
      exact ⟨known, hvariables known (plain.builtin_known known hknown), plain.builtin_infix hknown⟩
  · have hchar := plain.name_chars c hname
    rw [plainChar, hspecial, Bool.false_or, Bool.or_eq_true, beq_iff_eq, beq_iff_eq] at hchar
    obtain ⟨before, after, hsplit⟩ := List.append_of_mem hname
    have hinfix : [c] <:+: plain.name.toList := ⟨before, after, by simp [hsplit]⟩
    rcases hchar with rfl | rfl
    · exact ⟨"_", by decide, hinfix.trans plain.name_infix⟩
    · exact ⟨".", by decide, hinfix.trans plain.name_infix⟩

/-- A path of letters and digits is a name and nothing else. -/
theorem isPlain_of_alphanum {path : String} (hpath : ∀ c ∈ path.toList, c.isAlphanum = true) :
    IsPlain path := by
  have hname : ∀ c ∈ path.toList, plainChar c = true := by
    intro c hc
    rw [plainChar, hpath c hc, Bool.true_or, Bool.true_or]
  refine ⟨⟨[], none, path, by simp, by simp, hname⟩, ?_⟩
  simp [PlainPath.text]

/-! ### Which paths are put in brackets -/

theorem needsBrackets_iff {path : String} :
    needsBrackets path = true ↔
      ¬ IsPlain path ∧ ∀ token ∈ reservedTokens, ¬ token.toList <:+: path.toList := by
  rw [needsBrackets, Bool.and_eq_true, Bool.not_eq_true', hasReservedToken_eq_false_iff,
    List.any_eq_true]
  refine and_congr_left fun hfree => ⟨?_, fun hplain => ?_⟩
  · rintro ⟨c, hc, hspecial⟩ hplain
    rw [Bool.not_eq_true'] at hspecial
    obtain ⟨token, htoken, hinfix⟩ := hplain.exists_token hc hspecial
    exact hfree token htoken hinfix
  · refine Classical.byContradiction fun hnone => hplain (isPlain_of_alphanum fun c hc => ?_)
    refine Classical.byContradiction fun hspecial => hnone ⟨c, hc, ?_⟩
    rw [Bool.not_eq_true', Bool.eq_false_iff]
    exact hspecial

theorem needsBrackets_eq_false_iff {path : String} :
    needsBrackets path = false ↔
      IsPlain path ∨ ∃ token ∈ reservedTokens, token.toList <:+: path.toList := by
  rw [← hasReservedToken_iff, Bool.eq_false_iff, ne_eq, needsBrackets_iff,
    ← hasReservedToken_eq_false_iff]
  cases hasReservedToken path <;> simp

end Text

/-- **Which paths stand in brackets.** A mustache without arguments holds its path as it is exactly
when the path is plain or a reserved token occurs in it, and between brackets exactly when neither
is the case. So plain paths alone stay bare except where a token occurs in a path that is not plain.
-/
theorem bareMustache_text_iff (path : String) (escaped : Bool) (rule : Option Rule) :
    ((Node.mustache path {} escaped).text rule =
          Delimiter.openMustache escaped ++ path ++ Delimiter.closeMustache escaped ↔
        Text.IsPlain path ∨ ∃ token ∈ Text.reservedTokens, token.toList <:+: path.toList) ∧
      ((Node.mustache path {} escaped).text rule =
          Delimiter.openMustache escaped ++ ("[" ++ path ++ "]") ++ Delimiter.closeMustache escaped ↔
        ¬ Text.IsPlain path ∧ ∀ token ∈ Text.reservedTokens, ¬ token.toList <:+: path.toList) := by
  have hne : path ≠ "[" ++ path ++ "]" := by
    intro h
    have hlength := congrArg String.length h
    simp only [String.length_append] at hlength
    have hbracket : "[".length = 1 := rfl
    omega
  rw [Node.text_bareMustache, String.append_left_inj, String.append_right_inj,
    String.append_left_inj, String.append_right_inj, ← Text.needsBrackets_eq_false_iff,
    ← Text.needsBrackets_iff, Text.bracketed]
  cases Text.needsBrackets path with
  | true => simp [hne.symm]
  | false => simp [hne]

/-- A space does not put a path in brackets when it has a dot as well, and the path then reads as a
call with an argument. -/
theorem spaced_path_unbracketed :
    ¬ Text.IsPlain "a b.c" ∧
      (Node.ofMustache "a b.c").text none = "\x7b\x7ba b.c\x7d\x7d" ∧
      (Node.ofMustache "a b.c").text none ≠ "\x7b\x7b[a b.c]\x7d\x7d" ∧
      (Node.mustache "a" ⟨[.path "b.c"], none⟩ true).text none = "\x7b\x7ba b.c\x7d\x7d" := by
  refine ⟨fun hplain => ?_, by decide +kernel, by decide +kernel, by decide +kernel⟩
  exact absurd hplain.chars (by decide)

end TemplatePrinter
