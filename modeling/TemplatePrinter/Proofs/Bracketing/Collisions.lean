import TemplatePrinter.Node.Build
import TemplatePrinter.Proofs.Printer.Text
/-!
# Mustaches that look alike

A path stands in its mustache in square brackets or as it is, and the braces of the tag follow it
without a gap. This module says which mustaches without arguments have the same text. Brackets hide
nothing: no reserved token has a bracket at either end, so the text between two brackets that the
printer wrote holds no token, and a path that looks like it would have been put in brackets itself.
Braces do hide something. A path that begins and ends with a brace passes for the third brace of a
tag that does not escape its value, as soon as a reserved token keeps it out of brackets.
-/

namespace TemplatePrinter

namespace Text

/-! ### Reserved tokens between two characters -/

/-- A token that holds neither of two characters is found between them and not across them. -/
theorem infix_between_iff {token text : List Char} {left right : Char} (hleft : left ∉ token)
    (hright : right ∉ token) : token <:+: left :: (text ++ [right]) ↔ token <:+: text := by
  constructor
  · intro h
    rcases List.infix_cons_iff.mp h with hprefix | hinfix
    · rcases List.prefix_cons_iff.mp hprefix with rfl | ⟨rest, rfl, -⟩
      · exact List.nil_infix
      · exact absurd List.mem_cons_self hleft
    · rcases List.infix_concat_iff.mp hinfix with hsuffix | hinfix
      · rcases List.suffix_concat_iff.mp hsuffix with rfl | ⟨rest, rfl, -⟩
        · exact List.nil_infix
        · exact absurd (List.mem_append_right _ List.mem_cons_self) hright
      · exact hinfix
  · intro h
    exact h.trans ⟨[left], [right], rfl⟩

section Between

variable {path whole : String} {left right : Char}

theorem hasReservedToken_between (hwhole : whole.toList = left :: (path.toList ++ [right]))
    (hleft : ∀ token ∈ reservedTokens, left ∉ token.toList)
    (hright : ∀ token ∈ reservedTokens, right ∉ token.toList) :
    hasReservedToken whole = hasReservedToken path := by
  rw [Bool.eq_iff_iff, hasReservedToken_iff, hasReservedToken_iff, hwhole]
  refine exists_congr fun token => and_congr_right fun htoken => ?_
  exact infix_between_iff (hleft token htoken) (hright token htoken)

theorem needsBrackets_between (hwhole : whole.toList = left :: (path.toList ++ [right]))
    (hspecial : left.isAlphanum = false) : needsBrackets whole = !hasReservedToken whole := by
  rw [needsBrackets, hwhole, List.any_cons, hspecial]
  simp

end Between

theorem toList_brackets (path : String) :
    ("[" ++ path ++ "]").toList = '[' :: (path.toList ++ [']']) := by
  simp

theorem toList_braces (path : String) :
    ("\x7b" ++ path ++ "\x7d").toList = '\x7b' :: (path.toList ++ ['\x7d']) := by
  simp

theorem hasReservedToken_brackets (path : String) :
    hasReservedToken ("[" ++ path ++ "]") = hasReservedToken path :=
  hasReservedToken_between (toList_brackets path) (by decide) (by decide)

theorem hasReservedToken_braces (path : String) :
    hasReservedToken ("\x7b" ++ path ++ "\x7d") = hasReservedToken path :=
  hasReservedToken_between (toList_braces path) (by decide) (by decide)

theorem hasReservedToken_bracketed (path : String) :
    hasReservedToken (bracketed path) = hasReservedToken path := by
  unfold bracketed
  split
  · exact hasReservedToken_brackets path
  · rfl

/-! ### Paths with and without brackets -/

/-- What the printer puts in brackets, it would put in brackets again. -/
theorem needsBrackets_brackets {path : String} (hpath : needsBrackets path = true) :
    needsBrackets ("[" ++ path ++ "]") = true := by
  have hreserved : (!hasReservedToken path) = true := (Bool.and_eq_true_iff.mp hpath).2
  rw [needsBrackets_between (toList_brackets path) (by decide), hasReservedToken_brackets, hreserved]

theorem bracketed_injective : Function.Injective bracketed := by
  intro path other h
  unfold bracketed at h
  by_cases hpath : needsBrackets path = true <;> by_cases hother : needsBrackets other = true
  · rw [if_pos hpath, if_pos hother, String.append_left_inj, String.append_right_inj] at h
    exact h
  -- One path in brackets and one without: the brackets of the second would be its own.
  · rw [if_pos hpath, if_neg hother] at h
    exact absurd (h ▸ needsBrackets_brackets hpath) hother
  · rw [if_neg hpath, if_pos hother] at h
    exact absurd (h ▸ needsBrackets_brackets hother) hpath
  · rw [if_neg hpath, if_neg hother] at h
    exact h

/-- A path that looks like another between braces is that path between braces, and a reserved token
keeps both out of brackets. -/
theorem bracketed_eq_braces_iff {path other : String} :
    bracketed path = "\x7b" ++ bracketed other ++ "\x7d" ↔
      path = "\x7b" ++ other ++ "\x7d" ∧ hasReservedToken other = true := by
  constructor
  · intro h
    have hbare : needsBrackets path = false := by
      refine Bool.eq_false_iff.mpr fun hpath => ?_
      rw [bracketed, if_pos hpath] at h
      have hhead := congrArg (fun text : String => text.toList.head?) h
      simp at hhead
    have hbraced : path = "\x7b" ++ bracketed other ++ "\x7d" := by
      rw [← h, bracketed, hbare, if_neg Bool.false_ne_true]
    have hreserved : hasReservedToken other = true := by
      rw [hbraced, needsBrackets_between (toList_braces _) (by decide), Bool.not_eq_false',
        hasReservedToken_braces, hasReservedToken_bracketed] at hbare
      exact hbare
    rw [bracketed_of_hasReservedToken hreserved] at hbraced
    exact ⟨hbraced, hreserved⟩
  · rintro ⟨rfl, hreserved⟩
    have hbraced : hasReservedToken ("\x7b" ++ other ++ "\x7d") = true := by
      rw [hasReservedToken_braces, hreserved]
    rw [bracketed_of_hasReservedToken hbraced, bracketed_of_hasReservedToken hreserved]

end Text

/-- A mustache that does not escape its value has one brace more next to its path. -/
theorem openMustache_unescaped :
    Delimiter.openMustache false = Delimiter.openMustache true ++ "\x7b" := rfl

theorem closeMustache_unescaped :
    Delimiter.closeMustache false = "\x7d" ++ Delimiter.closeMustache true := rfl

/-- **Which mustaches without arguments look alike.** Those of two paths never do when both escape
their values or neither does. A mustache that escapes its value passes for one that does not exactly
when its path is the path of the other between braces and a reserved token occurs in that path. -/
theorem text_bareMustache_eq_iff (rule : Option Rule) (path other : String) :
    Function.Injective Text.bracketed ∧
      ((Node.ofMustache path).text rule = (Node.ofMustache other).text rule ↔ path = other) ∧
      ((Node.ofMustache path).unescaped.text rule = (Node.ofMustache other).unescaped.text rule ↔
        path = other) ∧
      ((Node.ofMustache path).text rule = (Node.ofMustache other).unescaped.text rule ↔
        path = "\x7b" ++ other ++ "\x7d" ∧
          ∃ token ∈ Text.reservedTokens, token.toList <:+: other.toList) := by
  have halike : ∀ escaped : Bool,
      (Node.mustache path {} escaped).text rule = (Node.mustache other {} escaped).text rule ↔
        path = other := by
    intro escaped
    rw [Node.text_bareMustache, Node.text_bareMustache, String.append_left_inj,
      String.append_right_inj, Text.bracketed_injective.eq_iff]
  refine ⟨Text.bracketed_injective, halike true, halike false, ?_⟩
  rw [Node.ofMustache, Node.ofMustache, Node.unescaped, Node.text_bareMustache,
    Node.text_bareMustache, openMustache_unescaped, closeMustache_unescaped,
    ← Text.hasReservedToken_iff, ← Text.bracketed_eq_braces_iff]
  have hregroup : Delimiter.openMustache true ++ "\x7b" ++ Text.bracketed other ++
        ("\x7d" ++ Delimiter.closeMustache true) =
      Delimiter.openMustache true ++ ("\x7b" ++ Text.bracketed other ++ "\x7d")
        ++ Delimiter.closeMustache true := by
    simp only [String.append_assoc]
  rw [hregroup, String.append_left_inj, String.append_right_inj]

/-- The dot keeps both paths out of brackets. -/
example : (Node.ofMustache "\x7ba.b\x7d").text none = (Node.ofMustache "a.b").unescaped.text none := by
  decide +kernel

end TemplatePrinter
