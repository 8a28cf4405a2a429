/-!
# Bracketed paths

The path of a mustache is written in square brackets when a reader of templates could not take it
for a single name. A path of letters and digits never needs them. Any other path needs them unless
one of the reserved tokens occurs in it, in which case it is left to stand as it is.
-/

namespace TemplatePrinter.Text

/-- Whether the first text occurs somewhere in the second. -/
def occursIn (token : List Char) : List Char → Bool
  | [] => token.isEmpty
  | c :: rest => token.isPrefixOf (c :: rest) || occursIn token rest

/-- The tokens that mark a path as an ordinary one: built-in variables, relative scopes, and the
characters of dotted and snake-cased names. -/
def reservedTokens : List String :=
  ["@root", "@first", "@index", "@key", "@last", "@level", "../", "./", ".", "_"]

/-- Whether a reserved token occurs in the path. -/
def hasReservedToken (path : String) : Bool :=
  reservedTokens.any fun token => occursIn token.toList path.toList

/-- Whether the path is written in square brackets. -/
def needsBrackets (path : String) : Bool :=
  path.toList.any (fun c => !c.isAlphanum) && !hasReservedToken path

/-- The path of a mustache as it is written. -/
def bracketed (path : String) : String :=
  if needsBrackets path then "[" ++ path ++ "]" else path

theorem occursIn_iff {token text : List Char} : occursIn token text = true ↔ token <:+: text := by
  induction text with
  | nil => simp [occursIn]
  | cons c rest ih => simp [occursIn, ih, List.infix_cons_iff]

theorem hasReservedToken_iff {path : String} :
    hasReservedToken path = true ↔ ∃ token ∈ reservedTokens, token.toList <:+: path.toList := by
  simp only [hasReservedToken, List.any_eq_true, occursIn_iff]

theorem hasReservedToken_eq_false_iff {path : String} :
    hasReservedToken path = false ↔ ∀ token ∈ reservedTokens, ¬ token.toList <:+: path.toList := by
  simp only [hasReservedToken, List.any_eq_false, occursIn_iff]

theorem bracketed_of_hasReservedToken {path : String} (hpath : hasReservedToken path = true) :
    bracketed path = path := by
  rw [bracketed, needsBrackets, hpath]
  simp

end TemplatePrinter.Text
