import TemplatePrinter.Text.Quoted
/-!
# Stock modifiers

A modifier is any function on texts. These are the ones that come by name.
-/

namespace TemplatePrinter

inductive Modifier where
  | quoteSingle
  | identity
  | upper
  | lower
  | reverse
  | length
  | double
  | before (text : String)
  | after (text : String)
  | const (text : String)
  | replace (pattern replacement : String)

namespace Modifier

/-- Replaces the occurrences of a pattern from left to right, none overlapping the one before. The
first argument counts the characters of the last occurrence that are still to be passed over. -/
def replaceFrom (pattern replacement : List Char) : Nat → List Char → List Char
  | _, [] => []
  | skip + 1, _ :: rest => replaceFrom pattern replacement skip rest
  | 0, c :: rest =>
    if !pattern.isEmpty && pattern.isPrefixOf (c :: rest) then
      replacement ++ replaceFrom pattern replacement (pattern.length - 1) rest
    else c :: replaceFrom pattern replacement 0 rest

/-- What a stock modifier makes of a text. Case changes ASCII letters alone, and lengths count
characters. -/
def run : Modifier → String → String
  | .quoteSingle, text => Text.quoteSingle text
  | .identity, text => text
  | .upper, text => .ofList (text.toList.map Char.toUpper)
  | .lower, text => .ofList (text.toList.map Char.toLower)
  | .reverse, text => .ofList text.toList.reverse
  | .length, text => toString text.toList.length
  | .double, text => text ++ text
  | .before added, text => added ++ text
  | .after added, text => text ++ added
  | .const fixed, _ => fixed
  | .replace pattern replacement, text =>
    .ofList (replaceFrom pattern.toList replacement.toList 0 text.toList)

end Modifier

end TemplatePrinter
