import TemplatePrinter.Text.Unprintable
/-!
# Quoted text

A quoted text stands between double quotes on one line, and every character in it can be seen: a
double quote and a backslash take a backslash, the four commonest controls have short names, and
any other unprintable character is given by its code point.
-/

namespace TemplatePrinter.Text

/-- A character as it stands in a quoted text. -/
def quotedChar (c : Char) : List Char :=
  if c = '"' then ['\\', '"']
  else if c = '\\' then ['\\', '\\']
  else if c = '\n' then ['\\', 'n']
  else if c = '\r' then ['\\', 'r']
  else if c = '\t' then ['\\', 't']
  else if c = '\x00' then ['\\', '0']
  else if isUnprintable c then
    ['\\', 'u', '\x7b'] ++ Nat.toDigits 16 c.toNat ++ ['\x7d']
  else [c]

/-- A text between double quotes. -/
def quoted (s : String) : String :=
  .ofList ('"' :: s.toList.flatMap quotedChar ++ ['"'])

/-- A text between single quotes, which nothing in it changes. -/
def quoteSingle (s : String) : String :=
  "'" ++ s ++ "'"

end TemplatePrinter.Text
