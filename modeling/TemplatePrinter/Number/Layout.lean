import TemplatePrinter.Number.Shortest
/-!
# Number text

A `Layout` decides how a shortest decimal is spelled: when an exponent is written, what marks a
whole number, and which way a tie goes. Templates and diagnostics use one layout each.
-/

namespace TemplatePrinter

/-- The decisions that turn digits into text. The place of the decimal point is counted from the
left end of the digits. -/
structure Layout where
  tie : Tie
  /-- The places of the decimal point for which the number is written without an exponent. -/
  positional : Int → Bool
  /-- What follows the digits of a whole number. -/
  wholeMark : List Char

namespace Layout

/-- Numbers in a template are always written out in full, whole numbers without a point. -/
def template : Layout :=
  ⟨.up, fun _ => true, []⟩

/-- Numbers in a diagnostic are written out in full from `1e-5` up to below `1e16`, and whole
numbers end in `.0`. -/
def diagnostic : Layout :=
  ⟨.even, fun point => decide (-5 < point) && decide (point ≤ 16), ['.', '0']⟩

/-- Digits with the decimal point at its place and zeros where no digit stands. -/
def inFull (layout : Layout) (digits : List Char) (exponent : Int) : List Char :=
  let point := digits.length + exponent
  if 0 ≤ exponent then digits ++ List.replicate exponent.toNat '0' ++ layout.wholeMark
  else if 0 < point then digits.take point.toNat ++ '.' :: digits.drop point.toNat
  else '0' :: '.' :: List.replicate (-point).toNat '0' ++ digits

/-- The power of ten after the exponent mark. It always carries its sign. -/
def signedPower : Int → List Char
  | .ofNat power => '+' :: Nat.toDigits 10 power
  | .negSucc power => '-' :: Nat.toDigits 10 (power + 1)

/-- Digits with one of them before the decimal point, and an exponent. -/
def withExponent (digits : List Char) (exponent : Int) : List Char :=
  let power := signedPower (digits.length + exponent - 1)
  match digits with
  | [] => []
  | [digit] => digit :: 'e' :: power
  | digit :: rest => digit :: '.' :: rest ++ 'e' :: power

/-- The text of a decimal. -/
def decimal (layout : Layout) (d : Decimal) : List Char :=
  let digits := Nat.toDigits 10 d.coefficient
  if layout.positional (digits.length + d.exponent) then layout.inFull digits d.exponent
  else withExponent digits d.exponent

/-- The text of a number. -/
def text (layout : Layout) (x : Binary64) : String :=
  if x.isNaN then "NaN"
  else
    let magnitude := if x.isFinite then layout.decimal (x.shortest layout.tie) else ['i', 'n', 'f']
    .ofList (if x.negative then '-' :: magnitude else magnitude)

end Layout

/-- The text of a number in a template. -/
def Binary64.text (x : Binary64) : String :=
  Layout.template.text x

/-! ### The characters of a number -/

/-- A character that the text of a number in a template may hold. -/
def numberChar (c : Char) : Bool :=
  c.isDigit || "-.NaNinf".toList.contains c

theorem numberChar_of_mem_toDigits {n : Nat} {c : Char} (hc : c ∈ Nat.toDigits 10 n) :
    numberChar c := by
  have hdigit : c.isDigit := Nat.isDigit_of_mem_toDigits (by decide) (by decide) hc
  rw [numberChar, hdigit]
  rfl

/-- A decimal in a template is written with digits and a point. -/
theorem numberChar_of_mem_decimal {d : Decimal} {c : Char}
    (hc : c ∈ Layout.template.decimal d) : numberChar c := by
  simp only [Layout.decimal, Layout.template, Layout.inFull, if_true] at hc
  split at hc
  · simp only [List.append_nil, List.mem_append, List.mem_replicate] at hc
    obtain hc | ⟨-, rfl⟩ := hc
    · exact numberChar_of_mem_toDigits hc
    · decide
  · split at hc
    · simp only [List.mem_append, List.mem_cons] at hc
      obtain hc | rfl | hc := hc
      · exact numberChar_of_mem_toDigits (List.mem_of_mem_take hc)
      · decide
      · exact numberChar_of_mem_toDigits (List.mem_of_mem_drop hc)
    · simp only [List.cons_append, List.mem_append, List.mem_cons, List.mem_replicate] at hc
      obtain rfl | rfl | ⟨-, rfl⟩ | hc := hc
      · decide
      · decide
      · decide
      · exact numberChar_of_mem_toDigits hc

theorem Binary64.numberChar_of_mem_text {x : Binary64} {c : Char} (hc : c ∈ x.text.toList) :
    numberChar c := by
  have hall : x.text.toList.all numberChar := by
    unfold Binary64.text Layout.text
    split
    · decide
    · have hmagnitude : (if x.isFinite then
          Layout.template.decimal (x.shortest Layout.template.tie)
          else ['i', 'n', 'f']).all numberChar := by
        split
        · exact List.all_eq_true.mpr fun c hc => numberChar_of_mem_decimal hc
        · decide
      rw [String.toList_ofList]
      split
      · rw [List.all_cons, hmagnitude]
        decide
      · exact hmagnitude
  exact List.all_eq_true.mp hall c hc

end TemplatePrinter
