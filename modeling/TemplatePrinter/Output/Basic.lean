import TemplatePrinter.Output.Event
/-!
# Output

The text written so far and the events reported so far. Outputs are joined by `++`, which joins
the texts and the events apart; the empty output is neutral for it and it is associative.
-/

namespace TemplatePrinter

@[ext]
structure Output where
  text : String := ""
  events : List Event := []

namespace Output

instance : Append Output where
  append a b := ⟨a.text ++ b.text, a.events ++ b.events⟩

/-- The output of a text alone. -/
def ofText (text : String) : Output :=
  ⟨text, []⟩

/-- Writes a text. -/
def push (out : Output) (text : String) : Output :=
  { out with text := out.text ++ text }

/-- Reports an event. -/
def emit (out : Output) (event : Event) : Output :=
  { out with events := out.events ++ [event] }

/-- Takes back what was written from a byte position of the text on. A position inside a character
or past the end takes nothing back. -/
def truncate (out : Output) (mark : String.Pos.Raw) : Output :=
  if stands : mark.IsValid out.text then
    { out with text := (out.text.sliceTo (out.text.pos mark stands)).copy }
  else out

/-- Writes after a separating space, and takes the space back when nothing was written after it.
-/
def segment (out : Output) (write : Output → Output) : Output :=
  let mark := out.text.rawEndPos
  let spaced := out.push " "
  let written := write spaced
  if written.text.utf8ByteSize = spaced.text.utf8ByteSize then written.truncate mark else written

/-- The output after a space, or without one when it has no text. -/
def spaced (out : Output) : Output :=
  if out.text = "" then out else ofText " " ++ out

/-- The outputs one after the other, each after a space. -/
def eachSpaced : List Output → Output
  | [] => {}
  | out :: rest => ofText " " ++ out ++ eachSpaced rest

/-- The outputs one after the other with a space between any two. -/
def joined : List Output → Output
  | [] => {}
  | out :: rest => out ++ eachSpaced rest

@[simp] theorem text_append (a b : Output) : (a ++ b).text = a.text ++ b.text := rfl

@[simp] theorem events_append (a b : Output) : (a ++ b).events = a.events ++ b.events := rfl

theorem append_assoc (a b c : Output) : a ++ b ++ c = a ++ (b ++ c) := by
  ext1 <;> simp [String.append_assoc]

@[simp] theorem append_empty (a : Output) : a ++ ({} : Output) = a := by
  ext1 <;> simp

@[simp] theorem empty_append (a : Output) : ({} : Output) ++ a = a := by
  ext1 <;> simp

@[simp] theorem text_ofText (text : String) : (ofText text).text = text := rfl

@[simp] theorem events_ofText (text : String) : (ofText text).events = [] := rfl

theorem push_eq_append (out : Output) (text : String) : out.push text = out ++ ofText text := by
  ext1 <;> simp [push]

theorem emit_eq_append (out : Output) (event : Event) : out.emit event = out ++ ⟨"", [event]⟩ := by
  ext1 <;> simp [emit]

/-- Cutting back to where a text ended gives the text, whatever was written after it. -/
theorem truncate_append (out added : Output) :
    (out ++ added).truncate out.text.rawEndPos = ⟨out.text, out.events ++ added.events⟩ := by
  have stands : out.text.rawEndPos.IsValid (out ++ added).text :=
    String.Pos.Raw.isValid_rawEndPos.append_right added.text
  have splits : ((out ++ added).text.pos out.text.rawEndPos stands).Splits out.text added.text :=
    ⟨rfl, rfl⟩
  rw [truncate, dif_pos stands, splits.copy_sliceTo_eq]
  rfl

/-- A segment is what its writer adds, after a space unless it adds no text. -/
theorem segment_eq_append (out : Output) {write : Output → Output} {added : Output}
    (appends : ∀ out, write out = out ++ added) : out.segment write = out ++ added.spaced := by
  have written : write (out.push " ") = out ++ (ofText " " ++ added) := by
    rw [appends, push_eq_append, append_assoc]
  have same : (write (out.push " ")).text.utf8ByteSize = (out.push " ").text.utf8ByteSize ↔
      added.text = "" := by
    rw [appends, text_append, String.utf8ByteSize_append, ← String.utf8ByteSize_eq_zero_iff]
    omega
  unfold segment spaced
  by_cases empty : added.text = ""
  · rw [if_pos (same.2 empty), if_pos empty, written, truncate_append]
    ext1 <;> simp [empty]
  · rw [if_neg (mt same.1 empty), if_neg empty, written]

end Output

end TemplatePrinter
