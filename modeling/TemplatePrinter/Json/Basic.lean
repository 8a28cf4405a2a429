import TemplatePrinter.Number.Binary64
/-!
# JSON values

The values that trees are exchanged in. A number remembers whether it was written as an integer. The
fields of an object are a list that stands for a map: a name occurs once in it, and whoever parses a
text in which an object repeats a name keeps one field of that name, the last. In a list that repeats
a name all the same, the first field of the name is the one that counts. A value under a field is
smaller than the fields it stands in, which is what recursion through objects rests on.
-/

namespace TemplatePrinter

/-- A number of a JSON text: an integer, or a number written with a fraction or an exponent. -/
inductive JsonNumber where
  | int (value : Int)
  | float (value : Binary64)

/-- The double-precision number nearest to a JSON number. -/
def JsonNumber.toBinary64 : JsonNumber → Binary64
  | .int value => .ofInt value
  | .float value => value

inductive Json where
  | null
  | bool (value : Bool)
  | number (value : JsonNumber)
  | string (value : String)
  | array (items : List Json)
  | object (fields : List (String × Json))

instance : Inhabited Json := ⟨.null⟩

namespace Json

/-- The fields of an object. -/
abbrev Fields := List (String × Json)

theorem sizeOf_lt_of_lookup {fields : Fields} {name : String} {value : Json}
    (found : fields.lookup name = some value) : sizeOf value < sizeOf fields := by
  induction fields with
  | nil => simp at found
  | cons field rest ih =>
    obtain ⟨key, head⟩ := field
    rw [List.lookup_cons] at found
    split at found
    · obtain rfl := Option.some.inj found
      simp only [List.cons.sizeOf_spec, Prod.mk.sizeOf_spec]
      omega
    · have := ih found
      simp only [List.cons.sizeOf_spec]
      omega

end Json

end TemplatePrinter
