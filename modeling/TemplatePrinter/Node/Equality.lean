import TemplatePrinter.Node.Basic
/-!
# Equality of trees

Two trees are equal when they have the same shape and equal leaves. Numbers are compared as
numbers, not as bits: zero equals its opposite, and a tree that holds a NaN does not equal itself.
-/

namespace TemplatePrinter

mutual

def Node.equals : Node → Node → Bool
  | .program p, .program p' => p.equals p'
  | .block b, .block b' => b.equals b'
  | .mustache callee args escaped, .mustache callee' args' escaped' =>
    callee == callee' && args.equals args' && escaped == escaped'
  | .content text, .content text' => text == text'
  | .comment text, .comment text' => text == text'
  | .path text, .path text' => text == text'
  | .sub callee args, .sub callee' args' => callee == callee' && args.equals args'
  | .partialTag name args, .partialTag name' args' => name.equals name' && args.equals args'
  | .partialBlock name args fallback, .partialBlock name' args' fallback' =>
    name.equals name' && args.equals args' && fallback.equals fallback'
  | .string value, .string value' => value == value'
  | .number value, .number value' => value.equals value'
  | .boolean value, .boolean value' => value == value'
  | .undefined, .undefined => true
  | .null, .null => true
  | .unknown, .unknown => true
  | _, _ => false

def Program.equals : Program → Program → Bool
  | ⟨body, names⟩, ⟨body', names'⟩ => equalNodes body body' && names == names'

def Block.equals : Block → Block → Bool
  | ⟨path, args, main, inverse⟩, ⟨path', args', main', inverse'⟩ =>
    path == path' && args.equals args' && main.equals main' && equalInverses inverse inverse'

def Arguments.equals : Arguments → Arguments → Bool
  | ⟨params, none⟩, ⟨params', none⟩ => equalNodes params params'
  | ⟨params, some pairs⟩, ⟨params', some pairs'⟩ =>
    equalNodes params params' && equalPairs pairs pairs'
  | _, _ => false

def PartialName.equals : PartialName → PartialName → Bool
  | .path text, .path text' => text == text'
  | .sub callee args, .sub callee' args' => callee == callee' && args.equals args'
  | _, _ => false

def equalInverses : Option Program → Option Program → Bool
  | none, none => true
  | some p, some p' => p.equals p'
  | _, _ => false

def equalNodes : List Node → List Node → Bool
  | [], [] => true
  | n :: rest, n' :: rest' => n.equals n' && equalNodes rest rest'
  | _, _ => false

def equalPairs : List Pair → List Pair → Bool
  | [], [] => true
  | ⟨key, value⟩ :: rest, ⟨key', value'⟩ :: rest' =>
    key == key' && value.equals value' && equalPairs rest rest'
  | _, _ => false

end

end TemplatePrinter
