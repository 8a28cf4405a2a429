import TemplatePrinter.Node.Kind
import TemplatePrinter.Rule.Error
import TemplatePrinter.Text.Quoted
/-!
# Targeting rules

A rule picks one argument by position in every call of one helper, and passes the text of that
argument through its modifiers in order. Only an argument that is itself a call is ever picked,
and only when the rule asks for that kind.
-/

namespace TemplatePrinter

/-- Which argument of which helper is modified, and how. -/
structure Rule where
  helper : String
  paramKind : Kind
  /-- The position of the argument, counted from one. -/
  position : Nat
  modifiers : List (String → String)
  helper_ne_empty : helper ≠ ""
  position_pos : 0 < position

namespace Rule

/-- A rule without modifiers. -/
def target (helper : String) (paramKind : Kind) (position : Nat) : Except RuleError Rule :=
  if hasName : helper = "" then .error .emptyHelper
  else if starts : position = 0 then .error (.invalidPosition position)
  else .ok ⟨helper, paramKind, position, [], hasName, Nat.pos_of_ne_zero starts⟩

/-- Adds a modifier after the others. -/
def addModifier (rule : Rule) (modifier : String → String) : Rule :=
  { rule with modifiers := rule.modifiers ++ [modifier] }

/-- Whether the rule picks this argument, the one at `position` in a call of `helper`. -/
def selects (rule : Rule) (helper : String) (position : Nat) (param : Node) : Bool :=
  rule.paramKind == .sub && rule.position == position && param.kind? == some rule.paramKind
    && rule.helper == helper

/-- The text after all modifiers. -/
def apply (rule : Rule) (text : String) : String :=
  rule.modifiers.foldl (fun text modifier => modifier text) text

/-- The text after each modifier of a list in turn. -/
def stagesThrough : List (String → String) → String → List String
  | [], _ => []
  | modifier :: rest, text => modifier text :: stagesThrough rest (modifier text)

/-- The text after each modifier of the rule in turn. -/
def stages (rule : Rule) (text : String) : List String :=
  stagesThrough rule.modifiers text

/-- The labelled parts of a rule, as a description lists them. -/
def parts (rule : Rule) : List String :=
  ["helper: " ++ Text.quoted rule.helper,
    "param_type: " ++ rule.paramKind.name,
    "param_position: " ++ toString rule.position,
    "modifiers: " ++ toString rule.modifiers.length]

/-- The description of a rule on one line. -/
def summary (rule : Rule) : String :=
  "Options \x7b " ++ ", ".intercalate rule.parts ++ " \x7d"

/-- The description of a rule with one part to a line. -/
def outline (rule : Rule) : String :=
  "Options \x7b\n" ++ String.join (rule.parts.map fun part => "    " ++ part ++ ",\n") ++ "\x7d"

theorem target_eq_ok_iff {helper : String} {paramKind : Kind} {position : Nat} {rule : Rule} :
    target helper paramKind position = .ok rule ↔
      rule.helper = helper ∧ rule.paramKind = paramKind ∧ rule.position = position
        ∧ rule.modifiers = [] := by
  obtain ⟨helper', paramKind', position', modifiers', hasName, starts⟩ := rule
  unfold target
  constructor
  · intro h
    split at h
    · cases h
    · split at h
      · cases h
      · cases h
        exact ⟨rfl, rfl, rfl, rfl⟩
  · rintro ⟨rfl, rfl, rfl, rfl⟩
    rw [dif_neg hasName, dif_neg (Nat.ne_of_gt starts)]

theorem selects_iff {rule : Rule} {helper : String} {position : Nat} {param : Node} :
    rule.selects helper position param ↔
      rule.paramKind = .sub ∧ rule.position = position ∧ param.kind? = some .sub
        ∧ rule.helper = helper := by
  simp only [selects, Bool.and_eq_true, beq_iff_eq, and_assoc]
  refine and_congr_right fun hkind => ?_
  rw [hkind]

private theorem getLastD_stagesThrough (modifiers : List (String → String)) (text : String) :
    (stagesThrough modifiers text).getLastD text =
      modifiers.foldl (fun text modifier => modifier text) text := by
  induction modifiers generalizing text with
  | nil => rfl
  | cons modifier rest ih =>
    rw [stagesThrough, List.getLastD_cons, List.foldl_cons]
    exact ih (modifier text)

/-- The last stage is the text after all modifiers. -/
theorem getLastD_stages (rule : Rule) (text : String) :
    (rule.stages text).getLastD text = rule.apply text :=
  getLastD_stagesThrough rule.modifiers text

end Rule

end TemplatePrinter
