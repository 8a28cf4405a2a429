/-!
# Refused rules
-/

namespace TemplatePrinter

/-- Why a targeting rule is refused. -/
inductive RuleError where
  /-- The helper has no name. -/
  | emptyHelper
  /-- Positions are counted from one. -/
  | invalidPosition (position : Nat)
deriving DecidableEq

def RuleError.message : RuleError → String
  | .emptyHelper => "Targeting rule requires a helper name"
  | .invalidPosition position =>
    "Invalid parameter position " ++ toString position ++ ": positions start at 1"

end TemplatePrinter
