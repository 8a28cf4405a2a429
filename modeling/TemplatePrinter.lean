import TemplatePrinter.Node.Build
import TemplatePrinter.Node.ElseChain
import TemplatePrinter.Node.Equality
import TemplatePrinter.Printer.Render
import TemplatePrinter.Proofs.Bracketing.Collisions
import TemplatePrinter.Proofs.Bracketing.Plain
import TemplatePrinter.Proofs.ElseChain.Contents
import TemplatePrinter.Proofs.ElseChain.Linking
import TemplatePrinter.Proofs.Grammar.StringArguments
import TemplatePrinter.Proofs.Grammar.Unambiguous
import TemplatePrinter.Proofs.Printer.Composition
import TemplatePrinter.Proofs.Printer.Erasure
import TemplatePrinter.Proofs.Printer.Events
import TemplatePrinter.Proofs.Printer.Normalization
import TemplatePrinter.Proofs.Printer.Visits
import TemplatePrinter.Proofs.Tags.Brackets
import TemplatePrinter.Proofs.Tags.Nesting
import TemplatePrinter.Proofs.Targeting.ComputedName
import TemplatePrinter.Proofs.Targeting.Precision
import TemplatePrinter.Proofs.Targeting.Rewrite
import TemplatePrinter.Proofs.Tree.Building
import TemplatePrinter.Proofs.Tree.Equality
import TemplatePrinter.Proofs.Tree.Nodes
import TemplatePrinter.Proofs.Wire.Conformance
import TemplatePrinter.Proofs.Wire.RoundTrip
import TemplatePrinter.Proofs.Wire.UnknownFields
import TemplatePrinter.Rule.Modifier
import TemplatePrinter.Wire.Read
import TemplatePrinter.Wire.RuleError
import TemplatePrinter.Wire.Write
