import RuleLang.Main
import RuleLang.Value.Json
import RuleLang.Proofs.Infix
import RuleLang.Proofs.Tree
import RuleLang.Proofs.Tree.Completed
import RuleLang.Proofs.Text.Caseless
import RuleLang.Proofs.Operator.Bindings
import RuleLang.Proofs.Operator.Reachable
import RuleLang.Proofs.Operator.Signature
import RuleLang.Proofs.Operator.Entries
import RuleLang.Proofs.Operator.Rebuilding
import RuleLang.Proofs.Segment.Marks
import RuleLang.Proofs.Segment.Spaced
import RuleLang.Proofs.Segment.Splitting
import RuleLang.Proofs.Segment.Printing
import RuleLang.Proofs.PrefixForm.Infix
import RuleLang.Proofs.PrefixForm.Separated
import RuleLang.Proofs.Evaluation
import RuleLang.Proofs.Alike
import RuleLang.Proofs.Rule.Acceptance
import RuleLang.Proofs.Rule.Soundness
import RuleLang.Proofs.RuleBook.Compile
import RuleLang.Proofs.RuleBook.Leftover
import RuleLang.Proofs.RuleBook.Invariant
import RuleLang.Proofs.RuleBook.Isolation
import RuleLang.Proofs.RuleBook.Exchange
import RuleLang.Proofs.RuleBook.History
import RuleLang.Proofs.ActionBook.Refinement
import RuleLang.Proofs.ActionBook.Records
import RuleLang.Proofs.Fields
import RuleLang.Proofs.Operator.Changes
import RuleLang.Proofs.RuleBook.InPlace
import RuleLang.Proofs.RuleBook.Failure
import RuleLang.Proofs.Spelling
import RuleLang.Proofs.Decimal.Arithmetic
import RuleLang.Proofs.Scale
import RuleLang.Proofs.RuleBook.Builtins
import RuleLang.Proofs.PrefixForm.Parentheses
import RuleLang.Proofs.RuleBook.FieldOrder
import RuleLang.Proofs.Segment.LeftmostLongest
import RuleLang.Proofs.RuleBook.Unmentioned
import RuleLang.Proofs.Segment.Quotes
import RuleLang.Proofs.Text.Bytes
import RuleLang.Proofs.Operator.Comparison
import RuleLang.Proofs.Decimal.Written
import RuleLang.Proofs.Record.Reading
import RuleLang.Proofs.NumberText
import RuleLang.Proofs.Record.RoundTrip
import RuleLang.Proofs.Record.Arguments
