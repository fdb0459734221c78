import WidgetAudit.Audit
import WidgetAudit.Json
import WidgetAudit.Rule.Written
import WidgetAudit.Widget.Tree
import WidgetAudit.Proofs.Grammar.Precedence
import WidgetAudit.Proofs.Rule.RoundTrip
import WidgetAudit.Proofs.Rule.NormalForm
import WidgetAudit.Proofs.Rule.Height
import WidgetAudit.Proofs.Rule.Rereading
import WidgetAudit.Proofs.Rule.Concatenation
import WidgetAudit.Proofs.Rule.Spacing
import WidgetAudit.Proofs.Rule.SingleRule
import WidgetAudit.Proofs.RuleSet.Accounting
import WidgetAudit.Proofs.RuleSet.Findings
import WidgetAudit.Proofs.Source.Agreement
import WidgetAudit.Proofs.Source.Places
import WidgetAudit.Proofs.Source.Quotes
import WidgetAudit.Proofs.Number.Decimal
import WidgetAudit.Proofs.Evaluation.Dependence
import WidgetAudit.Proofs.Evaluation.Attribution
import WidgetAudit.Proofs.Evaluation.Duality
import WidgetAudit.Proofs.Widget.Flattening
import WidgetAudit.Proofs.Widget.Sweep
import WidgetAudit.Proofs.Widget.Wrapping
import WidgetAudit.Proofs.Widget.Locality
import WidgetAudit.Proofs.Widget.Relations
import WidgetAudit.Proofs.Widget.FocusOrder
import WidgetAudit.Proofs.RuleSet.Rejections
import WidgetAudit.Proofs.Evaluation.Arithmetic
import WidgetAudit.Proofs.Rule.Integers
import WidgetAudit.Proofs.Value.Casting
import WidgetAudit.Proofs.Value.Equality
import WidgetAudit.Proofs.Rule.Names
import WidgetAudit.Proofs.Widget.Resolution
