import AttributeRules.Record.Load
import AttributeRules.Settings.Load
import AttributeRules.Proofs.Meaning
import AttributeRules.Proofs.Assembly.Reading
import AttributeRules.Proofs.ParseCache.Session
import AttributeRules.Proofs.Rendering
import AttributeRules.Proofs.Combination
import AttributeRules.Proofs.Reach
import AttributeRules.Proofs.Assembly.Grammar
import AttributeRules.Proofs.Composition
import AttributeRules.Proofs.Assembly.LeftEnd
import AttributeRules.Proofs.Condition.Writing
import AttributeRules.Proofs.Condition.Quotes
import AttributeRules.Proofs.Token.Separator
import AttributeRules.Proofs.Condition.Separator
import AttributeRules.Proofs.SingleCondition
import AttributeRules.Proofs.Assembly.Order
import AttributeRules.Proofs.Folding
import AttributeRules.Proofs.Condition.Unambiguous
import AttributeRules.Proofs.ParseCache.Accounting
import AttributeRules.Proofs.Condition.Acceptance
import AttributeRules.Proofs.Assembly.Crowding
import AttributeRules.Proofs.Assembly.Inventory
import AttributeRules.Proofs.Attributes
import AttributeRules.Proofs.Condition.Comparison
import AttributeRules.Proofs.StringComparison
import AttributeRules.Proofs.Token.Words
import AttributeRules.Proofs.Wording
import AttributeRules.Proofs.Regrouping
import AttributeRules.Proofs.Combination.Calls
import AttributeRules.Proofs.Gap
import AttributeRules.Proofs.AttributeNames
import AttributeRules.Proofs.Condition.RoundTrip
import AttributeRules.Proofs.Membership
import AttributeRules.Proofs.Assembly.Isolation
import AttributeRules.Proofs.Record.Writes
import AttributeRules.Proofs.Record.Load
import AttributeRules.Proofs.Settings.Load
