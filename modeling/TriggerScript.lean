import TriggerScript.Comparison.Standard
import TriggerScript.Conversion.Standard
import TriggerScript.Outline.Pattern
import TriggerScript.Outline.Script
import TriggerScript.Outline.Vocabulary
import TriggerScript.Proofs.Pattern.Writing
import TriggerScript.Proofs.Script.Simulation
import TriggerScript.Proofs.TypeSystem.Memo
import TriggerScript.Proofs.TypeSystem.Reversal
import TriggerScript.Script.Assembly
import TriggerScript.Session
import TriggerScript.Proofs.Comparison.Acceptance
import TriggerScript.Proofs.Comparison.Calls
import TriggerScript.Proofs.TypeSystem.Calls
import TriggerScript.Proofs.Script.Layout
import TriggerScript.Proofs.Script.Ledger
import TriggerScript.Proofs.Script.Description
import TriggerScript.Proofs.Script.Nesting
import TriggerScript.Proofs.Script.Jumps
import TriggerScript.Proofs.Pattern.Derivation
import TriggerScript.Proofs.Pattern.Encoding
import TriggerScript.Proofs.Catalog.Integrity
import TriggerScript.Proofs.TypeSystem.Foundation
import TriggerScript.Proofs.TypeSystem.Persistence
import TriggerScript.Proofs.Catalog.Conversions
import TriggerScript.Proofs.Catalog.Completeness
import TriggerScript.Proofs.Script.Limits
import TriggerScript.Proofs.TypeSystem.Permission
import TriggerScript.Proofs.Typing.Order
import TriggerScript.Proofs.Catalog.Addons
import TriggerScript.Proofs.Catalog.Priorities
import TriggerScript.Proofs.Catalog.Drafts
import TriggerScript.Proofs.Script.Refused
import TriggerScript.Proofs.TypeSystem.Anticipation
import TriggerScript.Proofs.TypeSystem.Conversions
import TriggerScript.Proofs.TypeSystem.ConvertedEquality
import TriggerScript.Proofs.TypeSystem.Coverage
import TriggerScript.Proofs.Pattern.Inspection
import TriggerScript.Proofs.Pattern.Phrasing
import TriggerScript.Proofs.Pattern.EventPattern
import TriggerScript.Proofs.Script.Iteration
import TriggerScript.Proofs.Pattern.Underlining
import TriggerScript.Proofs.Pattern.Progress
import TriggerScript.Proofs.Catalog.ContextValues
import TriggerScript.Proofs.Report.Selection
import TriggerScript.Proofs.Typing.Forms
