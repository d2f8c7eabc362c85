import Phrasebook.Value.Text
import Phrasebook.Value.Reader
import Phrasebook.Unicode.Casing
import Phrasebook.Unicode.Blank
import Phrasebook.Expression.Eval
import Phrasebook.Expression.Reader
import Phrasebook.Reading.Lines
import Phrasebook.Template.FileReader
import Phrasebook.Text.Split
import Phrasebook.Options
import Phrasebook.Suggestion
import Phrasebook.Locale.Selection
import Phrasebook.Collection.Edit
import Phrasebook.Evaluation.Evaluate
import Phrasebook.Evaluation.Expand
import Phrasebook.Analysis
import Phrasebook.Workspace
import Phrasebook.Locale.Generator
import Phrasebook.Proofs.Evaluation.StackDiscipline
import Phrasebook.Proofs.Evaluation.Memo
import Phrasebook.Proofs.Analysis.Soundness
import Phrasebook.Proofs.Evaluation.Enumeration
import Phrasebook.Proofs.Evaluation.Inclusion
import Phrasebook.Main
import Phrasebook.Proofs.Collection.Loaded
import Phrasebook.Proofs.Analysis.Closure
import Phrasebook.Proofs.Template.RoundTrip
import Phrasebook.Proofs.Template.Behind
import Phrasebook.Proofs.Template.Drafts
import Phrasebook.Proofs.Template.Sections
import Phrasebook.Proofs.Collection.WellFormed
import Phrasebook.Proofs.Collection.EditLaws
import Phrasebook.Proofs.Collection.Checked
import Phrasebook.Proofs.Collection.Aliases
import Phrasebook.Proofs.Evaluation.Chance
import Phrasebook.Proofs.Evaluation.Lenience
import Phrasebook.Proofs.Evaluation.Completeness
import Phrasebook.Proofs.Locale.History
import Phrasebook.Proofs.Evaluation.Strictness
import Phrasebook.Proofs.Collection.Findings
import Phrasebook.Proofs.Collection.Converted
import Phrasebook.Proofs.Evaluation.Placement
import Phrasebook.Proofs.Evaluation.Kept
import Phrasebook.Proofs.Evaluation.Structures
import Phrasebook.Proofs.Text.Pieces
import Phrasebook.Proofs.Text.Splits
import Phrasebook.Proofs.Expression.LeftOver
import Phrasebook.Proofs.Template.Calls
import Phrasebook.Proofs.Expression.Arithmetic
import Phrasebook.Proofs.Options
import Phrasebook.Proofs.Locale.Selection
import Phrasebook.Proofs.Resource.Resolving
import Phrasebook.Proofs.Evaluation.MemoKeys
import Phrasebook.Proofs.Template.Ranges
