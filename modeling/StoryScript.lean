import StoryScript.Json.Reader
import StoryScript.Main
import StoryScript.Proofs.Acceptance
import StoryScript.Proofs.AnalysisCache
import StoryScript.Proofs.Batches
import StoryScript.Proofs.CaseChanges
import StoryScript.Proofs.CharSets
import StoryScript.Proofs.ChoiceTargets
import StoryScript.Proofs.CommentLines
import StoryScript.Proofs.DeepRegions
import StoryScript.Proofs.Escaping
import StoryScript.Proofs.ExactSites
import StoryScript.Proofs.Findings
import StoryScript.Proofs.InPlace
import StoryScript.Proofs.InTurn
import StoryScript.Proofs.LineKinds
import StoryScript.Proofs.LineOrder
import StoryScript.Proofs.LiteralReplacing
import StoryScript.Proofs.MarkedBraces
import StoryScript.Proofs.MatchSets
import StoryScript.Proofs.Occurrences
import StoryScript.Proofs.Remedies
import StoryScript.Proofs.ReplacePaths
import StoryScript.Proofs.SceneTiling
import StoryScript.Proofs.Staleness
import StoryScript.Proofs.Tickets
import StoryScript.Proofs.RecentEntries
import StoryScript.Proofs.Expansion
import StoryScript.Proofs.Navigation
import StoryScript.Proofs.Repetition
import StoryScript.Proofs.Cursor
import StoryScript.Proofs.Lengths
import StoryScript.Proofs.Columns
import StoryScript.Proofs.LineSplitting
import StoryScript.Proofs.MatchSetForms
import StoryScript.Proofs.JsonScalars
import StoryScript.Proofs.JsonText
import StoryScript.Proofs.Space
