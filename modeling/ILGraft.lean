import ILGraft.Diagnostic.Display
import ILGraft.Main
import ILGraft.Proofs.Reinjection
import ILGraft.Proofs.StepwiseMerge
import ILGraft.Session
import ILGraft.SourceText
import ILGraft.Proofs.Utf8Encoding
import ILGraft.Proofs.FileContents
import ILGraft.Proofs.MarkerRoundTrip
import ILGraft.Proofs.AllOrNothing
import ILGraft.Proofs.MergeAgreement
import ILGraft.Proofs.ToolRuns
import ILGraft.Proofs.ModuleStages
import ILGraft.Proofs.ModuleRuns
import ILGraft.Proofs.RunFailures
import ILGraft.Proofs.RenderedDocuments
import ILGraft.Proofs.MergeReports
import ILGraft.Proofs.LineEndings
import ILGraft.Proofs.OrderedMarks
import ILGraft.Proofs.SplicedLines
import ILGraft.Proofs.GivenNumbers
import ILGraft.Proofs.BlockOutcomes
import ILGraft.Proofs.GuessedLanguages
import ILGraft.Proofs.FailedModules
import ILGraft.Proofs.SourceBytes
import ILGraft.Proofs.CodeListings
import ILGraft.Proofs.SnippetListings
import ILGraft.Proofs.QuotedLines
import ILGraft.Proofs.CacheSnapshots
import ILGraft.Proofs.ColouredDiagnostics
import ILGraft.Proofs.ColouredCode
import ILGraft.Proofs.ConfigurationReports
import ILGraft.Proofs.LanguageChoice
import ILGraft.Proofs.ConfigurationSearch
import ILGraft.Proofs.SequencePoints
