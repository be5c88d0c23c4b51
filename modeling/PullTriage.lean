import PullTriage.Json.Reader
import PullTriage.Json.Printer
import PullTriage.Yaml.Reader
import PullTriage.Pattern.Positions
import PullTriage.Unicode.PropertyName
import PullTriage.Regex.Syntax
import PullTriage.Regex.Parser
import PullTriage.Regex.Search
import PullTriage.TextPattern
import PullTriage.PathGlob
import PullTriage.PullRequest
import PullTriage.Trace
import PullTriage.Condition
import PullTriage.Registry
import PullTriage.Builder.Core
import PullTriage.Builder.Extra
import PullTriage.Rules.RuleSet
import PullTriage.Rules.Compiler
import PullTriage.FilePath
import PullTriage.FileSummary
import PullTriage.Rules.Reader
import PullTriage.CommandLine
import PullTriage.Main
import PullTriage.Shown
import PullTriage.Proofs.BuiltConditions
import PullTriage.Proofs.CaseBlind
import PullTriage.Proofs.FlagGroups
import PullTriage.Proofs.PropertyNames
import PullTriage.Proofs.QuietText
import PullTriage.Proofs.ScanText
import PullTriage.Proofs.ScanEscapes
import PullTriage.Proofs.ScanClassItems
import PullTriage.Proofs.BracketScan
import PullTriage.Proofs.PatternLists
import PullTriage.Proofs.ScanGroups
import PullTriage.Proofs.FlagScan
import PullTriage.Proofs.IgnoreCase
import PullTriage.Proofs.TraceFidelity
import PullTriage.Proofs.FirstMatch
import PullTriage.Proofs.DistinctKeys
import PullTriage.Proofs.WrittenConditions
import PullTriage.Proofs.DocumentMeaning
import PullTriage.Proofs.Normalization
import PullTriage.Proofs.MatchReasons
import PullTriage.Proofs.PatternPositions
import PullTriage.Proofs.GlobWords
import PullTriage.Proofs.GlobShortcuts
import PullTriage.Proofs.GlobPieces
import PullTriage.Proofs.GlobDialect
import PullTriage.Proofs.GlobRuns
import PullTriage.Proofs.GlobReading
import PullTriage.Proofs.CombinedGlobs
import PullTriage.Proofs.GlobSizes
import PullTriage.Proofs.LargeGlobSets
import PullTriage.Proofs.LiteralBraces
import PullTriage.Proofs.DroppedFragments
import PullTriage.Proofs.ChangedFiles
import PullTriage.Proofs.IndependentLabels
import PullTriage.Proofs.GroupNumbers
import PullTriage.Proofs.FirstRefusals
import PullTriage.Proofs.Refusals
import PullTriage.Proofs.Rearrangement
import PullTriage.Proofs.ReportedFiles
import PullTriage.Proofs.MergedKinds
import PullTriage.Proofs.ExplicitConjunctions
import PullTriage.Proofs.PatternAlternatives
import PullTriage.Proofs.WildcardGlobs
import PullTriage.Proofs.WildcardShortcuts
import PullTriage.Proofs.DirectoryGlobs
import PullTriage.Proofs.StableReaders
import PullTriage.Proofs.StableMembers
import PullTriage.Proofs.StableClasses
import PullTriage.Proofs.StablePieces
import PullTriage.Proofs.TrimmedTrees
import PullTriage.Proofs.StrippedMarkers
import PullTriage.Proofs.MarkerMeaning
import PullTriage.Proofs.CaseClasses
import PullTriage.Proofs.WordSearch
import PullTriage.Proofs.ScanDepth
import PullTriage.Proofs.HarmlessClasses
import PullTriage.Proofs.HarmlessFlags
import PullTriage.Proofs.LiteralGlobs
import PullTriage.Proofs.FactsRead
import PullTriage.Proofs.ClassificationReport
import PullTriage.Proofs.CheckReport
import PullTriage.Proofs.KeyedEntries
import PullTriage.Proofs.LastRegistration
import PullTriage.Proofs.GivenFacts
import PullTriage.Proofs.FileCounts
