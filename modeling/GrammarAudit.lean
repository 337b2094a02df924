import GrammarAudit.CommandLine.Run
import GrammarAudit.Main
import GrammarAudit.Session
import GrammarAudit.Stylesheet.Language
import GrammarAudit.Proofs.Loading
import GrammarAudit.Proofs.NodeKinds
import GrammarAudit.Proofs.Verdict
import GrammarAudit.Proofs.RunOutcome
import GrammarAudit.Proofs.PathFollowing
import GrammarAudit.Proofs.ConfigPaths
import GrammarAudit.Proofs.Agreement
import GrammarAudit.Proofs.OpenedLibraries
import GrammarAudit.Proofs.ConfigSpelling
import GrammarAudit.Proofs.HandleSoundness
import GrammarAudit.Proofs.NamedEntries
import GrammarAudit.Proofs.MoreSamples
import GrammarAudit.Proofs.PathSteps
import GrammarAudit.Proofs.ConfigResolution
import GrammarAudit.Proofs.LibraryLifetime
import GrammarAudit.Proofs.RunDependence
import GrammarAudit.Proofs.ConfigShape
import GrammarAudit.Proofs.ValueText
import GrammarAudit.Proofs.ConfigText
import GrammarAudit.Proofs.IgnoredKeys
import GrammarAudit.Proofs.FaultPlace
import GrammarAudit.Proofs.FirstFailingStage
import GrammarAudit.Proofs.NamesInParts
import GrammarAudit.Proofs.StandardConfig
import GrammarAudit.Proofs.DisplayNames
import GrammarAudit.Proofs.Selecting
import GrammarAudit.Proofs.SearchOrder
import GrammarAudit.Proofs.FoundLibraries
import GrammarAudit.Proofs.LoadTrace
import GrammarAudit.Proofs.DirectorySource
import GrammarAudit.Proofs.DerivedNames
import GrammarAudit.Proofs.SummaryContents
import GrammarAudit.Proofs.OptionsInAnyOrder
import GrammarAudit.Proofs.BorrowedNames
