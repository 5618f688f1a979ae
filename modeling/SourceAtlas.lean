import SourceAtlas.Main
import SourceAtlas.Proofs.AssemblyBooks
import SourceAtlas.Proofs.ChangeRanks
import SourceAtlas.Proofs.DiscoveryFilters
import SourceAtlas.Proofs.ImplBlocks
import SourceAtlas.Proofs.LookupCandidates
import SourceAtlas.Proofs.ModuleDescent
import SourceAtlas.Proofs.OwnVisibility
import SourceAtlas.Proofs.PathEndings
import SourceAtlas.Proofs.RankConvergence
import SourceAtlas.Proofs.RepeatedDeclarations
import SourceAtlas.Proofs.SeparateContainers
import SourceAtlas.Proofs.SnippetExcerpts
import SourceAtlas.Proofs.SymbolRecords
import SourceAtlas.Proofs.ThrowMarks
