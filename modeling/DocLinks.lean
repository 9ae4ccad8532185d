import DocLinks.Main
import DocLinks.Program
import DocLinks.Proofs.RenderedLinks
import DocLinks.Proofs.RunVerdict
import DocLinks.Proofs.ScanSchedules
import DocLinks.Proofs.ShapeGrammar
import DocLinks.Proofs.SiteRoots
import DocLinks.Tree.Edit
import DocLinks.Proofs.DocumentLines
import DocLinks.Proofs.LexicalJoins
import DocLinks.Proofs.PageSpellings
import DocLinks.Proofs.SkippedWebLinks
import DocLinks.Proofs.Settings
import DocLinks.Proofs.SingleFiles
import DocLinks.Proofs.SitePrefixes
import DocLinks.Proofs.ArgumentSpellings
import DocLinks.Proofs.CommandLineForms
import DocLinks.Proofs.JsonGrammar
import DocLinks.Proofs.JsonReport
import DocLinks.Proofs.WalkEnds
import DocLinks.Proofs.RuleOrder
import DocLinks.Proofs.LinkAnchors
import DocLinks.Proofs.NotedFailures
import DocLinks.Proofs.Shorthands
import DocLinks.Proofs.LinkPlaces
import DocLinks.Proofs.ReportLines
import DocLinks.Proofs.RedirectChains
import DocLinks.Proofs.NormalizedArguments
import DocLinks.Proofs.PathComposition
import DocLinks.Proofs.ReadingSessions
