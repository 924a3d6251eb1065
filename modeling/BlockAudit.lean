import BlockAudit.Main
import BlockAudit.Proofs.Idempotence
import BlockAudit.Proofs.RepeatedFixes
import BlockAudit.Proofs.CompliantBlocks
import BlockAudit.Proofs.StoredBlocks
import BlockAudit.Proofs.CommandChanges
import BlockAudit.Proofs.NewViolations
import BlockAudit.Proofs.RoundTrip
import BlockAudit.Report.Reader
import BlockAudit.Proofs.SectionSplit
import BlockAudit.Proofs.SectionGrammar
import BlockAudit.Proofs.ComposedRuns
import BlockAudit.Proofs.Excerpts
import BlockAudit.Proofs.ParseResponse
import BlockAudit.Proofs.ExcerptedRender
import BlockAudit.Proofs.ConfigEntries
import BlockAudit.Proofs.RunOutcomes
import BlockAudit.Proofs.FixRecord
import BlockAudit.Proofs.RegisteredNames
import BlockAudit.Proofs.RenderInsertions
import BlockAudit.Proofs.NamespaceDeclarations
import BlockAudit.Proofs.KeptFields
import BlockAudit.Proofs.ExtractedBodies
import BlockAudit.Proofs.FencedBodies
import BlockAudit.Proofs.BlockDirectories
import BlockAudit.Proofs.ResponseLineEndings
import BlockAudit.Proofs.DeclarationPlaces
import BlockAudit.Proofs.DistinctNames
import BlockAudit.Proofs.LeadingComments
import BlockAudit.Proofs.RepeatedSections
