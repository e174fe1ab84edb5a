import TypeAtlas.Main
import TypeAtlas.Sink
import TypeAtlas.Proofs.AliasChain
import TypeAtlas.Proofs.CrossReference
import TypeAtlas.Proofs.Failure
import TypeAtlas.Proofs.TypeText
import TypeAtlas.Proofs.Linking
import TypeAtlas.Proofs.References
import TypeAtlas.Proofs.Attachment
import TypeAtlas.Proofs.BlockLines
import TypeAtlas.Proofs.CommentPrinting
import TypeAtlas.Proofs.Agreement
import TypeAtlas.Proofs.Appending
import TypeAtlas.Proofs.ResolverSession
import TypeAtlas.Proofs.PathNames
import TypeAtlas.Proofs.FileFrame
import TypeAtlas.Proofs.Recording
import TypeAtlas.Proofs.JobEffects
import TypeAtlas.Proofs.Accounting
import TypeAtlas.Proofs.Visibility
import TypeAtlas.Proofs.JobCourse
import TypeAtlas.Proofs.Encoding
import TypeAtlas.Proofs.JobAgreement
import TypeAtlas.Proofs.Legibility
import TypeAtlas.Proofs.CleanExit
import TypeAtlas.Proofs.Slicing
import TypeAtlas.Proofs.Flattening
import TypeAtlas.Proofs.LeafRanges
import TypeAtlas.Proofs.TableRecords
import TypeAtlas.Proofs.Passages
import TypeAtlas.Proofs.LineSpacing
import TypeAtlas.Proofs.CanonicalForm
import TypeAtlas.Proofs.InlineTypes
import TypeAtlas.Proofs.ObjectLines
import TypeAtlas.Proofs.CommentDocs
import TypeAtlas.Proofs.Handlers
import TypeAtlas.Proofs.Delivery
import TypeAtlas.Proofs.RowCuts
import TypeAtlas.Proofs.Wording
import TypeAtlas.Proofs.TableCells
import TypeAtlas.Proofs.TemplateParts
import TypeAtlas.Proofs.Summaries
