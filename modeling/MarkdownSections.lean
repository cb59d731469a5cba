import MarkdownSections.Main
import MarkdownSections.Section.Read
import MarkdownSections.Proofs.Frontmatter.Written
import MarkdownSections.Proofs.Section.Agreement
import MarkdownSections.Proofs.Section.DistinctIds
import MarkdownSections.Proofs.Section.Levels
import MarkdownSections.Proofs.Section.Ranges
import MarkdownSections.Proofs.Section.Reread
import MarkdownSections.Proofs.Section.Written
import MarkdownSections.Proofs.Payload.Cuts
import MarkdownSections.Proofs.Payload.Tables
import MarkdownSections.Proofs.Slug.Calls
import MarkdownSections.Proofs.Json.Control
import MarkdownSections.Proofs.Json.Reader
import MarkdownSections.Proofs.Payload.Exchange
import MarkdownSections.Proofs.Document.Batch
import MarkdownSections.Proofs.Document.CodeFence
import MarkdownSections.Proofs.Document.LineEnds
import MarkdownSections.Proofs.Document.LineNumbers
import MarkdownSections.Proofs.Document.ListText
import MarkdownSections.Proofs.Document.Rerender
import MarkdownSections.Proofs.Element.File
import MarkdownSections.Proofs.Element.Faults
import MarkdownSections.Proofs.Element.Structured
import MarkdownSections.Proofs.Section.Addresses
import MarkdownSections.Proofs.Section.Breadcrumb
import MarkdownSections.Proofs.Section.Condensed
import MarkdownSections.Proofs.Section.Coverage
import MarkdownSections.Proofs.Document.TableText
import MarkdownSections.Proofs.Document.TopTables
import MarkdownSections.Proofs.Section.Transitions
import MarkdownSections.Proofs.Slug.Runs
import MarkdownSections.Proofs.Element.Sequence
import MarkdownSections.Proofs.Settings.Layers
