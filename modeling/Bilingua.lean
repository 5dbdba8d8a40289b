import Bilingua.Main
import Bilingua.Proofs.Depth
import Bilingua.Proofs.Findings
import Bilingua.Proofs.Placement
import Bilingua.Proofs.Balance
import Bilingua.Proofs.WellNested
import Bilingua.Proofs.Columns
import Bilingua.Proofs.Trimming
import Bilingua.Proofs.WholeWords
import Bilingua.Proofs.Respelling
import Bilingua.Proofs.Reindentation
import Bilingua.Proofs.OpenBlocks
import Bilingua.Proofs.Introductions
import Bilingua.Proofs.Forests
import Bilingua.Proofs.SourceOrder
import Bilingua.Proofs.Enclosure
import Bilingua.Proofs.Laminar
import Bilingua.Proofs.Relabelling
import Bilingua.Proofs.Renumbering
import Bilingua.Proofs.Composition
import Bilingua.Proofs.Pairing
import Bilingua.Proofs.Contents
import Bilingua.Proofs.Interleaving
import Bilingua.Proofs.LineBreaks
import Bilingua.Proofs.ByteOrder
import Bilingua.Proofs.StoreHistory
import Bilingua.Proofs.Checks
import Bilingua.Proofs.ElseChecks
import Bilingua.Proofs.Layout
import Bilingua.Proofs.RuleOrder
import Bilingua.Proofs.Insertion
import Bilingua.Proofs.FindingOrder
import Bilingua.Proofs.Repair
import Bilingua.Proofs.Extraction
import Bilingua.Proofs.Names
import Bilingua.Proofs.Connectives
import Bilingua.Proofs.Sentences
import Bilingua.Proofs.Segments
import Bilingua.Proofs.Shapes
import Bilingua.Proofs.Loading
import Bilingua.Proofs.WrittenValues
import Bilingua.Proofs.WrittenDocuments
import Bilingua.Proofs.Overlays
import Bilingua.Proofs.TabStops
import Bilingua.Proofs.Levels
import Bilingua.Proofs.Nodes
import Bilingua.Proofs.RenderedOutlines
