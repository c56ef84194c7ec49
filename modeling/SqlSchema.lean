import SqlSchema.Catalog.ClauseNames
import SqlSchema.Catalog.Json
import SqlSchema.Catalog.OfTable
import SqlSchema.Catalog.Reading
import SqlSchema.Main
import SqlSchema.RowType.Files
import SqlSchema.Script.Alter
import SqlSchema.Script.Text
import SqlSchema.Proofs.Outcome
import SqlSchema.Proofs.Script.Arrangement
import SqlSchema.Proofs.Script.CreationOrder
import SqlSchema.Proofs.Script.Checks
import SqlSchema.Proofs.Dialect.Known
import SqlSchema.Proofs.Script.Acceptance
import SqlSchema.Proofs.Query.Keywords
import SqlSchema.Proofs.Catalog.Literals
import SqlSchema.Proofs.Script.Alike
import SqlSchema.Proofs.Table.Parts
import SqlSchema.Proofs.Catalog.Faithful
import SqlSchema.Proofs.Catalog.RoundTrip
import SqlSchema.Proofs.Query.Seams
import SqlSchema.Proofs.Query.Trailing
import SqlSchema.Proofs.Query.Insertion
import SqlSchema.Proofs.Query.Windows
import SqlSchema.Proofs.Dialect.WrittenNames
import SqlSchema.Proofs.Script.Resolution
import SqlSchema.Proofs.Interleaving
import SqlSchema.Proofs.Script.Rearrangement
import SqlSchema.Proofs.Table.Edits
import SqlSchema.Proofs.Script.Dropping
import SqlSchema.Proofs.Script.Mirror
import SqlSchema.Proofs.Script.StableOrder
import SqlSchema.Proofs.Dialect.Templates
import SqlSchema.Proofs.Dialect.MadeUpNames
import SqlSchema.Proofs.Dialect.TypeClauses
import SqlSchema.Proofs.Script.GivenNames
import SqlSchema.Proofs.Script.Tokens
import SqlSchema.Proofs.Script.PlainTexts
import SqlSchema.Proofs.Script.Quoted
import SqlSchema.Proofs.Catalog.SpacedText
import SqlSchema.Proofs.Catalog.Declarations
import SqlSchema.Proofs.Catalog.StatementParts
import SqlSchema.Proofs.Catalog.Recovery
import SqlSchema.Proofs.Script.Definitions
import SqlSchema.Proofs.Script.AddedColumns
import SqlSchema.Proofs.Script.DroppedColumns
import SqlSchema.Proofs.Query.OffsetOrder
import SqlSchema.Proofs.Query.CompoundQueries
import SqlSchema.Proofs.Query.OrderCut
import SqlSchema.Proofs.Query.NameParts
import SqlSchema.Proofs.Query.References
import SqlSchema.Proofs.Query.NumberedOrder
import SqlSchema.Proofs.Catalog.WrappedLiterals
import SqlSchema.Proofs.Binary64.Nearest
import SqlSchema.Proofs.Binary64.Shortest
import SqlSchema.Proofs.Catalog.LongNumerals
import SqlSchema.Proofs.Catalog.NumberedConstraints
import SqlSchema.Proofs.Catalog.KeyOrder
import SqlSchema.Proofs.Table.ColumnEdits
import SqlSchema.Proofs.Table.StoredNames
import SqlSchema.Proofs.Dialect.FittedNames
import SqlSchema.Proofs.Catalog.AttachedNames
import SqlSchema.Proofs.Catalog.ReversedKeys
import SqlSchema.Proofs.Catalog.QuotedNames
import SqlSchema.Proofs.RowType.Words
import SqlSchema.Proofs.RowType.LegalNames
import SqlSchema.Proofs.RowType.DistinctNames
import SqlSchema.Proofs.Dialect.TemplateSplit
import SqlSchema.Proofs.RowType.TableComments
import SqlSchema.Proofs.RowType.WrittenUnits
import SqlSchema.Proofs.Query.Offsets
import SqlSchema.Proofs.Query.QuotedRuns
