import GridClient.Bindings
import GridClient.Buffer.Basic
import GridClient.Buffer.Get
import GridClient.Buffer.Number
import GridClient.Buffer.Put
import GridClient.Bytes
import GridClient.Bytes.Magnitude
import GridClient.Connection
import GridClient.Cursor
import GridClient.Decimal
import GridClient.Diagnostics.Field
import GridClient.Diagnostics.Header
import GridClient.Diagnostics.Record
import GridClient.Diagnostics.State
import GridClient.Error
import GridClient.Floating.Basic
import GridClient.Floating.Format
import GridClient.Floating.Numeral
import GridClient.Floating.Shortest
import GridClient.Guid
import GridClient.Metadata.Column
import GridClient.Metadata.Table
import GridClient.Network.Basic
import GridClient.Network.Channel
import GridClient.Network.Peer
import GridClient.Network.Scripted
import GridClient.Network.Stream
import GridClient.Options
import GridClient.Options.FromUrl
import GridClient.Options.Read
import GridClient.Outcome
import GridClient.Parameter
import GridClient.Query.Basic
import GridClient.Query.Catalog
import GridClient.Query.Data
import GridClient.Query.ForeignKeys
import GridClient.Query.Sink
import GridClient.Row
import GridClient.Statement
import GridClient.Text.Blank
import GridClient.Text.Hex
import GridClient.Text.Numeral
import GridClient.Text.Utf16
import GridClient.Text.Utf8
import GridClient.Types.Binding
import GridClient.Types.Sql
import GridClient.Types.Tag
import GridClient.Url.Address
import GridClient.Url.Basic
import GridClient.Url.Domain.Basic
import GridClient.Url.Domain.CharTable
import GridClient.Url.Domain.CombiningClass
import GridClient.Url.Domain.Composition
import GridClient.Url.Domain.Decomposition
import GridClient.Url.Domain.Direction
import GridClient.Url.Domain.Disallowed
import GridClient.Url.Domain.Joining
import GridClient.Url.Domain.Mapping
import GridClient.Url.Domain.Mark
import GridClient.Url.Domain.Punycode
import GridClient.Url.Form
import GridClient.Url.Host
import GridClient.Url.Path
import GridClient.Url.Percent
import GridClient.Wire.Column
import GridClient.Wire.Decoder
import GridClient.Wire.Frame
import GridClient.Wire.Object
import GridClient.Wire.Request
import GridClient.Wire.Response
import GridClient.Wire.Value
import GridClient.Proofs.Page
import GridClient.Proofs.RowScript
import GridClient.Proofs.Delivery
import GridClient.Proofs.Answer
import GridClient.Proofs.PageCursor
import GridClient.Proofs.ResultSet
import GridClient.Proofs.StreamEvents
import GridClient.Proofs.Transcript
import GridClient.Proofs.RoundTrip
import GridClient.Proofs.Lockstep
import GridClient.Proofs.CursorDiscipline
import GridClient.Proofs.CursorTrips
import GridClient.Proofs.StatementCursor
import GridClient.Proofs.RequestReading
import GridClient.Proofs.Accepting
import GridClient.Proofs.ResponseReading
import GridClient.Proofs.RowWarnings
import GridClient.Proofs.StatementReports
import GridClient.Proofs.BufferReading
import GridClient.Proofs.NumeralReading
import GridClient.Proofs.BufferRoundTrip
import GridClient.Proofs.Rebinding
import GridClient.Proofs.Segmentation
import GridClient.Proofs.UndecodableColumn
import GridClient.Proofs.DecoderFailures
import GridClient.Proofs.DecodeFailureReports
import GridClient.Proofs.RejectedPage
import GridClient.Proofs.ColumnGrammar
import GridClient.Proofs.RowAgreement
import GridClient.Proofs.CatalogRows
import GridClient.Proofs.EndOfData
import GridClient.Proofs.ReaderPositions
import GridClient.Proofs.RowSafety
import GridClient.Proofs.Speculation
import GridClient.Proofs.Renderings
import GridClient.Proofs.SparedMemory
import GridClient.Proofs.Truncation
import GridClient.Proofs.IntegerWords
import GridClient.Proofs.IntegerConversion
import GridClient.Proofs.FloatingNumerals
import GridClient.Proofs.UnsignedNumerals
import GridClient.Proofs.TextEnd
import GridClient.Proofs.TextToInteger
import GridClient.Proofs.LongDivision
import GridClient.Proofs.NumeralPlaces
import GridClient.Proofs.DecimalText
import GridClient.Proofs.SignedBytes
import GridClient.Proofs.NumericStruct
import GridClient.Proofs.BoundedDecimals
import GridClient.Proofs.DecimalPadding
import GridClient.Proofs.HexDigits
import GridClient.Proofs.IdentifierText
import GridClient.Proofs.BindingHistory
import GridClient.Proofs.ArgumentCollection
import GridClient.Proofs.DiagnosticRecords
import GridClient.Proofs.Lifecycle
import GridClient.Proofs.PartialMessages
import GridClient.Proofs.ColumnSizes
import GridClient.Proofs.FloatingToInteger
import GridClient.Proofs.TextLimit
import GridClient.Proofs.InternalFaults
import GridClient.Proofs.CursorCoherence
import GridClient.Proofs.RowNumbers
import GridClient.Proofs.OptionsReading
