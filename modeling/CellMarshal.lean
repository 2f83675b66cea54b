import CellMarshal.Text.Blank
import CellMarshal.Text.Quoted
import CellMarshal.Decimal.Layout
import CellMarshal.Decimal.Numeral
import CellMarshal.Decimal.Whole
import CellMarshal.Serial
import CellMarshal.Cell.Basic
import CellMarshal.Cell.Equality
import CellMarshal.Cell.Grid
import CellMarshal.Cell.Text
import CellMarshal.Typing.DeclType
import CellMarshal.Failure
import CellMarshal.Value.Equality
import CellMarshal.Value.Instance
import CellMarshal.Arena
import CellMarshal.Converter.Scalar
import CellMarshal.Registry.Draft
import CellMarshal.Registry.Read
import CellMarshal.Registry.Write
import CellMarshal.Class.Catalog
import CellMarshal.Gateway
import CellMarshal.Script
import CellMarshal.Proofs.Arena.Consistency
import CellMarshal.Proofs.Reading.Typed
import CellMarshal.Proofs.Binding.Fitting
import CellMarshal.Proofs.Registry.Coherence
import CellMarshal.Proofs.Arena.Tally
import CellMarshal.Proofs.Arena.Parking
import CellMarshal.Proofs.Writing.HandOver
import CellMarshal.Proofs.Gateway.Calls
import CellMarshal.Proofs.Gateway.Permanence
import CellMarshal.Proofs.Reading.Failures
import CellMarshal.Proofs.Writing.Outcome
import CellMarshal.Proofs.Binding.Selected
import CellMarshal.Proofs.Reading.Growth
import CellMarshal.Proofs.Typing.Mentions
import CellMarshal.Proofs.Value.Equality
import CellMarshal.Proofs.RoundTrip.Stock
import CellMarshal.Proofs.RoundTrip.Containers
import CellMarshal.Proofs.RoundTrip.SingleCells
import CellMarshal.Proofs.RoundTrip.Grids
import CellMarshal.Proofs.RoundTrip.Settled
import CellMarshal.Proofs.Binding.Reuse
import CellMarshal.Proofs.Binding.Tail
import CellMarshal.Proofs.Writing.Results
import CellMarshal.Proofs.Gateway.Tags
import CellMarshal.Proofs.Decimal.Whole
import CellMarshal.Proofs.RoundTrip.OpenGrids
import CellMarshal.Proofs.RoundTrip.Lines
import CellMarshal.Proofs.RoundTrip.NestedRows
import CellMarshal.Proofs.RoundTrip.Blocks
import CellMarshal.Proofs.Binding.Choice
import CellMarshal.Proofs.Registry.Precedence
import CellMarshal.Proofs.Registry.Levels
import CellMarshal.Proofs.Registry.Order
import CellMarshal.Proofs.Writing.Totality
import CellMarshal.Proofs.Typing.Assignability
import CellMarshal.Proofs.Value.Instances
import CellMarshal.Proofs.Reading.Parts
import CellMarshal.Proofs.Reading.NullArguments
import CellMarshal.Proofs.Reading.Collections
import CellMarshal.Proofs.RoundTrip.Objects
import CellMarshal.Proofs.Serial.Days
import CellMarshal.Proofs.Converter.Clamping
import CellMarshal.Proofs.Typing.Specificity
import CellMarshal.Proofs.Binding.Narrower
import CellMarshal.Proofs.Binding.Sums
import CellMarshal.Proofs.Cell.Keys
import CellMarshal.Proofs.Reading.Nesting
