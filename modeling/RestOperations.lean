import RestOperations.Service
import RestOperations.Session
import RestOperations.Proofs.Delivery
import RestOperations.Proofs.Outcome
import RestOperations.Proofs.Json.Fits
import RestOperations.Proofs.Slot.Position
import RestOperations.Proofs.Slot.Conversion
import RestOperations.Proofs.Template.Containment
import RestOperations.Proofs.Operation.Required
import RestOperations.Proofs.Operation.Containment
import RestOperations.Proofs.Slot.Grammar
import RestOperations.Proofs.Slot.Occurrence
import RestOperations.Proofs.Template.Slots
import RestOperations.Proofs.Template.Faults
import RestOperations.Proofs.Operation.Slots
import RestOperations.Proofs.Tracing
import RestOperations.Proofs.Operation.Arguments
import RestOperations.Proofs.Template.Locality
import RestOperations.Proofs.Operation.Locality
import RestOperations.Proofs.Operation.Passing
import RestOperations.Proofs.Catalog.Loading
import RestOperations.Proofs.Catalog.Registering
import RestOperations.Proofs.Json.Depth
import RestOperations.Proofs.Http.Replies
import RestOperations.Proofs.Slot.Splitting
import RestOperations.Proofs.Collection.Templates
import RestOperations.Proofs.Json.Scalars
import RestOperations.Proofs.Value.Members
import RestOperations.Proofs.Json.Data
import RestOperations.Proofs.Json.RoundTrip
import RestOperations.Proofs.Operation.Options
import RestOperations.Proofs.Slot.Pieces
import RestOperations.Proofs.Text.Percent
import RestOperations.Proofs.Template.Url
import RestOperations.Proofs.Yaml.Levels
import RestOperations.Proofs.Yaml.Scanning
import RestOperations.Proofs.Yaml.Composing
import RestOperations.Proofs.Document.Reporting
import RestOperations.Proofs.Decimal.Numerals
import RestOperations.Proofs.Operation.Defaults
import RestOperations.Proofs.Template.Slashes
import RestOperations.Proofs.Text.Unescape
import RestOperations.Proofs.Template.Addresses
import RestOperations.Proofs.Operation.DeclaredOptions
import RestOperations.Proofs.Operation.SlotTexts
import RestOperations.Proofs.Json.Refused
import RestOperations.Proofs.Slot.Restoring
import RestOperations.Proofs.Template.Acceptance
import RestOperations.Proofs.Operation.Acceptance
import RestOperations.Proofs.Catalog.Documents
import RestOperations.Proofs.Schema
import RestOperations.Proofs.Operation.Presence
import RestOperations.Proofs.Http.Records
import RestOperations.Proofs.Template.Nulls
import RestOperations.Proofs.Document.RoundTrip
import RestOperations.Proofs.Query.Members
import RestOperations.Proofs.Template.Places
import RestOperations.Proofs.Http.Placeholders
import RestOperations.Proofs.ErrorHeaders
import RestOperations.Proofs.Slot.Scalars
import RestOperations.Proofs.Template.Recognition
