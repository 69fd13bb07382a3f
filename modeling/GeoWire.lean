import GeoWire.Geometry.Equality
import GeoWire.Geometry.Nesting
import GeoWire.Geometry.Node
import GeoWire.Geometry.Normal
import GeoWire.Grammar
import GeoWire.LogEvent
import GeoWire.Planar.Conversion
import GeoWire.Setting
import GeoWire.Proofs.Acceptance
import GeoWire.Proofs.HeaderAcceptance
import GeoWire.Proofs.BodyAcceptance
import GeoWire.Proofs.AcceptedBlobs
import GeoWire.Proofs.EmissionOutcome
import GeoWire.Proofs.Measurement
import GeoWire.Proofs.PassAgreement
import GeoWire.Proofs.Spelling
import GeoWire.Proofs.TreeCoordinates
import GeoWire.Proofs.RoundTrip
import GeoWire.Proofs.DecodedTrees
import GeoWire.Proofs.Refusals
import GeoWire.Proofs.Extension
import GeoWire.Proofs.EmptyMembers
import GeoWire.Proofs.BodyLengths
import GeoWire.Proofs.Reencoding
import GeoWire.Proofs.Placement
import GeoWire.Proofs.EncodingOutcome
import GeoWire.Proofs.LevelLimits
import GeoWire.Proofs.Composition
import GeoWire.Proofs.PeekedHeaders
import GeoWire.Geometry.Flat
import GeoWire.Proofs.PlanarClosure
import GeoWire.Planar.Parts
import GeoWire.Proofs.PlanarTrips
import GeoWire.Proofs.BlankPoints
import GeoWire.Proofs.PlanarShapes
import GeoWire.Decode.Trace
import GeoWire.Proofs.LawfulSteps
import GeoWire.Proofs.BlobSteps
import GeoWire.Proofs.DeclaredOrders
import GeoWire.Proofs.CountGuards
import GeoWire.Proofs.Displacement
import GeoWire.Proofs.TruthfulCauses
import GeoWire.Geometry.Count
import GeoWire.Proofs.EncodedLengths
import GeoWire.Proofs.ReadBack
import GeoWire.Proofs.RingConstructors
import GeoWire.Proofs.CoordinateOrder
import GeoWire.Proofs.ReaderRuns
import GeoWire.Proofs.TypeFields
