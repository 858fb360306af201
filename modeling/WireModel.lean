import WireModel.Main
import WireModel.Decoding.Run
import WireModel.Model.Equality
import WireModel.Proofs.GeneratedDecoders
import WireModel.Proofs.ProcessorOrder
import WireModel.Proofs.Answers
import WireModel.Proofs.DecoderParts
import WireModel.Proofs.Linking
import WireModel.Proofs.AliasChains
import WireModel.Proofs.Unambiguous
import WireModel.Proofs.Places
import WireModel.Proofs.Resolution
import WireModel.Proofs.Preservation
import WireModel.Proofs.DeclarationOrder
import WireModel.Proofs.Locality
import WireModel.Proofs.FirstFailure
import WireModel.Proofs.FunctionNames
import WireModel.Proofs.Reordering
import WireModel.Proofs.RestoredProperties
import WireModel.Proofs.RoundTrip
import WireModel.Proofs.Unplaced
import WireModel.Proofs.Diagnostics
import WireModel.Proofs.Inhabitants
import WireModel.Proofs.MapKeys
import WireModel.Proofs.OwnDocs
import WireModel.Proofs.PatternReading
import WireModel.Proofs.ClassReading
import WireModel.Proofs.GroupReading
import WireModel.Proofs.AnchoredPatterns
import WireModel.Proofs.PatternFaults
import WireModel.Proofs.MapEntries
import WireModel.Proofs.ErrorPaths
import WireModel.Proofs.Handing
import WireModel.Proofs.UnreadMembers
import WireModel.Proofs.Listings
import WireModel.Proofs.Validation
import WireModel.Proofs.NodePlaces
import WireModel.Proofs.SlotValidation
import WireModel.Proofs.KeyScopes
import WireModel.Proofs.Codability
import WireModel.Proofs.DocumentationCheck
import WireModel.Proofs.ReferenceStyles
import WireModel.Proofs.IntegerRefinements
import WireModel.Proofs.ValueEquality
import WireModel.Proofs.SetDecoding
import WireModel.Proofs.Imports
import WireModel.Proofs.Undecodable
import WireModel.Proofs.NormalText
import WireModel.Proofs.Traversals
import WireModel.Proofs.PropertyKinds
import WireModel.Proofs.TypedReads
