import ProtoCompanion.Registry.Session
import ProtoCompanion.Main
import ProtoCompanion.Proofs.RegistrationContents
import ProtoCompanion.Proofs.OriginalNames
import ProtoCompanion.Proofs.ElementComments
import ProtoCompanion.Proofs.HttpAnnotations
import ProtoCompanion.Proofs.NameLookup
import ProtoCompanion.Proofs.OutlineRuns
import ProtoCompanion.Proofs.ComparedRuns
import ProtoCompanion.Proofs.SkippedFiles
import ProtoCompanion.Proofs.ReorderedRequests
import ProtoCompanion.Proofs.BracketedMoves
import ProtoCompanion.Proofs.UnknownFields
import ProtoCompanion.Proofs.AnnotatedRequests
import ProtoCompanion.Proofs.AnnotationRoundTrip
import ProtoCompanion.Proofs.JoinedRequests
import ProtoCompanion.Proofs.ResponseMessages
import ProtoCompanion.Proofs.ServedResponses
import ProtoCompanion.Proofs.ScopedBodies
import ProtoCompanion.Proofs.ReachableRegistries
import ProtoCompanion.Proofs.OptionalDots
import ProtoCompanion.Proofs.ReferredClasses
import ProtoCompanion.Proofs.StringExpressions
import ProtoCompanion.Proofs.ConstantNames
import ProtoCompanion.Proofs.MethodComments
import ProtoCompanion.Proofs.FieldShapes
import ProtoCompanion.Proofs.WrittenLines
import ProtoCompanion.Proofs.MessageIndex
import ProtoCompanion.Proofs.OneLineNames
import ProtoCompanion.Proofs.ClassNesting
import ProtoCompanion.Proofs.ParsedParameters
import ProtoCompanion.Proofs.NumberedFields
import ProtoCompanion.Proofs.OuterClassNames
import ProtoCompanion.Proofs.OneofMembership
import ProtoCompanion.Proofs.RenderedBlocks
import ProtoCompanion.Proofs.MismatchedMoves
import ProtoCompanion.Proofs.DottedKeys
