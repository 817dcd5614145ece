import ApiTypes.Document.Encode
import ApiTypes.Main
import ApiTypes.Proofs.CrossReference
import ApiTypes.Proofs.MadeNames
import ApiTypes.Proofs.ModuleNames
import ApiTypes.Proofs.SparseObject
import ApiTypes.Proofs.WrittenDocument
import ApiTypes.Proofs.StandardMarkers
import ApiTypes.Proofs.NoticeLines
import ApiTypes.Proofs.PathParent
import ApiTypes.Proofs.OutputDirectory
import ApiTypes.Proofs.ObjectPositions
import ApiTypes.Proofs.HeaderSections
import ApiTypes.Proofs.TypeNames
import ApiTypes.Proofs.UnitIndependence
import ApiTypes.Proofs.OptionalTypes
import ApiTypes.Proofs.ArrayItems
import ApiTypes.Proofs.CheckedRun
import ApiTypes.Proofs.ResolvedFields
import ApiTypes.Proofs.AtomicReplace
import ApiTypes.Proofs.StrandedFile
import ApiTypes.Proofs.UnitFailures
import ApiTypes.Proofs.EditedDocument
import ApiTypes.Proofs.ReloadedDocument
import ApiTypes.Proofs.SingleLineDocs
import ApiTypes.Proofs.ExclusiveWriters
import ApiTypes.Proofs.ActivityParts
import ApiTypes.Proofs.FlattenedArray
import ApiTypes.Proofs.UnderlyingType
import ApiTypes.Proofs.TypedReference
import ApiTypes.Proofs.BlamedNames
import ApiTypes.Proofs.ShownTypes
import ApiTypes.Proofs.AsciiFieldNames
import ApiTypes.Proofs.CamelCase
import ApiTypes.Proofs.FieldIdentifier
import ApiTypes.Proofs.SnakeWords
import ApiTypes.Proofs.ResourceType
