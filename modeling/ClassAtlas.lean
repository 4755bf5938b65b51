import ClassAtlas.Text.Dotted
import ClassAtlas.Text.Quoted
import ClassAtlas.Text.Raw
import ClassAtlas.Decimal.Binary64
import ClassAtlas.Decimal.Shortest
import ClassAtlas.Calendar
import ClassAtlas.Value
import ClassAtlas.Json.Basic
import ClassAtlas.Json.Reader
import ClassAtlas.Json.Writer
import ClassAtlas.AnnotationUse
import ClassAtlas.Modifier
import ClassAtlas.SourceType
import ClassAtlas.Declarations.Basic
import ClassAtlas.Declarations.Check
import ClassAtlas.Declarations.Rendering
import ClassAtlas.Renaming
import ClassAtlas.TargetType.Basic
import ClassAtlas.TargetType.Encoding
import ClassAtlas.Element
import ClassAtlas.Host.Assignable
import ClassAtlas.Association
import ClassAtlas.AnnotatedClass
import ClassAtlas.Artifact.Basic
import ClassAtlas.Artifact.Reading
import ClassAtlas.Diagnostics
import ClassAtlas.Discovery
import ClassAtlas.Yaml.Cursor
import ClassAtlas.Yaml.Fault
import ClassAtlas.Yaml.Token.Basic
import ClassAtlas.Yaml.Token.Block
import ClassAtlas.Yaml.Token.Folding
import ClassAtlas.Yaml.Token.Plain
import ClassAtlas.Yaml.Token.Properties
import ClassAtlas.Yaml.Token.Quoted
import ClassAtlas.Yaml.Token.Stream
import ClassAtlas.Yaml.Scalar.Meaning
import ClassAtlas.Yaml.Document
import ClassAtlas.Document
import ClassAtlas.Files.FileError
import ClassAtlas.Files.FileTree
import ClassAtlas.Config
import ClassAtlas.Declarations.Reading
import ClassAtlas.Generator.Basic
import ClassAtlas.Generator.Dump
import ClassAtlas.CommandLine.Arguments
import ClassAtlas.CommandLine.Inspect
import ClassAtlas.CommandLine.Run
import ClassAtlas.Main
import ClassAtlas.ClassSets
import ClassAtlas.Yaml.Graph
import ClassAtlas.Yaml.Merge
import ClassAtlas.Proofs.Assignability
import ClassAtlas.Proofs.TranslationTrace
import ClassAtlas.Proofs.ClassSetOrder
import ClassAtlas.Proofs.Discovery
import ClassAtlas.Proofs.JsonString
import ClassAtlas.Proofs.JsonText
import ClassAtlas.Proofs.ArtifactRoundTrip
import ClassAtlas.Proofs.CheckOutcome
import ClassAtlas.Proofs.CheckedDepth
import ClassAtlas.Proofs.Lists
import ClassAtlas.Proofs.RegistryMembers
import ClassAtlas.Proofs.NameLookup
import ClassAtlas.Proofs.TreeChanges
import ClassAtlas.Proofs.RoundRecords
import ClassAtlas.Proofs.SessionNotes
import ClassAtlas.Proofs.DumpRun
import ClassAtlas.Proofs.DumpedArtifacts
import ClassAtlas.Proofs.CheckedArtifacts
import ClassAtlas.Proofs.InspectionRun
import ClassAtlas.Proofs.InspectionAgreement
import ClassAtlas.Proofs.SourceNaming
import ClassAtlas.Proofs.TranslationShape
import ClassAtlas.Proofs.MoreMarkers
import ClassAtlas.Proofs.QuietRuns
import ClassAtlas.Proofs.DumpAccount
import ClassAtlas.Proofs.TargetParts
import ClassAtlas.Proofs.FileWriting
import ClassAtlas.Proofs.LoadingOutcome
import ClassAtlas.Proofs.MemberChange
import ClassAtlas.Proofs.HostAgreement
import ClassAtlas.Proofs.DeclarationOrder
import ClassAtlas.Proofs.PropertyLinks
import ClassAtlas.Proofs.PropertyNullability
import ClassAtlas.Proofs.ArgumentViews
import ClassAtlas.Proofs.ArraysApplied
import ClassAtlas.Proofs.AcceptedEncodings
import ClassAtlas.Proofs.TypeNotation
import ClassAtlas.Proofs.ClassSetRuns
import ClassAtlas.Proofs.AnnotatedElements
import ClassAtlas.Proofs.ArtifactPaths
import ClassAtlas.Proofs.ConfigOutcome
import ClassAtlas.Proofs.ReturnSpelling
