import RoutedFields.Main
import RoutedFields.Output.Call
import RoutedFields.Proofs.Document.Parts
import RoutedFields.Proofs.Number.DecimalText
import RoutedFields.Proofs.Json.Scalars
import RoutedFields.Proofs.Json.RoundTrip
import RoutedFields.Proofs.Json.WritableValues
import RoutedFields.Proofs.Text.Pieces
import RoutedFields.Proofs.Reference.Segments
import RoutedFields.Proofs.Reference.Paths
import RoutedFields.Proofs.Reference.Places
import RoutedFields.Proofs.Reference.Resolution
import RoutedFields.Proofs.Reference.Hereditary
import RoutedFields.Proofs.Reference.Chain
import RoutedFields.Proofs.Reference.Layers
import RoutedFields.Proofs.Reference.Extension
import RoutedFields.Proofs.Field.Combination
import RoutedFields.Proofs.Field.RoutingRules
import RoutedFields.Proofs.Field.RoundTrip
import RoutedFields.Proofs.Compile.BodyFields
import RoutedFields.Proofs.Compile.ParseBeforeSend
import RoutedFields.Proofs.Compile.TextDefaults
import RoutedFields.Proofs.Schema.Unfolding
import RoutedFields.Proofs.Schema.Exploration
import RoutedFields.Proofs.Compile.Inlining
import RoutedFields.Proofs.Compile.SchemaPlaces
import RoutedFields.Proofs.Compile.LargerDocuments
import RoutedFields.Proofs.Document.DistinctKeys
import RoutedFields.Proofs.Document.PlainValues
import RoutedFields.Proofs.Walk.Declaration
import RoutedFields.Proofs.Walk.Visiting
import RoutedFields.Proofs.Build.Collection
import RoutedFields.Proofs.Build.Completeness
import RoutedFields.Proofs.Build.Destinations
import RoutedFields.Proofs.Build.Skipping
import RoutedFields.Proofs.Source.Loading
import RoutedFields.Proofs.Field.RequiredFlag
import RoutedFields.Proofs.Build.RequiredFields
import RoutedFields.Proofs.Build.ResourceCalls
import RoutedFields.Proofs.Build.ResourcesOfBuild
import RoutedFields.Proofs.Field.ValidFields
import RoutedFields.Proofs.Compile.TypedPlaces
import RoutedFields.Proofs.Compile.SchemaErrors
import RoutedFields.Proofs.Compile.ParameterErrors
import RoutedFields.Proofs.Compile.BodyErrors
import RoutedFields.Proofs.Walk.TypedOperations
import RoutedFields.Proofs.Build.DocumentedErrors
import RoutedFields.Proofs.Build.OperationCalls
import RoutedFields.Proofs.Build.ResourceUse
import RoutedFields.Proofs.Build.AddedPath
import RoutedFields.Proofs.Document.AlikeValues
import RoutedFields.Proofs.Field.PlainReading
import RoutedFields.Proofs.Override.Composition
import RoutedFields.Proofs.Files.Writing
import RoutedFields.Proofs.Config.Layers
import RoutedFields.Proofs.Json.Limits
import RoutedFields.Proofs.Output.Sinks
import RoutedFields.Proofs.CommandLine.Outcomes
import RoutedFields.Proofs.Source.ReadingErrors
import RoutedFields.Proofs.CommandLine.Arguments
import RoutedFields.Proofs.CommandLine.OutputFile
import RoutedFields.Proofs.Output.PlainConsoles
import RoutedFields.Proofs.Output.Separation
import RoutedFields.Proofs.Schema.KindExamples
import RoutedFields.Proofs.Json.ExactValues
import RoutedFields.Proofs.Compile.FaithfulDefaults
import RoutedFields.Proofs.Compile.ParameterShapes
import RoutedFields.Proofs.Compile.BodyShapes
import RoutedFields.Proofs.Compile.ChoiceDefaults
import RoutedFields.Proofs.Override.Matching
import RoutedFields.Proofs.Override.Comparing
import RoutedFields.Proofs.Field.EntryForms
import RoutedFields.Proofs.Override.WrittenEntries
import RoutedFields.Proofs.Override.Repetition
import RoutedFields.Proofs.Walk.MergedParameters
import RoutedFields.Proofs.Text.Ascii
import RoutedFields.Proofs.Naming.WordBoundaries
import RoutedFields.Proofs.Naming.LabelWords
import RoutedFields.Proofs.Naming.PercentEncoding
import RoutedFields.Proofs.Compile.MediaTypes
import RoutedFields.Proofs.Compile.MediaPreference
import RoutedFields.Proofs.Field.FirstValues
