import ResolverGen.Main
import ResolverGen.Mini.Generator
import ResolverGen.DirectCall
import ResolverGen.Proofs.Go.GenerateRuns
import ResolverGen.Proofs.Go.Implementations
import ResolverGen.Proofs.Go.MemberNames
import ResolverGen.Proofs.Template.Outputs
import ResolverGen.Proofs.Template.ConfiguredTexts
import ResolverGen.Proofs.Go.VariantTexts
import ResolverGen.Proofs.Go.VariantRendering
import ResolverGen.Proofs.Go.StoredFields
import ResolverGen.Proofs.TidiedLines
import ResolverGen.Proofs.Go.CommentLines
import ResolverGen.Proofs.Go.DefaultRendering
import ResolverGen.Proofs.Go.DeprecationReasons
import ResolverGen.Proofs.Go.TypeLines
import ResolverGen.Proofs.Go.DeclaredTypes
import ResolverGen.Proofs.Go.ResolverStructs
import ResolverGen.Proofs.Go.TypeNames
import ResolverGen.Proofs.Go.CallHistory
import ResolverGen.Proofs.Go.InterfaceVariants
import ResolverGen.Proofs.Go.SameCode
import ResolverGen.Proofs.Go.RewordedTypes
import ResolverGen.Proofs.Go.Descriptions
import ResolverGen.Proofs.Parallel
import ResolverGen.Proofs.Template.GuardedNames
import ResolverGen.Proofs.Go.SilentRuns
import ResolverGen.Proofs.Naming.SharedKeys
import ResolverGen.Proofs.FirstFailures
import ResolverGen.Proofs.CommandLine.DirectCalls
import ResolverGen.Proofs.Registry.Refusals
import ResolverGen.Proofs.Go.StepFailures
import ResolverGen.Proofs.Registry.KnownNames
import ResolverGen.Proofs.GraphQL.DocumentMaps
import ResolverGen.Proofs.BlankLines
import ResolverGen.Proofs.Settings.ConfiguredVariants
import ResolverGen.Proofs.Go.FieldImports
import ResolverGen.Proofs.Go.VariantLists
import ResolverGen.Proofs.Settings.VariantSpellings
import ResolverGen.Proofs.Settings.SettingsLayers
import ResolverGen.Proofs.Go.BuiltinScalars
import ResolverGen.Proofs.Go.SafeNames
import ResolverGen.Proofs.Go.GivenIdentifiers
import ResolverGen.Proofs.Naming.RoundTrips
import ResolverGen.Proofs.Go.PackageNames
import ResolverGen.Proofs.Template.ListedTemplates
import ResolverGen.Proofs.Files.TreeChanges
