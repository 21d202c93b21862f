import TreeTypes.Main
import TreeTypes.Proofs.Run.Convergence
import TreeTypes.Proofs.Run.InMemory
import TreeTypes.Proofs.Run.Prediction
import TreeTypes.Proofs.Source.ModulePaths
import TreeTypes.Proofs.Source.TypeNames
import TreeTypes.Proofs.Resolution.Dependencies
import TreeTypes.Proofs.Resolution.Respelling
import TreeTypes.Proofs.Run.Isolation
import TreeTypes.Proofs.Source.TypedFields
import TreeTypes.Proofs.Source.Decoding
import TreeTypes.Proofs.Grammar.CamelCase
import TreeTypes.Proofs.Source.ImportBlock
import TreeTypes.Proofs.Source.HandleImport
import TreeTypes.Proofs.Grammar.Listing
import TreeTypes.Proofs.Run.Validation
import TreeTypes.Proofs.CommandLine.Overriding
import TreeTypes.Proofs.Json.Spelling
import TreeTypes.Proofs.Json.Reading
import TreeTypes.Proofs.Json.Writing
import TreeTypes.Proofs.Json.Documents
