import ModelRegistry.Fixture
import ModelRegistry.LogFormat
import ModelRegistry.Main
import ModelRegistry.Program
import ModelRegistry.Proofs.Architecture.History
import ModelRegistry.Proofs.Authority
import ModelRegistry.Proofs.Checkpoint.RoundTrip
import ModelRegistry.Proofs.Coalescing.Runs
import ModelRegistry.Proofs.Config.ClassNames
import ModelRegistry.Proofs.Config.Confinement
import ModelRegistry.Proofs.Config.Dependence
import ModelRegistry.Proofs.Config.Diagnosis
import ModelRegistry.Proofs.Config.Flattening
import ModelRegistry.Proofs.Config.Mapping
import ModelRegistry.Proofs.Config.Ownership
import ModelRegistry.Proofs.Config.Publication
import ModelRegistry.Proofs.Config.Satisfiability
import ModelRegistry.Proofs.Launch
import ModelRegistry.Proofs.LoaderReference
import ModelRegistry.Proofs.Loading
import ModelRegistry.Proofs.Program
import ModelRegistry.Proofs.Service.HiddenSize
import ModelRegistry.Proofs.Service.SchemaFiles
import ModelRegistry.Proofs.Service.Start
import ModelRegistry.Proofs.Speculative.LayerWidth
import ModelRegistry.Proofs.Speculative.Layout
import ModelRegistry.Proofs.Speculative.Narrow
import ModelRegistry.Proofs.Speculative.Rows
import ModelRegistry.Proofs.Speculative.Sharing
import ModelRegistry.Proofs.Visibility
