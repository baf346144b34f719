import BusinessModel.Lint.Record
import BusinessModel.Main
import BusinessModel.Proofs.Graph
import BusinessModel.Proofs.Lint.Warnings
import BusinessModel.Proofs.Graph.Closed
import BusinessModel.Proofs.Identifier
import BusinessModel.Proofs.Schema.Document
import BusinessModel.Proofs.Detection
import BusinessModel.Proofs.Graph.Equations
import BusinessModel.Proofs.Lint.Lossless
import BusinessModel.Proofs.CommandLine.Lint
import BusinessModel.Proofs.Alike.Renamed
import BusinessModel.Proofs.Schema.Reordered
import BusinessModel.Proofs.CommandLine.Agreement
import BusinessModel.Proofs.Session.SchemaHistory
import BusinessModel.Proofs.Session.SettingsHistory
import BusinessModel.Proofs.Lint.Growth
import BusinessModel.Proofs.Lint.Independent
import BusinessModel.Proofs.Lint.Issues
import BusinessModel.Proofs.Lint.Removed
import BusinessModel.Proofs.Graph.Coverage
import BusinessModel.Proofs.Graph.Monotone
import BusinessModel.Proofs.Lint.Appended
import BusinessModel.Proofs.CommandLine.Loading
import BusinessModel.Proofs.CommandLine.Graph
import BusinessModel.Proofs.Schema.IdPattern
import BusinessModel.Proofs.Index.Collected
