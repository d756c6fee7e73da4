import Dataflow.Main
import Dataflow.Json.Request
import Dataflow.Summary
import Dataflow.Proofs.Graph.Inputs
import Dataflow.Proofs.Graph.Solution
import Dataflow.Proofs.Execution.Payload
import Dataflow.Proofs.Store.Nesting
import Dataflow.Proofs.Node.Nesting
import Dataflow.Proofs.Execution.Preparation
import Dataflow.Proofs.Adapter.Fanout
import Dataflow.Proofs.Execution.Phases
import Dataflow.Proofs.Execution.Outputs
import Dataflow.Proofs.Adapter.Steady
import Dataflow.Proofs.Component.Wrapping
import Dataflow.Proofs.Component.Binding
import Dataflow.Proofs.Component.Fanout
import Dataflow.Proofs.Execution.Sources
import Dataflow.Proofs.Execution.Written
import Dataflow.Proofs.Component.Prepared
import Dataflow.Proofs.Component.Refinement
import Dataflow.Proofs.Component.Wrapped
import Dataflow.Proofs.Execution.Declared
import Dataflow.Proofs.Graph.Plots
import Dataflow.Proofs.Execution.Typed
import Dataflow.Proofs.Store.Memory
import Dataflow.Proofs.Component.Listing
import Dataflow.Proofs.Execution.Depth
import Dataflow.Proofs.Execution.Stable
import Dataflow.Proofs.Node.Unfolding
import Dataflow.Proofs.Store.Collection
import Dataflow.Proofs.Component.Provisioning
import Dataflow.Proofs.Coercion.Exact
import Dataflow.Proofs.Coercion.Shown
import Dataflow.Proofs.Adapter.Descriptors
import Dataflow.Proofs.Component.Browsing
import Dataflow.Proofs.Component.Lookup
import Dataflow.Proofs.Component.Loosening
import Dataflow.Proofs.Component.Search
import Dataflow.Proofs.Component.Optional
import Dataflow.Proofs.Execution.Acceptance
import Dataflow.Proofs.Graph.Unknown
import Dataflow.Proofs.Revision.Editing
import Dataflow.Proofs.Remote.Outcome
import Dataflow.Proofs.Node.Walk
