import RegistrySync.CloudMap.Access
import RegistrySync.CloudMap.Collect
import RegistrySync.CloudMap.Directory
import RegistrySync.Consul.Agent
import RegistrySync.Consul.Catalog
import RegistrySync.Consul.Poller
import RegistrySync.Daemon.Environment
import RegistrySync.Daemon.Service
import RegistrySync.Daemon.Startup
import RegistrySync.Dialogue
import RegistrySync.Failure
import RegistrySync.Json.Decode
import RegistrySync.Json.Magnitude
import RegistrySync.Json.Parser
import RegistrySync.Json.Tree
import RegistrySync.Json.Value
import RegistrySync.Main
import RegistrySync.Mesh.Endpoint
import RegistrySync.Mesh.Inference
import RegistrySync.Mesh.Json
import RegistrySync.Mesh.ServiceEntry
import RegistrySync.Net.Domain
import RegistrySync.Net.Domain.Direction
import RegistrySync.Net.Domain.Joining
import RegistrySync.Net.Domain.Mapping
import RegistrySync.Net.Host
import RegistrySync.Net.Http
import RegistrySync.Net.IpLiteral
import RegistrySync.Net.Percent
import RegistrySync.Net.Punycode
import RegistrySync.Net.Url
import RegistrySync.Reconcile.Cycle
import RegistrySync.Reconcile.Event
import RegistrySync.Reconcile.EventQueue
import RegistrySync.Reconcile.ObjectStore
import RegistrySync.Reconcile.Reconciler
import RegistrySync.Reconcile.Ticker
import RegistrySync.Rehearsal.Performance
import RegistrySync.Rehearsal.Request
import RegistrySync.Rehearsal.World
import RegistrySync.Settings
import RegistrySync.Settings.Json
import RegistrySync.Sorted
import RegistrySync.Table
import RegistrySync.Text.Blank
import RegistrySync.Text.CodePoints
import RegistrySync.Text.Combining
import RegistrySync.Text.Composed
import RegistrySync.Text.Composition
import RegistrySync.Text.Decimal
import RegistrySync.Text.Hex
import RegistrySync.Text.Marks
import RegistrySync.Text.Pieces
import RegistrySync.Text.Quoted
import RegistrySync.Text.Shown
import RegistrySync.Text.UpperCase
import RegistrySync.Watch.Poll
import RegistrySync.Watch.Roster
import RegistrySync.Watch.Workshop
import RegistrySync.Proofs.Ownership
import RegistrySync.Proofs.Trace
import RegistrySync.Proofs.Turns
import RegistrySync.Proofs.Isolation
import RegistrySync.Proofs.Subjects
import RegistrySync.Proofs.Independence
import RegistrySync.Proofs.Accounts
import RegistrySync.Proofs.Contention
import RegistrySync.Proofs.Equivalence
import RegistrySync.Proofs.Convergence
import RegistrySync.Proofs.TurnOrder
import RegistrySync.Proofs.RunLoop
import RegistrySync.Proofs.Unread
import RegistrySync.Proofs.Lag
import RegistrySync.Proofs.Quiescence
import RegistrySync.Proofs.Reordering
import RegistrySync.Proofs.Deletions
import RegistrySync.Proofs.Polling
import RegistrySync.Proofs.Freshness
import RegistrySync.Proofs.Listings
import RegistrySync.Proofs.Surveys
import RegistrySync.Proofs.Coverage
import RegistrySync.Proofs.Ports
import RegistrySync.Proofs.Listeners
import RegistrySync.Proofs.JsonText
import RegistrySync.Proofs.RoundTrip
import RegistrySync.Proofs.WebUrls
import RegistrySync.Proofs.WebPaths
import RegistrySync.Proofs.NamedSegments
import RegistrySync.Proofs.Startup
import RegistrySync.Proofs.Requests
import RegistrySync.Proofs.Publications
import RegistrySync.Proofs.PortUnion
import RegistrySync.Proofs.Clients
import RegistrySync.Proofs.Instances
import RegistrySync.Proofs.Timeouts
import RegistrySync.Proofs.ServiceUrls
