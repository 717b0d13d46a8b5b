import TunnelKeeper.Attempt
import TunnelKeeper.Base64
import TunnelKeeper.Curve25519
import TunnelKeeper.Daemon.CommandLine
import TunnelKeeper.Daemon.Config
import TunnelKeeper.Daemon.Cycle
import TunnelKeeper.Daemon.Run
import TunnelKeeper.Device.Basic
import TunnelKeeper.Device.Endpoint
import TunnelKeeper.Document.Basic
import TunnelKeeper.Document.Render
import TunnelKeeper.Duration
import TunnelKeeper.FileEntry
import TunnelKeeper.Json.Reader
import TunnelKeeper.Json.Record
import TunnelKeeper.Json.Value
import TunnelKeeper.Json.Writer
import TunnelKeeper.Kernel.Changes
import TunnelKeeper.Kernel.Gateway
import TunnelKeeper.Kernel.Json
import TunnelKeeper.Kernel.Snapshot
import TunnelKeeper.Kernel.Table
import TunnelKeeper.Key
import TunnelKeeper.Mailbox
import TunnelKeeper.Main
import TunnelKeeper.Members
import TunnelKeeper.Net.Address
import TunnelKeeper.Net.AddressText
import TunnelKeeper.Net.Cidr
import TunnelKeeper.Net.Octets
import TunnelKeeper.Net.SocketAddress
import TunnelKeeper.Netlink.Gateway
import TunnelKeeper.Netlink.Link
import TunnelKeeper.Netlink.Request
import TunnelKeeper.Peer.Basic
import TunnelKeeper.Peer.Json
import TunnelKeeper.Peer.Row
import TunnelKeeper.Pool
import TunnelKeeper.Qr.Picture
import TunnelKeeper.Qr.Segment
import TunnelKeeper.Reconcile.Pass
import TunnelKeeper.Reconcile.Reconciler
import TunnelKeeper.Reconcile.Report
import TunnelKeeper.Service.Devices
import TunnelKeeper.Service.Error
import TunnelKeeper.Service.Peers
import TunnelKeeper.Store.Basic
import TunnelKeeper.Store.Memory
import TunnelKeeper.Store.Refusing
import TunnelKeeper.Store.Sort
import TunnelKeeper.Store.StateFile
import TunnelKeeper.Text.Alphanumeric
import TunnelKeeper.Text.Blank
import TunnelKeeper.Text.CharSet
import TunnelKeeper.Text.Decimal
import TunnelKeeper.Text.Escaped
import TunnelKeeper.Text.Lowercase
import TunnelKeeper.Text.Quoted
import TunnelKeeper.Text.Search
import TunnelKeeper.Text.Split
import TunnelKeeper.Timestamp
import TunnelKeeper.Toml.Quoted
import TunnelKeeper.Toml.Reader
import TunnelKeeper.Toml.Scalar
import TunnelKeeper.Toml.Tree
import TunnelKeeper.Toml.Value
import TunnelKeeper.Uuid
import TunnelKeeper.Validation
import TunnelKeeper.Proofs.Text.Digits
import TunnelKeeper.Proofs.Net.Octets
import TunnelKeeper.Proofs.Net.AddressText
import TunnelKeeper.Proofs.Net.Blocks
import TunnelKeeper.Proofs.Net.CidrText
import TunnelKeeper.Proofs.Text.Trim
import TunnelKeeper.Proofs.Text.Search
import TunnelKeeper.Proofs.Net.EndpointText
import TunnelKeeper.Proofs.Json.Text
import TunnelKeeper.Proofs.UuidText
import TunnelKeeper.Proofs.UuidSpelling
import TunnelKeeper.Proofs.KeyText
import TunnelKeeper.Proofs.KeyForm
import TunnelKeeper.Proofs.Peer.Stored
import TunnelKeeper.Proofs.Peer.Conversion
import TunnelKeeper.Proofs.Kernel.Changes
import TunnelKeeper.Proofs.Kernel.Faithful
import TunnelKeeper.Proofs.Pool.Calls
import TunnelKeeper.Proofs.Pool.Capacity
import TunnelKeeper.Proofs.Pool.Claims
import TunnelKeeper.Proofs.Pool.Holders
import TunnelKeeper.Proofs.Pool.Scan
import TunnelKeeper.Proofs.Keyed
import TunnelKeeper.Proofs.Store.Faithful
import TunnelKeeper.Proofs.Store.Listing
import TunnelKeeper.Proofs.Reconcile.Plan
import TunnelKeeper.Proofs.Attempt
import TunnelKeeper.Proofs.Reconcile.Pass
import TunnelKeeper.Proofs.Reconcile.Batch
import TunnelKeeper.Proofs.Reconcile.Effect
import TunnelKeeper.Proofs.InMemory
import TunnelKeeper.Proofs.Store.StateFile
import TunnelKeeper.Proofs.Store.Interchange
import TunnelKeeper.Proofs.Store.Spelling
import TunnelKeeper.Proofs.Net.AddressChars
import TunnelKeeper.Proofs.Document.Reader
import TunnelKeeper.Proofs.Document.Settings
import TunnelKeeper.Proofs.Document.Server
import TunnelKeeper.Proofs.Reconcile.Convergence
import TunnelKeeper.Proofs.Reconcile.Stability
import TunnelKeeper.Proofs.Reconcile.Reserved
import TunnelKeeper.Proofs.Reconcile.Account
import TunnelKeeper.Proofs.Peer.Orderly
import TunnelKeeper.Proofs.Service.Invariant
import TunnelKeeper.Proofs.Service.Passes
import TunnelKeeper.Proofs.Service.Peers
import TunnelKeeper.Proofs.Service.Devices
import TunnelKeeper.Proofs.Service.Run
import TunnelKeeper.Proofs.Service.Course
import TunnelKeeper.Proofs.Service.Edits
import TunnelKeeper.Proofs.Service.Atomic
import TunnelKeeper.Proofs.Service.Turns
import TunnelKeeper.Proofs.Service.Removal
import TunnelKeeper.Proofs.Service.Repair
import TunnelKeeper.Proofs.Service.Mirror
import TunnelKeeper.Proofs.Service.Agreement
import TunnelKeeper.Proofs.Store.Devices
import TunnelKeeper.Proofs.Service.Registry
import TunnelKeeper.Proofs.Service.SyncState
import TunnelKeeper.Proofs.Kernel.Separate
import TunnelKeeper.Proofs.Reconcile.Independence
import TunnelKeeper.Proofs.Daemon.Independence
import TunnelKeeper.Proofs.Daemon.Provisioning
import TunnelKeeper.Proofs.Reconcile.SharedKeys
import TunnelKeeper.Proofs.Net.EndpointChars
import TunnelKeeper.Proofs.Document.Client
import TunnelKeeper.Proofs.Store.Paging
import TunnelKeeper.Proofs.Store.Rows
import TunnelKeeper.Proofs.Store.Search
import TunnelKeeper.Proofs.Kernel.Steady
import TunnelKeeper.Proofs.Netlink.Table
import TunnelKeeper.Proofs.Netlink.Steps
import TunnelKeeper.Proofs.Netlink.Provision
import TunnelKeeper.Proofs.Netlink.Configure
import TunnelKeeper.Proofs.Service.Walk
import TunnelKeeper.Proofs.Service.Lookup
import TunnelKeeper.Proofs.Service.Update
