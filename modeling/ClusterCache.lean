import ClusterCache.Access
import ClusterCache.Actions
import ClusterCache.Alert
import ClusterCache.Alert.Encoding
import ClusterCache.Binary64
import ClusterCache.Binary64.Shortest
import ClusterCache.Binary64.Text
import ClusterCache.Change
import ClusterCache.CommandLine.Arguments
import ClusterCache.CommandLine.Listing
import ClusterCache.CommandLine.Report
import ClusterCache.CommandLine.Selector
import ClusterCache.CommandLine.Session
import ClusterCache.Connection.Address
import ClusterCache.Connection.Basic
import ClusterCache.Connection.Credentials
import ClusterCache.Connection.Discovery
import ClusterCache.Connection.HostName
import ClusterCache.Connection.Http
import ClusterCache.Connection.Kubeconfig
import ClusterCache.Connection.Uri
import ClusterCache.Connection.UserAgent
import ClusterCache.Connection.Watch
import ClusterCache.Dictionary
import ClusterCache.Error
import ClusterCache.Flights
import ClusterCache.Gate
import ClusterCache.Handlers
import ClusterCache.Informer
import ClusterCache.Informers
import ClusterCache.Informers.Barrier
import ClusterCache.Json
import ClusterCache.Json.Decoder
import ClusterCache.Json.Reader
import ClusterCache.Json.Text
import ClusterCache.Key
import ClusterCache.Kind
import ClusterCache.Object
import ClusterCache.Object.Decoding
import ClusterCache.Payload
import ClusterCache.Rehearsal.Audience
import ClusterCache.Rehearsal.Clock
import ClusterCache.Rehearsal.Cluster
import ClusterCache.Rehearsal.Log
import ClusterCache.Rehearsal.Scene
import ClusterCache.Rehearsal.Schedule
import ClusterCache.Rehearsal.Script
import ClusterCache.Rehearsal.Server
import ClusterCache.Replica
import ClusterCache.Scopes
import ClusterCache.Store.Call
import ClusterCache.Store.Listener
import ClusterCache.Store.Request
import ClusterCache.Store.State
import ClusterCache.Store.System
import ClusterCache.Table
import ClusterCache.Text.Armor
import ClusterCache.Text.Base64
import ClusterCache.Text.Blank
import ClusterCache.Text.FormEncoded
import ClusterCache.Text.Hidden
import ClusterCache.Text.Quoted
import ClusterCache.Text.Timestamp
import ClusterCache.Tokens
import ClusterCache.Typed
import ClusterCache.Yaml.Cursor
import ClusterCache.Yaml.Token
import ClusterCache.Yaml.Token.Lexer
import ClusterCache.Yaml.Token.Scalar
import ClusterCache.Yaml.Token.Tag
import ClusterCache.Yaml.Tree
import ClusterCache.Yaml.Value
import ClusterCache.Main
import ClusterCache.Proofs.Actions.Deletion
import ClusterCache.Proofs.CommandLine.Selectors
import ClusterCache.Proofs.Connection.Visits
import ClusterCache.Proofs.Dictionary.Lookup
import ClusterCache.Proofs.Error.Contexts
import ClusterCache.Proofs.Flights.Line
import ClusterCache.Proofs.Flights.Locks
import ClusterCache.Proofs.Gate.Admission
import ClusterCache.Proofs.Handlers.Notification
import ClusterCache.Proofs.Handlers.Registration
import ClusterCache.Proofs.Informer.Loop
import ClusterCache.Proofs.Informer.Tellings
import ClusterCache.Proofs.Informers.Continuation
import ClusterCache.Proofs.Informers.Lifetimes
import ClusterCache.Proofs.Informers.Lookup
import ClusterCache.Proofs.Informers.Ownership
import ClusterCache.Proofs.Informers.Roster
import ClusterCache.Proofs.Informers.Signals
import ClusterCache.Proofs.Informers.Types
import ClusterCache.Proofs.Informers.Waiting
import ClusterCache.Proofs.Key.Conversions
import ClusterCache.Proofs.Key.Narrowing
import ClusterCache.Proofs.Key.Text
import ClusterCache.Proofs.Replica.Announcement
import ClusterCache.Proofs.Replica.Following
import ClusterCache.Proofs.Replica.Listing
import ClusterCache.Proofs.Replica.Mirror
import ClusterCache.Proofs.Replica.Reference
import ClusterCache.Proofs.Replica.Replay
import ClusterCache.Proofs.Replica.View
import ClusterCache.Proofs.Scopes.Forgetting
import ClusterCache.Proofs.Scopes.Keyed
import ClusterCache.Proofs.Scopes.Records
import ClusterCache.Proofs.Store.Cancellation
import ClusterCache.Proofs.Store.Checks
import ClusterCache.Proofs.Store.Closing
import ClusterCache.Proofs.Store.Connections
import ClusterCache.Proofs.Store.Continuation
import ClusterCache.Proofs.Store.Course
import ClusterCache.Proofs.Store.Deeds
import ClusterCache.Proofs.Store.Entrance
import ClusterCache.Proofs.Store.Faults
import ClusterCache.Proofs.Store.Forgetting
import ClusterCache.Proofs.Store.Hurdles
import ClusterCache.Proofs.Store.Inquiries
import ClusterCache.Proofs.Store.Loops
import ClusterCache.Proofs.Store.Passage
import ClusterCache.Proofs.Store.Questions
import ClusterCache.Proofs.Store.Reading
import ClusterCache.Proofs.Store.Settling
import ClusterCache.Proofs.Store.Spelling
import ClusterCache.Proofs.Store.Steps
import ClusterCache.Proofs.Store.Tracking
import ClusterCache.Proofs.Store.Waiters
import ClusterCache.Proofs.Store.Writes
import ClusterCache.Proofs.System.Admission
import ClusterCache.Proofs.System.Checks
import ClusterCache.Proofs.System.Connections
import ClusterCache.Proofs.System.Deliveries
import ClusterCache.Proofs.System.Failures
import ClusterCache.Proofs.System.Following
import ClusterCache.Proofs.System.Forgetting
import ClusterCache.Proofs.System.Loading
import ClusterCache.Proofs.System.Locks
import ClusterCache.Proofs.System.Mirror
import ClusterCache.Proofs.System.Moves
import ClusterCache.Proofs.System.Ownership
import ClusterCache.Proofs.System.Passage
import ClusterCache.Proofs.System.Permission
import ClusterCache.Proofs.System.Replies
import ClusterCache.Proofs.System.Requests
import ClusterCache.Proofs.System.Reset
import ClusterCache.Proofs.System.Reviews
import ClusterCache.Proofs.System.Roster
import ClusterCache.Proofs.System.Shutdown
import ClusterCache.Proofs.System.Updates
import ClusterCache.Proofs.System.Views
import ClusterCache.Proofs.System.Writes
import ClusterCache.Proofs.Table.Keys
import ClusterCache.Proofs.Text.Pieces
import ClusterCache.Proofs.Tokens.Cancellation
import ClusterCache.Proofs.Tokens.Register
