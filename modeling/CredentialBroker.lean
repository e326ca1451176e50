import CredentialBroker.Cluster.Access
import CredentialBroker.Cluster.Call
import CredentialBroker.Cluster.Error
import CredentialBroker.Cluster.Identity
import CredentialBroker.Cluster.Object
import CredentialBroker.Cluster.Objects
import CredentialBroker.Cluster.Owner
import CredentialBroker.Cluster.Ref
import CredentialBroker.Cluster.Script
import CredentialBroker.Cluster.Simulation
import CredentialBroker.Cluster.Snapshot
import CredentialBroker.Cluster.State
import CredentialBroker.Codec.Base64
import CredentialBroker.Codec.Form
import CredentialBroker.Codec.Percent
import CredentialBroker.Command
import CredentialBroker.Credential.Access
import CredentialBroker.Credential.Bearer
import CredentialBroker.Credential.Error
import CredentialBroker.Credential.Grant
import CredentialBroker.Credential.Issue
import CredentialBroker.Credential.Runner
import CredentialBroker.Credential.Store
import CredentialBroker.Credential.Usage
import CredentialBroker.Digest.Hmac
import CredentialBroker.Digest.Sha256
import CredentialBroker.Effect.Action
import CredentialBroker.Effect.Program
import CredentialBroker.Effect.Retry
import CredentialBroker.Effect.Stopwatch
import CredentialBroker.Http.Message
import CredentialBroker.Json.Basic
import CredentialBroker.Json.Lenient
import CredentialBroker.Json.Reader
import CredentialBroker.Json.Record
import CredentialBroker.Json.Writer
import CredentialBroker.Main
import CredentialBroker.Number.Binary64
import CredentialBroker.Number.Shortest
import CredentialBroker.OAuth.Error
import CredentialBroker.OAuth.Exchange
import CredentialBroker.OAuth.Flow
import CredentialBroker.OAuth.Provider
import CredentialBroker.OAuth.StateToken
import CredentialBroker.Proofs.Cluster.Atomicity
import CredentialBroker.Proofs.Cluster.Coverage
import CredentialBroker.Proofs.Cluster.Effect
import CredentialBroker.Proofs.Cluster.Enforcement
import CredentialBroker.Proofs.Cluster.Entitlement
import CredentialBroker.Proofs.Cluster.Faults
import CredentialBroker.Proofs.Cluster.Frame
import CredentialBroker.Proofs.Cluster.Identity
import CredentialBroker.Proofs.Cluster.Kept
import CredentialBroker.Proofs.Cluster.Numbering
import CredentialBroker.Proofs.Cluster.Reachable
import CredentialBroker.Proofs.Cluster.Run
import CredentialBroker.Proofs.Cluster.Secrecy
import CredentialBroker.Proofs.Cluster.Selector
import CredentialBroker.Proofs.Cluster.Step
import CredentialBroker.Proofs.Cluster.Version
import CredentialBroker.Proofs.Codec.Base64
import CredentialBroker.Proofs.Codec.Form
import CredentialBroker.Proofs.Codec.Percent
import CredentialBroker.Proofs.Credential.Aftermath
import CredentialBroker.Proofs.Credential.Bearer
import CredentialBroker.Proofs.Credential.Convergence
import CredentialBroker.Proofs.Credential.Failing
import CredentialBroker.Proofs.Credential.Grant
import CredentialBroker.Proofs.Credential.Issue
import CredentialBroker.Proofs.Credential.Runner
import CredentialBroker.Proofs.Credential.Secrecy
import CredentialBroker.Proofs.Credential.Settled
import CredentialBroker.Proofs.Credential.Store
import CredentialBroker.Proofs.Credential.Usage
import CredentialBroker.Proofs.Effect.Alike
import CredentialBroker.Proofs.Effect.Answered
import CredentialBroker.Proofs.Effect.Contract
import CredentialBroker.Proofs.Effect.Course
import CredentialBroker.Proofs.Effect.Execution
import CredentialBroker.Proofs.Effect.Failing
import CredentialBroker.Proofs.Effect.Length
import CredentialBroker.Proofs.Effect.Outcome
import CredentialBroker.Proofs.Effect.Pauses
import CredentialBroker.Proofs.Effect.Relay
import CredentialBroker.Proofs.Effect.Stopwatch
import CredentialBroker.Proofs.Json.Depth
import CredentialBroker.Proofs.Json.Parts
import CredentialBroker.Proofs.Json.Record
import CredentialBroker.Proofs.Json.RoundTrip
import CredentialBroker.Proofs.Json.Settled
import CredentialBroker.Proofs.OAuth.Acceptance
import CredentialBroker.Proofs.OAuth.Containment
import CredentialBroker.Proofs.OAuth.Flow
import CredentialBroker.Proofs.OAuth.Parameters
import CredentialBroker.Proofs.OAuth.Refusals
import CredentialBroker.Proofs.OAuth.Secrecy
import CredentialBroker.Proofs.OAuth.StateToken
import CredentialBroker.Proofs.Rest.Address
import CredentialBroker.Proofs.Rest.Client
import CredentialBroker.Proofs.Rest.Document
import CredentialBroker.Proofs.Rest.Review
import CredentialBroker.Proofs.Rest.Scoped
import CredentialBroker.Proofs.Session.Document
import CredentialBroker.Proofs.Session.Editing
import CredentialBroker.Proofs.Settings.Reading
import CredentialBroker.Proofs.Settings.Variable
import CredentialBroker.Proofs.Text.Numerals
import CredentialBroker.Proofs.Text.Octets
import CredentialBroker.Proofs.Text.Pieces
import CredentialBroker.Proofs.Transition.Calls
import CredentialBroker.Proofs.Transition.Failing
import CredentialBroker.Proofs.Transition.Granted
import CredentialBroker.Proofs.Transition.Halting
import CredentialBroker.Proofs.Transition.Secrecy
import CredentialBroker.Proofs.Transition.Starting
import CredentialBroker.Proofs.Transition.Writes
import CredentialBroker.Proofs.Url.Plain
import CredentialBroker.Proofs.Url.Reading
import CredentialBroker.Proofs.Url.Segments
import CredentialBroker.Proofs.Web.Caller
import CredentialBroker.Proofs.Web.Markup
import CredentialBroker.Proofs.Web.Secrecy
import CredentialBroker.Proofs.Web.Strangers
import CredentialBroker.Proofs.World.Authorization
import CredentialBroker.Proofs.World.Coherence
import CredentialBroker.Proofs.World.Contention
import CredentialBroker.Proofs.World.Edits
import CredentialBroker.Proofs.World.Event
import CredentialBroker.Proofs.World.Guards
import CredentialBroker.Proofs.World.Interference
import CredentialBroker.Proofs.World.Interleaving
import CredentialBroker.Proofs.World.Isolation
import CredentialBroker.Proofs.World.Merging
import CredentialBroker.Proofs.World.Ownership
import CredentialBroker.Proofs.World.Privilege
import CredentialBroker.Proofs.World.Rights
import CredentialBroker.Proofs.World.Sharing
import CredentialBroker.Proofs.World.Stopping
import CredentialBroker.Proofs.World.Stops
import CredentialBroker.Rest.Answer
import CredentialBroker.Rest.Auth
import CredentialBroker.Rest.Bundle
import CredentialBroker.Rest.Client
import CredentialBroker.Rest.Document
import CredentialBroker.Rest.Endpoint
import CredentialBroker.Session.Basic
import CredentialBroker.Session.Document
import CredentialBroker.Session.Phase
import CredentialBroker.Settings.Basic
import CredentialBroker.Settings.Variable
import CredentialBroker.SortedMap
import CredentialBroker.Text.Blank
import CredentialBroker.Text.CodePoints
import CredentialBroker.Text.Composite
import CredentialBroker.Text.Description
import CredentialBroker.Text.Digits
import CredentialBroker.Text.Direction
import CredentialBroker.Text.Joining
import CredentialBroker.Text.Mark
import CredentialBroker.Text.Normal
import CredentialBroker.Text.Printable
import CredentialBroker.Text.Quoted
import CredentialBroker.Text.Split
import CredentialBroker.Text.Utf8
import CredentialBroker.Time.Calendar
import CredentialBroker.Time.Span
import CredentialBroker.Time.Timestamp
import CredentialBroker.Transition.Start
import CredentialBroker.Transition.Status
import CredentialBroker.Transition.Stop
import CredentialBroker.Url.Basic
import CredentialBroker.Url.Domain
import CredentialBroker.Url.DomainMapping
import CredentialBroker.Url.Host
import CredentialBroker.Url.Punycode
import CredentialBroker.Url.Reader
import CredentialBroker.Web.Message
import CredentialBroker.Web.Page
import CredentialBroker.Web.Route
import CredentialBroker.Web.Service
import CredentialBroker.Web.Setup
import CredentialBroker.Word
