import Troupe.Proofs.Cbor.RoundTrip
import Troupe.Proofs.Cbor.Canonical
import Troupe.Proofs.Json.Routes
import Troupe.Proofs.Store.Containment
import Troupe.Rehearsal.Listening
import Troupe.Rehearsal.Scene
import Troupe.Store.Record
import Troupe.Store.Session
import Troupe.Proofs.Store.Copies
import Troupe.Proofs.Store.Isolation
import Troupe.Proofs.Actor.Runs
import Troupe.Proofs.Actor.Steps
import Troupe.Proofs.Actor.Course
import Troupe.Proofs.Actor.Life
import Troupe.Proofs.Actor.Accounts
import Troupe.Proofs.Property.Values
import Troupe.Proofs.Property.Writes
import Troupe.Proofs.System.Lives
import Troupe.Proofs.System.Happenings
import Troupe.Proofs.System.Operations
import Troupe.Proofs.System.Roster
import Troupe.Proofs.System.SealedTable
import Troupe.Proofs.Timer.Tables
import Troupe.Proofs.Timer.Runs
import Troupe.Proofs.Timer.Promises
import Troupe.Proofs.Wire.Documents
import Troupe.Proofs.System.Delivery
import Troupe.Proofs.Topic.Addressing
import Troupe.Proofs.Store.Effects
import Troupe.Proofs.Store.PathWrites
import Troupe.Proofs.Property.Republication
import Troupe.Proofs.Store.Reads
import Troupe.Proofs.Store.Places
import Troupe.Proofs.Store.Comparison
import Troupe.Proofs.Tree.FieldWrites
import Troupe.Proofs.Store.FieldWrites
import Troupe.Proofs.Store.Dictionary
import Troupe.Proofs.Store.Calls
import Troupe.Proofs.Store.Handovers
import Troupe.Proofs.Topic.Coverage
import Troupe.Proofs.Timer.Expiry
import Troupe.Proofs.System.Reports
import Troupe.Proofs.Actor.Refusals
import Troupe.Proofs.Actor.Dispatch
import Troupe.Proofs.Actor.TypedValues
import Troupe.Proofs.System.Listeners
import Troupe.Proofs.Mailbox.Requests
import Troupe.Proofs.Wire.Combinations
import Troupe.Proofs.Record.Conversions
import Troupe.Proofs.Path.Keys
import Troupe.Proofs.Store.Extraction
import Troupe.Proofs.Text.Base64
