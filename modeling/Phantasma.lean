import Phantasma.Base.TransitionSystem
import Phantasma.Base.Registry
import Phantasma.Base.Base64
import Phantasma.Base.Utf8
import Phantasma.Base.Program
import Phantasma.Base.Url
import Phantasma.Base.FileSystem
import Phantasma.Base.Lines
import Phantasma.Base.Restart
import Phantasma.Base.Table
import Phantasma.Base.Words
import Phantasma.Base.Counting
import Phantasma.Shared.Json
import Phantasma.Shared.JsonText
import Phantasma.Shared.JsonArrayText
import Phantasma.Shared.Wire
import Phantasma.Relay.Queue
import Phantasma.Relay.State
import Phantasma.Relay.Step
import Phantasma.Relay.Invariant
import Phantasma.Relay.Delivery
import Phantasma.Relay.Stranding
import Phantasma.Relay.Duplication
import Phantasma.Relay.Presence
import Phantasma.Relay.Routing
import Phantasma.Relay.Registration
import Phantasma.Relay.Directory
import Phantasma.Relay.Schema
import Phantasma.Relay.Entries
import Phantasma.Relay.Payload
import Phantasma.Relay.Drain
import Phantasma.Relay.Teardown
import Phantasma.Relay.Order
import Phantasma.Relay.QueueTable
import Phantasma.Relay.Progress
import Phantasma.Relay.WindDown
import Phantasma.Relay.Answers
import Phantasma.Relay.Written
import Phantasma.Relay.Quiet
import Phantasma.Client.Crypto
import Phantasma.Client.SmallOrder
import Phantasma.Client.ServerApi
import Phantasma.Client.Endpoints
import Phantasma.Client.Contacts
import Phantasma.Client.Identity
import Phantasma.Client.Session
import Phantasma.Client.Calls
import Phantasma.Client.Pinning
import Phantasma.Client.Recovery
import Phantasma.Client.Stability
import Phantasma.Client.ContactFile
import Phantasma.Client.KeyText
import Phantasma.Client.Separation
import Phantasma.Client.Rejection
import Phantasma.Client.Loop
import Phantasma.Client.Arguments
import Phantasma.Client.StartUp
import Phantasma.Client.Turns
import Phantasma.Client.Commands
import Phantasma.Client.Sessions
import Phantasma.Web.Value
import Phantasma.Web.Crypto
import Phantasma.Web.Page
import Phantasma.Web.Agreement
import Phantasma.Web.Reconnect
import Phantasma.Web.SignIn
import Phantasma.Web.Storage
import Phantasma.Web.Reload
import Phantasma.Web.Operations
import Phantasma.Web.Pinning
import Phantasma.Web.Uninterrupted
import Phantasma.Security.World
import Phantasma.Security.Authenticity
import Phantasma.Security.Binding
import Phantasma.Security.Secrecy
import Phantasma.RoundTrip
import Phantasma.Lookup
import Phantasma.Registering
import Phantasma.Deployment.System
import Phantasma.Deployment.Agreement
import Phantasma.Deployment.Delivery
import Phantasma.Deployment.Service
import Phantasma.Deployment.Guarantees
import Phantasma.Deployment.Records
import Phantasma.Exchange.System
import Phantasma.Exchange.Invariant
import Phantasma.Exchange.Service
import Phantasma.Exchange.Through
import Phantasma.Exchange.Messages
import Phantasma.Exchange.Once
