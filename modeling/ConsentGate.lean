import ConsentGate.AuthError
import ConsentGate.Broadcaster
import ConsentGate.Client
import ConsentGate.Collection.TextMap
import ConsentGate.Collection.TextSet
import ConsentGate.Decimal
import ConsentGate.Decimal.Binary64
import ConsentGate.Endpoint
import ConsentGate.Endpoint.Trace
import ConsentGate.Event
import ConsentGate.Glob
import ConsentGate.GrantType
import ConsentGate.Hash.Sha256
import ConsentGate.Idna.Direction
import ConsentGate.Idna.Label
import ConsentGate.Idna.Punycode
import ConsentGate.Idna.ToAscii
import ConsentGate.Json.Basic
import ConsentGate.Json.Document
import ConsentGate.Json.Embedded
import ConsentGate.Json.Number
import ConsentGate.Json.Printer
import ConsentGate.Json.Token
import ConsentGate.ParameterList
import ConsentGate.Pkce
import ConsentGate.Power
import ConsentGate.Principal
import ConsentGate.Proofs.Collection.Reading
import ConsentGate.Proofs.Endpoint.Calls
import ConsentGate.Proofs.Endpoint.Success
import ConsentGate.Proofs.Idna.Label
import ConsentGate.Proofs.Idna.ToAscii
import ConsentGate.Proofs.Redirect.Success
import ConsentGate.Proofs.RedirectUri.Follows
import ConsentGate.Proofs.RedirectUri.Written
import ConsentGate.Proofs.Server.AnsweredOnce
import ConsentGate.Proofs.Server.Handlers
import ConsentGate.Proofs.Server.Interleaving
import ConsentGate.Proofs.Server.Provenance
import ConsentGate.Proofs.Server.Run
import ConsentGate.Proofs.Server.Stores
import ConsentGate.Proofs.Text.Ascii
import ConsentGate.Proofs.Text.Cut
import ConsentGate.Proofs.Text.Digits
import ConsentGate.Proofs.Text.Form
import ConsentGate.Proofs.Text.Percent
import ConsentGate.Proofs.Text.Utf8
import ConsentGate.Proofs.Unicode.Normal
import ConsentGate.Proofs.Unicode.Tables
import ConsentGate.Proofs.Url.Authority
import ConsentGate.Proofs.Url.Body
import ConsentGate.Proofs.Url.Escape
import ConsentGate.Proofs.Url.Host.Ipv4
import ConsentGate.Proofs.Url.Host.Ipv6
import ConsentGate.Proofs.Url.Host.Read
import ConsentGate.Proofs.Url.Parse
import ConsentGate.Proofs.Url.Path
import ConsentGate.Proofs.Url.Query
import ConsentGate.Redirect
import ConsentGate.RedirectUri.Resolve
import ConsentGate.RedirectUri.Written
import ConsentGate.Request
import ConsentGate.Secret
import ConsentGate.Server
import ConsentGate.Server.Authentication
import ConsentGate.Server.Codes
import ConsentGate.Server.Handlers
import ConsentGate.Server.Http
import ConsentGate.Server.Snapshots
import ConsentGate.SessionState
import ConsentGate.Settings.Endpoint
import ConsentGate.Settings.Environment
import ConsentGate.Settings.Load
import ConsentGate.Settings.Service
import ConsentGate.Settings.Tree
import ConsentGate.Text.Base64Url
import ConsentGate.Text.Blank
import ConsentGate.Text.Cut
import ConsentGate.Text.Digits
import ConsentGate.Text.Form
import ConsentGate.Text.Hex
import ConsentGate.Text.Percent
import ConsentGate.Text.Utf8
import ConsentGate.Timestamp
import ConsentGate.Token
import ConsentGate.Toml.Document
import ConsentGate.Toml.Scalar
import ConsentGate.Toml.Table
import ConsentGate.Toml.Text
import ConsentGate.Unicode.Combining
import ConsentGate.Unicode.Direction
import ConsentGate.Unicode.Mapping
import ConsentGate.Unicode.Normal
import ConsentGate.Unicode.Table
import ConsentGate.Url.Basic
import ConsentGate.Url.Error
import ConsentGate.Url.Escape
import ConsentGate.Url.Host.Ipv4
import ConsentGate.Url.Host.Ipv6
import ConsentGate.Url.Host.Read
import ConsentGate.Url.Origin
import ConsentGate.Url.Parse
import ConsentGate.Url.Path
import ConsentGate.Url.Query
import ConsentGate.Uuid
import ConsentGate.Wire.Dialect
import ConsentGate.Wire.Lenient
import ConsentGate.Wire.Read
import ConsentGate.Wire.Write
import ConsentGate.Main
import ConsentGate.Proofs.Server.Ledger
import ConsentGate.Proofs.Timestamp
import ConsentGate.Proofs.Endpoint.Grants
import ConsentGate.Proofs.Server.Expiry
import ConsentGate.Proofs.Server.Reach
import ConsentGate.Proofs.Endpoint.Resubmission
import ConsentGate.Proofs.Redirect.Failure
import ConsentGate.Proofs.Endpoint.Delivery
import ConsentGate.Proofs.Pkce
import ConsentGate.Proofs.Server.Isolation
import ConsentGate.Proofs.Server.ProofKey
import ConsentGate.Proofs.Redirect.Destination
import ConsentGate.Proofs.Endpoint.Placement
import ConsentGate.Proofs.Timestamp.Text
import ConsentGate.Proofs.Uuid
import ConsentGate.Proofs.Json.Token
import ConsentGate.Proofs.Json.Document
import ConsentGate.Proofs.Wire.Snapshot
import ConsentGate.Proofs.Endpoint.Approvable
import ConsentGate.Proofs.Endpoint.Trail
import ConsentGate.Proofs.Endpoint.Issuance
import ConsentGate.Proofs.Endpoint.Refusal
import ConsentGate.Proofs.Endpoint.SessionState
import ConsentGate.Proofs.Server.Responses
import ConsentGate.Proofs.Server.PromptNone
import ConsentGate.Proofs.Server.Statuses
import ConsentGate.Proofs.ParameterList
import ConsentGate.Proofs.Server.Echo
import ConsentGate.Proofs.RedirectUri.Straight
import ConsentGate.Proofs.Glob
import ConsentGate.Proofs.Pkce.Registered
import ConsentGate.Proofs.Redirect.Report
import ConsentGate.Proofs.Text.Escaped
import ConsentGate.Proofs.RedirectUri.Query
import ConsentGate.Proofs.Endpoint.Setup
import ConsentGate.Proofs.SessionState
import ConsentGate.Proofs.Endpoint.Consent
import ConsentGate.Proofs.Server.Consent
import ConsentGate.Proofs.Server.TokenScope
import ConsentGate.Proofs.Broadcaster
import ConsentGate.Proofs.Json.Embedded
import ConsentGate.Proofs.Wire.Record
