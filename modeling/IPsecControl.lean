import IPsecControl.Algorithm.Table
import IPsecControl.CommandLine.Failure
import IPsecControl.CommandLine.Invocation
import IPsecControl.CommandLine.Opt
import IPsecControl.CommandLine.Program
import IPsecControl.CommandLine.Reading
import IPsecControl.CommandLine.Value
import IPsecControl.Control.CallLog
import IPsecControl.Control.Connector
import IPsecControl.Control.Guard
import IPsecControl.Control.MemoryPlane
import IPsecControl.Control.Recorder
import IPsecControl.Control.RemotePlane
import IPsecControl.Control.Rpc
import IPsecControl.Control.Session
import IPsecControl.Curve.Cubic
import IPsecControl.Curve.Twisted
import IPsecControl.Error.Basic
import IPsecControl.Error.Status
import IPsecControl.Error.System
import IPsecControl.Files.Path
import IPsecControl.Files.Reader
import IPsecControl.Json.Failure
import IPsecControl.Json.Number
import IPsecControl.Json.Record
import IPsecControl.Json.Text
import IPsecControl.Json.Value
import IPsecControl.Log.Directive
import IPsecControl.Log.Filter
import IPsecControl.Log.Line
import IPsecControl.Log.Pattern
import IPsecControl.Main
import IPsecControl.Message.Basic
import IPsecControl.Message.Catalog
import IPsecControl.Message.Code
import IPsecControl.Message.Connection
import IPsecControl.Message.Daemon
import IPsecControl.Message.Listing
import IPsecControl.Message.Negotiation
import IPsecControl.Message.Reading
import IPsecControl.Message.StaticSa
import IPsecControl.Net.Address
import IPsecControl.Number.Binary64
import IPsecControl.Number.Digest
import IPsecControl.Number.Modular
import IPsecControl.Probe.Ping
import IPsecControl.Probe.Prober
import IPsecControl.Probe.Statistics
import IPsecControl.Probe.Summary
import IPsecControl.Proofs.Algorithm.Lookup
import IPsecControl.Proofs.Algorithm.Table
import IPsecControl.Proofs.CommandLine.Arguments
import IPsecControl.Proofs.CommandLine.Connection
import IPsecControl.Proofs.CommandLine.Given
import IPsecControl.Proofs.CommandLine.Key
import IPsecControl.Proofs.CommandLine.Settings
import IPsecControl.Proofs.Control.Alike
import IPsecControl.Proofs.Control.Bench
import IPsecControl.Proofs.Control.Clients
import IPsecControl.Proofs.Control.Guards
import IPsecControl.Proofs.Control.Recording
import IPsecControl.Proofs.Control.Recurrence
import IPsecControl.Proofs.Control.Requests
import IPsecControl.Proofs.Error.Classes
import IPsecControl.Proofs.Faults
import IPsecControl.Proofs.Files.Path
import IPsecControl.Proofs.Interchange
import IPsecControl.Proofs.Json.Deciding
import IPsecControl.Proofs.Json.Grammar
import IPsecControl.Proofs.Json.Members
import IPsecControl.Proofs.Json.Passing
import IPsecControl.Proofs.Json.Presentation
import IPsecControl.Proofs.Json.Record
import IPsecControl.Proofs.Json.Spelling
import IPsecControl.Proofs.Json.Text
import IPsecControl.Proofs.Json.Written
import IPsecControl.Proofs.Net.Address
import IPsecControl.Proofs.Operations
import IPsecControl.Proofs.Probe.Ping
import IPsecControl.Proofs.Probe.Summary
import IPsecControl.Proofs.Sa.Addition
import IPsecControl.Proofs.Sa.Exchange
import IPsecControl.Proofs.Sa.Request
import IPsecControl.Proofs.Sa.Secrecy
import IPsecControl.Proofs.Shell.Line
import IPsecControl.Proofs.Shell.Quote
import IPsecControl.Proofs.Text.Blank
import IPsecControl.Proofs.Text.Hex
import IPsecControl.Proofs.Text.Numeral
import IPsecControl.Proofs.Text.Scan
import IPsecControl.Proofs.Text.Split
import IPsecControl.Proofs.Text.Utf8
import IPsecControl.Proofs.Transport.Scheme
import IPsecControl.Proofs.Transport.TlsFiles
import IPsecControl.Proofs.Tunnel.Accounts
import IPsecControl.Proofs.Tunnel.Advisory
import IPsecControl.Proofs.Tunnel.Attempts
import IPsecControl.Proofs.Tunnel.CallOrder
import IPsecControl.Proofs.Tunnel.Cleanup
import IPsecControl.Proofs.Tunnel.Course
import IPsecControl.Proofs.Tunnel.Deadlines
import IPsecControl.Proofs.Tunnel.Definition
import IPsecControl.Proofs.Tunnel.Document
import IPsecControl.Proofs.Tunnel.Forecast
import IPsecControl.Proofs.Tunnel.History
import IPsecControl.Proofs.Tunnel.Interruption
import IPsecControl.Proofs.Tunnel.Leniency
import IPsecControl.Proofs.Tunnel.Masking
import IPsecControl.Proofs.Tunnel.Overflow
import IPsecControl.Proofs.Tunnel.Presentation
import IPsecControl.Proofs.Tunnel.Query
import IPsecControl.Proofs.Tunnel.Repetition
import IPsecControl.Proofs.Tunnel.Requests
import IPsecControl.Proofs.Tunnel.Residue
import IPsecControl.Proofs.Tunnel.States
import IPsecControl.Proofs.Tunnel.Teardown
import IPsecControl.Proofs.Tunnel.Totality
import IPsecControl.Proofs.Tunnel.Trail
import IPsecControl.Proofs.Wire.Arrangement
import IPsecControl.Proofs.Wire.Evolution
import IPsecControl.Proofs.Wire.Items
import IPsecControl.Proofs.Wire.RoundTrip
import IPsecControl.Proofs.Wire.Sizes
import IPsecControl.Proofs.Wire.Steps
import IPsecControl.Sa.Identifier
import IPsecControl.Sa.Manager
import IPsecControl.Sa.Params
import IPsecControl.Sa.Request
import IPsecControl.Shell.Arithmetic
import IPsecControl.Shell.Builtin
import IPsecControl.Shell.Command
import IPsecControl.Shell.Condition
import IPsecControl.Shell.Field
import IPsecControl.Shell.Output
import IPsecControl.Shell.Parameter
import IPsecControl.Shell.Pattern
import IPsecControl.Shell.Printing
import IPsecControl.Shell.Program
import IPsecControl.Shell.Quote
import IPsecControl.Shell.Redirection
import IPsecControl.Shell.Run
import IPsecControl.Shell.Script
import IPsecControl.Shell.State
import IPsecControl.Shell.Token
import IPsecControl.Shell.Word
import IPsecControl.Text.Alphanumeric
import IPsecControl.Text.Base64
import IPsecControl.Text.Blank
import IPsecControl.Text.Decimal
import IPsecControl.Text.DigitClass
import IPsecControl.Text.Hex
import IPsecControl.Text.Quoted
import IPsecControl.Text.Ranges
import IPsecControl.Text.Scan
import IPsecControl.Text.Split
import IPsecControl.Text.Terminal
import IPsecControl.Text.Utf8
import IPsecControl.Text.Visible
import IPsecControl.Time.Clock
import IPsecControl.Time.Duration
import IPsecControl.Time.Overflow
import IPsecControl.Transport.Certificate
import IPsecControl.Transport.Credentials
import IPsecControl.Transport.Der
import IPsecControl.Transport.Endpoint
import IPsecControl.Transport.Pem
import IPsecControl.Transport.PrivateKey
import IPsecControl.Transport.TlsFiles
import IPsecControl.Transport.Uri
import IPsecControl.Tunnel.Config
import IPsecControl.Tunnel.Daemon
import IPsecControl.Tunnel.Definition
import IPsecControl.Tunnel.Document
import IPsecControl.Tunnel.Lifecycle
import IPsecControl.Tunnel.Report
import IPsecControl.Wire.Decode
import IPsecControl.Wire.Encode
import IPsecControl.Wire.Schema
import IPsecControl.Wire.Varint
