import Courier.Bench.Latency
import Courier.Bench.Pool
import Courier.Bench.Result
import Courier.Bench.Run
import Courier.Bench.Summary
import Courier.Bench.Workload
import Courier.Builder.Basic
import Courier.Builder.ContentType
import Courier.Builder.Datum
import Courier.Capability
import Courier.Client.Ambient
import Courier.Client.Call
import Courier.Client.Stats
import Courier.CommandLine.Arguments
import Courier.CommandLine.Program
import Courier.Config.Settings
import Courier.Config.Toggles
import Courier.Dispatcher
import Courier.Duration
import Courier.Exchange
import Courier.Failure.Basic
import Courier.Failure.Report
import Courier.Http.Header
import Courier.Http.Headers
import Courier.Http.Redirect
import Courier.Http.Request
import Courier.Http.Response
import Courier.Json.Decode
import Courier.Json.Pretty
import Courier.Json.Reader
import Courier.Json.Value
import Courier.Network.Basic
import Courier.Network.Reply
import Courier.Number.Double
import Courier.Number.Fixed
import Courier.Number.Shortest
import Courier.Strategy
import Courier.Text.Base64
import Courier.Text.Blank
import Courier.Text.Form
import Courier.Text.Hidden
import Courier.Text.Percent
import Courier.Text.Quoted
import Courier.Text.Utf8
import Courier.Url.Basic
import Courier.Url.Domain
import Courier.Url.Host
import Courier.Url.Parser
import Courier.Url.Punycode
import Courier.Url.Query
import Courier.Url.Repertoire
import Courier.Url.Respelling
import Courier.Wire.Body
import Courier.Wire.Head
import Courier.Main
import Courier.Proofs.HeaderValues
import Courier.Proofs.WireRequests
import Courier.Proofs.Hops
import Courier.Proofs.Credentials
import Courier.Proofs.Authentication
import Courier.Proofs.RedirectLimit
import Courier.Proofs.StrategyAgreement
import Courier.Proofs.Selecting
import Courier.Proofs.Crowd
import Courier.Proofs.Accounts
import Courier.Proofs.Outcomes
import Courier.Proofs.Readings
import Courier.Proofs.Reaching
import Courier.Proofs.Independence
import Courier.Proofs.Selections
import Courier.Proofs.Contacts
import Courier.Proofs.Rejections
import Courier.Proofs.Cancellation
import Courier.Proofs.LocalParts
import Courier.Proofs.FailureUrls
import Courier.Proofs.ClientNames
import Courier.Proofs.QueryPairs
import Courier.Proofs.BuilderAgreement
import Courier.Proofs.AmbientVisits
import Courier.Proofs.AmbientClient
import Courier.Proofs.NextRequests
import Courier.Proofs.BodyReading
import Courier.Proofs.HostNames
import Courier.Proofs.Workers
import Courier.Proofs.RunRecords
import Courier.Proofs.Comparisons
import Courier.Proofs.HeaderOrder
import Courier.Proofs.SeeOther
import Courier.Proofs.SetterFaults
import Courier.Proofs.HeaderSteps
import Courier.Proofs.FormReading
import Courier.Proofs.FormBodies
import Courier.Proofs.LatencyRanks
import Courier.Proofs.Iterations
import Courier.Proofs.Base64Reading
import Courier.Proofs.BasicCredentials
import Courier.Proofs.SummaryLines
