import Certinspect.Library.Outcome
import Certinspect.Library.FirstHit
import Certinspect.Python
import Certinspect.IpAddress
import Certinspect.X509
import Certinspect.HttpFetch.Model
import Certinspect.Library.Trace
import Certinspect.HttpFetch.Ssrf
import Certinspect.ExitCodes
import Certinspect.Parser
import Certinspect.Revocation.Model
import Certinspect.Revocation.Evidence
import Certinspect.Revocation.Scope
import Certinspect.Revocation.SoftFail
import Certinspect.Revocation.Transport
import Certinspect.Fetch.Starttls
import Certinspect.Library.Dict
import Certinspect.Models
import Certinspect.State
import Certinspect.HttpFetch.Deadline
import Certinspect.Fetch.Handshake
import Certinspect.Cli.Inspect
import Certinspect.Cli.Trust
import Certinspect.Cli.Batch
import Certinspect.Cli.ExitStatus
import Certinspect.Formatter.Nagios
import Certinspect.Formatter.Prometheus
import Certinspect.Cli.Labels
import Certinspect.Revocation.CrlVerdicts
import Certinspect.Revocation.Responder
import Certinspect.Discover
import Certinspect.Cli.Discovery
import Certinspect.Cli.Containment
import Certinspect.Cli.Series
import Certinspect.Library.Argparse
import Certinspect.Cli.Args
import Certinspect.Cli.Overrides
import Certinspect.Fetch.Dialogue
import Certinspect.Fetch.Tunnel
import Certinspect.IpText
import Certinspect.Parser.Names
import Certinspect.Parser.Addresses
import Certinspect.Fetch.Offline
import Certinspect.Parser.Expiry
import Certinspect.Parser.Policy
import Certinspect.Cli.Gate
import Certinspect.Cli.Ladder
import Certinspect.Cli.Identity
import Certinspect.Library.Table
import Certinspect.Library.Perfdata
import Certinspect.Cli.Records
import Certinspect.Formatter.Validity
import Certinspect.Formatter.NagiosLines
import Certinspect.Display
import Certinspect.Formatter.Tabular
import Certinspect.Fetch.Retry
import Certinspect.Cli.Ports
import Certinspect.Library.Reach
import Certinspect.Parser.Diagnosis
import Certinspect.Formatter.SchemaV2
import Certinspect.Isoformat
import Certinspect.Discover.Answers
import Certinspect.Library.Json
import Certinspect.State.Text
import Certinspect.Library.Tally
import Certinspect.Formatter.Summary
import Certinspect.Library.Csv
import Certinspect.Library.JsonCodec
import Certinspect.Formatter.Document
import Certinspect.Formatter.Csv
import Certinspect.Formatter.Inventory
import Certinspect.Cli.Recorded
import Certinspect.Formatter.Human
import Certinspect.Library.Stable
import Certinspect.Cli.Main
import Certinspect.Cli.Assured
import Certinspect.Cli.Watch
import Certinspect.Cli.Parallel
import Certinspect.Cli.Contract
import Certinspect.HttpFetch.Proxied
import Certinspect.Library.Shell
import Certinspect.Completion
import Certinspect.Cli.Contract
