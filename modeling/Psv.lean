import Psv.Interaction.Program
import Psv.Interaction.Checks
import Psv.Interaction.Keyed
import Psv.Interaction.Threads
import Psv.Interaction.Shared
import Psv.Interaction.Alike
import Psv.Interaction.Workers
import Psv.Interaction.Embedding
import Psv.Python.Hex
import Psv.Python.Text
import Psv.Python.Value
import Psv.Python.Lenient
import Psv.Python.Json
import Psv.Python.Schema
import Psv.Python.Decimal
import Psv.Python.Numeral
import Psv.Python.Url
import Psv.Document.Basic
import Psv.Document.Reading
import Psv.Document.RoundTrip
import Psv.Document.Keys
import Psv.Document.Encoding
import Psv.Document.Letters
import Psv.Document.Scan
import Psv.Document.Short
import Psv.Pqc.Receipt
import Psv.Pqc.Spelling
import Psv.Pqc.Tamper
import Psv.Runs.Files
import Psv.Runs.Record
import Psv.Runs.Exclusive
import Psv.Runs.Sequential
import Psv.Runs.Concurrent
import Psv.Runs.Lines
import Psv.Runs.Journal
import Psv.Runs.Damage
import Psv.Runs.Built
import Psv.Runs.RoundTrip
import Psv.Runs.Truth
import Psv.Runs.Corruption
import Psv.Runs.Failures
import Psv.Runs.Remains
import Psv.Onchain.Balances
import Psv.World
import Psv.Anvil
import Psv.Wire.Call
import Psv.Chain
import Psv.Endpoint
import Psv.Divergence
import Psv.Reorg
import Psv.Safety
import Psv.Sut.Confirmer
import Psv.Sut.Readable
import Psv.Sut.Server
import Psv.Sut.Submission
import Psv.Sut.Ledger
import Psv.Sut.Broadcast
import Psv.Sut.Service
import Psv.Sut.Release
import Psv.Sut.Healing
import Psv.Sut.Idempotency
import Psv.Sut.Requests
import Psv.Sut.Repricing
import Psv.Load
import Psv.Sut.Adapter
import Psv.Sut.Wire
import Psv.Sut.Paths
import Psv.Svm
import Psv.Quirks
import Psv.Quirks.Rendering
import Psv.Quirks.Powers
import Psv.Quirks.Fees
import Psv.Rails.Config
import Psv.Rails.Known
import Psv.Rails.Evidence
import Psv.Rails.Reconcile
import Psv.Rails.Window
import Psv.Report
import Psv.Node.Chain
import Psv.Node.Serve
import Psv.Node.Observe
import Psv.Node.Pinned
import Psv.Node.Transfer
import Psv.Node.Reading
import Psv.Node.History
import Psv.Onchain.Token
import Psv.Onchain.Invariant
import Psv.Onchain.Calldata
import Psv.Onchain.Mined
import Psv.Verdict.Soundness
import Psv.Verdict.Attribution
import Psv.Verdict.Unspent
import Psv.Verdict.Reorg
import Psv.Verdict.Finality
import Psv.Verdict.Report
import Psv.Verdict.Schema
import Psv.Verdict.Binding
import Psv.Verdict.Drift
import Psv.Verdict.Complete
import Psv.Verdict.Authorized
import Psv.Onchain.Income
import Psv.Sut.Accounts
import Psv.Verdict.Belief
import Psv.Reconciliation
import Psv.Ledger.Decoding
import Psv.Ledger.Complement
import Psv.Cli.Reconcile
import Psv.Cli.Outcomes
import Psv.Cli.Status
import Psv.Cli.Audit
import Psv.Mcp
import Psv.Payloads
import Psv.Onchain.Signed
import Psv.Capture
import Psv.Verdict.Calibrated
import Psv.Onchain.Captured
