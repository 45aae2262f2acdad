import RebateRelay.Analytics.Service
import RebateRelay.Config.Load
import RebateRelay.Json.Label
import RebateRelay.Ledger.RecordJson
import RebateRelay.Ledger.StoredRow
import RebateRelay.Proofs.Analytics.Budget
import RebateRelay.Proofs.Analytics.Decision
import RebateRelay.Proofs.Ingest.InTurn
import RebateRelay.Proofs.Relay.Calls
import RebateRelay.Proofs.Relay.DoublePayment
import RebateRelay.Proofs.Relay.DryRun
import RebateRelay.Proofs.Relay.Spacing
import RebateRelay.Proofs.Supervisor.FanIn
import RebateRelay.Rehearsal.Running
import RebateRelay.Rehearsal.Signals
import RebateRelay.Rehearsal.Tokens
import RebateRelay.Proofs.Rebate.WholeUnits
import RebateRelay.Proofs.Config.Runnable
import RebateRelay.Proofs.Analytics.Replies
import RebateRelay.Proofs.Analytics.Interruption
import RebateRelay.Proofs.Relay.Refunds
import RebateRelay.Proofs.Relay.WindingUp
import RebateRelay.Proofs.Supervisor.Cancellation
import RebateRelay.Proofs.Rebate.Verdict
import RebateRelay.Proofs.Rebate.Reported
import RebateRelay.Proofs.Ledger.Nonces
import RebateRelay.Proofs.Ledger.PaymentOrder
import RebateRelay.Proofs.Ledger.Batching
import RebateRelay.Proofs.Ingest.Parking
import RebateRelay.Proofs.Chain.AddressSpelling
import RebateRelay.Proofs.Config.StartDate
import RebateRelay.Proofs.Config.Tuning
import RebateRelay.Proofs.Config.Endpoints
import RebateRelay.Proofs.Analytics.Waits
import RebateRelay.Proofs.Supervisor.Timetable
