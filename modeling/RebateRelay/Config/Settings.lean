import RebateRelay.Analytics.Backoff
import RebateRelay.Analytics.QueryKind
import RebateRelay.Chain.Client
import RebateRelay.Rebate.RateTable
import RebateRelay.Time.Timestamp

/-!
# Settings

Everything that the relay is told before it starts.
-/

namespace RebateRelay

/-- How to reach the analytics service. -/
structure AnalyticsSettings where
  /-- The base of all addresses, without a slash at the end. -/
  baseUrl : String
  apiKey : String
  bridgeQueryId : String
  rfqQueryId : String
  requestTimeout : Duration
  deriving DecidableEq

namespace AnalyticsSettings

/-- The saved query of a kind. -/
def queryId (s : AnalyticsSettings) : QueryKind → String
  | .bridge => s.bridgeQueryId
  | .rfq => s.rfqQueryId

/-- The settings as logs may show them; the key is withheld. -/
def redacted (s : AnalyticsSettings) : String :=
  "AnalyticsConfig \x7b base_url: " ++ Text.quote s.baseUrl ++
    ", api_key: " ++ Text.quote "<redacted>" ++
    ", bridge_query_id: " ++ Text.quote s.bridgeQueryId ++
    ", rfq_query_id: " ++ Text.quote s.rfqQueryId ++
    ", request_timeout: " ++ s.requestTimeout.text ++ " \x7d"

end AnalyticsSettings

/-- How rebates are paid. -/
structure PaymentSettings where
  /-- The chain that rebates are paid on. -/
  chainId : UInt64
  /-- The token that rebates are paid in. -/
  tokenAddress : String
  /-- The payments a second that may go out in the long run. -/
  ratePerSecond : Float
  /-- The payments that may go out at once. -/
  burst : UInt32
  /-- Payments are worked out but not made. -/
  dryRun : Bool

/-- How the database is reached. -/
structure DatabaseSettings where
  url : String
  maxConnections : UInt32
  minConnections : UInt32
  connectTimeoutSeconds : UInt64
  deriving DecidableEq

/-- How the submitter is reached. -/
structure SubmitterSettings where
  /-- The base of all addresses, without a slash at the end. -/
  url : String
  timeout : Duration
  deriving DecidableEq

/-- All settings. -/
structure Settings where
  analytics : AnalyticsSettings
  /-- Rows at or before this instant are passed over. -/
  startDate : Timestamp
  rates : RateTable
  payment : PaymentSettings
  backoff : BackoffPolicy
  /-- The time from one intake to the next. -/
  ingestInterval : Duration
  /-- The time from one batch of payments to the next. -/
  relayInterval : Duration
  /-- The most records that are held for another attempt to store them. -/
  requeueCapacity : Nat
  clients : Chain.Clients
  submitter : SubmitterSettings
  database : DatabaseSettings
  /-- Log lines are JSON. -/
  logJson : Bool

end RebateRelay
