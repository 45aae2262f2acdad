import RebateRelay.Proofs.Config.Runnable
import RebateRelay.Proofs.Text.Trimming

/-!
# Tuning

Some keys only tune the relay. Two lookups that differ in no other key load alike: with the same
error, or with settings that differ at most where the keys that differ are put to use. The other
settings do not depend on them, and no value of theirs, however strange, keeps the relay from
starting. Blanks around the values make no difference to anything.
-/

namespace RebateRelay

namespace Lookup

variable {env env' : Lookup} {key : String}

/-- The lookup with the blanks around its values taken away, and blank values with them. -/
def trimmed (env : Lookup) : Lookup := fun key =>
  (env key).bind fun value => if Text.trim value = "" then none else some (Text.trim value)

theorem text?_trimmed (env : Lookup) (key : String) : env.trimmed.text? key = env.text? key := by
  unfold text? trimmed
  cases env key with
  | none => rfl
  | some value =>
      by_cases blank : Text.trim value = ""
      · simp [blank, Option.filter]
      · simp [blank, Text.trim_trim]

theorem text?_congr (same : env key = env' key) : env.text? key = env'.text? key := by
  rw [text?, text?, same]

section Readers

variable {α : Type} (same : env.text? key = env'.text? key)
include same

theorem textOr_congr (default : String) : env.textOr key default = env'.textOr key default := by
  rw [textOr, textOr, same]

theorem required_congr : env.required key = env'.required key := by
  rw [required, required, same]

theorem lenient_congr (read : String → Except String α) (default : α) :
    env.lenient read key default = env'.lenient read key default := by
  rw [lenient, lenient, same]

theorem strict_congr (read : String → Except String α) (default : α) :
    env.strict read key default = env'.strict read key default := by
  rw [strict, strict, same]

end Readers

end Lookup

/-! ## What tuning is put to -/

/-- The keys that only tune the relay. -/
def isTuning (key : String) : Bool :=
  key ∈ ["DUNE_API_URL", "DUNE_BRIDGE_QUERY_ID", "DUNE_RFQ_QUERY_ID", "DUNE_HTTP_TIMEOUT_SECS",
    "RELAY_BURST", "RELAYER_DRY_RUN", "INGEST_INTERVAL_SECS", "RELAY_INTERVAL_SECS",
    "REQUEUE_CAPACITY", "SUBMITTER_TIMEOUT_SECS", "LOG_FORMAT"] ||
  "DATABASE_".toList.isPrefixOf key.toList

/-- The settings of the analytics service with the tuning of a lookup. -/
def AnalyticsSettings.tuned (s : AnalyticsSettings) (env : Lookup) : AnalyticsSettings where
  baseUrl := Settings.baseUrl (env.textOr "DUNE_API_URL" "https://api.dune.com/api/v1")
  apiKey := s.apiKey
  bridgeQueryId := env.textOr "DUNE_BRIDGE_QUERY_ID" "3345214"
  rfqQueryId := env.textOr "DUNE_RFQ_QUERY_ID" "3348161"
  requestTimeout := Settings.seconds (env.lenient Lookup.word "DUNE_HTTP_TIMEOUT_SECS" 30)

/-- The settings of the payments with the tuning of a lookup. -/
def PaymentSettings.tuned (s : PaymentSettings) (env : Lookup) : PaymentSettings :=
  { s with
    burst := max 1 (env.lenient Lookup.halfWord "RELAY_BURST" 1)
    dryRun := env.flag "RELAYER_DRY_RUN" }

namespace Settings

/-- The settings with the tuning of a lookup. -/
def tuned (s : Settings) (env : Lookup) : Settings :=
  { s with
    analytics := s.analytics.tuned env
    payment := s.payment.tuned env
    ingestInterval := roundInterval env "INGEST_INTERVAL_SECS" 300
    relayInterval := roundInterval env "RELAY_INTERVAL_SECS" 15
    requeueCapacity := (env.lenient Lookup.word "REQUEUE_CAPACITY" 50000).toNat
    submitter.timeout := seconds (env.lenient Lookup.word "SUBMITTER_TIMEOUT_SECS" 30)
    database := databaseOf env
    logJson := logJsonOf env }

/-- A part of the settings and the keys that feed it. -/
structure Feed where
  Value : Type
  get : Settings → Value
  keys : List String

/-- All parts of the settings, down to the single value. -/
def feeds : List Feed :=
  [⟨_, fun s => s.analytics.baseUrl, ["DUNE_API_URL"]⟩,
    ⟨_, fun s => s.analytics.apiKey, ["DUNE_API_KEY"]⟩,
    ⟨_, fun s => s.analytics.bridgeQueryId, ["DUNE_BRIDGE_QUERY_ID"]⟩,
    ⟨_, fun s => s.analytics.rfqQueryId, ["DUNE_RFQ_QUERY_ID"]⟩,
    ⟨_, fun s => s.analytics.requestTimeout, ["DUNE_HTTP_TIMEOUT_SECS"]⟩,
    ⟨_, fun s => s.startDate, ["STIP_START_DATE"]⟩,
    ⟨_, fun s => s.rates, ["REBATE_TABLE", "REBATE_TABLE_PATH"]⟩,
    ⟨_, fun s => s.payment.chainId, ["REBATE_CHAIN_ID"]⟩,
    ⟨_, fun s => s.payment.tokenAddress, ["REBATE_TOKEN_ADDRESS"]⟩,
    ⟨_, fun s => s.payment.ratePerSecond, ["RELAY_RATE_PER_SEC"]⟩,
    ⟨_, fun s => s.payment.burst, ["RELAY_BURST"]⟩,
    ⟨_, fun s => s.payment.dryRun, ["RELAYER_DRY_RUN"]⟩,
    ⟨_, fun s => s.backoff.initial, ["POLL_INITIAL_INTERVAL_SECS"]⟩,
    ⟨_, fun s => s.backoff.longest, ["POLL_MAX_INTERVAL_SECS"]⟩,
    ⟨_, fun s => s.backoff.multiplier, ["POLL_MULTIPLIER"]⟩,
    ⟨_, fun s => s.backoff.budget, ["POLL_MAX_ELAPSED_SECS"]⟩,
    ⟨_, fun s => s.backoff.randomization, ["POLL_JITTER"]⟩,
    ⟨_, fun s => s.ingestInterval, ["INGEST_INTERVAL_SECS"]⟩,
    ⟨_, fun s => s.relayInterval, ["RELAY_INTERVAL_SECS"]⟩,
    ⟨_, fun s => s.requeueCapacity, ["REQUEUE_CAPACITY"]⟩,
    ⟨_, fun s => s.clients, ["RPC_URLS"]⟩,
    ⟨_, fun s => s.submitter.url, ["SUBMITTER_URL"]⟩,
    ⟨_, fun s => s.submitter.timeout, ["SUBMITTER_TIMEOUT_SECS"]⟩,
    ⟨_, fun s => s.database.url, ["DATABASE_URL"]⟩,
    ⟨_, fun s => s.database.maxConnections, ["DATABASE_MAX_CONNECTIONS"]⟩,
    ⟨_, fun s => s.database.minConnections, ["DATABASE_MIN_CONNECTIONS"]⟩,
    ⟨_, fun s => s.database.connectTimeoutSeconds, ["DATABASE_CONNECT_TIMEOUT_SECS"]⟩,
    ⟨_, fun s => s.logJson, ["LOG_FORMAT"]⟩]

attribute [ext] AnalyticsSettings PaymentSettings BackoffPolicy SubmitterSettings DatabaseSettings
  Settings

variable {env env' : Lookup} {files : Files} {s s' : Settings}

/-- Settings that agree in every part are the same. -/
theorem eq_of_feeds (agree : ∀ feed ∈ feeds, feed.get s = feed.get s') : s = s' := by
  simpa only [feeds, List.forall_mem_cons, Settings.ext_iff, AnalyticsSettings.ext_iff,
    PaymentSettings.ext_iff, BackoffPolicy.ext_iff, SubmitterSettings.ext_iff,
    DatabaseSettings.ext_iff, and_assoc, List.not_mem_nil, false_imp_iff, implies_true, and_true]
    using agree

/-- Of two tunings of the same settings a part is the same when its keys have the same texts. -/
theorem get_tuned {feed : Feed} (listed : feed ∈ feeds)
    (same : ∀ key ∈ feed.keys, env.text? key = env'.text? key) :
    feed.get (s.tuned env) = feed.get (s.tuned env') := by
  revert feed
  simp only [feeds, List.forall_mem_cons, tuned, AnalyticsSettings.tuned, PaymentSettings.tuned,
    databaseOf, logJsonOf, roundInterval, Lookup.textOr, Lookup.lenient, Lookup.flag]
  simp +contextual

/-! ## Loading side by side -/

theorem startDateOf_congr (same : env.text? "STIP_START_DATE" = env'.text? "STIP_START_DATE") :
    startDateOf env = startDateOf env' := by
  rw [startDateOf, startDateOf, Lookup.required_congr same]

theorem ratesOf_congr (table : env.text? "REBATE_TABLE" = env'.text? "REBATE_TABLE")
    (path : env.text? "REBATE_TABLE_PATH" = env'.text? "REBATE_TABLE_PATH") :
    ratesOf env files = ratesOf env' files := by
  rw [ratesOf, ratesOf, rateTextOf, rateTextOf, table, path]

theorem clientsOf_congr (same : env.text? "RPC_URLS" = env'.text? "RPC_URLS") :
    clientsOf env = clientsOf env' := by
  rw [clientsOf, clientsOf, same]

theorem positiveSeconds_congr {key : String} (same : env.text? key = env'.text? key)
    (default : UInt64) : positiveSeconds env key default = positiveSeconds env' key default := by
  rw [positiveSeconds, positiveSeconds, Lookup.strict_congr same]

section Loading

variable (same : ∀ key, isTuning key = false → env.text? key = env'.text? key)
include same

theorem backoffOf_congr : backoffOf env = backoffOf env' := by
  have initial := same "POLL_INITIAL_INTERVAL_SECS" (by decide)
  have longest := same "POLL_MAX_INTERVAL_SECS" (by decide)
  have budget := same "POLL_MAX_ELAPSED_SECS" (by decide)
  have multiplier := same "POLL_MULTIPLIER" (by decide)
  have jitter := same "POLL_JITTER" (by decide)
  unfold backoffOf
  simp only [positiveSeconds_congr initial, positiveSeconds_congr longest,
    positiveSeconds_congr budget, Lookup.strict_congr multiplier, Lookup.strict_congr jitter]

theorem analyticsOf_alike :
    Alike (fun a a' => a.tuned env = a ∧ a.tuned env' = a') (analyticsOf env) (analyticsOf env') := by
  have key := same "DUNE_API_KEY" (by decide)
  refine Alike.bind_same (Lookup.required_congr key) fun apiKey => ?_
  exact .ok ⟨rfl, rfl⟩

theorem paymentOf_alike :
    Alike (fun p p' => p.tuned env = p ∧ p.tuned env' = p') (paymentOf env) (paymentOf env') := by
  have rate := same "RELAY_RATE_PER_SEC" (by decide)
  have token := same "REBATE_TOKEN_ADDRESS" (by decide)
  have chain := same "REBATE_CHAIN_ID" (by decide)
  unfold paymentOf
  rw [Lookup.lenient_congr rate, Lookup.textOr_congr token]
  dsimp only
  refine Alike.check ?_
  cases Chain.parseAddress (env'.textOr "REBATE_TOKEN_ADDRESS" defaultToken) with
  | error e => exact .error _
  | ok bytes =>
      refine Alike.bind_same (Lookup.strict_congr chain _ _) fun chainId => ?_
      exact .ok ⟨rfl, rfl⟩

/-- Side by side the settings load with the same error, or differ in their tuning only. -/
theorem load_alike (files : Files) :
    Alike (fun s s' => s.tuned env = s ∧ s.tuned env' = s') (load env files) (load env' files) := by
  have start := same "STIP_START_DATE" (by decide)
  have table := same "REBATE_TABLE" (by decide)
  have path := same "REBATE_TABLE_PATH" (by decide)
  have urls := same "RPC_URLS" (by decide)
  have submitter := same "SUBMITTER_URL" (by decide)
  unfold load
  -- Two steps have tuning of their own; the others are the same on both sides.
  refine (analyticsOf_alike same).bind fun analytics analytics' tuning => ?_
  refine Alike.bind_same (startDateOf_congr start) fun startDate => ?_
  refine Alike.bind_same (ratesOf_congr table path) fun rates => ?_
  refine (paymentOf_alike same).bind fun payment payment' tuning' => ?_
  refine Alike.bind_same (backoffOf_congr same) fun backoff => ?_
  refine Alike.bind_same (clientsOf_congr urls) fun clients => ?_
  refine Alike.bind_same (Lookup.required_congr submitter) fun url => ?_
  obtain ⟨here, rfl⟩ := tuning
  obtain ⟨here', rfl⟩ := tuning'
  refine .ok ⟨?_, rfl⟩
  rw [tuned, here, here']

end Loading

/-- The keys that only tune the relay do not decide whether the settings load. Lookups that differ in
no other key give the same error, or settings that agree in every part except those that are fed by a
key on which the lookups differ. And the blanks around values, and blank values, do not count at
all. -/
theorem load_of_tuning (env : Lookup) (files : Files) :
    (∀ env' : Lookup, (∀ key, isTuning key = false → env key = env' key) →
      (∃ e, load env files = .error e ∧ load env' files = .error e) ∨
      ∃ s s', load env files = .ok s ∧ load env' files = .ok s' ∧
        ∀ feed ∈ feeds, (∀ key ∈ feed.keys, env key = env' key) → feed.get s = feed.get s') ∧
    load env.trimmed files = load env files := by
  constructor
  case left =>
    intro env' same
    have texts (key : String) (other : isTuning key = false) := Lookup.text?_congr (same key other)
    obtain refused | ⟨s, s', loaded, loaded', here, there⟩ :=
      (load_alike texts files).error_or_ok
    · exact Or.inl refused
    · refine Or.inr ⟨s, s', loaded, loaded', fun feed listed fed => ?_⟩
      have part : feed.get (s.tuned env) = feed.get (s.tuned env') :=
        get_tuned listed fun key among => Lookup.text?_congr (fed key among)
      rwa [here, there] at part
  case right =>
    have texts := Lookup.text?_trimmed env
    obtain ⟨e, refused, refused'⟩ | ⟨s, s', loaded, loaded', here, there⟩ :=
      (load_alike (fun key _ => texts key) files).error_or_ok
    · rw [refused, refused']
    · have same : s.tuned env.trimmed = s.tuned env :=
        eq_of_feeds fun feed listed => get_tuned listed fun key _ => texts key
      rw [here, there] at same
      rw [loaded, loaded', same]

/-- The sample with a typing error in an interval, another database and blanks around the burst. -/
def tunedLookup : Lookup
  | "INGEST_INTERVAL_SECS" => some "5 minutes"
  | "DATABASE_URL" => some "postgres://elsewhere"
  | "RELAY_BURST" => some " 3\t"
  | key => sampleLookup key

theorem load_of_tuning_of_sample :
    (∀ key, isTuning key = false → sampleLookup key = tunedLookup key) ∧
      ∃ s s', load sampleLookup (fun _ => .error .notFound) = .ok s ∧
        load tunedLookup (fun _ => .error .notFound) = .ok s' ∧
        s.startDate = s'.startDate ∧ s.relayInterval = s'.relayInterval ∧
        s'.ingestInterval = .ofSeconds 300 ∧ s'.payment.burst = 3 := by
  have same : ∀ key, isTuning key = false → sampleLookup key = tunedLookup key := by
    intro key other
    unfold tunedLookup
    split
    case h_4 => rfl
    all_goals cases other
  have values : (load tunedLookup fun _ => .error .notFound).toOption.map
      (fun s => (s.ingestInterval, s.payment.burst)) = some (.ofSeconds 300, 3) := by
    decide +kernel
  obtain ⟨t, read, values⟩ := Option.map_eq_some_iff.mp values
  have read := eq_ok_of_toOption read
  obtain ⟨interval, burst⟩ := Prod.mk.inj values
  obtain ⟨e, -, refused⟩ | ⟨s, s', loaded, loaded', agree⟩ :=
    (load_of_tuning sampleLookup fun _ => .error .notFound).1 tunedLookup same
  · rw [read] at refused
    cases refused
  · rw [read] at loaded'
    cases loaded'
    have start := agree ⟨_, fun s => s.startDate, ["STIP_START_DATE"]⟩ (by simp [feeds])
      (by simp [tunedLookup])
    have relay := agree ⟨_, fun s => s.relayInterval, ["RELAY_INTERVAL_SECS"]⟩ (by simp [feeds])
      (by simp [tunedLookup])
    exact ⟨same, s, t, loaded, read, start, relay, interval, burst⟩

end Settings

end RebateRelay
