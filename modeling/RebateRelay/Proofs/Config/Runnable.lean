import RebateRelay.Chain.Submitter
import RebateRelay.Config.Load
import RebateRelay.Proofs.Config.Endpoints
import RebateRelay.Proofs.Number.Double
import RebateRelay.Proofs.Result
import RebateRelay.Relay.Payment

/-!
# Settings that a relay can run on

Whatever the settings are read from, those that load are in order: every part that is built of them
takes them as they are. Each reader has one law, which says what its result satisfies; a reader of
structured settings refuses the rest, and a lenient one falls back to a value that satisfies it too.
The parts themselves have checks of their own, and these are passed.
-/

namespace RebateRelay

/-! ## Looking up -/

namespace Lookup

variable {env : Lookup} {key : String} {text : String}

theorem ne_of_text? (found : env.text? key = some text) : text ≠ "" := by
  obtain ⟨-, shown⟩ := Option.filter_eq_some_iff.mp found
  exact bne_iff_ne.mp shown

theorem ne_of_required (found : env.required key = .ok text) : text ≠ "" := by
  unfold required at found
  split at found
  case h_1 value present =>
    cases found
    exact ne_of_text? present
  case h_2 => cases found

end Lookup

/-! ## The rate table -/

section Values

variable {κ β : Type} {cmp : κ → κ → Ordering} [Std.TransCmp cmp] [Std.LawfulEqCmp cmp]

theorem exists_getElem?_of_mem_values {t : Std.TreeMap κ β cmp} {v : β} (mem : v ∈ t.values) :
    ∃ k : κ, t[k]? = some v := by
  have listed : t.values = t.toList.map Prod.snd := by
    change t.foldr (fun _ v vs => v :: vs) [] = _
    rw [Std.TreeMap.foldr_eq_foldr_toList]
    induction t.toList with
    | nil => rfl
    | cons entry rest ih => exact congrArg (entry.2 :: ·) ih
  rw [listed] at mem
  obtain ⟨⟨k, w⟩, entry, rfl⟩ := List.mem_map.mp mem
  exact ⟨k, Std.TreeMap.mem_toList_iff_getElem?_eq_some.mp entry⟩

theorem exists_getElem?_of_size_ne_zero {t : Std.TreeMap κ β cmp} (filled : t.size ≠ 0) :
    ∃ (k : κ) (v : β), t[k]? = some v := by
  rw [← Std.TreeMap.length_toList] at filled
  obtain ⟨⟨k, v⟩, mem⟩ := List.exists_mem_of_length_pos (Nat.pos_of_ne_zero filled)
  exact ⟨k, v, Std.TreeMap.mem_toList_iff_getElem?_eq_some.mp mem⟩

end Values

namespace RateTable

theorem exists_of_total_ne_zero {counts : List ℕ} (filled : total counts ≠ 0) :
    ∃ count ∈ counts, count ≠ 0 := by
  induction counts with
  | nil => exact absurd rfl filled
  | cons count rest ih =>
      by_cases none : count = 0
      · have filled : total rest ≠ 0 := by
          intro empty
          apply filled
          change count + total rest = 0
          rw [none, empty]
        obtain ⟨other, mem, some⟩ := ih filled
        exact ⟨other, List.mem_cons_of_mem _ mem, some⟩
      · exact ⟨count, List.mem_cons_self, none⟩

/-- A table that is not empty has a rate for some token. -/
theorem exists_rebateBps {table : RateTable} (filled : table.isEmpty = false) :
    ∃ chainId module token bps, table.rebateBps chainId module token = .ok bps := by
  have filled : table.size ≠ 0 := by simpa [isEmpty] using filled
  obtain ⟨_, counted, filled⟩ := exists_of_total_ne_zero filled
  obtain ⟨modules, among, rfl⟩ := List.mem_map.mp counted
  obtain ⟨chainId, chain⟩ := exists_getElem?_of_mem_values among
  obtain ⟨_, counted, filled⟩ := exists_of_total_ne_zero filled
  obtain ⟨tokens, among, rfl⟩ := List.mem_map.mp counted
  obtain ⟨module, inside⟩ := exists_getElem?_of_mem_values among
  obtain ⟨token, rate, found⟩ := exists_getElem?_of_size_ne_zero filled
  refine ⟨chainId, module, token, rate.rebate, ?_⟩
  have listed : table.module? chainId module = some tokens := by
    rw [module?, chain, Option.bind_some, inside]
  rw [rebateBps, listed]
  simp only [found]

end RateTable

/-! ## The readers -/

/-- A backoff that is in order: each part of it is in effect as it stands. -/
structure BackoffPolicy.IsOrdered (p : BackoffPolicy) : Prop where
  least : .ofSeconds 1 ≤ p.initial
  ordered : p.initial ≤ p.longest
  budget : .ofSeconds 1 ≤ p.budget
  finite : p.multiplier.isFinite = true
  growing : 1 ≤ p.multiplier
  spread : 0 ≤ p.randomization ∧ p.randomization ≤ 1

theorem BackoffPolicy.IsOrdered.first_eq {p : BackoffPolicy} (h : p.IsOrdered) :
    p.first = p.initial := by
  have least := h.least
  have within : p.initial.min p.longest = p.initial := if_pos h.ordered
  rw [Duration.le_def] at least
  rw [first, within, Duration.max]
  split
  case isTrue le =>
    rw [Duration.le_def] at le
    exact congrArg Duration.mk (Nat.le_antisymm least le)
  case isFalse => rfl

/-- Settings of the payments that the limiter takes as they are, with a token's address. -/
structure PaymentSettings.IsAccepted (s : PaymentSettings) : Prop where
  rate : s.ratePerSecond.isFinite = true ∧ 0 < s.ratePerSecond
  burst : 1 ≤ s.burst.toNat
  token : ∃ token, Chain.parseAddress s.tokenAddress = .ok token

namespace PaymentSettings.IsAccepted

variable {s : PaymentSettings}

theorem limiter_eq (h : s.IsAccepted) :
    Limiter.ofRate s.ratePerSecond s.burst = ⟨s.ratePerSecond, Float.ofNat s.burst.toNat⟩ := by
  have rate : Limiter.effectiveRate s.ratePerSecond = s.ratePerSecond :=
    if_pos ((Bool.and_eq_true _ _).mpr ⟨h.rate.1, decide_eq_true h.rate.2⟩)
  rw [Limiter.ofRate, rate, Nat.max_eq_left h.burst]

theorem exists_paymaster (h : s.IsAccepted) (rates : RateTable) (clients : Chain.Clients) :
    ∃ m, Paymaster.ofSettings rates clients s = .ok m := by
  obtain ⟨token, parsed⟩ := h.token
  exact ⟨_, bind_eq_ok.mpr ⟨token, parsed, rfl⟩⟩

end PaymentSettings.IsAccepted

namespace Settings

variable {env : Lookup} {files : Files} {key : String}

theorem ofSeconds_le_ofSeconds {m n : ℕ} (le : m ≤ n) :
    Duration.ofSeconds m ≤ Duration.ofSeconds n :=
  Nat.mul_le_mul_right Duration.nanosPerSecond le

theorem one_second_le_roundInterval (default : UInt64) :
    .ofSeconds 1 ≤ roundInterval env key default := by
  apply ofSeconds_le_ofSeconds
  rw [UInt64.toNat_max]
  exact Nat.le_max_left _ _

theorem one_le_of_positiveSeconds {default n : UInt64}
    (read : positiveSeconds env key default = .ok n) : 1 ≤ n.toNat := by
  simp only [positiveSeconds, bind_eq_ok, check_eq_ok] at read
  obtain ⟨m, -, nonzero, shown⟩ := read
  cases shown
  apply Nat.one_le_iff_ne_zero.mpr
  intro zero
  exact nonzero (UInt64.toNat_inj.mp zero)

theorem isOrdered_backoffOf {p : BackoffPolicy} (read : backoffOf env = .ok p) : p.IsOrdered := by
  simp only [backoffOf, bind_eq_ok, check_eq_ok] at read
  obtain ⟨initial, least, longest, -, ordered, budget, positive, multiplier, -, growing,
    randomization, -, spread, shown⟩ := read
  cases shown
  simp only [Bool.not_eq_true, Bool.not_eq_false', Bool.and_eq_true, decide_eq_true_eq]
    at growing spread
  constructor
  case least => exact ofSeconds_le_ofSeconds (one_le_of_positiveSeconds least)
  case ordered =>
    rw [UInt64.not_lt] at ordered
    exact ofSeconds_le_ofSeconds (UInt64.le_iff_toNat_le.mp ordered)
  case budget => exact ofSeconds_le_ofSeconds (one_le_of_positiveSeconds positive)
  case finite => exact growing.1
  case growing => exact growing.2
  case spread => exact spread

theorem isEmpty_of_ratesOf {table : RateTable} (read : ratesOf env files = .ok table) :
    table.isEmpty = false := by
  simp only [ratesOf, bind_eq_ok] at read
  obtain ⟨⟨key, text⟩, -, read⟩ := read
  split at read
  case h_1 => cases read
  case h_2 =>
    split at read
    case isTrue => cases read
    case isFalse filled =>
      cases read
      exact eq_false_of_ne_true filled

theorem ne_of_clientsOf {clients : Chain.Clients} {chainId : UInt64} {url : String}
    (read : clientsOf env = .ok clients) (served : clients.endpoints[chainId]? = some url) :
    url ≠ "" := by
  unfold clientsOf at read
  split at read
  case h_1 => exact Endpoints.ne_of_parse read served
  case h_2 =>
    cases read
    simp [Chain.Clients.empty] at served

theorem isAccepted_paymentOf {p : PaymentSettings} (read : paymentOf env = .ok p) :
    p.IsAccepted := by
  simp only [paymentOf, check_eq_ok, Bool.not_eq_true, Bool.not_eq_false', Bool.and_eq_true,
    decide_eq_true_eq] at read
  obtain ⟨rate, read⟩ := read
  split at read
  case h_1 token parsed =>
    obtain ⟨chainId, -, shown⟩ := bind_eq_ok.mp read
    cases shown
    constructor
    case rate => exact rate
    case burst =>
      rw [UInt32.toNat_max]
      exact Nat.le_max_left _ _
    case token => exact ⟨token, parsed⟩
  case h_2 => cases read

theorem ne_of_analyticsOf {s : AnalyticsSettings} (read : analyticsOf env = .ok s) :
    s.apiKey ≠ "" ∧ s.baseUrl.toList.getLast? ≠ some '/' := by
  simp only [analyticsOf, bind_eq_ok] at read
  obtain ⟨apiKey, required, shown⟩ := read
  cases shown
  constructor
  · exact Lookup.ne_of_required required
  · exact Text.getLast?_dropTrailing '/' _

end Settings

/-! ## All settings -/

/-- Settings that every part of the relay takes as they are. -/
structure Settings.IsRunnable (s : Settings) : Prop where
  /-- The rate and the burst are ones that a limiter accepts. -/
  payment : s.payment.IsAccepted
  /-- The limiter of these settings has them as its own. -/
  limiter : Limiter.ofRate s.payment.ratePerSecond s.payment.burst =
    ⟨s.payment.ratePerSecond, Float.ofNat s.payment.burst.toNat⟩
  /-- The paymaster can be made. -/
  paymaster : ∃ m, Paymaster.ofSettings s.rates s.clients s.payment = .ok m
  /-- Some token has a rate. -/
  rates : ∃ chainId module token bps, s.rates.rebateBps chainId module token = .ok bps
  /-- The waits between polls are in order. -/
  backoff : s.backoff.IsOrdered
  /-- The first wait is the one that was set. -/
  first : s.backoff.first = s.backoff.initial
  /-- The factor and the jitter are numbers. -/
  numbers : s.backoff.multiplier.isNaN = false ∧ s.backoff.randomization.isNaN = false
  /-- The loops do not go round without a pause. -/
  intervals : .ofSeconds 1 ≤ s.ingestInterval ∧ .ofSeconds 1 ≤ s.relayInterval
  /-- Every endpoint has an address. -/
  endpoints : ∀ (chainId : UInt64) (url : String),
    s.clients.endpoints[chainId]? = some url → url ≠ ""
  apiKey : s.analytics.apiKey ≠ ""
  /-- The addresses of the services can be extended by a path. -/
  addresses : s.analytics.baseUrl.toList.getLast? ≠ some '/' ∧
    s.submitter.url.toList.getLast? ≠ some '/'
  /-- The submitter leaves its address as it is. -/
  submitter : Chain.Submitter.ofUrl s.submitter.url = ⟨s.submitter.url⟩

namespace Settings

/-- Settings that load are runnable, wherever they are looked up. -/
theorem isRunnable_of_load {env : Lookup} {files : Files} {s : Settings}
    (loaded : load env files = .ok s) : s.IsRunnable := by
  simp only [load, bind_eq_ok] at loaded
  obtain ⟨analytics, reached, startDate, -, rates, table, payment, paid, backoff, waits, clients,
    served, url, -, shown⟩ := loaded
  cases shown
  have accepted := isAccepted_paymentOf paid
  have ordered := isOrdered_backoffOf waits
  obtain ⟨apiKey, base⟩ := ne_of_analyticsOf reached
  have last := Text.getLast?_dropTrailing '/' url
  constructor
  case payment => exact accepted
  case limiter => exact accepted.limiter_eq
  case paymaster => exact accepted.exists_paymaster _ _
  case rates => exact RateTable.exists_rebateBps (isEmpty_of_ratesOf table)
  case backoff => exact ordered
  case first => exact ordered.first_eq
  case numbers =>
    exact ⟨Number.isNaN_of_isFinite ordered.finite, Number.isNaN_of_le ordered.spread.1⟩
  case intervals =>
    exact ⟨one_second_le_roundInterval 300, one_second_le_roundInterval 15⟩
  case endpoints =>
    intro chainId url found
    exact ne_of_clientsOf served found
  case apiKey => exact apiKey
  case addresses => exact ⟨base, last⟩
  case submitter => exact congrArg Chain.Submitter.mk (Text.dropTrailing_of_getLast? last)

/-- What has to be set, with a slash too many, and a token. -/
def sampleLookup : Lookup
  | "DUNE_API_KEY" => some "secret"
  | "STIP_START_DATE" => some "2024-01-29T00:00:00Z"
  | "REBATE_TABLE" =>
    some "\x7b\"42161\":\x7b\"SynapseBridge\":\x7b\"USDC\":\x7b\"rebate\":6\x7d\x7d\x7d\x7d"
  | "REBATE_TOKEN_ADDRESS" => some "0x912ce59144191c1204e64559fe8253a0e49e6548"
  | "SUBMITTER_URL" => some " http://signer:8080// "
  | _ => none

theorem isRunnable_of_load_of_sample :
    ∃ s, load sampleLookup (fun _ => .error .notFound) = .ok s ∧ s.IsRunnable ∧
      s.submitter.url = "http://signer:8080" := by
  have url : ((load sampleLookup fun _ => .error .notFound).toOption.map fun s =>
      s.submitter.url) = some "http://signer:8080" := by decide +kernel
  obtain ⟨s, loaded, url⟩ := Option.map_eq_some_iff.mp url
  have loaded := eq_ok_of_toOption loaded
  exact ⟨s, loaded, isRunnable_of_load loaded, url⟩

end Settings

end RebateRelay
