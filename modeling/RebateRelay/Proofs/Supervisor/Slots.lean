import Mathlib.Data.List.Chain
import Mathlib.Data.List.Nodup
import RebateRelay.Supervisor.Ticker

/-!
# Rounds in their slots

The time of a loop is cut into slots of one period each, and a tick comes at the start of a slot.
When a tick is seen, however late, the next one is the start of the slot that follows. So whoever
begins a round at each tick that is seen, and sees none while the round lasts, begins no two rounds
in one slot, and a round that lasts for several slots is not made up for.

`OnGrid` is what holds of the rounds so far and of the tick that comes next.
-/

namespace RebateRelay

/-- Once a tick is seen, the next one is at the start of the slot that follows. -/
theorem Ticker.next_tick {t : Ticker} {now : Instant} (long : tolerance < t.period)
    (grid : t.period.nanos ∣ t.next.nanos) (seen : t.next ≤ now) :
    (t.tick now).next = ⟨(now.nanos / t.period.nanos + 1) * t.period.nanos⟩ := by
  obtain ⟨slot, multiple⟩ := grid
  rw [Instant.le_def] at seen
  rw [Duration.lt_def] at long
  have whole := Nat.div_add_mod now.nanos t.period.nanos
  have next : (now.nanos / t.period.nanos + 1) * t.period.nanos =
      t.period.nanos * (now.nanos / t.period.nanos) + t.period.nanos := by
    rw [Nat.succ_mul, Nat.mul_comm]
  unfold tick
  split
  case isTrue late =>
    have phase : t.phase now = now.nanos % t.period.nanos := by
      rw [phase, Instant.since, multiple, Nat.sub_mul_mod (multiple ▸ seen)]
    have shifted : now.nanos + t.period.nanos - now.nanos % t.period.nanos =
        t.period.nanos * (now.nanos / t.period.nanos) + t.period.nanos := by
      omega
    rw [phase, next]
    exact congrArg Instant.mk shifted
  case isFalse inTime =>
    rw [Instant.lt_def, Instant.after] at inTime
    have same : now.nanos / t.period.nanos = slot := by
      refine Nat.div_eq_of_lt_le ?_ ?_
      · rw [Nat.mul_comm, ← multiple]
        exact seen
      · rw [Nat.succ_mul, Nat.mul_comm, ← multiple]
        dsimp only at inTime
        omega
    rw [next, same, ← multiple, Instant.after]

/-- One round of a loop: when it was begun, and when it ended if it has. -/
structure Round where
  begun : Instant
  ended : Option Instant := none
  deriving DecidableEq, Repr

namespace Round

/-- The slot in which a round begins. The first one is that of the start. -/
def slot (period : Duration) (r : Round) : Nat := r.begun.nanos / period.nanos

/-- The start of the slot that follows. -/
def nextTick (period : Duration) (r : Round) : Instant := ⟨(r.slot period + 1) * period.nanos⟩

/-- A round is over now, unless it was over before. -/
def close (now : Instant) (r : Round) : Round := { r with ended := some (r.ended.getD now) }

/-- A round is begun after another one: it finds that one ended, and it is not in the slot of that
one or before. It begins as soon as the other one has ended and that slot is over, but for a lag. -/
structure Follows (period lag : Duration) (r r' : Round) : Prop where
  slot : r.slot period < r'.slot period
  ended : ∃ t, r.ended = some t ∧ t ≤ r'.begun ∧
    r'.begun ≤ ((r.nextTick period).later t).after lag

variable {period lag : Duration} {now t : Instant} {r r' : Round}

theorem ended_close (finished : r.ended = some t) : (r.close now).ended = some t := by
  rw [close, finished, Option.getD_some]

theorem Follows.close (h : Follows period lag r r') :
    Follows period lag (r.close now) (r'.close now) := by
  obtain ⟨t, ended, order⟩ := h.ended
  exact ⟨h.slot, t, ended_close ended, order⟩

/-- A slot has the round in it between its start and that of the slot that follows. -/
theorem slot_eq_iff (positive : 0 < period.nanos) {k : Nat} :
    r.slot period = k ↔ k * period.nanos ≤ r.begun.nanos ∧
      r.begun.nanos < (k + 1) * period.nanos := by
  rw [slot, Nat.div_eq_iff positive, Nat.succ_mul]
  omega

end Round

open Round

/-- When the last of the rounds ended; the start, if there is none. -/
def lastEnd (rounds : List Round) : Instant := (rounds.getLast?.bind Round.ended).getD .zero

/-- Rounds that are over are not over again. -/
theorem map_close_of_ended {rounds : List Round} (finished : ∀ r ∈ rounds, r.ended.isSome = true)
    (now : Instant) : rounds.map (Round.close now) = rounds := by
  refine List.map_congr_left (fun r made => ?_) |>.trans (List.map_id rounds)
  obtain ⟨t, ended⟩ := Option.isSome_iff_exists.mp (finished r made)
  rw [close, ended, Option.getD_some, ← ended, id]

theorem lastEnd_close {rounds : List Round} {r : Round} (last : rounds.getLast? = some r)
    (underWay : r.ended = none) (now : Instant) : lastEnd (rounds.map (Round.close now)) = now := by
  rw [lastEnd, List.getLast?_map, last, Option.map_some, Option.bind_some, close, underWay,
    Option.getD_none, Option.getD_some]

/-- What holds at a moment of the rounds of a loop and of the tick that comes next: the first round
came at the first tick, and each one follows the one before. -/
structure OnGrid (period lag : Duration) (first now next : Instant) (rounds : List Round) :
    Prop where
  next : next = rounds.getLast?.elim first (nextTick period)
  first : ∀ r, rounds.head? = some r → first ≤ r.begun ∧ r.begun ≤ first.after lag
  chain : rounds.IsChain (Follows period lag)
  past : ∀ r ∈ rounds, r.begun ≤ now ∧ ∀ t, r.ended = some t → t ≤ now

namespace OnGrid

variable {period lag : Duration} {first now now' next : Instant} {rounds : List Round} {r : Round}

theorem nil : OnGrid period lag first now first [] where
  next := rfl
  first := nofun
  chain := .nil
  past := nofun

/-- The next tick is on the grid if the first one is. -/
theorem dvd_next (h : OnGrid period lag first now next rounds)
    (grid : period.nanos ∣ first.nanos) : period.nanos ∣ next.nanos := by
  rw [h.next]
  cases rounds.getLast? with
  | none => exact grid
  | some r => exact Nat.dvd_mul_left _ _

theorem elapse (h : OnGrid period lag first now next rounds) (later : now ≤ now') :
    OnGrid period lag first now' next rounds where
  next := h.next
  first := h.first
  chain := h.chain
  past r made := by
    obtain ⟨begun, ended⟩ := h.past r made
    exact ⟨Nat.le_trans begun later, fun t finished => Nat.le_trans (ended t finished) later⟩

theorem close (h : OnGrid period lag first now next rounds) :
    OnGrid period lag first now next (rounds.map (Round.close now)) where
  next := by
    rw [h.next, List.getLast?_map]
    cases rounds.getLast? <;> rfl
  first r head := by
    rw [List.head?_map, Option.map_eq_some_iff] at head
    obtain ⟨r', head, rfl⟩ := head
    exact h.first r' head
  chain := (List.isChain_map _).mpr (h.chain.imp fun _ _ => Follows.close)
  past r made := by
    obtain ⟨r', before, rfl⟩ := List.mem_map.mp made
    obtain ⟨begun, ended⟩ := h.past r' before
    refine ⟨begun, fun t finished => ?_⟩
    cases was : r'.ended with
    | none =>
        rw [Round.close, was, Option.getD_none, Option.some.injEq] at finished
        exact finished ▸ Nat.le_refl _
    | some t' =>
        rw [ended_close was, Option.some.injEq] at finished
        exact finished ▸ ended t' was

/-- A round that is begun when the tick is seen, the ones before it being over, is the next one. -/
theorem begin (h : OnGrid period lag first now next rounds)
    (finished : ∀ r ∈ rounds, r.ended.isSome = true) (positive : 0 < period.nanos)
    (seen : next ≤ now) (inTime : now ≤ (next.later (lastEnd rounds)).after lag) :
    OnGrid period lag first now ⟨(now.nanos / period.nanos + 1) * period.nanos⟩
      (rounds ++ [⟨now, none⟩]) where
  next := by
    rw [List.getLast?_concat]
    rfl
  first r head := by
    rw [List.head?_concat, Option.some.injEq] at head
    cases rounds with
    | nil =>
        have start : next = first := h.next
        have least : Instant.zero ≤ first := Nat.zero_le _
        rw [start] at seen inTime
        rw [← head]
        exact ⟨seen, Instant.later_eq_left least ▸ inTime⟩
    | cons r' rounds => exact h.first r (congrArg some head)
  chain := by
    refine List.isChain_append.mpr ⟨h.chain, .singleton _, ?_⟩
    intro r last r' new
    have made := List.mem_of_getLast? last
    obtain ⟨t, ended⟩ := Option.isSome_iff_exists.mp (finished r made)
    obtain rfl : (⟨now, none⟩ : Round) = r' := Option.some.inj new
    have last : rounds.getLast? = some r := last
    have tick : next = r.nextTick period := by rw [h.next, last, Option.elim_some]
    refine ⟨?slot, t, ended, (h.past r made).2 t ended, ?inTime⟩
    case slot =>
      rw [tick] at seen
      exact (Nat.le_div_iff_mul_le positive).mpr seen
    case inTime =>
      rw [lastEnd, last, Option.bind_some, ended, Option.getD_some, tick] at inTime
      exact inTime
  past r made := by
    rcases List.mem_append.mp made with made | new
    · exact h.past r made
    · rw [List.mem_singleton.mp new]
      exact ⟨Nat.le_refl _, nofun⟩

/-- Later rounds are in later slots. -/
theorem pairwise_slot (h : OnGrid period lag first now next rounds) :
    rounds.Pairwise fun r r' => r.slot period < r'.slot period := by
  have increasing : (rounds.map (Round.slot period)).IsChain (· < ·) :=
    (List.isChain_map _).mpr (h.chain.imp fun _ _ follows => follows.slot)
  exact List.pairwise_map.mp increasing.pairwise

/-- No slot has two rounds. -/
theorem countP_le_one (h : OnGrid period lag first now next rounds) (positive : 0 < period.nanos)
    (k : Nat) :
    (rounds.countP fun r => k * period.nanos ≤ r.begun.nanos ∧
      r.begun.nanos < (k + 1) * period.nanos) ≤ 1 := by
  have distinct : (rounds.map (Round.slot period)).Nodup :=
    List.pairwise_map.mpr (h.pairwise_slot.imp Nat.ne_of_lt)
  have once := List.nodup_iff_count_le_one.mp distinct k
  rw [List.count, List.countP_map] at once
  refine le_of_eq_of_le (List.countP_congr fun r _ => ?_) once
  simp [slot_eq_iff positive]

/-- No round is begun before the first tick. -/
theorem first_le_begun (h : OnGrid period lag first now next rounds) (made : r ∈ rounds) :
    first ≤ r.begun := by
  cases rounds with
  | nil => cases made
  | cons r' rounds =>
      have begins := (h.first r' rfl).1
      rcases List.mem_cons.mp made with rfl | later
      · exact begins
      · have slots := (List.pairwise_cons.mp h.pairwise_slot).1 r later
        by_contra early
        have order : r.begun.nanos ≤ r'.begun.nanos := Nat.le_trans (Nat.not_le.mp early).le begins
        exact absurd (Nat.div_le_div_right order) (Nat.not_le.mpr slots)

end OnGrid

end RebateRelay
