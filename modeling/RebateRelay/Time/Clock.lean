import RebateRelay.Time.Duration

/-!
# The clock

A clock starts at zero and only runs forward. Its alarms go off at whole milliseconds, and never
early, but none is set for more than thirty years: a longer wait ends then.
-/

namespace RebateRelay

/-- A moment on the clock, in nanoseconds since it was started. -/
structure Instant where
  nanos : Nat
  deriving DecidableEq, Repr

namespace Instant

/-- The moment at which the clock was started. -/
def zero : Instant := ⟨0⟩

instance : Inhabited Instant := ⟨zero⟩

instance : LE Instant := ⟨fun a b => a.nanos ≤ b.nanos⟩

instance : LT Instant := ⟨fun a b => a.nanos < b.nanos⟩

instance (a b : Instant) : Decidable (a ≤ b) := inferInstanceAs (Decidable (a.nanos ≤ b.nanos))

instance (a b : Instant) : Decidable (a < b) := inferInstanceAs (Decidable (a.nanos < b.nanos))

theorem le_def {a b : Instant} : a ≤ b ↔ a.nanos ≤ b.nanos := Iff.rfl

theorem lt_def {a b : Instant} : a < b ↔ a.nanos < b.nanos := Iff.rfl

/-- The earlier of two moments. -/
def earlier (a b : Instant) : Instant := if a ≤ b then a else b

/-- The later of two moments. -/
def later (a b : Instant) : Instant := if a ≤ b then b else a

theorem later_eq_left {a b : Instant} (h : b ≤ a) : a.later b = a := by
  by_cases other : a ≤ b
  · rw [later, if_pos other]
    exact congrArg mk (Nat.le_antisymm h other)
  · rw [later, if_neg other]

/-- The moment that comes a while after another. -/
def after (t : Instant) (d : Duration) : Instant := ⟨t.nanos + d.nanos⟩

/-- How long ago another moment was; nothing if it is still to come. -/
def since (t other : Instant) : Duration := ⟨t.nanos - other.nanos⟩

@[simp] theorem since_after (t : Instant) (d : Duration) : (t.after d).since t = d := by
  simp [since, after]

theorem le_after (t : Instant) (d : Duration) : t ≤ t.after d := by
  simp [le_def, after]

/-- The nanoseconds of a millisecond. -/
def nanosPerMilli : Nat := 1000000

/-- The milliseconds since the start. -/
def millis (t : Instant) : Nat := t.nanos / nanosPerMilli

/-- The first whole millisecond that is not before a moment. -/
def ceilMilli (t : Instant) : Instant :=
  ⟨(t.nanos + (nanosPerMilli - 1)) / nanosPerMilli * nanosPerMilli⟩

theorem le_ceilMilli (t : Instant) : t ≤ t.ceilMilli := by
  simp only [le_def, ceilMilli, nanosPerMilli]
  omega

theorem ceilMilli_lt (t : Instant) : t.ceilMilli < t.after (.ofMillis 1) := by
  simp only [lt_def, ceilMilli, nanosPerMilli, after, Duration.ofMillis]
  omega

/-- The longest time that an alarm is set for. -/
def longestWait : Duration := .ofSeconds (86400 * 365 * 30)

/-- When an alarm goes off that is set for a while. -/
def alarm (t : Instant) (d : Duration) : Instant :=
  (t.after (d.min longestWait)).ceilMilli

/-- An alarm for no more than the longest time is not early. -/
theorem after_le_alarm (t : Instant) {d : Duration} (h : d ≤ longestWait) :
    t.after d ≤ t.alarm d := by
  simp only [alarm, Duration.min, if_pos h]
  exact le_ceilMilli _

end Instant

/-- A shutdown signal: the moment at which it is given, if ever. It stays given. -/
structure Signal where
  given : Option Instant := none
  deriving DecidableEq, Repr

namespace Signal

/-- The signal that is never given. -/
def never : Signal := {}

/-- The signal that is given at a moment. -/
def givenAt (t : Instant) : Signal := ⟨some t⟩

/-- The signal has been given. -/
def isGiven (s : Signal) (now : Instant) : Bool :=
  match s.given with
  | some t => decide (t ≤ now)
  | none => false

/-- Gives the signal at a moment, unless it is given before. -/
def give (s : Signal) (t : Instant) : Signal :=
  match s.given with
  | some given => ⟨some (given.earlier t)⟩
  | none => ⟨some t⟩

/-- When a wait is over that ends with the signal at the latest. -/
def cut (s : Signal) (t : Instant) : Instant :=
  match s.given with
  | some given => given.earlier t
  | none => t

/-- Sleeps for a while or until the signal, whichever comes first: whether the signal came first,
and when the sleep ended. -/
def sleep (s : Signal) (now : Instant) (d : Duration) : Bool × Instant :=
  let awake := (s.cut (now.alarm d)).later now
  (s.isGiven awake, awake)

/-- Waits for what is due at a moment or for the signal, whichever comes first: whether the signal
came first, and when the wait ended. -/
def await (s : Signal) (now due : Instant) : Bool × Instant :=
  let ended := (s.cut due).later now
  (s.isGiven ended, ended)

theorem isGiven_never (now : Instant) : never.isGiven now = false := rfl

theorem isGiven_givenAt {t now : Instant} : (givenAt t).isGiven now = true ↔ t ≤ now := by
  simp [givenAt, isGiven]

theorem isGiven_givenAt_of_lt {t now : Instant} (early : now < t) :
    (givenAt t).isGiven now = false := by
  rw [← Bool.not_eq_true, isGiven_givenAt]
  exact Nat.not_le.mpr early

theorem await_never {now due : Instant} (order : now ≤ due) : never.await now due = (false, due) := by
  show (never.isGiven (due.later now), due.later now) = (false, due)
  rw [Instant.later_eq_left order, isGiven_never]

/-- What is due before the signal is given is not affected by it. -/
theorem await_givenAt_of_lt {t now due : Instant} (order : now ≤ due) (early : due < t) :
    (givenAt t).await now due = (false, due) := by
  have cut : (givenAt t).cut due = due := if_neg (Nat.not_le.mpr early)
  simp only [await, cut, Instant.later_eq_left order, isGiven_givenAt_of_lt early]

/-- A wait that is under way when the signal is given ends then. -/
theorem await_givenAt_of_le {t now due : Instant} (before : now < t) (late : t ≤ due) :
    (givenAt t).await now due = (true, t) := by
  have cut : (givenAt t).cut due = t := if_pos late
  have ended : t.later now = t := Instant.later_eq_left (Nat.le_of_lt before)
  simp only [await, cut, ended, isGiven_givenAt.mpr (Nat.le_refl t.nanos)]

theorem isGiven_give (s : Signal) (t : Instant) : (s.give t).isGiven t = true := by
  unfold give isGiven
  cases s.given with
  | none => simp [Instant.le_def]
  | some given =>
    simp only [Instant.earlier]
    split <;> simp_all [Instant.le_def]

/-- A signal that has been given stays given. -/
theorem isGiven_mono {s : Signal} {t u : Instant} (h : t ≤ u) (given : s.isGiven t = true) :
    s.isGiven u = true := by
  unfold isGiven at *
  cases hs : s.given with
  | none => simp [hs] at given
  | some v =>
    simp only [hs, decide_eq_true_eq] at *
    exact Nat.le_trans given h

end Signal

end RebateRelay
