import RebateRelay.Proofs.Supervisor.Cancellation

/-!
# Stages of the loops

A loop waits for its tick, makes a round, or has ended, be it by itself or because its task has
broken down. Of all that can happen to the relay, only a tick that is seen begins a round, and only
the verdict on a round sends a loop back to waiting. `Affects` lists what a move can be to a loop;
what a run without ticks can be to it follows.
-/

namespace RebateRelay

namespace Loop

theorem Phase.ne_busy_of_idle {phase : Phase} (idle : phase = .idle) : phase ≠ .busy := by
  rw [idle]
  nofun

/-- What a step of a loop can be: nothing, the beginning of a round, its end, or the end of the
loop. -/
theorem step_cases (l : Loop) (input : Input) :
    l.step input = l ∨
    (∃ now, input = .tick now ∧ l.phase = .idle ∧ l.step input = ⟨l.ticker.tick now, .busy⟩) ∨
    (∃ verdict, input = .finished verdict ∧ l.phase = .busy ∧
      l.step input = { l with phase := .idle }) ∨
    l.step input = { l with phase := .ended } := by
  cases input with
  | tick now =>
      by_cases idle : l.phase = .idle
      · exact Or.inr (Or.inl ⟨now, rfl, idle, if_pos idle⟩)
      · exact Or.inl (if_neg idle)
  | shutdown =>
      by_cases idle : l.phase = .idle
      · exact Or.inr (Or.inr (Or.inr (if_pos idle)))
      · exact Or.inl (if_neg idle)
  | finished verdict =>
      by_cases busy : l.phase = .busy
      · rw [step, if_pos busy]
        cases verdict.goesOn with
        | true => exact Or.inr (Or.inr (Or.inl ⟨verdict, rfl, busy, rfl⟩))
        | false => exact Or.inr (Or.inr (Or.inr rfl))
      · exact Or.inl (if_neg busy)

end Loop

namespace Supervision

variable {s s' s'' : Supervision} {kind other : LoopKind} {move : Move}

/-- What a loop is doing. It has ended when its task has, in whatever way. -/
def stage (s : Supervision) (kind : LoopKind) : Loop.Phase :=
  if .loop kind ∈ s.tasks then .ended else (s.loops kind).phase

theorem stage_of_absent (absent : .loop kind ∉ s.tasks) : s.stage kind = (s.loops kind).phase :=
  if_neg absent

theorem stage_of_present (present : .loop kind ∈ s.tasks) : s.stage kind = .ended :=
  if_pos present

theorem IsRelaying.stage_eq (h : s.IsRelaying) : s.stage .relay = .busy :=
  (stage_of_absent h.2).trans h.1

theorem stage_eq_idle_iff :
    s.stage kind = .idle ↔ (s.loops kind).phase = .idle ∧ .loop kind ∉ s.tasks := by
  by_cases present : .loop kind ∈ s.tasks
  · simp [stage_of_present present, present]
  · simp [stage_of_absent present, present]

/-- The move is a tick that a loop sees. -/
def Move.begins (kind : LoopKind) : Move → Bool
  | .tick other _ => decide (other = kind)
  | _ => false

/-- The move is the end of a round of a loop. -/
def Move.concludes : LoopKind → Move → Bool
  | .intake, .pass .. | .relay, .batch _ => true
  | _, _ => false

/-- The move begins a round of some loop or ends one. -/
def Move.isRound : Move → Bool
  | .tick .. | .pass .. | .batch _ => true
  | _ => false

theorem Move.no_round (other : move.isRound = false) (kind : LoopKind) :
    move.begins kind = false ∧ move.concludes kind = false := by
  cases move with
  | tick | pass | batch => cases other
  | _ => cases kind <;> exact ⟨rfl, rfl⟩

/-- What a move can be to a loop. -/
inductive Affects (kind : LoopKind) (move : Move) (s s' : Supervision) : Prop
  /-- The loop begins a round. -/
  | begins (now : Instant) (tick : move = .tick kind now) (idle : s.stage kind = .idle)
    (busy : s'.stage kind = .busy)
    (ticker : (s'.loops kind).ticker = (s.loops kind).ticker.tick now)
  /-- The round is over, and the loop goes on. -/
  | returns (concludes : move.concludes kind = true) (busy : s.stage kind = .busy)
    (idle : s'.stage kind = .idle) (ticker : (s'.loops kind).ticker = (s.loops kind).ticker)
  /-- The loop has ended. -/
  | ends (ended : s'.stage kind = .ended)
    (ticker : (s'.loops kind).ticker = (s.loops kind).ticker)
  /-- The move is nothing to the loop. -/
  | stays (stage : s'.stage kind = s.stage kind)
    (ticker : (s'.loops kind).ticker = (s.loops kind).ticker)

/-- What leaves a loop and its task as they are is nothing to it. -/
theorem Affects.of_same (loops : s'.loops kind = s.loops kind)
    (tasks : .loop kind ∈ s'.tasks ↔ .loop kind ∈ s.tasks) : Affects kind move s s' := by
  refine .stays ?_ (congrArg Loop.ticker loops)
  simp only [stage, tasks, loops]

theorem affects_finish (s : Supervision) (kind : LoopKind) (move : Move) (task : Task)
    (how : TaskEnd) : Affects kind move s (s.finish task how) := by
  unfold finish
  split
  case isTrue => exact .of_same rfl Iff.rfl
  case isFalse =>
    by_cases own : task = .loop kind
    · refine .ends (stage_of_present ?_) rfl
      simp [tasks, own]
    · refine .of_same rfl ?_
      simp [tasks, Ne.symm own]

/-- What one loop does is nothing to the other. -/
theorem affects_advance_of_ne (different : kind ≠ other) (input : Loop.Input) :
    Affects kind move s (s.advance other input) := by
  obtain ⟨-, nothing⟩ | ⟨-, l, -, ⟨-, goes⟩ | ⟨-, returns⟩⟩ := s.advance_cases other input
  · rw [nothing]
    exact .of_same rfl Iff.rfl
  · rw [goes]
    exact .of_same (Function.update_of_ne different _ _) Iff.rfl
  · rw [returns]
    refine .of_same (Function.update_of_ne different _ _) ?_
    simp [tasks, different]

/-- A loop that is still going makes its step. -/
theorem advance_self (absent : .loop kind ∉ s.tasks) (input : Loop.Input) :
    (s.advance kind input).stage kind = ((s.loops kind).step input).phase ∧
      (s.advance kind input).loops kind = (s.loops kind).step input := by
  obtain ⟨present, -⟩ | ⟨-, l, step, ⟨-, goes⟩ | ⟨ended, returns⟩⟩ := s.advance_cases kind input
  · exact absurd present absent
  · rw [goes, ← step]
    have next : Function.update s.loops kind l kind = l := Function.update_self _ _ _
    exact ⟨(if_neg absent).trans (congrArg Loop.phase next), next⟩
  · rw [returns, ← step, ended]
    exact ⟨stage_of_present (by simp [tasks]), Function.update_self _ _ _⟩

theorem affects_advance {input : Loop.Input}
    (tick : ∀ now, input = .tick now → move = .tick kind now)
    (finished : ∀ verdict, input = .finished verdict → move.concludes kind = true) :
    Affects kind move s (s.advance kind input) := by
  rcases em (.loop kind ∈ s.tasks) with present | absent
  · rw [advance, if_pos present]
    exact .of_same rfl Iff.rfl
  · obtain ⟨stage, loops⟩ := advance_self absent input
    have before := stage_of_absent absent
    rcases (s.loops kind).step_cases input with
      same | ⟨now, isTick, idle, begins⟩ | ⟨verdict, isEnd, busy, returns⟩ | ends
    · rw [same] at stage loops
      exact .stays (stage.trans before.symm) (congrArg Loop.ticker loops)
    · rw [begins] at stage loops
      exact .begins now (tick now isTick) (before.trans idle) stage (congrArg Loop.ticker loops)
    · rw [returns] at stage loops
      exact .returns (finished verdict isEnd) (before.trans busy) stage (by rw [loops])
    · rw [ends] at stage loops
      exact .ends stage (by rw [loops])

theorem affects_after (s : Supervision) (kind : LoopKind) (move : Move) :
    Affects kind move s (s.after move) := by
  cases move with
  | finish task how => exact affects_finish s kind _ task how
  | tick other now =>
      by_cases own : kind = other
      · subst own
        refine affects_advance (fun _ same => ?_) fun _ same => by cases same
        cases same
        rfl
      · exact affects_advance_of_ne own _
  | heed other =>
      simp only [after]
      split
      · by_cases own : kind = other
        · subst own
          exact affects_advance (fun _ same => by cases same) fun _ same => by cases same
        · exact affects_advance_of_ne own _
      · exact .of_same rfl Iff.rfl
  | pass bridge rfq =>
      cases kind with
      | intake => exact affects_advance (fun _ same => by cases same) fun _ _ => rfl
      | relay => exact affects_advance_of_ne (by decide) _
  | batch result =>
      cases kind with
      | intake => exact affects_advance_of_ne (by decide) _
      | relay => exact affects_advance (fun _ same => by cases same) fun _ _ => rfl
  | signal => exact .of_same rfl Iff.rfl
  | notice =>
      refine .of_same ?_ (by simp only [tasks, after, ended_notice])
      simp only [after, notice]
      split <;> rfl

/-- A loop begins no round. -/
structure BeginsNone (kind : LoopKind) (s s' : Supervision) : Prop where
  ticker : (s'.loops kind).ticker = (s.loops kind).ticker
  stage : s'.stage kind = s.stage kind ∨ s'.stage kind = .ended ∨
    s.stage kind = .busy ∧ s'.stage kind = .idle

/-- A loop begins no round, and a round that is under way goes on unless the loop ends. -/
structure GoesOn (kind : LoopKind) (s s' : Supervision) : Prop where
  ticker : (s'.loops kind).ticker = (s.loops kind).ticker
  stage : s'.stage kind = s.stage kind ∨ s'.stage kind = .ended

theorem BeginsNone.refl (kind : LoopKind) (s : Supervision) : BeginsNone kind s s :=
  ⟨rfl, Or.inl rfl⟩

theorem GoesOn.refl (kind : LoopKind) (s : Supervision) : GoesOn kind s s := ⟨rfl, Or.inl rfl⟩

theorem BeginsNone.trans (h : BeginsNone kind s s') (h' : BeginsNone kind s' s'') :
    BeginsNone kind s s'' := by
  refine ⟨h'.ticker.trans h.ticker, ?_⟩
  rcases h'.stage with same | ended | ⟨busy, idle⟩
  · exact same ▸ h.stage
  · exact Or.inr (Or.inl ended)
  · rcases h.stage with same | ended | ⟨-, idle'⟩
    · exact Or.inr (Or.inr ⟨same ▸ busy, idle⟩)
    · rw [busy] at ended
      cases ended
    · rw [busy] at idle'
      cases idle'

theorem GoesOn.trans (h : GoesOn kind s s') (h' : GoesOn kind s' s'') : GoesOn kind s s'' := by
  refine ⟨h'.ticker.trans h.ticker, ?_⟩
  rcases h'.stage with same | ended
  · exact same ▸ h.stage
  · exact Or.inr ended

/-- A loop that is found busy is so with the round that it had begun. -/
theorem BeginsNone.busy_of_busy (h : BeginsNone kind s s') (busy : s'.stage kind = .busy) :
    s.stage kind = .busy := by
  rcases h.stage with same | ended | ⟨before, -⟩
  · exact same ▸ busy
  · rw [busy] at ended
    cases ended
  · exact before

/-- A loop that is found waiting has not ended before. -/
theorem BeginsNone.idle_or_busy (h : BeginsNone kind s s') (idle : s'.stage kind = .idle) :
    s.stage kind = .idle ∨ s.stage kind = .busy := by
  rcases h.stage with same | ended | ⟨before, -⟩
  · exact Or.inl (same ▸ idle)
  · rw [idle] at ended
    cases ended
  · exact Or.inr before

theorem GoesOn.idle_of_idle (h : GoesOn kind s s') (idle : s'.stage kind = .idle) :
    s.stage kind = .idle := by
  rcases h.stage with same | ended
  · exact same ▸ idle
  · rw [idle] at ended
    cases ended

theorem beginsNone_after (s : Supervision) (noTick : move.begins kind = false) :
    BeginsNone kind s (s.after move) := by
  cases affects_after s kind move with
  | begins now tick => simp [tick, Move.begins] at noTick
  | returns _ busy idle ticker => exact ⟨ticker, Or.inr (Or.inr ⟨busy, idle⟩)⟩
  | ends ended ticker => exact ⟨ticker, Or.inr (Or.inl ended)⟩
  | stays stage ticker => exact ⟨ticker, Or.inl stage⟩

theorem goesOn_after (s : Supervision) (noTick : move.begins kind = false)
    (noEnd : move.concludes kind = false) : GoesOn kind s (s.after move) := by
  cases affects_after s kind move with
  | begins now tick => simp [tick, Move.begins] at noTick
  | returns concludes =>
      rw [concludes] at noEnd
      cases noEnd
  | ends ended ticker => exact ⟨ticker, Or.inr ended⟩
  | stays stage ticker => exact ⟨ticker, Or.inl stage⟩

theorem beginsNone_run_batch (s : Supervision) (kind : LoopKind)
    (results : List (Except RelayError BatchSummary)) :
    BeginsNone kind s (s.run (results.map .batch)) := by
  induction results generalizing s with
  | nil => exact .refl kind s
  | cons result results ih => exact (beginsNone_after s rfl).trans (ih _)

/-- What becomes of batches is nothing to the intake loop. -/
theorem goesOn_run_batch (s : Supervision) (results : List (Except RelayError BatchSummary)) :
    GoesOn .intake s (s.run (results.map .batch)) := by
  induction results generalizing s with
  | nil => exact .refl .intake s
  | cons result results ih => exact (goesOn_after s rfl rfl).trans (ih _)

/-- A tick that is seen by a loop which waits begins a round. -/
theorem tick_of_idle (idle : s.stage kind = .idle) (now : Instant) :
    (s.after (.tick kind now)).stage kind = .busy ∧
      ((s.after (.tick kind now)).loops kind).ticker = (s.loops kind).ticker.tick now := by
  obtain ⟨phase, absent⟩ := stage_eq_idle_iff.mp idle
  obtain ⟨stage, loops⟩ := advance_self absent (.tick now)
  have step : (s.loops kind).step (.tick now) = ⟨(s.loops kind).ticker.tick now, .busy⟩ :=
    if_pos phase
  rw [step] at stage loops
  exact ⟨stage, congrArg Loop.ticker loops⟩

end Supervision

end RebateRelay
