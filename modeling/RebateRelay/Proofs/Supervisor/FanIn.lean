import Mathlib.Data.List.Nodup
import Mathlib.Data.List.Perm.Subperm
import RebateRelay.Supervisor.Loop

/-!
# The end of the relay

The submitter, the two loops and the watch go on side by side. Tasks may end in any order and in any
way, and any task may break down at any moment; shutdown may be signalled from outside. The watch
takes note of the ends in the order in which they came.

The statements say what the watch makes of the ends, whatever they are, and which ends the loops
themselves can come to. Of the rounds of a loop nothing is assumed but that none is cancelled before
shutdown is signalled.
-/

namespace RebateRelay

theorem RelayError.isCancellation_iff {e : RelayError} :
    e.isCancellation = true ↔ e = .cancelled ∨ e = .analytics .cancelled := by
  cases e with
  | analytics e => cases e <;> simp [isCancellation]
  | _ => simp [isCancellation]

namespace TaskEnd

/-- The task has failed: with an error that is not one of the two forms of a cancellation, or by
breaking down. -/
inductive Fails : TaskEnd → RelayError → Prop
  | returned (e : RelayError) (own : e ≠ .cancelled) (polled : e ≠ .analytics .cancelled) :
    Fails (.returned (.error e)) e
  | broke (reason : String) : Fails (.broke reason) (.task reason)

theorem failure?_eq_some_iff {t : TaskEnd} {e : RelayError} : t.failure? = some e ↔ t.Fails e := by
  constructor
  · intro fails
    match t with
    | .returned (.ok _) => cases fails
    | .broke reason =>
        cases fails
        exact .broke reason
    | .returned (.error e') =>
        simp only [failure?] at fails
        split at fails
        · cases fails
        · rename_i genuine
          cases fails
          rw [RelayError.isCancellation_iff, not_or] at genuine
          exact .returned e genuine.1 genuine.2
  · rintro (⟨e, own, polled⟩ | reason)
    · have genuine : ¬e.isCancellation = true := by
        rw [RelayError.isCancellation_iff, not_or]
        exact ⟨own, polled⟩
      exact if_neg genuine
    · rfl

/-- The end at a place is the first one that is a failure. -/
def FailsFirst (ends : List TaskEnd) (place : Nat) (e : RelayError) : Prop :=
  (∃ t, ends[place]? = some t ∧ t.Fails e) ∧
    ∀ earlier < place, ∀ t, ends[earlier]? = some t → ∀ e', ¬t.Fails e'

section

variable {t : TaskEnd} {ends : List TaskEnd} {place : Nat} {e : RelayError}

theorem failsFirst_cons_zero : FailsFirst (t :: ends) 0 e ↔ t.failure? = some e := by
  simp [FailsFirst, failure?_eq_some_iff]

theorem failsFirst_cons_succ :
    FailsFirst (t :: ends) (place + 1) e ↔ t.failure? = none ∧ FailsFirst ends place e := by
  simp only [FailsFirst, List.getElem?_cons_succ, Nat.forall_lt_succ_left,
    List.getElem?_cons_zero, Option.some.injEq, forall_eq', Option.eq_none_iff_forall_ne_some,
    ne_eq, failure?_eq_some_iff]
  exact and_left_comm

/-- The watch looks for the first failure. -/
theorem findIdx?_failure?_eq_some_iff :
    ends.findIdx? (fun t => t.failure?.isSome) = some place ↔ ∃ e, FailsFirst ends place e := by
  induction ends generalizing place with
  | nil => simp [FailsFirst]
  | cons t ends ih =>
      cases place with
      | zero => cases h : t.failure? <;> simp [List.findIdx?_cons, failsFirst_cons_zero, h]
      | succ place =>
          cases h : t.failure? <;> simp [List.findIdx?_cons, failsFirst_cons_succ, h, ih]

theorem findSome?_failure?_eq_some_iff :
    ends.findSome? failure? = some e ↔ ∃ place, FailsFirst ends place e := by
  induction ends with
  | nil => simp [FailsFirst]
  | cons t ends ih =>
      rw [← Nat.or_exists_add_one]
      cases h : t.failure? <;>
        simp [failsFirst_cons_zero, failsFirst_cons_succ, h, ih]

end

end TaskEnd

namespace Watch

variable {w : Watch} {t : TaskEnd}

theorem watch_joined : (w.joined t).watch = ⟨w.running - 1, w.failure.or t.failure?⟩ := by
  unfold joined
  cases t.failure? <;> cases w.failure <;> simp

theorem shutdown_joined : (w.joined t).shutdown = (w.failure.isNone && t.failure?.isSome) := by
  unfold joined
  cases t.failure? <;> cases w.failure <;> simp

end Watch

/-- A result is that of something that was cancelled. -/
def IsCancelled {β : Type} : Except RelayError β → Prop
  | .ok _ => False
  | .error e => e = .cancelled ∨ e = .analytics .cancelled

/-- A pass ends its loop only if one of its cycles was cancelled. -/
theorem exists_of_goesOn_passVerdict {outcomes : List (QueryKind × Except RelayError IngestSummary)}
    (ends : (passVerdict outcomes).goesOn = false) :
    ∃ outcome ∈ outcomes, IsCancelled outcome.2 := by
  induction outcomes with
  | nil => cases ends
  | cons outcome outcomes ih =>
      rw [List.exists_mem_cons_iff]
      obtain ⟨kind, e | summary⟩ := outcome
      · refine (em e.isCancellation).imp RelayError.isCancellation_iff.mp fun genuine => ih ?_
        simpa [passVerdict, genuine] using ends
      · exact Or.inr (ih ends)

theorem goesOn_batchVerdict {result : Except RelayError BatchSummary}
    (ends : (batchVerdict result).goesOn = false) : IsCancelled result := by
  cases result with
  | ok _ => cases ends
  | error e =>
      by_cases cancelled : e.isCancellation = true
      · exact RelayError.isCancellation_iff.mp cancelled
      · simp [batchVerdict, cancelled] at ends

/-- A loop ends because it sees shutdown, or because of the verdict on a round. -/
theorem Loop.cases_of_ended {l : Loop} {input : Loop.Input} (going : l.phase ≠ .ended)
    (ended : (l.step input).phase = .ended) :
    input = .shutdown ∨ ∃ verdict, input = .finished verdict ∧ verdict.goesOn = false := by
  cases input with
  | shutdown => exact Or.inl rfl
  | tick now =>
      simp only [step] at ended
      split at ended
      · cases ended
      · exact absurd ended going
  | finished verdict =>
      refine Or.inr ⟨verdict, rfl, ?_⟩
      by_contra goes
      simp only [step] at ended
      split at ended
      · simp [goes] at ended
      · exact absurd ended going

/-- When a round is over, its loop is between two rounds, or it has ended. -/
theorem Loop.phase_step_finished (l : Loop) (verdict : Verdict) :
    (l.step (.finished verdict)).phase = .idle ∨ (l.step (.finished verdict)).phase = .ended := by
  simp only [step]
  by_cases busy : l.phase = .busy
  · rw [if_pos busy]
    cases verdict.goesOn
    · exact Or.inr rfl
    · exact Or.inl rfl
  · rw [if_neg busy]
    cases phase : l.phase with
    | busy => exact absurd phase busy
    | idle => exact Or.inl rfl
    | ended => exact Or.inr rfl

/-- The loops of the relay. -/
inductive LoopKind where
  | intake
  | relay
  deriving DecidableEq, Repr

/-- The tasks of the relay. -/
inductive Task where
  | submitter
  | loop (kind : LoopKind)
  deriving DecidableEq, Repr

/-- All tasks of the relay. -/
def Task.all : List Task := [.submitter, .loop .intake, .loop .relay]

theorem Task.mem_all (task : Task) : task ∈ all := by
  rcases task with _ | ⟨_ | _⟩ <;> decide

/-- The relay under way. -/
structure Supervision where
  loops : LoopKind → Loop
  /-- How tasks have ended, in order. -/
  ended : List (Task × TaskEnd) := []
  watch : Watch := {}
  /-- Of how many ends the watch has taken note. -/
  noticed : Nat := 0
  /-- Shutdown has been signalled. -/
  stopped : Bool := false
  /-- The places of the ends at which the watch has signalled it. -/
  triggers : List Nat := []

namespace Supervision

/-- What happens to the relay. -/
inductive Move where
  /-- A task ends, in whatever way. -/
  | finish (task : Task) (how : TaskEnd)
  /-- A loop sees a tick. -/
  | tick (kind : LoopKind) (now : Instant)
  /-- A loop sees shutdown, if it has been signalled. -/
  | heed (kind : LoopKind)
  /-- The two cycles of the intake loop are over. -/
  | pass (bridge rfq : Except RelayError IngestSummary)
  /-- The batch of the relay loop is over. -/
  | batch (result : Except RelayError BatchSummary)
  /-- Shutdown is signalled from outside. -/
  | signal
  /-- The watch takes note of the next end. -/
  | notice

/-- The tasks that have ended. -/
def tasks (s : Supervision) : List Task := s.ended.map Prod.fst

/-- The ends of the tasks, in order. -/
def ends (s : Supervision) : List TaskEnd := s.ended.map Prod.snd

/-- The ends of which the watch has taken note. -/
def seen (s : Supervision) : List TaskEnd := s.ends.take s.noticed

/-- A task that is still going ends. -/
def finish (s : Supervision) (task : Task) (how : TaskEnd) : Supervision :=
  if task ∈ s.tasks then s else { s with ended := s.ended ++ [(task, how)] }

/-- A loop that is still going makes a step, and may end with it. -/
def advance (s : Supervision) (kind : LoopKind) (input : Loop.Input) : Supervision :=
  if .loop kind ∈ s.tasks then s
  else
    let l := (s.loops kind).step input
    let s := { s with loops := Function.update s.loops kind l }
    match l.taskEnd? with
    | none => s
    | some how => s.finish (.loop kind) how

/-- The watch takes note of the next end, if there is one. -/
def notice (s : Supervision) : Supervision :=
  match s.ends[s.noticed]? with
  | none => s
  | some how =>
    let step := s.watch.joined how
    { s with
      watch := step.watch
      noticed := s.noticed + 1
      stopped := s.stopped || step.shutdown
      triggers := s.triggers ++ if step.shutdown then [s.noticed] else [] }

/-- The relay after a move. -/
def after (s : Supervision) : Move → Supervision
  | .finish task how => s.finish task how
  | .tick kind now => s.advance kind (.tick now)
  | .heed kind => if s.stopped then s.advance kind .shutdown else s
  | .pass bridge rfq =>
    s.advance .intake (.finished (passVerdict [(.bridge, bridge), (.rfq, rfq)]))
  | .batch result => s.advance .relay (.finished (batchVerdict result))
  | .signal => { s with stopped := true }
  | .notice => s.notice

/-- The relay after moves, one after the other. -/
def run (s : Supervision) (moves : List Move) : Supervision := moves.foldl after s

/-- The relay at its start. -/
def start (ingestPeriod relayPeriod : Duration) (now : Instant) : Supervision where
  loops
    | .intake => .intake ingestPeriod now
    | .relay => .relay relayPeriod now

/-- The loops come to their end by themselves, or break down, and a round is cancelled only after
shutdown has been signalled. -/
def Move.Fits (s : Supervision) : Move → Prop
  | .finish (.loop _) (.returned _) => False
  | .pass bridge rfq => IsCancelled bridge ∨ IsCancelled rfq → s.stopped = true
  | .batch result => IsCancelled result → s.stopped = true
  | _ => True

/-- Each of the moves is as the loops make it. -/
def Heeds : Supervision → List Move → Prop
  | _, [] => True
  | s, move :: moves => move.Fits s ∧ Heeds (s.after move) moves

/-- What holds of the relay after moves. -/
structure Sound (done : List Move) (s : Supervision) : Prop where
  distinct : s.tasks.Nodup
  /-- A loop in its last phase has ended as a task. -/
  going : ∀ kind, .loop kind ∉ s.tasks → (s.loops kind).phase ≠ .ended
  noticed : s.noticed ≤ s.ended.length
  running : s.watch.running = 3 - s.noticed
  /-- The watch keeps the first failure, and has signalled at it. -/
  failure : s.watch.failure = s.seen.findSome? TaskEnd.failure?
  triggers : s.triggers = (s.seen.findIdx? fun how => how.failure?.isSome).toList
  stopped : s.stopped = true ↔ .signal ∈ done ∨ s.triggers ≠ []

section

variable {done : List Move} {s : Supervision}

/-- What a loop can do: nothing once it has ended, go on, or return. -/
theorem advance_cases (s : Supervision) (kind : LoopKind) (input : Loop.Input) :
    .loop kind ∈ s.tasks ∧ s.advance kind input = s ∨
      .loop kind ∉ s.tasks ∧ ∃ l, l = (s.loops kind).step input ∧
        (l.phase ≠ .ended ∧
            s.advance kind input = { s with loops := Function.update s.loops kind l } ∨
          l.phase = .ended ∧
            s.advance kind input = { s with
              loops := Function.update s.loops kind l
              ended := s.ended ++ [(.loop kind, .returned (.ok ()))] }) := by
  by_cases returned : .loop kind ∈ s.tasks
  · exact Or.inl ⟨returned, if_pos returned⟩
  · refine Or.inr ⟨returned, _, rfl, ?_⟩
    rw [advance, if_neg returned]
    by_cases ended : ((s.loops kind).step input).phase = .ended
    · refine Or.inr ⟨ended, ?_⟩
      simp only [Loop.taskEnd?, ended, if_true]
      exact if_neg returned
    · exact Or.inl ⟨ended, by simp only [Loop.taskEnd?, ended, if_false]⟩

theorem notice_of_some {how : TaskEnd} (next : s.ends[s.noticed]? = some how) :
    s.notice = { s with
      watch := ⟨s.watch.running - 1, s.watch.failure.or how.failure?⟩
      noticed := s.noticed + 1
      stopped := s.stopped || s.watch.failure.isNone && how.failure?.isSome
      triggers := s.triggers ++
        if s.watch.failure.isNone && how.failure?.isSome then [s.noticed] else [] } := by
  simp only [notice, next, Watch.watch_joined, Watch.shutdown_joined]

theorem ended_notice : s.notice.ended = s.ended := by
  unfold notice
  split <;> rfl

theorem noticed_notice (h : s.noticed ≤ s.ended.length) :
    s.notice.noticed = min (s.noticed + 1) s.ended.length := by
  have length : s.ends.length = s.ended.length := List.length_map _
  cases next : s.ends[s.noticed]? with
  | none =>
      have full := List.getElem?_eq_none_iff.mp next
      simp only [notice, next]
      omega
  | some how =>
      have bound := (List.getElem?_eq_some_iff.mp next).1
      simp only [notice_of_some next]
      omega

theorem Sound.start {ingestPeriod relayPeriod : Duration} {now : Instant} :
    Sound [] (start ingestPeriod relayPeriod now) where
  distinct := List.nodup_nil
  going kind _ := by cases kind <;> nofun
  noticed := Nat.le_refl 0
  running := rfl
  failure := rfl
  triggers := rfl
  stopped := by simp [Supervision.start]

namespace Sound

/-- One more task has ended. -/
theorem concat (h : Sound done s) {task : Task} {how : TaskEnd} (new : task ∉ s.tasks)
    {loops : LoopKind → Loop}
    (going : ∀ kind, .loop kind ≠ task → .loop kind ∉ s.tasks → (loops kind).phase ≠ .ended) :
    Sound done { s with loops, ended := s.ended ++ [(task, how)] } := by
  have tasks : tasks { s with loops, ended := s.ended ++ [(task, how)] } = s.tasks ++ [task] := by
    simp [Supervision.tasks]
  have seen : seen { s with loops, ended := s.ended ++ [(task, how)] } = s.seen := by
    simp only [Supervision.seen, ends, List.map_append]
    exact List.take_append_of_le_length (by simpa using h.noticed)
  refine ⟨?distinct, ?going, ?noticed, h.running, seen ▸ h.failure, seen ▸ h.triggers, h.stopped⟩
  case distinct =>
    rw [tasks, ← List.concat_eq_append]
    exact h.distinct.concat new
  case going =>
    intro kind absent
    rw [tasks, List.mem_append, List.mem_singleton, not_or] at absent
    exact going kind absent.2 absent.1
  case noticed =>
    rw [List.length_append]
    exact Nat.le_add_right_of_le h.noticed

theorem finish (h : Sound done s) {task : Task} {how : TaskEnd} :
    Sound done (s.finish task how) := by
  unfold Supervision.finish
  split
  · exact h
  · rename_i new
    exact h.concat new fun kind _ absent => h.going kind absent

theorem advance (h : Sound done s) {kind : LoopKind} {input : Loop.Input} :
    Sound done (s.advance kind input) := by
  have others (l : Loop) (other : LoopKind) (different : other ≠ kind)
      (absent : .loop other ∉ s.tasks) :
      (Function.update s.loops kind l other).phase ≠ .ended := by
    rw [Function.update_of_ne different]
    exact h.going other absent
  obtain ⟨-, same⟩ | ⟨new, l, -, ⟨going, goes⟩ | ⟨-, returns⟩⟩ := s.advance_cases kind input
  · rwa [same]
  · rw [goes]
    refine { h with going := fun other absent => ?_ }
    by_cases same : other = kind
    · subst same
      simpa using going
    · exact others l other same absent
  · rw [returns]
    exact h.concat new fun other different =>
      others l other fun same => different (congrArg Task.loop same)

/-- The watch signals at the first failure, and at no other end. -/
theorem notice (h : Sound done s) : Sound done s.notice := by
  cases next : s.ends[s.noticed]? with
  | none => rwa [Supervision.notice, next]
  | some how =>
      have bound : s.noticed < s.ends.length := (List.getElem?_eq_some_iff.mp next).1
      have length : s.seen.length = s.noticed := List.length_take_of_le (Nat.le_of_lt bound)
      have seen : s.ends.take (s.noticed + 1) = s.seen ++ [how] := by
        rw [List.take_add_one, next]
        rfl
      have known : s.watch.failure.isNone =
          (s.seen.findIdx? fun how => how.failure?.isSome).isNone := by
        rw [← Option.not_isSome, ← Option.not_isSome, h.failure, List.isSome_findSome?,
          List.findIdx?_isSome]
      rw [notice_of_some next]
      refine ⟨h.distinct, h.going, ?noticed, ?running, ?failure, ?triggers, ?stopped⟩
      case noticed => exact Nat.lt_of_lt_of_eq bound (List.length_map _)
      case running => simp [h.running, Nat.sub_sub]
      case failure =>
        refine Eq.trans ?_ (congrArg _ seen.symm)
        simp [List.findSome?_append, h.failure]
      case triggers =>
        refine Eq.trans ?_ (congrArg (fun seen => (List.findIdx? _ seen).toList) seen.symm)
        simp only [List.findIdx?_append, length, h.triggers, known]
        cases s.seen.findIdx? fun how => how.failure?.isSome <;>
          cases fails : how.failure? <;> simp [fails]
      case stopped =>
        rw [Bool.or_eq_true, h.stopped, or_assoc]
        cases s.watch.failure.isNone && how.failure?.isSome <;> simp

theorem of_done (h : Sound done s) {move : Move} (own : move ≠ .signal) :
    Sound (done ++ [move]) s :=
  { h with stopped := by simp [h.stopped, own.symm] }

theorem after (h : Sound done s) (move : Move) : Sound (done ++ [move]) (s.after move) := by
  cases move with
  | signal => exact { h with stopped := by simp [Supervision.after] }
  | finish => exact (h.of_done (by nofun)).finish
  | tick => exact (h.of_done (by nofun)).advance
  | heed =>
      simp only [Supervision.after]
      split
      · exact (h.of_done (by nofun)).advance
      · exact h.of_done (by nofun)
  | pass => exact (h.of_done (by nofun)).advance
  | batch => exact (h.of_done (by nofun)).advance
  | notice => exact (h.of_done (by nofun)).notice

theorem run (h : Sound done s) (moves : List Move) : Sound (done ++ moves) (s.run moves) := by
  induction moves generalizing done s with
  | nil => rwa [List.append_nil]
  | cons move moves ih =>
      rw [List.append_cons]
      exact ih (h.after move)

theorem length_ended_le (h : Sound done s) : s.ended.length ≤ 3 := by
  have within : s.tasks.Subperm Task.all :=
    List.subperm_of_subset h.distinct fun task _ => task.mem_all
  simpa [Supervision.tasks, Task.all] using within.length_le

theorem mem_tasks_iff (h : Sound done s) : (∀ task, task ∈ s.tasks) ↔ s.ended.length = 3 := by
  have within : s.tasks.Subperm Task.all :=
    List.subperm_of_subset h.distinct fun task _ => task.mem_all
  have length : s.tasks.length = s.ended.length := List.length_map _
  constructor
  · intro all
    have others : Task.all.Subperm s.tasks :=
      List.subperm_of_subset (by decide) fun task _ => all task
    exact Nat.le_antisymm h.length_ended_le (length ▸ others.length_le)
  · intro three task
    exact (within.perm_of_length_le (length ▸ Nat.le_of_eq three.symm)).mem_iff.mpr task.mem_all

/-- The watch is over when it has taken note of the ends of all tasks. -/
theorem isOver_iff (h : Sound done s) : s.watch.isOver = true ↔ s.noticed = 3 := by
  have bound := Nat.le_trans h.noticed h.length_ended_le
  simp only [Watch.isOver, h.running, beq_iff_eq]
  omega

theorem all_of_isOver (h : Sound done s) (isOver : s.watch.isOver = true) :
    (∀ task, task ∈ s.tasks) ∧ s.seen = s.ends := by
  have three : s.ended.length = 3 :=
    Nat.le_antisymm h.length_ended_le (h.isOver_iff.mp isOver ▸ h.noticed)
  refine ⟨h.mem_tasks_iff.mpr three, List.take_of_length_le ?_⟩
  simp [ends, three, h.isOver_iff.mp isOver]

theorem result_eq_error_iff (h : Sound done s) {e : RelayError} :
    s.watch.result = .error e ↔ ∃ place, TaskEnd.FailsFirst s.seen place e := by
  rw [← TaskEnd.findSome?_failure?_eq_some_iff, ← h.failure, Watch.result]
  cases s.watch.failure <;> simp

theorem result_eq_ok_iff (h : Sound done s) :
    s.watch.result = .ok () ↔ ∀ how ∈ s.seen, ∀ e, ¬how.Fails e := by
  have failure : s.watch.result = .ok () ↔ s.seen.findSome? TaskEnd.failure? = none := by
    rw [← h.failure, Watch.result]
    cases s.watch.failure <;> simp
  rw [failure, List.findSome?_eq_none_iff]
  simp only [Option.eq_none_iff_forall_ne_some, ne_eq, TaskEnd.failure?_eq_some_iff]

theorem mem_triggers_iff (h : Sound done s) {place : Nat} :
    place ∈ s.triggers ↔ ∃ e, TaskEnd.FailsFirst s.seen place e := by
  rw [← TaskEnd.findIdx?_failure?_eq_some_iff, h.triggers, Option.mem_toList]

theorem length_triggers_le (h : Sound done s) : s.triggers.length ≤ 1 := by
  rw [h.triggers]
  exact Option.length_toList_le

/-- Once all tasks have ended, the watch comes to its end. -/
theorem isOver_of_all (h : Sound done s) (all : ∀ task, task ∈ s.tasks) :
    (s.run (.replicate 3 .notice)).watch.isOver = true := by
  have three := h.mem_tasks_iff.mp all
  rw [(h.run _).isOver_iff]
  change s.notice.notice.notice.noticed = 3
  rw [noticed_notice h.notice.notice.noticed, noticed_notice h.notice.noticed,
    noticed_notice h.noticed]
  simp only [ended_notice, three]
  omega

end Sound

theorem stopped_advance {kind : LoopKind} {input : Loop.Input} :
    (s.advance kind input).stopped = s.stopped := by
  obtain ⟨-, same⟩ | ⟨-, l, -, ⟨-, goes⟩ | ⟨-, returns⟩⟩ := s.advance_cases kind input
  · rw [same]
  · rw [goes]
  · rw [returns]

/-- A loop that sees the signal when its round is over ends then, if it has not done so before. -/
theorem mem_tasks_heed (stopped : s.stopped = true) (kind : LoopKind) (verdict : Verdict) :
    .loop kind ∈ ((s.advance kind (.finished verdict)).after (.heed kind)).tasks := by
  rw [after, if_pos (stopped_advance.trans stopped)]
  generalize finished : s.advance kind (.finished verdict) = s'
  obtain ⟨ended, same⟩ | ⟨new, l, step, ⟨going, -⟩ | ⟨-, returns⟩⟩ :=
    s'.advance_cases kind .shutdown
  · rwa [same]
  · exfalso
    obtain ⟨ended, same⟩ | ⟨-, l', step', ⟨going', goes⟩ | ⟨-, returns⟩⟩ :=
      s.advance_cases kind (.finished verdict)
    · rw [← finished, same] at new
      exact new ended
    · have idle := ((s.loops kind).phase_step_finished verdict).resolve_right (step' ▸ going')
      have loop : s'.loops kind = l' := by
        rw [← finished, goes]
        exact Function.update_self _ _ _
      rw [loop, step', Loop.step, if_pos idle] at step
      exact going (step ▸ rfl)
    · rw [← finished, returns] at new
      simp [tasks] at new
  · simp [returns, tasks]

/-- A loop returns by seeing shutdown or by the verdict on a round. -/
theorem mem_ended_advance {kind : LoopKind} {input : Loop.Input} {entry : Task × TaskEnd}
    (going : .loop kind ∉ s.tasks → (s.loops kind).phase ≠ .ended)
    (inside : entry ∈ (s.advance kind input).ended) :
    entry ∈ s.ended ∨ entry = (.loop kind, .returned (.ok ())) ∧
      (input = .shutdown ∨ ∃ verdict, input = .finished verdict ∧ verdict.goesOn = false) := by
  obtain ⟨-, same⟩ | ⟨new, l, step, ⟨-, goes⟩ | ⟨ended, returns⟩⟩ := s.advance_cases kind input
  · exact Or.inl (same ▸ inside)
  · rw [goes] at inside
    exact Or.inl inside
  · rw [returns] at inside
    refine (List.mem_append.mp inside).imp_right fun last => ⟨List.mem_singleton.mp last, ?_⟩
    exact Loop.cases_of_ended (going new) (step ▸ ended)

theorem stopped_after (move : Move) (stopped : s.stopped = true) :
    (s.after move).stopped = true := by
  cases move with
  | finish task how =>
      simp only [after, finish]
      split <;> exact stopped
  | heed kind =>
      rw [after, if_pos stopped, stopped_advance, stopped]
  | signal => rfl
  | notice =>
      simp only [after, notice]
      split
      · exact stopped
      · simp [stopped]
  | tick | pass | batch => exact stopped_advance.trans stopped

/-- A move with which a loop returns comes after the signal. -/
theorem mem_ended_after (h : Sound done s) {move : Move} (fits : move.Fits s) {kind : LoopKind}
    {result : Except RelayError Unit}
    (inside : (.loop kind, .returned result) ∈ (s.after move).ended) :
    (.loop kind, .returned result) ∈ s.ended ∨ result = .ok () ∧ s.stopped = true := by
  have advanced {kind' : LoopKind} {input : Loop.Input}
      (inside : (.loop kind, .returned result) ∈ (s.advance kind' input).ended)
      (stopped : input = .shutdown ∨
        (∃ verdict, input = .finished verdict ∧ verdict.goesOn = false) → s.stopped = true) :
      (.loop kind, .returned result) ∈ s.ended ∨ result = .ok () ∧ s.stopped = true := by
    refine (mem_ended_advance (h.going kind') inside).imp_right fun ⟨entry, why⟩ => ?_
    cases entry
    exact ⟨rfl, stopped why⟩
  cases move with
  | finish task how =>
      simp only [after, finish] at inside
      split at inside
      · exact Or.inl inside
      · refine Or.inl ((List.mem_append.mp inside).resolve_right fun last => ?_)
        cases List.mem_singleton.mp last
        exact fits
  | tick kind' now => exact advanced inside (by rintro (⟨⟨⟩⟩ | ⟨_, ⟨⟩, -⟩))
  | heed kind' =>
      simp only [after] at inside
      split at inside
      · exact advanced inside fun _ => ‹_›
      · exact Or.inl inside
  | pass bridge rfq =>
      refine advanced inside ?_
      rintro (⟨⟨⟩⟩ | ⟨_, ⟨⟩, ends⟩)
      obtain ⟨outcome, which, cancelled⟩ := exists_of_goesOn_passVerdict ends
      rcases List.mem_pair.mp which with rfl | rfl
      · exact fits (Or.inl cancelled)
      · exact fits (Or.inr cancelled)
  | batch result =>
      refine advanced inside ?_
      rintro (⟨⟨⟩⟩ | ⟨_, ⟨⟩, ends⟩)
      exact fits (goesOn_batchVerdict ends)
  | signal => exact Or.inl inside
  | notice => exact Or.inl (ended_notice ▸ inside)

/-- The loops return only after the signal, and without a failure. -/
theorem returned_of_heeds (h : Sound done s) {moves : List Move} (heeds : Heeds s moves)
    (before : ∀ kind result, (.loop kind, .returned result) ∈ s.ended →
      result = .ok () ∧ s.stopped = true)
    {kind : LoopKind} {result : Except RelayError Unit}
    (inside : (.loop kind, .returned result) ∈ (s.run moves).ended) :
    result = .ok () ∧ (s.run moves).stopped = true := by
  induction moves generalizing done s with
  | nil => exact before kind result inside
  | cons move moves ih =>
      refine ih (h.after move) heeds.2 (fun kind result inside => ?_) inside
      rcases mem_ended_after h heeds.1 inside with earlier | ⟨fine, stopped⟩
      · obtain ⟨fine, stopped⟩ := before kind result earlier
        exact ⟨fine, stopped_after move stopped⟩
      · exact ⟨fine, stopped_after move stopped⟩

end

/-- Whatever the tasks do and however they end, the watch is over only when all three have ended,
and it comes to be over then. The relay fails with the first failure among the ends, if there is
one. The watch signals shutdown at the first failure and at no other end, and nobody else signals it
but from outside.

After the signal each loop ends when its round is over and it sees the signal, whatever came of the
round. If rounds are cancelled only after the signal, the loops return after it only and never with
a failure, so that the relay fails because the submitter does or because a task breaks down. This
holds after any moves, hence at any moment on the way. -/
theorem fails_with_first_failure (ingestPeriod relayPeriod : Duration) (now : Instant)
    (moves : List Move) :
    let s := (start ingestPeriod relayPeriod now).run moves
    (s.watch.isOver = true → (∀ task, task ∈ s.tasks) ∧
      (∀ e, s.watch.result = .error e ↔ ∃ place, TaskEnd.FailsFirst s.ends place e) ∧
      (s.watch.result = .ok () ↔ ∀ how ∈ s.ends, ∀ e, ¬how.Fails e)) ∧
    ((∀ task, task ∈ s.tasks) → (s.run (.replicate 3 .notice)).watch.isOver = true) ∧
    s.tasks.Nodup ∧
    s.triggers.length ≤ 1 ∧
    (∀ place, place ∈ s.triggers ↔ ∃ e, TaskEnd.FailsFirst s.seen place e) ∧
    (s.stopped = true ↔ .signal ∈ moves ∨ s.triggers ≠ []) ∧
    (s.stopped = true →
      (∀ bridge rfq, .loop .intake ∈ (s.run [.pass bridge rfq, .heed .intake]).tasks) ∧
      ∀ result, .loop .relay ∈ (s.run [.batch result, .heed .relay]).tasks) ∧
    (Heeds (start ingestPeriod relayPeriod now) moves →
      (∀ kind result, (.loop kind, .returned result) ∈ s.ended →
        result = .ok () ∧ s.stopped = true) ∧
      ∀ e, s.watch.result = .error e →
        (.submitter, .returned (.error e)) ∈ s.ended ∨
          ∃ task reason, e = .task reason ∧ (task, .broke reason) ∈ s.ended) := by
  intro s
  have sound : Sound moves s := Sound.start.run moves
  refine ⟨fun isOver => ?isOver, sound.isOver_of_all, sound.distinct, sound.length_triggers_le,
    fun _ => sound.mem_triggers_iff, sound.stopped, fun stopped => ?signalled, fun heeds => ?loops⟩
  case isOver =>
    obtain ⟨all, seen⟩ := sound.all_of_isOver isOver
    rw [← seen]
    exact ⟨all, fun _ => sound.result_eq_error_iff, sound.result_eq_ok_iff⟩
  case signalled =>
    exact ⟨fun _ _ => mem_tasks_heed stopped .intake _, fun _ => mem_tasks_heed stopped .relay _⟩
  case loops =>
    have returned {kind : LoopKind} {result : Except RelayError Unit} :
        (.loop kind, .returned result) ∈ s.ended → result = .ok () ∧ s.stopped = true :=
      returned_of_heeds Sound.start heeds nofun
    refine ⟨fun kind result => returned, fun e failed => ?_⟩
    obtain ⟨place, ⟨how, there, fails⟩, -⟩ := sound.result_eq_error_iff.mp failed
    obtain ⟨⟨task, how⟩, inside, rfl⟩ :=
      List.mem_map.mp (List.mem_of_mem_take (List.mem_of_getElem? there))
    cases fails with
    | broke reason => exact Or.inr ⟨task, reason, rfl, inside⟩
    | returned =>
        cases task with
        | submitter => exact Or.inl inside
        | loop kind => cases (returned inside).1

/-- A pass fails, then the submitter does. The intake loop sees the signal, the relay loop breaks
down, and the relay fails as the submitter did. -/
theorem fails_with_first_failure_of_submitter :
    let fault : RelayError := .store (.corruptRow "insert" "outage")
    let refused : RelayError := .chain (.start "no key")
    let period : Duration := .ofSeconds 60
    let moves : List Move := [.tick .intake .zero, .pass (.error fault) (.error fault),
      .finish .submitter (.returned (.error refused)), .notice, .heed .intake, .notice,
      .finish (.loop .relay) (.broke "overflow"), .notice]
    let s := (start period period .zero).run moves
    Heeds (start period period .zero) moves ∧ s.watch.isOver = true ∧
      s.watch.result = .error refused ∧ 0 ∈ s.triggers ∧ s.stopped = true ∧
      (.loop .intake, .returned (.ok ())) ∈ s.ended := by
  intro fault refused period moves s
  have heeds : Heeds (start period period .zero) moves := by
    simp [moves, fault, Heeds, Move.Fits, IsCancelled]
  have isOver : s.watch.isOver = true := by decide +kernel
  have ended : s.ended = [(.submitter, .returned (.error refused)),
      (.loop .intake, .returned (.ok ())), (.loop .relay, .broke "overflow")] := by
    simp [s, moves, fault, refused, run, start, after, advance, finish, notice, tasks, ends,
      Watch.joined, TaskEnd.failure?, Loop.intake, Loop.relay, Loop.step, Loop.taskEnd?,
      passVerdict, RelayError.isCancellation]
  have noticed : s.noticed = 3 := by decide +kernel
  have seen : s.seen = s.ends := by
    rw [seen, noticed, Supervision.ends, ended]
    rfl
  have first : TaskEnd.FailsFirst s.ends 0 refused := by
    rw [Supervision.ends, ended]
    exact ⟨⟨_, rfl, .returned _ nofun nofun⟩, nofun⟩
  have inside : (.loop .intake, .returned (.ok ())) ∈ s.ended := by simp [ended]
  obtain ⟨result, -, -, -, triggers, -, -, loops⟩ :=
    fails_with_first_failure period period .zero moves
  exact ⟨heeds, isOver, ((result isOver).2.1 refused).mpr ⟨0, first⟩,
    (triggers 0).mpr ⟨refused, seen ▸ first⟩, ((loops heeds).1 _ _ inside).2, inside⟩

end Supervision

end RebateRelay
