import CouponSale.Proofs.Pool.Chances
import CouponSale.Proofs.Pool.Stop
import Mathlib.Algebra.Order.BigOperators.Group.List
import Mathlib.Algebra.Order.Group.Nat

/-!
A stop that finds nothing to do. In a pool with no open job and no submissions, no attempt begins
and no job is settled but those that the stop finds in the table of jobs in flight, where a worker
leaves its job that was cut off after it had counted it and before it had struck it off. A stop of
such a pool always comes to its end, for everybody has only a few moves left to leave.
-/
namespace CouponSale.Pool

/-- A pool to which nothing is submitted. -/
def unfed? (p : Pool) : Label → Option Moved
  | .submit _ => none
  | label => p.step? label

/-- What became of a pool without open jobs: no attempt was begun, and only what was recovered from
the table of jobs in flight was given up. -/
structure Idles (p : Pool) (notes : List Note) (q : Pool) : Prop where
  nothing : q.openJobs = []
  untried : begunJobs notes = []
  stats : q.stats = (p.bury (settledJobs notes).length).stats
  recovered : settledJobs notes = recoveredJobs notes

/-- When the stop goes on without whom it waits for. -/
def Stopping.deadline? : Stopping → Option Nat
  | .awaiting _ deadline | .dismissing deadline => some deadline
  | _ => none

/-- A pool that is being stopped: the workers, the scheduler and the stop move, and time passes as
long as the stop is bound to wait. -/
def halting? (p : Pool) : Label → Option Moved
  | .worker w s => p.workerStep? w s
  | .scheduler => p.schedulerStep?
  | .stopper => p.stopStep?
  | .wait ms =>
    if 0 < ms ∧ ∃ deadline, p.stopping.deadline? = some deadline ∧ p.now < deadline then
      some ({ p with now := p.now + ms }, [])
    else none
  | _ => none

/-- More than the moves that a worker with nothing to do makes before it leaves. -/
def Worker.way (worker : Worker) : Nat :=
  match worker.stage, worker.draining with
  | .fresh, _ | .clearing _ _, _ => 5
  | .resting, false => 4
  | .lined, false => 3
  | .resting, true => 2
  | .lined, true => 1
  | _, _ => 0

/-- The moves that a scheduler with nothing to do makes before it leaves. -/
def Watch.way : Watch → Nat
  | .fresh => 3
  | .idle => 2
  | .closing => 1
  | _ => 0

/-- The moves of a stop over so many workers. -/
def Stopping.way (crew : Nat) : Stopping → Nat
  | .no => 0
  | .awaiting w _ => crew - w + 3
  | .dismissing _ => 2
  | .closing => 1

/-- The way of everybody to the end of a stop. -/
def way (p : Pool) : Nat :=
  p.stopping.way p.workers.length + (p.workers.map Worker.way).sum + p.scheduler.watch.way

/-- The time that the stop still waits for somebody. -/
def grace (p : Pool) : Nat := p.stopping.deadline?.elim 0 (· - p.now)

/-- The moves that are left to a stop, before the time that is left to wait. -/
def Ending (q p : Pool) : Prop := Prod.Lex (· < ·) (· < ·) (q.way, q.grace) (p.way, p.grace)

theorem ending_wf : WellFounded Ending :=
  InvImage.wf (fun p : Pool => (p.way, p.grace))
    (WellFounded.prod_lex Nat.lt_wfRel.wf Nat.lt_wfRel.wf)

variable {config : Config} {p q r : Pool} {notes more : List Note} {label : Label} {w : Nat}
  {s : Supply} {draining : Bool} {stage : Stage} {before after : List Worker}

theorem openJobs_eq_nil_iff :
    p.openJobs = [] ↔ p.queue = [] ∧ inHands p.workers = [] ∧ p.retrySide = [] := by
  simp [openJobs]

/-- Who moves in a pool without open jobs has none in its hands. -/
theorem open_of_crew {cut : Bool} (nothing : p.openJobs = [])
    (crew : p.workers = before ++ ⟨stage, draining, cut⟩ :: after) : stage.open? = none := by
  have hands := (openJobs_eq_nil_iff.mp nothing).2.1
  rw [crew, inHands_append, inHands_cons] at hands
  have own := (List.append_eq_nil_iff.mp (List.append_eq_nil_iff.mp hands).2).1
  exact Option.toList_eq_nil_iff.mp own

theorem WorkerMove.idles (nothing : p.openJobs = [])
    (crew : p.workers = before ++ ⟨stage, draining, false⟩ :: after)
    (move : WorkerMove p w s draining stage q notes) :
    q.stats = p.stats ∧ begunJobs notes = [] ∧ settledJobs notes = [] := by
  have free := open_of_crew nothing crew
  have queue := (openJobs_eq_nil_iff.mp nothing).1
  cases move with
  | take next first => simp [queue] at next
  | beginWrite | written | alreadyThere | attemptFailed | clearFailed | exhausted | noSlot | slot
  | refused | scheduled | overflow => simp [Stage.open?] at free
  | _ => exact ⟨rfl, rfl, rfl⟩

theorem SchedulerMove.idles {watch : Watch} {waiting : List Entry} (nothing : p.openJobs = [])
    (keeps : p.scheduler = ⟨watch, waiting, false⟩)
    (move : SchedulerMove p watch waiting q notes) :
    q.stats = p.stats ∧ begunJobs notes = [] ∧ settledJobs notes = [] := by
  have retry := (openJobs_eq_nil_iff.mp nothing).2.2
  simp only [retrySide, keeps, List.append_eq_nil_iff] at retry
  obtain ⟨⟨channel, waits⟩, due⟩ := retry
  cases move with
  | receive untold next => simp [channel] at next
  | collect untold empty ready => simp [waits] at ready
  | ask | handOver => simp [Watch.due] at due
  | giveUp => simp at waits
  | _ => exact ⟨rfl, rfl, rfl⟩

/-- Without submissions, a pool without open jobs stays so. -/
theorem Move.nothing (phased : p.Phased) (nothing : p.openJobs = []) (move : Move p label q notes)
    (unfed : acceptedJobs notes = []) : q.openJobs = [] := by
  have balanced := move.balanced all_stable phased
  have within := move.recovered_buried phased (f := fun _ => true)
  rw [Balanced, countP_settled, nothing, unfed] at balanced
  simp only [List.countP_true, List.length_nil] at balanced within
  exact List.eq_nil_of_length_eq_zero (by omega)

/-- Who was cut off stays as it was. -/
theorem Move.cut_stays {worker : Worker} (phased : p.Phased) (move : Move p label q notes)
    (member : worker ∈ p.workers) (cut : worker.cut = true) : worker ∈ q.workers := by
  cases move with
  | start idle quiet => simp [(phased.idle idle).1] at member
  | worker crew place move =>
    obtain ⟨stage', draining', crew'⟩ := move.crew crew place
    rw [crew] at member
    rw [crew']
    rcases List.mem_append.mp member with early | late
    · exact List.mem_append_left _ early
    · rcases List.mem_cons.mp late with rfl | later
      · cases cut
      · exact List.mem_append_right _ (List.mem_cons_of_mem _ later)
  | scheduler keeps move =>
    rw [move.frame.workers]
    exact member
  | stopper phase move =>
    cases move with
    | @cut w deadline other here stays late =>
      obtain ⟨n, there⟩ := List.mem_iff_getElem?.mp member
      refine List.mem_iff_getElem?.mpr ⟨n, ?_⟩
      rw [List.getElem?_modify, there]
      obtain ⟨stage, draining, _⟩ := worker
      cases cut
      by_cases same : w = n <;> simp [same]
    | _ => exact member
  | _ => exact member

theorem StopperMove.idles {stopping : Stopping} (nothing : p.openJobs = [])
    (move : StopperMove p stopping q notes) :
    begunJobs notes = [] ∧ q.stats = (p.bury (settledJobs notes).length).stats ∧
      settledJobs notes = recoveredJobs notes := by
  have queue := (openJobs_eq_nil_iff.mp nothing).1
  cases move with
  | dismiss all =>
    rw [begunJobs_recovery, settledJobs_recovery, recoveredJobs_recovery, List.length_map]
    exact ⟨rfl, rfl, rfl⟩
  | close =>
    rw [begunJobs_close, settledJobs_close, recoveredJobs_close, queue]
    exact ⟨rfl, rfl, rfl⟩
  | _ => exact ⟨rfl, rfl, rfl⟩

/-- A move of a pool without open jobs to which nothing is submitted. -/
theorem Move.idles (phased : p.Phased) (nothing : p.openJobs = []) (move : Move p label q notes)
    (unfed : ∀ task, label ≠ .submit task) : Idles p notes q := by
  have unfed' : acceptedJobs notes = [] := by
    rcases move.accepted with none | ⟨task, same, _⟩
    · exact none
    · exact absurd same (unfed task)
  have stays := move.nothing phased nothing unfed'
  cases move with
  | accept isOpen room => exact absurd rfl (unfed _)
  | drop closed full => exact absurd rfl (unfed _)
  | startAgain begun told => rcases told with rfl | rfl <;> exact ⟨stays, rfl, rfl, rfl⟩
  | worker crew place move =>
    obtain ⟨stats, untried, unsettled⟩ := move.idles nothing crew
    have unrecovered : recoveredJobs notes = [] := by cases move <;> rfl
    refine ⟨stays, untried, ?_, unsettled.trans unrecovered.symm⟩
    rw [unsettled, stats]
    rfl
  | scheduler keeps move =>
    obtain ⟨stats, untried, unsettled⟩ := move.idles nothing keeps
    have unrecovered : recoveredJobs notes = [] := by cases move <;> rfl
    refine ⟨stays, untried, ?_, unsettled.trans unrecovered.symm⟩
    rw [unsettled, stats]
    rfl
  | stopper phase move =>
    obtain ⟨untried, stats, recovered⟩ := move.idles nothing
    exact ⟨stays, untried, stats, recovered⟩
  | _ => exact ⟨stays, rfl, rfl, rfl⟩

theorem Idles.refl (nothing : p.openJobs = []) : Idles p [] p where
  nothing := nothing
  untried := rfl
  stats := rfl
  recovered := rfl

theorem Idles.trans (first : Idles p notes q) (second : Idles q more r) :
    Idles p (notes ++ more) r where
  nothing := second.nothing
  untried := by rw [begunJobs_append, first.untried, second.untried]; rfl
  stats := by
    rw [second.stats, settledJobs_append, List.length_append]
    simp [bury, first.stats, Nat.add_assoc]
  recovered := by
    rw [settledJobs_append, recoveredJobs_append, first.recovered, second.recovered]

theorem unfed?_move (step : p.unfed? label = some (q, notes)) :
    p.step? label = some (q, notes) ∧ Move p label q notes ∧ ∀ task, label ≠ .submit task := by
  cases label with
  | submit task => cases step
  | _ => exact ⟨step, step?_move step, fun _ same => by cases same⟩

/-- A run of a pool without open jobs to which nothing is submitted. -/
theorem leads_idles (phased : p.Phased) (nothing : p.openJobs = [])
    (later : Leads unfed? p more q) : Leads step? p more q ∧ q.Phased ∧ Idles p more q := by
  refine later.keeps (P := fun q more => Leads step? p more q ∧ q.Phased ∧ Idles p more q)
    ⟨.refl p, phased, .refl nothing⟩ ?_
  rintro q more label r told ⟨sofar, phased, idles⟩ step
  obtain ⟨step, move, unfed⟩ := unfed?_move step
  exact ⟨sofar.trans (.next step), phased.move move,
    idles.trans (move.idles phased idles.nothing unfed)⟩

theorem WorkerMove.way_lt (nothing : p.openJobs = [])
    (crew : p.workers = before ++ ⟨stage, draining, false⟩ :: after) (place : before.length = w)
    (move : WorkerMove p w s draining stage q notes) : q.way < p.way := by
  subst place
  have free := open_of_crew nothing crew
  have queue := (openJobs_eq_nil_iff.mp nothing).1
  cases move with
  | take next first => simp [queue] at next
  | beginWrite | written | alreadyThere | attemptFailed | clearFailed | exhausted | noSlot | slot
  | refused | scheduled | overflow => simp [Stage.open?] at free
  | hear told news | hearInLine told news =>
    subst news
    simp [way, crew, modify_append, Pool.hearStop, Pool.leaveLine, Worker.way]
  | leave empty told first =>
    subst told
    simp [way, crew, modify_append, Pool.place, Pool.leaveLine, Worker.way]
  | _ =>
    cases draining <;> simp [way, crew, modify_append, Pool.place, Pool.clear, Worker.way]

theorem SchedulerMove.way_lt {watch : Watch} {waiting : List Entry} (nothing : p.openJobs = [])
    (keeps : p.scheduler = ⟨watch, waiting, false⟩)
    (move : SchedulerMove p watch waiting q notes) : q.way < p.way := by
  have retry := (openJobs_eq_nil_iff.mp nothing).2.2
  simp only [retrySide, keeps, List.append_eq_nil_iff] at retry
  obtain ⟨⟨channel, waits⟩, due⟩ := retry
  cases move with
  | receive untold next => simp [channel] at next
  | collect untold empty ready => simp [waits] at ready
  | ask | handOver => simp [Watch.due] at due
  | giveUp => simp at waits
  | hear listens told =>
    rcases listens with rfl | ⟨entry, batch, place, rfl⟩
    · simp [way, keeps, Pool.schedulerHearStop, Watch.way]
    · simp [Watch.due] at due
  | _ => simp [way, keeps, Watch.way]

theorem sum_way_cut (workers : List Worker) (w : Nat) :
    ((workers.modify w ({ · with cut := true })).map Worker.way).sum =
      (workers.map Worker.way).sum := by
  induction workers generalizing w with
  | nil => simp
  | cons worker workers ih =>
    cases w with
    | zero => simp [Worker.way]
    | succ w => simp [ih]

theorem StopperMove.way_lt {stopping : Stopping} (phase : p.stopping = stopping)
    (move : StopperMove p stopping q notes) : q.way < p.way := by
  cases move with
  | next here left =>
    have within := (List.getElem?_eq_some_iff.mp here).1
    simp only [way, phase, Stopping.way]
    omega
  | cut here stays late =>
    have within := (List.getElem?_eq_some_iff.mp here).1
    simp only [way, phase, Stopping.way, sum_way_cut, List.length_modify]
    omega
  | dismiss all =>
    simp only [way, phase, Stopping.way, bury]
    omega
  | _ =>
    simp only [way, phase, Stopping.way, bury]
    omega

theorem grace_lt {ms deadline : Nat} (ticks : 0 < ms) (waits : p.stopping.deadline? = some deadline)
    (early : p.now < deadline) : ({ p with now := p.now + ms } : Pool).grace < p.grace := by
  simp only [grace, waits, Option.elim_some]
  omega

theorem halting?_step (step : p.halting? label = some (q, notes)) :
    p.unfed? label = some (q, notes) := by
  cases label with
  | wait ms =>
    simp only [halting?] at step
    split at step
    · exact step
    · contradiction
  | worker | scheduler | stopper => exact step
  | _ => cases step

/-- Every move of a stop with nothing to do brings it nearer to its end. -/
theorem halting?_ending (nothing : p.openJobs = []) (step : p.halting? label = some (q, notes)) :
    Ending q p := by
  cases label with
  | worker w s =>
    cases workerStep?_move step with
    | worker crew place move => exact .left _ _ (move.way_lt nothing crew place)
  | scheduler =>
    cases schedulerStep?_move step with
    | scheduler keeps move => exact .left _ _ (move.way_lt nothing keeps)
  | stopper =>
    cases stopStep?_move step with
    | stopper phase move => exact .left _ _ (move.way_lt phase)
  | wait ms =>
    simp only [halting?] at step
    split at step
    · rename_i waits
      obtain ⟨ticks, deadline, waits, early⟩ := waits
      cases step
      exact .right _ (grace_lt ticks waits early)
    · contradiction
  | _ => cases step

/-- No stop with nothing to do goes on for ever. -/
theorem halting?_rests (phased : p.Phased) (nothing : p.openJobs = []) (run : Nat → Pool)
    (start : run 0 = p) :
    ∃ n, ∀ label told, (run n).halting? label ≠ some (run (n + 1), told) := by
  refine rests_of_nearer (P := fun p => p.Phased ∧ p.openJobs = []) ending_wf ?_ run
    (start ▸ ⟨phased, nothing⟩)
  rintro p label q told ⟨phased, nothing⟩ step
  obtain ⟨_, move, unfed⟩ := unfed?_move (halting?_step step)
  have idles := move.idles phased nothing unfed
  exact ⟨⟨phased.move move, idles.nothing⟩, halting?_ending nothing step⟩

/-- While a stop is going on, it can move, or time can pass until it can. -/
theorem halting?_able (busy : p.stopping ≠ .no) : ∃ label, (p.halting? label).isSome := by
  have wait : ∀ deadline, p.stopping.deadline? = some deadline → p.now < deadline →
      ∃ label, (p.halting? label).isSome := by
    intro deadline waits early
    have timed : ∃ deadline, p.stopping.deadline? = some deadline ∧ p.now < deadline :=
      ⟨deadline, waits, early⟩
    exact ⟨.wait 1, by simp [halting?, timed]⟩
  have stop : p.stopStep?.isSome → ∃ label, (p.halting? label).isSome :=
    fun able => ⟨.stopper, able⟩
  cases phase : p.stopping with
  | no => exact absurd phase busy
  | awaiting w deadline =>
    by_cases early : p.now < deadline
    · exact wait deadline (by rw [phase]; rfl) early
    · refine stop ?_
      simp only [stopStep?, phase]
      split
      · rfl
      · split
        · rfl
        · rw [if_pos (by omega)]
          rfl
  | dismissing deadline =>
    by_cases early : p.now < deadline
    · exact wait deadline (by rw [phase]; rfl) early
    · refine stop ?_
      simp only [stopStep?, phase]
      split
      · rfl
      · rfl
      · rw [if_pos (by omega)]
        rfl
  | closing => exact stop (by simp [stopStep?, phase])

end CouponSale.Pool
