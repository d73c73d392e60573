import Mathlib.Data.List.Nodup
import Mathlib.Data.List.Range
import MipsEncoding.Batch

/-! The schedules of a pool. At every moment the jobs that wait, the jobs in the hands of workers and
the results that were sent are together all the jobs (`Step.results_perm`), so a pool whose workers
have finished has sent every result once, and putting them into the order of the lines gives the
results of the lines. A pool that has not finished can take a step, and it has only so many steps to
take, so every schedule comes to that end (`exists_finished`). However a batch goes, its results are
those of `interpretAll` (`Possible.results_eq`). -/
namespace MipsEncoding.Batch

theorem results_interpretAll (workers : Nat) (lines : List Text) :
    (interpretAll workers lines).results = lines.map fun line => (interpret line).outcome := by
  rw [interpretAll, List.map_map]
  rfl

theorem log_interpretAll (workers : Nat) (lines : List Text) :
    (interpretAll workers lines).log = .batchStarted lines.length (workersFor workers lines) ::
      lines.flatMap fun line => (interpret line).log :=
  congrArg (List.cons _) (List.flatMap_map ..)

def resultOf (job : Job) : Numbered := (job.1, (interpret job.2).outcome)

namespace Worker

/-- The job in the hands of a worker. -/
def job? : Worker → Option Job
  | holding job => some job
  | _ => none

end Worker

namespace Pool

/-- The jobs in the hands of the workers. -/
def held (p : Pool) : List Job := p.workers.filterMap Worker.job?

/-- What a pool has sent and what it is going to send for the jobs it still has. -/
def results (p : Pool) : List Numbered := (p.queue ++ p.held).map resultOf ++ p.sent

/-- How many steps a pool still takes: two for a job that waits, one for a job in the hands of a
worker, and one for each worker that has not finished. -/
def stepsLeft (p : Pool) : Nat :=
  2 * p.queue.length + p.held.length + p.workers.countP (· != .finished)

/-- What holds of every pool that was started on some lines. -/
structure Consistent (workers : Nat) (lines : List Text) (p : Pool) : Prop where
  accounted : p.results.Perm ((jobs lines).map resultOf)
  crew : p.workers.length = workers
  drained : Worker.finished ∈ p.workers → p.queue = []

theorem held_eq_nil {p : Pool} (h : ∀ w ∈ p.workers, w.job? = none) : p.held = [] :=
  List.filterMap_eq_nil_iff.mpr h

/-- A job may be counted in the queue or in the hands of any worker. -/
theorem perm_held (job : Job) (queue before after : List Job) :
    (queue ++ (before ++ job :: after)).Perm (job :: (queue ++ (before ++ after))) := by
  rw [← List.append_assoc, ← List.append_assoc]
  exact List.perm_middle

/-- A step neither loses nor doubles a result. -/
theorem Step.results_perm {p q : Pool} (h : Step p q) : q.results.Perm p.results := by
  cases h with
  | take job queue before after sent =>
    simp only [results, held, List.filterMap_append, List.filterMap_cons, Worker.job?]
    apply List.Perm.append_right
    apply List.Perm.map
    exact perm_held job queue _ _
  | send job queue before after sent =>
    simp only [results, held, List.filterMap_append, List.filterMap_cons, Worker.job?]
    have hresults := ((perm_held job queue (before.filterMap Worker.job?)
      (after.filterMap Worker.job?)).map resultOf).append_right sent
    rw [← List.append_assoc]
    exact (List.perm_append_singleton _ _).trans hresults.symm
  | finish before after sent =>
    simp only [results, held, List.filterMap_append, List.filterMap_cons, Worker.job?]
    exact List.Perm.refl _

theorem Step.length_workers {p q : Pool} (h : Step p q) :
    q.workers.length = p.workers.length := by
  cases h <;> simp

/-- A worker finishes only when nothing waits, and nothing is ever put back into the queue. -/
theorem Step.drained {p q : Pool} (h : Step p q) (hp : Worker.finished ∈ p.workers → p.queue = []) :
    Worker.finished ∈ q.workers → q.queue = [] := by
  cases h with
  | take job queue before after sent =>
    intro hq
    have hbefore : Worker.finished ∈ before ++ Worker.idle :: after := by simpa using hq
    simpa using hp hbefore
  | send job queue before after sent =>
    intro hq
    exact hp (by simpa using hq)
  | finish before after sent =>
    intro _
    rfl

theorem Step.consistent {workers : Nat} {lines : List Text} {p q : Pool} (h : Step p q)
    (hp : p.Consistent workers lines) : q.Consistent workers lines where
  accounted := h.results_perm.trans hp.accounted
  crew := h.length_workers.trans hp.crew
  drained := h.drained hp.drained

theorem consistent_start (workers : Nat) (lines : List Text) :
    (start workers lines).Consistent workers lines where
  accounted := by
    have hheld : (start workers lines).held = [] := by
      apply held_eq_nil
      intro w hw
      rw [List.eq_of_mem_replicate hw]
      rfl
    rw [results, hheld]
    simp [start]
  crew := by simp [start]
  drained := by simp [start]

theorem Steps.consistent {workers : Nat} {lines : List Text} {p q : Pool} (h : Steps p q)
    (hp : p.Consistent workers lines) : q.Consistent workers lines := by
  induction h with
  | refl => exact hp
  | tail _ step ih => exact step.consistent ih

/-- Workers that have finished hold no job and leave none behind. -/
theorem Consistent.sent_perm {workers : Nat} {lines : List Text} {p : Pool}
    (h : p.Consistent workers lines) (hworkers : 0 < workers ∨ lines = []) (hp : p.Finished) :
    p.sent.Perm ((jobs lines).map resultOf) := by
  have hheld : p.held = [] := by
    apply held_eq_nil
    intro w hw
    rw [hp w hw]
    rfl
  have hqueue : p.queue = [] := by
    rcases hworkers with hworkers | rfl
    · have hpos : 0 < p.workers.length := h.crew ▸ hworkers
      obtain ⟨w, hw⟩ := List.exists_mem_of_length_pos hpos
      apply h.drained
      rwa [← hp w hw]
    · have hempty := h.accounted
      simp only [jobs, List.zipIdx_nil, List.map_nil, List.perm_nil, results, List.append_eq_nil_iff,
        List.map_eq_nil_iff] at hempty
      exact hempty.1.1
  have haccounted := h.accounted
  rwa [results, hqueue, hheld] at haccounted

theorem places_results (lines : List Text) :
    ((jobs lines).map resultOf).map (·.1) = List.range lines.length := by
  simp only [jobs, resultOf, List.map_map, Function.comp_def]
  rw [List.range_eq_range']
  exact List.zipIdx_map_snd 0 lines

theorem outcomes_results (lines : List Text) :
    ((jobs lines).map resultOf).map (·.2) = lines.map fun line => (interpret line).outcome := by
  simp only [jobs, resultOf, List.map_map, Function.comp_def]
  conv_rhs => rw [← List.zipIdx_map_fst 0 lines, List.map_map]
  rfl

/-- Results with distinct numbers have one order only, so any way to sort them finds it. -/
theorem map_sorted_eq {lines : List Text} {sent sorted : List Numbered}
    (hsent : sent.Perm ((jobs lines).map resultOf)) (hperm : sorted.Perm sent)
    (hsorted : sorted.Pairwise fun a b => a.1 ≤ b.1) :
    sorted.map (·.2) = lines.map fun line => (interpret line).outcome := by
  have hnodup : (((jobs lines).map resultOf).map (·.1)).Nodup := by
    rw [places_results]
    exact List.nodup_range
  have hordered : ((jobs lines).map resultOf).Pairwise fun a b => a.1 ≤ b.1 := by
    rw [← List.pairwise_map (f := fun result : Numbered => result.1), places_results]
    exact List.pairwise_le_range
  have heq : sorted = (jobs lines).map resultOf := by
    refine (hperm.trans hsent).eq_of_pairwise ?_ hsorted hordered
    intro a b ha hb hab hba
    have ha' := (hperm.trans hsent).subset ha
    exact List.inj_on_of_nodup_map hnodup ha' hb (Nat.le_antisymm hab hba)
  rw [heq, outcomes_results]

theorem sorted_mergeSort (sent : List Numbered) :
    (sent.mergeSort fun a b => a.1 ≤ b.1).Pairwise fun a b => a.1 ≤ b.1 := by
  have h : (sent.mergeSort fun a b => a.1 ≤ b.1).Pairwise fun a b => decide (a.1 ≤ b.1) = true := by
    apply List.pairwise_mergeSort
    · intro a b c hab hbc
      simp only [decide_eq_true_eq] at hab hbc ⊢
      omega
    · intro a b
      simp only [Bool.or_eq_true, decide_eq_true_eq]
      omega
  exact h.imp fun hab => of_decide_eq_true hab

theorem Steps.sent_perm {workers : Nat} {lines : List Text} {p : Pool}
    (h : Steps (start workers lines) p) (hworkers : 0 < workers ∨ lines = []) (hp : p.Finished) :
    p.sent.Perm ((jobs lines).map resultOf) :=
  (h.consistent (consistent_start workers lines)).sent_perm hworkers hp

theorem collect_eq {lines : List Text} {p : Pool} (hsent : p.sent.Perm ((jobs lines).map resultOf)) :
    p.collect = lines.map fun line => (interpret line).outcome :=
  map_sorted_eq hsent (List.mergeSort_perm _ _) (sorted_mergeSort p.sent)

/-- Every step brings a pool one step nearer to its end. -/
theorem Step.stepsLeft_eq {p q : Pool} (h : Step p q) : p.stepsLeft = q.stepsLeft + 1 := by
  cases h <;> simp [stepsLeft, held, List.filterMap_cons, Worker.job?] <;> omega

/-- A pool that has not finished can take a step: any worker that has not finished can. -/
theorem exists_step {p : Pool} (h : ¬ p.Finished) : ∃ q, Step p q := by
  obtain ⟨queue, workers, sent⟩ := p
  simp only [Finished, not_forall] at h
  obtain ⟨w, hw, hne⟩ := h
  obtain ⟨before, after, rfl⟩ := List.append_of_mem hw
  cases w with
  | idle =>
    cases queue with
    | nil => exact ⟨_, .finish before after sent⟩
    | cons job queue => exact ⟨_, .take job queue before after sent⟩
  | holding job => exact ⟨_, .send job queue before after sent⟩
  | finished => exact absurd rfl hne

theorem Steps.head {p q r : Pool} (h : Step p q) (hr : Steps q r) : Steps p r := by
  induction hr with
  | refl => exact .tail (.refl p) h
  | tail _ step ih => exact .tail ih step

/-- However a schedule has begun, it can be brought to its end. -/
theorem exists_finished (p : Pool) : ∃ q, Steps p q ∧ q.Finished := by
  induction hn : p.stepsLeft generalizing p with
  | zero =>
    refine ⟨p, .refl p, ?_⟩
    by_contra hp
    obtain ⟨q, hq⟩ := exists_step hp
    have := hq.stepsLeft_eq
    omega
  | succ n ih =>
    by_cases hp : p.Finished
    · exact ⟨p, .refl p, hp⟩
    · obtain ⟨q, hq⟩ := exists_step hp
      have hleft := hq.stepsLeft_eq
      obtain ⟨r, hr, hfinished⟩ := ih q (by omega)
      exact ⟨r, .head hq hr, hfinished⟩

/-- Whatever the schedule, it can be brought to its end, and then every line has been sent once and
the results in the order of the lines are those of going through the lines one by one. -/
theorem every_schedule_collects {workers : Nat} (hworkers : 0 < workers) {lines : List Text}
    {p : Pool} (h : Steps (start (workersFor workers lines) lines) p) :
    (∃ q, Steps p q ∧ q.Finished) ∧
      (p.Finished →
        (p.sent.map (·.1)).Perm (List.range lines.length) ∧
        (∀ sorted : List Numbered, sorted.Perm p.sent →
          (sorted.Pairwise fun a b => a.1 ≤ b.1) →
          sorted.map (·.2) = lines.map fun line => (interpret line).outcome) ∧
        p.collect = (lines.map fun line => (interpret line).outcome) ∧
        ∀ crew, p.collect = (interpretAll crew lines).results) := by
  refine ⟨exists_finished p, ?_⟩
  intro hfinished
  have hcrew : 0 < workersFor workers lines ∨ lines = [] := by
    rw [workersFor, ← List.length_eq_zero_iff]
    omega
  have hsent := h.sent_perm hcrew hfinished
  have hcollect := collect_eq hsent
  refine ⟨?_, fun sorted hperm hsorted => map_sorted_eq hsent hperm hsorted, hcollect, ?_⟩
  · rw [← places_results]
    exact hsent.map (·.1)
  · intro crew
    rw [hcollect, results_interpretAll]

/-- Two workers that send their results in the opposite order. -/
theorem every_schedule_collects_reversed :
    ∃ p, Steps (start (workersFor 2 ["j 4".toList, "nop".toList]) ["j 4".toList, "nop".toList]) p ∧
      p.Finished ∧ p.sent.map (·.1) = [1, 0] ∧
      p.collect = (interpretAll 2 ["j 4".toList, "nop".toList]).results := by
  let first : Job := (0, "j 4".toList)
  let second : Job := (1, "nop".toList)
  have htaken : Steps ⟨[first, second], [.idle, .idle], []⟩
      ⟨[], [.holding first, .holding second], []⟩ :=
    .tail (.tail (.refl _) (.take first [second] [] [.idle] []))
      (.take second [] [.holding first] [] [])
  have hsent : Steps ⟨[first, second], [.idle, .idle], []⟩
      ⟨[], [.idle, .idle], [resultOf second, resultOf first]⟩ :=
    .tail (.tail htaken (.send second [] [.holding first] [] [])) (.send first [] [] [.idle] _)
  have hrun : Steps (start (workersFor 2 ["j 4".toList, "nop".toList])
      ["j 4".toList, "nop".toList]) ⟨[], [.finished, .finished], [resultOf second, resultOf first]⟩ :=
    .tail (.tail hsent (.finish [] [.idle] _)) (.finish [.finished] [] _)
  have hfinished : Finished ⟨[], [.finished, .finished], [resultOf second, resultOf first]⟩ := by
    simp [Finished]
  obtain ⟨-, hend⟩ := every_schedule_collects (by decide) hrun
  exact ⟨_, hrun, hfinished, rfl, (hend hfinished).2.2.2 2⟩

end Pool

variable {workers : Nat} {lines : List Text} {outcome : Outcome}

/-- However a batch goes, its results are the same. -/
theorem Possible.results_eq (h : Possible workers lines outcome) :
    outcome.results = (interpretAll workers lines).results := by
  rw [results_interpretAll]
  cases h with
  | alone few => rfl
  | pooled several steps finished mixed =>
    have hworkers : 0 < workersFor workers lines := by omega
    exact Pool.collect_eq (steps.sent_perm (.inl hworkers) finished)

theorem Possible.eq_of_few (h : Possible workers lines outcome)
    (hfew : workersFor workers lines ≤ 1) : outcome = interpretAll workers lines := by
  cases h with
  | alone few => rw [← log_interpretAll, ← results_interpretAll workers]
  | pooled several steps finished mixed => omega

theorem possible_interpretAll (workers : Nat) (lines : List Text) :
    Possible workers lines (interpretAll workers lines) := by
  have hself : interpretAll workers lines =
      ⟨(interpretAll workers lines).log, (interpretAll workers lines).results⟩ := rfl
  rw [hself, log_interpretAll]
  by_cases hfew : workersFor workers lines ≤ 1
  · rw [results_interpretAll]
    exact .alone hfew
  · obtain ⟨p, hsteps, hfinished⟩ := Pool.exists_finished (Pool.start (workersFor workers lines) lines)
    have hworkers : 0 < workersFor workers lines := by omega
    rw [results_interpretAll, ← Pool.collect_eq (hsteps.sent_perm (.inl hworkers) hfinished)]
    exact .pooled (by omega) hsteps hfinished (List.Perm.refl _)

end MipsEncoding.Batch
