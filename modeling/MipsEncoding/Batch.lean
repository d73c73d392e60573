import MipsEncoding.Interpretation

/-! Interpreting many lines. One worker goes through them in order. Several share a queue of numbered
lines; any of them may take a step at any time, so a batch has many schedules, and the results are put
into the order of the lines at the end. `interpretAll` is one way for a batch to go, and
`Batch.Possible` are all of them. -/
namespace MipsEncoding.Batch

structure Outcome where
  log : List Record
  results : List (Except Failure Interpretation)

/-- No more workers than lines are put to work. -/
def workersFor (workers : Nat) (lines : List Text) : Nat := min workers lines.length

def interpretAll (workers : Nat) (lines : List Text) : Outcome :=
  let runs := lines.map interpret
  ⟨.batchStarted lines.length (workersFor workers lines) :: runs.flatMap (·.log),
    runs.map (·.outcome)⟩

abbrev Job := Nat × Text

abbrev Numbered := Nat × Except Failure Interpretation

inductive Worker
  | idle
  | holding (job : Job)
  | finished
  deriving DecidableEq, Repr

/-- The state of a pool: the jobs nobody has taken, the workers and what they have sent so far. -/
structure Pool where
  queue : List Job
  workers : List Worker
  sent : List Numbered

namespace Pool

def jobs (lines : List Text) : List Job := lines.zipIdx.map fun (line, place) => (place, line)

def start (workers : Nat) (lines : List Text) : Pool :=
  ⟨jobs lines, List.replicate workers .idle, []⟩

/-- One step of one worker: it takes the next job, sends the result of the job it holds, or
finishes because nothing waits. -/
inductive Step : Pool → Pool → Prop
  | take (job : Job) (queue : List Job) (before after : List Worker) (sent : List Numbered) :
    Step ⟨job :: queue, before ++ .idle :: after, sent⟩
      ⟨queue, before ++ .holding job :: after, sent⟩
  | send (job : Job) (queue : List Job) (before after : List Worker) (sent : List Numbered) :
    Step ⟨queue, before ++ .holding job :: after, sent⟩
      ⟨queue, before ++ .idle :: after, sent ++ [(job.1, (interpret job.2).outcome)]⟩
  | finish (before after : List Worker) (sent : List Numbered) :
    Step ⟨[], before ++ .idle :: after, sent⟩ ⟨[], before ++ .finished :: after, sent⟩

/-- Any number of steps, of any workers in any order. -/
inductive Steps : Pool → Pool → Prop
  | refl (p : Pool) : Steps p p
  | tail {p q r : Pool} : Steps p q → Step q r → Steps p r

def Finished (p : Pool) : Prop := ∀ w ∈ p.workers, w = .finished

/-- What was sent, in the order of the lines. -/
def collect (p : Pool) : List (Except Failure Interpretation) :=
  (p.sent.mergeSort fun a b => a.1 ≤ b.1).map (·.2)

end Pool

/-- The ways for a batch to go. With several workers any schedule of the pool decides the results, and
the records that the workers leave can stand in any order. -/
inductive Possible (workers : Nat) (lines : List Text) : Outcome → Prop
  | alone (few : workersFor workers lines ≤ 1) :
    Possible workers lines
      ⟨.batchStarted lines.length (workersFor workers lines) ::
          lines.flatMap fun line => (interpret line).log,
        lines.map fun line => (interpret line).outcome⟩
  | pooled {p : Pool} {records : List Record} (several : 1 < workersFor workers lines)
    (steps : Pool.Steps (Pool.start (workersFor workers lines) lines) p) (finished : p.Finished)
    (mixed : records.Perm (lines.flatMap fun line => (interpret line).log)) :
    Possible workers lines
      ⟨.batchStarted lines.length (workersFor workers lines) :: records, p.collect⟩

end MipsEncoding.Batch
