import LedgerNet.Operation
import LedgerNet.Subscription.Drive

/-!
One thread and a virtual clock. Work takes no time; the clock moves on to the next timer when everything waits.

The operation that the caller waits for goes first whenever its wait is over. The other tasks take turns in the
order in which they were woken, tasks woken by one instant in the order in which they began to wait for it.
-/
namespace LedgerNet

inductive Task where
  | refresh (run : RefreshRun)
  | drive (d : Drive)

namespace Task

/-- What a task waits for, given that cancellation ends some waits. -/
def waiting (w : World) : Task → Waiting
  | .refresh run => run.waiting
  | .drive d => if d.heedsCancel && w.isCancelled d.id then .nothing else d.waiting

def step (w : World) : Task → Task × World
  | .refresh run =>
    let (run, w) := run.step w
    (.refresh run, w)
  | .drive d =>
    let (d, w) := d.step w
    (.drive d, w)

def isFinished : Task → Bool
  | .refresh run => run.isFinished
  | .drive d => d.isFinished

end Task

structure Job where
  number : Nat
  task : Task
  since : Nat

structure System where
  world : World
  jobs : List Job := []
  /-- The jobs that have been woken, by number. -/
  queue : List Nat := []
  /-- The number of the next job, and the next place in line. -/
  next : Nat := 0

namespace System

variable {β : Type}

def spawn (s : System) (task : Task) : System :=
  { s with jobs := s.jobs ++ [⟨s.next, task, s.next⟩], queue := s.queue ++ [s.next], next := s.next + 1 }

def spawnRefreshes : Nat → System → System
  | 0, s => s
  | n + 1, s => spawnRefreshes n (s.spawn (.refresh { background := true }))

/-- Wakes the jobs whose wait was ended by a cancellation. -/
def wakeCancelled (s : System) : System :=
  let woken := s.jobs.filter fun job =>
    !s.queue.contains job.number && (match job.task with
      | .drive d => d.heedsCancel && s.world.isCancelled d.id
      | .refresh _ => false)
  { s with queue := s.queue ++ woken.map (·.number) }

/-- Takes over the world as a step has left it, and follows up what the step has set off. -/
def follow (s : System) (w : World) : System :=
  (spawnRefreshes w.triggered { s with world := { w with triggered := 0 } }).wakeCancelled

def putJob (s : System) (number : Nat) (f : Job → Job) : System :=
  { s with jobs := s.jobs.map fun job => if job.number == number then f job else job }

def timers (s : System) : List Instant := s.jobs.filterMap fun job => (job.task.waiting s.world).instant?

/-- Moves the clock to the next instant for which something waits, the caller included, and wakes the jobs that
wait for it. -/
def advance (s : System) (caller : Waiting) : Option System :=
  match (caller.instant?.toList ++ s.timers).min? with
  | none => none
  | some t =>
    let t := max t s.world.now
    let world := { s.world with net := { s.world.net with now := t } }
    let due := s.jobs.filter fun job => (job.task.waiting world).instant?.any (· ≤ t)
    let woken := (due.mergeSort fun a b => a.since ≤ b.since).map (·.number)
    some { s with world, queue := s.queue ++ woken }

/-- Runs the job at the head of the queue for one step, or lets it wait again. -/
def stepJob (s : System) (number : Nat) (rest : List Nat) : System :=
  match s.jobs.find? (·.number == number) with
  | none => { s with queue := rest }
  | some job =>
    if job.task.isFinished then
      { s with queue := rest, jobs := s.jobs.filter (·.number != number) }
    else if (job.task.waiting s.world).isOver s.world.now then
      let (task, world) := job.task.step s.world
      (s.putJob number fun job => { job with task }).follow world
    else
      { s with queue := rest, next := s.next + 1 }.putJob number fun job => { job with since := s.next }

/-- Runs an operation until it has an answer, and the jobs while it waits. `fuel` bounds the number of steps. -/
def run : Nat → Operation β → System → Operation β × System
  | 0, o, s => (o, s)
  | fuel + 1, o, s =>
    match o with
    | .finished b => (.finished b, s)
    | o =>
      if o.waiting.isOver s.world.now then
        let (o, world) := o.step s.world
        run fuel o (s.follow world)
      else
        match s.queue with
        | number :: rest => run fuel o (s.stepJob number rest)
        | [] =>
          match s.advance o.waiting with
          | some s => run fuel o s
          | none => (o, s)

def settle : Nat → System → System
  | 0, s => s
  | fuel + 1, s =>
    match s.queue with
    | [] => s
    | number :: rest => settle fuel (s.stepJob number rest)

/-- More steps than any run takes. -/
def stepLimit : Nat := 1000000000

def carryOut (s : System) (operation : World → Operation β × World) : Option β × System :=
  let (o, world) := operation s.world
  let (o, s) := run stepLimit o (s.follow world)
  (o.answer?, s)

def settled (s : System) : System := settle stepLimit s

end System

end LedgerNet
