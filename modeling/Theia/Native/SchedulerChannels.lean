import Theia.Native.Scheduler

/-!
# The scheduler's channels and its workers

`dispatchReady` sends tasks into the task channel while it holds the scheduler lock, workers
receive them, and `Complete` sends what they finished into the completion channel that the run
loop receives from. The limits of a dispatch cycle are computed from the settings and from the
capacities of the two channels.

A channel is the list of what was sent and not yet received, so a send waits exactly when the
list is as long as the capacity. `Complete` is two steps, the check of `running` and the send:
anything can happen between them. Metrics and the redue channel are not modelled.
-/

namespace Theia

/-! ### Limits of a dispatch cycle -/

/-- `defaultTaskBuffer`, the capacity of both channels in `NewScheduler`. -/
def defaultTaskBuffer : Nat := 128

/-- `bufferLimit`, for the capacities of the task and the completion channel. -/
def bufferLimit (tasksCap completionsCap : Nat) : Int :=
  if tasksCap = 0 ∨ (0 < completionsCap ∧ completionsCap < tasksCap) then completionsCap
  else tasksCap

def clampEssentialLimit (limit bufferLimit : Int) : Int :=
  let limit := if 0 < bufferLimit ∧ bufferLimit < limit then bufferLimit else limit
  if limit ≤ 0 then 1 else limit

def defaultWorkerPoolSize : Int := 5

/-- `pollingbudget.Sum` -/
def budgetSum (budgets : VolatilityClass → Int) : Int :=
  let total := [VolatilityClass.performance, .operational, .static].foldl
    (fun total volatility =>
      if 0 < budgets volatility then total + budgets volatility else total) 0
  if total ≤ 0 then defaultWorkerPoolSize else total

/-- What a dispatch cycle reads from the settings: the class budgets and the polling policy
with its number of essential workers. -/
structure WorkerSettings where
  budgets : VolatilityClass → Int
  policy : Policy
  essentialWorkers : Int

def dispatchLimits (settings : WorkerSettings) (bufferLimit : Int) : DispatchLimits :=
  let essentialLimit := clampEssentialLimit settings.essentialWorkers bufferLimit
  let globalLimit := budgetSum settings.budgets + essentialLimit
  { budgets := settings.budgets
    policy := settings.policy
    essentialLimit := essentialLimit
    globalLimit :=
      if 0 < bufferLimit ∧ bufferLimit < globalLimit then bufferLimit else globalLimit }

/-! ### Channels and workers -/

/-- A scheduler with its channels and the workers that use them. -/
structure SchedulerChannels where
  scheduler : Scheduler := {}
  /-- `s.running` -/
  running : Bool := false
  /-- `s.tasks` -/
  tasks : List PollTask := []
  /-- The tasks that workers received and did not complete yet. -/
  working : List PollTask := []
  /-- The calls of `Complete` that found the scheduler running and did not send yet. -/
  completing : List Completion := []
  /-- `s.completions` -/
  completions : List Completion := []

namespace SchedulerChannels

/-- A step of the run loop, of a worker or of a caller of the scheduler. -/
inductive Op
  /-- A critical section that neither dispatches nor handles a completion. -/
  | locked (op : Scheduler.Op)
  /-- `dispatchReady` with the settings it finds. -/
  | dispatch (settings : WorkerSettings) (now : Time) (cancelAfter : Option Nat)
  /-- `running` becomes false: the run loop returns, or `Stop` is about to wait for it. -/
  | halt
  /-- A worker receives a task. -/
  | receive
  /-- A worker is done with a task and calls `Complete`, which looks at `running`. -/
  | complete (task : PollTask) (finishedAt : Time)
  /-- A call of `Complete` sends. -/
  | send (c : Completion)
  /-- The run loop receives a completion and handles it. -/
  | handle (now : Time) (jitter : Duration)

/-- The completion that `runTask` reports for a task. -/
def completionOf (task : PollTask) (finishedAt : Time) : Completion :=
  { runID := task.runID, key := task.key, finishedAt := finishedAt }

/-- `Complete`, up to its send: nothing is sent while the scheduler is stopped. -/
def complete (st : SchedulerChannels) (task : PollTask) (finishedAt : Time) : SchedulerChannels :=
  let st := { st with working := st.working.erase task }
  if st.running then { st with completing := completionOf task finishedAt :: st.completing } else st

/-- The effect of a critical section on the flag and the channels: `Start` of a stopped
scheduler sets `running`, `Stop` of a started one drains both channels. -/
def locked (st : SchedulerChannels) (op : Scheduler.Op) : SchedulerChannels :=
  let st' := { st with scheduler := (st.scheduler.step op).1 }
  match op with
  | .start _ _ _ => { st' with running := if st.scheduler.started then st.running else true }
  | .stop =>
    if st.scheduler.started then { st' with running := false, tasks := [], completions := [] }
    else st'
  | _ => st'

/-- The critical section that a step performs, if it takes the lock. -/
def criticalSection (st : SchedulerChannels) : Op → Option Scheduler.Op
  | .locked op => some op
  | .dispatch settings now cancelAfter =>
    some (.dispatch (dispatchLimits settings (bufferLimit defaultTaskBuffer defaultTaskBuffer))
      now cancelAfter)
  | .handle now jitter => st.completions.head?.map fun c => .complete c now jitter
  | .halt | .receive | .complete _ _ | .send _ => none

/-- What a step shows to the outside. -/
def events (st : SchedulerChannels) (op : Op) : List Scheduler.Event :=
  match st.criticalSection op with
  | some op => (st.scheduler.step op).2
  | none => []

/-- The effect of one step. -/
def step (st : SchedulerChannels) : Op → SchedulerChannels
  | .locked op => st.locked op
  | .dispatch settings now cancelAfter =>
    let limits := dispatchLimits settings (bufferLimit defaultTaskBuffer defaultTaskBuffer)
    let (s, sent) := st.scheduler.dispatchReady limits now cancelAfter
    { st with scheduler := s, tasks := st.tasks ++ sent }
  | .halt => { st with running := false }
  | .receive =>
    match st.tasks with
    | [] => st
    | task :: tasks => { st with tasks := tasks, working := task :: st.working }
  | .complete task finishedAt => st.complete task finishedAt
  | .send c =>
    { st with completing := st.completing.erase c, completions := st.completions ++ [c] }
  | .handle now jitter =>
    match st.completions with
    | [] => st
    | c :: completions =>
      { st with
        scheduler := (st.scheduler.handleCompletion c now jitter).1, completions := completions }

/-- The critical sections of `Op.locked`. -/
def isLocked : Scheduler.Op → Bool
  | .dispatch _ _ _ | .complete _ _ _ => false
  | _ => true

/-- The steps that can be taken. A task is completed by a worker that holds it, so at most
once. -/
def Op.Valid (st : SchedulerChannels) : Op → Prop
  | .locked op => op.Valid st.scheduler ∧ isLocked op
  | .dispatch _ _ _ => st.scheduler.started = true
  | .halt | .receive => True
  | .complete task _ => task ∈ st.working
  | .send c => c ∈ st.completing
  | .handle _ _ => st.scheduler.started = true

/-- One step with the events it emits. -/
def Step (st : SchedulerChannels) (es : List Scheduler.Event) (st' : SchedulerChannels) : Prop :=
  ∃ op : Op, op.Valid st ∧ es = st.events op ∧ st' = st.step op

/-- A state that a new scheduler can reach, with the events on the way. -/
abbrev Reached : SchedulerChannels → List Scheduler.Event → Prop := Run (· = {}) Step

end SchedulerChannels

end Theia
