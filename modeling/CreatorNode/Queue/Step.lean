import Mathlib.Logic.Function.Basic
import Mathlib.Data.List.Basic

namespace CreatorNode

namespace ProcessNames

def trackContentUpload : String := "trackContentUpload"
def transcodeAndSegment : String := "transcodeAndSegment"
def processTranscodeAndSegments : String := "processTranscodeAndSegments"

end ProcessNames

def maxConcurrency : Nat := 100

/-- `EXPIRATION`, in seconds: the `EX` of every `redisClient.set` of a job's state. -/
def expiration : Nat := 86400

/-- `constructProcessKey(taskType, uuid)`: the redis key of a job's state. -/
def constructProcessKey (taskType uuid : String) : String := taskType ++ ":::" ++ uuid

/-- The value `monitorProgress` writes at a job's key: `{ status: IN_PROGRESS }`, then
`{ status: DONE, resp: response }` or `{ status: FAILED, resp: e.message }`. -/
inductive ProcessState
  | inProgress
  | done (resp : String)
  | failed (resp : String)
  deriving DecidableEq, Repr

inductive ProcessFn
  | trackContentUpload
  | transcodeAndSegment
  | processTranscodeAndSegments
  deriving DecidableEq, Repr

/-- `getFn(task)`: the processing function of a task of `PROCESS_NAMES`, `null` for any other. -/
def getFn (task : String) : Option ProcessFn :=
  if task = ProcessNames.trackContentUpload then some .trackContentUpload
  else if task = ProcessNames.transcodeAndSegment then some .transcodeAndSegment
  else if task = ProcessNames.processTranscodeAndSegments then some .processTranscodeAndSegments
  else none

/-- What a queue registers with `this.queue.process`: for the task a job carries, the `taskType`
its handler passes to `monitorProgress` and the function it runs (`none` for a `null` function),
`none` when no handler takes the job; and how many jobs Bull runs at once. -/
structure Processor where
  handler : String → Option (String × Option ProcessFn)
  concurrency : Nat

/-- `AsyncProcessingQueue`: one handler, `this.queue.process(MAX_CONCURRENCY, ...)`, for every job,
which runs `monitorProgress(task, this.getFn(task), job.data)`. -/
def asyncProcessingQueue : Processor where
  handler task := some (task, getFn task)
  concurrency := maxConcurrency

/-- The `this.queue.process(name, MAX_CONCURRENCY, handler)` calls of `FileProcessingQueue`: the job
name each takes, its concurrency, and the `taskType` and function its handler passes to
`monitorProgress`. -/
def fileProcessingQueueHandlers : List (String × Nat × String × ProcessFn) :=
  [(ProcessNames.trackContentUpload, maxConcurrency, ProcessNames.trackContentUpload,
      .trackContentUpload),
    (ProcessNames.transcodeAndSegment, maxConcurrency, ProcessNames.trackContentUpload,
      .trackContentUpload)]

/-- `FileProcessingQueue`: a job goes to the handler registered under its name, to none when no
`process` call registered the name; the handlers' concurrencies add up. -/
def fileProcessingQueue : Processor where
  handler name :=
    (fileProcessingQueueHandlers.find? (·.1 = name)).map fun h => (h.2.2.1, some h.2.2.2)
  concurrency := fileProcessingQueueHandlers.foldr (fun h total => h.2.1 + total) 0

/-- What a handler reads of a job: the task it dispatches on (the job's name for
`FileProcessingQueue`, `job.data.task` for `AsyncProcessingQueue`), and `logContext.requestID`. -/
structure Job where
  task : String
  requestID : String
  deriving DecidableEq, Repr

inductive JobStatus
  | waiting
  | active
  | completed (resp : String)
  | failed (msg : String)
  deriving DecidableEq, Repr

def JobStatus.processState : JobStatus → Option ProcessState
  | .waiting => none
  | .active => some .inProgress
  | .completed resp => some (.done resp)
  | .failed msg => some (.failed msg)

/-- The queue's jobs, in the order they were added (the index is the job id), the redis keys
`monitorProgress` writes, each with the time it expires at, and the time in seconds. -/
structure QueueState where
  jobs : List (Job × JobStatus)
  redis : String → Option (ProcessState × Nat)
  now : Nat

def QueueState.init : QueueState := ⟨[], fun _ => none, 0⟩

/-- A redis `GET` of `key`: its value until the time it expires at has passed. -/
def QueueState.get (s : QueueState) (key : String) : Option ProcessState :=
  match s.redis key with
  | some (v, expiresAt) => if s.now ≤ expiresAt then some v else none
  | none => none

/-- `addTask`: `this.queue.add(...)` appends a waiting job. -/
def QueueState.add (s : QueueState) (job : Job) : QueueState :=
  { s with jobs := s.jobs ++ [(job, .waiting)] }

def QueueState.setStatus (s : QueueState) (id : Nat) (job : Job) (st : JobStatus) : QueueState :=
  { s with jobs := s.jobs.set id (job, st) }

/-- A handler moves job `id` to `st` with `redisClient.set(key, state, 'EX', EXPIRATION)`. -/
def QueueState.write (s : QueueState) (id : Nat) (job : Job) (key : String) (st : JobStatus) :
    QueueState :=
  { s.setStatus id job st with
    redis := Function.update s.redis key (st.processState.map (·, s.now + expiration)) }

def QueueState.tick (s : QueueState) (seconds : Nat) : QueueState :=
  { s with now := s.now + seconds }

/-- The error Bull's `processJob` fails a job with when no handler is registered for its name. -/
def missingHandlerMessage (name : String) : String :=
  "Missing process handler for job type " ++ name

def activeCount (s : QueueState) : Nat := s.jobs.countP (·.2 = .active)

inductive QueueAction
  | add (job : Job)
  | start (id : Nat)
  | reject (id : Nat)
  | succeed (id : Nat) (resp : String)
  | fail (id : Nat) (msg : String)
  | tick (seconds : Nat)
  deriving DecidableEq, Repr

/-- One step of a queue. `start` is a handler's call of `monitorProgress` up to its first `await`,
the `set` of `IN_PROGRESS`; `succeed` and `fail` are the function resolving or throwing, with the
`set` of `DONE` or `FAILED` that follows. A `null` function can only throw. `reject` is Bull taking
a job whose name no handler is registered for and failing it, with nothing written to redis.
`tick` is time passing, which is what makes a key expire. `none`: the action is not possible in
this state. -/
def queueStep (p : Processor) : QueueAction → QueueState → Option QueueState
  | .add job, s => some (s.add job)
  | .start id, s =>
    match s.jobs[id]? with
    | some (job, .waiting) =>
      match p.handler job.task with
      | some (taskType, _) =>
        if activeCount s < p.concurrency then
          some (s.write id job (constructProcessKey taskType job.requestID) .active)
        else none
      | none => none
    | _ => none
  | .reject id, s =>
    match s.jobs[id]? with
    | some (job, .waiting) =>
      match p.handler job.task with
      | none => some (s.setStatus id job (.failed (missingHandlerMessage job.task)))
      | some _ => none
    | _ => none
  | .succeed id resp, s =>
    match s.jobs[id]? with
    | some (job, .active) =>
      match p.handler job.task with
      | some (taskType, some _) =>
        some (s.write id job (constructProcessKey taskType job.requestID) (.completed resp))
      | _ => none
    | _ => none
  | .fail id msg, s =>
    match s.jobs[id]? with
    | some (job, .active) =>
      match p.handler job.task with
      | some (taskType, _) =>
        some (s.write id job (constructProcessKey taskType job.requestID) (.failed msg))
      | none => none
    | _ => none
  | .tick seconds, s => some (s.tick seconds)

def queueRun (p : Processor) : List QueueAction → QueueState → Option QueueState
  | [], s => some s
  | a :: as, s => (queueStep p a s).bind (queueRun p as)

def statusKey (p : Processor) (job : Job) : Option String :=
  (p.handler job.task).map fun h => constructProcessKey h.1 job.requestID

variable {p : Processor} {a : QueueAction} {s s' : QueueState} {acts : List QueueAction}

/-- What one step can do: add a waiting job, let time pass, fail a waiting job no handler takes, or
move job `id` on, writing its new state at its key. A job is taken only while it waits and fewer than
`concurrency` jobs run; it finishes only while active, and completes only when its function is not
`null`. -/
theorem queueStep_cases (h : queueStep p a s = some s') :
    (∃ job, a = .add job ∧ s' = s.add job) ∨ (∃ seconds, s' = s.tick seconds) ∨
      (∃ id job, s.jobs[id]? = some (job, .waiting) ∧ p.handler job.task = none ∧
        s' = s.setStatus id job (.failed (missingHandlerMessage job.task))) ∨
      ∃ id job st₀ st taskType func, s.jobs[id]? = some (job, st₀) ∧
        p.handler job.task = some (taskType, func) ∧
        s' = s.write id job (constructProcessKey taskType job.requestID) st ∧
        (st₀ = .waiting ∧ st = .active ∧ activeCount s < p.concurrency ∨
          st₀ = .active ∧ func.isSome ∧ (∃ resp, st = .completed resp) ∨
          st₀ = .active ∧ ∃ msg, st = .failed msg) := by
  cases a with
  | add job => exact .inl ⟨job, rfl, (Option.some.inj h).symm⟩
  | start id =>
    simp only [queueStep] at h
    split at h <;> try contradiction
    split at h <;> try contradiction
    split at h <;> try contradiction
    cases h
    exact .inr (.inr (.inr ⟨id, _, _, _, _, _, ‹_›, ‹_›, rfl, .inl ⟨rfl, rfl, ‹_›⟩⟩))
  | reject id =>
    simp only [queueStep] at h
    split at h <;> try contradiction
    split at h <;> try contradiction
    cases h
    exact .inr (.inr (.inl ⟨id, _, ‹_›, ‹_›, rfl⟩))
  | succeed id resp =>
    simp only [queueStep] at h
    split at h <;> try contradiction
    split at h <;> try contradiction
    cases h
    exact .inr (.inr (.inr ⟨id, _, _, _, _, _, ‹_›, ‹_›, rfl, .inr (.inl ⟨rfl, by rfl, _, rfl⟩)⟩))
  | fail id msg =>
    simp only [queueStep] at h
    split at h <;> try contradiction
    split at h <;> try contradiction
    cases h
    exact .inr (.inr (.inr ⟨id, _, _, _, _, _, ‹_›, ‹_›, rfl, .inr (.inr ⟨rfl, _, rfl⟩)⟩))
  | tick seconds => exact .inr (.inl ⟨seconds, (Option.some.inj h).symm⟩)

end CreatorNode
