import HeaderAudit.Scan.Batch
import HeaderAudit.Ident
/-!
Scan jobs and their bookkeeping. A job has an identifier, the targets it was asked to scan, a status
(`pending`, `running`, then `done`, `failed` or `canceled`), the failure text of a job that did not
finish, and the result of one that did.
-/
namespace HeaderAudit

/-- What a live scan looked at: the addresses, and the counts of the analysis. -/
structure ScanResult where
  urls : List String
  summary : Summary
  deriving Repr, Inhabited

def ScanResult.toJson (r : ScanResult) : Json :=
  .obj [("urls", .strs r.urls), ("summary", r.summary.toJson)]

/-- The stages of a job. -/
inductive JobStatus where
  | pending
  | running
  | done
  | failed
  | canceled
  deriving Repr, BEq, DecidableEq, Inhabited

def JobStatus.name : JobStatus → String
  | .pending => "pending"
  | .running => "running"
  | .done => "done"
  | .failed => "failed"
  | .canceled => "canceled"

def JobStatus.ended (s : JobStatus) : Bool := s = .done ∨ s = .failed ∨ s = .canceled

/-- Something a job announces. -/
inductive JobEvent where
  | status (s : JobStatus) (error : String)
  | progress (stage : String) (processed total : Nat)
  | result (r : ScanResult)
  deriving Repr, Inhabited

def JobEvent.toJson (id : String) : JobEvent → Json
  | .status s error =>
    .obj ([("job_id", .str id), ("type", .str "status"), ("status", .str s.name)] ++
      (if error = "" then [] else [("error", .str error)]))
  | .progress stage processed total =>
    .obj ([("job_id", .str id), ("type", .str "progress")] ++
      (if stage = "" then [] else [("stage", .str stage)]) ++
      (if processed = 0 then [] else [("processed", .nat processed)]) ++
      (if total = 0 then [] else [("total", .nat total)]))
  | .result r =>
    .obj [("job_id", .str id), ("type", .str "result"), ("status", .str "done"),
      ("result", r.toJson)]

/-- How far a job's run has got: filed and not begun; scanning; the scan returned with its
outcome; the end status set from that outcome and from whether the job's context was then found
cancelled; and finished, its end recorded and its events closed. -/
inductive JobStage where
  | waiting
  | scanning
  | returned (outcome : Outcome ScanResult)
  | settled (outcome : Outcome ScanResult) (cancelled : Bool)
  | finished (outcome : Outcome ScanResult) (cancelled : Bool)
  deriving Inhabited

/-- A job: its identifier, kind, targets (none when it was given none), status, failure text and
result; every event it announced; its event channel, with the events it holds for a reader, those
a reader took, and whether it is closed; how far its run has got; whether it still has a cancel
entry, whether its context is cancelled, whether its end is recorded, and whether the board has
forgotten it. -/
structure Job where
  id : String
  kind : String
  targets : Option (List String)
  status : JobStatus
  error : String
  result : Option ScanResult
  events : List JobEvent
  unread : List JobEvent
  taken : List JobEvent
  closed : Bool
  stage : JobStage
  cancellable : Bool
  contextDone : Bool
  ended : Bool
  forgotten : Bool
  deriving Inhabited

/-- How many events a job holds for a reader; while the buffer is full, later events are
dropped. -/
def eventBuffer : Nat := 64

def Job.toJson (j : Job) : Json :=
  .obj ([("id", .str j.id), ("type", .str j.kind),
    ("targets", match j.targets with
      | some ts => .strs ts
      | none => .null),
    ("status", .str j.status.name)] ++
    (if j.error = "" then [] else [("error", .str j.error)]) ++
    (match j.result with
      | some r => [("result", r.toJson)]
      | none => []))

def boardClosed : Error := Error.ofFault .closed

/-- A step of a job: of its run (it begins, its scan reports progress or returns, the end status
is set, the run finishes) or of a caller (the job's cancel entry is used, the context the caller
started it from is cancelled, a reader takes the oldest event held). -/
inductive JobStep where
  | begin
  | progress (stage : String) (processed total : Nat)
  | returns (outcome : Outcome ScanResult)
  | settle
  | finish
  | cancel
  | cancelCaller
  | receive

namespace Job

/-- A job as it is filed: pending, having announced so, with a cancel entry; its context is
cancelled from the start when the caller's already is. -/
def filed (id : String) (targets : List String) (callerDone : Bool) : Job :=
  ⟨id, "scan", if targets = [] then none else some targets, .pending, "", none,
    [.status .pending ""], [.status .pending ""], [], false, .waiting, true, callerDone, false, false⟩

def announce (j : Job) (ev : JobEvent) : Job :=
  { j with events := j.events ++ [ev],
           unread := if j.unread.length < eventBuffer then j.unread ++ [ev] else j.unread }

def setStatus (j : Job) (s : JobStatus) (error : String) : Job :=
  { j with status := s, error := error }.announce (.status s error)

/-- Ends a run whose scan returned: cancelled when the job's context is found cancelled, else
failed with the scan's failure, else done with its result. -/
def conclude (j : Job) (outcome : Outcome ScanResult) : Job :=
  if j.contextDone then j.setStatus .canceled cancelled.message
  else match outcome with
    | .error e => j.setStatus .failed e.message
    | .ok r => { j with status := .done, result := some r }.announce (.result r)

/-- Takes one step. A step of the run out of its order changes nothing; finishing cancels the
job's context as it drops the cancel entry. -/
def step (j : Job) : JobStep → Job
  | .begin =>
    match j.stage with
    | .waiting => { j.setStatus .running "" with stage := .scanning }
    | _ => j
  | .progress stage processed total =>
    match j.stage with
    | .scanning => j.announce (.progress stage processed total)
    | _ => j
  | .returns outcome =>
    match j.stage with
    | .scanning => { j with stage := .returned outcome }
    | _ => j
  | .settle =>
    match j.stage with
    | .returned outcome => { j.conclude outcome with stage := .settled outcome j.contextDone }
    | _ => j
  | .finish =>
    match j.stage with
    | .settled outcome found =>
      { j with stage := .finished outcome found, ended := true, cancellable := false,
               contextDone := true, closed := true }
    | _ => j
  | .cancel => if j.cancellable then { j with contextDone := true } else j
  | .cancelCaller => { j with contextDone := true }
  | .receive =>
    match j.unread with
    | ev :: rest => { j with unread := rest, taken := j.taken ++ [ev] }
    | [] => j

def run (j : Job) (steps : List JobStep) : Job := steps.foldl step j

end Job

/-- The jobs of an application, oldest first, whether new jobs are refused, how long ended jobs
are kept (in nanoseconds), and the supply of identifiers. -/
structure JobBoard where
  jobs : List Job
  closed : Bool
  retention : Int
  ids : IdSupply

namespace JobBoard

/-- The first identifier number of jobs, far from those of exclusion rules drawn from the same
source. -/
def firstId : Nat := 0x100000000000

def empty (source : IdSource) (retention : Int) : JobBoard := ⟨[], false, retention, ⟨source, firstId⟩⟩

def get? (b : JobBoard) (id : String) : Option Job := b.jobs.find? fun j => j.id == id && !j.forgotten

def listed (b : JobBoard) : List Job := b.jobs.filter (!·.forgotten)

/-- Starts a job for some targets: refused once the board is closed, and otherwise filed under a
fresh identifier. -/
def start (b : JobBoard) (targets : List String) (callerDone : Bool) : Outcome (Job × JobBoard) :=
  if b.closed then .error boardClosed
  else
    let (id, ids) := b.ids.fresh
    let job := Job.filed id targets callerDone
    .ok (job, { b with jobs := b.jobs ++ [job], ids := ids })

def stepJob (b : JobBoard) (id : String) (s : JobStep) : JobBoard :=
  { b with jobs := b.jobs.map fun j => if j.id = id then j.step s else j }

/-- Forgets the jobs whose end was recorded longer ago than the retention. A retention shorter
than a millisecond forgets every ended job, as they ended longer ago than that by the time the
board is tidied. -/
def prune (b : JobBoard) : JobBoard :=
  if 0 < b.retention ∧ b.retention < 1000000 then
    { b with jobs := b.jobs.map fun j => if j.ended then { j with forgotten := true } else j }
  else b

def takeEvents (b : JobBoard) (id : String) : List JobEvent × JobBoard :=
  (((b.get? id).map (·.unread)).getD [],
    { b with jobs := b.jobs.map fun j =>
      if j.id = id ∧ j.forgotten = false then { j with unread := [], taken := j.taken ++ j.unread }
      else j })

/-- Closes the board: later jobs are refused, and every job that has a cancel entry is
cancelled. -/
def close (b : JobBoard) : JobBoard := { b with closed := true, jobs := b.jobs.map (·.step .cancel) }

end JobBoard

end HeaderAudit
