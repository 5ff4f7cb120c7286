import Mathlib
import HeaderAudit.Scan.Application
/-!
Every scan job keeps to its lifecycle, whatever the order in which jobs and callers act.
-/

namespace HeaderAudit

theorem JobEvent.toJson_names_job (id : String) (ev : JobEvent) :
    ∃ fields, ev.toJson id = .obj (("job_id", .str id) :: fields) := by
  cases ev <;> exact ⟨_, rfl⟩

def JobEvent.isProgress : JobEvent → Bool
  | .progress .. => true
  | _ => false

/-- The status changes a job makes: it begins running, and a running job ends. -/
inductive JobStatus.Advances : JobStatus → JobStatus → Prop
  | begin : JobStatus.Advances .pending .running
  | finish {s : JobStatus} (ended : s.ended = true) : JobStatus.Advances .running s

namespace JobStage

def endStatus : Outcome ScanResult → Bool → JobStatus
  | _, true => .canceled
  | .error _, false => .failed
  | .ok _, false => .done

def endError : Outcome ScanResult → Bool → String
  | _, true => cancelled.message
  | .error e, false => e.message
  | .ok _, false => ""

def endResult : Outcome ScanResult → Bool → Option ScanResult
  | _, true => none
  | .error _, false => none
  | .ok r, false => some r

def endEvent : Outcome ScanResult → Bool → JobEvent
  | _, true => .status .canceled cancelled.message
  | .error e, false => .status .failed e.message
  | .ok r, false => .result r

def status : JobStage → JobStatus
  | waiting => .pending
  | scanning | returned _ => .running
  | settled o c | finished o c => endStatus o c

def error : JobStage → String
  | settled o c | finished o c => endError o c
  | _ => ""

def result : JobStage → Option ScanResult
  | settled o c | finished o c => endResult o c
  | _ => none

def announced (progress : List JobEvent) : JobStage → List JobEvent
  | waiting => [.status .pending ""]
  | scanning | returned _ => [.status .pending "", .status .running ""] ++ progress
  | settled o c | finished o c =>
    [.status .pending "", .status .running ""] ++ progress ++ [endEvent o c]

def isFinished : JobStage → Bool
  | finished _ _ => true
  | _ => false

/-- The next stage of a run, the end status set from the context as it is found then. -/
inductive Next (found : Bool) : JobStage → JobStage → Prop
  | begin : Next found waiting scanning
  | returns (o : Outcome ScanResult) : Next found scanning (returned o)
  | settle (o : Outcome ScanResult) : Next found (returned o) (settled o found)
  | finish (o : Outcome ScanResult) (c : Bool) : Next found (settled o c) (finished o c)

theorem endStatus_ended (o : Outcome ScanResult) (c : Bool) : (endStatus o c).ended = true := by
  cases c <;> cases o <;> rfl

theorem Next.status {found : Bool} {st st' : JobStage} (next : Next found st st') :
    st'.status = st.status ∨ st.status.Advances st'.status := by
  cases next with
  | begin => exact .inr .begin
  | returns o => exact .inl rfl
  | settle o => exact .inr (.finish (endStatus_ended o found))
  | finish o c => exact .inl rfl

theorem Next.ended_fixed {found : Bool} {st st' : JobStage} (next : Next found st st')
    (ended : st.status.ended = true) :
    st'.status = st.status ∧ st'.error = st.error ∧ st'.result = st.result := by
  cases next with
  | begin => cases ended
  | returns o => cases ended
  | settle o => cases ended
  | finish o c => exact ⟨rfl, rfl, rfl⟩

theorem endResult_isSome {o : Outcome ScanResult} {c : Bool} (held : (endResult o c).isSome) :
    endStatus o c = .done := by
  cases c <;> cases o <;> simp_all [endResult, endStatus]

end JobStage

namespace Job

/-- A job keeps to its lifecycle: its status, failure text and result are those of the stage its
run has reached; it announced that it was pending, that it ran, progress, and its end, as far as
its run has got; a reader has taken and the channel holds some of these, in order, never more than
the channel's room; and its events are closed exactly when its run has finished, by which time its
end is recorded, its cancel entry dropped and its context cancelled. -/
structure Lifecycle (j : Job) : Prop where
  status : j.status = j.stage.status
  error : j.error = j.stage.error
  result : j.result = j.stage.result
  announced : ∃ progress : List JobEvent, (∀ ev ∈ progress, ev.isProgress) ∧
    j.events = j.stage.announced progress
  delivered : (j.taken ++ j.unread).Sublist j.events
  bounded : j.unread.length ≤ eventBuffer
  closed : j.closed = j.stage.isFinished
  ended : j.ended = j.stage.isFinished
  released : j.stage.isFinished = true → j.cancellable = false ∧ j.contextDone = true
  forgotten : j.forgotten = true → j.ended = true

theorem filed_lifecycle (id : String) (targets : List String) (callerDone : Bool) :
    (filed id targets callerDone).Lifecycle where
  status := rfl
  error := rfl
  result := rfl
  announced := ⟨[], nofun, rfl⟩
  delivered := List.Sublist.refl _
  bounded := by simp [filed, eventBuffer]
  closed := rfl
  ended := rfl
  released := nofun
  forgotten := nofun

section Announce

variable (j : Job) (ev : JobEvent)

@[simp] theorem events_announce : (j.announce ev).events = j.events ++ [ev] := rfl

@[simp] theorem taken_announce : (j.announce ev).taken = j.taken := rfl

@[simp] theorem stage_announce : (j.announce ev).stage = j.stage := rfl

theorem announce_delivered (delivered : (j.taken ++ j.unread).Sublist j.events) :
    ((j.announce ev).taken ++ (j.announce ev).unread).Sublist (j.announce ev).events := by
  simp only [announce]
  -- the channel keeps the event after what it holds, or drops it
  split
  · rw [← List.append_assoc]
    exact delivered.append (List.Sublist.refl [ev])
  · exact delivered.trans (List.sublist_append_left _ _)

theorem announce_bounded (bounded : j.unread.length ≤ eventBuffer) :
    (j.announce ev).unread.length ≤ eventBuffer := by
  simp only [announce]
  split
  · simp only [List.length_append, List.length_singleton]
    omega
  · exact bounded

end Announce

theorem conclude_eq (j : Job) (outcome : Outcome ScanResult) (pending : j.result = none)
    (clean : j.error = "") :
    j.conclude outcome = { j.announce (JobStage.endEvent outcome j.contextDone) with
      status := JobStage.endStatus outcome j.contextDone,
      error := JobStage.endError outcome j.contextDone,
      result := JobStage.endResult outcome j.contextDone } := by
  obtain ⟨id, kind, targets, status, error, result, events, unread, taken, closed, stage,
    cancellable, contextDone, ended, forgotten⟩ := j
  cases pending
  cases clean
  cases contextDone <;> cases outcome <;> rfl

namespace Lifecycle

variable {j : Job} (life : j.Lifecycle)
include life

theorem begin (waiting : j.stage = .waiting) :
    { j.setStatus .running "" with stage := .scanning }.Lifecycle := by
  obtain ⟨p, _, events⟩ := life.announced
  rw [waiting] at events
  have closed := life.closed
  have ended := life.ended
  have result := life.result
  rw [waiting] at closed ended result
  exact
    { status := rfl
      error := rfl
      result := result
      announced := ⟨[], nofun, by simp [setStatus, events, JobStage.announced]⟩
      delivered := announce_delivered _ _ life.delivered
      bounded := announce_bounded _ _ life.bounded
      closed := closed
      ended := ended
      released := nofun
      forgotten := life.forgotten }

theorem progress (scanning : j.stage = .scanning) (stage : String) (processed total : Nat) :
    (j.announce (.progress stage processed total)).Lifecycle := by
  obtain ⟨p, onlyProgress, events⟩ := life.announced
  rw [scanning] at events
  refine
    { status := life.status
      error := life.error
      result := life.result
      announced := ⟨p ++ [.progress stage processed total], ?_, ?_⟩
      delivered := announce_delivered _ _ life.delivered
      bounded := announce_bounded _ _ life.bounded
      closed := life.closed
      ended := life.ended
      released := life.released
      forgotten := life.forgotten }
  · intro ev mem
    rcases List.mem_append.mp mem with old | new
    · exact onlyProgress ev old
    · rw [List.mem_singleton.mp new]
      rfl
  · simp [events, scanning, JobStage.announced]

theorem returns (scanning : j.stage = .scanning) (outcome : Outcome ScanResult) :
    { j with stage := .returned outcome }.Lifecycle := by
  obtain ⟨p, onlyProgress, events⟩ := life.announced
  have status := life.status
  have error := life.error
  have result := life.result
  have closed := life.closed
  have ended := life.ended
  rw [scanning] at events status error result closed ended
  exact
    { status := status
      error := error
      result := result
      announced := ⟨p, onlyProgress, events⟩
      delivered := life.delivered
      bounded := life.bounded
      closed := closed
      ended := ended
      released := nofun
      forgotten := life.forgotten }

theorem settle {outcome : Outcome ScanResult} (returned : j.stage = .returned outcome) :
    { j.conclude outcome with stage := .settled outcome j.contextDone }.Lifecycle := by
  obtain ⟨p, onlyProgress, events⟩ := life.announced
  have closed := life.closed
  have ended := life.ended
  have result := life.result
  have error := life.error
  rw [returned] at events closed ended result error
  rw [conclude_eq j outcome result error]
  exact
    { status := rfl
      error := rfl
      result := rfl
      announced := ⟨p, onlyProgress, by simp [events, JobStage.announced]⟩
      delivered := announce_delivered _ _ life.delivered
      bounded := announce_bounded _ _ life.bounded
      closed := closed
      ended := ended
      released := nofun
      forgotten := life.forgotten }

theorem finish {outcome : Outcome ScanResult} {found : Bool}
    (settled : j.stage = .settled outcome found) :
    { j with stage := .finished outcome found, ended := true, cancellable := false,
             contextDone := true, closed := true }.Lifecycle := by
  obtain ⟨p, onlyProgress, events⟩ := life.announced
  have status := life.status
  have error := life.error
  have result := life.result
  rw [settled] at events status error result
  exact
    { status := status
      error := error
      result := result
      announced := ⟨p, onlyProgress, events⟩
      delivered := life.delivered
      bounded := life.bounded
      closed := rfl
      ended := rfl
      released := fun _ => ⟨rfl, rfl⟩
      forgotten := fun _ => rfl }

theorem cancelContext : { j with contextDone := true }.Lifecycle :=
  { status := life.status
    error := life.error
    result := life.result
    announced := life.announced
    delivered := life.delivered
    bounded := life.bounded
    closed := life.closed
    ended := life.ended
    -- a finished run's context is cancelled already
    released := fun finished => ⟨(life.released finished).1, rfl⟩
    forgotten := life.forgotten }

theorem receive {ev : JobEvent} {rest : List JobEvent} (unread : j.unread = ev :: rest) :
    { j with unread := rest, taken := j.taken ++ [ev] }.Lifecycle := by
  have delivered := life.delivered
  have bounded := life.bounded
  rw [unread] at delivered bounded
  exact
    { status := life.status
      error := life.error
      result := life.result
      announced := life.announced
      delivered := by simpa using delivered
      bounded := by
        show rest.length ≤ eventBuffer
        simp only [List.length_cons] at bounded
        omega
      closed := life.closed
      ended := life.ended
      released := life.released
      forgotten := life.forgotten }

theorem takeAll : { j with unread := [], taken := j.taken ++ j.unread }.Lifecycle :=
  { status := life.status
    error := life.error
    result := life.result
    announced := life.announced
    delivered := by simpa using life.delivered
    bounded := Nat.zero_le _
    closed := life.closed
    ended := life.ended
    released := life.released
    forgotten := life.forgotten }

theorem forget (ended : j.ended = true) : { j with forgotten := true }.Lifecycle :=
  { status := life.status
    error := life.error
    result := life.result
    announced := life.announced
    delivered := life.delivered
    bounded := life.bounded
    closed := life.closed
    ended := life.ended
    released := life.released
    forgotten := fun _ => ended }

theorem step (s : JobStep) : (j.step s).Lifecycle := by
  cases s with
  | begin =>
    simp only [Job.step]
    split
    next waiting => exact life.begin waiting
    next => exact life
  | progress stage processed total =>
    simp only [Job.step]
    split
    next scanning => exact life.progress scanning stage processed total
    next => exact life
  | returns outcome =>
    simp only [Job.step]
    split
    next scanning => exact life.returns scanning outcome
    next => exact life
  | settle =>
    simp only [Job.step]
    split
    next outcome returned => exact life.settle returned
    next => exact life
  | finish =>
    simp only [Job.step]
    split
    next outcome found settled => exact life.finish settled
    next => exact life
  | cancel =>
    simp only [Job.step]
    split
    · exact life.cancelContext
    · exact life
  | cancelCaller => exact life.cancelContext
  | receive =>
    simp only [Job.step]
    split
    next ev rest unread => exact life.receive unread
    next => exact life

theorem done_of_result (held : j.result.isSome = true) : j.status = .done := by
  rw [life.result] at held
  rw [life.status]
  cases stage : j.stage with
  | settled o c => rw [stage] at held; exact JobStage.endResult_isSome held
  | finished o c => rw [stage] at held; exact JobStage.endResult_isSome held
  | waiting | scanning | returned o => rw [stage] at held; cases held

end Lifecycle

/-- How one step changes a job: its identifier stays, its run stays at its stage or goes on to
the next, the end status set from the context as it is then, and what it announced and what a
reader took only grow. -/
structure Moves (j j' : Job) : Prop where
  id : j'.id = j.id
  stage : j'.stage = j.stage ∨ j.stage.Next j.contextDone j'.stage
  events : j.events <+: j'.events
  taken : j.taken <+: j'.taken

theorem Moves.refl (j : Job) : j.Moves j :=
  ⟨rfl, .inl rfl, List.prefix_refl _, List.prefix_refl _⟩

theorem conclude_announces (j : Job) (outcome : Outcome ScanResult) :
    (j.conclude outcome).id = j.id ∧ (j.conclude outcome).taken = j.taken ∧
      (j.conclude outcome).events = j.events ++ [JobStage.endEvent outcome j.contextDone] := by
  obtain ⟨id, kind, targets, status, error, result, events, unread, taken, closed, stage,
    cancellable, contextDone, ended, forgotten⟩ := j
  cases contextDone <;> cases outcome <;> exact ⟨rfl, rfl, rfl⟩

theorem step_moves (j : Job) (s : JobStep) : j.Moves (j.step s) := by
  cases s with
  | begin =>
    simp only [step]
    split
    next waiting =>
      exact ⟨rfl, .inr (by rw [waiting]; exact .begin), List.prefix_append _ _, List.prefix_refl _⟩
    next => exact Moves.refl j
  | progress stage processed total =>
    simp only [step]
    split
    next => exact ⟨rfl, .inl rfl, List.prefix_append _ _, List.prefix_refl _⟩
    next => exact Moves.refl j
  | returns outcome =>
    simp only [step]
    split
    next scanning =>
      exact ⟨rfl, .inr (by rw [scanning]; exact .returns outcome), List.prefix_refl _,
        List.prefix_refl _⟩
    next => exact Moves.refl j
  | settle =>
    simp only [step]
    split
    next outcome returned =>
      obtain ⟨id, taken, events⟩ := j.conclude_announces outcome
      refine ⟨id, .inr (by rw [returned]; exact .settle outcome), ?_, ?_⟩
      · exact events ▸ List.prefix_append _ _
      · exact taken ▸ List.prefix_refl _
    next => exact Moves.refl j
  | finish =>
    simp only [step]
    split
    next outcome found settled =>
      exact ⟨rfl, .inr (by rw [settled]; exact .finish outcome found), List.prefix_refl _,
        List.prefix_refl _⟩
    next => exact Moves.refl j
  | cancel =>
    simp only [step]
    split
    · exact ⟨rfl, .inl rfl, List.prefix_refl _, List.prefix_refl _⟩
    · exact Moves.refl j
  | cancelCaller => exact ⟨rfl, .inl rfl, List.prefix_refl _, List.prefix_refl _⟩
  | receive =>
    simp only [step]
    split
    next => exact ⟨rfl, .inl rfl, List.prefix_refl _, List.prefix_append _ _⟩
    next => exact Moves.refl j

section Follows

variable {j j' : Job} (moves : j.Moves j') (life : j.Lifecycle) (life' : j'.Lifecycle)
include moves life life'

theorem Moves.status : j'.status = j.status ∨ j.status.Advances j'.status := by
  rw [life.status, life'.status]
  rcases moves.stage with same | next
  · exact .inl (by rw [same])
  · exact next.status

theorem Moves.ended_fixed (ended : j.status.ended = true) :
    j'.status = j.status ∧ j'.error = j.error ∧ j'.result = j.result := by
  rw [life.status, life.error, life.result, life'.status, life'.error, life'.result]
  rw [life.status] at ended
  rcases moves.stage with same | next
  · rw [same]
    exact ⟨rfl, rfl, rfl⟩
  · exact next.ended_fixed ended

end Follows

end Job

/-- What can happen to a board, in any order: a caller starts a job, one of its jobs takes a step
of its run or of a caller, the board is closed or tidied, or a reader takes a job's events. -/
inductive BoardAction where
  | start (targets : List String) (callerDone : Bool)
  | step (id : String) (s : JobStep)
  | close
  | prune
  | takeEvents (id : String)

namespace JobBoard

def act (b : JobBoard) : BoardAction → JobBoard
  | .start targets callerDone =>
    match b.start targets callerDone with
    | .ok (_, b') => b'
    | .error _ => b
  | .step id s => b.stepJob id s
  | .close => b.close
  | .prune => b.prune
  | .takeEvents id => (b.takeEvents id).2

def run (b : JobBoard) (acts : List BoardAction) : JobBoard := acts.foldl act b

@[simp] theorem run_nil (b : JobBoard) : b.run [] = b := rfl

@[simp] theorem run_cons (b : JobBoard) (a : BoardAction) (acts : List BoardAction) :
    b.run (a :: acts) = (b.act a).run acts := rfl

theorem run_append (b : JobBoard) (acts more : List BoardAction) :
    b.run (acts ++ more) = (b.run acts).run more :=
  List.foldl_append

def Sound (b : JobBoard) : Prop := ∀ j ∈ b.jobs, j.Lifecycle

theorem empty_sound (source : IdSource) (retention : Int) : (empty source retention).Sound :=
  fun _ listed => nomatch listed

/-- A change an action makes to each job already on the board: it keeps the job to its lifecycle
and moves it by at most one step. -/
structure Change (f : Job → Job) : Prop where
  keeps : ∀ j : Job, j.Lifecycle → (f j).Lifecycle
  moves : ∀ j : Job, j.Moves (f j)

theorem Change.same : Change fun j => j := ⟨fun _ life => life, Job.Moves.refl⟩

theorem Change.step (s : JobStep) : Change fun j => j.step s :=
  ⟨fun _ life => life.step s, fun j => j.step_moves s⟩

theorem Change.ite (p : Job → Prop) [DecidablePred p] {g : Job → Job}
    (keeps : ∀ j, p j → j.Lifecycle → (g j).Lifecycle) (moves : ∀ j, p j → j.Moves (g j)) :
    Change fun j => if p j then g j else j where
  keeps j life := by
    split
    next holds => exact keeps j holds life
    next => exact life
  moves j := by
    split
    next holds => exact moves j holds
    next => exact Job.Moves.refl j

theorem start_ok {b b' : JobBoard} {targets : List String} {callerDone : Bool} {job : Job}
    (started : b.start targets callerDone = .ok (job, b')) :
    b'.closed = b.closed ∧ job = Job.filed job.id targets callerDone ∧ b'.jobs = b.jobs ++ [job] := by
  unfold start at started
  split at started
  next => cases started
  next =>
    simp only [Except.ok.injEq, Prod.mk.injEq] at started
    obtain ⟨rfl, rfl⟩ := started
    exact ⟨rfl, rfl, rfl⟩

theorem start_closed {b : JobBoard} (closed : b.closed = true) (targets : List String)
    (callerDone : Bool) : b.start targets callerDone = .error boardClosed := by
  simp [start, closed]

theorem act_start_closed {b : JobBoard} (closed : b.closed = true) (targets : List String)
    (callerDone : Bool) : b.act (.start targets callerDone) = b := by
  simp only [act, start_closed closed]

theorem act_jobs (b : JobBoard) (a : BoardAction) :
    ∃ (f : Job → Job) (added : List Job), Change f ∧ (∀ j ∈ added, j.Lifecycle) ∧
      (b.act a).jobs = b.jobs.map f ++ added := by
  cases a with
  | start targets callerDone =>
    cases started : b.start targets callerDone with
    | error e => exact ⟨fun j => j, [], Change.same, List.forall_mem_nil _, by simp [act, started]⟩
    | ok filing =>
      obtain ⟨job, b'⟩ := filing
      obtain ⟨-, filed, jobs⟩ := start_ok started
      refine ⟨fun j => j, [job], Change.same, ?_, by simp [act, started, jobs]⟩
      intro j added
      rw [List.mem_singleton.mp added, filed]
      exact Job.filed_lifecycle _ _ _
  | step id s =>
    refine ⟨fun j => if j.id = id then j.step s else j, [],
      Change.ite _ (fun j _ life => life.step s) (fun j _ => j.step_moves s), List.forall_mem_nil _, ?_⟩
    simp [act, stepJob]
  | close => exact ⟨fun j => j.step .cancel, [], Change.step .cancel, List.forall_mem_nil _, by simp [act, close]⟩
  | prune =>
    simp only [act, prune]
    split
    next =>
      refine ⟨fun j => if j.ended then { j with forgotten := true } else j, [],
        Change.ite _ (fun j ended life => life.forget ended) ?_, List.forall_mem_nil _, by simp⟩
      exact fun j _ => ⟨rfl, .inl rfl, List.prefix_refl _, List.prefix_refl _⟩
    next => exact ⟨fun j => j, [], Change.same, List.forall_mem_nil _, by simp⟩
  | takeEvents id =>
    refine ⟨fun j => if j.id = id ∧ j.forgotten = false then
        { j with unread := [], taken := j.taken ++ j.unread } else j, [],
      Change.ite _ (fun j _ life => life.takeAll) ?_, List.forall_mem_nil _, by simp [act, takeEvents]⟩
    exact fun j _ => ⟨rfl, .inl rfl, List.prefix_refl _, List.prefix_append _ _⟩

theorem act_sound {b : JobBoard} (sound : b.Sound) (a : BoardAction) : (b.act a).Sound := by
  obtain ⟨f, added, change, fresh, jobs⟩ := b.act_jobs a
  intro j listed
  rw [jobs, List.mem_append, List.mem_map] at listed
  rcases listed with ⟨old, listed, rfl⟩ | new
  · exact change.keeps old (sound old listed)
  · exact fresh j new

theorem act_moves (b : JobBoard) (a : BoardAction) {i : Nat} {j : Job}
    (placed : b.jobs[i]? = some j) : ∃ j', (b.act a).jobs[i]? = some j' ∧ j.Moves j' := by
  obtain ⟨f, added, change, -, jobs⟩ := b.act_jobs a
  have inside : i < (b.jobs.map f).length := by
    rw [List.length_map]
    exact (List.getElem?_eq_some_iff.mp placed).1
  refine ⟨f j, ?_, change.moves j⟩
  rw [jobs, List.getElem?_append_left inside, List.getElem?_map, placed]
  rfl

theorem act_closed {b : JobBoard} (closed : b.closed = true) (a : BoardAction) :
    (b.act a).closed = true := by
  cases a with
  | start targets callerDone => rw [act_start_closed closed]; exact closed
  | step id s => exact closed
  | close => rfl
  | prune =>
    simp only [act, prune]
    split <;> exact closed
  | takeEvents id => exact closed

theorem run_sound {b : JobBoard} (sound : b.Sound) (acts : List BoardAction) : (b.run acts).Sound := by
  induction acts generalizing b with
  | nil => exact sound
  | cons a acts ih => exact ih (act_sound sound a)

theorem run_closed {b : JobBoard} (closed : b.closed = true) (acts : List BoardAction) :
    (b.run acts).closed = true := by
  induction acts generalizing b with
  | nil => exact closed
  | cons a acts ih => exact ih (act_closed closed a)

theorem run_closes (b : JobBoard) {acts : List BoardAction} (closes : BoardAction.close ∈ acts) :
    (b.run acts).closed = true := by
  induction acts generalizing b with
  | nil => cases closes
  | cons a acts ih =>
    rcases List.mem_cons.mp closes with rfl | later
    · exact run_closed rfl acts
    · exact ih (b.act a) later

theorem run_keeps_ended {b : JobBoard} (sound : b.Sound) (more : List BoardAction) {i : Nat}
    {j : Job} (placed : b.jobs[i]? = some j) (ended : j.status.ended = true) :
    ∃ j', (b.run more).jobs[i]? = some j' ∧
      j'.status = j.status ∧ j'.error = j.error ∧ j'.result = j.result := by
  induction more generalizing b j with
  | nil => exact ⟨j, placed, rfl, rfl, rfl⟩
  | cons a more ih =>
    obtain ⟨next, placed', moves⟩ := b.act_moves a placed
    have life := sound j (List.mem_of_getElem? placed)
    have life' := act_sound sound a next (List.mem_of_getElem? placed')
    obtain ⟨status, error, result⟩ := moves.ended_fixed life life' ended
    obtain ⟨j', later, status', error', result'⟩ :=
      ih (act_sound sound a) placed' (status ▸ ended)
    exact ⟨j', later, status'.trans status, error'.trans error, result'.trans result⟩

theorem cancel_unknown {b : JobBoard} (sound : b.Sound) {id : String} (unknown : b.get? id = none) :
    b.stepJob id .cancel = b := by
  -- the board forgets only ended jobs, and an ended job's cancel entry is gone
  have untouched : ∀ j ∈ b.jobs, (if j.id = id then j.step .cancel else j) = j := by
    intro j listed
    split
    next named =>
      have forgotten : j.forgotten = true := by
        simpa [named] using List.find?_eq_none.mp unknown j listed
      have life := sound j listed
      have finished : j.stage.isFinished = true := by
        rw [← life.ended]
        exact life.forgotten forgotten
      simp [Job.step, (life.released finished).1]
    next => rfl
  unfold stepJob
  rw [List.map_congr_left untouched, List.map_id']

theorem act_start_ok {b b' : JobBoard} {targets : List String} {callerDone : Bool} {job : Job}
    (started : b.start targets callerDone = .ok (job, b')) : b.act (.start targets callerDone) = b' := by
  simp only [act, started]

theorem run_job_steps {b b' : JobBoard} {targets : List String} {callerDone : Bool} {job : Job}
    (started : b.start targets callerDone = .ok (job, b')) (steps : List JobStep) :
    (steps.foldl (fun b s => b.stepJob job.id s) b').prune =
      b.run (.start targets callerDone :: steps.map (.step job.id) ++ [.prune]) := by
  simp only [run_append, run_cons, run_nil, act_start_ok started]
  rw [run, List.foldl_map]
  rfl

end JobBoard

namespace App

theorem scan_board {σ : Type} (a : App) (rt : Runtime) (t : Transport σ) (cancel : Bool)
    (req : ScanRequest) (net : σ) : (a.scan rt t cancel req net).2.1.board = a.board := by
  unfold scan
  split
  next => rfl
  -- the origin's default, the analysis and its failure: none of them touches the board
  next =>
    dsimp only
    split <;> rfl

theorem startScanJob_closed {σ : Type} {a : App} (closed : a.board.closed = true)
    (rt : Runtime) (t : Transport σ) (req : ScanRequest) (net : σ) :
    a.startScanJob rt t req net = (.error boardClosed, a, net) := by
  simp only [startScanJob, JobBoard.start_closed closed]

theorem startScanJob_board {σ : Type} (a : App) (rt : Runtime) (t : Transport σ)
    (req : ScanRequest) (net : σ) :
    ∃ more : List BoardAction, (a.startScanJob rt t req net).2.1.board = a.board.run more := by
  unfold startScanJob
  split
  next => exact ⟨[], rfl⟩
  next job board started =>
    generalize scanned : ({ a with board := board }.scan rt t false req net) = result
    obtain ⟨⟨res, trace⟩, a', net'⟩ := result
    have kept : a'.board = board := by
      simpa [scanned] using scan_board { a with board := board } rt t false req net
    dsimp only
    rw [kept]
    exact ⟨_, JobBoard.run_job_steps started _⟩

end App

/-- Whatever is done to a board and in whichever order, every job on it keeps to its lifecycle
and has a result only once done; in one action a job keeps its place and moves by at most one step
of its run, its status staying, beginning to run or ending; an ended job keeps its status, failure
text and result through every later action; once the board has been closed it registers nothing
and the job runner is refused; cancelling a job the board does not show changes nothing; the job
runner is one such order; and every event a reader is sent names its job. -/
theorem jobs_keep_their_lifecycle (source : IdSource) (retention : Int) (acts : List BoardAction) :
    let b := (JobBoard.empty source retention).run acts
    b.Sound ∧ (∀ j ∈ b.jobs, j.result.isSome = true → j.status = .done) ∧
    (∀ (a : BoardAction) (i : Nat) (j : Job), b.jobs[i]? = some j →
      ∃ j', (b.act a).jobs[i]? = some j' ∧ j.Moves j' ∧
        (j'.status = j.status ∨ j.status.Advances j'.status)) ∧
    (∀ (more : List BoardAction) (i : Nat) (j : Job), b.jobs[i]? = some j →
      j.status.ended = true → ∃ j', (b.run more).jobs[i]? = some j' ∧
        j'.status = j.status ∧ j'.error = j.error ∧ j'.result = j.result) ∧
    (BoardAction.close ∈ acts →
      (∀ (targets : List String) (callerDone : Bool), b.act (.start targets callerDone) = b) ∧
      ∀ {σ : Type} (app : App) (rt : Runtime) (t : Transport σ) (req : ScanRequest) (net : σ),
        app.board = b → app.startScanJob rt t req net = (.error boardClosed, app, net)) ∧
    (∀ id : String, b.get? id = none → b.stepJob id .cancel = b) ∧
    (∀ {σ : Type} (app : App) (rt : Runtime) (t : Transport σ) (req : ScanRequest) (net : σ),
      app.board = b →
        ∃ more, (app.startScanJob rt t req net).2.1.board = (JobBoard.empty source retention).run (acts ++ more)) ∧
    (∀ (id : String) (ev : JobEvent), ∃ fields, ev.toJson id = .obj (("job_id", .str id) :: fields)) := by
  intro b
  have sound : b.Sound := JobBoard.run_sound (JobBoard.empty_sound source retention) acts
  refine ⟨sound, fun j listed => (sound j listed).done_of_result, ?_, ?_, ?_, ?_, ?_,
    JobEvent.toJson_names_job⟩
  · intro a i j placed
    obtain ⟨j', placed', moves⟩ := b.act_moves a placed
    have life := sound j (List.mem_of_getElem? placed)
    have life' := JobBoard.act_sound sound a j' (List.mem_of_getElem? placed')
    exact ⟨j', placed', moves, moves.status life life'⟩
  · intro more i j placed ended
    exact JobBoard.run_keeps_ended sound more placed ended
  · intro closes
    have closed : b.closed = true := JobBoard.run_closes _ closes
    refine ⟨JobBoard.act_start_closed closed, ?_⟩
    intro σ app rt t req net board
    exact App.startScanJob_closed (board ▸ closed) rt t req net
  · intro id unknown
    exact JobBoard.cancel_unknown sound unknown
  · intro σ app rt t req net board
    obtain ⟨more, ran⟩ := app.startScanJob_board rt t req net
    exact ⟨more, by rw [ran, board, JobBoard.run_append]⟩

end HeaderAudit
