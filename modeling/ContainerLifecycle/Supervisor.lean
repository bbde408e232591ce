import Mathlib.Data.List.Basic

/-! # The supervisor's task loop and its deferred answers

containerd's `Supervisor` takes tasks one at a time from a single loop.  A handler either
answers at once — the loop sends what it returns on the task's error channel — or returns
the sentinel `errDeferredResponse` after handing the task's channels to background work,
which answers later without the loop.  This module models three handlers of the source,
`start`, `addProcess` and `stats`, and the work they hand off: the `startTask` that
`start` queues for a worker and the goroutine that `stats` starts.

The loop (`handleTask`) and the worker that runs a `startTask` are not in the source;
they are modelled from the spec.  Every call into the runtime can fail, and how it goes
is an argument (`HandlerOutcome`, and the result a job's call returns).  Errors of the
runtime are never the sentinel, a variable of the supervisor package.

A task is known by its number, in the order the loop took it, and every send on its
channels is recorded with that number (`errs`, `responses`).  `Answers` says what a
handler may do with the task's channels; each handler does it (`dispatch_answers`).  The
system (`exec`) interleaves the loop with the background jobs in any order, and `Inv`
counts, per task, the answers sent and the jobs that still owe one.
-/
namespace ContainerLifecycle
namespace Containerd

/-- `StateStartProcess`, the type of the event `addProcess` sends its subscribers. -/
def StateStartProcess : String := "start-process"

/-- The errors the model tells apart. -/
inductive TaskError
  /-- `errDeferredResponse`. -/
  | deferredResponse
  /-- `ErrContainerNotFound`. -/
  | containerNotFound
  /-- An error of a runtime call. -/
  | runtime (msg : String)
  deriving DecidableEq, Repr

/-- What `runtime.New` is given, of the fields the model keeps. -/
structure ContainerOpts where
  root : String
  id : String
  bundle : String
  runtime : String
  runtimeArgs : List String
  noPivotRoot : Bool
  deriving DecidableEq, Repr

/-- `StartTask`, the fields `start` reads: the id, the bundle, the checkpoint's name and
directory, the runtime and its arguments. -/
structure StartTask where
  id : String
  bundlePath : String
  noPivotRoot : Bool := false
  checkpoint : Option String := none
  checkpointDir : String := ""
  runtime : String := ""
  runtimeArgs : List String := []
  deriving DecidableEq, Repr

/-- `AddProcessTask`, the container's id and the new process's name. -/
structure AddProcessTask where
  id : String
  pid : String
  deriving DecidableEq, Repr

/-- A task of one of the three kinds modelled. -/
inductive Task
  | start (t : StartTask)
  | addProcess (t : AddProcessTask)
  | stats (id : String)
  deriving DecidableEq, Repr

/-- A value on a task's response channel: a `StartResponse` with a system pid, or a
`runtime.Stat`. -/
inductive Response
  | startResponse (pid : Nat)
  | stat (st : Nat)
  deriving DecidableEq, Repr

/-- Work handed off by a handler, for task `n`: a `startTask` queued on `s.startTasks` with
its container and checkpoint path (directory and name), or the goroutine `stats` starts
with the container it reads. -/
inductive Job
  | startTask (n : Nat) (c : ContainerOpts) (checkpoint : Option (String × String))
  | stats (n : Nat) (c : ContainerOpts)
  deriving DecidableEq, Repr

/-- The task whose channels a job holds. -/
def Job.task : Job → Nat
  | .startTask n .. | .stats n .. => n

/-- An event sent to the subscribers. -/
structure Event where
  type : String
  pid : String
  id : String
  deriving DecidableEq, Repr

/-- How the runtime calls of one handler go: `runtime.New`, `Container.Exec` (with the
new process's system pid) and `monitorProcess`. -/
structure HandlerOutcome where
  new : Option String := none
  exec : Except String Nat := .ok 0
  monitor : Option String := none

/-- The supervisor's state the handlers touch, the jobs handed off and not yet run, the
number of tasks taken, and every send on the tasks' channels. -/
structure Supervisor where
  stateDir : String
  runtime : String
  runtimeArgs : List String
  containers : String → Option ContainerOpts
  jobs : List Job
  execSyncs : List (String × String)
  events : List Event
  next : Nat
  errs : List (Nat × Option TaskError)
  responses : List (Nat × Response)

namespace Supervisor

variable (s : Supervisor)

/-- `Supervisor.start` on task `n`: `runtime.New` with the task's runtime if it names one
and the supervisor's otherwise, then the container is entered in the table and a
`startTask` is queued. -/
def start (n : Nat) (t : StartTask) (newErr : Option String) : Supervisor × Option TaskError :=
  let rt := if t.runtime ≠ "" then (t.runtime, t.runtimeArgs) else (s.runtime, s.runtimeArgs)
  let c : ContainerOpts := ⟨s.stateDir, t.id, t.bundlePath, rt.1, rt.2, t.noPivotRoot⟩
  match newErr with
  | some err => (s, some (.runtime err))
  | none =>
    ({ s with containers := Function.update s.containers t.id (some c)
              jobs := s.jobs ++ [.startTask n c (t.checkpoint.map fun name => (t.checkpointDir, name))] },
      some .deferredResponse)

/-- `Supervisor.addProcess` on task `n`: `Exec` the process in the container, monitor it,
make its exec sync channel, send its `StartResponse` and tell the subscribers. -/
def addProcess (n : Nat) (t : AddProcessTask) (exec : Except String Nat)
    (monitor : Option String) : Supervisor × Option TaskError :=
  match s.containers t.id with
  | none => (s, some .containerNotFound)
  | some _ =>
    match exec with
    | .error err => (s, some (.runtime err))
    | .ok pid =>
      match monitor with
      | some err => (s, some (.runtime err))
      | none =>
        ({ s with execSyncs := s.execSyncs ++ [(t.id, t.pid)]
                  responses := s.responses ++ [(n, .startResponse pid)]
                  events := s.events ++ [⟨StateStartProcess, t.pid, t.id⟩] }, none)

/-- `Supervisor.stats` on task `n`: start the goroutine that reads the container's stats. -/
def stats (n : Nat) (id : String) : Supervisor × Option TaskError :=
  match s.containers id with
  | none => (s, some .containerNotFound)
  | some c => ({ s with jobs := s.jobs ++ [.stats n c] }, some .deferredResponse)

/-- The loop's switch on the kind of task `n`. -/
def dispatch (n : Nat) : Task → HandlerOutcome → Supervisor × Option TaskError
  | .start t, o => s.start n t o.new
  | .addProcess t, o => s.addProcess n t o.exec o.monitor
  | .stats id, _ => s.stats n id

/-- Modelled from the spec: the task loop (absent from src) takes the next task, runs its
handler, and sends what the handler returns on the task's error channel unless it is
`errDeferredResponse`. -/
def handleTask (t : Task) (o : HandlerOutcome) : Supervisor :=
  let r := s.dispatch s.next t o
  let s' := { r.1 with next := s.next + 1 }
  if r.2 = some .deferredResponse then s' else { s' with errs := s'.errs ++ [(s.next, r.2)] }

/-- A job runs its runtime call, which returns `r`, and answers its task: the error, or
`nil` and then the response.  For a `startTask` this is modelled from the spec (the worker
is absent from src); for `stats` it is the goroutine of the source. -/
def runJob (j : Job) (r : Except String Nat) : Supervisor :=
  let s := { s with jobs := s.jobs.erase j }
  match r with
  | .error err => { s with errs := s.errs ++ [(j.task, some (.runtime err))] }
  | .ok v =>
    let resp := match j with
      | .startTask .. => Response.startResponse v
      | .stats .. => .stat v
    { s with errs := s.errs ++ [(j.task, none)], responses := s.responses ++ [(j.task, resp)] }

/-- One step: the loop handles a task, or a job handed off earlier runs. -/
inductive Action
  | handle (t : Task) (o : HandlerOutcome)
  | run (j : Job) (r : Except String Nat)

/-- One step of the system. -/
def exec : Action → Option Supervisor
  | .handle t o => some (s.handleTask t o)
  | .run j r => if j ∈ s.jobs then some (s.runJob j r) else none

/-- A supervisor that has taken no task. -/
def init (stateDir runtime : String) (runtimeArgs : List String) : Supervisor :=
  ⟨stateDir, runtime, runtimeArgs, fun _ => none, [], [], [], 0, [], []⟩

end Supervisor

/-- The states of every run of the loop and the jobs from a fresh supervisor. -/
inductive Reachable : Supervisor → Prop
  | init (stateDir runtime : String) (runtimeArgs : List String) :
      Reachable (Supervisor.init stateDir runtime runtimeArgs)
  | step {s s' : Supervisor} {a : Supervisor.Action} : Reachable s → s.exec a = some s' →
      Reachable s'

/-! ## What a handler does with its task -/

namespace Supervisor

/-- What a handler does with task `n`, returning `r`: it sends nothing on the task's error
channel and takes no task; and either it returns a value other than `errDeferredResponse`,
hands off nothing, and sends one response if it returns `nil` and none otherwise, or it
returns `errDeferredResponse`, sends no response and hands the channels of task `n` to
exactly one new job. -/
def Answers (s : Supervisor) (n : Nat) (r : Supervisor × Option TaskError) : Prop :=
  r.1.errs = s.errs ∧ r.1.next = s.next ∧
  ((r.2 ≠ some .deferredResponse ∧ r.1.jobs = s.jobs ∧
      ∃ l, r.1.responses = s.responses ++ l ∧ (∀ x ∈ l, x.1 = n) ∧
        l.length = if r.2 = none then 1 else 0) ∨
    (r.2 = some .deferredResponse ∧ r.1.responses = s.responses ∧
      ∃ j : Job, j.task = n ∧ r.1.jobs = s.jobs ++ [j]))

variable {s : Supervisor}

/-- A handler that returns an error at once does nothing. -/
theorem answers_error {n : Nat} {e : TaskError} (he : e ≠ .deferredResponse) :
    Answers s n (s, some e) :=
  ⟨rfl, rfl, .inl ⟨by simpa using he, rfl, [], by simp, nofun, rfl⟩⟩

theorem start_answers (n : Nat) (t : StartTask) (newErr : Option String) :
    Answers s n (s.start n t newErr) := by
  cases newErr with
  | some err => exact answers_error nofun
  | none => exact ⟨rfl, rfl, .inr ⟨rfl, rfl, .startTask n _ _, rfl, rfl⟩⟩

theorem addProcess_answers (n : Nat) (t : AddProcessTask) (exec : Except String Nat)
    (monitor : Option String) : Answers s n (s.addProcess n t exec monitor) := by
  unfold addProcess
  split
  · exact answers_error nofun
  · split
    · exact answers_error nofun
    · split
      · exact answers_error nofun
      · exact ⟨rfl, rfl, .inl ⟨nofun, rfl, _, rfl, by simp, rfl⟩⟩

theorem stats_answers (n : Nat) (id : String) : Answers s n (s.stats n id) := by
  unfold stats
  split
  · exact answers_error nofun
  · exact ⟨rfl, rfl, .inr ⟨rfl, rfl, .stats n _, rfl, rfl⟩⟩

/-- Every handler answers as `Answers` says. -/
theorem dispatch_answers (n : Nat) (t : Task) (o : HandlerOutcome) :
    Answers s n (s.dispatch n t o) := by
  cases t with
  | start t => exact start_answers n t o.new
  | addProcess t => exact addProcess_answers n t o.exec o.monitor
  | stats id => exact stats_answers n id

end Supervisor

/-! ## Every task is answered once -/

/-- The sends of a list all for task `m` count for task `n` only if `n` is `m`. -/
theorem countP_fst_of_forall {α : Type} {l : List (Nat × α)} {m : Nat} (h : ∀ x ∈ l, x.1 = m)
    (n : Nat) : l.countP (fun x => x.1 = n) = if m = n then l.length else 0 := by
  split
  · subst m; exact List.countP_eq_length.mpr fun x hx => by simpa using h x hx
  · exact List.countP_eq_zero.mpr fun x hx => by simpa [h x hx]

/-- Answering task `m` with `e`, and sending its responses `l` — one if `e` is `nil` —
keeps one response per `nil` answer, for every task. -/
theorem responses_send {errs : List (Nat × Option TaskError)} {responses l : List (Nat × Response)}
    {m : Nat} {e : Option TaskError}
    (h : ∀ n, responses.countP (fun x => x.1 = n) = errs.countP (fun x => x.1 = n ∧ x.2 = none))
    (hl : ∀ x ∈ l, x.1 = m) (hlen : l.length = if e = none then 1 else 0) (n : Nat) :
    (responses ++ l).countP (fun x => x.1 = n) =
      (errs ++ [(m, e)]).countP (fun x => x.1 = n ∧ x.2 = none) := by
  simp only [List.countP_append, List.countP_singleton, countP_fst_of_forall hl, h n]
  by_cases hm : m = n <;> cases e <;> simp_all

/-- Taking task `next` adds one to the answers owed to it, and to no other task. -/
theorem once_take {a next n : Nat} (h : a = if n < next then 1 else 0) :
    a + (if next = n then 1 else 0) = if n < next + 1 then 1 else 0 := by
  split_ifs at h ⊢ <;> omega

namespace Supervisor

/-- A job answers its task once: with an error, or with `nil` and one response. -/
theorem runJob_spec (s : Supervisor) (j : Job) (r : Except String Nat) :
    ∃ e l, (s.runJob j r).errs = s.errs ++ [(j.task, e)] ∧ (s.runJob j r).jobs = s.jobs.erase j ∧
      (s.runJob j r).next = s.next ∧ (s.runJob j r).responses = s.responses ++ l ∧ (∀ x ∈ l, x.1 = j.task) ∧
      l.length = if e = none then 1 else 0 := by
  cases r with
  | error err => exact ⟨_, [], rfl, rfl, rfl, by simp [runJob], nofun, rfl⟩
  | ok v => exact ⟨none, [_], rfl, rfl, rfl, rfl, by simp, rfl⟩

/-- Per task `n`: once the loop has taken it, one answer was sent on its error channel or
one job still owes it, and before that neither; and its response channel got one value
for each `nil` on its error channel. -/
structure Inv (s : Supervisor) : Prop where
  once : ∀ n, s.errs.countP (fun e => e.1 = n) + s.jobs.countP (fun j => j.task = n) =
    if n < s.next then 1 else 0
  responses : ∀ n, s.responses.countP (fun x => x.1 = n) =
    s.errs.countP (fun e => e.1 = n ∧ e.2 = none)

theorem Inv.init (stateDir runtime : String) (runtimeArgs : List String) :
    Inv (init stateDir runtime runtimeArgs) :=
  ⟨fun _ => rfl, fun _ => rfl⟩

variable {s : Supervisor} (hi : Inv s)
include hi

theorem Inv.handle (t : Task) (o : HandlerOutcome) : Inv (s.handleTask t o) := by
  obtain ⟨he, -, hr⟩ := dispatch_answers (s := s) s.next t o
  unfold Supervisor.handleTask
  rcases hr with ⟨hd, hj, l, hl, hlm, hlen⟩ | ⟨hd, hrs, j, hjt, hj⟩
  · rw [if_neg hd]
    refine ⟨fun n => ?_, fun n => ?_⟩
    · have := once_take (hi.once n)
      simp only [he, hj, List.countP_append, List.countP_singleton, decide_eq_true_eq] at this ⊢
      omega
    · simpa only [he, hl] using responses_send hi.responses hlm hlen n
  · rw [if_pos hd]
    refine ⟨fun n => ?_, by simpa only [he, hrs] using hi.responses⟩
    have := once_take (hi.once n)
    simp only [he, hj, hjt, List.countP_append, List.countP_singleton, decide_eq_true_eq] at this ⊢
    omega

theorem Inv.run {j : Job} (hj : j ∈ s.jobs) (r : Except String Nat) : Inv (s.runJob j r) := by
  obtain ⟨e, l, he, hjs, hn, hl, hlm, hlen⟩ := s.runJob_spec j r
  refine ⟨fun n => ?_, fun n => ?_⟩
  · have h1 := hi.once n
    rw [(List.perm_cons_erase hj).countP_eq, List.countP_cons] at h1
    simp only [he, hjs, hn, List.countP_append, List.countP_singleton, decide_eq_true_eq] at h1 ⊢
    omega
  · simpa only [he, hl] using responses_send hi.responses hlm hlen n

/-- **Every step keeps the invariant.** -/
theorem Inv.step {a : Action} {s' : Supervisor} (h : s.exec a = some s') : Inv s' := by
  cases a with
  | handle t o => cases h; exact hi.handle t o
  | run j r =>
    simp only [exec] at h
    split at h
    · cases h; exact hi.run ‹_› r
    · cases h

end Supervisor

theorem Reachable.inv {s : Supervisor} (hs : Reachable s) : s.Inv := by
  induction hs with
  | init => exact .init _ _ _
  | step _ h ih => exact ih.step h

/-- **Every task is answered exactly once.**  Each handler sends nothing on its task's
error channel, and either answers at once or hands the channels to exactly one job
(`Answers`); a pending job can run, and answers its task once, with an error or with `nil`
and one response, and is then no longer pending.  In every state of any interleaving of
the loop with the jobs, a task the loop has taken has had one answer on its error channel
or is owed one by exactly one job, and a task it has not taken neither; so once no job of
a task is pending, it has had exactly one answer.  Its response channel got one value if
that answer is `nil`, and none otherwise. -/
theorem tasks_answered_once {s : Supervisor} (hs : Reachable s) :
    (∀ t o, s.Answers s.next (s.dispatch s.next t o)) ∧
    (∀ n, s.errs.countP (fun e => e.1 = n) + s.jobs.countP (fun j => j.task = n) =
        (if n < s.next then 1 else 0) ∧
      s.responses.countP (fun x => x.1 = n) = s.errs.countP (fun e => e.1 = n ∧ e.2 = none)) ∧
    ∀ j ∈ s.jobs, ∀ r, s.exec (.run j r) = some (s.runJob j r) ∧ ∃ e l,
      (s.runJob j r).errs = s.errs ++ [(j.task, e)] ∧ (s.runJob j r).jobs = s.jobs.erase j ∧
      (s.runJob j r).next = s.next ∧ (s.runJob j r).responses = s.responses ++ l ∧
      (∀ x ∈ l, x.1 = j.task) ∧ l.length = if e = none then 1 else 0 :=
  ⟨fun t o => Supervisor.dispatch_answers s.next t o,
    fun n => ⟨hs.inv.once n, hs.inv.responses n⟩,
    fun j hj r => ⟨if_pos hj, Supervisor.runJob_spec s j r⟩⟩

/-- The supervisor after its loop took task `0`, a `StartTask` for `c1`, and
`runtime.New` succeeded. -/
def startedC1 : Supervisor :=
  (Supervisor.init "/run" "runc" []).handleTask (.start { id := "c1", bundlePath := "/b" }) {}

/-- The `startTask` job that owes task `0` its answer. -/
def c1Job : Job := .startTask 0 ⟨"/run", "c1", "/b", "runc", [], false⟩ none

/-- Task `0` is owed its one answer by `c1Job`; running the job, with system pid `7`,
answers it once, and sends one response exactly when the answer is `nil`. -/
theorem tasks_answered_once_started :
    Reachable startedC1 ∧ startedC1.jobs = [c1Job] ∧
      startedC1.errs.countP (fun e => e.1 = 0) + startedC1.jobs.countP (fun j => j.task = 0) = 1 ∧
      startedC1.exec (.run c1Job (.ok 7)) = some (startedC1.runJob c1Job (.ok 7)) ∧
      ∃ e l, (startedC1.runJob c1Job (.ok 7)).errs = startedC1.errs ++ [(0, e)] ∧
        (startedC1.runJob c1Job (.ok 7)).jobs = [] ∧
        (startedC1.runJob c1Job (.ok 7)).responses = startedC1.responses ++ l ∧
        l.length = if e = none then 1 else 0 := by
  have hs : Reachable startedC1 := .step (a := .handle (.start { id := "c1", bundlePath := "/b" }) {})
    (.init "/run" "runc" []) rfl
  have h := tasks_answered_once hs
  obtain ⟨hx, e, l, he, hj, -, hr, -, hl⟩ := h.2.2 c1Job (by decide) (.ok 7)
  exact ⟨hs, rfl, (h.2.1 0).1, hx, e, l, he, hj, hr, hl⟩

end Containerd
end ContainerLifecycle
