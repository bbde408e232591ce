import ContainerLifecycle.Client

/-! # Handling one container's events

`container.handleEvent` applies one event of the shim to a container under the lock of its
id: it computes the report (`report`), sets the sticky `oom` flag on an OOM event, removes
the container from the live table and cleans its bundle directory on the init process's
exit, or forgets an exec'd process and its FIFOs on another process's exit, and queues the
report for the backend under the event's id.  Events of any other type are only logged.

The four kinds of event act on disjoint parts of the state, and `handleEvent` is pinned
down by one equation per kind (`handleEvent_initExit`, `handleEvent_processExit`,
`handleEvent_pauseResume`, `handleEvent_oom`, `handleEvent_unhandled`); everything below
is derived from those.  A run of events handled one after another on one handle is
`runEvents`; the lifecycle statements about such runs are at the end.
-/
namespace ContainerLifecycle

/-! ## Kinds of event -/

namespace Event

/-- The init process's exit. -/
def IsInitExit (e : Event) : Prop := e.type = StateExit ∧ e.pid = InitFriendlyName

/-- The exit of an exec'd process. -/
def IsProcessExit (e : Event) : Prop := e.type = StateExit ∧ e.pid ≠ InitFriendlyName

instance (e : Event) : Decidable e.IsInitExit := inferInstanceAs (Decidable (_ ∧ _))
instance (e : Event) : Decidable e.IsProcessExit := inferInstanceAs (Decidable (_ ∧ _))

/-- Every event is of one of the kinds `handleEvent` tells apart. -/
theorem kinds (e : Event) :
    e.IsInitExit ∨ e.IsProcessExit ∨ (e.type = StatePause ∨ e.type = StateResume) ∨
      e.type = StateOOM ∨
      ¬ (e.type = StateExit ∨ e.type = StatePause ∨ e.type = StateResume ∨ e.type = StateOOM) := by
  unfold IsInitExit IsProcessExit
  by_cases hx : e.type = StateExit
  · by_cases hp : e.pid = InitFriendlyName
    · exact .inl ⟨hx, hp⟩
    · exact .inr (.inl ⟨hx, hp⟩)
  · by_cases hpr : e.type = StatePause ∨ e.type = StateResume
    · exact .inr (.inr (.inl hpr))
    · by_cases ho : e.type = StateOOM
      · exact .inr (.inr (.inr (.inl ho)))
      · refine .inr (.inr (.inr (.inr fun h => ?_)))
        rcases h with h | h | h | h
        exacts [hx h, hpr (.inl h), hpr (.inr h), ho h]

end Event

/-- The state names `handleEvent` tells apart are pairwise distinct. -/
@[simp] theorem stateNames_ne :
    StateExitProcess ≠ StateExit ∧ StateExit ≠ StateOOM ∧ StatePause ≠ StateExit ∧
      StateResume ≠ StateExit ∧ StateOOM ≠ StateExit ∧ StatePause ≠ StateOOM ∧
      StateResume ≠ StateOOM ∧ StatePause ≠ StateExitProcess ∧ StateResume ≠ StateExitProcess ∧
      StateOOM ≠ StateExitProcess := by
  decide

/-- The report `handleEvent` computes for `e` on a container whose `oom` flag reads `oom`:
the event's type and status, `OOMKilled` when the type is `StateExit` and the flag is set,
and an exec'd process's exit reclassified as `StateExitProcess` with its name. -/
def report (e : Event) (oom : Bool) : StateInfo :=
  let st : StateInfo :=
    { state := e.type, exitCode := e.status, oomKilled := decide (e.type = StateExit) && oom }
  if e.type = StateExit ∧ e.pid ≠ InitFriendlyName then
    { st with processID := e.pid, state := StateExitProcess }
  else st

namespace Client

variable (c : Client)

/-- `container.handleEvent(e)` on the container of handle `h`, run under the lock of its
id; `o` is how its `clean` fails, if it runs. -/
def handleEvent (h : Nat) (e : Event) (o : CleanOutcome) : Client :=
  if e.type = StateExit ∨ e.type = StatePause ∨ e.type = StateResume ∨ e.type = StateOOM then
    let ctr := c.heap h
    let st := report e ctr.oom
    let ctr := if e.type = StateOOM then { ctr with oom := true } else ctr
    let c := c.setCtr h ctr
    let c :=
      if st.state = StateExit then
        { c.deleteContainer e.id with fs := (ctr.clean c.noclean c.fs o).1 }
      else if st.state = StateExitProcess then
        let r := ctr.cleanProcess c.fs st.processID
        { c.setCtr h r.1 with fs := r.2 }
      else c
    { c with q := c.q ++ [⟨e.id, h, e, st, c.serial⟩], serial := c.serial + 1 }
  else c

/-- Events handled one after another on the container of handle `h`. -/
def runEvents (h : Nat) (es : List (Event × CleanOutcome)) : Client :=
  es.foldl (fun c x => c.handleEvent h x.1 x.2) c

/-- The callback `handleEvent` queues for `e` on handle `h`. -/
def queued (h : Nat) (e : Event) : Pending := ⟨e.id, h, e, report e (c.heap h).oom, c.serial⟩

/-! ## One equation per kind of event -/

variable {c} {h : Nat} {e : Event} (o : CleanOutcome)

theorem handleEvent_unhandled
    (he : ¬ (e.type = StateExit ∨ e.type = StatePause ∨ e.type = StateResume ∨
      e.type = StateOOM)) :
    c.handleEvent h e o = c := by
  simp [handleEvent, he]

theorem handleEvent_initExit (he : e.IsInitExit) :
    c.handleEvent h e o =
      { c with containers := Function.update c.containers e.id none
               fs := ((c.heap h).clean c.noclean c.fs o).1
               q := c.q ++ [c.queued h e]
               serial := c.serial + 1 } := by
  obtain ⟨ht, hp⟩ := he
  simp [handleEvent, ht, hp, report, setCtr, deleteContainer, queued]

theorem handleEvent_processExit (he : e.IsProcessExit) :
    c.handleEvent h e o =
      { c with heap := Function.update c.heap h ((c.heap h).cleanProcess c.fs e.pid).1
               fs := ((c.heap h).cleanProcess c.fs e.pid).2
               q := c.q ++ [c.queued h e]
               serial := c.serial + 1 } := by
  obtain ⟨ht, hp⟩ := he
  simp [handleEvent, ht, hp, report, setCtr, queued]

theorem handleEvent_pauseResume (he : e.type = StatePause ∨ e.type = StateResume) :
    c.handleEvent h e o = { c with q := c.q ++ [c.queued h e], serial := c.serial + 1 } := by
  rcases he with he | he <;> simp [handleEvent, he, report, setCtr, queued]

theorem handleEvent_oom (he : e.type = StateOOM) :
    c.handleEvent h e o =
      { c with heap := Function.update c.heap h { c.heap h with oom := true }
               q := c.q ++ [c.queued h e]
               serial := c.serial + 1 } := by
  simp [handleEvent, he, report, setCtr, queued]

/-! ## What one event changes -/

theorem report_state (e : Event) (oom : Bool) :
    (report e oom).state = StateExitProcess ∨ (report e oom).state = e.type := by
  unfold report; split <;> simp

/-- The callback queued for a handled event carries the event's id as its key, a fresh
serial, and a report other than `StateStart`. -/
theorem queued_spec
    (he : e.type = StateExit ∨ e.type = StatePause ∨ e.type = StateResume ∨ e.type = StateOOM) :
    (c.queued h e).serial = c.serial ∧ (c.queued h e).key = (c.queued h e).event.id ∧
      (c.queued h e).info.state ≠ StateStart := by
  refine ⟨rfl, rfl, ?_⟩
  rcases report_state e (c.heap h).oom with hs | hs <;> simp only [queued, hs]
  · decide
  · rcases he with he | he | he | he <;> rw [he] <;> decide

/-- `handleEvent` keeps every container's name, only deletes table entries, and queues one
callback or nothing. -/
theorem handleEvent_spec : c.KeepsNames (c.handleEvent h e o) ∧ c.Reports (c.handleEvent h e o) := by
  have names : ∀ (f : Container → Container), (∀ x, (f x).dir = x.dir ∧ (f x).containerID = x.containerID) →
      ∀ h' < c.next, (Function.update c.heap h (f (c.heap h)) h').dir = (c.heap h').dir ∧
        (Function.update c.heap h (f (c.heap h)) h').containerID = (c.heap h').containerID := by
    intro f hf h' _
    by_cases hh : h' = h
    · subst hh; simpa using hf _
    · simp [hh]
  have hr : ∀ c' : Client, c'.q = c.q ++ [c.queued h e] → c'.backend = c.backend →
      c'.serial = c.serial + 1 →
      (e.type = StateExit ∨ e.type = StatePause ∨ e.type = StateResume ∨ e.type = StateOOM) →
      c.Reports c' := fun c' h1 h2 h3 he =>
    .inr (.inl ⟨_, h1, (queued_spec he).1, (queued_spec he).2.1, (queued_spec he).2.2, h2, h3⟩)
  rcases e.kinds with he | he | he | he | he
  · rw [handleEvent_initExit o he]
    refine ⟨⟨le_rfl, fun _ _ => ⟨rfl, rfl⟩, fun k h' hk => .inl ?_, rfl⟩,
      hr _ rfl rfl rfl (.inl he.1)⟩
    by_cases hk' : k = e.id
    · subst hk'; simp at hk
    · simpa [hk'] using hk
  · rw [handleEvent_processExit o he]
    exact ⟨⟨le_rfl, names (fun x => (x.cleanProcess c.fs e.pid).1) fun _ => ⟨rfl, rfl⟩,
      fun _ _ hk => .inl hk, rfl⟩, hr _ rfl rfl rfl (.inl he.1)⟩
  · rw [handleEvent_pauseResume o he]
    exact ⟨⟨le_rfl, fun _ _ => ⟨rfl, rfl⟩, fun _ _ hk => .inl hk, rfl⟩,
      hr _ rfl rfl rfl (.inr (he.imp_right .inl))⟩
  · rw [handleEvent_oom o he]
    exact ⟨⟨le_rfl, names (fun x => { x with oom := true }) fun _ => ⟨rfl, rfl⟩,
      fun _ _ hk => .inl hk, rfl⟩, hr _ rfl rfl rfl (.inr (.inr (.inr he)))⟩
  · rw [handleEvent_unhandled o he]
    exact ⟨.refl c, .refl c⟩

@[simp] theorem handleEvent_next : (c.handleEvent h e o).next = c.next := by
  rcases e.kinds with he | he | he | he | he
  · simp [handleEvent_initExit o he]
  · simp [handleEvent_processExit o he]
  · simp [handleEvent_pauseResume o he]
  · simp [handleEvent_oom o he]
  · simp [handleEvent_unhandled o he]

theorem runEvents_cons (x : Event × CleanOutcome) (xs : List (Event × CleanOutcome)) :
    c.runEvents h (x :: xs) = (c.handleEvent h x.1 x.2).runEvents h xs := rfl

/-- A client with one live container, `c1` at handle `0`, whose bundle directory
`/run/c1` is present and for which an exit notifier (handle `0`) is registered. -/
def oneLive (noclean : Bool) : Client :=
  { Client.init ["run"] noclean false [(["run", "c1"], ⟨0o700, 0, 0⟩), (["run"], ⟨0o711, 0, 0⟩)] with
    containers := fun id => if id = "c1" then some 0 else none
    heap := fun _ => { (default : Container) with
      dir := ["run", "c1"], containerID := "c1", friendlyName := InitFriendlyName }
    next := 1
    exitNotifiers := fun id => if id = "c1" then some 0 else none
    notifiers := fun _ => ⟨"c1", false, 0⟩
    nextNotifier := 1 }

/-- The process `p1` of `c1`, exec'd in `/run/c1`. -/
def p1 : Process := ⟨["run", "c1"], "c1", "p1"⟩

/-- The report is marked OOM-killed when the *event's* type is `StateExit` and the flag was
already set, whichever process exited. -/
theorem report_oomKilled (e : Event) (oom : Bool) :
    (report e oom).oomKilled = (decide (e.type = StateExit) && oom) := by
  unfold report; split <;> rfl

theorem handleEvent_oom_flag :
    ((c.handleEvent h e o).heap h).oom = ((c.heap h).oom || decide (e.type = StateOOM)) := by
  rcases e.kinds with he | he | he | he | he
  · simp [handleEvent_initExit o he, he.1]
  · simp [handleEvent_processExit o he, he.1, Container.cleanProcess_fst]
  · rcases he with he | he <;> simp [handleEvent_pauseResume o, he]
  · simp [handleEvent_oom o he, he]
  · have : e.type ≠ StateOOM := fun h' => he (.inr (.inr (.inr h')))
    simp [handleEvent_unhandled o he, this]

/-- The `oom` flag is sticky: after a run it is set exactly when it was set before or the
run held an OOM event. -/
theorem runEvents_oom_flag (es : List (Event × CleanOutcome)) :
    ((c.runEvents h es).heap h).oom =
      ((c.heap h).oom || es.any fun x => decide (x.1.type = StateOOM)) := by
  induction es generalizing c with
  | nil => simp [runEvents]
  | cons x xs ih => rw [runEvents_cons, ih, handleEvent_oom_flag]; simp [Bool.or_assoc]

/-- After an OOM event, the exit of an exec'd process is reported as OOM-killed. -/
theorem oom_then_process_exit_reported_oomKilled :
    ((oneLive false).runEvents 0
      [(⟨StateOOM, "c1", 0, ""⟩, {}), (⟨StateExit, "c1", 137, "p1"⟩, {})]).q.getLast?.map
      (fun p => (p.info.state, p.info.oomKilled)) = some (StateExitProcess, true) := by
  decide

/-- The exit of an exec'd process closes the container's exit notifier, once the queue runs
its callback, while the container stays live. -/
theorem process_exit_closes_exitNotifier :
    (((oneLive false).handleEvent 0 ⟨StateExit, "c1", 0, "p1"⟩ {}).runQueue "c1").map
      (fun c => ((c.notifiers 0).closes, c.containers "c1")) = some (1, some 0) := by
  decide

end Client
end ContainerLifecycle
