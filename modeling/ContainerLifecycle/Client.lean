import ContainerLifecycle.FilePath

/-! # The libcontainerd client's state

The data of `libcontainerd` that the lifecycle code reads and writes, as a state record
(`Client`) threaded through every operation.  Go pointers become handles: the live table
`containers` maps an id to the handle of a `container` object in `heap`, and a goroutine
that looked a container up holds the handle, not the entry — which is what lets an event
handler act on a container that is no longer live.  Exit notifiers are handles into
`notifiers` in the same way.

Three kinds of history are kept beside the program's own data, for the statements: the
shim's accepted containers (`shim`), the `StateChanged` calls the backend has received, in
order (`backend`), and a counter `serial` numbering the transitions applied under a
container's lock, carried by each queued notification (`Pending.serial`) into the backend's
record (`Notice.serial`).

Several helpers of `client` are absent from src: the table accessors, the exit-notifier
registry accessors, the per-key queue and the FIFO helpers.  They are modelled from the
spec, each under a doc comment that says so.  Here are also the two cleaning functions of
`container_unix.go`, `clean` and `cleanProcess`, and `exitNotifier.close`.
-/
namespace ContainerLifecycle

/-! ## Names and records -/

/-- Modelled from the spec: `InitFriendlyName`, the name of a container's init process, is
absent from src; it is the `"init"` that `TriggerHandleStream` puts in its synthetic
event. -/
def InitFriendlyName : String := "init"

/-- Modelled from the spec: the state names of libcontainerd (absent from src), one per
event type of the spec's event stream; `StateExit` is the `"exit"` of `TriggerHandleStream`'s
synthetic event. -/
def StateExit : String := "exit"

@[inherit_doc StateExit] def StatePause : String := "pause"
@[inherit_doc StateExit] def StateResume : String := "resume"
@[inherit_doc StateExit] def StateOOM : String := "oom"
@[inherit_doc StateExit] def StateStart : String := "start-container"
@[inherit_doc StateExit] def StateExitProcess : String := "exit-process"

/-- Modelled from the spec: `configFilename`, the file of the bundle directory that holds the
persisted specification. -/
def configFilename : String := "config.json"

/-- An event of the shim's stream (`containerd.Event`): its type, container id, exit
status and process name. -/
structure Event where
  type : String
  id : String
  status : Nat
  pid : String
  deriving DecidableEq, Repr

/-- The report handed to `backend.StateChanged` (`StateInfo` with its `CommonStateInfo`). -/
structure StateInfo where
  state : String
  pid : Nat := 0
  exitCode : Nat := 0
  processID : String := ""
  oomKilled : Bool := false
  deriving DecidableEq, Repr

/-- The three standard streams, `syscall.Stdin`, `syscall.Stdout`, `syscall.Stderr`. -/
inductive Fd
  | stdin
  | stdout
  | stderr
  deriving DecidableEq, Repr

/-- Modelled from the spec: the suffix of a stream's FIFO file (the `fdNames` table, absent
from src). -/
def Fd.name : Fd → String
  | .stdin => "stdin"
  | .stdout => "stdout"
  | .stderr => "stderr"

/-- An exec'd process of a container's registry (`process`). -/
structure Process where
  dir : Path
  containerID : String
  friendlyName : String
  deriving DecidableEq, Repr

/-- Modelled from the spec: `process.fifo` (absent from src) names the FIFO of stream `i` of a
process as a file of its container's bundle directory. -/
def Process.fifo (p : Process) (i : Fd) : Path :=
  join p.dir (p.friendlyName ++ "-" ++ i.name)

/-- A `container` object: its embedded init `process` (bundle directory, id, name, system
pid), its process registry, the sticky `oom` flag, the runtime chosen by `WithRuntime`, and
the event types its `pauseMonitor` was handed. -/
structure Container where
  dir : Path
  containerID : String
  friendlyName : String
  systemPid : Nat
  processes : String → Option Process
  oom : Bool
  runtime : String
  runtimeArgs : List String
  pauseEvents : List String

instance : Inhabited Container :=
  ⟨⟨[], "", "", 0, fun _ => none, false, "", [], []⟩⟩

/-- The FIFO of stream `i` of a container's init process. -/
def Container.fifo (ctr : Container) (i : Fd) : Path :=
  join ctr.dir (ctr.friendlyName ++ "-" ++ i.name)

/-- An `exitNotifier`: the id it was registered for, whether its `once` has run, and how
many times its channel has been closed (a second `close` of a Go channel would panic). -/
structure ExitNotifier where
  id : String
  done : Bool
  closes : Nat
  deriving DecidableEq, Repr

instance : Inhabited ExitNotifier := ⟨⟨"", false, 0⟩⟩

/-- A callback `handleEvent` queued under key `key`: it closes over the container handle,
the event and the computed report.  `serial` numbers the transition it reports. -/
structure Pending where
  key : String
  ctr : Nat
  event : Event
  info : StateInfo
  serial : Nat
  deriving DecidableEq, Repr

/-- A `backend.StateChanged(id, info)` call, with the serial of the transition it
reports. -/
structure Notice where
  id : String
  info : StateInfo
  serial : Nat
  deriving DecidableEq, Repr

/-- A `containerd.CreateContainerRequest` the shim accepted. -/
structure CreateContainerRequest where
  id : String
  bundlePath : Path
  stdin : Path
  stdout : Path
  stderr : Path
  checkpoint : String
  checkpointDir : String
  noPivotRoot : Bool
  runtime : String
  runtimeArgs : List String
  deriving DecidableEq, Repr

/-! ## The client -/

/-- The `client`, with what it reads of its `remote` and of the environment. -/
structure Client where
  /-- `filepath.Abs(remote.stateDir)`. -/
  stateDir : Path
  /-- `LIBCONTAINERD_NOCLEAN` is `"1"`. -/
  noclean : Bool
  /-- `DOCKER_RAMDISK` is set. -/
  ramdisk : Bool
  /-- The live table: id to container handle. -/
  containers : String → Option Nat
  /-- The container objects, by handle. -/
  heap : Nat → Container
  /-- The first handle not yet given out. -/
  next : Nat
  /-- The exit-notifier registry: id to notifier handle. -/
  exitNotifiers : String → Option Nat
  notifiers : Nat → ExitNotifier
  nextNotifier : Nat
  fs : Fs
  /-- The callbacks queued on `client.q` and not yet run, oldest first. -/
  q : List Pending
  /-- The `StateChanged` calls received, oldest first. -/
  backend : List Notice
  /-- The `CreateContainer` requests the shim accepted, oldest first. -/
  shim : List CreateContainerRequest
  /-- The number of transitions applied so far. -/
  serial : Nat

namespace Client

variable (c : Client)

/-- A client with nothing live, nothing queued and nothing reported. -/
def init (stateDir : Path) (noclean ramdisk : Bool) (fs : Fs) : Client :=
  ⟨stateDir, noclean, ramdisk, fun _ => none, fun _ => default, 0, fun _ => none,
    fun _ => default, 0, fs, [], [], [], 0⟩

/-- Modelled from the spec: `getContainer` (absent from src) returns the live entry of
`id`; `none` stands for its NotFound error. -/
def getContainer (id : String) : Option Nat := c.containers id

/-- Modelled from the spec: `appendContainer` (absent from src) enters a container in the
live table under its own `containerID`. -/
def appendContainer (h : Nat) : Client :=
  { c with containers := Function.update c.containers (c.heap h).containerID (some h) }

/-- Modelled from the spec: `deleteContainer` (absent from src) removes the entry of
`id`. -/
def deleteContainer (id : String) : Client :=
  { c with containers := Function.update c.containers id none }

/-- Write the container object of handle `h`. -/
def setCtr (h : Nat) (ctr : Container) : Client :=
  { c with heap := Function.update c.heap h ctr }

/-- Modelled from the spec: `getExitNotifier` (absent from src) reads the registry. -/
def getExitNotifier (id : String) : Option Nat := c.exitNotifiers id

/-- Modelled from the spec: `getOrCreateExitNotifier` (absent from src) registers a fresh
notifier for `id` unless one is registered. -/
def getOrCreateExitNotifier (id : String) : Client × Nat :=
  match c.exitNotifiers id with
  | some n => (c, n)
  | none =>
    ({ c with exitNotifiers := Function.update c.exitNotifiers id (some c.nextNotifier)
              notifiers := Function.update c.notifiers c.nextNotifier ⟨id, false, 0⟩
              nextNotifier := c.nextNotifier + 1 }, c.nextNotifier)

/-- `exitNotifier.close`: under the notifier's `once`, close its channel and drop the
registry entry of its id if that entry still is this notifier. -/
def closeExitNotifier (n : Nat) : Client :=
  let en := c.notifiers n
  if en.done then c
  else
    { c with
      notifiers := Function.update c.notifiers n { en with done := true, closes := en.closes + 1 }
      exitNotifiers :=
        if c.exitNotifiers en.id = some n then Function.update c.exitNotifiers en.id none
        else c.exitNotifiers }

variable {c}

/-- A second `close` changes nothing. -/
theorem closeExitNotifier_idem (n : Nat) :
    (c.closeExitNotifier n).closeExitNotifier n = c.closeExitNotifier n := by
  unfold closeExitNotifier
  cases h0 : (c.notifiers n).done <;> simp [h0]

/-- `close` drops a registry entry only when the entry is the notifier closed. -/
theorem closeExitNotifier_exitNotifiers (n : Nat) (id : String) :
    (c.closeExitNotifier n).exitNotifiers id = c.exitNotifiers id ∨
      (c.exitNotifiers id = some n ∧ (c.closeExitNotifier n).exitNotifiers id = none) := by
  cases h0 : (c.notifiers n).done
  · by_cases hr : c.exitNotifiers (c.notifiers n).id = some n
    · by_cases hid : id = (c.notifiers n).id
      · subst hid; exact .inr ⟨hr, by simp [closeExitNotifier, h0, hr]⟩
      · simp [closeExitNotifier, h0, hr, hid]
    · simp [closeExitNotifier, h0, hr]
  · simp [closeExitNotifier, h0]

/-- **`exitNotifier.close` is idempotent.**  However many times a notifier whose `once` has
not run is closed, its `once` runs once and its channel is closed exactly once more; no
other notifier changes, and a registry entry is dropped only if it was that notifier. -/
theorem closeExitNotifier_iterate (n k : Nat) (h0 : (c.notifiers n).done = false) :
    ((closeExitNotifier · n)^[k + 1] c).notifiers n =
        { c.notifiers n with done := true, closes := (c.notifiers n).closes + 1 } ∧
    (∀ m, m ≠ n → ((closeExitNotifier · n)^[k + 1] c).notifiers m = c.notifiers m) ∧
    ∀ id, ((closeExitNotifier · n)^[k + 1] c).exitNotifiers id = c.exitNotifiers id ∨
      (c.exitNotifiers id = some n ∧ ((closeExitNotifier · n)^[k + 1] c).exitNotifiers id = none) := by
  have hk : (closeExitNotifier · n)^[k + 1] c = c.closeExitNotifier n := by
    induction k with
    | zero => rfl
    | succ k ih => rw [Function.iterate_succ_apply', ih, closeExitNotifier_idem]
  rw [hk]
  exact ⟨by simp [closeExitNotifier, h0], fun m hm => by simp [closeExitNotifier, h0, hm],
    closeExitNotifier_exitNotifiers n⟩

theorem closeExitNotifier_iterate_registered :
    (((init ["run"] false false []).getOrCreateExitNotifier "c1").1.notifiers 0).done = false ∧
    (((closeExitNotifier · 0)^[3]
      ((init ["run"] false false []).getOrCreateExitNotifier "c1").1).notifiers 0).closes = 1 :=
  ⟨rfl, congrArg ExitNotifier.closes (closeExitNotifier_iterate
    (c := ((init ["run"] false false []).getOrCreateExitNotifier "c1").1) 0 2 rfl).1⟩

end Client

/-! ## Cleaning -/

/-- How the system calls of one `container.clean` fail: `os.Lstat` with an error other
than not-exist, `os.RemoveAll` with any error.  A failed `RemoveAll` is taken to remove
nothing. -/
structure CleanOutcome where
  lstatErr : Option String := none
  removeErr : Option String := none
  deriving DecidableEq, Repr

namespace Container

/-- `container.clean`: the file system afterwards and the error returned. -/
def clean (ctr : Container) (noclean : Bool) (fs : Fs) (o : CleanOutcome) :
    Fs × Option String :=
  if noclean then (fs, none)
  else
    match o.lstatErr with
    | some err => (fs, some err)
    | none =>
      if fs.Exists ctr.dir then
        match o.removeErr with
        | some err => (fs, some err)
        | none => (fs.removeAll ctr.dir, none)
      else (fs, none)

/-- `container.cleanProcess`: remove the FIFOs of process `id` if it is registered, and its
registry entry. -/
def cleanProcess (ctr : Container) (fs : Fs) (id : String) : Container × Fs :=
  let fs := match ctr.processes id with
    | some p => [Fd.stdin, .stdout, .stderr].foldl (fun fs i => fs.remove (p.fifo i)) fs
    | none => fs
  ({ ctr with processes := Function.update ctr.processes id none }, fs)

variable {ctr : Container} {noclean : Bool} {fs : Fs} {o : CleanOutcome}

/-- `clean` removes paths under the bundle directory, or nothing. -/
theorem clean_get (ctr : Container) (noclean : Bool) (fs : Fs) (o : CleanOutcome) (p : Path) :
    (ctr.clean noclean fs o).1.get p = fs.get p ∨
      (ctr.dir <+: p ∧ (ctr.clean noclean fs o).1.get p = none) := by
  unfold clean
  split
  · exact .inl rfl
  · split
    · exact .inl rfl
    · split
      · split
        · exact .inl rfl
        · by_cases hp : ctr.dir <+: p <;> simp [hp]
      · exact .inl rfl

/-- With cleaning enabled and its system calls succeeding, `clean` leaves no bundle
directory, and nothing under it if it was there. -/
theorem clean_removes (hn : noclean = false) (ho : o = {}) :
    (ctr.clean noclean fs o).1.get ctr.dir = none ∧
      (fs.Exists ctr.dir → ∀ p, ctr.dir <+: p → (ctr.clean noclean fs o).1.get p = none) := by
  subst hn ho
  by_cases hd : fs.Exists ctr.dir
  · simp +contextual [clean, hd]
  · simp only [Fs.Exists, not_not] at hd
    simp [clean, Fs.Exists, hd]

theorem cleanProcess_fst (id : String) :
    (ctr.cleanProcess fs id).1 = { ctr with processes := Function.update ctr.processes id none } :=
  rfl

end Container

/-! ## The per-key queue -/

/-- The oldest callback queued under `k`, and the queue without it. -/
def takeKey (k : String) : List Pending → Option (Pending × List Pending)
  | [] => none
  | p :: ps =>
    if p.key = k then some (p, ps)
    else (takeKey k ps).map fun r => (r.1, p :: r.2)

namespace Client

variable (c : Client)

/-- The body of the callback `handleEvent` queues: report to the backend, hand a pause or
resume to the container's `pauseMonitor`, and on an event of type `StateExit` close the
exit notifier registered for the event's id. -/
def runCallback (p : Pending) : Client :=
  let c := { c with backend := c.backend ++ [⟨p.event.id, p.info, p.serial⟩] }
  let c :=
    if p.event.type = StatePause ∨ p.event.type = StateResume then
      c.setCtr p.ctr
        { c.heap p.ctr with pauseEvents := (c.heap p.ctr).pauseEvents ++ [p.event.type] }
    else c
  if p.event.type = StateExit then
    match c.getExitNotifier p.event.id with
    | some n => c.closeExitNotifier n
    | none => c
  else c

/-- Modelled from the spec: `PerKeySerialQueue` runs the callbacks of one key one at a
time, oldest first.  One step of the queue runs the oldest callback of key `k`. -/
def runQueue (k : String) : Option Client :=
  (takeKey k c.q).map fun r => { c with q := r.2 }.runCallback r.1

end Client

/-! ## What a step may change

Two summaries of what an operation does to the shared parts of the client, proved once
per operation and used for every invariant of the concurrent system.  `KeepsNames`: the
names of allocated containers (directory and `containerID`) never change, and a table
entry is an old one or a container registered under its own `containerID`.  `Reports`:
an operation queues one fresh callback, reports `StateStart` with a fresh serial, runs
the oldest callback of one key, or leaves queue and backend alone. -/

namespace Client

/-- `c'` keeps the names of the containers of `c`, and its table entries are those of `c`
or containers entered under their own `containerID`; the state directory is kept. -/
structure KeepsNames (c c' : Client) : Prop where
  next_le : c.next ≤ c'.next
  heap : ∀ h < c.next, (c'.heap h).dir = (c.heap h).dir ∧
    (c'.heap h).containerID = (c.heap h).containerID
  table : ∀ k h, c'.containers k = some h →
    c.containers k = some h ∨ ((c'.heap h).containerID = k ∧ h < c'.next)
  stateDir : c'.stateDir = c.stateDir

/-- What `c'` queued and reported beyond `c`. -/
def Reports (c c' : Client) : Prop :=
  (c'.q = c.q ∧ c'.backend = c.backend ∧ c'.serial = c.serial) ∨
  (∃ p, c'.q = c.q ++ [p] ∧ p.serial = c.serial ∧ p.key = p.event.id ∧
    p.info.state ≠ StateStart ∧ c'.backend = c.backend ∧ c'.serial = c.serial + 1) ∨
  (∃ id pid, c'.q = c.q ∧ c'.backend = c.backend ++ [⟨id, { state := StateStart, pid }, c.serial⟩] ∧
    c'.serial = c.serial + 1) ∨
  (∃ k p, takeKey k c.q = some (p, c'.q) ∧
    c'.backend = c.backend ++ [⟨p.event.id, p.info, p.serial⟩] ∧ c'.serial = c.serial)

theorem KeepsNames.refl (c : Client) : c.KeepsNames c :=
  ⟨le_rfl, fun _ _ => ⟨rfl, rfl⟩, fun _ _ h => .inl h, rfl⟩

theorem KeepsNames.trans {c c' c'' : Client} (h1 : c.KeepsNames c') (h2 : c'.KeepsNames c'') :
    c.KeepsNames c'' where
  next_le := h1.next_le.trans h2.next_le
  heap h hh := by
    rw [(h2.heap h (lt_of_lt_of_le hh h1.next_le)).1, (h2.heap h (lt_of_lt_of_le hh h1.next_le)).2]
    exact h1.heap h hh
  table k h hk := by
    rcases h2.table k h hk with hk' | hk'
    · rcases h1.table k h hk' with hk'' | ⟨hn, hlt⟩
      · exact .inl hk''
      · exact .inr ⟨(h2.heap h hlt).2.trans hn, lt_of_lt_of_le hlt h2.next_le⟩
    · exact .inr hk'
  stateDir := h2.stateDir.trans h1.stateDir

theorem Reports.refl (c : Client) : c.Reports c := .inl ⟨rfl, rfl, rfl⟩

/-- The oldest callback of key `k` sits after callbacks of other keys only. -/
theorem takeKey_eq_some {k : String} {q q' : List Pending} {p : Pending}
    (h : takeKey k q = some (p, q')) :
    ∃ l1 l2, q = l1 ++ p :: l2 ∧ q' = l1 ++ l2 ∧ p.key = k ∧ ∀ x ∈ l1, x.key ≠ k := by
  induction q generalizing q' with
  | nil => cases h
  | cons x xs ih =>
    simp only [takeKey] at h
    split at h
    · cases h; exact ⟨[], xs, rfl, rfl, ‹_›, by simp⟩
    · obtain ⟨⟨p', r⟩, hr, he⟩ := Option.map_eq_some'.mp h
      cases he
      obtain ⟨l1, l2, rfl, rfl, hk, hl1⟩ := ih hr
      exact ⟨x :: l1, l2, rfl, rfl, hk, by simpa [*]⟩

variable {c : Client}

theorem closeExitNotifier_eq (n : Nat) :
    ∃ ns en, c.closeExitNotifier n = { c with notifiers := ns, exitNotifiers := en } := by
  cases h0 : (c.notifiers n).done
  · exact ⟨_, _, by simp only [closeExitNotifier, h0, Bool.false_eq_true, if_false]; rfl⟩
  · exact ⟨c.notifiers, c.exitNotifiers, by simp only [closeExitNotifier, h0, if_true]⟩

/-- A callback reports to the backend and touches only the pause monitor of its container
and the exit notifiers. -/
theorem runCallback_eq (p : Pending) :
    ∃ heap ns en, c.runCallback p =
      { c with heap, notifiers := ns, exitNotifiers := en
               backend := c.backend ++ [⟨p.event.id, p.info, p.serial⟩] } ∧
      ∀ h, (heap h).dir = (c.heap h).dir ∧ (heap h).containerID = (c.heap h).containerID := by
  let c1 : Client := { c with backend := c.backend ++ [⟨p.event.id, p.info, p.serial⟩] }
  let c2 : Client :=
    if p.event.type = StatePause ∨ p.event.type = StateResume then
      c1.setCtr p.ctr { c1.heap p.ctr with pauseEvents := (c1.heap p.ctr).pauseEvents ++ [p.event.type] }
    else c1
  have h2 : ∃ heap, c2 = { c1 with heap } ∧
      ∀ h, (heap h).dir = (c.heap h).dir ∧ (heap h).containerID = (c.heap h).containerID := by
    by_cases hp : p.event.type = StatePause ∨ p.event.type = StateResume
    · refine ⟨_, by simp only [c2, if_pos hp]; rfl, fun h => ?_⟩
      by_cases hh : h = p.ctr
      · subst hh; simp [c1]
      · simp [hh]
    · exact ⟨c.heap, by simp only [c2, if_neg hp], fun _ => ⟨rfl, rfl⟩⟩
  obtain ⟨heap, hc2, hheap⟩ := h2
  have hcb : c.runCallback p = if p.event.type = StateExit then
      (match c2.getExitNotifier p.event.id with
       | some n => c2.closeExitNotifier n
       | none => c2) else c2 := rfl
  rw [hcb, hc2]
  split
  · split
    · obtain ⟨ns, en, he⟩ := closeExitNotifier_eq (c := { c1 with heap }) _
      exact ⟨heap, ns, en, he, hheap⟩
    · exact ⟨heap, _, _, rfl, hheap⟩
  · exact ⟨heap, _, _, rfl, hheap⟩

theorem runQueue_spec {k : String} {c' : Client} (h : c.runQueue k = some c') :
    c.KeepsNames c' ∧ c.Reports c' := by
  obtain ⟨⟨p, q'⟩, hp, rfl⟩ := Option.map_eq_some'.mp h
  obtain ⟨heap, ns, en, he, hheap⟩ := runCallback_eq (c := { c with q := q' }) p
  simp only [he]
  exact ⟨⟨le_rfl, fun h _ => hheap h, fun _ _ hk => .inl hk, rfl⟩,
    .inr (.inr (.inr ⟨k, p, hp, rfl, rfl⟩))⟩

theorem runQueue_next {k : String} {c' : Client} (h : c.runQueue k = some c') :
    c'.next = c.next := by
  obtain ⟨⟨p, q'⟩, hp, rfl⟩ := Option.map_eq_some'.mp h
  obtain ⟨heap, ns, en, he, -⟩ := runCallback_eq (c := { c with q := q' }) p
  simp only [he]

/-- The exit-notifier fields of a client: the registry, the notifiers and the next handle. -/
def notifierState (c : Client) : (String → Option Nat) × (Nat → ExitNotifier) × Nat :=
  (c.exitNotifiers, c.notifiers, c.nextNotifier)

/-- Every registered notifier was handed out, is of the id it is registered under, and is
open; every notifier's channel was closed once if the notifier is done and never
otherwise. -/
structure NotifierInv (c : Client) : Prop where
  registered : ∀ id n, c.exitNotifiers id = some n →
    n < c.nextNotifier ∧ (c.notifiers n).id = id ∧ (c.notifiers n).done = false
  closes : ∀ n, (c.notifiers n).closes = if (c.notifiers n).done then 1 else 0

theorem NotifierInv.init (stateDir : Path) (noclean ramdisk : Bool) (fs : Fs) :
    NotifierInv (init stateDir noclean ramdisk fs) :=
  ⟨fun _ _ h => (nomatch h), fun _ => rfl⟩

/-- The invariant reads only the notifier fields. -/
theorem NotifierInv.of_notifierState {c' : Client} (hi : NotifierInv c)
    (h : c'.notifierState = c.notifierState) : NotifierInv c' := by
  simp only [notifierState, Prod.mk.injEq] at h
  obtain ⟨h1, h2, h3⟩ := h
  exact ⟨h1 ▸ h2 ▸ h3 ▸ hi.registered, h2 ▸ hi.closes⟩

theorem closeExitNotifier_of_open {n : Nat} (hd : (c.notifiers n).done = false) :
    c.closeExitNotifier n =
      { c with
        notifiers := Function.update c.notifiers n
          { c.notifiers n with done := true, closes := (c.notifiers n).closes + 1 }
        exitNotifiers :=
          if c.exitNotifiers (c.notifiers n).id = some n then
            Function.update c.exitNotifiers (c.notifiers n).id none
          else c.exitNotifiers } := by
  simp [closeExitNotifier, hd]

/-- `close` keeps the invariant: the registry entries naming an open notifier are under its
id, and the close drops that one. -/
theorem NotifierInv.closeExitNotifier (hi : NotifierInv c) (n : Nat) :
    NotifierInv (c.closeExitNotifier n) := by
  cases hd : (c.notifiers n).done
  case true => rwa [Client.closeExitNotifier, if_pos hd]
  rw [closeExitNotifier_of_open hd]
  -- an entry left after the close names an old notifier other than `n`
  have hleft : ∀ id m, (if c.exitNotifiers (c.notifiers n).id = some n then
      Function.update c.exitNotifiers (c.notifiers n).id none else c.exitNotifiers) id = some m →
      c.exitNotifiers id = some m ∧ m ≠ n := by
    intro id m hm
    split_ifs at hm with hr
    · by_cases hid : id = (c.notifiers n).id
      · subst hid; simp at hm
      · rw [Function.update_noteq hid] at hm
        exact ⟨hm, fun hmn => hid (hmn ▸ (hi.registered id m hm).2.1).symm⟩
    · refine ⟨hm, fun hmn => hr ?_⟩
      subst hmn
      rwa [(hi.registered id m hm).2.1]
  refine ⟨fun id m hm => ?_, fun m => ?_⟩
  · obtain ⟨hm', hmn⟩ := hleft id m hm
    simpa [Function.update_noteq hmn] using hi.registered id m hm'
  · by_cases hmn : m = n
    · subst hmn; simp [hi.closes m, hd]
    · simpa [Function.update_noteq hmn] using hi.closes m

/-- Registering keeps the invariant: a new notifier is open, of its id, at a fresh handle. -/
theorem NotifierInv.getOrCreateExitNotifier (hi : NotifierInv c) (id : String) :
    NotifierInv (c.getOrCreateExitNotifier id).1 := by
  unfold Client.getOrCreateExitNotifier
  split
  · exact hi
  refine ⟨fun id' m hm => ?_, fun m => ?_⟩
  · by_cases hid : id' = id
    · subst hid
      simp only [Function.update_same, Option.some.injEq] at hm
      subst hm
      simp
    · dsimp only at hm ⊢
      rw [Function.update_noteq hid] at hm
      obtain ⟨hlt, hid', hop⟩ := hi.registered id' m hm
      simp [Function.update_noteq hlt.ne, hid', hop, Nat.lt_succ_of_lt hlt]
  · by_cases hm : m = c.nextNotifier
    · subst hm; simp
    · simpa [Function.update_noteq hm] using hi.closes m

/-- A callback keeps the invariant: it closes the notifier registered for an exit, or
leaves the notifiers alone. -/
theorem NotifierInv.runCallback (hi : NotifierInv c) (p : Pending) :
    NotifierInv (c.runCallback p) := by
  unfold Client.runCallback
  dsimp only
  split_ifs
  all_goals first
    | exact hi.of_notifierState rfl
    | (split
       · refine NotifierInv.closeExitNotifier ?_ _
         exact hi.of_notifierState rfl
       · exact hi.of_notifierState rfl)

theorem NotifierInv.runQueue (hi : NotifierInv c) {k : String} {c' : Client}
    (h : c.runQueue k = some c') : NotifierInv c' := by
  obtain ⟨⟨p, q'⟩, -, rfl⟩ := Option.map_eq_some'.mp h
  exact NotifierInv.runCallback (hi.of_notifierState rfl : NotifierInv { c with q := q' }) p

theorem getOrCreateExitNotifier_spec (id : String) :
    c.KeepsNames (c.getOrCreateExitNotifier id).1 ∧ c.Reports (c.getOrCreateExitNotifier id).1 := by
  unfold getOrCreateExitNotifier
  split
  · exact ⟨.refl c, .refl c⟩
  · exact ⟨⟨le_rfl, fun _ _ => ⟨rfl, rfl⟩, fun _ _ h => .inl h, rfl⟩, .inl ⟨rfl, rfl, rfl⟩⟩

end Client
end ContainerLifecycle
