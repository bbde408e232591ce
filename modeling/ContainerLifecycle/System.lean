import ContainerLifecycle.HandleEvent
import ContainerLifecycle.Create

/-! # The client under concurrent calls

Goroutines share the client through its table, its queue and the file system, and
serialise on the lock of a container id.  A step of the system is one atomic section of
one goroutine (`Action`, `Sys.exec`):

* `deliver e` — the event loop finds the container of `e.Id` in the live table and hands
  the event to `handleEvent`, which then waits for the lock; `trigger id` is
  `TriggerHandleStream(id)`, which does the same with a synthetic init exit.  Both become
  a `handler` thread holding the *handle* that was live at the lookup.
* `handle i o` — handler `i` takes the lock of its container's id and runs `handleEvent`.
* `create a o` — a `Create` runs up to `appendContainer` under the lock of its id; if it
  gets there it becomes a `creating` thread that keeps the lock, and `finish i` runs the
  rest, the RPC and the rollback included.
* `runQueue k` — the queue runs the oldest callback of key `k`, with no lock.
* `register id` — some caller registers an exit notifier for `id`.

Inside a locked section nothing another goroutine can observe happens between two table
accesses, other than the file system writes of the section itself, so each section is
taken as one step.  The environment's choices — which event arrives, how each system call
goes — are arguments of the actions.  Besides the client, the system records which
`Create` call allocated each container handle (`createdBy`).

`Reachable` is every state a run from a fresh client reaches; `run` executes a concrete
schedule.
-/
namespace ContainerLifecycle

/-- The event `TriggerHandleStream(id)` builds: an exit of the process `"init"`. -/
def triggerEvent (id : String) : Event := ⟨"exit", id, 0, "init"⟩

/-- A goroutine between two of its atomic sections. -/
inductive Thread
  /-- A handler that looked up container `h` for event `e` and waits for the lock. -/
  | handler (h : Nat) (e : Event)
  /-- A `Create` that registered container `h` and holds the lock of `a.containerID`. -/
  | creating (a : CreateArgs) (o : CreateOutcome) (h : Nat)

/-- The container handle a thread holds. -/
def Thread.handle : Thread → Nat
  | .handler h _ => h
  | .creating _ _ h => h

/-- The lock a thread holds between its sections. -/
def Thread.holds : Thread → Option String
  | .handler .. => none
  | .creating a .. => some a.containerID

/-- The client, the goroutines in flight, and the id of the `Create` call that allocated
each container handle. -/
structure Sys where
  client : Client
  threads : List Thread
  createdBy : Nat → Option String

/-- One atomic section of one goroutine. -/
inductive Action
  | deliver (e : Event)
  | trigger (id : String)
  | handle (i : Nat) (o : CleanOutcome)
  | create (a : CreateArgs) (o : CreateOutcome)
  | finish (i : Nat)
  | runQueue (k : String)
  | register (id : String)

namespace Sys

variable (s : Sys)

/-- No goroutine holds the lock of `k`. -/
def Free (k : String) : Prop := ∀ t ∈ s.threads, t.holds ≠ some k

instance (k : String) : Decidable (s.Free k) := inferInstanceAs (Decidable (∀ _ ∈ _, _))

/-- The handles allocated between client states `c` and `c'` are attributed to `id`. -/
def attributed (c' : Client) (id : String) : Nat → Option String := fun h =>
  if s.client.next ≤ h ∧ h < c'.next then some id else s.createdBy h

/-- One step of the system. -/
def exec : Action → Option Sys
  | .deliver e =>
    (s.client.getContainer e.id).map fun h => { s with threads := s.threads ++ [.handler h e] }
  | .trigger id =>
    (s.client.getContainer id).map fun h =>
      { s with threads := s.threads ++ [.handler h (triggerEvent id)] }
  | .handle i o =>
    match s.threads.get? i with
    | some (.handler h e) =>
      if s.Free (s.client.heap h).containerID then
        some { s with client := s.client.handleEvent h e o, threads := s.threads.eraseIdx i }
      else none
    | _ => none
  | .create a o =>
    if s.Free a.containerID then
      match s.client.createBegin a o with
      | .returned c _ => some { s with client := c, createdBy := s.attributed c a.containerID }
      | .registered c h =>
        some ⟨c, s.threads ++ [.creating a o h], s.attributed c a.containerID⟩
    else none
  | .finish i =>
    match s.threads.get? i with
    | some (.creating a o h) =>
      some { s with client := (s.client.createFinish a h o).1, threads := s.threads.eraseIdx i }
    | _ => none
  | .runQueue k => (s.client.runQueue k).map fun c => { s with client := c }
  | .register id => some { s with client := (s.client.getOrCreateExitNotifier id).1 }

/-- A system with a fresh client and no goroutine in flight. -/
def init (c : Client) : Sys := ⟨c, [], fun _ => none⟩

/-- A fresh client: nothing live, allocated, registered, queued or reported. -/
def Fresh (c : Client) : Prop :=
  ∃ root noclean ramdisk fs, c = Client.init root noclean ramdisk fs

end Sys

/-- The states of every run from a fresh client. -/
inductive Reachable : Sys → Prop
  | init {c : Client} : Sys.Fresh c → Reachable (Sys.init c)
  | step {s s' : Sys} {act : Action} : Reachable s → s.exec act = some s' → Reachable s'

namespace Sys

/-- Execute a schedule of actions. -/
def run (s : Sys) : List Action → Option Sys
  | [] => some s
  | act :: acts => (s.exec act).bind fun s => s.run acts

theorem reachable_of_run {s s' : Sys} {acts : List Action} (hs : Reachable s)
    (h : s.run acts = some s') : Reachable s' := by
  induction acts generalizing s with
  | nil => cases h; exact hs
  | cons act acts ih =>
    simp only [run, Option.bind_eq_some] at h
    obtain ⟨s1, h1, h2⟩ := h
    exact ih (hs.step h1) h2

/-! ## What one step does -/

/-- What a step does to the shared state: it keeps the names of allocated containers,
deletes table entries or enters a container under its own name, queues or reports as
`Reports` allows, and attributes the containers it allocates to the id of its `Create`,
under the join of a bundle directory of the state directory and that id. -/
structure StepFrame (s s' : Sys) : Prop where
  names : s.client.KeepsNames s'.client
  reports : s.client.Reports s'.client
  old : ∀ h < s.client.next, s'.createdBy h = s.createdBy h
  made : ∀ h, s.client.next ≤ h → h < s'.client.next → ∃ id dir, s'.createdBy h = some id ∧
    BundleRoot s.client.stateDir dir ∧ (s'.client.heap h).dir = join dir id ∧
    (s'.client.heap h).containerID = base (join dir id)

/-- **Every step is framed.**  Only a `create` step allocates containers. -/
theorem exec_spec {s s' : Sys} {act : Action} (hx : s.exec act = some s') : StepFrame s s' := by
  have plain : ∀ (c : Client) (ts : List Thread), s.client.KeepsNames c → s.client.Reports c →
      c.next = s.client.next → StepFrame s ⟨c, ts, s.createdBy⟩ :=
    fun c ts hk hr hn => ⟨hk, hr, fun _ _ => rfl, fun h h1 h2 => absurd (hn ▸ h2) (Nat.not_lt.mpr h1)⟩
  cases act with
  | deliver e =>
    obtain ⟨h, -, rfl⟩ := Option.map_eq_some'.mp hx
    exact plain _ _ (.refl _) (.refl _) rfl
  | trigger id =>
    obtain ⟨h, -, rfl⟩ := Option.map_eq_some'.mp hx
    exact plain _ _ (.refl _) (.refl _) rfl
  | handle i o =>
    simp only [exec] at hx
    split at hx
    · split at hx
      · cases hx
        exact plain _ _ (Client.handleEvent_spec _).1 (Client.handleEvent_spec _).2 (by simp)
      · cases hx
    · cases hx
  | create a o =>
    simp only [exec] at hx
    split at hx
    · have hf := Client.createBegin_frame (c := s.client) (a := a) (o := o)
      have made : ∀ c : Client, Client.BeginFrame s.client a.containerID c → ∀ h, s.client.next ≤ h →
          h < c.next → ∃ id dir, s.attributed c a.containerID h = some id ∧
            BundleRoot s.client.stateDir dir ∧ (c.heap h).dir = join dir id ∧
            (c.heap h).containerID = base (join dir id) :=
        fun c hc h h1 h2 => by
          obtain ⟨dir, hr, hd, hn⟩ := hc.made h h1 h2
          exact ⟨a.containerID, dir, by simp [attributed, h1, h2], hr, hd, hn⟩
      have old : ∀ c : Client, ∀ h < s.client.next, s.attributed c a.containerID h = s.createdBy h :=
        fun c h hh => by simp [attributed, Nat.not_le.mpr hh]
      split at hx <;> rename_i hb <;> rw [hb] at hf <;> cases hx <;>
        exact ⟨hf.names, .inl ⟨hf.q, hf.backend, hf.serial⟩, old _, made _ hf⟩
    · cases hx
  | finish i =>
    simp only [exec] at hx
    split at hx
    · cases hx
      exact plain _ _ (Client.createFinish_frame _).1 (Client.createFinish_frame _).2 (by simp)
    · cases hx
  | runQueue k =>
    obtain ⟨c, hc, rfl⟩ := Option.map_eq_some'.mp hx
    exact plain _ _ (Client.runQueue_spec hc).1 (Client.runQueue_spec hc).2
      (Client.runQueue_next hc)
  | register id =>
    cases hx
    exact plain _ _ (Client.getOrCreateExitNotifier_spec id).1
      (Client.getOrCreateExitNotifier_spec id).2 (by simp [Client.getOrCreateExitNotifier]; split <;> rfl)

end Sys

/-- A property that holds of every fresh system and is kept by every framed step holds of
every reachable state. -/
theorem Reachable.of_frame {P : Sys → Prop} (h0 : ∀ c, Sys.Fresh c → P (Sys.init c))
    (hstep : ∀ s s', P s → Sys.StepFrame s s' → P s') {s : Sys} (hs : Reachable s) : P s := by
  induction hs with
  | init hc => exact h0 _ hc
  | step _ hx ih => exact hstep _ _ ih (Sys.exec_spec hx)

namespace Sys

/-! ## The live table

`Create` checks and locks the id it is given, but the container enters the table under
`filepath.Base` of its bundle directory.  Every entry is still a container under its own
`containerID`, made by some `Create`; that `Create`'s id is the entry's key only when the
id is a plain name. -/

/-- Every entry `k` of the table is an allocated container whose `containerID` is `k`, and
every allocated container was made by a `Create` of some id, in the join of a bundle
directory of the state directory and that id, and named by the join's last component. -/
structure TableInv (s : Sys) : Prop where
  key : ∀ k h, s.client.containers k = some h →
    (s.client.heap h).containerID = k ∧ h < s.client.next
  made : ∀ h < s.client.next, ∃ id dir, s.createdBy h = some id ∧
    BundleRoot s.client.stateDir dir ∧ (s.client.heap h).dir = join dir id ∧
    (s.client.heap h).containerID = base (join dir id)

theorem TableInv.init {c : Client} (hc : Fresh c) : TableInv (init c) := by
  obtain ⟨root, noclean, ramdisk, fs, rfl⟩ := hc
  exact ⟨fun _ _ h => (by cases h), fun _ h => absurd h (Nat.not_lt_zero _)⟩

theorem TableInv.step {s s' : Sys} (hi : TableInv s) (hf : StepFrame s s') : TableInv s' where
  key k h hk := by
    rcases hf.names.table k h hk with hk | hk
    · obtain ⟨hid, hlt⟩ := hi.key k h hk
      exact ⟨(hf.names.heap h hlt).2.trans hid, lt_of_lt_of_le hlt hf.names.next_le⟩
    · exact hk
  made h hh := by
    by_cases hlt : h < s.client.next
    · obtain ⟨id, dir, hc, hr, hd, hn⟩ := hi.made h hlt
      have hk := hf.names.heap h hlt
      exact ⟨id, dir, (hf.old h hlt).trans hc, hf.names.stateDir ▸ hr, hk.1.trans hd, hk.2.trans hn⟩
    · exact hf.names.stateDir ▸ hf.made h (Nat.not_lt.mp hlt) hh

/-- A `Create` that gets the lock of an id that is live returns its error and is a step
that changes nothing. -/
theorem exec_create_of_live {s : Sys} {a : CreateArgs} {o : CreateOutcome}
    (hl : s.client.containers a.containerID ≠ none) (hf : s.Free a.containerID) :
    s.exec (.create a o) = some s := by
  have hat : s.attributed s.client a.containerID = s.createdBy :=
    funext fun h => if_neg fun ⟨h1, h2⟩ => absurd h2 (Nat.not_lt.mpr h1)
  simp [exec, hf, Client.createBegin_of_live hl, hat]

/-- **The live table in every reachable state.**  An entry `k` is a container whose
`containerID` is `k`, made by a `Create(id)` in `join dir id` for a bundle directory `dir`
of the state directory, whose last component is `k`; `id` is `k` itself when it is a plain
name.  A `Create(id)` that takes the lock of a live `id` returns `alreadyActive id` and
changes nothing. -/
theorem live_table_entries {s : Sys} (hs : Reachable s) :
    (∀ k h, s.client.containers k = some h → (s.client.heap h).containerID = k ∧
      ∃ id dir, s.createdBy h = some id ∧ BundleRoot s.client.stateDir dir ∧
        (s.client.heap h).dir = join dir id ∧ base (join dir id) = k ∧ (PlainName id → id = k)) ∧
    ∀ a o, s.client.containers a.containerID ≠ none → s.Free a.containerID →
      s.client.createBegin a o = .returned s.client (some (Client.alreadyActive a.containerID)) ∧
      s.exec (.create a o) = some s := by
  have hi : TableInv s := hs.of_frame (fun _ => TableInv.init) fun _ _ hi hf => hi.step hf
  refine ⟨fun k h hk => ?_, fun a o hl hf => ⟨Client.createBegin_of_live hl, exec_create_of_live hl hf⟩⟩
  obtain ⟨hid, hlt⟩ := hi.key k h hk
  obtain ⟨id, dir, hc, hr, hd, hn⟩ := hi.made h hlt
  exact ⟨hid, id, dir, hc, hr, hd, hn ▸ hid,
    fun hp => (base_join_of_plain hp dir).symm.trans (hn ▸ hid)⟩

/-- `Create("c1")` in its two sections. -/
def createC1 : List Action := [.create { containerID := "c1" } {}, .finish 0]

/-- After `Create("c1")` has finished, `c1` is live under handle `0`, in a bundle directory
of `/run` joined with `"c1"`, and a second `Create("c1")` is a step that changes nothing. -/
theorem live_table_entries_created :
    ∃ s, (init Client.idle).run createC1 = some s ∧
      s.client.containers "c1" = some 0 ∧ s.client.stateDir = ["run"] ∧
      (∃ id dir, s.createdBy 0 = some id ∧ BundleRoot s.client.stateDir dir ∧
        (s.client.heap 0).dir = join dir id ∧ base (join dir id) = "c1" ∧ (PlainName id → id = "c1")) ∧
      s.exec (.create { containerID := "c1" } {}) = some s :=
  have h := live_table_entries (reachable_of_run (.init ⟨_, _, _, _, rfl⟩)
    (rfl : (init Client.idle).run createC1 = some _))
  ⟨_, rfl, rfl, rfl, (h.1 "c1" 0 rfl).2, (h.2 _ {} (by decide) (by decide)).2⟩

/-- `Create("x/c1")` while `c1` is live: it locks `"x/c1"`, finds it not live, and enters
its container under `base "run/x/c1" = "c1"`, in place of the live `c1`. -/
theorem create_path_id_replaces_entry :
    ((init Client.idle).run [.create { containerID := "c1" } {}, .finish 0]).map
        (fun s => s.client.containers "c1") = some (some 0) ∧
    ((init Client.idle).run [.create { containerID := "c1" } {}, .finish 0,
        .create { containerID := "x/c1" } {}, .finish 0]).map
        (fun s => (s.client.containers "c1", s.createdBy 1)) = some (some 1, some "x/c1") := by
  decide

/-- The init exit of `c1`, delivered by the shim and then triggered, and `c1` created
again between the two handlers: the stale handler, which still holds handle `0`, removes
the entry and the bundle directory of the new `c1` (handle `1`) and queues a second exit
report for the first incarnation. -/
theorem stale_handler_removes_next_incarnation :
    ((init Client.idle).run [.create { containerID := "c1" } {}, .finish 0,
        .deliver ⟨StateExit, "c1", 0, InitFriendlyName⟩, .trigger "c1", .handle 0 {},
        .create { containerID := "c1" } {}, .finish 1]).map (fun s =>
      (s.threads.map Thread.handle, s.client.containers "c1",
        decide (s.client.fs.Exists (s.client.heap 1).dir),
        s.client.q.map fun p => (p.ctr, p.info.state))) =
      some ([0], some 1, true, [(0, StateExit)]) ∧
    ((init Client.idle).run [.create { containerID := "c1" } {}, .finish 0,
        .deliver ⟨StateExit, "c1", 0, InitFriendlyName⟩, .trigger "c1", .handle 0 {},
        .create { containerID := "c1" } {}, .finish 1, .handle 0 {}]).map (fun s =>
      (s.threads.map Thread.handle, s.client.containers "c1",
        decide (s.client.fs.Exists (s.client.heap 1).dir),
        s.client.q.map fun p => (p.ctr, p.info.state))) =
      some ([], none, false, [(0, StateExit), (0, StateExit)]) :=
  ⟨by decide, by decide⟩

/-! ## The order of reports

A transition is applied under its id's lock and takes the client's `serial` at that
moment: `handleEvent` queues its report with it, and `start` reports `StateStart` with it
at once.  The queue hands a key's callbacks to the backend oldest first.  So reports of
events reach the backend in the order they were applied, and nothing reaches it before a
`Start` applied earlier; but a `Start` overtakes every report still queued for its id. -/

/-- Notice `n` may reach the backend before `n'`: they are about different ids, `n`'s
transition was applied first, or `n` is a `Start` ahead of another kind of report. -/
def InOrder (n n' : Notice) : Prop :=
  n.id = n'.id → n.serial < n'.serial ∨ (n.info.state = StateStart ∧ n'.info.state ≠ StateStart)

/-- Serials are fresh, the queue is in serial order and holds reports of events under
their ids, a delivered event report is older than every queued report of its id, and the
backend got its notices `InOrder`. -/
structure OrderInv (c : Client) : Prop where
  fresh_q : ∀ p ∈ c.q, p.serial < c.serial
  fresh_backend : ∀ n ∈ c.backend, n.serial < c.serial
  sorted : c.q.Pairwise fun p p' => p.serial < p'.serial
  keyed : ∀ p ∈ c.q, p.key = p.event.id ∧ p.info.state ≠ StateStart
  behind : ∀ n ∈ c.backend, ∀ p ∈ c.q, n.id = p.event.id → n.info.state ≠ StateStart →
    n.serial < p.serial
  ordered : c.backend.Pairwise InOrder

theorem OrderInv.init (root : Path) (noclean ramdisk : Bool) (fs : Fs) :
    OrderInv (Client.init root noclean ramdisk fs) :=
  ⟨nofun, nofun, .nil, nofun, nofun, .nil⟩

section
variable {c c' : Client} (hi : OrderInv c)
include hi

theorem OrderInv.append {p : Pending} (hq : c'.q = c.q ++ [p]) (hs : p.serial = c.serial)
    (hk : p.key = p.event.id) (hst : p.info.state ≠ StateStart) (hb : c'.backend = c.backend)
    (hn : c'.serial = c.serial + 1) : OrderInv c' := by
  have hp : ∀ x ∈ c.q, x.serial < p.serial := hs ▸ hi.fresh_q
  cases c'; dsimp only at hq hb hn; subst hq hb hn
  refine ⟨?_, fun n hn => Nat.lt_succ_of_lt (hi.fresh_backend n hn), ?_, ?_, ?_, hi.ordered⟩
  · simpa [or_imp, forall_and, hs] using fun x hx => Nat.lt_succ_of_lt (hi.fresh_q x hx)
  · exact List.pairwise_append.mpr ⟨hi.sorted, List.pairwise_singleton _ _, by simpa using hp⟩
  · simpa [or_imp, forall_and, hk, hst] using hi.keyed
  · simpa [or_imp, forall_and] using ⟨hi.behind, fun n hn _ _ => hs ▸ hi.fresh_backend n hn⟩

theorem OrderInv.start {id : String} {pid : Nat} (hq : c'.q = c.q)
    (hb : c'.backend = c.backend ++ [⟨id, { state := StateStart, pid }, c.serial⟩])
    (hn : c'.serial = c.serial + 1) : OrderInv c' := by
  cases c'; dsimp only at hq hb hn; subst hq hb hn
  refine ⟨fun p hp => Nat.lt_succ_of_lt (hi.fresh_q p hp), ?_, hi.sorted, hi.keyed, ?_, ?_⟩
  · simpa [or_imp, forall_and] using fun n hn => Nat.lt_succ_of_lt (hi.fresh_backend n hn)
  · simpa [or_imp, forall_and] using hi.behind
  · exact List.pairwise_append.mpr ⟨hi.ordered, List.pairwise_singleton _ _,
      by simpa using fun n hn _ => .inl (hi.fresh_backend n hn)⟩

theorem OrderInv.take {k : String} {p : Pending} (ht : takeKey k c.q = some (p, c'.q))
    (hb : c'.backend = c.backend ++ [⟨p.event.id, p.info, p.serial⟩])
    (hn : c'.serial = c.serial) : OrderInv c' := by
  obtain ⟨l1, l2, hq, hq', hpk, hl1⟩ := Client.takeKey_eq_some ht
  have hsub : ∀ x ∈ c'.q, x ∈ c.q := fun x hx => by
    rw [hq', List.mem_append] at hx
    exact hq ▸ List.mem_append.mpr (hx.imp id (List.mem_cons_of_mem p))
  have hsorted := hi.sorted
  rw [hq, List.pairwise_append, List.pairwise_cons] at hsorted
  have hkp := hi.keyed p (by simp [hq])
  -- a queued report of `p`'s id after `p` is younger than `p`
  have hnext : ∀ x ∈ c'.q, x.event.id = p.event.id → p.serial < x.serial := by
    intro x hx he
    rw [hq', List.mem_append] at hx
    rcases hx with hx | hx
    · exact absurd (by rw [(hi.keyed x (by simp [hq, hx])).1, he, ← hkp.1, hpk]) (hl1 x hx)
    · exact hsorted.2.1.1 x hx
  cases c'; dsimp only at hb hn hq' hsub hnext; subst hb hn
  refine ⟨fun x hx => hi.fresh_q x (hsub x hx), ?_, ?_, fun x hx => hi.keyed x (hsub x hx), ?_, ?_⟩
  · simpa [or_imp, forall_and] using ⟨hi.fresh_backend, hi.fresh_q p (by simp [hq])⟩
  · rw [hq']
    exact List.pairwise_append.mpr ⟨hsorted.1, hsorted.2.1.2,
      fun x hx y hy => hsorted.2.2 x hx y (List.mem_cons_of_mem _ hy)⟩
  · simpa [or_imp, forall_and] using
      ⟨fun n hn x hx => hi.behind n hn x (hsub x hx), fun x hx he _ => hnext x hx he.symm⟩
  · refine List.pairwise_append.mpr ⟨hi.ordered, List.pairwise_singleton _ _, ?_⟩
    simp only [List.mem_singleton, forall_eq]
    intro n hn he
    by_cases hs : n.info.state = StateStart
    · exact .inr ⟨hs, hkp.2⟩
    · exact .inl (hi.behind n hn p (by simp [hq]) he hs)

/-- Every step that queues and reports as `Reports` allows keeps the order invariant. -/
theorem OrderInv.step (hr : c.Reports c') : OrderInv c' := by
  rcases hr with ⟨hq, hb, hn⟩ | ⟨p, hq, hs, hk, hst, hb, hn⟩ | ⟨id, pid, hq, hb, hn⟩ |
    ⟨k, p, ht, hb, hn⟩
  · cases c'; dsimp only at hq hb hn; subst hq hb hn
    exact ⟨hi.fresh_q, hi.fresh_backend, hi.sorted, hi.keyed, hi.behind, hi.ordered⟩
  · exact hi.append hq hs hk hst hb hn
  · exact hi.start hq hb hn
  · exact hi.take ht hb hn

end

/-- **The backend's order in every reachable state.**  Of two notices for one id, the one
delivered first was applied first, unless it is a `Start` and the other is not. -/
theorem backend_in_order {s : Sys} (hs : Reachable s) : s.client.backend.Pairwise InOrder :=
  (hs.of_frame (P := fun s => OrderInv s.client)
    (fun _ ⟨root, noclean, ramdisk, fs, hc⟩ => hc ▸ OrderInv.init root noclean ramdisk fs)
    fun _ _ hi hf => hi.step hf.reports).ordered

/-- The schedule of `start_overtakes_queued_exit`: `c1` created, its init exit handled,
`c1` created again, and the queue of `c1` run. -/
def recreateC1 : List Action :=
  [.create { containerID := "c1" } {}, .finish 0, .deliver ⟨StateExit, "c1", 0, InitFriendlyName⟩,
    .handle 0 {}, .create { containerID := "c1" } {}, .finish 0, .runQueue "c1"]

/-- The run of `start_overtakes_queued_exit`: its three notices for `c1` are `InOrder`,
the queued exit behind the younger `Start`. -/
theorem backend_in_order_overtaken :
    ∃ s, (init Client.idle).run recreateC1 = some s ∧
      s.client.backend.map (fun n => (n.id, n.info.state, n.serial)) =
        [("c1", StateStart, 0), ("c1", StateStart, 2), ("c1", StateExit, 1)] ∧
      s.client.backend.Pairwise InOrder :=
  ⟨_, rfl, by decide, backend_in_order (reachable_of_run (.init ⟨_, _, _, _, rfl⟩)
    (rfl : (init Client.idle).run recreateC1 = some _))⟩

/-- `c1`'s init exit is handled before `c1` is created again, and its queued report is run
after: it reaches the backend after the new `Start`, whose serial is younger. -/
theorem start_overtakes_queued_exit :
    ((init Client.idle).run [.create { containerID := "c1" } {}, .finish 0,
        .deliver ⟨StateExit, "c1", 0, InitFriendlyName⟩, .handle 0 {},
        .create { containerID := "c1" } {}, .finish 0, .runQueue "c1"]).map
      (fun s => s.client.backend.map fun n => (n.id, n.info.state, n.serial)) =
      some [("c1", StateStart, 0), ("c1", StateStart, 2), ("c1", StateExit, 1)] := by
  decide

/-! ## The exit notifiers

A notifier's channel is closed under its `once`, and a waiter takes the notifier registered
for its id.  In every reachable state the registry names open notifiers of their own ids,
and no channel has been closed twice. -/

end Sys
end ContainerLifecycle
