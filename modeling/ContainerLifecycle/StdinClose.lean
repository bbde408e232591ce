import Mathlib.Data.List.Basic

/-! # Closing stdin while `start` runs

`container.start` wraps the container's stdin so that the caller's `Close` closes the pipe
at once but tells the shim only once `CreateContainer` has been acknowledged.  The wrapper
runs its body under `stdinOnce`: it closes the pipe and starts a *notifier* goroutine,
which waits in a first `select` for `ready` (closed after a successful RPC) or for
`ctx.Done()` (closed by the deferred `cancel` when `start` returns), and then, in a second
`select` with a `default` case, calls `sendCloseStdin` only if `ready` is closed.

The model starts where the wrapper is in place and the container is in the table.  From
there `start` calls `attachStdio`, makes the RPC, closes `ready` and returns; the caller
may call `Close` at any moment; and the notifier takes its two `select`s.  Each of these
is one step (`Step`, `State.exec`).  Go picks at random among the ready cases of a
`select`, so the first `select` is two steps, one per case.  The state of the channels is
read off `start`'s phase: `ready` is closed from `close(ready)` on, `ctx` from the return.
`closeFifos`, absent from the source, is taken to leave stdin alone: if it closes the
wrapper, that is a caller's `Close` just before `start` returns, and the model has it.

Besides the program state, a state records how often the pipe was closed, what each
`Close` of the wrapper returned, and how often `sendCloseStdin` was called.  The
invariant `Inv` holds in every reachable state (`Reachable.inv`); the protocol's
guarantees follow from it (`stdin_close_protocol`).
-/
namespace ContainerLifecycle
namespace StdinClose

/-- Where `start` is, from `attachStdio` on. -/
inductive Phase
  /-- In the caller's `attachStdio`. -/
  | attaching
  /-- The `CreateContainer` RPC is in flight. -/
  | creating
  /-- The RPC succeeded; `ready` is not closed yet. -/
  | created
  /-- `ready` is closed; `start` sleeps and reports `StateStart`. -/
  | ready
  /-- Returned an error, without closing `ready`. -/
  | failed
  /-- Returned after `StateChanged`. -/
  | returned
  deriving DecidableEq, Repr

namespace Phase

/-- The channel `ready` is closed. -/
def readyClosed : Phase → Bool
  | ready | returned => true
  | _ => false

/-- `ctx.Done()` is closed: `start` has returned. -/
def cancelled : Phase → Bool
  | failed | returned => true
  | _ => false

/-- `CreateContainer` has returned success. -/
def rpcOk : Phase → Bool
  | created | ready | returned => true
  | _ => false

end Phase

/-- Where the notifier goroutine is. -/
inductive Notifier
  /-- Blocked in the first `select`, on `ready` and `ctx.Done()`. -/
  | first
  /-- Past the first `select`. -/
  | second
  | done
  deriving DecidableEq, Repr

/-- `start`'s phase, the notifier (`none` until `stdinOnce` runs, which starts it), and
the record of the run: calls of the pipe's `Close`, the result of each `Close` of the
wrapper, and calls of `sendCloseStdin`. -/
structure State where
  phase : Phase
  notifier : Option Notifier
  pipeCloses : Nat
  results : List (Option String)
  sends : Nat
  deriving DecidableEq, Repr

/-- One step of one goroutine. -/
inductive Step
  /-- The caller calls `Close` on the wrapper; the pipe's `Close` would return `pipeErr`. -/
  | close (pipeErr : Option String)
  /-- `attachStdio` returns `err`. -/
  | attach (err : Option String)
  /-- `CreateContainer` returns `err`. -/
  | rpc (err : Option String)
  /-- `close(ready)`. -/
  | closeReady
  /-- `StateChanged` returns and `start` with it. -/
  | ret
  /-- The notifier's first `select` takes `<-ready`. -/
  | wakeReady
  /-- The notifier's first `select` takes `<-ctx.Done()`. -/
  | wakeDone
  /-- The notifier's second `select`. -/
  | notify
  deriving DecidableEq, Repr

namespace State

/-- Just after the wrapper is installed. -/
def init : State := ⟨.attaching, none, 0, [], 0⟩

/-- `start` returned and the notifier, if started, is done. -/
def Finished (s : State) : Prop :=
  s.phase.cancelled = true ∧ s.notifier ≠ some .first ∧ s.notifier ≠ some .second

instance (s : State) : Decidable s.Finished := inferInstanceAs (Decidable (_ ∧ _))

/-- `start` in phase `p` goes to `ok` when the call it waits for returns `nil`, and fails
otherwise. -/
def advance (s : State) (p : Phase) (err : Option String) (ok : Phase) : Option State :=
  if s.phase = p then some { s with phase := if err.isSome then .failed else ok } else none

/-- The notifier's first `select` takes a case whose channel is closed: `closed`. -/
def wake (s : State) (closed : Bool) : Option State :=
  if s.notifier = some .first ∧ closed then some { s with notifier := some .second } else none

/-- One step. -/
def exec (s : State) : Step → Option State
  | .close pipeErr =>
    match s.notifier with
    | some _ => some { s with results := s.results ++ [none] }
    | none => some { s with pipeCloses := s.pipeCloses + 1, results := s.results ++ [pipeErr]
                            notifier := some .first }
  | .attach err => s.advance .attaching err .creating
  | .rpc err => s.advance .creating err .created
  | .closeReady => if s.phase = .created then some { s with phase := .ready } else none
  | .ret => if s.phase = .ready then some { s with phase := .returned } else none
  | .wakeReady => s.wake s.phase.readyClosed
  | .wakeDone => s.wake s.phase.cancelled
  | .notify =>
    if s.notifier = some .second then
      some { s with notifier := some .done
                    sends := if s.phase.readyClosed then s.sends + 1 else s.sends }
    else none

/-- Execute a schedule of steps. -/
def run (s : State) : List Step → Option State
  | [] => some s
  | a :: as => (s.exec a).bind fun s => s.run as

end State

/-- The states of every run of `start` with its callers and notifier. -/
inductive Reachable : State → Prop
  | init : Reachable .init
  | step {s s' : State} {a : Step} : Reachable s → s.exec a = some s' → Reachable s'

theorem Reachable.of_run {s s' : State} {as : List Step} (hs : Reachable s)
    (h : s.run as = some s') : Reachable s' := by
  induction as generalizing s with
  | nil => cases h; exact hs
  | cons a as ih =>
    obtain ⟨s1, h1, h2⟩ := Option.bind_eq_some.mp h
    exact ih (hs.step h1) h2

/-! ## What each step does -/

namespace Phase

/-- Once `ctx` is cancelled, `ready` is closed or `start` failed. -/
theorem woke_of_cancelled {p : Phase} (h : p.cancelled = true) :
    p.readyClosed = true ∨ p = .failed := by
  revert h; cases p <;> decide

/-- Where `ready` is closed or `start` failed, `ready` is closed exactly when the RPC
succeeded. -/
theorem rpcOk_eq_readyClosed {p : Phase} (h : p.readyClosed = true ∨ p = .failed) :
    p.rpcOk = p.readyClosed := by
  revert h; cases p <;> decide

end Phase

namespace State

variable {s s' : State}

theorem advance_eq {p ok : Phase} {err : Option String} (h : s.advance p err ok = some s') :
    s.phase = p ∧ s' = { s with phase := if err.isSome then .failed else ok } := by
  unfold advance at h
  split at h
  · exact ⟨‹_›, (Option.some.inj h).symm⟩
  · cases h

theorem wake_eq {closed : Bool} (h : s.wake closed = some s') :
    s.notifier = some .first ∧ closed = true ∧ s' = { s with notifier := some .second } := by
  unfold wake at h
  split at h
  · exact ⟨‹_ ∧ _›.1, ‹_ ∧ _›.2, (Option.some.inj h).symm⟩
  · cases h

/-- Only the notifier's second `select` calls `sendCloseStdin`, and only when `ready` is
closed. -/
theorem exec_sends {a : Step} (h : s.exec a = some s') :
    s'.sends = if a = .notify ∧ s.phase.readyClosed = true then s.sends + 1 else s.sends := by
  cases a with
  | close e =>
    cases hn : s.notifier <;> simp only [exec, hn, Option.some.injEq] at h <;> subst h <;> simp
  | attach err | rpc err => obtain ⟨-, rfl⟩ := advance_eq h; simp
  | wakeReady | wakeDone => obtain ⟨-, -, rfl⟩ := wake_eq h; simp
  | closeReady | ret | notify =>
    simp only [exec] at h
    split at h <;> cases h
    simp

end State

/-! ## The invariant -/

/-- The pipe is closed once the first `Close` was made, and never again; the first `Close`
starts the notifier; every later `Close` returns `nil`; the notifier gets past its first
`select` only once `ready` is closed or `start` failed; and `sendCloseStdin` was called
once if the notifier is done after a successful RPC, and never otherwise. -/
structure Inv (s : State) : Prop where
  pipe : s.pipeCloses = min s.results.length 1
  started : s.notifier = none ↔ s.results = []
  later : ∀ r ∈ s.results.tail, r = none
  woke : s.notifier = some .second ∨ s.notifier = some .done →
    s.phase.readyClosed = true ∨ s.phase = .failed
  sends : s.sends = if s.notifier = some .done ∧ s.phase.rpcOk = true then 1 else 0

theorem Inv.init : Inv .init := ⟨rfl, iff_of_true rfl rfl, nofun, nofun, rfl⟩

namespace Inv

variable {s s' : State} (hi : Inv s)
include hi

/-- Before `ready` is closed, and unless `start` failed, the notifier has not got past its
first `select`. -/
theorem waiting (hr : s.phase.readyClosed = false) (hf : s.phase ≠ .failed) :
    ¬ (s.notifier = some .second ∨ s.notifier = some .done) := fun hn =>
  (hi.woke hn).elim (fun h => Bool.false_ne_true (hr.symm.trans h)) hf

/-- Once the notifier was started, `Close` was called. -/
theorem results_ne_nil {n : Notifier} (hn : s.notifier = some n) : s.results ≠ [] :=
  fun hr => by simp [hi.started.mpr hr] at hn

/-- A change of `start`'s phase keeps the invariant if the notifier's progress stays
justified and whether the RPC succeeded stays fixed once the notifier is done. -/
theorem phase {p : Phase}
    (hw : s.notifier = some .second ∨ s.notifier = some .done → p.readyClosed = true ∨ p = .failed)
    (hs : s.notifier = some .done → p.rpcOk = s.phase.rpcOk) : Inv { s with phase := p } := by
  refine ⟨hi.pipe, hi.started, hi.later, hw, ?_⟩
  by_cases hd : s.notifier = some .done
  · simp [hi.sends, hd, hs hd]
  · simp [hi.sends, hd]

theorem close {e : Option String} (h : s.exec (.close e) = some s') : Inv s' := by
  cases hn : s.notifier with
  | some n =>
    simp only [State.exec, hn, Option.some.injEq] at h
    subst h
    have hr := hi.results_ne_nil hn
    have hl := List.length_pos.mpr hr
    refine ⟨?_, by simp [hn], ?_, by simpa [hn] using hi.woke, by simpa [hn] using hi.sends⟩
    · simp only [hi.pipe, List.length_append, List.length_singleton]
      omega
    · simpa [List.tail_append_of_ne_nil hr, or_imp, forall_and] using hi.later
  | none =>
    simp only [State.exec, hn, Option.some.injEq] at h
    subst h
    have hr := hi.started.mp hn
    exact ⟨by simp [hi.pipe, hr], by simp, by simp [hr], by simp, by simpa [hn] using hi.sends⟩

/-- **Every step keeps the invariant.** -/
theorem step {a : Step} (h : s.exec a = some s') : Inv s' := by
  cases a with
  | close e => exact hi.close h
  | attach err | rpc err =>
    obtain ⟨hp, rfl⟩ := State.advance_eq h
    have hn := hi.waiting (by rw [hp]; rfl) (by rw [hp]; nofun)
    exact hi.phase (fun h => absurd h hn) (fun h => absurd (.inr h) hn)
  | closeReady | ret =>
    simp only [State.exec] at h
    split at h <;> cases h
    exact hi.phase (fun _ => .inl rfl) (fun _ => by rw [‹s.phase = _›]; rfl)
  | wakeReady | wakeDone =>
    obtain ⟨hn, hc, rfl⟩ := State.wake_eq h
    refine ⟨hi.pipe, by simp [hi.results_ne_nil hn], hi.later, fun _ => ?_, by simpa [hn] using hi.sends⟩
    first
    | exact .inl hc
    | exact Phase.woke_of_cancelled hc
  | notify =>
    simp only [State.exec] at h
    split at h <;> cases h
    rename_i hn
    have hw := hi.woke (.inl hn)
    refine ⟨hi.pipe, by simp [hi.results_ne_nil hn], hi.later, fun _ => hw, ?_⟩
    have h0 : s.sends = 0 := by simpa [hn] using hi.sends
    simp [h0, Phase.rpcOk_eq_readyClosed hw]

end Inv

/-- The invariant holds in every reachable state. -/
theorem Reachable.inv {s : State} (hs : Reachable s) : Inv s := by
  induction hs with
  | init => exact Inv.init
  | step _ h ih => exact ih.step h

/-! ## The guarantees -/

/-- **The stdin protocol of `start`.**  In every reachable state the pipe has been closed
once if `Close` was called and never otherwise, and every `Close` after the first
returned `nil`.  `sendCloseStdin` has been called at most once, and only after a
successful RPC; a step calls it only when `ready` is closed.  Once every goroutine has
finished, it has been called if `Close` was called and the RPC succeeded. -/
theorem stdin_close_protocol {s : State} (hs : Reachable s) :
    s.pipeCloses = min s.results.length 1 ∧ (∀ r ∈ s.results.tail, r = none) ∧
    s.sends ≤ 1 ∧ (s.sends = 1 → s.phase.rpcOk = true) ∧
    (∀ a s', s.exec a = some s' → s.sends < s'.sends → s.phase.readyClosed = true) ∧
    (s.Finished → s.results ≠ [] → s.phase.rpcOk = true → s.sends = 1) := by
  have hi := hs.inv
  refine ⟨hi.pipe, hi.later, ?_, fun h1 => ?_, fun a s' h hlt => ?_, fun ⟨_, h1, h2⟩ hr hok => ?_⟩
  · rw [hi.sends]; split <;> omega
  · rw [hi.sends] at h1; split at h1 <;> simp_all
  · rw [State.exec_sends h] at hlt
    split at hlt
    · exact ‹_ ∧ _›.2
    · omega
  · have hd : s.notifier = some .done := by
      cases hn : s.notifier with
      | none => exact absurd (hi.started.mp hn) hr
      | some n => cases n <;> simp_all
    simp [hi.sends, hd, hok]

/-- `Close` before `attachStdio`, then a successful RPC: the notifier wakes on `ready`
and calls `sendCloseStdin`. -/
theorem stdin_close_protocol_early_close :
    ∃ s, State.init.run [.close none, .attach none, .rpc none, .closeReady, .wakeReady, .notify,
      .ret] = some s ∧ s.sends = 1 :=
  ⟨_, rfl, (stdin_close_protocol (Reachable.of_run .init (rfl : State.init.run [.close none,
    .attach none, .rpc none, .closeReady, .wakeReady, .notify, .ret] = some _))).2.2.2.2.2
    (by decide) (by decide) rfl⟩

end StdinClose
end ContainerLifecycle
