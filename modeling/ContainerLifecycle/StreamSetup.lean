import ContainerLifecycle.ClientStream

/-! # Setting up a gRPC client stream

Before `newClientStream` returns a stream it applies the `before` hook of every
`CallOption`, starts the trace when tracing is on, and then loops: `cc.getTransport` picks
a transport together with the balancer's `put` for it, and `t.NewStream` opens the stream
on it.  A failed `NewStream` calls that `put` at once and clears it; a connection error or
a draining transport is retried unless the call is fail-fast, and so are the
`errConnClosing` and `errConnUnavailable` errors of `getTransport`.  Every error return
finishes the trace in the deferred function.  On success the last `put` and the trace go
to the stream, whose termination is the system of `ClientStream`.

The environment's answers are a list of attempts, one per turn of the loop (`Attempt`);
a list that runs out while the loop goes on leaves it retrying (`LoopEnd.retrying`).
`toRPCErr`, `Errorf` and the transport are absent from src: an error return is named by
the path that made it (`SetupErr`).

**Accounting.**  The loop calls the `put` of exactly the attempts whose transport came
with one and whose `NewStream` failed, once each and in order; the attempt that opens the
stream is the last one made (`setupLoop_accounting`).  From there the stream neither calls nor loses a
`put`: the sum of the `put`s called and the `put` still held is the same after every step
(`Stream.run_balance`), and so is the trace's (`newClientStream_accounting`).
-/
namespace ContainerLifecycle
namespace Grpc

/-- The errors of `cc.getTransport` the loop tells apart. -/
inductive TransportErr
  /-- An `*rpcError`, returned as it is. -/
  | rpcError
  /-- `errConnClosing`. -/
  | connClosing
  /-- `errConnUnavailable`. -/
  | connUnavailable
  /-- Any other error, returned as an `Internal` error. -/
  | other
  deriving DecidableEq, Repr

/-- The errors of `t.NewStream` the loop tells apart. -/
inductive NewStreamErr
  /-- A `transport.ConnectionError`. -/
  | connection
  /-- `transport.ErrStreamDrain`. -/
  | streamDrain
  | other
  deriving DecidableEq, Repr

/-- What `cc.getTransport` returns: a transport with the balancer's `put` set or nil, or an
error. -/
inductive GetTransport
  | ok (put : Bool)
  | error (err : TransportErr)
  deriving DecidableEq, Repr

/-- One turn of the loop as the environment answers it: what `getTransport` returns, and
what `NewStream` on that transport returns. -/
structure Attempt where
  getTransport : GetTransport
  newStream : Option NewStreamErr
  deriving DecidableEq, Repr

/-- The attempt's transport came with a `put`. -/
def Attempt.obtainsPut (a : Attempt) : Bool := a.getTransport = .ok true

/-- The attempt obtained a `put` and its `NewStream` failed: the loop calls that `put`. -/
def Attempt.failsWithPut (a : Attempt) : Bool := a.obtainsPut && a.newStream.isSome

/-- The error `newClientStream` returns, by the path that returns it. -/
inductive SetupErr
  /-- `toRPCErr` of the error of a `CallOption`'s `before` hook. -/
  | before
  /-- The `*rpcError` of `getTransport`. -/
  | rpcError
  /-- `Errorf(codes.Unavailable, …)` for a fail-fast call. -/
  | unavailable
  /-- `Errorf(codes.Internal, …)`. -/
  | internal
  /-- `toRPCErr` of the error of `NewStream`. -/
  | newStream (e : NewStreamErr)
  deriving DecidableEq, Repr

/-- How the loop ends: with a stream opened on a transport whose `put` is set or nil, with
an error, or still retrying when the environment's answers run out. -/
inductive LoopEnd
  | stream (put : Bool)
  | error (err : SetupErr)
  | retrying
  deriving DecidableEq, Repr

/-- A run of the loop: for each attempt it made, in order, whether it called that attempt's
`put`; and how it ended. -/
structure LoopRun where
  putCalled : List Bool
  result : LoopEnd
  deriving DecidableEq, Repr

/-- The `for` loop of `newClientStream`, with `c.failFast`. -/
def setupLoop (failFast : Bool) : List Attempt → LoopRun
  | [] => ⟨[], .retrying⟩
  | a :: as =>
    let again (called : Bool) : LoopRun :=
      let r := setupLoop failFast as
      ⟨called :: r.putCalled, r.result⟩
    match a.getTransport with
    | .error .rpcError => ⟨[false], .error .rpcError⟩
    | .error .connClosing | .error .connUnavailable =>
      if failFast then ⟨[false], .error .unavailable⟩ else again false
    | .error .other => ⟨[false], .error .internal⟩
    | .ok put =>
      match a.newStream with
      | none => ⟨[false], .stream put⟩
      | some e =>
        if e = .connection ∨ e = .streamDrain then
          if failFast then ⟨[put], .error (.newStream e)⟩ else again put
        else ⟨[put], .error (.newStream e)⟩

/-- What `newClientStream` comes to: a stream, an error return with whether the deferred
function finished the trace, or the loop still retrying. -/
inductive Setup
  | returned (cs : Stream)
  | failed (err : SetupErr) (traceFinished : Bool)
  | retrying
  deriving DecidableEq, Repr

/-- `newClientStream(ctx, desc, cc, method, opts...)` with `opts` call options, of which
one fails its `before` hook if `beforeErr`; `failFast` is `c.failFast` after the hooks,
`tracing` is `EnableTracing`, and the stream's monitor goroutine takes case `m`. -/
def newClientStreamSetup (opts : Nat)
    (beforeErr failFast clientStreams serverStreams tracing : Bool)
    (m : MonitorCase) (attempts : List Attempt) : LoopRun × Setup :=
  if beforeErr then (⟨[], .error .before⟩, .failed .before false)
  else
    let r := setupLoop failFast attempts
    (r, match r.result with
      | .stream put => .returned (newClientStream opts clientStreams serverStreams tracing put m)
      | .error err => .failed err tracing
      | .retrying => .retrying)

/-! ## The loop -/

/-- The loop goes on after attempt `a`: a call that is not fail-fast retries the closing
or unavailable errors of `getTransport`, and a connection error or a draining transport
from `NewStream`. -/
def Attempt.retries (failFast : Bool) (a : Attempt) : Bool :=
  !failFast && match a.getTransport, a.newStream with
    | .error .connClosing, _ | .error .connUnavailable, _ => true
    | .ok _, some .connection | .ok _, some .streamDrain => true
    | _, _ => false

/-- How the loop ends at attempt `a` when it does not go on. -/
def Attempt.stop (a : Attempt) : LoopEnd :=
  match a.getTransport, a.newStream with
  | .error .rpcError, _ => .error .rpcError
  | .error .connClosing, _ | .error .connUnavailable, _ => .error .unavailable
  | .error .other, _ => .error .internal
  | .ok put, none => .stream put
  | .ok _, some e => .error (.newStream e)

/-- One turn of the loop: attempt `a` calls its `put` when it obtained one and `NewStream`
failed, and then the loop goes on or ends. -/
theorem setupLoop_cons (failFast : Bool) (a : Attempt) (as : List Attempt) :
    setupLoop failFast (a :: as) =
      if a.retries failFast then
        ⟨a.failsWithPut :: (setupLoop failFast as).putCalled, (setupLoop failFast as).result⟩
      else ⟨[a.failsWithPut], a.stop⟩ := by
  obtain ⟨gt, ns⟩ := a
  cases gt with
  | error e => cases e <;> cases failFast <;> rfl
  | ok put => cases ns with
    | none => cases failFast <;> cases put <;> rfl
    | some e => cases e <;> cases failFast <;> cases put <;> rfl

/-- An attempt that obtained a `put` calls it, or it is the attempt that opened the
stream. -/
theorem Attempt.obtainsPut_eq (a : Attempt) :
    (if a.obtainsPut then 1 else 0) =
      (if a.failsWithPut then 1 else 0) + (if a.stop = .stream true then 1 else 0) := by
  obtain ⟨gt, ns⟩ := a
  cases gt with
  | error e => cases e <;> rfl
  | ok put => cases ns <;> cases put <;> rfl

theorem Attempt.stop_eq_stream {a : Attempt} {put : Bool} (h : a.stop = .stream put) :
    a = ⟨.ok put, none⟩ := by
  obtain ⟨gt, ns⟩ := a
  cases gt with
  | error e => cases e <;> cases h
  | ok p => cases ns with
    | none => cases h; rfl
    | some e => cases h

theorem Attempt.stop_ne_retrying (a : Attempt) : a.stop ≠ .retrying := by
  obtain ⟨gt, ns⟩ := a
  cases gt with
  | error e => cases e <;> simp [Attempt.stop]
  | ok p => cases ns <;> simp [Attempt.stop]

theorem Attempt.stop_of_retries {a : Attempt} {failFast : Bool} (h : a.retries failFast) :
    ∀ put, a.stop ≠ .stream put := by
  obtain ⟨gt, ns⟩ := a
  cases gt with
  | error e => cases e <;> simp [Attempt.stop]
  | ok p => cases ns with
    | none => cases failFast <;> simp [Attempt.retries] at h
    | some e => simp [Attempt.stop]

/-- **What the loop does with the `put`s.**  Over the attempts it makes, the loop calls the
`put` of exactly those whose transport came with one and whose `NewStream` failed, in
order; every `put` obtained is called or, when the loop ends with a stream, is the `put`
of the last attempt, which opened it.  The loop is still retrying only when it has used
every attempt. -/
theorem setupLoop_accounting (failFast : Bool) : ∀ as : List Attempt,
    (setupLoop failFast as).putCalled =
        (as.take (setupLoop failFast as).putCalled.length).map Attempt.failsWithPut ∧
      (as.take (setupLoop failFast as).putCalled.length).countP Attempt.obtainsPut =
        (setupLoop failFast as).putCalled.count true +
          (if (setupLoop failFast as).result = .stream true then 1 else 0) ∧
      (∀ put, (setupLoop failFast as).result = .stream put →
        ∃ k, (setupLoop failFast as).putCalled.length = k + 1 ∧ as[k]? = some ⟨.ok put, none⟩) ∧
      ((setupLoop failFast as).result = .retrying →
        (setupLoop failFast as).putCalled.length = as.length)
  | [] => by simp [setupLoop]
  | a :: as => by
    obtain ⟨ih1, ih2, ih3, ih4⟩ := setupLoop_accounting failFast as
    have hsplit := a.obtainsPut_eq
    rw [setupLoop_cons]
    by_cases hr : a.retries failFast
    · rw [if_pos hr, if_neg (Attempt.stop_of_retries hr true), Nat.add_zero] at *
      simp only [List.length_cons, List.take_succ_cons, List.map_cons, List.countP_cons,
        List.count_cons, beq_true]
      refine ⟨congrArg _ ih1, by rw [ih2, hsplit]; omega, fun put h => ?_, fun h => by rw [ih4 h]⟩
      obtain ⟨k, hk, hk'⟩ := ih3 put h
      exact ⟨k + 1, by rw [hk], by simpa using hk'⟩
    · rw [if_neg hr]
      simp only [List.length_singleton, List.take_succ_cons, List.take_zero, List.map_cons,
        List.map_nil, List.countP_cons, List.countP_nil, List.count_cons, List.count_nil, beq_true]
      exact ⟨trivial, by rw [hsplit]; omega, fun put h => ⟨0, rfl, by simp [a.stop_eq_stream h]⟩,
        fun h => absurd h a.stop_ne_retrying⟩

/-! ## The stream setup returns -/

namespace Stream

/-- The `put`s the stream called plus the `put` it still holds. -/
def putBalance (cs : Stream) : Nat := cs.puts + if cs.put then 1 else 0

/-- The traces the stream finished plus the trace it still holds, when tracing. -/
def traceBalance (cs : Stream) : Nat :=
  cs.traceFinishes.length + if cs.tracing ∧ cs.tr then 1 else 0

variable {cs cs' : Stream}

theorem finish_balance (err : Option StreamErr) :
    (cs.finish err).putBalance = cs.putBalance ∧ (cs.finish err).traceBalance = cs.traceBalance ∧
      (cs.finish err).tracing = cs.tracing := by
  obtain ⟨h1, h2, -, -, h5, h6, -⟩ := cs.finish_spec err
  have ht : (cs.finish err).tracing = cs.tracing := by
    unfold Stream.finish; dsimp only; split_ifs <;> rfl
  unfold putBalance traceBalance
  rw [h1, h2, h5, h6, ht]
  refine ⟨by simp, ?_, rfl⟩
  split_ifs <;> simp_all

theorem closeTransportStream_balance (err : Option StreamErr) :
    (cs.closeTransportStream err).putBalance = cs.putBalance ∧
      (cs.closeTransportStream err).traceBalance = cs.traceBalance ∧
      (cs.closeTransportStream err).tracing = cs.tracing := by
  unfold Stream.closeTransportStream
  split <;> exact ⟨rfl, rfl, rfl⟩

/-- No step calls or drops a `put` or the trace: it can only move one from held to
called. -/
theorem exec_balance {a : Action} (hx : cs.exec a = some cs') :
    cs'.putBalance = cs.putBalance ∧ cs'.traceBalance = cs.traceBalance ∧
      cs'.tracing = cs.tracing := by
  cases a with
  | call c => cases hx; exact ⟨rfl, rfl, rfl⟩
  | step i =>
    simp only [Stream.exec] at hx
    split at hx
    · cases hx
      rename_i o _ _
      cases o with
      | finish err => exact finish_balance err
      | close err => exact closeTransportStream_balance err
    · cases hx

theorem run_balance : ∀ {cs cs' : Stream} {acts : List Action}, cs.run acts = some cs' →
    cs'.putBalance = cs.putBalance ∧ cs'.traceBalance = cs.traceBalance ∧ cs'.tracing = cs.tracing
  | _, _, [], h => by cases h; exact ⟨rfl, rfl, rfl⟩
  | cs, cs', a :: acts, h => by
    simp only [Stream.run] at h
    cases hx : cs.exec a with
    | none => simp [hx] at h
    | some cs1 =>
      rw [hx, Option.some_bind] at h
      obtain ⟨h1, h2, h5⟩ := exec_balance hx
      obtain ⟨h3, h4, h6⟩ := run_balance h
      exact ⟨h3.trans h1, h4.trans h2, h6.trans h5⟩

end Stream

/-- **Every `put` and the trace are accounted for, from setup to the end of the stream.**
For every `newClientStream` call and every way the environment answers its attempts: the
loop calls the `put` of exactly the attempts whose transport came with one and whose
`NewStream` failed.  When it returns a stream, then under every schedule of the stream's
calls and monitor, every `put` obtained has been called exactly once, by the loop or by
the stream, or is still held by the stream, and the trace has been finished once or is
still held.  When it returns an error, every `put` obtained has been called, and the
deferred function finished the trace exactly when tracing had started it; when it is
still retrying, every `put` obtained has been called. -/
theorem newClientStream_accounting (opts : Nat)
    (beforeErr failFast clientStreams serverStreams tracing : Bool) (m : MonitorCase)
    (attempts : List Attempt) :
    let r := newClientStreamSetup opts beforeErr failFast clientStreams serverStreams tracing m
      attempts
    let obtained := (attempts.take r.1.putCalled.length).countP Attempt.obtainsPut
    r.1.putCalled = (attempts.take r.1.putCalled.length).map Attempt.failsWithPut ∧
    (∀ cs, r.2 = .returned cs → ∀ acts cs', cs.run acts = some cs' →
      obtained = r.1.putCalled.count true + cs'.puts + (if cs'.put then 1 else 0) ∧
      cs'.traceFinishes.length + (if tracing ∧ cs'.tr then 1 else 0) = if tracing then 1 else 0) ∧
    (∀ err fin, r.2 = .failed err fin →
      obtained = r.1.putCalled.count true ∧ fin = (tracing && !beforeErr)) ∧
    (r.2 = .retrying → obtained = r.1.putCalled.count true) := by
  cases beforeErr
  case true => simp [newClientStreamSetup]
  obtain ⟨h1, h2, -, -⟩ := setupLoop_accounting failFast attempts
  simp only [newClientStreamSetup, Bool.false_eq_true, if_false, Bool.not_false, Bool.and_true]
  refine ⟨h1, fun cs hcs acts cs' hrun => ?_, fun err fin hf => ?_, fun hre => ?_⟩
  · split at hcs
    · rename_i put hput
      cases hcs
      obtain ⟨hp, ht, htr⟩ := Stream.run_balance hrun
      unfold Stream.putBalance at hp
      unfold Stream.traceBalance at ht
      rw [htr] at ht
      exact ⟨by rw [h2, hput, Nat.add_assoc, hp]; cases put <;> rfl,
        by simpa [newClientStream] using ht⟩
    · cases hcs
    · cases hcs
  · split at hf
    · cases hf
    · cases hf; rename_i hres; rw [h2, hres]; simp
    · cases hf
  · split at hre
    · cases hre
    · cases hre
    · rename_i hres; rw [h2, hres]; simp

end Grpc
end ContainerLifecycle
