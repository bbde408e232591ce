import Mathlib.Data.List.Basic

/-! # Terminating a gRPC client stream

A `clientStream` of the vendored gRPC ends through two functions.  `finish(err)` runs,
under the stream's mutex, the `after` hook of every `CallOption`, calls the balancer's
`put` if it is still set and clears it, and, when tracing, finishes the trace if it is
still set and clears it.  `closeTransportStream(err)` sets the `closed` flag under the
mutex and, the first time only, calls the transport's `CloseStream`.

Both are reached from `SendMsg`, `RecvMsg`, `CloseSend` and `Header`, and from the
monitor goroutine `newClientStream` starts, each on its own paths.  What each of these
does on each outcome of its calls is the list of `finish` and `closeTransportStream`
calls it makes, in order (`sendMsg`, `recvMsg`, `closeSend`, `header`, `monitor`).  The
system (`Stream.exec`) starts calls at any time and interleaves the operations of the
calls in flight; each operation is atomic, as the mutex makes it.

`toRPCErr` and `Errorf`, absent from the source, are taken to return errors other than
`io.EOF` and `transport.ConnectionError`; the error given to `finish` only decides
whether the trace records success.  The stream records every `put`, every `CloseStream`
with its error, every trace finish with whether it recorded success, and every run of an
`after` hook by the option's index.
-/
namespace ContainerLifecycle
namespace Grpc

/-- The errors the stream's code tells apart: `io.EOF`, a `transport.ConnectionError`, and
any other. -/
inductive StreamErr
  | eof
  | connection
  | other
  deriving DecidableEq, Repr

/-- A call of `finish` or of `closeTransportStream`, with its error. -/
inductive Op
  | finish (err : Option StreamErr)
  | close (err : Option StreamErr)
  deriving DecidableEq, Repr

/-- `SendMsg`: `encode` fails (`encodeErr`) or `Write` returns `write`.  On an error it
finishes the stream, and closes the transport stream unless the error is `io.EOF` or a
connection error. -/
def sendMsg (encodeErr : Bool) (write : Option StreamErr) : List Op :=
  match if encodeErr then some .other else write with
  | none => []
  | some .eof => [.finish (some .eof)]
  | some .connection => [.finish (some .connection)]
  | some .other => [.finish (some .other), .close (some .other)]

/-- `RecvMsg` on a stream of kind `clientStreams`, `serverStreams`: the first `recv`
returns `first`, the second one, made on a client-streaming stream, `second`, and the
stream's status is OK (`statusOk`).  The deferred `finish` sees the error `RecvMsg`
returns. -/
def recvMsg (clientStreams serverStreams : Bool) (first second : Option StreamErr)
    (statusOk : Bool) : List Op :=
  match first with
  | none =>
    if !clientStreams || serverStreams then []
    else
      match second with
      | some .eof => [.close (some .eof), .finish (if statusOk then some .eof else some .other)]
      | e => [.close e, .finish (some .other)]
  | some e =>
    (if e = .connection then [] else [.close (some e)]) ++
      [.finish (if e = .eof ∧ statusOk then some .eof else some .other)]

/-- `CloseSend`: `Write` of the last frame returns `write`. -/
def closeSend (write : Option StreamErr) : List Op :=
  match write with
  | none | some .eof => []
  | some .connection => [.finish (some .other)]
  | some .other => [.close (some .other), .finish (some .other)]

/-- `Header`: the transport stream's `Header` returns `err`. -/
def header (err : Option StreamErr) : List Op :=
  match err with
  | none | some .connection => []
  | some e => [.close (some e)]

/-- The case the monitor goroutine's `select` takes. -/
inductive MonitorCase
  /-- `<-t.Error()`. -/
  | transportError
  /-- `<-s.Done()`, with the stream's status OK or not. -/
  | done (statusOk : Bool)
  /-- `<-s.GoAway()`. -/
  | goAway
  /-- `<-s.Context().Done()`. -/
  | ctxDone
  deriving DecidableEq, Repr

/-- The monitor goroutine of `newClientStream`. -/
def monitor : MonitorCase → List Op
  | .transportError => []
  | .done statusOk => [.finish (if statusOk then none else some .other), .close none]
  | .goAway | .ctxDone => [.finish (some .other), .close (some .other)]

/-- A call on the stream, with how the calls it makes go. -/
inductive Call
  | sendMsg (encodeErr : Bool) (write : Option StreamErr)
  | recvMsg (first second : Option StreamErr) (statusOk : Bool)
  | closeSend (write : Option StreamErr)
  | header (err : Option StreamErr)
  deriving DecidableEq, Repr

/-- A `clientStream`: the number of its `CallOption`s, its kind, the fields `finish` and
`closeTransportStream` guard with (`put` and the trace set, `closed`), the calls in
flight with the operations each has left, and the record of the run. -/
structure Stream where
  opts : Nat
  clientStreams : Bool
  serverStreams : Bool
  tracing : Bool
  put : Bool
  closed : Bool
  tr : Bool
  calls : List (List Op)
  puts : Nat
  closeStreams : List (Option StreamErr)
  traceFinishes : List Bool
  afters : List Nat
  deriving DecidableEq, Repr

namespace Stream

variable (cs : Stream)

/-- `clientStream.finish(err)`. -/
def finish (err : Option StreamErr) : Stream :=
  let cs := { cs with afters := cs.afters ++ List.range cs.opts }
  let cs := if cs.put then { cs with put := false, puts := cs.puts + 1 } else cs
  if cs.tracing ∧ cs.tr then
    { cs with tr := false
              traceFinishes := cs.traceFinishes ++ [decide (err = none ∨ err = some .eof)] }
  else cs

/-- `clientStream.closeTransportStream(err)`. -/
def closeTransportStream (err : Option StreamErr) : Stream :=
  if cs.closed then cs else { cs with closed := true, closeStreams := cs.closeStreams ++ [err] }

/-- Run one operation. -/
def op : Op → Stream
  | .finish err => cs.finish err
  | .close err => cs.closeTransportStream err

/-- The operations of a call. -/
def ops : Call → List Op
  | .sendMsg encodeErr write => sendMsg encodeErr write
  | .recvMsg first second statusOk => recvMsg cs.clientStreams cs.serverStreams first second statusOk
  | .closeSend write => closeSend write
  | .header err => header err

/-- One step of the system. -/
inductive Action
  /-- The user makes a call. -/
  | call (c : Call)
  /-- The `i`-th call in flight runs its next operation. -/
  | step (i : Nat)

/-- One step: a call starts, or one in flight runs its next operation. -/
def exec : Action → Option Stream
  | .call c => some { cs with calls := cs.calls ++ [cs.ops c] }
  | .step i =>
    match cs.calls.get? i with
    | some (o :: rest) => some { cs.op o with calls := cs.calls.set i rest }
    | _ => none

end Stream

/-- Execute a schedule. -/
def Stream.run (cs : Stream) : List Stream.Action → Option Stream
  | [] => some cs
  | a :: as => (cs.exec a).bind fun cs => cs.run as

/-- The stream `newClientStream` returns, with `opts` call options, its kind, tracing on or
off, `put` set or not, and its monitor goroutine about to take case `m`. -/
def newClientStream (opts : Nat) (clientStreams serverStreams tracing put : Bool)
    (m : MonitorCase) : Stream :=
  ⟨opts, clientStreams, serverStreams, tracing, put, false, tracing, [monitor m], 0, [], [], []⟩

/-- The states of a stream under every schedule of its calls and its monitor. -/
inductive Reachable : Stream → Prop
  | init (opts : Nat) (clientStreams serverStreams tracing put : Bool) (m : MonitorCase) :
      Reachable (newClientStream opts clientStreams serverStreams tracing put m)
  | step {cs cs' : Stream} {a : Stream.Action} : Reachable cs → cs.exec a = some cs' →
      Reachable cs'

theorem Reachable.of_run {cs cs' : Stream} {acts : List Stream.Action} (hs : Reachable cs)
    (h : cs.run acts = some cs') : Reachable cs' := by
  induction acts generalizing cs with
  | nil => cases h; exact hs
  | cons a acts ih =>
    simp only [Stream.run, Option.bind_eq_some] at h
    obtain ⟨cs1, h1, h2⟩ := h
    exact ih (hs.step h1) h2

/-! ## The guarded resources -/

namespace Stream

/-- `put` is called once if it was set and is no longer, and never otherwise;
`CloseStream` is called once if `closed` is set, and never otherwise; the trace is
finished once if it was set and is no longer, and never otherwise. -/
structure Guarded (cs : Stream) : Prop where
  put : cs.puts + (if cs.put then 1 else 0) ≤ 1
  close : cs.closeStreams.length = if cs.closed then 1 else 0
  trace : cs.traceFinishes.length + (if cs.tr then 1 else 0) ≤ 1

variable {cs : Stream}

/-- What `finish` does to the guarded fields: it clears `put`, calling it if it was set,
clears the trace, finishing it if it was set and tracing is on, runs every `after` hook,
and leaves `closed` alone. -/
theorem finish_spec (err : Option StreamErr) :
    (cs.finish err).put = false ∧ (cs.finish err).puts = cs.puts + (if cs.put then 1 else 0) ∧
    (cs.finish err).closed = cs.closed ∧ (cs.finish err).closeStreams = cs.closeStreams ∧
    (cs.finish err).tr = (if cs.tracing ∧ cs.tr then false else cs.tr) ∧
    (cs.finish err).traceFinishes.length =
      cs.traceFinishes.length + (if cs.tracing ∧ cs.tr then 1 else 0) ∧
    (cs.finish err).afters = cs.afters ++ List.range cs.opts := by
  dsimp only [Stream.finish]
  split_ifs <;> simp_all

theorem Guarded.finish (h : cs.Guarded) (err : Option StreamErr) : (cs.finish err).Guarded := by
  obtain ⟨h1, h2, h3, h4, h5, h6, -⟩ := cs.finish_spec err
  obtain ⟨hp, hc, ht⟩ := h
  refine ⟨?_, by rw [h3, h4]; exact hc, ?_⟩
  · rw [h1, h2]; split at hp <;> simp_all
  · rw [h5, h6]
    split_ifs at ht ⊢ <;> simp_all

theorem Guarded.closeTransportStream (h : cs.Guarded) (err : Option StreamErr) :
    (cs.closeTransportStream err).Guarded := by
  obtain ⟨hp, hc, ht⟩ := h
  unfold Stream.closeTransportStream
  split
  · exact ⟨hp, hc, ht⟩
  · exact ⟨hp, by simp_all, ht⟩

/-- Every step keeps the guarded resources guarded. -/
theorem Guarded.exec (h : cs.Guarded) {a : Action} {cs' : Stream} (hx : cs.exec a = some cs') :
    cs'.Guarded := by
  cases a with
  | call c => cases hx; exact ⟨h.put, h.close, h.trace⟩
  | step i =>
    simp only [Stream.exec] at hx
    split at hx
    · cases hx
      rename_i o _ _
      have ho : (cs.op o).Guarded := by
        cases o with
        | finish err => exact h.finish err
        | close err => exact h.closeTransportStream err
      exact ⟨ho.put, ho.close, ho.trace⟩
    · cases hx

end Stream

/-- **`put`, `CloseStream` and the trace's `Finish` are each called at most once**, under
every schedule of the stream's calls and its monitor goroutine. -/
theorem put_closeStream_trace_at_most_once {cs : Stream} (hs : Reachable cs) :
    cs.puts ≤ 1 ∧ cs.closeStreams.length ≤ 1 ∧ cs.traceFinishes.length ≤ 1 := by
  have hg : cs.Guarded := by
    induction hs with
    | init opts cl sv tracing put m =>
      exact ⟨by cases put <;> simp [newClientStream], rfl, by cases tracing <;> simp [newClientStream]⟩
    | step _ hx ih => exact ih.exec hx
  refine ⟨?_, ?_, ?_⟩
  · have := hg.put; omega
  · rw [hg.close]; split <;> omega
  · have := hg.trace; omega

/-- A server-streaming call's monitor finishes the stream on an OK status, and then the
user's `RecvMsg` reads `io.EOF` and finishes it again. -/
def eofAfterDone : List Stream.Action :=
  [.step 0, .step 0, .call (.recvMsg (some .eof) none true), .step 1, .step 1]

/-- With one `CallOption`, `put` set and tracing on, `finish` runs twice in
`eofAfterDone`, and `put`, `CloseStream` and the trace's `Finish` each run once. -/
theorem put_closeStream_trace_at_most_once_eof :
    ∃ cs, (newClientStream 1 false true true true (.done true)).run eofAfterDone = some cs ∧
      cs.afters = [0, 0] ∧ cs.puts = 1 ∧ cs.closeStreams.length = 1 ∧ cs.traceFinishes.length = 1 ∧
      cs.puts ≤ 1 ∧ cs.closeStreams.length ≤ 1 ∧ cs.traceFinishes.length ≤ 1 :=
  ⟨_, rfl, rfl, rfl, rfl, rfl, put_closeStream_trace_at_most_once (Reachable.of_run (.init ..)
    (rfl : (newClientStream 1 false true true true (.done true)).run eofAfterDone = some _))⟩

/-- A server-streaming call with one `CallOption` and `put` set: the stream ends with an OK
status, the monitor goroutine finishes it, and then the user's `RecvMsg` returns
`io.EOF` and finishes it again.  `put` and `CloseStream` run once, but the option's
`after` hook runs twice. -/
theorem after_hook_runs_twice :
    ((newClientStream 1 false true false true (.done true)).run
      [.step 0, .step 0, .call (.recvMsg (some .eof) none true), .step 1, .step 1]).map
      (fun cs => (cs.afters, cs.puts, cs.closeStreams.length)) = some ([0, 0], 1, 1) := by
  decide

end Grpc
end ContainerLifecycle
