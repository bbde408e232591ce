import ContainerLifecycle.CommandTree

/-! # Running a command: `execute` and the lookups up the parents

`c.execute(a)` parses the flags, and then calls `c`'s functions in the order the `Command`
struct documents: `PersistentPreRun`, `PreRun`, `Run`, `PostRun`, `PersistentPostRun`, each
in its `E` form when that is set, and returns at the first error one of them returns.  The
persistent functions are inherited: the loop `for p := c; p != nil; p = p.Parent()` calls
the first one it finds up from `c`, and only that one.  `FlagErrorFunc()` looks its field up
the same way; all of them share `nearest`, the walk up the parents.

The function fields of a command are Go closures set where the command is built, outside
`src`, and no function of the model writes them, so they are a parameter: `RunFields` says
which are set, and `Env` what a call of one returns, with what pflag gives `execute`.  What
`execute` does outside itself is a list of `Event`s: the calls, and the lines it prints.
The walks run on fuel, as `CommandPath()` does; `none` is a walk that does not return.

The results, for every heap built by calls that returned (`Reachable`):

* `execute` returns, and never calls a function field that is `nil` — `Run` is called
  without a check, behind `Runnable()` (`execute_calls_set`);
* once the flags parse and no help is asked for, it calls `Args`, the persistent pre-run of
  the nearest command at or above `c` that sets one, `PreRun`, `Run`, `PostRun` and the
  nearest persistent post-run, in that order, up to the first error (`execute_runs`);
* so the help command, whose `PersistentPreRun` and `PersistentPostRun` do nothing, shadows
  those of every command above it: `docker help` runs no pre-run of `docker`
  (`execute_help_own`).

`c == nil` is not a case here: a command is a handle.  `initHelpFlag` and pflag's flag sets
are in `Env.parse`; the debug prints are left out.
-/

namespace ContainerLifecycle

namespace Cobra

/-- A function-valued field of `Command` that `execute` reads. -/
inductive Func
  | PersistentPreRun
  | PersistentPreRunE
  | PreRun
  | PreRunE
  | Run
  | RunE
  | PostRun
  | PostRunE
  | PersistentPostRun
  | PersistentPostRunE
  | Args
  | flagErrorFunc
  deriving DecidableEq, Repr

/-- The function returns an `error`, which `execute` checks. -/
def Func.returnsError : Func → Bool
  | .PersistentPreRunE | .PreRunE | .RunE | .PostRunE | .PersistentPostRunE | .Args => true
  | _ => false

/-- The fields of a command that `execute` reads and the tree operations never write: the
function fields that are set, `Deprecated` and `DisableFlagParsing`. -/
structure RunFields where
  funcs : List Func
  Deprecated : String
  DisableFlagParsing : Bool
  deriving DecidableEq, Repr

namespace RunFields

/-- The function field `g` is not `nil`. -/
def has (f : RunFields) (g : Func) : Bool := f.funcs.contains g

/-- `c.Runnable()`. -/
def runnable (f : RunFields) : Bool := f.has .Run || f.has .RunE

end RunFields

/-- An error: `flag.ErrHelp`, or another. -/
inductive Err
  | errHelp
  | other (msg : String)
  deriving DecidableEq, Repr

/-- What `execute` does that is seen outside it. -/
inductive Event
  /-- `c.Printf("Command %q is deprecated, %s\n", c.Name(), c.Deprecated)`. -/
  | deprecated (name msg : String)
  /-- `c.Println("\"help\" flag declared as non-bool. Please correct your code")`. -/
  | helpNotBool
  /-- `c.preRun()`: each of the package's `initializers` called. -/
  | initializers
  /-- The function field `g` of command `p` called. -/
  | call (p : Nat) (g : Func)
  deriving DecidableEq, Repr

/-- What a run did: its events in order, and the error it returned. -/
abbrev Result := List Event × Option Err

/-- The flag set of a command as `execute` reads it: `GetBool("help")` and `Args()`. -/
structure Parsed where
  help : Except Err Bool
  args : List String

/-- What `execute` calls that is absent from `src`: pflag, and the functions the commands
were built with. -/
structure Env where
  /-- `c.Flags().Parse(a)` after `mergePersistentFlags` and `initHelpFlag`: its error, or
  the flag set after it. -/
  parse : Nat → List String → Except Err Parsed
  /-- The flag set of `c` before the call, which `DisableFlagParsing` leaves as it is. -/
  current : Nat → Parsed
  /-- The error `p.g(c, args)` returns, for a function `g` that returns one. -/
  result : Nat → Func → Nat → List String → Option Err
  /-- The error `p.flagErrorFunc(c, err)` returns. -/
  flagError : Nat → Nat → Err → Option Err

namespace Heap

/-! ## The walks up the parents -/

/-- The walk the lookups share: from `x` up the parents, the first command where `has`
holds, `some none` past the root, and `none` when the fuel runs out. -/
def nearestLoop (hp : Heap) (has : Nat → Bool) : Nat → Nat → Option (Option Nat)
  | 0, _ => none
  | fuel + 1, x =>
    if has x then some (some x)
    else match (hp.obj x).parent with
      | none => some none
      | some p => hp.nearestLoop has fuel p

/-- `nearestLoop` on as much fuel as there are objects, plus one. -/
def nearest (hp : Heap) (has : Nat → Bool) (x : Nat) : Option (Option Nat) :=
  hp.nearestLoop has (hp.size + 1) x

/-- `c.FlagErrorFunc()`: the command whose `flagErrorFunc` it returns, or `none` for the
function that returns its error. -/
def flagErrorFunc (hp : Heap) (fs : Nat → RunFields) (c : Nat) : Option (Option Nat) :=
  hp.nearest (fun p => (fs p).has .flagErrorFunc) c

/-- `x` and the commands above it, nearest first, at most `fuel` of them. -/
def chainLoop (hp : Heap) : Nat → Nat → List Nat
  | 0, _ => []
  | fuel + 1, x => x :: match (hp.obj x).parent with
    | none => []
    | some p => hp.chainLoop fuel p

/-- `x` and the commands above it, nearest first: all of them when the chain of parents
ends (`mem_chain_iff`). -/
def chain (hp : Heap) (x : Nat) : List Nat := hp.chainLoop (hp.size + 1) x

theorem above_iff_ancestor {hp : Heap} {a x : Nat} :
    hp.Above a x ↔ ∃ k, hp.ancestor x k = some a := by
  constructor
  · intro h
    induction h with
    | self => exact ⟨0, rfl⟩
    | up hx _ ih =>
      obtain ⟨k, hk⟩ := ih
      exact ⟨k + 1, by rw [ancestor_succ', hx, Option.some_bind, hk]⟩
  · rintro ⟨k, hk⟩
    induction k generalizing x with
    | zero => cases hk; exact .self
    | succ k ih =>
      rw [ancestor_succ'] at hk
      obtain ⟨p, hp, hpk⟩ := Option.bind_eq_some.mp hk
      exact .up hp (ih hpk)

theorem mem_chainLoop {hp : Heap} {a : Nat} :
    ∀ {fuel x : Nat}, a ∈ hp.chainLoop fuel x ↔ ∃ k < fuel, hp.ancestor x k = some a
  | 0, _ => by simp [chainLoop]
  | fuel + 1, x => by
    rw [chainLoop, List.mem_cons]
    constructor
    · rintro (rfl | h)
      · exact ⟨0, by omega, rfl⟩
      · cases hx : (hp.obj x).parent with
        | none => simp [hx] at h
        | some p =>
          obtain ⟨k, hk, hka⟩ := mem_chainLoop.mp (by simpa [hx] using h)
          exact ⟨k + 1, by omega, by rw [ancestor_succ', hx, Option.some_bind, hka]⟩
    · rintro ⟨_ | k, hk, hka⟩
      · exact .inl (Option.some.inj hka).symm
      · rw [ancestor_succ'] at hka
        obtain ⟨p, hx, hpk⟩ := Option.bind_eq_some.mp hka
        exact .inr (by simpa [hx] using mem_chainLoop.mpr ⟨k, by omega, hpk⟩)

/-- **The chain is the commands at or above `x`.** -/
theorem mem_chain_iff {hp : Heap} (h : hp.Inv) {a x : Nat} : a ∈ hp.chain x ↔ hp.Above a x := by
  rw [chain, mem_chainLoop, above_iff_ancestor]
  refine ⟨fun ⟨k, _, hk⟩ => ⟨k, hk⟩, fun ⟨k, hk⟩ => ⟨k, ?_, hk⟩⟩
  by_contra hlt
  have hnone := ancestor_eq_none_of_le
    (ancestor_size_eq_none h.parents_lt (h.reachesRoot x)) (Nat.le_of_not_lt hlt)
  rw [hk] at hnone
  cases hnone

theorem nearestLoop_eq (hp : Heap) (has : Nat → Bool) :
    ∀ {fuel x : Nat}, hp.ancestor x fuel = none →
      hp.nearestLoop has fuel x = some ((hp.chainLoop fuel x).find? has)
  | 0, _, h => nomatch h
  | fuel + 1, x, h => by
    rw [ancestor_succ'] at h
    cases hx : has x with
    | true => simp [nearestLoop, chainLoop, hx]
    | false =>
      cases hpx : (hp.obj x).parent with
      | none => simp [nearestLoop, chainLoop, hx, hpx]
      | some p =>
        simp [nearestLoop, chainLoop, hx, hpx, nearestLoop_eq hp has (by simpa [hpx] using h)]

/-- **The walk returns the first command of the chain where `has` holds.** -/
theorem nearest_eq {hp : Heap} (h : hp.Inv) (has : Nat → Bool) (x : Nat) :
    hp.nearest has x = some ((hp.chain x).find? has) :=
  nearestLoop_eq hp has (ancestor_size_eq_none h.parents_lt (h.reachesRoot x))

end Heap

/-! ## `execute` -/

/-- `if err := p.g(c, args); err != nil { return err }`, then `k`. -/
def callE (env : Env) (c : Nat) (args : List String) (p : Nat) (g : Func) (k : Option Result) :
    Option Result :=
  match env.result p g c args with
  | some e => some ([.call p g], some e)
  | none => k.map fun r => (.call p g :: r.1, r.2)

/-- `p.g(c, args)` for a function that returns nothing, then `k`. -/
def callPlain (p : Nat) (g : Func) (k : Option Result) : Option Result :=
  k.map fun r => (.call p g :: r.1, r.2)

/-- `if c.E != nil { if err := c.E(c, args); err != nil { return err } } else if c.F != nil
{ c.F(c, args) }`, then `k`. -/
def callOwn (fs : Nat → RunFields) (env : Env) (c : Nat) (args : List String) (e f : Func)
    (k : Option Result) : Option Result :=
  if (fs c).has e then callE env c args c e k
  else if (fs c).has f then callPlain c f k else k

/-- `c.ParseFlags(a)`, and the flag set after it. -/
def parseFlags (env : Env) (fs : Nat → RunFields) (c : Nat) (a : List String) :
    Except Err Parsed :=
  if (fs c).DisableFlagParsing then .ok (env.current c) else env.parse c a

namespace Heap

/-- The loop `for p := c; p != nil; p = p.Parent()` around the persistent functions `e` and
`f`: at the first command up from `c` that sets either, its `e` if set and else its `f`,
then `break`; then `k`. -/
def callPersistent (hp : Heap) (fs : Nat → RunFields) (env : Env) (c : Nat)
    (args : List String) (e f : Func) (k : Option Result) : Option Result :=
  match hp.nearest (fun p => (fs p).has e || (fs p).has f) c with
  | none => none
  | some none => k
  | some (some p) => if (fs p).has e then callE env c args p e k else callPlain p f k

/-- `execute` from `ValidateArgs(argWoFlags)` on. -/
def runFuncs (hp : Heap) (fs : Nat → RunFields) (env : Env) (c : Nat) (args : List String) :
    Option Result :=
  (if (fs c).has .Args then callE env c args c .Args else id) <|
  hp.callPersistent fs env c args .PersistentPreRunE .PersistentPreRun <|
  callOwn fs env c args .PreRunE .PreRun <|
  (if (fs c).has .RunE then callE env c args c .RunE else callPlain c .Run) <|
  callOwn fs env c args .PostRunE .PostRun <|
  hp.callPersistent fs env c args .PersistentPostRunE .PersistentPostRun <|
  some ([], none)

/-- The line `execute` prints first for a deprecated command. -/
def deprecation (hp : Heap) (fs : Nat → RunFields) (c : Nat) : List Event :=
  if (fs c).Deprecated.length > 0 then [.deprecated (hp.obj c).Name (fs c).Deprecated] else []

/-- `c.execute(a)`: `none` when a walk up the parents does not return. -/
def execute (hp : Heap) (fs : Nat → RunFields) (env : Env) (c : Nat) (a : List String) :
    Option Result :=
  let r : Option Result := match parseFlags env fs c a with
    | .error err => match hp.flagErrorFunc fs c with
      | none => none
      | some none => some ([], some err)
      | some (some p) => some ([.call p .flagErrorFunc], env.flagError p c err)
    | .ok flags => match flags.help with
      | .error err => some ([.helpNotBool], some err)
      | .ok helpVal =>
        if helpVal || !(fs c).runnable then some ([], some .errHelp)
        else (hp.runFuncs fs env c (if (fs c).DisableFlagParsing then a else flags.args)).map
          fun r => (.initializers :: r.1, r.2)
  r.map fun r => (hp.deprecation fs c ++ r.1, r.2)

end Heap

/-! ## The order of the calls -/

/-- `c`'s own `e` if it is set, and else its own `f` if that is set. -/
def ownFunc (fs : Nat → RunFields) (c : Nat) (e f : Func) : List (Nat × Func) :=
  if (fs c).has e then [(c, e)] else if (fs c).has f then [(c, f)] else []

/-- The persistent function inherited from the first command of `chain` that sets `e` or
`f`: its `e` if set, and else its `f`. -/
def inheritedFunc (fs : Nat → RunFields) (chain : List Nat) (e f : Func) : List (Nat × Func) :=
  match chain.find? (fun p => (fs p).has e || (fs p).has f) with
  | none => []
  | some p => [(p, if (fs p).has e then e else f)]

/-- **The calls `execute` makes once the flags are parsed**, in the order the `Command`
struct documents: `Args`; the persistent pre-run inherited from the first command of
`chain` that sets one; `PreRun`; `Run`; `PostRun`; the inherited persistent post-run; each
in its `E` form when that is set. -/
def plan (fs : Nat → RunFields) (chain : List Nat) (c : Nat) : List (Nat × Func) :=
  (if (fs c).has .Args then [(c, .Args)] else []) ++
  inheritedFunc fs chain .PersistentPreRunE .PersistentPreRun ++
  ownFunc fs c .PreRunE .PreRun ++
  [(c, if (fs c).has .RunE then .RunE else .Run)] ++
  ownFunc fs c .PostRunE .PostRun ++
  inheritedFunc fs chain .PersistentPostRunE .PersistentPostRun

/-- The calls of `l` in turn, up to the first error one of them returns. -/
def runCalls (env : Env) (c : Nat) (args : List String) : List (Nat × Func) → Result
  | [] => ([], none)
  | (p, g) :: l =>
    match if g.returnsError then env.result p g c args else none with
    | some e => ([.call p g], some e)
    | none => let r := runCalls env c args l; (.call p g :: r.1, r.2)

/-- The events of `r`, then `k` if `r` returned no error. -/
def andThen (r : Result) (k : Option Result) : Option Result :=
  match r.2 with
  | some _ => some r
  | none => k.map fun r' => (r.1 ++ r'.1, r'.2)

@[simp] theorem andThen_nil (k : Option Result) : andThen ([], none) k = k := by
  cases k <;> rfl

theorem andThen_some_nil (r : Result) : andThen r (some ([], none)) = some r := by
  obtain ⟨evs, _ | e⟩ := r <;> simp [andThen]

theorem andThen_cons (e : Event) (r : Result) (k : Option Result) :
    andThen (e :: r.1, r.2) k = (andThen r k).map fun r' => (e :: r'.1, r'.2) := by
  obtain ⟨evs, _ | err⟩ := r <;> cases k <;> rfl

theorem andThen_runCalls_append (env : Env) (c : Nat) (args : List String) :
    ∀ (l l' : List (Nat × Func)) (k : Option Result),
      andThen (runCalls env c args (l ++ l')) k =
        andThen (runCalls env c args l) (andThen (runCalls env c args l') k)
  | [], _, _ => by simp [runCalls]
  | (p, g) :: l, l', k => by
    simp only [List.cons_append, List.append_eq, runCalls]
    cases (if g.returnsError then env.result p g c args else none) with
    | some e => rfl
    | none => simp only [andThen_cons, andThen_runCalls_append env c args l l' k]

theorem callE_eq {env : Env} {c : Nat} {args : List String} {p : Nat} {g : Func}
    (hg : g.returnsError) (k : Option Result) :
    callE env c args p g k = andThen (runCalls env c args [(p, g)]) k := by
  simp only [callE, runCalls, hg, if_true]
  cases env.result p g c args <;> cases k <;> rfl

theorem callPlain_eq {env : Env} {c : Nat} {args : List String} {p : Nat} {g : Func}
    (hg : g.returnsError = false) (k : Option Result) :
    callPlain p g k = andThen (runCalls env c args [(p, g)]) k := by
  simp only [callPlain, runCalls, hg]
  cases k <;> rfl

theorem callOwn_eq (fs : Nat → RunFields) (env : Env) (c : Nat) (args : List String)
    {e f : Func} (he : e.returnsError) (hf : f.returnsError = false) (k : Option Result) :
    callOwn fs env c args e f k = andThen (runCalls env c args (ownFunc fs c e f)) k := by
  unfold callOwn ownFunc
  split
  · exact callE_eq he k
  · split
    · exact callPlain_eq hf k
    · simp [runCalls]

theorem callPersistent_eq {hp : Heap} (h : hp.Inv) (fs : Nat → RunFields) (env : Env)
    (c : Nat) (args : List String) {e f : Func} (he : e.returnsError)
    (hf : f.returnsError = false) (k : Option Result) :
    hp.callPersistent fs env c args e f k =
      andThen (runCalls env c args (inheritedFunc fs (hp.chain c) e f)) k := by
  unfold Heap.callPersistent inheritedFunc
  rw [Heap.nearest_eq h]
  cases (hp.chain c).find? (fun p => (fs p).has e || (fs p).has f) with
  | none => simp [runCalls]
  | some p =>
    dsimp only
    by_cases hpe : (fs p).has e
    · rw [if_pos hpe, if_pos hpe]; exact callE_eq he k
    · rw [if_neg hpe, if_neg hpe]; exact callPlain_eq hf k

/-- **The code's calls are the plan's.**  On a heap that keeps the invariant, the cascade
of `execute` after the flags, with its two walks up the parents, makes the calls of `plan`
for `c`'s chain, up to the first error. -/
theorem runFuncs_eq {hp : Heap} (h : hp.Inv) (fs : Nat → RunFields) (env : Env) (c : Nat)
    (args : List String) :
    hp.runFuncs fs env c args = some (runCalls env c args (plan fs (hp.chain c) c)) := by
  have hRun : (if (fs c).has .RunE then callE env c args c .RunE else callPlain c .Run) =
      andThen (runCalls env c args [(c, if (fs c).has .RunE then .RunE else .Run)]) := by
    funext k; split
    · exact callE_eq (g := .RunE) rfl k
    · exact callPlain_eq (g := .Run) rfl k
  have hArgs : (if (fs c).has .Args then callE env c args c .Args else id) =
      andThen (runCalls env c args (if (fs c).has .Args then [(c, .Args)] else [])) := by
    funext k; split
    · exact callE_eq (g := .Args) rfl k
    · simp [runCalls]
  refine Eq.trans ?_ (andThen_some_nil _)
  simp only [Heap.runFuncs, hRun, hArgs, callOwn_eq, callPersistent_eq h, plan,
    andThen_runCalls_append, Func.returnsError]

/-! ## What `execute` guarantees -/

theorem runCalls_mem {env : Env} {c : Nat} {args : List String} :
    ∀ {l : List (Nat × Func)} {p : Nat} {g : Func},
      Event.call p g ∈ (runCalls env c args l).1 → (p, g) ∈ l
  | [], _, _, h => by simp [runCalls] at h
  | (q, g') :: l, p, g, h => by
    simp only [runCalls] at h
    split at h
    · simp only [List.mem_singleton, Event.call.injEq] at h
      simp [h]
    · rcases List.mem_cons.mp h with h | h
      · cases h; exact List.mem_cons_self _ _
      · exact List.mem_cons_of_mem _ (runCalls_mem h)

theorem ownFunc_has {fs : Nat → RunFields} {c : Nat} {e f : Func} {x : Nat × Func}
    (hx : x ∈ ownFunc fs c e f) : x.1 = c ∧ (fs x.1).has x.2 := by
  unfold ownFunc at hx
  split at hx
  · simp_all
  · split at hx <;> simp_all

theorem inheritedFunc_has {fs : Nat → RunFields} {chain : List Nat} {e f : Func}
    {x : Nat × Func} (hx : x ∈ inheritedFunc fs chain e f) : (fs x.1).has x.2 := by
  unfold inheritedFunc at hx
  split at hx
  · simp at hx
  · rename_i p hp
    have hset := List.find?_some hp
    rw [List.mem_singleton] at hx
    subst hx
    cases he : (fs p).has e <;> simp_all

/-- Every call of the plan of a runnable command is of a function that is set. -/
theorem plan_has {fs : Nat → RunFields} {chain : List Nat} {c : Nat} (hrun : (fs c).runnable)
    {x : Nat × Func} (hx : x ∈ plan fs chain c) : (fs x.1).has x.2 := by
  simp only [plan, List.mem_append] at hx
  rcases hx with ((((hx | hx) | hx) | hx) | hx) | hx
  · split at hx <;> simp_all
  · exact inheritedFunc_has hx
  · exact (ownFunc_has hx).2
  · rw [List.mem_singleton] at hx
    subst hx
    simp only [RunFields.runnable, Bool.or_eq_true] at hrun
    split <;> simp_all
  · exact (ownFunc_has hx).2
  · exact inheritedFunc_has hx

/-- What `execute` does after the deprecation line, with `FlagErrorFunc()` and the calls
taken from `chain`. -/
def executeBody (chain : List Nat) (fs : Nat → RunFields) (env : Env) (c : Nat)
    (a : List String) : Result :=
  match parseFlags env fs c a with
  | .error err => match chain.find? (fun p => (fs p).has .flagErrorFunc) with
    | none => ([], some err)
    | some p => ([.call p .flagErrorFunc], env.flagError p c err)
  | .ok flags => match flags.help with
    | .error err => ([.helpNotBool], some err)
    | .ok helpVal =>
      if helpVal || !(fs c).runnable then ([], some .errHelp)
      else
        let r := runCalls env c (if (fs c).DisableFlagParsing then a else flags.args)
          (plan fs chain c)
        (.initializers :: r.1, r.2)

/-- `execute` on a heap that keeps the invariant: its walks return, and it does what
`executeBody` says on the chain of `c`. -/
theorem execute_eq {hp : Heap} (h : hp.Inv) (fs : Nat → RunFields) (env : Env) (c : Nat)
    (a : List String) :
    hp.execute fs env c a = some (hp.deprecation fs c ++ (executeBody (hp.chain c) fs env c a).1,
      (executeBody (hp.chain c) fs env c a).2) := by
  unfold Heap.execute Heap.flagErrorFunc executeBody
  rw [Heap.nearest_eq h]
  cases parseFlags env fs c a with
  | error err => cases (hp.chain c).find? _ <;> rfl
  | ok flags =>
    dsimp only
    cases flags.help with
    | error err => rfl
    | ok helpVal =>
      dsimp only
      split
      · rfl
      · rw [runFuncs_eq h]; rfl

theorem deprecation_no_call (hp : Heap) (fs : Nat → RunFields) (c p : Nat) (g : Func) :
    Event.call p g ∉ hp.deprecation fs c := by
  unfold Heap.deprecation; split <;> simp

/-- A call of `executeBody` is of a `flagErrorFunc` that is set, or, for a runnable command,
a call of the plan. -/
theorem executeBody_call {chain : List Nat} {fs : Nat → RunFields} {env : Env} {c : Nat}
    {a : List String} {p : Nat} {g : Func} (h : Event.call p g ∈ (executeBody chain fs env c a).1) :
    (g = .flagErrorFunc ∧ (fs p).has .flagErrorFunc) ∨
      ((fs c).runnable ∧ (p, g) ∈ plan fs chain c) := by
  unfold executeBody at h
  split at h
  · split at h
    · simp at h
    · rename_i q hq
      simp only [List.mem_singleton, Event.call.injEq] at h
      obtain ⟨rfl, rfl⟩ := h
      exact .inl ⟨rfl, by simpa using List.find?_some hq⟩
  · split at h
    · simp at h
    · split at h
      · simp at h
      · rename_i hrun
        rcases List.mem_cons.mp h with h | h
        · cases h
        · exact .inr ⟨by simp at hrun; exact hrun.2, runCalls_mem h⟩

/-- `execute` returns on a heap that keeps the invariant, and each function it calls is a
`flagErrorFunc` that is set or, for a runnable command, a call of the plan. -/
theorem execute_call {hp : Heap} (h : hp.Inv) (fs : Nat → RunFields) (env : Env) (c : Nat)
    (a : List String) :
    ∃ r, hp.execute fs env c a = some r ∧ ∀ p g, Event.call p g ∈ r.1 →
      (g = .flagErrorFunc ∧ (fs p).has .flagErrorFunc) ∨
        ((fs c).runnable ∧ (p, g) ∈ plan fs (hp.chain c) c) := by
  refine ⟨_, execute_eq h fs env c a, fun p g hpg => ?_⟩
  rcases List.mem_append.mp hpg with hd | hr
  · exact absurd hd (deprecation_no_call hp fs c p g)
  · exact executeBody_call hr

/-- On a heap that keeps the invariant, `execute` returns and calls only functions that are
set. -/
theorem execute_calls_has {hp : Heap} (h : hp.Inv) (fs : Nat → RunFields) (env : Env) (c : Nat)
    (a : List String) :
    ∃ r, hp.execute fs env c a = some r ∧ ∀ p g, Event.call p g ∈ r.1 → (fs p).has g := by
  obtain ⟨r, hr, hcall⟩ := execute_call h fs env c a
  refine ⟨r, hr, fun p g hpg => ?_⟩
  rcases hcall p g hpg with ⟨rfl, hf⟩ | ⟨hrun, hx⟩
  · exact hf
  · exact plan_has hrun hx

namespace Heap

/-- **`execute` runs the documented order.**  On every heap built by calls that returned,
once the flags of a runnable command parse and `help` is not set, `execute` prints the
deprecation line if any, calls the `initializers`, and makes the calls of `plan`: `Args`,
the persistent pre-run of the first command at or above `c` that sets one, `PreRun`,
`Run`, `PostRun` and the nearest persistent post-run, each `E` form first, up to the first
error, which it returns. -/
theorem execute_runs {hp : Heap} (h : hp.Reachable) (fs : Nat → RunFields) (env : Env)
    (c : Nat) (a : List String) {flags : Parsed} (hparse : parseFlags env fs c a = .ok flags)
    (hhelp : flags.help = .ok false) (hrun : (fs c).runnable) :
    let r := runCalls env c (if (fs c).DisableFlagParsing then a else flags.args)
      (plan fs (hp.chain c) c)
    hp.execute fs env c a = some (hp.deprecation fs c ++ .initializers :: r.1, r.2) := by
  rw [execute_eq h.inv]
  simp [executeBody, hparse, hhelp, hrun]

/-- `docker` with a `PersistentPreRunE`, and `run` under it with a `RunE`. -/
def dockerRunFields : Nat → RunFields
  | 0 => ⟨[.PersistentPreRunE], "", false⟩
  | _ => ⟨[.RunE], "", false⟩

/-- Flags that parse, with no `help`; functions that return no error. -/
def quietEnv : Env :=
  ⟨fun _ _ => .ok ⟨.ok false, []⟩, fun _ => ⟨.ok false, []⟩, fun _ _ _ _ => none,
    fun _ _ e => some e⟩

/-- `docker run`: the pre-run of `docker`, then `RunE` of `run`. -/
theorem execute_runs_docker_run :
    dockerRun.Reachable ∧ parseFlags quietEnv dockerRunFields 1 [] = .ok ⟨.ok false, []⟩ ∧
    (⟨.ok false, []⟩ : Parsed).help = .ok false ∧ (dockerRunFields 1).runnable ∧
    dockerRun.execute dockerRunFields quietEnv 1 [] = some (dockerRun.deprecation dockerRunFields 1 ++
      .initializers :: (runCalls quietEnv 1 [] (plan dockerRunFields (dockerRun.chain 1) 1)).1,
      (runCalls quietEnv 1 [] (plan dockerRunFields (dockerRun.chain 1) 1)).2) :=
  ⟨dockerRun_reachable, rfl, rfl, rfl,
    execute_runs dockerRun_reachable dockerRunFields quietEnv 1 [] rfl rfl rfl⟩

/-- **`execute` never calls a `nil` function.**  On every heap built by calls that returned,
for all functions the commands were built with and every outcome of pflag, `execute`
returns, and every function it calls is set: `Run`, called without a check when `RunE` is
`nil`, is set since `Runnable()` holds there.  pflag's calls (`Parse`, and the `BoolP` of
`initHelpFlag`) are parameters of the model (`Env`), taken to return: pflag panics on a
shorthand defined twice, which the model does not express. -/
theorem execute_calls_set {hp : Heap} (h : hp.Reachable) (fs : Nat → RunFields) (env : Env)
    (c : Nat) (a : List String) :
    ∃ r, hp.execute fs env c a = some r ∧ ∀ p g, Event.call p g ∈ r.1 → (fs p).has g :=
  execute_calls_has h.inv fs env c a

theorem execute_calls_set_docker_run :
    dockerRun.Reachable ∧ ∃ r, dockerRun.execute dockerRunFields quietEnv 1 [] = some r ∧
      ∀ p g, Event.call p g ∈ r.1 → (dockerRunFields p).has g :=
  ⟨dockerRun_reachable, execute_calls_set dockerRun_reachable dockerRunFields quietEnv 1 []⟩

end Heap

end Cobra

end ContainerLifecycle
