import ContainerLifecycle.CommandExecute
import ContainerLifecycle.CommandTraverse

/-! # `Execute`: from the root to the command the arguments name

`c.ExecuteC()`, behind `Execute()`, moves to the root (`Root()`), adds the help command
(`initHelpCmd`), takes its arguments from `c.args` or else from `os.Args[1:]`, looks the
command up with `Find`, or with `Traverse` when `TraverseChildren` is set, and runs that
command's `execute` on the arguments the lookup returns.  A lookup error is printed with a
hint and returned.  `flag.ErrHelp` from `execute` becomes a call of the help function and
no error; another error is printed, with the usage, unless the command or the root
silences them.  `ExecuteCmdInFirstContainer` does the same on a root, with the arguments of
`c.args` only, and before `execute` it drops the first field of the first argument the
lookup returns (`firstContainerArgs`); on a command with a parent it runs `ExecuteC` on the
root.

The lookups run on the command objects of `CommandTree`, following `commands` and
`parent`.  `stripFlags` first merges the persistent flags of the command and of every
command up its parents (`mergePersistentFlags`), a walk that returns only when the chain
of parents ends, as `CommandPath()`'s; so `Find` gives `none` where it would not return.
The fields the tree operations never write are parameters (`FindFields`), as are pflag,
`legacyArgs` and `os.Args` (`RunEnv`); what `Traverse` reads of `c.Flags()` is one of
them, since earlier merges and `initHelpFlag` add to that set.

The results:

* on every heap whose children point back at their parents, the `Find` of the heap finds
  the command the `Find` of `CommandFind` finds on the tree the heap unfolds to, with the
  same arguments (`find_refines`);
* on every heap built by calls that returned, `ExecuteC` and `ExecuteCmdInFirstContainer`
  return, leave a heap built by calls that returned, and call no function field that is
  `nil` (`executeC_returns`);
* `flag.ErrHelp` is never the error of a run that executed a command: it can come only from
  the lookup, where `Traverse` parses flags before `initHelpFlag` has added `help`; and a
  run that calls the help function returns no error (`executeC_errHelp`).

The debug prints and the usage and help templates are left out: the help function and the
usage line are events.
-/

namespace ContainerLifecycle

namespace Cobra

/-- `err.Error()`: pflag's text for `flag.ErrHelp`, and the message of another error. -/
def Err.error : Err → String
  | .errHelp => "pflag: help requested"
  | .other msg => msg

/-- The fields of a command that the lookups and `ExecuteC` read and the tree operations
never write. -/
structure FindFields where
  Aliases : List String
  /-- The command's own flags, in `c.Flags()` before any merge. -/
  flags : List Flag
  persistentFlags : List Flag
  TraverseChildren : Bool
  SilenceErrors : Bool
  SilenceUsage : Bool
  /-- `c.args`, which `SetArgs` sets; `none` for `nil`. -/
  args : Option (List String)

/-- What `ExecuteC` reads outside the command objects. -/
structure RunEnv where
  /-- `preExecHookFn != nil`. -/
  preExecHook : Bool
  /-- `os.Args[1:]`. -/
  osArgs : List String
  /-- `filepath.Base(os.Args[0])`. -/
  osArgs0Base : String
  /-- `EnablePrefixMatching`. -/
  EnablePrefixMatching : Bool
  /-- The flags of Go's `flag.CommandLine`. -/
  commandLine : List Flag
  /-- `c.Flags()` as `Traverse` reads it. -/
  flagsOf : Nat → List Flag
  /-- The error of `c.Flags().Parse(flags)` in `Traverse`'s `c.ParseFlags(flags)`. -/
  traverseParse : Nat → List String → Option Err
  /-- `legacyArgs(cmd, args)`. -/
  legacyArgs : Nat → List String → Option Err

/-- What `ExecuteC` does that is seen outside it. -/
inductive RunEvent
  /-- `preExecHookFn(c)`. -/
  | preExecHook (c : Nat)
  /-- What `cmd.execute(flags)` does. -/
  | execute (e : Event)
  /-- A line printed by `c.Println` or `c.Printf`. -/
  | line (s : String)
  /-- `cmd.HelpFunc()(cmd, args)`. -/
  | help (cmd : Nat) (args : List String)
  /-- `c.Println(cmd.UsageString())`. -/
  | usage (cmd : Nat)
  deriving DecidableEq, Repr

/-- How `ExecuteC` ends: it returns the heap, its events, the command and the error; or it
panics; or it does not return. -/
inductive RunOutcome
  | returns (hp : Heap) (events : List RunEvent) (cmd : Nat) (err : Option Err)
  | panics (msg : String)
  | hangs

/-- The events of `pre`, then what `o` does. -/
def RunOutcome.after (pre : List RunEvent) : RunOutcome → RunOutcome
  | .returns hp evs cmd err => .returns hp (pre ++ evs) cmd err
  | o => o

theorem RunOutcome.after_eq_returns {pre : List RunEvent} {o : RunOutcome} {hp : Heap}
    {evs : List RunEvent} {cmd : Nat} {err : Option Err} (h : o.after pre = .returns hp evs cmd err) :
    ∃ evs', o = .returns hp evs' cmd err := by
  cases o with
  | returns hp' evs' cmd' err' => cases h; exact ⟨evs', rfl⟩
  | panics => cases h
  | hangs => cases h

/-- The run returned, on a heap built by calls that returned, and every function field it
called is set. -/
def RunOutcome.Safe (fs : Nat → RunFields) : RunOutcome → Prop
  | .returns hp evs _ _ => hp.Reachable ∧ ∀ p g, RunEvent.execute (.call p g) ∈ evs → (fs p).has g
  | _ => False

theorem RunOutcome.Safe.after {fs : Nat → RunFields} {o : RunOutcome} (h : o.Safe fs) (c : Nat) (b : Bool) :
    (o.after (if b then [.preExecHook c] else [])).Safe fs := by
  cases o with
  | returns hp evs cmd err =>
    refine ⟨h.1, fun p g hpg => h.2 p g ?_⟩
    cases b <;> simpa [RunOutcome.after] using hpg
  | panics => exact h.elim
  | hangs => exact h.elim

/-- Go's panic on a call through a `nil` `*Command`. -/
def nilDereference : String := "runtime error: invalid memory address or nil pointer dereference"

namespace Heap

/-! ## The walks up the parents -/

/-- The recursion of `c.Root()`: from `x` up the parents to the command without one; `none`
when the fuel runs out. -/
def rootLoop (hp : Heap) : Nat → Nat → Option Nat
  | 0, _ => none
  | fuel + 1, x =>
    match (hp.obj x).parent with
    | none => some x
    | some p => hp.rootLoop fuel p

/-- `c.Root()`, on as much fuel as there are objects, plus one. -/
def root (hp : Heap) (c : Nat) : Option Nat := hp.rootLoop (hp.size + 1) c

/-- The recursion `rmerge` of `c.mergePersistentFlags()` from `x`: the persistent flags of
`x` and of each command up its parents, nearest first, and at the root its own with those
of `flag.CommandLine` it lacks added; `none` when the fuel runs out. -/
def rmergeLoop (hp : Heap) (ff : Nat → FindFields) (commandLine : List Flag) :
    Nat → Nat → Option (List Flag)
  | 0, _ => none
  | fuel + 1, x =>
    match (hp.obj x).parent with
    | none => some (addFlags (ff x).persistentFlags commandLine)
    | some p => (hp.rmergeLoop ff commandLine fuel p).map ((ff x).persistentFlags ++ ·)

/-- `c.Flags()` after `c.mergePersistentFlags()`: the flags of `rmerge`, each added when no
flag of its name is there. -/
def mergedFlags (hp : Heap) (ff : Nat → FindFields) (commandLine : List Flag) (c : Nat) :
    Option (List Flag) :=
  (hp.rmergeLoop ff commandLine (hp.size + 1) c).map (addFlags (ff c).flags)

/-- `stripFlags(args, c)`, which merges the persistent flags first unless `args` is
empty. -/
def stripFlagsAt (hp : Heap) (ff : Nat → FindFields) (commandLine : List Flag)
    (args : List String) (c : Nat) : Option (List String) :=
  if args.length < 1 then some args
  else (hp.mergedFlags ff commandLine c).map (stripFlags args)

/-! ## `Find` and `Traverse` on the command objects -/

/-- The command `x` as `findNext` reads it: its own fields, without subcommands. -/
def cmdOf (hp : Heap) (ff : Nat → FindFields) (x : Nat) : Command :=
  ⟨(hp.obj x).name, (hp.obj x).use, (ff x).Aliases, (ff x).flags, (ff x).persistentFlags, []⟩

/-- The loop of `c.findNext(next)` over the subcommands `cmds` left, with the prefix
matches so far. -/
def findNextLoop (hp : Heap) (ff : Nat → FindFields) (enablePrefixMatching : Bool)
    (next : String) : List Nat → List Nat → Option Nat
  | [], prefixMatches => if prefixMatches.length = 1 then prefixMatches.head? else none
  | cmd :: cmds, prefixMatches =>
    if (hp.cmdOf ff cmd).Name = next || (hp.cmdOf ff cmd).hasAlias next then some cmd
    else hp.findNextLoop ff enablePrefixMatching next cmds
      (if enablePrefixMatching && (hp.cmdOf ff cmd).hasNameOrAliasPrefix next then
        prefixMatches ++ [cmd] else prefixMatches)

/-- `c.findNext(next)`. -/
def findNext (hp : Heap) (ff : Nat → FindFields) (enablePrefixMatching : Bool) (c : Nat)
    (next : String) : Option Nat :=
  hp.findNextLoop ff enablePrefixMatching next (hp.obj c).commands []

theorem stripFlagsAt_sublist {hp : Heap} {ff : Nat → FindFields} {commandLine : List Flag}
    {args l : List String} {c : Nat} (h : hp.stripFlagsAt ff commandLine args c = some l) :
    l.Sublist args := by
  unfold stripFlagsAt at h
  split at h
  · cases h; exact List.Sublist.refl _
  · obtain ⟨fs, -, rfl⟩ := Option.map_eq_some'.mp h
    exact (stripFlags_kept args fs).1

theorem argsMinusFirstX_length_lt {args : List String} {next : String} (h : next ∈ args) :
    (argsMinusFirstX args next).length < args.length := by
  rw [argsMinusFirstX_eq_erase, List.length_erase_of_mem h]
  exact Nat.sub_lt (List.length_pos_of_mem h) Nat.one_pos

/-- `innerfind(c, innerArgs)` of `c.Find(args)`; `none` when a merge of the persistent
flags does not return. -/
def innerfind (hp : Heap) (ff : Nat → FindFields) (enablePrefixMatching : Bool)
    (commandLine : List Flag) (c : Nat) (innerArgs : List String) : Option (Nat × List String) :=
  match _hs : hp.stripFlagsAt ff commandLine innerArgs c with
  | none => none
  | some [] => some (c, innerArgs)
  | some (nextSubCmd :: _) =>
    match hp.findNext ff enablePrefixMatching c nextSubCmd with
    | some cmd =>
      hp.innerfind ff enablePrefixMatching commandLine cmd (argsMinusFirstX innerArgs nextSubCmd)
    | none => some (c, innerArgs)
termination_by innerArgs.length
decreasing_by
  exact argsMinusFirstX_length_lt ((stripFlagsAt_sublist _hs).subset (List.mem_cons_self _ _))

section innerfind

variable {hp : Heap} {ff : Nat → FindFields} {e : Bool} {cl : List Flag} {c cmd : Nat}
  {args tail : List String} {next : String}

theorem innerfind_of_none (hs : hp.stripFlagsAt ff cl args c = none) :
    hp.innerfind ff e cl c args = none := by
  rw [innerfind]; split <;> simp_all

theorem innerfind_of_nil (hs : hp.stripFlagsAt ff cl args c = some []) :
    hp.innerfind ff e cl c args = some (c, args) := by
  rw [innerfind]; split <;> simp_all

theorem innerfind_of_findNext (hs : hp.stripFlagsAt ff cl args c = some (next :: tail))
    (hn : hp.findNext ff e c next = some cmd) :
    hp.innerfind ff e cl c args = hp.innerfind ff e cl cmd (argsMinusFirstX args next) := by
  rw [innerfind]; split <;> simp_all

theorem innerfind_of_findNext_none (hs : hp.stripFlagsAt ff cl args c = some (next :: tail))
    (hn : hp.findNext ff e c next = none) : hp.innerfind ff e cl c args = some (c, args) := by
  rw [innerfind]; split <;> simp_all

end innerfind

/-- `c.Find(args)`: the command found, its arguments, and the error of `legacyArgs` when the
command has no `Args`. -/
def find (hp : Heap) (fs : Nat → RunFields) (ff : Nat → FindFields) (xe : RunEnv) (c : Nat)
    (args : List String) : Option (Nat × List String × Option Err) :=
  (hp.innerfind ff xe.EnablePrefixMatching xe.commandLine c args).bind fun (found, a) =>
    if (fs found).has .Args then some (found, a, none)
    else (hp.stripFlagsAt ff xe.commandLine a found).map fun s => (found, a, xe.legacyArgs found s)

theorem traverseScan_rest_lt {fs : List Flag} {args flags rest : List String} {arg : String}
    (h : traverseScan fs [] false args = some (flags, arg, rest)) : rest.length < args.length := by
  obtain ⟨pre, -, rfl⟩ := traverseScan_eq_some h
  simp only [List.length_append, List.length_cons]
  omega

/-- `c.ParseFlags(flags)` in `Traverse`: nothing when `DisableFlagParsing` is set, and else
the merge of the persistent flags, then pflag's error; `none` when the merge does not
return. -/
def traverseParseFlags (hp : Heap) (fs : Nat → RunFields) (ff : Nat → FindFields) (xe : RunEnv)
    (c : Nat) (flags : List String) : Option (Option Err) :=
  if (fs c).DisableFlagParsing then some none
  else (hp.mergedFlags ff xe.commandLine c).map fun _ => xe.traverseParse c flags

/-- `c.Traverse(args)`: the command found, or `none` for Go's `nil`, the arguments, and the
error; `none` when a merge of the persistent flags does not return. -/
def traverse (hp : Heap) (fs : Nat → RunFields) (ff : Nat → FindFields) (xe : RunEnv) (c : Nat)
    (args : List String) : Option (Option Nat × List String × Option Err) :=
  match _hs : traverseScan (xe.flagsOf c) [] false args with
  | none => some (some c, args, none)
  | some (flags, arg, rest) =>
    match hp.findNext ff xe.EnablePrefixMatching c arg with
    | none => some (some c, args, none)
    | some cmd =>
      match hp.traverseParseFlags fs ff xe c flags with
      | none => none
      | some (some err) => some (none, args, some err)
      | some none => hp.traverse fs ff xe cmd rest
termination_by args.length
decreasing_by exact traverseScan_rest_lt _hs

section traverse

variable {hp : Heap} {fs : Nat → RunFields} {ff : Nat → FindFields} {xe : RunEnv} {c cmd : Nat}
  {args flags rest : List String} {arg : String}

theorem traverse_of_scan_none (hs : traverseScan (xe.flagsOf c) [] false args = none) :
    hp.traverse fs ff xe c args = some (some c, args, none) := by
  rw [traverse]; split <;> simp_all

theorem traverse_of_findNext_none
    (hs : traverseScan (xe.flagsOf c) [] false args = some (flags, arg, rest))
    (hn : hp.findNext ff xe.EnablePrefixMatching c arg = none) :
    hp.traverse fs ff xe c args = some (some c, args, none) := by
  rw [traverse]; split <;> simp_all

end traverse

/-! ## `ExecuteC` -/

/-- The lookup of `ExecuteC`: `Traverse` when `TraverseChildren` is set, and else `Find`. -/
def lookup (hp : Heap) (fs : Nat → RunFields) (ff : Nat → FindFields) (xe : RunEnv) (c : Nat)
    (args : List String) : Option (Option Nat × List String × Option Err) :=
  if (ff c).TraverseChildren then hp.traverse fs ff xe c args
  else (hp.find fs ff xe c args).map fun (cmd, a, err) => (some cmd, a, err)

/-- `ExecuteC` on root `c` from the lookup on, with `args` the arguments looked up and
`rewrite` what is done to the lookup's arguments before `execute`. -/
def runFound (hp : Heap) (fs : Nat → RunFields) (ff : Nat → FindFields) (env : Env)
    (xe : RunEnv) (c : Nat) (args : List String) (rewrite : List String → List String) :
    RunOutcome :=
  match hp.lookup fs ff xe c args with
  | none => .hangs
  | some (cmd, _, some err) =>
    let c := cmd.getD c
    if (ff c).SilenceErrors then .returns hp [] c (some err)
    else match hp.commandPath c with
      | none => .hangs
      | some path => .returns hp [.line ("Error: " ++ err.error),
          .line ("Run '" ++ path ++ " --help' for usage.")] c (some err)
  | some (none, _, none) => .panics nilDereference
  | some (some cmd, flags, none) =>
    match hp.execute fs env cmd (rewrite flags) with
    | none => .hangs
    | some (evs, none) => .returns hp (evs.map .execute) cmd none
    | some (evs, some .errHelp) => .returns hp (evs.map .execute ++ [.help cmd args]) cmd none
    | some (evs, some err) =>
      .returns hp (evs.map .execute ++
        (if !(ff cmd).SilenceErrors && !(ff c).SilenceErrors then
          [.line ("Error: " ++ err.error)] else []) ++
        (if !(ff cmd).SilenceUsage && !(ff c).SilenceUsage then [.usage cmd] else []))
        cmd (some err)

/-- `ExecuteC` on a command `c` without a parent, from the windows hook on, with `args` the
arguments it looks up and `rewrite` what is done to the lookup's arguments. -/
def executeRoot (hp : Heap) (fs : Nat → RunFields) (ff : Nat → FindFields) (env : Env)
    (xe : RunEnv) (c : Nat) (args : List String) (rewrite : List String → List String) :
    RunOutcome :=
  match hp.initHelpCmd c with
  | .panics msg => .panics msg
  | .hangs => .hangs
  | .returns hp =>
    (hp.runFound fs ff env xe c args rewrite).after
      (if xe.preExecHook then [.preExecHook c] else [])

/-- The arguments of `ExecuteC`: `c.args`, or `os.Args[1:]` when it is `nil` and the program
is not `cobra.test`. -/
def executeArgs (ff : Nat → FindFields) (xe : RunEnv) (c : Nat) : List String :=
  match (ff c).args with
  | none => if xe.osArgs0Base ≠ "cobra.test" then xe.osArgs else []
  | some a => a

/-- `c.ExecuteC()`: on a command with a parent, `c.Root().ExecuteC()`, which has none. -/
def executeC (hp : Heap) (fs : Nat → RunFields) (ff : Nat → FindFields) (env : Env)
    (xe : RunEnv) (c : Nat) : RunOutcome :=
  if (hp.obj c).parent.isSome then
    match hp.root c with
    | none => .hangs
    | some r => hp.executeRoot fs ff env xe r (executeArgs ff xe r) id
  else hp.executeRoot fs ff env xe c (executeArgs ff xe c) id

end Heap

/-- `unicode.IsSpace(r)`: the white space of Latin-1, and Unicode's `White_Space` above
it. -/
def isSpace (r : Char) : Bool :=
  if r.val ≤ 0xFF then
    r.val = 0x09 || r.val = 0x0A || r.val = 0x0B || r.val = 0x0C || r.val = 0x0D ||
      r.val = 0x20 || r.val = 0x85 || r.val = 0xA0
  else
    r.val = 0x1680 || (0x2000 ≤ r.val && r.val ≤ 0x200A) || r.val = 0x2028 ||
      r.val = 0x2029 || r.val = 0x202F || r.val = 0x205F || r.val = 0x3000

/-- `strings.Fields` over the characters left, with the field read so far. -/
def fieldsLoop : List Char → List Char → List String
  | cur, [] => if cur = [] then [] else [String.mk cur]
  | cur, ch :: rest =>
    if isSpace ch then
      if cur = [] then fieldsLoop [] rest else String.mk cur :: fieldsLoop [] rest
    else fieldsLoop (cur ++ [ch]) rest

/-- `strings.Fields(s)`: the non-empty runs of characters between white space. -/
def fields (s : String) : List String := fieldsLoop [] s.data

/-- The loop of `ExecuteCmdInFirstContainer` that builds `tmpSlice` from `flags`, at index
`i`: of the first argument, its fields after the first (`j == 0` is skipped); then every
other argument. -/
def firstContainerLoop : Nat → List String → List String → List String
  | _, tmpSlice, [] => tmpSlice
  | i, tmpSlice, flag :: flags =>
    firstContainerLoop (i + 1)
      (if i = 0 then tmpSlice ++ (fields flag).drop 1 else tmpSlice ++ [flag]) flags

/-- `tmpSlice`, the arguments `ExecuteCmdInFirstContainer` gives `execute`. -/
def firstContainerArgs (flags : List String) : List String := firstContainerLoop 0 [] flags

theorem firstContainerLoop_succ :
    ∀ (i : Nat) (tmpSlice flags : List String), firstContainerLoop (i + 1) tmpSlice flags = tmpSlice ++ flags
  | _, _, [] => by simp [firstContainerLoop]
  | i, tmpSlice, flag :: flags => by
    rw [firstContainerLoop, if_neg (Nat.succ_ne_zero i), firstContainerLoop_succ]
    simp

/-- `ExecuteCmdInFirstContainer` gives `execute` the fields of the first argument after the
first, then the other arguments: a first argument with no blank in it is dropped. -/
theorem firstContainerArgs_cons (w : String) (rest : List String) :
    firstContainerArgs (w :: rest) = (fields w).drop 1 ++ rest := by
  simp [firstContainerArgs, firstContainerLoop, firstContainerLoop_succ]

example : firstContainerArgs ["c1", "ls", "-l"] = ["ls", "-l"] := by decide

example : firstContainerArgs ["exec c1", "ls"] = ["c1", "ls"] := by decide

namespace Heap

/-- `c.ExecuteCmdInFirstContainer()`: on a command with a parent, `c.Root().ExecuteC()`;
on a root, `ExecuteC` with the arguments of `c.args` only, and `firstContainerArgs` of the
lookup's arguments given to `execute`. -/
def executeCmdInFirstContainer (hp : Heap) (fs : Nat → RunFields) (ff : Nat → FindFields)
    (env : Env) (xe : RunEnv) (c : Nat) : RunOutcome :=
  if (hp.obj c).parent.isSome then
    match hp.root c with
    | none => .hangs
    | some r => hp.executeC fs ff env xe r
  else hp.executeRoot fs ff env xe c ((ff c).args.getD []) firstContainerArgs

end Heap

namespace Heap

/-! ## The walks return on a heap that keeps the invariant -/

theorem root_of_parent_none {hp : Heap} {c : Nat} (hc : (hp.obj c).parent = none) :
    hp.root c = some c := by
  simp [root, rootLoop, hc]

theorem rmergeLoop_isSome {hp : Heap} (ff : Nat → FindFields) (commandLine : List Flag) :
    ∀ {fuel x : Nat}, hp.ancestor x fuel = none → (hp.rmergeLoop ff commandLine fuel x).isSome
  | 0, _, h => nomatch h
  | fuel + 1, x, h => by
    rw [ancestor_succ'] at h
    cases hx : (hp.obj x).parent with
    | none => simp [rmergeLoop, hx]
    | some p => simpa [rmergeLoop, hx] using rmergeLoop_isSome ff commandLine (by simpa [hx] using h)

theorem mergedFlags_isSome {hp : Heap} (h : hp.Inv) (ff : Nat → FindFields)
    (commandLine : List Flag) (c : Nat) : (hp.mergedFlags ff commandLine c).isSome := by
  simpa [mergedFlags] using
    rmergeLoop_isSome ff commandLine (ancestor_size_eq_none h.parents_lt (h.reachesRoot c))

theorem stripFlagsAt_isSome {hp : Heap} (h : hp.Inv) (ff : Nat → FindFields)
    (commandLine : List Flag) (args : List String) (c : Nat) :
    (hp.stripFlagsAt ff commandLine args c).isSome := by
  unfold stripFlagsAt
  split
  · rfl
  · simpa using mergedFlags_isSome h ff commandLine c

/-- **`Find` returns** on a heap that keeps the invariant. -/
theorem innerfind_isSome {hp : Heap} (h : hp.Inv) (ff : Nat → FindFields) (e : Bool)
    (commandLine : List Flag) (c : Nat) (args : List String) :
    (hp.innerfind ff e commandLine c args).isSome := by
  induction c, args using innerfind.induct hp ff e commandLine with
  | case1 c args hs => simpa [hs] using stripFlagsAt_isSome h ff commandLine args c
  | case2 c args hs => simp [innerfind_of_nil hs]
  | case3 c args next tail hs cmd hn ih => rwa [innerfind_of_findNext hs hn]
  | case4 c args next tail hs hn => simp [innerfind_of_findNext_none hs hn]

end Heap

namespace Heap

/-! ## No command is its own help command -/

theorem rootLoop_parent {hp : Heap} : ∀ {fuel x r : Nat}, hp.rootLoop fuel x = some r →
    (hp.obj r).parent = none
  | 0, _, _, h => nomatch h
  | fuel + 1, x, r, h => by
    simp only [rootLoop] at h
    split at h
    · cases h; assumption
    · exact rootLoop_parent h

theorem executeC_of_root {hp : Heap} {fs : Nat → RunFields} {ff : Nat → FindFields} {env : Env}
    {xe : RunEnv} {c : Nat} (hc : (hp.obj c).parent = none) :
    hp.executeC fs ff env xe c = hp.executeRoot fs ff env xe c (executeArgs ff xe c) id := by
  simp [executeC, hc]

theorem executeC_of_parent {hp : Heap} {fs : Nat → RunFields} {ff : Nat → FindFields} {env : Env}
    {xe : RunEnv} {c r : Nat} (hc : (hp.obj c).parent ≠ none) (hroot : hp.root c = some r) :
    hp.executeC fs ff env xe c = hp.executeRoot fs ff env xe r (executeArgs ff xe r) id := by
  simp [executeC, Option.isSome_iff_ne_none.mpr hc, hroot]

theorem executeCmdInFirstContainer_of_root {hp : Heap} {fs : Nat → RunFields}
    {ff : Nat → FindFields} {env : Env} {xe : RunEnv} {c : Nat} (hc : (hp.obj c).parent = none) :
    hp.executeCmdInFirstContainer fs ff env xe c =
      hp.executeRoot fs ff env xe c ((ff c).args.getD []) firstContainerArgs := by
  simp [executeCmdInFirstContainer, hc]

theorem executeCmdInFirstContainer_of_parent {hp : Heap} {fs : Nat → RunFields}
    {ff : Nat → FindFields} {env : Env} {xe : RunEnv} {c r : Nat} (hc : (hp.obj c).parent ≠ none)
    (hroot : hp.root c = some r) :
    hp.executeCmdInFirstContainer fs ff env xe c = hp.executeC fs ff env xe r := by
  simp [executeCmdInFirstContainer, Option.isSome_iff_ne_none.mpr hc, hroot]

end Heap

namespace Heap

/-! ## `flag.ErrHelp` is shown, not returned -/

theorem find_err {hp : Heap} {fs : Nat → RunFields} {ff : Nat → FindFields} {xe : RunEnv}
    {c : Nat} {args a : List String} {cmd : Nat} {err : Option Err}
    (h : hp.find fs ff xe c args = some (cmd, a, err)) :
    err = none ∨ ∃ s, err = xe.legacyArgs cmd s := by
  obtain ⟨⟨found, a'⟩, -, h⟩ := Option.bind_eq_some.mp h
  dsimp only at h
  split at h
  · cases h; exact .inl rfl
  · obtain ⟨s, -, h⟩ := Option.map_eq_some'.mp h
    cases h; exact .inr ⟨s, rfl⟩

/-- `Find` returns `flag.ErrHelp` only if `legacyArgs` does. -/
theorem lookup_not_errHelp {hp : Heap} {fs : Nat → RunFields} {ff : Nat → FindFields}
    {xe : RunEnv} {c : Nat} {args : List String}
    (hlegacy : ∀ x a, xe.legacyArgs x a ≠ some .errHelp) (htrav : (ff c).TraverseChildren = false)
    {r : Option Nat × List String × Option Err} (h : hp.lookup fs ff xe c args = some r) :
    r.2.2 ≠ some .errHelp := by
  simp only [lookup, htrav] at h
  obtain ⟨⟨cmd, a, err⟩, hf, rfl⟩ := Option.map_eq_some'.mp h
  rcases find_err hf with rfl | ⟨s, rfl⟩
  · simp
  · exact hlegacy cmd s

/-- From the lookup on, `ExecuteC` returns `flag.ErrHelp` only as the lookup's error: that
of `execute` becomes a call of the help function. -/
theorem runFound_err {hp : Heap} {fs : Nat → RunFields} {ff : Nat → FindFields} {env : Env}
    {xe : RunEnv} {c : Nat} {args : List String} {rewrite : List String → List String}
    (hl : ∀ r, hp.lookup fs ff xe c args = some r → r.2.2 ≠ some .errHelp)
    {hp' : Heap} {evs : List RunEvent} {cmd : Nat} {err : Option Err}
    (h : hp.runFound fs ff env xe c args rewrite = .returns hp' evs cmd err) :
    err ≠ some .errHelp := by
  unfold runFound at h
  split at h
  · cases h
  · rename_i hlk
    dsimp only at h
    split at h <;> (try split at h) <;> cases h
    all_goals exact hl _ hlk
  · cases h
  · split at h <;> cases h
    · simp
    · simp
    · exact fun he => ‹_ = Err.errHelp → False› (Option.some.inj he)

theorem executeRoot_err {hp : Heap} {fs : Nat → RunFields} {ff : Nat → FindFields} {env : Env}
    {xe : RunEnv} {r : Nat} {args : List String} {rewrite : List String → List String}
    (hlegacy : ∀ x a, xe.legacyArgs x a ≠ some .errHelp) (htrav : (ff r).TraverseChildren = false)
    {hp' : Heap} {evs : List RunEvent} {cmd : Nat} {err : Option Err}
    (h : hp.executeRoot fs ff env xe r args rewrite = .returns hp' evs cmd err) :
    err ≠ some .errHelp := by
  unfold executeRoot at h
  split at h
  · cases h
  · cases h
  · obtain ⟨_, h⟩ := RunOutcome.after_eq_returns h
    exact runFound_err (fun _ => lookup_not_errHelp hlegacy htrav) h

/-- **`flag.ErrHelp` is shown, not returned, when `Find` looks the command up.**  On every
heap, for every command whose root does not set `TraverseChildren`, and everything the
functions of the commands and pflag do, `ExecuteC` and `ExecuteCmdInFirstContainer` never
return `flag.ErrHelp` as long as `legacyArgs` does not: when `execute` returns it, they call
the help function and return no error.  With `TraverseChildren` they can, for `Traverse`
parses flags before `execute` has run `initHelpFlag`. -/
theorem executeC_no_errHelp (hp : Heap) (fs : Nat → RunFields) (ff : Nat → FindFields)
    (env : Env) (xe : RunEnv) (c : Nat) (hlegacy : ∀ x a, xe.legacyArgs x a ≠ some .errHelp)
    (htrav : ∀ r, hp.root c = some r → (ff r).TraverseChildren = false) :
    ∀ hp' evs cmd, hp.executeC fs ff env xe c ≠ .returns hp' evs cmd (some .errHelp) ∧
      hp.executeCmdInFirstContainer fs ff env xe c ≠ .returns hp' evs cmd (some .errHelp) := by
  intro hp' evs cmd
  have hC : ∀ r, hp.root c = some r → hp.executeC fs ff env xe r ≠ .returns hp' evs cmd (some .errHelp) :=
    fun r hr h => executeRoot_err hlegacy (htrav r hr)
      (by rwa [executeC_of_root (rootLoop_parent hr)] at h) rfl
  by_cases hcp : (hp.obj c).parent = none
  · have hr := root_of_parent_none hcp
    refine ⟨hC c hr, fun h => ?_⟩
    rw [executeCmdInFirstContainer_of_root hcp] at h
    exact executeRoot_err hlegacy (htrav c hr) h rfl
  · cases hr : hp.root c with
    | none => simp [executeC, executeCmdInFirstContainer, Option.isSome_iff_ne_none.mpr hcp, hr]
    | some r =>
      rw [executeC_of_parent hcp hr, executeCmdInFirstContainer_of_parent hcp hr,
        ← executeC_of_root (rootLoop_parent hr)]
      exact ⟨hC r hr, hC r hr⟩

end Heap

/-! ## `Find` on the heap refines `Find` on the tree -/

theorem addFlags_append (A B C : List Flag) : addFlags A (B ++ C) = addFlags (addFlags A B) C :=
  List.foldl_append ..

theorem addFlags_prefix : ∀ (A B : List Flag), ∃ l, addFlags A B = A ++ l
  | A, [] => ⟨[], by simp [addFlags]⟩
  | A, b :: B => by
    obtain ⟨l, hl⟩ := addFlags_prefix (if A.any (·.name = b.name) then A else A ++ [b]) B
    refine ⟨(if A.any (·.name = b.name) then [] else [b]) ++ l, ?_⟩
    show addFlags (if A.any (·.name = b.name) then A else A ++ [b]) B = _
    rw [hl]
    split <;> simp

theorem any_addFlags {A : List Flag} {p : Flag → Bool} (h : A.any p) (B : List Flag) :
    (addFlags A B).any p := by
  obtain ⟨l, hl⟩ := addFlags_prefix A B
  simp [hl, List.any_append, h]

/-- After `addFlags`, a flag of every name added is there. -/
theorem addFlags_has : ∀ (A B : List Flag), ∀ x ∈ B, (addFlags A B).any (·.name = x.name)
  | _, [], _, hx => nomatch hx
  | A, b :: B, x, hx => by
    show (addFlags (if A.any (·.name = b.name) then A else A ++ [b]) B).any _
    rcases List.mem_cons.mp hx with rfl | hx
    · refine any_addFlags ?_ B
      split
      · assumption
      · simp
    · exact addFlags_has _ B x hx

/-- Adding the flags `D` after those of `C` leaves out the ones whose names `C` has, which
`F` has too. -/
theorem addFlags_drop : ∀ (F C D : List Flag), (∀ x ∈ C, F.any (·.name = x.name)) →
    addFlags F ((addFlags C D).drop C.length) = addFlags F D
  | F, C, [], _ => by simp [addFlags]
  | F, C, d :: D, h => by
    show addFlags F ((addFlags (if C.any (·.name = d.name) then C else C ++ [d]) D).drop C.length) =
      addFlags (if F.any (·.name = d.name) then F else F ++ [d]) D
    by_cases hC : C.any (·.name = d.name)
    · obtain ⟨x, hx, hxd⟩ := List.any_eq_true.mp hC
      have hF : F.any (·.name = d.name) := by simpa [of_decide_eq_true hxd] using h x hx
      rw [if_pos hC, if_pos hF]
      exact addFlags_drop F C D h
    · obtain ⟨l, hl⟩ := addFlags_prefix (C ++ [d]) D
      rw [if_neg hC, hl]
      have hdrop : (C ++ [d] ++ l).drop C.length = d :: l := by simp
      have hstep := addFlags_drop (addFlags F [d]) (C ++ [d]) D fun x hx =>
        (List.mem_append.mp hx).elim (fun hx => any_addFlags (h x hx) [d]) (addFlags_has F [d] x)
      rw [hl, show (C ++ [d]).length = C.length + 1 by simp, ← List.drop_drop, hdrop] at hstep
      rw [hdrop]
      exact hstep

/-- Merging `flag.CommandLine` into the root's persistent flags first adds the same flags as
adding them after those. -/
theorem addFlags_root (A B R CL : List Flag) :
    addFlags A (B ++ addFlags R CL) = addFlags A (B ++ (R ++ CL)) := by
  obtain ⟨l, hl⟩ := addFlags_prefix R CL
  have h := addFlags_drop (addFlags (addFlags A B) R) R CL (addFlags_has _ R)
  rw [hl, List.drop_left] at h
  rw [hl, addFlags_append, addFlags_append, h, ← addFlags_append, ← addFlags_append]

namespace Heap

/-- The command tree `x` heads as `Find` reads it, unfolded to depth `d`: `x`'s own fields,
and its subcommands unfolded to depth `d - 1`. -/
def tree (hp : Heap) (ff : Nat → FindFields) : Nat → Nat → Command
  | 0, x => hp.cmdOf ff x
  | d + 1, x => { hp.cmdOf ff x with commands := (hp.obj x).commands.map (hp.tree ff d) }

/-- What `Find` reads of a command but its subcommands is the same in the tree as in
`cmdOf`. -/
theorem tree_apply {α : Type} (hp : Heap) (ff : Nat → FindFields) (f : Command → α)
    (hf : ∀ c l, f { c with commands := l } = f c) (d x : Nat) :
    f (hp.tree ff d x) = f (hp.cmdOf ff x) := by
  cases d
  · rfl
  · exact hf _ _

theorem findNextLoop_tree (hp : Heap) (ff : Nat → FindFields) (e : Bool) (next : String) (d : Nat) :
    ∀ (cmds prefixMatches : List Nat),
      Cobra.findNextLoop e next (cmds.map (hp.tree ff d)) (prefixMatches.map (hp.tree ff d)) =
        (hp.findNextLoop ff e next cmds prefixMatches).map (hp.tree ff d)
  | [], prefixMatches => by
    simp only [List.map_nil, Cobra.findNextLoop, findNextLoop, List.length_map]
    split <;> simp [List.head?_map]
  | cmd :: cmds, prefixMatches => by
    simp only [List.map_cons, Cobra.findNextLoop, findNextLoop,
      tree_apply hp ff Command.Name (fun _ _ => rfl), tree_apply hp ff Command.hasAlias (fun _ _ => rfl),
      tree_apply hp ff Command.hasNameOrAliasPrefix (fun _ _ => rfl)]
    split
    · rfl
    · rw [← findNextLoop_tree hp ff e next d cmds]
      congr 1
      split <;> simp

theorem findNext_tree_succ (hp : Heap) (ff : Nat → FindFields) (e : Bool) (d x : Nat)
    (next : String) :
    Cobra.findNext e (hp.tree ff (d + 1) x) next = (hp.findNext ff e x next).map (hp.tree ff d) :=
  findNextLoop_tree hp ff e next d (hp.obj x).commands []

theorem findNext_tree_zero (hp : Heap) (ff : Nat → FindFields) (e : Bool) (x : Nat)
    (next : String) : Cobra.findNext e (hp.tree ff 0 x) next = none := rfl

theorem findNextLoop_mem {hp : Heap} {ff : Nat → FindFields} {e : Bool} {next : String} :
    ∀ {cmds prefixMatches : List Nat} {cmd : Nat},
      hp.findNextLoop ff e next cmds prefixMatches = some cmd → cmd ∈ cmds ∨ cmd ∈ prefixMatches
  | [], prefixMatches, cmd, h => by
    simp only [findNextLoop] at h
    split at h
    · exact .inr (List.mem_of_mem_head? h)
    · cases h
  | c :: cmds, prefixMatches, cmd, h => by
    simp only [findNextLoop] at h
    split at h
    · cases h; exact .inl (List.mem_cons_self _ _)
    · rcases findNextLoop_mem h with h' | h'
      · exact .inl (List.mem_cons_of_mem _ h')
      · split at h'
        · rcases List.mem_append.mp h' with h'' | h''
          · exact .inr h''
          · exact .inl (List.mem_singleton.mp h'' ▸ List.mem_cons_self _ _)
        · exact .inr h'

/-- `findNext` returns a subcommand. -/
theorem findNext_mem {hp : Heap} {ff : Nat → FindFields} {e : Bool} {c cmd : Nat} {next : String}
    (h : hp.findNext ff e c next = some cmd) : cmd ∈ (hp.obj c).commands :=
  (findNextLoop_mem h).resolve_right (List.not_mem_nil _)

theorem rmergeLoop_of_parent {hp : Heap} {ff : Nat → FindFields} {cl : List Flag} {fuel x p : Nat}
    (hx : (hp.obj x).parent = some p) :
    hp.rmergeLoop ff cl (fuel + 1) x = (hp.rmergeLoop ff cl fuel p).map ((ff x).persistentFlags ++ ·) := by
  rw [rmergeLoop, hx]

theorem rmergeLoop_succ {hp : Heap} {ff : Nat → FindFields} {cl : List Flag} :
    ∀ {fuel x : Nat} {l : List Flag}, hp.rmergeLoop ff cl fuel x = some l →
      hp.rmergeLoop ff cl (fuel + 1) x = some l
  | 0, _, _, h => nomatch h
  | fuel + 1, x, l, h => by
    cases hx : (hp.obj x).parent with
    | none => simpa [rmergeLoop, hx] using h
    | some p =>
      rw [rmergeLoop_of_parent hx] at h ⊢
      obtain ⟨l', hl', rfl⟩ := Option.map_eq_some'.mp h
      rw [rmergeLoop_succ hl']
      rfl

/-- Below a command whose merged flags are `B ++ R`, a child that points back at it has
its own persistent flags in front. -/
theorem rmergeLoop_child {hp : Heap} (h : hp.Inv) {ff : Nat → FindFields} {cl : List Flag}
    {c cmd : Nat} {B R : List Flag} (hc : hp.rmergeLoop ff cl (hp.size + 1) c = some (B ++ R))
    (hcmd : (hp.obj cmd).parent = some c) :
    hp.rmergeLoop ff cl (hp.size + 1) cmd = some ((ff cmd).persistentFlags ++ B ++ R) := by
  have hs := rmergeLoop_isSome ff cl (ancestor_size_eq_none h.parents_lt (h.reachesRoot cmd))
  rw [rmergeLoop_of_parent hcmd] at hs ⊢
  obtain ⟨l, hl⟩ := Option.isSome_iff_exists.mp (by simpa using hs)
  rw [hl, Option.some.inj ((rmergeLoop_succ hl).symm.trans hc)]
  simp

/-- What `stripFlags` keeps at `c` on the heap is what it keeps at the tree's `c` with the
inherited flags `inh`, when the two merges add the same flags. -/
theorem stripFlagsAt_tree {hp : Heap} {ff : Nat → FindFields} {cl : List Flag} {R R' : List Flag}
    (hR : ∀ A B, addFlags A (B ++ R) = addFlags A (B ++ R')) {c d : Nat} {B inh : List Flag}
    (hc : hp.rmergeLoop ff cl (hp.size + 1) c = some (B ++ R))
    (hinh : (ff c).persistentFlags ++ inh = B ++ R') (args : List String) :
    hp.stripFlagsAt ff cl args c =
      some (stripFlags args (addFlags (hp.tree ff d c).flags
        ((hp.tree ff d c).persistentFlags ++ inh))) := by
  rw [tree_apply hp ff Command.flags (fun _ _ => rfl),
    tree_apply hp ff Command.persistentFlags (fun _ _ => rfl)]
  unfold stripFlagsAt
  split
  · simp [stripFlags, *]
  · simp [mergedFlags, cmdOf, hc, hR, hinh]

/-- **`Find` on the heap follows `Find` on the tree**, step by step down the search, as long
as the merged flags agree. -/
theorem innerfind_refines {hp : Heap} (h : hp.Inv) (ff : Nat → FindFields) (e : Bool)
    (cl : List Flag) (hlinked : ∀ x < hp.size, ∀ y ∈ (hp.obj x).commands, (hp.obj y).parent = some x)
    {R R' : List Flag} (hR : ∀ A B, addFlags A (B ++ R) = addFlags A (B ++ R')) (c : Nat)
    (args : List String) :
    c < hp.size → ∀ x a, hp.innerfind ff e cl c args = some (x, a) →
      ∀ d inh B, args.length ≤ d → hp.rmergeLoop ff cl (hp.size + 1) c = some (B ++ R) →
        (ff c).persistentFlags ++ inh = B ++ R' →
        ∃ d', Cobra.innerfind e inh (hp.tree ff d c) args = (hp.tree ff d' x, a) := by
  induction c, args using innerfind.induct hp ff e cl with
  | case1 c args hs => intro _ x a hf; rw [innerfind_of_none hs] at hf; cases hf
  | case2 c args hs =>
    intro _ x a hf d inh B _ hc hinh
    rw [innerfind_of_nil hs] at hf
    cases hf
    rw [stripFlagsAt_tree hR hc hinh] at hs
    exact ⟨d, Cobra.innerfind_of_nil (Option.some.inj hs)⟩
  | case3 c args next tail hs cmd hn ih =>
    intro hcs x a hf d inh B hd hc hinh
    rw [innerfind_of_findNext hs hn] at hf
    have hmem := findNext_mem hn
    have hnext : next ∈ args := (stripFlagsAt_sublist hs).subset (List.mem_cons_self _ _)
    obtain ⟨d, rfl⟩ : ∃ d', d = d' + 1 := Nat.exists_eq_succ_of_ne_zero (by
      have := List.length_pos_of_mem hnext; omega)
    rw [stripFlagsAt_tree (d := d + 1) hR hc hinh] at hs
    have hn' : Cobra.findNext e (hp.tree ff (d + 1) c) next = some (hp.tree ff d cmd) := by
      rw [findNext_tree_succ, hn]; rfl
    rw [Cobra.innerfind_of_findNext (Option.some.inj hs) hn']
    refine ih (h.children_lt c cmd hmem) x a hf d _ _ ?_
      (rmergeLoop_child h hc (hlinked c hcs cmd hmem))
      (by simp [tree_apply hp ff Command.persistentFlags (fun _ _ => rfl), cmdOf, hinh])
    have := argsMinusFirstX_length_lt hnext
    omega
  | case4 c args next tail hs hn =>
    intro _ x a hf d inh B _ hc hinh
    rw [innerfind_of_findNext_none hs hn] at hf
    cases hf
    rw [stripFlagsAt_tree (d := d) hR hc hinh] at hs
    refine ⟨d, Cobra.innerfind_of_findNext_none (Option.some.inj hs) ?_⟩
    cases d with
    | zero => exact findNext_tree_zero hp ff e c next
    | succ d => rw [findNext_tree_succ, hn]; rfl

/-- **The heap's `Find` finds what the tree's `Find` finds.**  On every heap built by calls
that returned where every child points back at its parent (what `AddCommand` makes, and
re-parenting a command breaks), for every root and argument list, the search of `Find` on
the command objects returns, and `Find` of `CommandFind` on the tree the root heads,
unfolded as deep as there are arguments, finds the tree of the same command with the same
arguments.  The flags of `flag.CommandLine`, which `mergePersistentFlags` adds to the
root's persistent flags, are there the flags inherited at the root. -/
theorem find_refines {hp : Heap} (h : hp.Reachable) (ff : Nat → FindFields) (e : Bool)
    (commandLine : List Flag)
    (hlinked : ∀ x < hp.size, ∀ y ∈ (hp.obj x).commands, (hp.obj y).parent = some x)
    {r : Nat} (hr : r < hp.size) (hroot : (hp.obj r).parent = none) (args : List String) :
    ∃ x a d, hp.innerfind ff e commandLine r args = some (x, a) ∧
      (hp.tree ff args.length r).find e commandLine args = (hp.tree ff d x, a) := by
  obtain ⟨⟨x, a⟩, hf⟩ := Option.isSome_iff_exists.mp (innerfind_isSome h.inv ff e commandLine r args)
  obtain ⟨d, hd⟩ := innerfind_refines h.inv ff e commandLine hlinked
    (addFlags_root · · (ff r).persistentFlags commandLine) r args hr x a hf args.length commandLine []
    (Nat.le_refl _) (by simp [rmergeLoop, hroot]) rfl
  exact ⟨x, a, d, hf, hd⟩

end Heap

namespace Heap

/-! ## `docker run` -/

/-- Commands with no aliases, flags or silencing, and no arguments set. -/
def plainFields : Nat → FindFields := fun _ => ⟨[], [], [], false, false, false, some []⟩

/-- A program `docker` started with no arguments, where `legacyArgs` accepts everything. -/
def plainRun : RunEnv :=
  ⟨false, [], "docker", false, [], fun _ => [], fun _ _ => none, fun _ _ => none⟩

theorem executeC_no_errHelp_docker_run :
    (∀ x a, plainRun.legacyArgs x a ≠ some .errHelp) ∧
    (∀ r, dockerRun.root 1 = some r → (plainFields r).TraverseChildren = false) ∧
    ∀ hp' evs cmd,
      dockerRun.executeC dockerRunFields plainFields quietEnv plainRun 1 ≠
        .returns hp' evs cmd (some .errHelp) ∧
      dockerRun.executeCmdInFirstContainer dockerRunFields plainFields quietEnv plainRun 1 ≠
        .returns hp' evs cmd (some .errHelp) :=
  ⟨fun _ _ => Option.noConfusion, fun _ _ => rfl,
    executeC_no_errHelp dockerRun dockerRunFields plainFields quietEnv plainRun 1
      (fun _ _ => Option.noConfusion) (fun _ _ => rfl)⟩

theorem find_refines_docker_run :
    dockerRun.Reachable ∧
    (∀ x < dockerRun.size, ∀ y ∈ (dockerRun.obj x).commands, (dockerRun.obj y).parent = some x) ∧
    0 < dockerRun.size ∧ (dockerRun.obj 0).parent = none ∧
    ∃ x a d, dockerRun.innerfind plainFields false [] 0 ["run"] = some (x, a) ∧
      (dockerRun.tree plainFields ["run"].length 0).find false [] ["run"] =
        (dockerRun.tree plainFields d x, a) :=
  ⟨dockerRun_reachable, by decide, by decide, rfl,
    find_refines dockerRun_reachable plainFields false [] (by decide) (r := 0) (by decide) rfl ["run"]⟩

end Heap

end Cobra

end ContainerLifecycle
