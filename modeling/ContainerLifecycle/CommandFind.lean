import Mathlib.Data.List.Basic

/-! # Finding the command an argument list names

`Command.Find` of the vendored cobra walks down the command tree: at each command,
`stripFlags` drops the flags and the values it takes flags to carry, and keeps the other
words; the first of them, if a subcommand has it as name or alias (`findNext`), is the
next command, and it is removed from the argument list by `argsMinusFirstX`, which removes
the first word **equal** to it.  Which word `stripFlags` kept is decided by position —
a word right after a flag that takes a value is that flag's value — so the word removed can
be an earlier flag value equal to the subcommand's name (`find_removes_flag_value`).

A command is given by what `Find` reads of it: its name and `Use` (for `Name()`), its
aliases, its local and persistent flags, and its subcommands.  The tree is a value, so it
is acyclic.  Each flag is its name, its shorthand and whether its value is a `bool`.
`stripFlags` looks flags up in the command's flag set after `mergePersistentFlags`: its own
flags, then the persistent flags of the command and of each ancestor up to the root, then
those of Go's `flag.CommandLine`, each added when no flag of its name is there yet
(`addFlags`).  `EnablePrefixMatching` and `flag.CommandLine` are package state absent from
src, and arguments here.  `Find`'s error comes from `legacyArgs`, absent from src, and is
not modelled; the debug prints are left out.
-/
namespace ContainerLifecycle

namespace Cobra

/-- `strings.HasPrefix(s, p)`. -/
def hasPrefix (s p : String) : Bool := p.data.isPrefixOf s.data

/-- `strings.HasSuffix(s, p)`. -/
def hasSuffix (s p : String) : Bool := p.data.isSuffixOf s.data

/-- `strings.Contains(s, p)`. -/
def contains (s p : String) : Bool := s.data.tails.any fun t => p.data.isPrefixOf t

/-- A flag of a pflag flag set, as `stripFlags` sees it. -/
structure Flag where
  name : String
  shorthand : String
  isBool : Bool
  deriving DecidableEq, Repr

/-- A cobra command: the fields `Find` reads. -/
structure Command where
  name : String
  use : String
  aliases : List String
  flags : List Flag
  persistentFlags : List Flag
  commands : List Command

namespace Command

/-- `c.Name()`: the `name` field, or `Use` up to its first space. -/
def Name (c : Command) : String :=
  if c.name ≠ "" then c.name else String.mk (c.use.data.takeWhile (· ≠ ' '))

/-- `c.HasAlias(s)`. -/
def hasAlias (c : Command) (s : String) : Bool := c.aliases.any (· = s)

/-- `c.HasNameOrAliasPrefix(prefix)`. -/
def hasNameOrAliasPrefix (c : Command) (pre : String) : Bool :=
  hasPrefix c.Name pre || c.aliases.any (hasPrefix · pre)

/-- `d` is `c` or a command below it in the tree of subcommands. -/
inductive Reaches : Command → Command → Prop
  | refl (c : Command) : Reaches c c
  | child {c d e : Command} : d ∈ c.commands → Reaches d e → Reaches c e

end Command

/-- `f.AddFlag(x)` for each `x` of `extra` whose name `f.Lookup` does not find. -/
def addFlags (fs extra : List Flag) : List Flag :=
  extra.foldl (fun fs x => if fs.any (·.name = x.name) then fs else fs ++ [x]) fs

/-- `isBooleanFlag(name, f)`: the flag of that name exists and is a `bool`. -/
def isBooleanFlag (name : String) (fs : List Flag) : Bool :=
  match fs.find? (·.name = name) with
  | some f => f.isBool
  | none => false

/-- `isBooleanShortFlag(name, f)`: some `bool` flag has that shorthand. -/
def isBooleanShortFlag (name : String) (fs : List Flag) : Bool :=
  fs.any fun f => f.shorthand = name && f.isBool

/-- The state of the loop of `stripFlags`: `inQuote`, `inFlag` and the words kept. -/
structure StripState where
  inQuote : Bool
  inFlag : Bool
  commands : List String
  deriving DecidableEq, Repr

/-- One word `y` of the loop of `stripFlags`, over the flag set `fs`: the `switch` when not
in a quote, then the end-of-quote test. -/
def stripStep (fs : List Flag) (st : StripState) (y : String) : StripState :=
  let st :=
    if !st.inQuote then
      if hasPrefix y "\"" then { st with inQuote := true }
      else if contains y "=\"" then { st with inQuote := true }
      else if hasPrefix y "--" && !contains y "=" then
        { st with inFlag := !isBooleanFlag (y.drop 2) fs }
      else if hasPrefix y "-" && !contains y "=" && y.utf8ByteSize = 2 &&
          !isBooleanShortFlag (y.drop 1) fs then
        { st with inFlag := true }
      else if st.inFlag then { st with inFlag := false }
      else if y = "" then st
      else if !hasPrefix y "-" then { st with commands := st.commands ++ [y], inFlag := false }
      else st
    else st
  if hasSuffix y "\"" && !hasSuffix y "\\\"" then { st with inQuote := false } else st

/-- `stripFlags(args, c)`, with `fs` the flag set of `c` after `mergePersistentFlags`. -/
def stripFlags (args : List String) (fs : List Flag) : List String :=
  if args.length < 1 then args
  else (args.foldl (stripStep fs) ⟨false, false, []⟩).commands

/-- `argsMinusFirstX(args, x)`: `args` without its first word equal to `x`. -/
def argsMinusFirstX : List String → String → List String
  | [], _ => []
  | y :: ys, x => if x = y then ys else y :: argsMinusFirstX ys x

/-- The loop of `c.findNext(next)` over the subcommands `cmds` left, with the prefix
matches so far (`matches` in the source). -/
def findNextLoop (enablePrefixMatching : Bool) (next : String) :
    List Command → List Command → Option Command
  | [], prefixMatches => if prefixMatches.length = 1 then prefixMatches.head? else none
  | cmd :: cmds, prefixMatches =>
    if cmd.Name = next || cmd.hasAlias next then some cmd
    else findNextLoop enablePrefixMatching next cmds
      (if enablePrefixMatching && cmd.hasNameOrAliasPrefix next then prefixMatches ++ [cmd]
        else prefixMatches)

/-- `c.findNext(next)`. -/
def findNext (enablePrefixMatching : Bool) (c : Command) (next : String) : Option Command :=
  findNextLoop enablePrefixMatching next c.commands []

theorem findNextLoop_mem {e : Bool} {next : String} :
    ∀ {cmds prefixMatches : List Command} {cmd : Command},
      findNextLoop e next cmds prefixMatches = some cmd → cmd ∈ cmds ∨ cmd ∈ prefixMatches
  | [], prefixMatches, cmd, h => by
    simp only [findNextLoop] at h
    split at h
    · exact .inr (List.mem_of_mem_head? h)
    · cases h
  | c :: cmds, prefixMatches, cmd, h => by
    simp only [findNextLoop] at h
    split at h
    · cases h; exact .inl (List.mem_cons_self _ _)
    · rcases findNextLoop_mem h with h' | h'
      · exact .inl (List.mem_cons_of_mem _ h')
      · split at h'
        · rcases List.mem_append.mp h' with h'' | h''
          · exact .inr h''
          · exact .inl (List.mem_singleton.mp h'' ▸ List.mem_cons_self _ _)
        · exact .inr h'

/-- `findNext` returns a subcommand. -/
theorem findNext_mem {e : Bool} {c cmd : Command} {next : String}
    (h : findNext e c next = some cmd) : cmd ∈ c.commands :=
  (findNextLoop_mem h).resolve_right (List.not_mem_nil _)

/-- `innerfind(c, innerArgs)`, where the ancestors of `c` and Go's `flag.CommandLine`
contribute the persistent flags `inherited`. -/
def innerfind (enablePrefixMatching : Bool) (inherited : List Flag) (c : Command)
    (innerArgs : List String) : Command × List String :=
  match stripFlags innerArgs (addFlags c.flags (c.persistentFlags ++ inherited)) with
  | [] => (c, innerArgs)
  | nextSubCmd :: _ =>
    match _hn : findNext enablePrefixMatching c nextSubCmd with
    | some cmd =>
      innerfind enablePrefixMatching (c.persistentFlags ++ inherited) cmd
        (argsMinusFirstX innerArgs nextSubCmd)
    | none => (c, innerArgs)
termination_by sizeOf c
decreasing_by
  have := List.sizeOf_lt_of_mem (findNext_mem _hn)
  cases c
  simp only [Command.mk.sizeOf_spec] at this ⊢
  omega

/-- `c.Find(args)`: the command found and its arguments, over the flags `commandLine` of
Go's `flag.CommandLine`. -/
def Command.find (enablePrefixMatching : Bool) (commandLine : List Flag) (c : Command)
    (args : List String) : Command × List String :=
  innerfind enablePrefixMatching commandLine c args

/-! ## What `stripFlags` keeps -/

/-- What one word `y` of the loop may do to the words kept from `st`: leave them, or add
`y` when it is not empty and does not start with `-`. -/
def KeepsPlain (st : StripState) (y : String) (st' : StripState) : Prop :=
  st'.commands = st.commands ∨
    (st'.commands = st.commands ++ [y] ∧ y ≠ "" ∧ hasPrefix y "-" = false)

/-- The end-of-quote test changes no word kept. -/
theorem keepsPlain_endQuote {st s : StripState} {y : String} {q : Bool} (h : KeepsPlain st y s) :
    KeepsPlain st y (if q then { s with inQuote := false } else s) := by
  cases q <;> exact h

/-- Every word of the loop does what `KeepsPlain` allows: only the last case of the
`switch` keeps a word. -/
theorem stripStep_keepsPlain (fs : List Flag) (st : StripState) (y : String) :
    KeepsPlain st y (stripStep fs st y) := by
  refine keepsPlain_endQuote ?_
  repeat' refine iteInduction (fun _ => ?_) (fun _ => ?_)
  all_goals first
    | exact .inl rfl
    | exact .inr ⟨rfl, ‹_›, by simpa using ‹(!hasPrefix y "-") = true›⟩

/-- The loop from any state keeps a sublist of its words, each not empty and not starting
with `-`. -/
theorem foldl_stripStep_commands (fs : List Flag) :
    ∀ (args : List String) (st : StripState), ∃ kept,
      (args.foldl (stripStep fs) st).commands = st.commands ++ kept ∧ List.Sublist kept args ∧
        ∀ w ∈ kept, w ≠ "" ∧ hasPrefix w "-" = false
  | [], st => ⟨[], by simp, .slnil, by simp⟩
  | y :: ys, st => by
    obtain ⟨kept, hk, hsub, hw⟩ := foldl_stripStep_commands fs ys (stripStep fs st y)
    rw [List.foldl_cons, hk]
    rcases stripStep_keepsPlain fs st y with h | ⟨h, hy, hp⟩
    · exact ⟨kept, by rw [h], hsub.cons y, hw⟩
    · refine ⟨y :: kept, by rw [h]; simp, hsub.cons₂ y, ?_⟩
      simpa [hy, hp] using hw

/-- **What `stripFlags` keeps.**  For every argument list and flag set, the words
`stripFlags` returns are a sublist of the arguments, each of them not empty and not
starting with `-`. -/
theorem stripFlags_kept (args : List String) (fs : List Flag) :
    List.Sublist (stripFlags args fs) args ∧
      ∀ w ∈ stripFlags args fs, w ≠ "" ∧ hasPrefix w "-" = false := by
  unfold stripFlags
  split
  · rename_i h
    rw [List.length_eq_zero.mp (by omega : args.length = 0)]
    simp
  · obtain ⟨kept, hk, hsub, hw⟩ := foldl_stripStep_commands fs args ⟨false, false, []⟩
    rw [hk]
    exact ⟨by simpa using hsub, by simpa using hw⟩

/-! ## What `Find` does -/

/-- `argsMinusFirstX` is `List.erase`: the first occurrence goes. -/
theorem argsMinusFirstX_eq_erase :
    ∀ (args : List String) (x : String), argsMinusFirstX args x = args.erase x
  | [], _ => rfl
  | y :: ys, x => by
    rw [argsMinusFirstX, List.erase_cons, argsMinusFirstX_eq_erase ys x]
    by_cases h : x = y
    · simp [h]
    · simp [h, Ne.symm h]

section innerfind

variable {e : Bool} {inh : List Flag} {c cmd : Command} {args rest : List String} {next : String}

/-- No word left once flags are stripped: the command is found. -/
theorem innerfind_of_nil (hs : stripFlags args (addFlags c.flags (c.persistentFlags ++ inh)) = []) :
    innerfind e inh c args = (c, args) := by
  rw [innerfind, hs]

/-- The first word left names a subcommand: the search goes on there, without that word. -/
theorem innerfind_of_findNext
    (hs : stripFlags args (addFlags c.flags (c.persistentFlags ++ inh)) = next :: rest)
    (hn : findNext e c next = some cmd) :
    innerfind e inh c args = innerfind e (c.persistentFlags ++ inh) cmd (argsMinusFirstX args next) := by
  rw [innerfind]
  simp only [hs]
  split <;> simp_all

/-- The first word left names no subcommand: the command is found. -/
theorem innerfind_of_findNext_none
    (hs : stripFlags args (addFlags c.flags (c.persistentFlags ++ inh)) = next :: rest)
    (hn : findNext e c next = none) : innerfind e inh c args = (c, args) := by
  rw [innerfind]
  simp only [hs]
  split <;> simp_all

end innerfind

/-- **`Find` only removes words.**  For every command tree and argument list, the
arguments `Find` returns are a sublist of the input: no word is added, duplicated or
moved past another. -/
theorem find_args_sublist (e : Bool) (commandLine : List Flag) (c : Command)
    (args : List String) : List.Sublist (c.find e commandLine args).2 args := by
  unfold Command.find
  induction commandLine, c, args using innerfind.induct e with
  | case1 inh c args hs => rw [innerfind_of_nil hs]
  | case2 inh c args next rest hs cmd hn ih =>
    rw [innerfind_of_findNext hs hn]
    exact ih.trans (argsMinusFirstX_eq_erase args next ▸ List.erase_sublist _ _)
  | case3 inh c args next rest hs hn => rw [innerfind_of_findNext_none hs hn]

/-- **`Find` only descends.**  For every command tree and argument list, the command
`Find` returns is the root or a command below it. -/
theorem find_reaches (e : Bool) (commandLine : List Flag) (c : Command) (args : List String) :
    c.Reaches (c.find e commandLine args).1 := by
  unfold Command.find
  induction commandLine, c, args using innerfind.induct e with
  | case1 inh c args hs => rw [innerfind_of_nil hs]; exact .refl c
  | case2 inh c args next rest hs cmd hn ih =>
    rw [innerfind_of_findNext hs hn]
    exact .child (findNext_mem hn) ih
  | case3 inh c args next rest hs hn => rw [innerfind_of_findNext_none hs hn]; exact .refl c

/-- The subcommand `run`. -/
def runCmd : Command := ⟨"run", "run", [], [], [], []⟩

/-- A root command with a flag `--name` that takes a value, a boolean flag `--verbose`, and
the subcommand `run`. -/
def dockerCmd : Command :=
  ⟨"docker", "docker", [], [⟨"name", "", false⟩, ⟨"verbose", "", true⟩], [], [runCmd]⟩

/-- `docker --name run --verbose run`: `stripFlags` takes the first `run` for the value of
`--name` and keeps the second, the fourth word, as the subcommand; `Find` finds `run` but
removes the first `run`, the flag's value, and returns `--name --verbose run` instead of
`--name run --verbose`. -/
theorem find_removes_flag_value :
    stripFlags (["--name", "run", "--verbose", "run"].take 3) dockerCmd.flags = [] ∧
    stripFlags ["--name", "run", "--verbose", "run"] dockerCmd.flags = ["run"] ∧
    (dockerCmd.find false [] ["--name", "run", "--verbose", "run"]).1.Name = "run" ∧
    (dockerCmd.find false [] ["--name", "run", "--verbose", "run"]).2 = ["--name", "--verbose", "run"] ∧
    ["--name", "run", "--verbose", "run"].eraseIdx 3 = ["--name", "run", "--verbose"] := by
  have hfind : dockerCmd.find false [] ["--name", "run", "--verbose", "run"] =
      (runCmd, ["--name", "--verbose", "run"]) := by
    rw [Command.find, innerfind_of_findNext
      (show stripFlags ["--name", "run", "--verbose", "run"]
        (addFlags dockerCmd.flags (dockerCmd.persistentFlags ++ [])) = ["run"] by decide)
      (show findNext false dockerCmd "run" = some runCmd from rfl), innerfind_of_nil (by decide)]
    rfl
  rw [hfind]
  decide

end Cobra

end ContainerLifecycle
