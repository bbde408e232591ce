import ContainerLifecycle.CommandFind

/-! # Traversing the command tree

`Command.Traverse` is the other way of the vendored cobra to find the command an argument
list names, taken by `ExecuteC` when `TraverseChildren` is set.  It scans the arguments
once: a word that starts a flag, a flag's value, or a word `isFlagArg` takes for a flag is
collected into `flags`; the first other word ends the scan.  If a subcommand has that word
as name or alias (`findNext`), `c.ParseFlags(flags)` parses the collected flags on `c` and
the traversal goes on below with the words after that one; otherwise `c` is the command and
the arguments are returned unchanged.

So, unlike `Find`, `Traverse` returns a suffix of its arguments (`traverse_descends`): the
words before the last subcommand word were either flags parsed at some command or
subcommand words.  On plain words both find the same command and arguments
(`traverse_eq_find`).  `isFlagArg` tests the second **byte** for `-` whatever the first
is, so a word such as `x-ray` counts as a flag, and `Traverse` never takes it as a
subcommand name; the plain words exclude it.

`c.Flags()` is the flag set of `c` as `Traverse` finds it: its local flags, and the
persistent ones only if `mergePersistentFlags` ran on `c` before, which `Traverse` itself
does only after the scan (`flagsOf`).  `c.ParseFlags` is pflag's `Parse`, absent from src,
given by its error (`parseFlags`).  The debug prints are left out.
-/
namespace ContainerLifecycle
namespace Cobra

/-- The bytes of a Go string: the UTF-8 encoding of its characters, as `s.toUTF8`. -/
def goBytes (s : String) : List UInt8 := s.data.flatMap String.utf8EncodeChar

/-- `isFlagArg(arg)`: at least three bytes with `-` second, or at least two bytes with
`-` first and not second. -/
def isFlagArg (arg : String) : Bool :=
  let b := goBytes arg
  (decide (b.length ≥ 3) && b.get? 1 = some 45) ||
    (decide (b.length ≥ 2) && b.get? 0 = some 45 && b.get? 1 != some 45)

/-- The `switch` of `Traverse` on one word `arg`, over the flag set `fs` of `c.Flags()`:
`some inFlag'` when the word is collected into `flags`, with the new `inFlag`; `none` when
it is the word to look up as a subcommand. -/
def traverseFlagStep (fs : List Flag) (inFlag : Bool) (arg : String) : Option Bool :=
  if hasPrefix arg "--" && !contains arg "=" then some !isBooleanFlag (arg.drop 2) fs
  else if hasPrefix arg "-" && !contains arg "=" && arg.utf8ByteSize = 2 &&
      !isBooleanShortFlag (arg.drop 1) fs then some true
  else if inFlag then some false
  else if isFlagArg arg then some inFlag
  else none

/-- The scan of `Traverse` over the words left, with the flags collected so far:
`some (flags, arg, rest)` for the first word the `switch` does not collect, `none` when
every word is collected. -/
def traverseScan (fs : List Flag) : List String → Bool → List String →
    Option (List String × String × List String)
  | _, _, [] => none
  | flags, inFlag, arg :: rest =>
    match traverseFlagStep fs inFlag arg with
    | some inFlag' => traverseScan fs (flags ++ [arg]) inFlag' rest
    | none => some (flags, arg, rest)

/-- `c.Traverse(args)`, where `flagsOf c` is what `c.Flags()` holds when `Traverse` reads
it and `parseFlags c flags` is the error of `c.ParseFlags(flags)`: the command found, or
`none` for Go's `nil`, the arguments, and the error. -/
def Command.traverse (enablePrefixMatching : Bool) (flagsOf : Command → List Flag)
    (parseFlags : Command → List String → Option String) (c : Command) (args : List String) :
    Option Command × List String × Option String :=
  match traverseScan (flagsOf c) [] false args with
  | none => (some c, args, none)
  | some (flags, arg, rest) =>
    match _hn : findNext enablePrefixMatching c arg with
    | none => (some c, args, none)
    | some cmd =>
      match parseFlags c flags with
      | some err => (none, args, some err)
      | none => cmd.traverse enablePrefixMatching flagsOf parseFlags rest
termination_by sizeOf c
decreasing_by
  have := List.sizeOf_lt_of_mem (findNext_mem _hn)
  cases c
  simp only [Command.mk.sizeOf_spec] at this ⊢
  omega

/-! ## The scan -/

/-- The scan splits the words at the first one it does not collect: the collected words
are the ones before it. -/
theorem traverseScan_eq_some {fs : List Flag} :
    ∀ {flags : List String} {inFlag : Bool} {args : List String} {fl : List String}
      {arg : String} {rest : List String},
      traverseScan fs flags inFlag args = some (fl, arg, rest) →
        ∃ pre, fl = flags ++ pre ∧ args = pre ++ arg :: rest
  | _, _, [], _, _, _, h => by cases h
  | flags, inFlag, y :: ys, fl, arg, rest, h => by
    simp only [traverseScan] at h
    split at h
    · obtain ⟨pre, rfl, rfl⟩ := traverseScan_eq_some h
      exact ⟨y :: pre, by simp, rfl⟩
    · cases h
      exact ⟨[], by simp, rfl⟩

/-! ## Plain words -/

/-- A word that neither `stripFlags` nor `Traverse` takes for a flag, a flag's value or a
quote: not empty, not starting with `-` or `"`, with no `="` in it, and not a flag for
`isFlagArg`. -/
def PlainWord (w : String) : Prop :=
  w ≠ "" ∧ hasPrefix w "-" = false ∧ hasPrefix w "\"" = false ∧ contains w "=\"" = false ∧
    isFlagArg w = false

instance (w : String) : Decidable (PlainWord w) := inferInstanceAs (Decidable (_ ∧ _))

theorem hasPrefix_dashdash {s : String} (h : hasPrefix s "-" = false) :
    hasPrefix s "--" = false := by
  change ['-'].isPrefixOf s.data = false at h
  change ['-', '-'].isPrefixOf s.data = false
  obtain ⟨_ | ⟨c, d⟩⟩ := s
  · rfl
  · simp only [List.isPrefixOf, Bool.and_true] at h ⊢
    simp [h]

/-- `stripFlags` keeps a plain word, outside a quote and a flag. -/
theorem stripStep_plain (fs : List Flag) (cmds : List String) {y : String} (hy : PlainWord y) :
    stripStep fs ⟨false, false, cmds⟩ y = ⟨false, false, cmds ++ [y]⟩ := by
  obtain ⟨h0, h1, h2, h3, -⟩ := hy
  simp only [stripStep, Bool.not_false, h2, h3, hasPrefix_dashdash h1, h1, Bool.false_and,
    Bool.false_eq_true, if_false, if_true, if_neg h0]
  split <;> rfl

/-- `stripFlags` keeps every word of a list of plain words. -/
theorem stripFlags_plain (fs : List Flag) {args : List String} (h : ∀ w ∈ args, PlainWord w) :
    stripFlags args fs = args := by
  have loop : ∀ (ws cmds : List String), (∀ w ∈ ws, PlainWord w) →
      (ws.foldl (stripStep fs) ⟨false, false, cmds⟩).commands = cmds ++ ws := by
    intro ws
    induction ws with
    | nil => simp
    | cons w ws ih =>
      intro cmds hw
      rw [List.foldl_cons, stripStep_plain fs cmds (hw w (List.mem_cons_self _ _)),
        ih _ fun v hv => hw v (List.mem_cons_of_mem _ hv), List.append_assoc]
      rfl
  unfold stripFlags
  split
  · rfl
  · exact loop args [] h

/-- The scan of `Traverse` stops at a plain word outside a flag. -/
theorem traverseScan_plain (fs : List Flag) (flags rest : List String) {w : String}
    (hw : PlainWord w) : traverseScan fs flags false (w :: rest) = some (flags, w, rest) := by
  obtain ⟨-, h1, -, -, h4⟩ := hw
  simp only [traverseScan, traverseFlagStep, hasPrefix_dashdash h1, h1, h4, Bool.false_and,
    Bool.false_eq_true, if_false]

section traverse

variable {e : Bool} {flagsOf : Command → List Flag}
  {parseFlags : Command → List String → Option String}
  {c cmd : Command} {args rest flags : List String} {arg : String}

theorem traverse_of_scan_none (hs : traverseScan (flagsOf c) [] false args = none) :
    c.traverse e flagsOf parseFlags args = (some c, args, none) := by
  rw [Command.traverse, hs]

theorem traverse_of_findNext_none
    (hs : traverseScan (flagsOf c) [] false args = some (flags, arg, rest))
    (hn : findNext e c arg = none) :
    c.traverse e flagsOf parseFlags args = (some c, args, none) := by
  rw [Command.traverse]
  simp only [hs]
  split <;> simp_all

theorem traverse_of_parse_error
    (hs : traverseScan (flagsOf c) [] false args = some (flags, arg, rest))
    (hn : findNext e c arg = some cmd) {err : String} (hp : parseFlags c flags = some err) :
    c.traverse e flagsOf parseFlags args = (none, args, some err) := by
  rw [Command.traverse]
  simp only [hs]
  split <;> simp_all

theorem traverse_of_descend (hs : traverseScan (flagsOf c) [] false args = some (flags, arg, rest))
    (hn : findNext e c arg = some cmd) (hp : parseFlags c flags = none) :
    c.traverse e flagsOf parseFlags args = cmd.traverse e flagsOf parseFlags rest := by
  rw [Command.traverse]
  simp only [hs]
  split <;> simp_all

/-- **`Traverse` only descends, and returns a suffix of its arguments.**  For every
command tree, flag sets, flag parser and argument list, the command `Traverse` returns, if
any, is the root or a command below it, and the arguments it returns are the input without
its first `k` words for some `k`: every word it drops comes before every word it keeps. -/
theorem traverse_descends (e : Bool) (flagsOf : Command → List Flag)
    (parseFlags : Command → List String → Option String) (c : Command) (args : List String) :
    (∀ cmd, (c.traverse e flagsOf parseFlags args).1 = some cmd → c.Reaches cmd) ∧
      ∃ k, (c.traverse e flagsOf parseFlags args).2.1 = args.drop k := by
  induction c, args using Command.traverse.induct e flagsOf parseFlags with
  | case1 c args hs =>
    rw [traverse_of_scan_none hs]
    exact ⟨fun _ h => Option.some.inj h ▸ .refl c, 0, rfl⟩
  | case2 c args flags arg rest hs hn =>
    rw [traverse_of_findNext_none hs hn]
    exact ⟨fun _ h => Option.some.inj h ▸ .refl c, 0, rfl⟩
  | case3 c args flags arg rest hs cmd hn err hp =>
    rw [traverse_of_parse_error hs hn hp]
    exact ⟨fun _ h => (by cases h), 0, rfl⟩
  | case4 c args flags arg rest hs cmd hn hp ih =>
    obtain ⟨hr, k, hk⟩ := ih
    obtain ⟨pre, -, rfl⟩ := traverseScan_eq_some hs
    rw [traverse_of_descend hs hn hp]
    refine ⟨fun d hd => .child (findNext_mem hn) (hr d hd), (pre ++ [arg]).length + k, ?_⟩
    rw [hk, ← List.drop_drop, List.append_cons pre arg rest, List.drop_left]

/-- **On plain words `Traverse` finds what `Find` finds.**  For every command tree and
every argument list of plain words, when parsing no flags never fails, `Traverse` returns
the command and the arguments `Find` returns, and no error. -/
theorem traverse_eq_find (e : Bool) (flagsOf : Command → List Flag)
    (parseFlags : Command → List String → Option String) (hparse : ∀ c, parseFlags c [] = none)
    (commandLine : List Flag) (c : Command) (args : List String) (hargs : ∀ w ∈ args, PlainWord w) :
    c.traverse e flagsOf parseFlags args =
      (some (c.find e commandLine args).1, (c.find e commandLine args).2, none) := by
  unfold Command.find
  induction commandLine, c, args using innerfind.induct e with
  | case1 inh c args hs =>
    rw [innerfind_of_nil hs]
    rw [stripFlags_plain _ hargs] at hs
    subst hs
    exact traverse_of_scan_none rfl
  | case2 inh c args next rest hs cmd hn ih =>
    rw [innerfind_of_findNext hs hn]
    rw [stripFlags_plain _ hargs] at hs
    subst hs
    have hm : argsMinusFirstX (next :: rest) next = rest := by simp [argsMinusFirstX]
    rw [hm] at ih ⊢
    rw [traverse_of_descend (traverseScan_plain _ [] rest (hargs next (List.mem_cons_self _ _)))
      hn (hparse c), ih fun w hw => hargs w (List.mem_cons_of_mem _ hw)]
  | case3 inh c args next rest hs hn =>
    rw [innerfind_of_findNext_none hs hn]
    rw [stripFlags_plain _ hargs] at hs
    subst hs
    exact traverse_of_findNext_none
      (traverseScan_plain _ [] rest (hargs next (List.mem_cons_self _ _))) hn

theorem traverse_eq_find_run :
    (∀ c, (fun (_ : Command) (_ : List String) => (none : Option String)) c [] = none) ∧
      (∀ w ∈ ["run", "x"], PlainWord w) ∧
      dockerCmd.traverse false (·.flags) (fun _ _ => none) ["run", "x"] =
        (some (dockerCmd.find false [] ["run", "x"]).1, (dockerCmd.find false [] ["run", "x"]).2,
          none) :=
  ⟨fun _ => rfl, by decide,
    traverse_eq_find false (·.flags) (fun _ _ => none) (fun _ => rfl) [] dockerCmd ["run", "x"]
      (by decide)⟩

end traverse

end Cobra
end ContainerLifecycle
