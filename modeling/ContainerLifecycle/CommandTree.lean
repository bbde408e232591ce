import Mathlib.Data.Fintype.Card
import Mathlib.Data.String.Basic

/-! # The command tree as objects on a heap

`Command.Find` reads a command tree as a value.  The vendored cobra builds that tree out of
`*Command` objects that point at each other: `c.commands` lists a command's children and
`x.parent` points back up.  `AddCommand`, `RemoveCommand`, `ResetCommands`, `Commands()` and
`initHelpCmd` mutate those pointers, and the loops of `CommandPath()` (and of `Root()` and
`VisitParents()`) follow `parent` until a command without one.

Here the objects are on a **heap**: a command is a handle `Nat`, and `Heap.obj` gives the
fields of the object at a handle that these functions read and write.  A new object
(`&Command{Use: ...}`) can only set exported fields, so `Heap.new` gives it a `Use` and
leaves the rest at their zero values.  Nothing in `src` stops the parent pointers from
forming a cycle; `CommandPath()` then loops for ever.  Its loop is run on fuel, the number of
objects plus one, and `commandPath_isSome_iff` shows that the fuel runs out exactly when
the chain of parents never ends (`ReachesRoot`), so `none` stands for the loop that does not
return.  A call ends in an `Outcome`: it returns the heap, panics, or does not return.

**The invariant** (`Inv`) holds of every heap built by calls that returned (`Reachable`):
the handles stored are in range, every chain of parents ends, and each command's max
lengths bound its children's `Use` and `Name()` lengths.  From it:

* `CommandPath()` returns on every command (`commandPath_returns`);
* `AddCommand(cmds...)` returns exactly when no command of `cmds` is `c` or above it; the
  first one that is makes it panic, if it is `c`, or never return (`addCommand_outcome`);
* `RemoveCommand` always returns, and recomputes the max lengths over the children kept
  (`removeCommand_spec`);
* a command's `UsagePadding()` and `NamePadding()` are at least the length of every
  sibling's `Use` and `Name()`, so the usage template's columns line up
  (`padding_bounds_siblings`);
* `initHelpCmd` appends the help command each time it runs, also when it is a child
  already, so a second `Execute` lists `help` twice (`initHelpCmd_appends`).

`CommandPathPadding()` has no such bound: `RemoveCommand` recomputes the path lengths, but
re-parenting a command lengthens its children's paths and leaves its max unchanged.
`SetGlobalNormalizationFunc`, the flag sets and the other fields are left out.
`EnableCommandSorting` is package state absent from `src`, and `sort.Sort` is given by its
result: any permutation of the children ordered by `Name()`.
-/

namespace ContainerLifecycle

namespace Cobra

/-- The fields of a `*Command` object that the tree operations read and write. -/
structure CommandObj where
  name : String
  use : String
  commands : List Nat
  parent : Option Nat
  commandsMaxUseLen : Nat
  commandsMaxCommandPathLen : Nat
  commandsMaxNameLen : Nat
  commandsAreSorted : Bool
  helpCommand : Option Nat
  deriving DecidableEq, Repr, Inhabited

namespace CommandObj

/-- `c.Name()`: the `name` field, or `Use` up to its first space. -/
def Name (o : CommandObj) : String :=
  if o.name ≠ "" then o.name else String.mk (o.use.data.takeWhile (· ≠ ' '))

/-- The fields `CommandPath()` and the paddings read of a child: an object that keeps them
is the same command to them. -/
def SameLinks (o o' : CommandObj) : Prop :=
  o'.name = o.name ∧ o'.use = o.use ∧ o'.parent = o.parent

theorem SameLinks.name_eq {o o' : CommandObj} (h : o.SameLinks o') : o'.Name = o.Name := by
  simp only [Name, h.1, h.2.1]

end CommandObj

/-- `if n > m { m = n }`, how each max length is updated. -/
def raise (m n : Nat) : Nat := if n > m then n else m

@[simp] theorem raise_eq_max (m n : Nat) : raise m n = max m n := by
  unfold raise; split <;> omega

/-- The block "update max lengths" of `AddCommand`, repeated in `RemoveCommand`, for a
child with the given `Use`, `Name()` and `CommandPath()`. -/
def CommandObj.updateMaxLengths (o : CommandObj) (use name path : String) : CommandObj :=
  { o with
    commandsMaxUseLen := raise o.commandsMaxUseLen use.utf8ByteSize
    commandsMaxCommandPathLen := raise o.commandsMaxCommandPathLen path.utf8ByteSize
    commandsMaxNameLen := raise o.commandsMaxNameLen name.utf8ByteSize }

/-- `o`'s max lengths bound the `Use` and `Name()` lengths of `child`. -/
def CommandObj.Bounds (o child : CommandObj) : Prop :=
  child.use.utf8ByteSize ≤ o.commandsMaxUseLen ∧ child.Name.utf8ByteSize ≤ o.commandsMaxNameLen

@[simp] theorem CommandObj.default_commands : (default : CommandObj).commands = [] := rfl

@[simp] theorem CommandObj.default_parent : (default : CommandObj).parent = none := rfl

@[simp] theorem CommandObj.default_helpCommand : (default : CommandObj).helpCommand = none := rfl

theorem CommandObj.Bounds.of_sameLinks {o child child' : CommandObj} (h : o.Bounds child)
    (hl : child.SameLinks child') : o.Bounds child' := by
  rw [Bounds, hl.name_eq, hl.2.1]; exact h

theorem CommandObj.foldl_updateMaxLengths (u n p : Nat → String) :
    ∀ (l : List Nat) (o : CommandObj),
    l.foldl (fun o y => o.updateMaxLengths (u y) (n y) (p y)) o =
      { o with
        commandsMaxUseLen := l.foldl (fun m y => max m (u y).utf8ByteSize) o.commandsMaxUseLen
        commandsMaxCommandPathLen :=
          l.foldl (fun m y => max m (p y).utf8ByteSize) o.commandsMaxCommandPathLen
        commandsMaxNameLen := l.foldl (fun m y => max m (n y).utf8ByteSize) o.commandsMaxNameLen }
  | [], _ => rfl
  | y :: l, o => by
    rw [List.foldl_cons, foldl_updateMaxLengths u n p l]
    simp [updateMaxLengths]

theorem foldl_max_spec (g : Nat → Nat) : ∀ (l : List Nat) (m : Nat),
    m ≤ l.foldl (fun m y => max m (g y)) m ∧ ∀ y ∈ l, g y ≤ l.foldl (fun m y => max m (g y)) m
  | [], _ => by simp
  | y :: l, m => by
    obtain ⟨hm, hl⟩ := foldl_max_spec g l (max m (g y))
    refine ⟨le_trans (le_max_left _ _) hm, fun z hz => ?_⟩
    rcases List.mem_cons.mp hz with rfl | hz
    · exact le_trans (le_max_right _ _) hm
    · exact hl z hz

/-- The command objects: `size` of them have been allocated, at handles `0` to `size - 1`. -/
structure Heap where
  size : Nat
  obj : Nat → CommandObj

namespace Heap

/-- No object yet. -/
def empty : Heap := ⟨0, fun _ => default⟩

/-- `&Command{Use: use}`: a new object at the next handle, returned with it. -/
def new (hp : Heap) (use : String) : Heap × Nat :=
  (⟨hp.size + 1, Function.update hp.obj hp.size { (default : CommandObj) with use := use }⟩,
    hp.size)

/-- Write the object at `x`. -/
def set (hp : Heap) (x : Nat) (o : CommandObj) : Heap :=
  { hp with obj := Function.update hp.obj x o }

/-- `x.parent = p`. -/
def setParent (hp : Heap) (x : Nat) (p : Option Nat) : Heap :=
  hp.set x { hp.obj x with parent := p }

@[simp] theorem set_size (hp : Heap) (x : Nat) (o : CommandObj) : (hp.set x o).size = hp.size :=
  rfl

@[simp] theorem set_obj (hp : Heap) (x : Nat) (o : CommandObj) (y : Nat) :
    (hp.set x o).obj y = if y = x then o else hp.obj y :=
  Function.update_apply ..

/-! ## Chains of parents -/

/-- The `k`-th object up from `x`: `x` itself, its parent, and so on; `none` past a command
without a parent. -/
def ancestor (hp : Heap) (x : Nat) : Nat → Option Nat
  | 0 => some x
  | k + 1 => (hp.ancestor x k).bind fun y => (hp.obj y).parent

/-- `x`'s chain of parents ends: following `parent` from `x` reaches a command without one.
This is when the loops of `CommandPath()`, `Root()` and `VisitParents()` return. -/
inductive ReachesRoot (hp : Heap) : Nat → Prop
  | root {x : Nat} : (hp.obj x).parent = none → hp.ReachesRoot x
  | up {x p : Nat} : (hp.obj x).parent = some p → hp.ReachesRoot p → hp.ReachesRoot x

/-- `a` is `x` or above it: following `parent` from `x` meets `a`. -/
inductive Above (hp : Heap) (a : Nat) : Nat → Prop
  | self : hp.Above a a
  | up {x p : Nat} : (hp.obj x).parent = some p → hp.Above a p → hp.Above a x

/-- Every parent pointer is a handle in range. -/
def ParentsInRange (hp : Heap) : Prop := ∀ x p, (hp.obj x).parent = some p → p < hp.size

theorem ancestor_succ' (hp : Heap) (x k : Nat) :
    hp.ancestor x (k + 1) = (hp.obj x).parent.bind fun p => hp.ancestor p k := by
  induction k generalizing x with
  | zero => simp [ancestor]
  | succ k ih =>
    rw [ancestor, ih]
    cases (hp.obj x).parent <;> simp [ancestor]

theorem ancestor_add (hp : Heap) (x i t : Nat) :
    hp.ancestor x (i + t) = (hp.ancestor x i).bind fun y => hp.ancestor y t := by
  induction t with
  | zero => rw [Nat.add_zero]; cases hp.ancestor x i <;> rfl
  | succ t ih => rw [← Nat.add_assoc, ancestor, ih, Option.bind_assoc]; rfl

theorem reachesRoot_of_ancestor_none {hp : Heap} :
    ∀ {k x : Nat}, hp.ancestor x k = none → hp.ReachesRoot x
  | 0, _, h => nomatch h
  | k + 1, x, h => by
    rw [ancestor_succ'] at h
    cases hx : (hp.obj x).parent with
    | none => exact .root hx
    | some p => exact .up hx (reachesRoot_of_ancestor_none (by simpa [hx] using h))

/-- Every object above a command whose chain ends has a chain that ends. -/
theorem ReachesRoot.of_ancestor {hp : Heap} {x : Nat} (h : hp.ReachesRoot x) :
    ∀ {k y : Nat}, hp.ancestor x k = some y → hp.ReachesRoot y
  | 0, _, hy => by cases hy; exact h
  | k + 1, y, hy => by
    obtain ⟨z, hz, hzy⟩ := Option.bind_eq_some.mp hy
    cases h.of_ancestor hz with
    | root hz' => simp [hz'] at hzy
    | up hz' hp' => exact (Option.some.inj (hz'.symm.trans hzy)) ▸ hp'

/-- A command whose chain ends is not above itself. -/
theorem ReachesRoot.ancestor_ne_self {hp : Heap} {y : Nat} (h : hp.ReachesRoot y) (n : Nat) :
    hp.ancestor y (n + 1) ≠ some y := by
  induction h generalizing n with
  | root hy => simp [ancestor_succ', hy]
  | @up x p hx _ ih =>
    intro hxn
    rw [ancestor_succ', hx, Option.some_bind] at hxn
    exact ih n (by rw [Heap.ancestor, hxn, Option.some_bind, hx])

theorem ancestor_eq_none_of_le {hp : Heap} {x i j : Nat} (h : hp.ancestor x i = none)
    (hij : i ≤ j) : hp.ancestor x j = none := by
  rw [show j = i + (j - i) by omega, ancestor_add, h, Option.none_bind]

/-- The objects on a chain that ends are pairwise distinct. -/
theorem ReachesRoot.ancestor_inj {hp : Heap} {x : Nat} (h : hp.ReachesRoot x) {i j y : Nat}
    (hi : hp.ancestor x i = some y) (hj : hp.ancestor x j = some y) : i = j := by
  have repeat_lt : ∀ {i j}, hp.ancestor x i = some y → hp.ancestor x j = some y → ¬i < j := by
    intro i j hi hj hij
    have hy := ancestor_add hp x i (j - i - 1 + 1)
    rw [show i + (j - i - 1 + 1) = j by omega, hj, hi, Option.some_bind] at hy
    exact (h.of_ancestor hi).ancestor_ne_self _ hy.symm
  have := @repeat_lt i j hi hj
  have := @repeat_lt j i hj hi
  omega

/-- **The fuel suffices.**  A chain of parents that ends has at most `size` links past its
first object: those objects are in range and pairwise distinct. -/
theorem ancestor_size_eq_none {hp : Heap} (hr : hp.ParentsInRange) {x : Nat}
    (h : hp.ReachesRoot x) : hp.ancestor x (hp.size + 1) = none := by
  by_contra hne
  have hsome : ∀ t : Fin (hp.size + 1), ∃ y, hp.ancestor x (t + 1) = some y ∧ y < hp.size := by
    intro t
    obtain ⟨y, hy⟩ := Option.ne_none_iff_exists'.mp fun hn =>
      hne (ancestor_eq_none_of_le hn (Nat.succ_le_succ (Nat.le_of_lt_succ t.isLt)))
    obtain ⟨z, -, hzy⟩ := Option.bind_eq_some.mp hy
    exact ⟨y, hy, hr z y hzy⟩
  choose f hf hlt using hsome
  obtain ⟨i, j, hij, heq⟩ := Fintype.exists_ne_map_eq_of_card_lt
    (fun t => (⟨f t, hlt t⟩ : Fin hp.size)) (by simp)
  have hfij : f i = f j := congrArg Fin.val heq
  exact hij (Fin.ext (Nat.succ.inj (h.ancestor_inj (hf i) ((hf j).trans (by rw [hfij])))))

/-! ## `CommandPath()` -/

/-- The loop of `c.CommandPath()`: while `x` has a parent, put the parent's name in front and
move up; `none` once the fuel runs out. -/
def commandPathLoop (hp : Heap) : Nat → Nat → String → Option String
  | 0, _, _ => none
  | fuel + 1, x, str =>
    match (hp.obj x).parent with
    | none => some str
    | some p => hp.commandPathLoop fuel p ((hp.obj p).Name ++ " " ++ str)

/-- `c.CommandPath()`, on as much fuel as there are objects, plus one. -/
def commandPath (hp : Heap) (c : Nat) : Option String :=
  hp.commandPathLoop (hp.size + 1) c (hp.obj c).Name

theorem commandPathLoop_isSome_iff (hp : Heap) :
    ∀ fuel x str, (hp.commandPathLoop fuel x str).isSome ↔ hp.ancestor x fuel = none
  | 0, _, _ => by simp [commandPathLoop, ancestor]
  | fuel + 1, x, str => by
    rw [ancestor_succ']
    cases hx : (hp.obj x).parent with
    | none => simp [commandPathLoop, hx]
    | some p => simp [commandPathLoop, hx, commandPathLoop_isSome_iff hp fuel p]

/-- **`CommandPath()` returns exactly when the chain of parents ends**: the fuel runs out only
on a chain that goes on for ever, where the loop of the source does not return. -/
theorem commandPath_isSome_iff {hp : Heap} (hr : hp.ParentsInRange) {x : Nat} :
    (hp.commandPath x).isSome ↔ hp.ReachesRoot x :=
  (commandPathLoop_isSome_iff ..).trans ⟨reachesRoot_of_ancestor_none, ancestor_size_eq_none hr⟩

/-! ## What an edit changes of the chains -/

/-- `hp'` has the objects of `hp`, as far as `CommandPath()` and a parent's max lengths see
them. -/
def SameLinks (hp hp' : Heap) : Prop := hp'.size = hp.size ∧ ∀ z, (hp.obj z).SameLinks (hp'.obj z)

theorem SameLinks.reachesRoot {hp hp' : Heap} (h : hp.SameLinks hp') {x : Nat}
    (hx : hp.ReachesRoot x) : hp'.ReachesRoot x := by
  induction hx with
  | root hx => exact .root (((h.2 _).2.2).trans hx)
  | up hx _ ih => exact .up (((h.2 _).2.2).trans hx) ih

theorem SameLinks.above {hp hp' : Heap} (h : hp.SameLinks hp') {a x : Nat} :
    hp'.Above a x ↔ hp.Above a x := by
  constructor <;> intro hx <;> induction hx with
  | self => exact .self
  | up hx _ ih => first
    | exact .up (((h.2 _).2.2).symm.trans hx) ih
    | exact .up (((h.2 _).2.2).trans hx) ih

theorem SameLinks.commandPath_eq {hp hp' : Heap} (h : hp.SameLinks hp') (x : Nat) :
    hp'.commandPath x = hp.commandPath x := by
  have loop : ∀ fuel x str, hp'.commandPathLoop fuel x str = hp.commandPathLoop fuel x str := by
    intro fuel
    induction fuel with
    | zero => intro _ _; rfl
    | succ fuel ih =>
      intro x str
      simp only [commandPathLoop, (h.2 x).2.2]
      cases (hp.obj x).parent <;> simp only [ih, (h.2 _).name_eq]
  simp only [Heap.commandPath, loop, h.1, (h.2 x).name_eq]

theorem SameLinks.obj_use {hp hp' : Heap} (h : hp.SameLinks hp') (z : Nat) :
    (hp'.obj z).use = (hp.obj z).use := (h.2 z).2.1

theorem SameLinks.obj_Name {hp hp' : Heap} (h : hp.SameLinks hp') (z : Nat) :
    (hp'.obj z).Name = (hp.obj z).Name := (h.2 z).name_eq

theorem sameLinks_set {hp : Heap} {c : Nat} {o : CommandObj} (h : (hp.obj c).SameLinks o) :
    hp.SameLinks (hp.set c o) :=
  ⟨rfl, fun z => by
    by_cases hz : z = c
    · subst hz; simpa using h
    · simp [hz, CommandObj.SameLinks]⟩

@[simp] theorem setParent_size (hp : Heap) (x : Nat) (p : Option Nat) :
    (hp.setParent x p).size = hp.size := rfl

@[simp] theorem setParent_obj (hp : Heap) (x : Nat) (p : Option Nat) (y : Nat) :
    (hp.setParent x p).obj y = if y = x then { hp.obj x with parent := p } else hp.obj y := by
  simp [setParent]

theorem setParent_parent (hp : Heap) (x : Nat) (p : Option Nat) (y : Nat) :
    ((hp.setParent x p).obj y).parent = if y = x then p else (hp.obj y).parent := by
  by_cases hy : y = x <;> simp [hy]

/-- Cutting a parent pointer ends every chain that ended. -/
theorem ReachesRoot.setParent_none {hp : Heap} {y : Nat} (h : hp.ReachesRoot y) (x : Nat) :
    (hp.setParent x none).ReachesRoot y := by
  induction h with
  | @root y hy => exact .root (by by_cases hyx : y = x <;> simp [setParent_parent, hyx, hy])
  | @up y p hy _ ih =>
    by_cases hyx : y = x
    · exact .root (by simp [setParent_parent, hyx])
    · exact .up (by simp [setParent_parent, hyx, hy]) ih

/-- A chain that does not meet `x` is the same after `x.parent` is written. -/
theorem ReachesRoot.setParent_of_not_above {hp : Heap} {c x : Nat} {p : Option Nat}
    (h : hp.ReachesRoot c) (hxc : ¬hp.Above x c) : (hp.setParent x p).ReachesRoot c := by
  induction h with
  | @root c hc =>
    exact .root (by simp [setParent_parent, show c ≠ x from fun e => hxc (e ▸ .self), hc])
  | @up c q hc _ ih =>
    exact .up (by simp [setParent_parent, show c ≠ x from fun e => hxc (e ▸ .self), hc])
      (ih fun hxq => hxc (.up hc hxq))

/-- **Linking `x` under `c` keeps every chain finite** when `x` is not `c` or above it. -/
theorem ReachesRoot.setParent_some {hp : Heap} {c x y : Nat} (hc : hp.ReachesRoot c)
    (hxc : ¬hp.Above x c) (h : hp.ReachesRoot y) : (hp.setParent x (some c)).ReachesRoot y := by
  have hc' := hc.setParent_of_not_above (p := some c) hxc
  induction h with
  | @root y hy =>
    by_cases hyx : y = x
    · exact .up (by simp [setParent_parent, hyx]) hc'
    · exact .root (by simp [setParent_parent, hyx, hy])
  | @up y q hy _ ih =>
    by_cases hyx : y = x
    · exact .up (by simp [setParent_parent, hyx]) hc'
    · exact .up (by simp [setParent_parent, hyx, hy]) ih

/-- **Linking `x` under a command it is above closes a cycle**: no chain that met `x` ends. -/
theorem not_reachesRoot_setParent {hp : Heap} {c x : Nat} (hxc : hp.Above x c) :
    ¬(hp.setParent x (some c)).ReachesRoot x := by
  have key : ∀ y, (hp.setParent x (some c)).ReachesRoot y → ¬hp.Above x y := by
    intro y h
    induction h with
    | @root y hy =>
      intro hxy
      cases hxy with
      | self => simp [setParent_parent] at hy
      | up hy' _ =>
        rw [setParent_parent] at hy
        split at hy
        · cases hy
        · simp [hy'] at hy
    | @up y q hy _ ih =>
      intro hxy
      by_cases hyx : y = x
      · simp only [setParent_parent, hyx, if_true, Option.some.injEq] at hy
        exact ih (hy ▸ hxc)
      · cases hxy with
        | self => exact hyx rfl
        | up hy' hq => simp only [setParent_parent, hyx, if_false, hy', Option.some.injEq] at hy
                       exact ih (hy ▸ hq)
  exact fun h => key x h .self

/-- Writing `x.parent` leaves what is above `c` alone when `x` is not among it. -/
theorem above_setParent_iff {hp : Heap} {c x : Nat} {p : Option Nat} (hxc : ¬hp.Above x c)
    {a : Nat} : (hp.setParent x p).Above a c ↔ hp.Above a c := by
  constructor <;> intro h <;> induction h with
  | self => exact .self
  | @up y q hy _ ih =>
    have hyx : y ≠ x := fun e => hxc (e ▸ .self)
    simp only [setParent_parent, hyx, if_false] at hy ⊢
    first
    | exact .up hy (ih fun hxq => hxc (.up hy hxq))
    | exact .up (by simp [setParent_parent, hyx, hy]) (ih fun hxq => hxc (.up hy hxq))

@[simp] theorem new_size (hp : Heap) (use : String) : (hp.new use).1.size = hp.size + 1 := rfl

@[simp] theorem new_snd (hp : Heap) (use : String) : (hp.new use).2 = hp.size := rfl

@[simp] theorem new_obj (hp : Heap) (use : String) (y : Nat) :
    (hp.new use).1.obj y =
      if y = hp.size then { (default : CommandObj) with use := use } else hp.obj y :=
  Function.update_apply ..

theorem set_self (hp : Heap) (c : Nat) : hp.set c (hp.obj c) = hp := by
  simp [set]

theorem set_set (hp : Heap) (c : Nat) (o o' : CommandObj) :
    (hp.set c o).set c o' = hp.set c o' := by
  simp [set]

end Heap

/-- How a call on the command objects ends: it returns, panics with a message, or does not
return. -/
inductive Outcome
  | returns (hp : Heap)
  | panics (msg : String)
  | hangs

namespace Heap

/-! ## The operations -/

/-- The body of `AddCommand`'s loop for a command `x` other than `c`: `x.parent = c`, `c`'s
max lengths raised to `x`'s, and `c.commands = append(c.commands, x)`; `none` when
`x.CommandPath()` does not return. -/
def addOne (hp : Heap) (c x : Nat) : Option Heap :=
  let hp := hp.setParent x (some c)
  (hp.commandPath x).map fun path =>
    hp.set c { (hp.obj c).updateMaxLengths (hp.obj x).use (hp.obj x).Name path with
      commands := (hp.obj c).commands ++ [x]
      commandsAreSorted := false }

/-- `c.AddCommand(cmds...)`. -/
def addCommand (hp : Heap) (c : Nat) : List Nat → Outcome
  | [] => .returns hp
  | x :: cmds =>
    if x = c then .panics "Command can't be a child of itself"
    else match hp.addOne c x with
      | none => .hangs
      | some hp => hp.addCommand c cmds

/-- The first loop of `c.RemoveCommand(cmds...)`, over `c.commands`: the parent of each
command in `cmds` is cleared, and the others are kept, in order. -/
def removeLoop (cmds : List Nat) : Heap → List Nat → Heap × List Nat
  | hp, [] => (hp, [])
  | hp, command :: rest =>
    if command ∈ cmds then removeLoop cmds (hp.setParent command none) rest
    else
      let r := removeLoop cmds hp rest
      (r.1, command :: r.2)

/-- The second loop of `RemoveCommand`: `c`'s max lengths recomputed over the commands kept;
`none` when a `CommandPath()` does not return. -/
def recomputeLoop (hp : Heap) (c : Nat) : List Nat → Option Heap
  | [] => some hp
  | command :: rest => (hp.commandPath command).bind fun path =>
    (hp.set c ((hp.obj c).updateMaxLengths (hp.obj command).use (hp.obj command).Name
      path)).recomputeLoop c rest

/-- `c.RemoveCommand(cmds...)`. -/
def removeCommand (hp : Heap) (c : Nat) (cmds : List Nat) : Outcome :=
  let r := removeLoop cmds hp (hp.obj c).commands
  let hp := r.1.set c { r.1.obj c with
    commands := r.2, commandsMaxUseLen := 0, commandsMaxCommandPathLen := 0,
    commandsMaxNameLen := 0 }
  match hp.recomputeLoop c r.2 with
  | none => .hangs
  | some hp => .returns hp

/-- `c.ResetCommands()`. -/
def resetCommands (hp : Heap) (c : Nat) : Heap :=
  hp.set c { hp.obj c with commands := [], helpCommand := none }

/-- `c.Commands()`, where `sorted` is what `sort.Sort` makes of `c.commands`: the heap after
the call, and the slice it returns. -/
def commands (enableCommandSorting : Bool) (hp : Heap) (c : Nat) (sorted : List Nat) :
    Heap × List Nat :=
  if enableCommandSorting && !(hp.obj c).commandsAreSorted then
    (hp.set c { hp.obj c with commands := sorted, commandsAreSorted := true }, sorted)
  else (hp, (hp.obj c).commands)

/-- The `Use` of the help command `initHelpCmd` creates. -/
def helpUse : String := "help [command]"

/-- `c.initHelpCmd()`: create the help command when there is none and `c` has subcommands,
then add it. -/
def initHelpCmd (hp : Heap) (c : Nat) : Outcome :=
  match (hp.obj c).helpCommand with
  | some h => hp.addCommand c [h]
  | none =>
    if (hp.obj c).commands.length > 0 then
      let r := hp.new helpUse
      (r.1.set c { r.1.obj c with helpCommand := some r.2 }).addCommand c [r.2]
    else .returns hp

/-- `minUsagePadding`. -/
def minUsagePadding : Nat := 25

/-- `minCommandPathPadding`. -/
def minCommandPathPadding : Nat := 11

/-- `minNamePadding`. -/
def minNamePadding : Nat := 11

/-- The body shared by `UsagePadding()`, `CommandPathPadding()` and `NamePadding()`: the
parent's max length, or the minimum padding when there is no parent or it is larger. -/
def padding (hp : Heap) (c minPadding : Nat) (maxLen : CommandObj → Nat) : Nat :=
  match (hp.obj c).parent with
  | none => minPadding
  | some p => if minPadding > maxLen (hp.obj p) then minPadding else maxLen (hp.obj p)

/-- `c.UsagePadding()`. -/
def usagePadding (hp : Heap) (c : Nat) : Nat :=
  hp.padding c minUsagePadding CommandObj.commandsMaxUseLen

/-- `c.CommandPathPadding()`. -/
def commandPathPadding (hp : Heap) (c : Nat) : Nat :=
  hp.padding c minCommandPathPadding CommandObj.commandsMaxCommandPathLen

/-- `c.NamePadding()`. -/
def namePadding (hp : Heap) (c : Nat) : Nat :=
  hp.padding c minNamePadding CommandObj.commandsMaxNameLen

/-! ## The invariant -/

/-- **The invariant of the command objects**: the handles stored are allocated, every chain of
parents ends, and each command's max lengths bound its children's `Use` and `Name()`
lengths. -/
structure Inv (hp : Heap) : Prop where
  parents_lt : hp.ParentsInRange
  children_lt : ∀ c, ∀ y ∈ (hp.obj c).commands, y < hp.size
  help_lt : ∀ c h, (hp.obj c).helpCommand = some h → h < hp.size
  reachesRoot : ∀ x, hp.ReachesRoot x
  bounds : ∀ c, ∀ y ∈ (hp.obj c).commands, (hp.obj c).Bounds (hp.obj y)

theorem Inv.empty : empty.Inv where
  parents_lt _ _ h := nomatch h
  children_lt _ _ h := nomatch h
  help_lt _ _ h := nomatch h
  reachesRoot _ := .root rfl
  bounds _ _ h := nomatch h

theorem Inv.commandPath_isSome {hp : Heap} (h : hp.Inv) (x : Nat) : (hp.commandPath x).isSome :=
  (commandPath_isSome_iff h.parents_lt).mpr (h.reachesRoot x)

theorem Inv.new {hp : Heap} (h : hp.Inv) (use : String) : (hp.new use).1.Inv where
  parents_lt x p hx := by
    by_cases hx' : x = hp.size
    · simp [hx'] at hx
    · simp only [new_obj, hx', if_false] at hx; simpa using Nat.lt_succ_of_lt (h.parents_lt x p hx)
  children_lt c y hy := by
    by_cases hc : c = hp.size
    · simp [hc] at hy
    · simp only [new_obj, hc, if_false] at hy; simpa using Nat.lt_succ_of_lt (h.children_lt c y hy)
  help_lt c h' hh := by
    by_cases hc : c = hp.size
    · simp [hc] at hh
    · simp only [new_obj, hc, if_false] at hh; simpa using Nat.lt_succ_of_lt (h.help_lt c h' hh)
  reachesRoot x := by
    induction h.reachesRoot x with
    | @root x hx => exact .root (by by_cases hx' : x = hp.size <;> simp [hx', hx])
    | @up x p hx _ ih =>
      by_cases hx' : x = hp.size
      · exact .root (by simp [hx'])
      · exact .up (by simp [hx', hx]) ih
  bounds c y hy := by
    by_cases hc : c = hp.size
    · simp [hc] at hy
    · simp only [new_obj, hc, if_false] at hy ⊢
      simpa [(h.children_lt c y hy).ne] using h.bounds c y hy

theorem Inv.set {hp : Heap} (h : hp.Inv) {c : Nat} {o : CommandObj}
    (hl : (hp.obj c).SameLinks o) (hch : ∀ y ∈ o.commands, y < hp.size ∧ o.Bounds (hp.obj y))
    (hhelp : ∀ h', o.helpCommand = some h' → h' < hp.size) : (hp.set c o).Inv where
  parents_lt x p hx := by
    by_cases hx' : x = c
    · simp only [set_obj, hx', if_true, hl.2.2] at hx; exact h.parents_lt c p hx
    · simp only [set_obj, hx', if_false] at hx; exact h.parents_lt x p hx
  children_lt z y hy := by
    by_cases hz : z = c
    · simp only [set_obj, hz, if_true] at hy; exact (hch y hy).1
    · simp only [set_obj, hz, if_false] at hy; exact h.children_lt z y hy
  help_lt z h' hh := by
    by_cases hz : z = c
    · simp only [set_obj, hz, if_true] at hh; exact hhelp h' hh
    · simp only [set_obj, hz, if_false] at hh; exact h.help_lt z h' hh
  reachesRoot x := (sameLinks_set hl).reachesRoot (h.reachesRoot x)
  bounds z y hy := by
    have hy' := (sameLinks_set hl).2 y
    simp only [set_obj] at hy hy' ⊢
    by_cases hz : z = c
    · simp only [hz, if_true] at hy ⊢; exact (hch y hy).2.of_sameLinks hy'
    · simp only [hz, if_false] at hy ⊢; exact (h.bounds z y hy).of_sameLinks hy'

theorem ParentsInRange.setParent {hp : Heap} (hr : hp.ParentsInRange) {x : Nat} {p : Option Nat}
    (hp_lt : ∀ q, p = some q → q < hp.size) : (hp.setParent x p).ParentsInRange := by
  intro y q hy
  rw [setParent_parent] at hy
  split at hy
  · exact hp_lt q hy
  · exact hr y q hy

theorem Inv.setParent {hp : Heap} (h : hp.Inv) {x : Nat} {p : Option Nat}
    (hp_lt : ∀ q, p = some q → q < hp.size) (hroot : ∀ y, (hp.setParent x p).ReachesRoot y) :
    (hp.setParent x p).Inv where
  parents_lt := h.parents_lt.setParent hp_lt
  children_lt z y hy := by
    by_cases hz : z = x <;> simp only [setParent_obj, hz, if_true, if_false] at hy <;>
      exact h.children_lt _ y hy
  help_lt z h' hh := by
    by_cases hz : z = x <;> simp only [setParent_obj, hz, if_true, if_false] at hh <;>
      exact h.help_lt _ h' hh
  reachesRoot := hroot
  bounds z y hy := by
    by_cases hz : z = x <;> by_cases hy' : y = x <;>
      simp only [setParent_obj, hz, hy', if_true, if_false] at hy ⊢ <;>
      exact h.bounds _ _ hy

theorem Inv.setParent_none {hp : Heap} (h : hp.Inv) (x : Nat) : (hp.setParent x none).Inv :=
  h.setParent (by simp) fun y => (h.reachesRoot y).setParent_none x

theorem Inv.setParent_some {hp : Heap} (h : hp.Inv) {c x : Nat} (hc : c < hp.size)
    (hxc : ¬hp.Above x c) : (hp.setParent x (some c)).Inv :=
  h.setParent (by simpa using hc) fun y => (h.reachesRoot c).setParent_some hxc (h.reachesRoot y)

/-! ## `AddCommand` -/

/-- **The body of `AddCommand`'s loop does not return exactly when `x` is `c` or above it.** -/
theorem addOne_eq_none_iff {hp : Heap} (h : hp.Inv) {c x : Nat} (hc : c < hp.size) :
    hp.addOne c x = none ↔ hp.Above x c := by
  have hr := h.parents_lt.setParent (x := x) (p := some c) (by simpa using hc)
  unfold addOne
  rw [Option.map_eq_none', ← Option.not_isSome_iff_eq_none, commandPath_isSome_iff hr]
  exact ⟨fun hn => by_contra fun hxc =>
    hn ((h.reachesRoot c).setParent_some hxc (h.reachesRoot x)), not_reachesRoot_setParent⟩

theorem addOne_ne_none {hp : Heap} (h : hp.Inv) {c x : Nat} (hc : c < hp.size)
    (hxc : ¬hp.Above x c) : ∃ hp₁, hp.addOne c x = some hp₁ :=
  Option.ne_none_iff_exists'.mp fun hn => hxc ((addOne_eq_none_iff h hc).mp hn)

theorem Inv.addOne {hp hp₁ : Heap} (h : hp.Inv) {c x : Nat} (hc : c < hp.size)
    (hx : x < hp.size) (h1 : hp.addOne c x = some hp₁) : hp₁.Inv := by
  have hxc : ¬hp.Above x c := fun hxc => by rw [(addOne_eq_none_iff h hc).mpr hxc] at h1; cases h1
  obtain ⟨path, -, rfl⟩ := Option.map_eq_some'.mp h1
  have h₂ := h.setParent_some hc hxc
  refine h₂.set (by simp [CommandObj.SameLinks, CommandObj.updateMaxLengths]) ?_
    fun h' hh => h₂.help_lt c h' (by simpa [CommandObj.updateMaxLengths] using hh)
  intro y hy
  simp only [CommandObj.updateMaxLengths, List.mem_append, List.mem_singleton] at hy
  rcases hy with hy | rfl
  · have hb := h₂.bounds c y hy
    simp only [CommandObj.Bounds, CommandObj.updateMaxLengths, raise_eq_max] at hb ⊢
    exact ⟨h₂.children_lt c y hy, by omega, by omega⟩
  · simp [CommandObj.Bounds, CommandObj.updateMaxLengths, hx]

/-- Adding `x` under `c` leaves what is above `c` alone. -/
theorem addOne_above {hp hp₁ : Heap} {c x : Nat} (h1 : hp.addOne c x = some hp₁)
    (hxc : ¬hp.Above x c) {a : Nat} : hp₁.Above a c ↔ hp.Above a c := by
  obtain ⟨path, -, rfl⟩ := Option.map_eq_some'.mp h1
  rw [(sameLinks_set (by simp [CommandObj.SameLinks, CommandObj.updateMaxLengths])).above,
    above_setParent_iff hxc]

theorem addOne_obj {hp hp₁ : Heap} {c x : Nat} (h1 : hp.addOne c x = some hp₁) (hxc : x ≠ c) :
    hp₁.size = hp.size ∧ (hp₁.obj c).commands = (hp.obj c).commands ++ [x] ∧
      (∀ z, (hp₁.obj z).parent = if z = x then some c else (hp.obj z).parent) ∧
      ∀ z, (hp₁.obj z).helpCommand = (hp.obj z).helpCommand := by
  obtain ⟨path, -, rfl⟩ := Option.map_eq_some'.mp h1
  refine ⟨rfl, by simp [Ne.symm hxc, CommandObj.updateMaxLengths], fun z => ?_, fun z => ?_⟩
  swap
  · by_cases hz : z = c <;> by_cases hzx : z = x <;>
      simp [hz, hzx, hxc, Ne.symm hxc, CommandObj.updateMaxLengths]
  by_cases hz : z = c
  · simp [hz, Ne.symm hxc, CommandObj.updateMaxLengths]
  · simp only [set_obj, hz, if_false]; exact setParent_parent ..

theorem addCommand_cons_returns {hp hp' : Heap} {c x : Nat} {cmds : List Nat} :
    hp.addCommand c (x :: cmds) = .returns hp' ↔
      x ≠ c ∧ ∃ hp₁, hp.addOne c x = some hp₁ ∧ hp₁.addCommand c cmds = .returns hp' := by
  rw [addCommand]
  by_cases hx : x = c
  · simp [hx]
  · cases hp.addOne c x <;> simp [hx]

theorem Inv.addCommand {c : Nat} : ∀ {hp hp' : Heap} {cmds : List Nat}, hp.Inv → c < hp.size →
    (∀ x ∈ cmds, x < hp.size) → hp.addCommand c cmds = .returns hp' → hp'.Inv
  | _, _, [], h, _, _, h1 => by cases h1; exact h
  | _, _, x :: cmds, h, hc, hcmds, h1 => by
    obtain ⟨hxc, hp₁, h₁, h1⟩ := addCommand_cons_returns.mp h1
    have hsize := (addOne_obj h₁ hxc).1
    exact (h.addOne hc (hcmds x (by simp)) h₁).addCommand (hsize ▸ hc)
      (fun y hy => hsize ▸ hcmds y (by simp [hy])) h1

/-- `AddCommand` returns when no command it is given is `c` or above it: each of them is then
a child of `c`, appended to `c.commands`. -/
theorem addCommand_returns {c : Nat} : ∀ {hp : Heap} {cmds : List Nat}, hp.Inv → c < hp.size →
    (∀ x ∈ cmds, x < hp.size) → (∀ x ∈ cmds, ¬hp.Above x c) →
    ∃ hp', hp.addCommand c cmds = .returns hp' ∧ hp'.Inv ∧
      (hp'.obj c).commands = (hp.obj c).commands ++ cmds ∧
      (∀ z, (hp'.obj z).parent = if z ∈ cmds then some c else (hp.obj z).parent) ∧
      ∀ z, (hp'.obj z).helpCommand = (hp.obj z).helpCommand
  | hp, [], h, _, _, _ => ⟨hp, rfl, h, by simp, by simp, fun _ => rfl⟩
  | hp, x :: cmds, h, hc, hcmds, hno => by
    have hxc : x ≠ c := fun e => hno x (by simp) (e ▸ .self)
    obtain ⟨hp₁, h₁⟩ := addOne_ne_none h hc (hno x (by simp))
    obtain ⟨hsize, hcom, hpar, hhelp⟩ := addOne_obj h₁ hxc
    obtain ⟨hp', h1, hi, hcom', hpar', hhelp'⟩ := @addCommand_returns c _ cmds
      (h.addOne hc (hcmds x (by simp)) h₁) (hsize ▸ hc)
      (fun y hy => hsize ▸ hcmds y (by simp [hy]))
      (fun y hy => (addOne_above h₁ (hno x (by simp))).not.mpr (hno y (by simp [hy])))
    refine ⟨hp', by simp [addCommand, hxc, h₁, h1], hi, by simp [hcom', hcom], fun z => ?_,
      fun z => (hhelp' z).trans (hhelp z)⟩
    rw [hpar', hpar]
    by_cases hz : z ∈ cmds <;> by_cases hzx : z = x <;> simp [hz, hzx]

/-- `AddCommand` stops at the first command it is given that is `c` or above it: it panics if
that command is `c`, and otherwise never returns. -/
theorem addCommand_stops {c x : Nat} {post : List Nat} : ∀ {hp : Heap} {pre : List Nat},
    hp.Inv → c < hp.size → (∀ y ∈ pre, y < hp.size) → (∀ y ∈ pre, ¬hp.Above y c) →
    hp.Above x c → hp.addCommand c (pre ++ x :: post) =
      if x = c then .panics "Command can't be a child of itself" else .hangs
  | hp, [], h, hc, _, _, hx => by
    rw [List.nil_append, addCommand]
    by_cases hxc : x = c
    · simp [hxc]
    · simp [hxc, (addOne_eq_none_iff h hc).mpr hx]
  | hp, y :: pre, h, hc, hpre, hno, hx => by
    have hyc : y ≠ c := fun e => hno y (by simp) (e ▸ .self)
    obtain ⟨hp₁, h₁⟩ := addOne_ne_none h hc (hno y (by simp))
    have hsize := (addOne_obj h₁ hyc).1
    rw [List.cons_append, addCommand, if_neg hyc, h₁]
    exact addCommand_stops (h.addOne hc (hpre y (by simp)) h₁) (hsize ▸ hc)
      (fun z hz => hsize ▸ hpre z (by simp [hz]))
      (fun z hz => (addOne_above h₁ (hno y (by simp))).not.mpr (hno z (by simp [hz])))
      ((addOne_above h₁ (hno y (by simp))).mpr hx)

/-! ## `RemoveCommand` -/

theorem removeLoop_spec (cmds : List Nat) : ∀ (hp : Heap) (l : List Nat),
    (removeLoop cmds hp l).2 = l.filter (fun z => z ∉ cmds) ∧
      (removeLoop cmds hp l).1.size = hp.size ∧
      ∀ z, (removeLoop cmds hp l).1.obj z =
        if z ∈ l ∧ z ∈ cmds then { hp.obj z with parent := none } else hp.obj z
  | hp, [] => by simp [removeLoop]
  | hp, y :: l => by
    by_cases hy : y ∈ cmds
    · obtain ⟨h2, hs, hobj⟩ := removeLoop_spec cmds (hp.setParent y none) l
      refine ⟨by simp [removeLoop, hy, h2], by simp [removeLoop, hy, hs], fun z => ?_⟩
      simp only [removeLoop, hy, if_true, hobj, setParent_obj]
      by_cases hz : z = y <;> simp [hz, hy]
    · obtain ⟨h2, hs, hobj⟩ := removeLoop_spec cmds hp l
      refine ⟨by simp [removeLoop, hy, h2], by simp [removeLoop, hy, hs], fun z => ?_⟩
      simp only [removeLoop, hy, if_false, hobj]
      by_cases hz : z = y <;> simp [hz, hy]

theorem Inv.removeLoop (cmds : List Nat) : ∀ {hp : Heap} (l : List Nat), hp.Inv →
    (Heap.removeLoop cmds hp l).1.Inv
  | _, [], h => h
  | _, y :: l, h => by
    by_cases hy : y ∈ cmds
    · simpa [Heap.removeLoop, hy] using Inv.removeLoop cmds l (h.setParent_none y)
    · simpa [Heap.removeLoop, hy] using Inv.removeLoop cmds l h

/-- The second loop of `RemoveCommand` returns when every `CommandPath()` does, with `c`'s
max lengths raised over the commands, in order. -/
theorem recomputeLoop_eq {c : Nat} : ∀ {hp : Heap} (l : List Nat),
    (∀ y, (hp.commandPath y).isSome) →
    hp.recomputeLoop c l = some (hp.set c (l.foldl (fun o y => o.updateMaxLengths (hp.obj y).use
      (hp.obj y).Name ((hp.commandPath y).getD "")) (hp.obj c)))
  | hp, [], _ => by simp [recomputeLoop, set_self]
  | hp, y :: l, hr => by
    obtain ⟨path, hpath⟩ := Option.isSome_iff_exists.mp (hr y)
    have hl : hp.SameLinks (hp.set c ((hp.obj c).updateMaxLengths (hp.obj y).use (hp.obj y).Name
        path)) := sameLinks_set (by simp [CommandObj.SameLinks, CommandObj.updateMaxLengths])
    rw [recomputeLoop, hpath, Option.some_bind,
      recomputeLoop_eq l fun z => (hl.commandPath_eq z).symm ▸ hr z]
    simp only [hl.commandPath_eq, hl.obj_use, hl.obj_Name]
    simp only [set_set, set_obj, if_true, List.foldl_cons, hpath, Option.getD_some]

/-- `RemoveCommand` on a heap where the invariant holds: it returns, with the objects after its
first loop and `c`'s children and max lengths recomputed over the children kept. -/
theorem removeCommand_eq {hp : Heap} (h : hp.Inv) {c : Nat} {cmds : List Nat} {hp₁ : Heap}
    {kept : List Nat} (hr : removeLoop cmds hp (hp.obj c).commands = (hp₁, kept)) :
    ∃ o, hp.removeCommand c cmds = .returns (hp₁.set c o) ∧ (hp₁.obj c).SameLinks o ∧
      o.commands = kept ∧ o.helpCommand = (hp₁.obj c).helpCommand ∧
      o.commandsMaxUseLen = kept.foldl (fun m y => max m (hp₁.obj y).use.utf8ByteSize) 0 ∧
      o.commandsMaxCommandPathLen =
        kept.foldl (fun m y => max m ((hp₁.commandPath y).getD "").utf8ByteSize) 0 ∧
      o.commandsMaxNameLen = kept.foldl (fun m y => max m (hp₁.obj y).Name.utf8ByteSize) 0 := by
  have hi₁ : hp₁.Inv := by simpa [hr] using h.removeLoop cmds (hp.obj c).commands
  have hl : hp₁.SameLinks (hp₁.set c { hp₁.obj c with
      commands := kept, commandsMaxUseLen := 0, commandsMaxCommandPathLen := 0,
      commandsMaxNameLen := 0 }) := sameLinks_set (by simp [CommandObj.SameLinks])
  refine ⟨{ hp₁.obj c with
      commands := kept
      commandsMaxUseLen := kept.foldl (fun m y => max m (hp₁.obj y).use.utf8ByteSize) 0
      commandsMaxCommandPathLen :=
        kept.foldl (fun m y => max m ((hp₁.commandPath y).getD "").utf8ByteSize) 0
      commandsMaxNameLen := kept.foldl (fun m y => max m (hp₁.obj y).Name.utf8ByteSize) 0 },
    ?_, by simp [CommandObj.SameLinks], rfl, rfl, rfl, rfl, rfl⟩
  simp only [removeCommand, hr]
  rw [recomputeLoop_eq _ fun y => (hl.commandPath_eq y).symm ▸ hi₁.commandPath_isSome y]
  simp only [hl.commandPath_eq, hl.obj_use, hl.obj_Name]
  simp only [set_set, set_obj, if_true, CommandObj.foldl_updateMaxLengths]

theorem Inv.removeCommand {hp hp' : Heap} (h : hp.Inv) {c : Nat} {cmds : List Nat}
    (h1 : hp.removeCommand c cmds = .returns hp') : hp'.Inv := by
  rcases hr : Heap.removeLoop cmds hp (hp.obj c).commands with ⟨hp₁, kept⟩
  obtain ⟨h2, hs, -⟩ := removeLoop_spec cmds hp (hp.obj c).commands
  simp only [hr] at h2 hs
  obtain ⟨o, h1', hl, hcom, hhelp, hu, -, hn⟩ := removeCommand_eq h hr
  rw [h1'] at h1
  cases h1
  have hi₁ : hp₁.Inv := by simpa [hr] using h.removeLoop cmds (hp.obj c).commands
  refine hi₁.set hl (fun y hy => ?_) (by simpa [hhelp] using hi₁.help_lt c)
  rw [hcom] at hy
  have hy' : y ∈ (hp.obj c).commands := (List.mem_filter.mp (h2 ▸ hy)).1
  exact ⟨hs ▸ h.children_lt c y hy',
    hu ▸ (foldl_max_spec (fun y => (hp₁.obj y).use.utf8ByteSize) kept 0).2 y hy,
    hn ▸ (foldl_max_spec (fun y => (hp₁.obj y).Name.utf8ByteSize) kept 0).2 y hy⟩

/-! ## The other calls -/

theorem Inv.resetCommands {hp : Heap} (h : hp.Inv) (c : Nat) : (hp.resetCommands c).Inv :=
  h.set (by simp [CommandObj.SameLinks]) (by simp) (by simp)

theorem Inv.commands {hp : Heap} (h : hp.Inv) (e : Bool) (c : Nat) {sorted : List Nat}
    (hperm : sorted.Perm (hp.obj c).commands) : (hp.commands e c sorted).1.Inv := by
  unfold Heap.commands
  split
  · exact h.set (by simp [CommandObj.SameLinks])
      (fun y hy => ⟨h.children_lt c y (hperm.mem_iff.mp hy), h.bounds c y (hperm.mem_iff.mp hy)⟩)
      (h.help_lt c)
  · exact h

/-- What is above an allocated command was there before the new object. -/
theorem Above.of_new {hp : Heap} {use : String} {a x : Nat} (h : (hp.new use).1.Above a x) :
    hp.Above a x := by
  induction h with
  | self => exact .self
  | @up x p hx _ ih =>
    by_cases hx' : x = hp.size
    · simp [hx'] at hx
    · simp only [new_obj, hx', if_false] at hx; exact .up hx ih

/-- Only `x` and objects in range are above `x`. -/
theorem Inv.above_lt {hp : Heap} (h : hp.Inv) {a x : Nat} (hax : hp.Above a x) :
    a = x ∨ a < hp.size := by
  induction hax with
  | self => exact .inl rfl
  | up hx _ ih => exact .inr (ih.elim (· ▸ h.parents_lt _ _ hx) id)

/-- The help command `initHelpCmd` creates, linked in as `c.helpCommand`. -/
theorem Inv.newHelp {hp : Heap} (h : hp.Inv) {c : Nat} (hc : c < hp.size) :
    let r := hp.new helpUse
    (r.1.set c { r.1.obj c with helpCommand := some r.2 }).Inv ∧
      ¬(r.1.set c { r.1.obj c with helpCommand := some r.2 }).Above r.2 c := by
  have hn := h.new helpUse
  refine ⟨hn.set (by simp [CommandObj.SameLinks])
    (fun y hy => ⟨hn.children_lt c y hy, hn.bounds c y hy⟩) (by simp), fun ha => ?_⟩
  have ha' := ((sameLinks_set (by simp [CommandObj.SameLinks])).above.mp ha).of_new
  rcases h.above_lt ha' with e | e <;> simp only [new_snd] at e <;> omega

theorem Inv.initHelpCmd {hp hp' : Heap} (h : hp.Inv) {c : Nat} (hc : c < hp.size)
    (h1 : hp.initHelpCmd c = .returns hp') : hp'.Inv := by
  unfold Heap.initHelpCmd at h1
  split at h1
  · rename_i h' hh
    exact h.addCommand hc (by simpa using h.help_lt c h' hh) h1
  · split at h1
    · exact (h.newHelp hc).1.addCommand (by simp; omega) (by simp) h1
    · cases h1; exact h

/-! ## Runs -/

/-- **One call that returns**, on allocated commands.  `sort.Sort` in `Commands()` may put
the children in any order by `Name()`. -/
inductive Call : Heap → Heap → Prop
  | new (hp : Heap) (use : String) : Call hp (hp.new use).1
  | addCommand {hp hp' : Heap} {c : Nat} {cmds : List Nat} : c < hp.size →
      (∀ x ∈ cmds, x < hp.size) → hp.addCommand c cmds = .returns hp' → Call hp hp'
  | removeCommand {hp hp' : Heap} {c : Nat} {cmds : List Nat} :
      hp.removeCommand c cmds = .returns hp' → Call hp hp'
  | resetCommands (hp : Heap) (c : Nat) : Call hp (hp.resetCommands c)
  | commands (enableCommandSorting : Bool) (hp : Heap) (c : Nat) (sorted : List Nat) :
      sorted.Perm (hp.obj c).commands →
      sorted.Pairwise (fun a b => ¬(hp.obj b).Name < (hp.obj a).Name) →
      Call hp (hp.commands enableCommandSorting c sorted).1
  | initHelpCmd {hp hp' : Heap} {c : Nat} : c < hp.size → hp.initHelpCmd c = .returns hp' →
      Call hp hp'

/-- The heaps a program builds from no objects by calls that return. -/
inductive Reachable : Heap → Prop
  | empty : Reachable empty
  | call {hp hp' : Heap} : Reachable hp → Call hp hp' → Reachable hp'

theorem Call.inv {hp hp' : Heap} (hc : Call hp hp') (h : hp.Inv) : hp'.Inv := by
  cases hc with
  | new => exact h.new _
  | addCommand hc hcmds h1 => exact h.addCommand hc hcmds h1
  | removeCommand h1 => exact h.removeCommand h1
  | resetCommands => exact h.resetCommands _
  | commands e _ c sorted hperm => exact h.commands e c hperm
  | initHelpCmd hc h1 => exact h.initHelpCmd hc h1

theorem Reachable.inv {hp : Heap} (h : hp.Reachable) : hp.Inv := by
  induction h with
  | empty => exact Inv.empty
  | call _ hc ih => exact hc.inv ih

/-! ## What every run guarantees -/

/-- **`CommandPath()` returns** on every command of every heap built by calls that returned. -/
theorem commandPath_returns {hp : Heap} (h : hp.Reachable) (c : Nat) :
    (hp.commandPath c).isSome :=
  h.inv.commandPath_isSome c

/-- The objects after `docker := &Command{Use: "docker"}`,
`run := &Command{Use: "run [OPTIONS]"}` and `docker.AddCommand(run)`. -/
def dockerRun : Heap :=
  match ((empty.new "docker").1.new "run [OPTIONS]").1.addCommand 0 [1] with
  | .returns hp => hp
  | _ => empty

theorem dockerRun_reachable : dockerRun.Reachable :=
  .call (.call (.call .empty (.new empty "docker")) (.new _ "run [OPTIONS]"))
    (@Call.addCommand _ _ 0 [1] (by decide) (by decide) rfl)

theorem commandPath_returns_run : dockerRun.Reachable ∧ (dockerRun.commandPath 1).isSome :=
  ⟨dockerRun_reachable, commandPath_returns dockerRun_reachable 1⟩

/-- **When `AddCommand` returns.**  On allocated commands of a heap built by calls that
returned, `c.AddCommand(cmds...)` returns when no command of `cmds` is `c` or above it, with
each of them a child of `c` appended to `c.commands`; otherwise it stops at the first that
is, with a panic if that command is `c`, and otherwise it never returns. -/
theorem addCommand_outcome {hp : Heap} (h : hp.Reachable) {c : Nat} (hc : c < hp.size)
    {cmds : List Nat} (hcmds : ∀ x ∈ cmds, x < hp.size) :
    ((∀ x ∈ cmds, ¬hp.Above x c) → ∃ hp', hp.addCommand c cmds = .returns hp' ∧
      (hp'.obj c).commands = (hp.obj c).commands ++ cmds ∧
      ∀ x ∈ cmds, (hp'.obj x).parent = some c) ∧
    ∀ pre x post, cmds = pre ++ x :: post → (∀ y ∈ pre, ¬hp.Above y c) → hp.Above x c →
      hp.addCommand c cmds =
        if x = c then .panics "Command can't be a child of itself" else .hangs := by
  refine ⟨fun hno => ?_, fun pre x post hcm hpre hx => ?_⟩
  · obtain ⟨hp', h1, -, hcom, hpar, -⟩ := addCommand_returns h.inv hc hcmds hno
    exact ⟨hp', h1, hcom, fun x hx => by simp [hpar, hx]⟩
  · subst hcm
    exact addCommand_stops h.inv hc (fun y hy => hcmds y (by simp [hy])) hpre hx

/-- `run.AddCommand(docker)`: `docker` is above `run`. -/
theorem addCommand_outcome_root_under_run :
    dockerRun.Reachable ∧ 1 < dockerRun.size ∧ (∀ x ∈ [0], x < dockerRun.size) ∧
    ((∀ x ∈ [0], ¬dockerRun.Above x 1) → ∃ hp', dockerRun.addCommand 1 [0] = .returns hp' ∧
      (hp'.obj 1).commands = (dockerRun.obj 1).commands ++ [0] ∧
      ∀ x ∈ [0], (hp'.obj x).parent = some 1) ∧
    ∀ pre x post, [0] = pre ++ x :: post → (∀ y ∈ pre, ¬dockerRun.Above y 1) →
      dockerRun.Above x 1 → dockerRun.addCommand 1 [0] =
        if x = 1 then .panics "Command can't be a child of itself" else .hangs :=
  ⟨dockerRun_reachable, by decide, by decide,
    addCommand_outcome dockerRun_reachable (by decide) (by decide)⟩

/-- **What `RemoveCommand` does.**  On every heap built by calls that returned,
`c.RemoveCommand(cmds...)` returns.  `c` keeps the children not in `cmds`, in order; the
children removed have no parent; no other object changes; and `c`'s max lengths are
recomputed over the children kept. -/
theorem removeCommand_spec {hp : Heap} (h : hp.Reachable) (c : Nat) (cmds : List Nat) :
    ∃ hp', hp.removeCommand c cmds = .returns hp' ∧
      (hp'.obj c).commands = (hp.obj c).commands.filter (fun z => z ∉ cmds) ∧
      (∀ z ∈ (hp.obj c).commands, z ∈ cmds → (hp'.obj z).parent = none) ∧
      (∀ z, z ≠ c → ¬(z ∈ (hp.obj c).commands ∧ z ∈ cmds) → hp'.obj z = hp.obj z) ∧
      (hp'.obj c).commandsMaxUseLen =
        (hp'.obj c).commands.foldl (fun m y => max m (hp'.obj y).use.utf8ByteSize) 0 ∧
      (hp'.obj c).commandsMaxCommandPathLen =
        (hp'.obj c).commands.foldl (fun m y => max m ((hp'.commandPath y).getD "").utf8ByteSize) 0 ∧
      (hp'.obj c).commandsMaxNameLen =
        (hp'.obj c).commands.foldl (fun m y => max m (hp'.obj y).Name.utf8ByteSize) 0 := by
  obtain ⟨h2, -, hobj⟩ := removeLoop_spec cmds hp (hp.obj c).commands
  obtain ⟨o, h1, hl, hcom, -, hu, hpath, hn⟩ := removeCommand_eq h.inv Prod.mk.eta.symm
  have hl' := sameLinks_set hl
  refine ⟨_, h1, ?_, fun z hz hzc => ?_, fun z hz hnot => ?_, ?_⟩
  · simp [hcom, h2]
  · by_cases hzc' : z = c
    · subst hzc'; simp [hl.2.2, hobj, hz, hzc]
    · simp [hzc', hobj, hz, hzc]
  · simp [hz, hobj, hnot]
  · simp only [hl'.commandPath_eq, hl'.obj_use, hl'.obj_Name]
    simp only [set_obj, if_true, hcom]
    exact ⟨hu, hpath, hn⟩

theorem removeCommand_spec_run : dockerRun.Reachable ∧
    ∃ hp', dockerRun.removeCommand 0 [1] = .returns hp' ∧
      (hp'.obj 0).commands = (dockerRun.obj 0).commands.filter (fun z => z ∉ [1]) ∧
      (∀ z ∈ (dockerRun.obj 0).commands, z ∈ [1] → (hp'.obj z).parent = none) ∧
      (∀ z, z ≠ 0 → ¬(z ∈ (dockerRun.obj 0).commands ∧ z ∈ [1]) → hp'.obj z = dockerRun.obj z) ∧
      (hp'.obj 0).commandsMaxUseLen =
        (hp'.obj 0).commands.foldl (fun m y => max m (hp'.obj y).use.utf8ByteSize) 0 ∧
      (hp'.obj 0).commandsMaxCommandPathLen =
        (hp'.obj 0).commands.foldl (fun m y => max m ((hp'.commandPath y).getD "").utf8ByteSize) 0 ∧
      (hp'.obj 0).commandsMaxNameLen =
        (hp'.obj 0).commands.foldl (fun m y => max m (hp'.obj y).Name.utf8ByteSize) 0 :=
  ⟨dockerRun_reachable, removeCommand_spec dockerRun_reachable 0 [1]⟩

/-- **The usage columns line up.**  On every heap built by calls that returned, a command's
`UsagePadding()` and `NamePadding()` are at least the `Use` and `Name()` lengths of each child
of its parent. -/
theorem padding_bounds_siblings {hp : Heap} (h : hp.Reachable) {x c y : Nat}
    (hx : (hp.obj x).parent = some c) (hy : y ∈ (hp.obj c).commands) :
    (hp.obj y).use.utf8ByteSize ≤ hp.usagePadding x ∧
      (hp.obj y).Name.utf8ByteSize ≤ hp.namePadding x := by
  obtain ⟨hu, hn⟩ := h.inv.bounds c y hy
  simp only [usagePadding, namePadding, padding, hx]
  constructor <;> split <;> omega

theorem padding_bounds_siblings_run : dockerRun.Reachable ∧ (dockerRun.obj 1).parent = some 0 ∧
    1 ∈ (dockerRun.obj 0).commands ∧
    (dockerRun.obj 1).use.utf8ByteSize ≤ dockerRun.usagePadding 1 ∧
      (dockerRun.obj 1).Name.utf8ByteSize ≤ dockerRun.namePadding 1 :=
  ⟨dockerRun_reachable, rfl, by decide,
    padding_bounds_siblings dockerRun_reachable (c := 0) rfl (by decide)⟩

/-- **`initHelpCmd` appends the help command on every run**, also when it is a child of `c`
already, so a second `Execute` lists `help` twice.  On every heap built by calls that
returned, when `c` has subcommands or a help command that is not above it, `initHelpCmd`
returns, with `c.helpCommand` a child of `c` appended once more to `c.commands`. -/
theorem initHelpCmd_appends {hp : Heap} (h : hp.Reachable) {c : Nat} (hc : c < hp.size)
    (hsub : (hp.obj c).commands ≠ [] ∨ (hp.obj c).helpCommand ≠ none)
    (hnot : ∀ h', (hp.obj c).helpCommand = some h' → ¬hp.Above h' c) :
    ∃ hp' h', hp.initHelpCmd c = .returns hp' ∧ (hp'.obj c).helpCommand = some h' ∧
      (hp'.obj c).commands = (hp.obj c).commands ++ [h'] ∧ (hp'.obj h').parent = some c := by
  have hi := h.inv
  unfold initHelpCmd
  split
  · rename_i h' hh
    obtain ⟨hp', h1, -, hcom, hpar, hhelp⟩ := @addCommand_returns c hp [h'] hi hc
      (by simpa using hi.help_lt c h' hh) (by simpa using hnot h' hh)
    exact ⟨hp', h', h1, (hhelp c).trans hh, hcom, by simp [hpar]⟩
  · rename_i hh
    have hcom : (hp.obj c).commands.length > 0 :=
      List.length_pos.mpr (hsub.resolve_right (by simp [hh]))
    rw [if_pos hcom]
    obtain ⟨hn, ha⟩ := hi.newHelp hc
    obtain ⟨hp', h1, -, hcom', hpar, hhelp⟩ :=
      @addCommand_returns c _ [(hp.new helpUse).2] hn (by simp; omega) (by simp) (by simpa using ha)
    refine ⟨hp', hp.size, h1, by simp [hhelp, Nat.ne_of_lt hc], ?_, by simp [hpar]⟩
    simp [hcom', Nat.ne_of_lt hc]

/-- `docker.initHelpCmd()` on `docker` with its child `run`. -/
theorem initHelpCmd_appends_run : dockerRun.Reachable ∧ 0 < dockerRun.size ∧
    ((dockerRun.obj 0).commands ≠ [] ∨ (dockerRun.obj 0).helpCommand ≠ none) ∧
    (∀ h', (dockerRun.obj 0).helpCommand = some h' → ¬dockerRun.Above h' 0) ∧
    ∃ hp' h', dockerRun.initHelpCmd 0 = .returns hp' ∧ (hp'.obj 0).helpCommand = some h' ∧
      (hp'.obj 0).commands = (dockerRun.obj 0).commands ++ [h'] ∧ (hp'.obj h').parent = some 0 :=
  have hnone : ∀ h', (dockerRun.obj 0).helpCommand = some h' → ¬dockerRun.Above h' 0 :=
    fun _ hh => absurd hh (by rw [show (dockerRun.obj 0).helpCommand = none from rfl]; simp)
  ⟨dockerRun_reachable, by decide, by decide, hnone,
    initHelpCmd_appends dockerRun_reachable (by decide) (by decide) hnone⟩

end Heap

end Cobra

end ContainerLifecycle
