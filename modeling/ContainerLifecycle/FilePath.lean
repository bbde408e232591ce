import Mathlib.Logic.Function.Basic
import Mathlib.Data.List.Basic

/-! # Paths and the file system

Every path libcontainerd builds is absolute and cleaned, and we keep it as the list of its
components: `/var/run/docker/libcontainerd` is `["var", "run", "docker", "libcontainerd"]`
and `/` is `[]`.  `filepath.Join` of such a directory and a name appends the name's
slash-separated pieces and cleans the result lexically, as `filepath.Clean` does (`join`);
`filepath.Base` is the last component (`base`).  Container ids reach `filepath.Join`
unvalidated, so `join` is defined for every string: empty pieces and `.` are dropped, and
`..` removes the last component and stops at the root.  Only for a **plain name** — not
empty, not `.` or `..`, without a slash — is `join dir id` the child `dir ++ [id]`, and
`base` gives the name back (`base_join_of_plain`).

The file system (`Fs`) maps each present path to its node: permission bits and owner,
which is all that `os.Stat` and `os.Lstat` are asked for here.  The operations are those
the modelled code performs: `os.RemoveAll`, `os.Remove`, `os.Create`, and `idtools`'
`MkdirAs` and `MkdirAllAs`.  A path is *under* a directory when the directory is a prefix
of it; `os.RemoveAll d` empties exactly the paths under `d` (`removeAll_apply`).
-/
namespace ContainerLifecycle

/-- An absolute, cleaned path, as its list of components. -/
abbrev Path := List String

/-- `strings.Split(s, "/")` on the characters of `s`: `n` slashes give `n + 1` pieces. -/
def splitSlash : List Char → List (List Char)
  | [] => [[]]
  | c :: cs =>
    match splitSlash cs with
    | [] => [[c]]
    | w :: ws => if c = '/' then [] :: w :: ws else (c :: w) :: ws

/-- The slash-separated pieces of a name. -/
def pieces (s : String) : List String := (splitSlash s.data).map String.mk

/-- Lexical cleaning (`filepath.Clean`) of the pieces `ds` appended to the clean absolute
path `p`: empty pieces and `.` vanish, `..` climbs one component and stays at the root. -/
def cleanInto (p : Path) : List String → Path
  | [] => p
  | d :: ds =>
    if d = "" ∨ d = "." then cleanInto p ds
    else if d = ".." then cleanInto p.dropLast ds
    else cleanInto (p ++ [d]) ds

/-- `filepath.Join(dir, name)` for a clean absolute `dir`. -/
def join (dir : Path) (name : String) : Path := cleanInto dir (pieces name)

/-- `filepath.Base` of a clean absolute path: its last component, and `/` for the root. -/
def base (p : Path) : String := p.getLastD "/"

/-- A name that `filepath.Join` appends as one new component. -/
def PlainName (s : String) : Prop :=
  s ≠ "" ∧ s ≠ "." ∧ s ≠ ".." ∧ '/' ∉ s.data

instance (s : String) : Decidable (PlainName s) := inferInstanceAs (Decidable (_ ∧ _))

/-- A clean absolute path, as `filepath.Abs` returns it: every component is a plain name. -/
def Clean (p : Path) : Prop := ∀ d ∈ p, PlainName d

instance (p : Path) : Decidable (Clean p) := inferInstanceAs (Decidable (∀ _ ∈ _, _))

theorem splitSlash_of_not_mem : ∀ {cs : List Char}, '/' ∉ cs → splitSlash cs = [cs]
  | [], _ => rfl
  | c :: cs, h => by
    have hc : c ≠ '/' := fun e => h (e ▸ List.mem_cons_self _ _)
    simp [splitSlash, splitSlash_of_not_mem (fun m => h (List.mem_cons_of_mem c m)), hc]

theorem join_of_plain {s : String} (h : PlainName s) (dir : Path) : join dir s = dir ++ [s] := by
  obtain ⟨h0, h1, h2, h3⟩ := h
  simp [join, pieces, splitSlash_of_not_mem h3, cleanInto, h0, h1, h2]

/-- A plain name is the base of its join: `filepath.Base(filepath.Join(dir, id)) = id`. -/
theorem base_join_of_plain {s : String} (h : PlainName s) (dir : Path) :
    base (join dir s) = s := by
  simp [base, join_of_plain h]

/-- The joins of one directory length with two different plain names: neither lies under
the other. -/
theorem join_plain_apart {dir dir' : Path} {s s' : String} (hlen : dir.length = dir'.length)
    (hs : PlainName s) (hs' : PlainName s') (hne : s ≠ s') :
    ¬ join dir' s' <+: join dir s ∧ ¬ join dir s <+: join dir' s' := by
  rw [join_of_plain hs, join_of_plain hs']
  have hlen' : (dir ++ [s]).length = (dir' ++ [s']).length := by simp [hlen]
  have key : dir ++ [s] ≠ dir' ++ [s'] := fun h => hne (by simpa using (List.append_inj' h rfl).2)
  exact ⟨fun h => key (h.eq_of_length hlen'.symm).symm, fun h => key (h.eq_of_length hlen')⟩

/-! ## The file system -/

/-- What `os.Stat` reports of a present path: its permission bits and its owner. -/
structure Node where
  perm : Nat
  uid : Nat
  gid : Nat
  deriving DecidableEq, Repr

/-- The file system: the present paths with their nodes, most recently written first. -/
abbrev Fs := List (Path × Node)

namespace Fs

/-- The node at `p`, if `p` is present. -/
def get : Fs → Path → Option Node
  | [], _ => none
  | (q, n) :: fs, p => if q = p then some n else get fs p

/-- `p` is present. -/
def Exists (fs : Fs) (p : Path) : Prop := fs.get p ≠ none

instance (fs : Fs) (p : Path) : Decidable (fs.Exists p) := inferInstanceAs (Decidable (¬ _))

/-- The entries whose path satisfies `f`. -/
def keep (fs : Fs) (f : Path → Bool) : Fs := fs.filter fun e => f e.1

/-- Write the node of `p`. -/
def set (fs : Fs) (p : Path) (n : Node) : Fs := (p, n) :: fs.keep (· ≠ p)

/-- `os.RemoveAll(d)`: every path under `d`, `d` included, is gone. -/
def removeAll (fs : Fs) (d : Path) : Fs := fs.keep fun p => ¬ d <+: p

/-- `os.Remove(p)`: a file or an empty directory is removed; on a directory with entries
it fails, and nothing changes. -/
def remove (fs : Fs) (p : Path) : Fs :=
  if fs.any fun e => p <+: e.1 ∧ e.1 ≠ p then fs else fs.keep (· ≠ p)

/-- `os.Create(p)`: a file owned by the daemon (uid and gid `0`), mode `0666` before the
umask. -/
def create (fs : Fs) (p : Path) : Fs := fs.set p ⟨0o666, 0, 0⟩

/-- `idtools.MkdirAs(p, perm, uid, gid)`: `p` is created with `perm` if absent, and owned
by `uid:gid` afterwards. -/
def mkdirAs (fs : Fs) (p : Path) (perm uid gid : Nat) : Fs :=
  fs.set p ⟨(fs.get p).elim perm Node.perm, uid, gid⟩

/-- `idtools.MkdirAllAs(p, perm, uid, gid)`: every absent ancestor of `p` is created with
`perm` and owned by `uid:gid`, and then `p` as by `MkdirAs`. -/
def mkdirAllAs (fs : Fs) (p : Path) (perm uid gid : Nat) : Fs :=
  let fs := ((p.inits.drop 1).dropLast).foldl
    (fun fs q => if fs.get q = none then fs.set q ⟨perm, uid, gid⟩ else fs) fs
  fs.mkdirAs p perm uid gid

/-- Looking up through a filter on paths. -/
theorem get_keep (fs : Fs) (f : Path → Bool) (p : Path) :
    (fs.keep f).get p = if f p then fs.get p else none := by
  induction fs with
  | nil => simp [keep, get]
  | cons e fs ih =>
    obtain ⟨q, n⟩ := e
    simp only [keep] at ih ⊢
    by_cases hq : q = p
    · subst hq; cases hf : f q <;> simp [get, List.filter_cons, hf, ih]
    · cases hf : f q <;> simp [get, List.filter_cons, hf, hq, ih]

theorem get_removeAll (fs : Fs) (d p : Path) :
    (fs.removeAll d).get p = if d <+: p then none else fs.get p := by
  rw [removeAll, get_keep]; split <;> simp_all

@[simp] theorem get_removeAll_of_prefix {fs : Fs} {d p : Path} (h : d <+: p) :
    (fs.removeAll d).get p = none := by
  simp [get_removeAll, h]

@[simp] theorem get_removeAll_of_not_prefix {fs : Fs} {d p : Path} (h : ¬ d <+: p) :
    (fs.removeAll d).get p = fs.get p := by
  simp [get_removeAll, h]

@[simp] theorem get_set_self (fs : Fs) (p : Path) (n : Node) : (fs.set p n).get p = some n := by
  simp [set, get]

theorem get_set_of_ne {fs : Fs} {p q : Path} (n : Node) (h : q ≠ p) :
    (fs.set p n).get q = fs.get q := by
  simp [set, get, Ne.symm h, get_keep, h]

theorem get_mkdirAs_self (fs : Fs) (p : Path) (perm uid gid : Nat) :
    (fs.mkdirAs p perm uid gid).get p = some ⟨(fs.get p).elim perm Node.perm, uid, gid⟩ :=
  get_set_self _ _ _

theorem get_mkdirAs_of_ne {fs : Fs} {p q : Path} (perm uid gid : Nat) (h : q ≠ p) :
    (fs.mkdirAs p perm uid gid).get q = fs.get q :=
  get_set_of_ne _ h

/-- Writing a node keeps every present path present. -/
theorem exists_set {fs : Fs} {q : Path} (p : Path) (n : Node) (h : fs.Exists q) :
    (fs.set p n).Exists q := by
  by_cases hq : q = p
  · subst hq; simp [Exists]
  · rwa [Exists, get_set_of_ne n hq]

theorem exists_foldl_set {α : Type} {fs : Fs} {q : Path} (f : α → Path) (n : Node) (l : List α)
    (h : fs.Exists q) : (l.foldl (fun fs i => fs.set (f i) n) fs).Exists q := by
  induction l generalizing fs with
  | nil => exact h
  | cons i l ih => exact ih (exists_set _ _ h)

/-- `MkdirAllAs(p, …)` leaves `p` present. -/
theorem exists_mkdirAllAs (fs : Fs) (p : Path) (perm uid gid : Nat) :
    (fs.mkdirAllAs p perm uid gid).Exists p := by
  simp [mkdirAllAs, mkdirAs, Exists]

/-! ### What an operation removes -/

/-- Going from `fs` to `fs'` removes only paths that satisfy `P`. -/
def RemovesOnly (P : Path → Prop) (fs fs' : Fs) : Prop :=
  ∀ p, fs.get p ≠ none → fs'.get p = none → P p

namespace RemovesOnly

variable {P Q : Path → Prop} {fs fs' fs'' : Fs}

theorem refl (P : Path → Prop) (fs : Fs) : RemovesOnly P fs fs := fun _ h h' => absurd h' h

theorem trans (h1 : RemovesOnly P fs fs') (h2 : RemovesOnly P fs' fs'') : RemovesOnly P fs fs'' :=
  fun p hp hp'' => if hp' : fs'.get p = none then h1 p hp hp' else h2 p hp' hp''

theorem mono (h : RemovesOnly P fs fs') (hPQ : ∀ p, P p → Q p) : RemovesOnly Q fs fs' :=
  fun p hp hp' => hPQ p (h p hp hp')

/-- A loop whose every step removes only paths that satisfy `P`. -/
theorem foldl {α : Type} (f : Fs → α → Fs) (hf : ∀ fs a, RemovesOnly P fs (f fs a)) :
    ∀ (l : List α) (fs : Fs), RemovesOnly P fs (l.foldl f fs)
  | [], fs => refl P fs
  | a :: l, fs => (hf fs a).trans (foldl f hf l (f fs a))

end RemovesOnly

theorem removesOnly_set (P : Path → Prop) (fs : Fs) (q : Path) (n : Node) :
    RemovesOnly P fs (fs.set q n) := fun p _ hp' => by
  by_cases h : p = q
  · subst h; simp at hp'
  · exact absurd ((get_set_of_ne n h).symm.trans hp') ‹_›

theorem removesOnly_mkdirAs (P : Path → Prop) (fs : Fs) (q : Path) (perm uid gid : Nat) :
    RemovesOnly P fs (fs.mkdirAs q perm uid gid) := removesOnly_set P fs q _

theorem removesOnly_create (P : Path → Prop) (fs : Fs) (q : Path) :
    RemovesOnly P fs (fs.create q) := removesOnly_set P fs q _

theorem removesOnly_mkdirAllAs (P : Path → Prop) (fs : Fs) (q : Path) (perm uid gid : Nat) :
    RemovesOnly P fs (fs.mkdirAllAs q perm uid gid) :=
  (RemovesOnly.foldl _ (fun fs a => by
      split
      · exact removesOnly_set P fs a _
      · exact .refl P fs) _ fs).trans (removesOnly_mkdirAs P _ q perm uid gid)

/-- `os.RemoveAll(d)` removes only paths under `d`. -/
theorem removesOnly_removeAll (fs : Fs) (d : Path) : RemovesOnly (d <+: ·) fs (fs.removeAll d) :=
  fun p hp hp' => by
    rw [get_removeAll] at hp'
    by_contra h
    exact hp (by rwa [if_neg h] at hp')

end Fs

end ContainerLifecycle
