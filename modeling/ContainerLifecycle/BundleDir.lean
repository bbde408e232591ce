import Mathlib.Data.List.Forall2
import ContainerLifecycle.System

/-! # Bundle directories

Where `Create` puts a container, and what it may remove there.

**The bundle directory.**  `prepareBundleDir` walks the state directory from `/`, one
component at a time.  A prefix that is present with the others-execute bit set is kept;
any other prefix is renamed by appending `".<uid>.<gid>"` (`idSuffix`) to its last
component and created by `MkdirAs(…, 0700, uid, gid)`, and the walk goes on below the
renamed prefix.  For a clean absolute state directory the result has the shape of the
state directory, component by component (`prepareBundleDir_spec`), so all bundle
directories of one client have the same number of components (`BundleRoot.length_eq`).

**What `Create` removes.**  The initial clean and both rollbacks remove the container's
directory with `RemoveAll`; every other step of `Create` only creates.  So each step of a
`Create(id)` call removes only paths under `join dir id` for the bundle directory `dir`
of the call (`create_removes_only_own_dir`).  That directory is a child of `dir` only for a
plain name: the id reaches `filepath.Join` unvalidated, and `""`, `"."`, `".."` or a
name with a slash make it the bundle directory itself, its parent, or a directory inside
another container's.
-/
namespace ContainerLifecycle

/-- `".<uid>.<gid>"`, which `prepareBundleDir` appends to a component it cannot use. -/
def idSuffix (uid gid : Nat) : String := "." ++ toString uid ++ "." ++ toString gid

theorem append_idSuffix_ne (d : String) (uid gid : Nat) : d ++ idSuffix uid gid ≠ d := by
  intro h
  have := congrArg String.length h
  simp only [idSuffix, String.length_append] at this
  have : ".".length = 1 := rfl
  omega

@[simp] theorem suffix_concat (p : Path) (d s : String) : suffix (p ++ [d]) s = p ++ [d ++ s] := by
  simp [suffix]

/-! ## The walk of `prepareBundleDir` -/

section prepareLoop

variable {uid gid : Nat} {statErr mkdirErr : Path → Option String}

/-- The walk only creates directories. -/
theorem prepareLoop_removesOnly (P : Path → Prop) :
    ∀ (ds : List String) (p : Path) (fs : Fs),
      fs.RemovesOnly P (prepareLoop uid gid statErr mkdirErr p fs ds).1
  | [], _, fs => .refl P fs
  | d :: ds, p, fs => by
    simp only [prepareLoop]
    split
    · exact .refl P fs
    · split
      · split
        · exact .refl P fs
        · exact (Fs.removesOnly_mkdirAs P fs _ _ _ _).trans (prepareLoop_removesOnly P ds _ _)
      · exact prepareLoop_removesOnly P ds _ _

/-- One turn of a successful walk over a plain component `d`: the prefix `p ++ [d]` is
renamed with the ids' suffix and created, or it is present with the others-execute bit set
and kept. -/
theorem prepareLoop_cons {d : String} {ds : List String} {p r : Path} {fs fs' : Fs}
    (hd : PlainName d) (h : prepareLoop uid gid statErr mkdirErr p fs (d :: ds) = (fs', .ok r)) :
    prepareLoop uid gid statErr mkdirErr (p ++ [d ++ idSuffix uid gid])
        (fs.mkdirAs (p ++ [d ++ idSuffix uid gid]) 0o700 uid gid) ds = (fs', .ok r) ∨
      (∃ n, fs.get (p ++ [d]) = some n ∧ n.perm % 2 = 1) ∧
        prepareLoop uid gid statErr mkdirErr (p ++ [d]) fs ds = (fs', .ok r) := by
  simp only [prepareLoop, join_of_plain hd] at h
  split at h
  · cases h
  split at h
  · simp only [suffix_concat] at h
    split at h
    · cases h
    · exact .inl h
  · rename_i hx
    refine .inr ⟨?_, h⟩
    revert hx
    cases fs.get (p ++ [d]) with
    | none => simp
    | some n => simp only [Option.all_some, decide_eq_true_eq]; exact fun h => ⟨n, rfl, by omega⟩

/-- **The walk, component by component.**  From the prefix `p` over plain components
`ds`, a successful walk extends `p` by one component per component of `ds`: that
component, or it followed by `idSuffix uid gid`.  A suffixed prefix then holds the node
`MkdirAs(…, 0700, uid, gid)` leaves on `fs0`, and an unsuffixed one was present in `fs0`
with the others-execute bit set; `fs0` is any file system that agrees with the walk's
below `p`.  Paths no longer than `p` are untouched. -/
theorem prepareLoop_spec {fs0 : Fs} : ∀ {ds : List String}, (∀ d ∈ ds, PlainName d) →
    ∀ {p : Path} {fs fs' : Fs} {r : Path}, (∀ q : Path, p.length < q.length → fs.get q = fs0.get q) →
    prepareLoop uid gid statErr mkdirErr p fs ds = (fs', .ok r) →
    ∃ r', r = p ++ r' ∧ List.Forall₂ (fun d e => e = d ∨ e = d ++ idSuffix uid gid) ds r' ∧
      (∀ k d, ds[k]? = some d → r'[k]? = some (d ++ idSuffix uid gid) →
        fs'.get (p ++ r'.take (k + 1)) =
          (fs0.mkdirAs (p ++ r'.take (k + 1)) 0o700 uid gid).get (p ++ r'.take (k + 1))) ∧
      (∀ k d, ds[k]? = some d → r'[k]? = some d →
        ∃ n, fs0.get (p ++ r'.take (k + 1)) = some n ∧ n.perm % 2 = 1) ∧
      ∀ q : Path, q.length ≤ p.length → fs'.get q = fs.get q
  | [], _, p, fs, fs', r, _, h => by
    simp only [prepareLoop, Prod.mk.injEq, Except.ok.injEq] at h
    obtain ⟨rfl, rfl⟩ := h
    exact ⟨[], by simp, .nil, by simp, by simp, fun _ _ => rfl⟩
  | d :: ds, hds, p, fs, fs', r, hagree, h => by
    have hds' : ∀ d ∈ ds, PlainName d := fun d' h' => hds d' (List.mem_cons_of_mem _ h')
    rcases prepareLoop_cons (hds d (List.mem_cons_self _ _)) h with h | ⟨⟨n, hn, hodd⟩, h⟩
    · -- renamed and created
      set p1 := p ++ [d ++ idSuffix uid gid]
      have hagree1 : ∀ q : Path, p1.length < q.length →
          (fs.mkdirAs p1 0o700 uid gid).get q = fs0.get q := fun q hq => by
        rw [Fs.get_mkdirAs_of_ne _ _ _ (ne_of_apply_ne List.length (by omega))]
        exact hagree q (by simp [p1] at hq ⊢; omega)
      obtain ⟨r', rfl, hF, hsuf, hun, hframe⟩ := prepareLoop_spec hds' hagree1 h
      refine ⟨(d ++ idSuffix uid gid) :: r', by simp [p1], .cons (.inr rfl) hF, ?_, ?_, ?_⟩
      · rintro (_ | k) d' hk hr
        · simp only [List.take_succ_cons, List.take_zero]
          rw [hframe p1 le_rfl, Fs.get_mkdirAs_self, Fs.get_mkdirAs_self,
            hagree p1 (by simp [p1])]
        · simp only [List.getElem?_cons_succ] at hk hr
          simpa [p1] using hsuf k d' hk hr
      · rintro (_ | k) d' hk hr
        · simp only [List.getElem?_cons_zero, Option.some.injEq] at hk hr
          exact absurd (hk ▸ hr) (append_idSuffix_ne d uid gid)
        · simp only [List.getElem?_cons_succ] at hk hr
          simpa [p1] using hun k d' hk hr
      · intro q hq
        rw [hframe q (by simp [p1]; omega),
          Fs.get_mkdirAs_of_ne _ _ _ (ne_of_apply_ne List.length (by simp [p1]; omega))]
    · -- present with the others-execute bit: kept
      obtain ⟨r', rfl, hF, hsuf, hun, hframe⟩ :=
        prepareLoop_spec hds' (fun q hq => hagree q (by simp at hq; omega)) h
      refine ⟨d :: r', by simp, .cons (.inl rfl) hF, ?_, ?_, ?_⟩
      · rintro (_ | k) d' hk hr
        · simp only [List.getElem?_cons_zero, Option.some.injEq] at hk hr
          exact absurd (hk ▸ hr.symm) (append_idSuffix_ne d' uid gid)
        · simp only [List.getElem?_cons_succ] at hk hr
          simpa using hsuf k d' hk hr
      · rintro (_ | k) d' hk hr
        · exact ⟨n, by simpa [← hagree (p ++ [d]) (by simp)] using hn, hodd⟩
        · simp only [List.getElem?_cons_succ] at hk hr
          simpa using hun k d' hk hr
      · exact fun q hq => hframe q (by simp; omega)

end prepareLoop

/-! ## `prepareBundleDir` -/

theorem prepareBundleDir_removesOnly (P : Path → Prop) {root : Path} {uid gid : Nat}
    {statErr mkdirErr : Path → Option String} {fs fs' : Fs} {res : Except String Path}
    (hp : prepareBundleDir root uid gid statErr mkdirErr fs = (fs', res)) : fs.RemovesOnly P fs' := by
  unfold prepareBundleDir at hp
  split at hp
  · cases hp; exact .refl P fs
  · have : fs.RemovesOnly P
        (prepareLoop uid gid statErr mkdirErr [] fs (if root = [] then [""] else root)).1 :=
      prepareLoop_removesOnly P _ [] fs
    rwa [hp] at this

/-- **The bundle directory.**  Over a clean absolute state directory `root` other than `/`:
for uid and gid `0` the result is `root` itself.  Otherwise, whenever no error is
returned, the result has one component per component of `root`, that component or it
followed by `".<uid>.<gid>"`.  A prefix of the result that ends in a suffixed component
holds the node `MkdirAs(…, 0700, uid, gid)` leaves on the original file system, and a
prefix that ends in an unsuffixed component was present with the others-execute bit set. -/
theorem prepareBundleDir_spec {root : Path} (hroot : root ≠ []) (hclean : Clean root)
    (uid gid : Nat) (statErr mkdirErr : Path → Option String) (fs : Fs) :
    (uid = 0 ∧ gid = 0 → prepareBundleDir root uid gid statErr mkdirErr fs = (fs, .ok root)) ∧
    ∀ fs' r, ¬ (uid = 0 ∧ gid = 0) →
      prepareBundleDir root uid gid statErr mkdirErr fs = (fs', .ok r) →
      List.Forall₂ (fun d e => e = d ∨ e = d ++ idSuffix uid gid) root r ∧
      (∀ k d, root[k]? = some d → r[k]? = some (d ++ idSuffix uid gid) →
        fs'.get (r.take (k + 1)) = (fs.mkdirAs (r.take (k + 1)) 0o700 uid gid).get (r.take (k + 1))) ∧
      (∀ k d, root[k]? = some d → r[k]? = some d →
        ∃ n, fs.get (r.take (k + 1)) = some n ∧ n.perm % 2 = 1) := by
  refine ⟨fun h0 => if_pos h0, fun fs' r h0 h => ?_⟩
  rw [prepareBundleDir, if_neg h0, if_neg hroot] at h
  obtain ⟨r', rfl, hF, hsuf, hun, -⟩ := prepareLoop_spec hclean (fun _ _ => rfl) h
  exact ⟨hF, by simpa using hsuf, by simpa using hun⟩

theorem prepareBundleDir_spec_var_run :
    ["var", "run"] ≠ [] ∧ Clean ["var", "run"] ∧
      prepareBundleDir ["var", "run"] 1000 1000 (fun _ => none) (fun _ => none)
          [(["var"], ⟨0o755, 0, 0⟩)] =
        ([(["var", "run.1000.1000"], ⟨0o700, 1000, 1000⟩), (["var"], ⟨0o755, 0, 0⟩)],
          .ok ["var", "run.1000.1000"]) ∧
      List.Forall₂ (fun d e => e = d ∨ e = d ++ idSuffix 1000 1000) ["var", "run"]
        ["var", "run.1000.1000"] :=
  have hrun : prepareBundleDir ["var", "run"] 1000 1000 (fun _ => none) (fun _ => none)
      [(["var"], ⟨0o755, 0, 0⟩)] =
      ([(["var", "run.1000.1000"], ⟨0o700, 1000, 1000⟩), (["var"], ⟨0o755, 0, 0⟩)],
        .ok ["var", "run.1000.1000"]) := rfl
  ⟨by decide, by decide, hrun,
    ((prepareBundleDir_spec (by decide) (by decide) 1000 1000 _ _ _).2 _ _ (by decide) hrun).1⟩

/-- Over a clean state directory other than `/`, every bundle directory has as many
components as the state directory. -/
theorem BundleRoot.length_eq {root dir : Path} (hroot : root ≠ []) (hclean : Clean root)
    (h : BundleRoot root dir) : dir.length = root.length := by
  obtain ⟨uid, gid, statErr, mkdirErr, fs, fs', hp⟩ := h
  by_cases h0 : uid = 0 ∧ gid = 0
  · rw [prepareBundleDir, if_pos h0] at hp
    cases hp
    rfl
  · rw [prepareBundleDir, if_neg h0, if_neg hroot] at hp
    obtain ⟨r', rfl, hF, -⟩ := prepareLoop_spec hclean (fun _ _ => rfl) hp
    exact hF.length_eq.symm

/-! ## What `Create` removes -/

/-- `clean` removes only paths under the container's directory. -/
theorem Container.clean_removesOnly {ctr : Container} {noclean : Bool} {fs fs' : Fs}
    {o : CleanOutcome} {err : Option String} (h : ctr.clean noclean fs o = (fs', err)) :
    fs.RemovesOnly (ctr.dir <+: ·) fs' := by
  have hg := ctr.clean_get noclean fs o
  rw [h] at hg
  exact fun p hp hp' => ((hg p).resolve_left fun h' => hp (h' ▸ hp')).1

namespace Client

variable {c : Client} {a : CreateArgs} {o : CreateOutcome}

/-- `p` lies under the directory a `Create` with arguments `a` and outcomes `o` uses over
`c`: `join dir a.containerID`, for the bundle directory `dir` that `prepareBundleDir`
returns to it. -/
def UnderCreateDir (c : Client) (a : CreateArgs) (o : CreateOutcome) (p : Path) : Prop :=
  ∃ uid gid fs dir, o.rootIDs = .ok (uid, gid) ∧
    prepareBundleDir c.stateDir uid gid o.statErr o.mkdirErr c.fs = (fs, .ok dir) ∧
    join dir a.containerID <+: p

theorem rollback_removesOnly (c : Client) (h : Nat) (id : String) (o' : CleanOutcome) :
    c.fs.RemovesOnly ((c.heap h).dir <+: ·) (c.rollback h id o').fs :=
  Container.clean_removesOnly rfl

/-- The rollback of a later state of the same container. -/
theorem rollback_removesOnly_of {c c' : Client} {h : Nat} {id : String} {o' : CleanOutcome}
    (hfs : c'.fs = c.fs) (hd : (c'.heap h).dir = (c.heap h).dir) :
    c.fs.RemovesOnly ((c.heap h).dir <+: ·) (c'.rollback h id o').fs :=
  hd ▸ hfs ▸ rollback_removesOnly c' h id o'

/-- A `createSetup` that returns removes only under the directory of its `Create`. -/
theorem createSetup_error_removesOnly {c1 : Client} {err : String}
    (hs : c.createSetup a o = .error (c1, err)) :
    c.fs.RemovesOnly (UnderCreateDir c a o) c1.fs := by
  unfold createSetup at hs
  split at hs
  · cases hs; exact .refl _ _
  split at hs
  · cases hs; exact .refl _ _
  rename_i uid gid hr
  split at hs
  · cases hs
    exact prepareBundleDir_removesOnly _ ‹_›
  rename_i fs dir hp
  dsimp only at hs
  split at hs
  · cases hs
    rename_i fs' _ hcl
    obtain ⟨hd, -⟩ := newContainer_heap (c := { c with fs }) (join dir a.containerID) a.options
    refine (prepareBundleDir_removesOnly _ hp).trans ?_
    exact (Container.clean_removesOnly hcl).mono fun p hp' => ⟨uid, gid, fs, dir, hr, hp, hd ▸ hp'⟩
  · cases hs

/-- A `createSetup` that goes on allocates handle `c.next`, in `join dir id` for the
bundle directory `dir` of the call, and has removed only paths under it. -/
theorem createSetup_dir {c1 : Client} {h uid gid : Nat}
    (hs : c.createSetup a o = .ok (c1, h, uid, gid)) :
    h = c.next ∧ c1.next = c.next + 1 ∧ ∃ fs dir, o.rootIDs = .ok (uid, gid) ∧
      prepareBundleDir c.stateDir uid gid o.statErr o.mkdirErr c.fs = (fs, .ok dir) ∧
      (c1.heap h).dir = join dir a.containerID ∧
      c.fs.RemovesOnly (join dir a.containerID <+: ·) c1.fs := by
  unfold createSetup at hs
  split at hs
  · cases hs
  split at hs
  · cases hs
  rename_i uid' gid' hr
  split at hs
  · cases hs
  rename_i fs dir hp
  dsimp only at hs
  split at hs
  · cases hs
  rename_i fs' hcl
  simp only [Except.ok.injEq, Prod.mk.injEq] at hs
  obtain ⟨rfl, rfl, rfl, rfl⟩ := hs
  obtain ⟨hd, -⟩ := newContainer_heap (c := { c with fs }) (join dir a.containerID) a.options
  refine ⟨rfl, rfl, fs, dir, hr, hp, hd, (prepareBundleDir_removesOnly _ hp).trans ?_⟩
  exact hd ▸ Container.clean_removesOnly hcl

/-- Up to `appendContainer`, `Create` removes only under its directory: the initial clean
and the rollback of an early failure remove it, every other step only creates. -/
theorem createBegin_removesOnly :
    c.fs.RemovesOnly (UnderCreateDir c a o) (c.createBegin a o).client.fs := by
  unfold createBegin
  split
  · exact createSetup_error_removesOnly ‹_›
  rename_i c1 h uid gid hs
  obtain ⟨-, -, fs, dir, hr, hp, hd, hrem⟩ := createSetup_dir hs
  have hQ : ∀ p, (c1.heap h).dir <+: p → UnderCreateDir c a o p :=
    fun p hp' => ⟨uid, gid, fs, dir, hr, hp, hd ▸ hp'⟩
  refine (hrem.mono fun p hp' => hQ p (hd ▸ hp')).trans (Fs.RemovesOnly.mono ?_ hQ)
  have mk := Fs.removesOnly_mkdirAllAs ((c1.heap h).dir <+: ·) c1.fs (c1.heap h).dir 0o700 uid gid
  have cr := fun p => Fs.removesOnly_create ((c1.heap h).dir <+: ·) (c1.fs.mkdirAllAs
    (c1.heap h).dir 0o700 uid gid) p
  dsimp only
  repeat' split
  all_goals dsimp only [CreateStage.client]
  all_goals first
    | exact rollback_removesOnly c1 h _ _
    | exact mk.trans (rollback_removesOnly { c1 with fs := _ } h _ _)
    | exact mk.trans ((cr _).trans (rollback_removesOnly { c1 with fs := _ } h _ _))
    | exact mk.trans (cr _)
    | exact mk.trans ((cr _).trans (Fs.RemovesOnly.foldl _ (fun _ _ => Fs.removesOnly_set _ _ _ _) _ _))

/-- A `Create` that registers its container allocated it: the handle is new. -/
theorem createBegin_registered_handle {c' : Client} {h : Nat}
    (hb : c.createBegin a o = .registered c' h) : c.next ≤ h ∧ h < c'.next := by
  unfold createBegin at hb
  split at hb
  · cases hb
  rename_i c1 h1 uid gid hs
  obtain ⟨rfl, hn, -⟩ := createSetup_dir hs
  dsimp only at hb
  repeat' split at hb
  all_goals first
    | cases hb; done
    | obtain ⟨rfl, rfl⟩ := CreateStage.registered.inj hb
      exact ⟨le_rfl, by simp only [appendContainer, openFifos, hn]; omega⟩

/-- The rest of `Create` removes only under the directory of its container: the rollback
removes it, and nothing else is removed. -/
theorem createFinish_removesOnly (h : Nat) :
    c.fs.RemovesOnly ((c.heap h).dir <+: ·) (c.createFinish a h o).1.fs := by
  unfold createFinish
  dsimp only
  repeat' split
  all_goals first
    | exact .refl _ _
    | exact rollback_removesOnly c h _ _
    | exact rollback_removesOnly_of rfl (by simp [setCtr])

end Client

/-! ## `Create` in the concurrent system -/

namespace Sys

/-- Every `Create` in flight holds a container it allocated: the handle is attributed to
the call's id. -/
def CreatingInv (s : Sys) : Prop :=
  ∀ a o h, Thread.creating a o h ∈ s.threads → s.createdBy h = some a.containerID ∧ h < s.client.next

/-- What a step does to the `Create` calls in flight: each one after the step was in
flight before it, or was registered by this step, under a handle it allocated and
attributed to its id. -/
theorem exec_creating {s s' : Sys} {act : Action} (hx : s.exec act = some s') {a : CreateArgs}
    {o : CreateOutcome} {h : Nat} (ht : Thread.creating a o h ∈ s'.threads) :
    Thread.creating a o h ∈ s.threads ∨
      (s'.createdBy h = some a.containerID ∧ s.client.next ≤ h ∧ h < s'.client.next) := by
  cases act with
  | deliver _ | trigger _ =>
    obtain ⟨_, -, rfl⟩ := Option.map_eq_some'.mp hx
    exact .inl (by simpa using ht)
  | handle _ _ | finish _ =>
    simp only [exec] at hx
    repeat' split at hx
    all_goals cases hx
    all_goals exact .inl (List.mem_of_mem_eraseIdx ht)
  | create _ _ =>
    simp only [exec] at hx
    split at hx
    · split at hx <;> cases hx
      · exact .inl ht
      · rename_i hb
        simp only [List.mem_append, List.mem_singleton, Thread.creating.injEq] at ht
        rcases ht with ht | ⟨rfl, rfl, rfl⟩
        · exact .inl ht
        · obtain ⟨h1, h2⟩ := Client.createBegin_registered_handle hb
          exact .inr ⟨by simp [attributed, h1, h2], h1, h2⟩
    · cases hx
  | runQueue _ =>
    obtain ⟨_, -, rfl⟩ := Option.map_eq_some'.mp hx
    exact .inl ht
  | register _ => cases hx; exact .inl ht

theorem CreatingInv.step {s s' : Sys} {act : Action} (hi : s.CreatingInv)
    (hx : s.exec act = some s') : s'.CreatingInv := by
  intro a o h ht
  rcases exec_creating hx ht with ht | ⟨hc, -, hlt⟩
  · have hf := exec_spec hx
    obtain ⟨hc, hlt⟩ := hi a o h ht
    exact ⟨(hf.old h hlt).trans hc, lt_of_lt_of_le hlt hf.names.next_le⟩
  · exact ⟨hc, hlt⟩

theorem creatingInv {s : Sys} (hs : Reachable s) : s.CreatingInv := by
  induction hs with
  | init => exact fun _ _ _ h => absurd h (List.not_mem_nil _)
  | step _ hx ih => exact ih.step hx

/-- The first section of a `Create` removes only under the directory of that call. -/
theorem exec_create_removesOnly {s s' : Sys} {a : CreateArgs} {o : CreateOutcome}
    (hx : s.exec (.create a o) = some s') :
    s.client.fs.RemovesOnly (s.client.UnderCreateDir a o) s'.client.fs := by
  simp only [exec] at hx
  split at hx
  · have := Client.createBegin_removesOnly (c := s.client) (a := a) (o := o)
    split at hx <;> rename_i hb <;> rw [hb] at this <;> cases hx <;> exact this
  · cases hx

/-- The rest of a `Create(id)` in flight removes only under its container's directory,
the join of a bundle directory and `id`. -/
theorem exec_finish_removesOnly {s s' : Sys} (ht : TableInv s) (hc : s.CreatingInv) {i : Nat}
    {a : CreateArgs} {o : CreateOutcome} {h : Nat} (hi : s.threads.get? i = some (.creating a o h))
    (hx : s.exec (.finish i) = some s') :
    ∃ dir, BundleRoot s.client.stateDir dir ∧ (s.client.heap h).dir = join dir a.containerID ∧
      s.client.fs.RemovesOnly (join dir a.containerID <+: ·) s'.client.fs := by
  simp only [exec, hi] at hx
  cases hx
  obtain ⟨hcr, hlt⟩ := hc a o h (List.get?_mem hi)
  obtain ⟨id, dir, hcb, hr, hd, -⟩ := ht.made h hlt
  rw [hcr] at hcb
  cases hcb
  exact ⟨dir, hr, hd, hd ▸ Client.createFinish_removesOnly h⟩

/-- Over a clean state directory other than `/`, the join of a bundle directory and a plain
name that is not live is apart from the directory of every live container created with a
plain name. -/
theorem TableInv.plain_apart {s : Sys} (ht : TableInv s) (hne : s.client.stateDir ≠ [])
    (hclean : Clean s.client.stateDir) {id : String} {dir : Path}
    (hdir : BundleRoot s.client.stateDir dir) (hp : PlainName id)
    (hnl : s.client.containers id = none) {k : String} {h : Nat} {id' : String}
    (hk : s.client.containers k = some h) (hcb : s.createdBy h = some id') (hp' : PlainName id') :
    ¬ (s.client.heap h).dir <+: join dir id ∧ ¬ join dir id <+: (s.client.heap h).dir := by
  obtain ⟨hkey, hlt⟩ := ht.key k h hk
  obtain ⟨id'', dir', hcb', hr', hd', hn'⟩ := ht.made h hlt
  rw [hcb] at hcb'
  cases hcb'
  have hne' : id ≠ id' := by
    rintro rfl
    rw [← hkey, hn', base_join_of_plain hp'] at hk
    simp [hnl] at hk
  rw [hd']
  exact join_plain_apart (by rw [BundleRoot.length_eq hne hclean hdir,
    BundleRoot.length_eq hne hclean hr']) hp hp' hne'

/-- **What a `Create` removes.**  In every reachable state: the first section of a
`Create(id)` — its initial clean, and the rollback of a failure before the container is
registered — removes only paths under `join dir id`, for the bundle directory `dir`
`prepareBundleDir` returns to it; the rest of a `Create(id)` in flight, its rollback
included, removes only paths under its container's directory, `join dir id` for a bundle
directory `dir` of the state directory.  Over a clean state directory other than `/`, for a
plain name `id` that is not live, `join dir id` is the child `dir/id` of any bundle directory
`dir`, and it neither contains nor lies under the directory of any live container created
with a plain name. -/
theorem create_removes_only_own_dir {s : Sys} (hs : Reachable s) :
    (∀ a o s', s.exec (.create a o) = some s' →
      s.client.fs.RemovesOnly (s.client.UnderCreateDir a o) s'.client.fs) ∧
    (∀ i a o h s', s.threads.get? i = some (.creating a o h) → s.exec (.finish i) = some s' →
      ∃ dir, BundleRoot s.client.stateDir dir ∧ (s.client.heap h).dir = join dir a.containerID ∧
        s.client.fs.RemovesOnly (join dir a.containerID <+: ·) s'.client.fs) ∧
    (s.client.stateDir ≠ [] → Clean s.client.stateDir → ∀ id dir, BundleRoot s.client.stateDir dir →
      PlainName id → s.client.containers id = none →
      join dir id = dir ++ [id] ∧ ∀ k h id', s.client.containers k = some h →
        s.createdBy h = some id' → PlainName id' →
        ¬ (s.client.heap h).dir <+: join dir id ∧ ¬ join dir id <+: (s.client.heap h).dir) := by
  have ht : TableInv s := hs.of_frame (fun _ => TableInv.init) fun _ _ hi hf => hi.step hf
  exact ⟨fun _ _ _ => exec_create_removesOnly,
    fun _ _ _ _ _ => exec_finish_removesOnly ht (creatingInv hs),
    fun hne hclean _ dir hdir hp hnl => ⟨join_of_plain hp dir,
      fun _ _ _ => ht.plain_apart hne hclean hdir hp hnl⟩⟩

/-- `c1` created; a `Create("c3")` whose encoding of the spec fails and whose rollback
cannot remove its directory, which stays behind; and a `Create("c2")`, in flight with its
container registered, whose RPC is to fail. -/
def leftoverC3 : List Action :=
  [.create { containerID := "c1" } {}, .finish 0,
    .create { containerID := "c3" } { encode := some "encode", rollback := { removeErr := some "remove" } },
    .create { containerID := "c2" } { rpc := .error "rpc" }]

/-- After `leftoverC3`: the initial clean of a new `Create("c3")` removes the leftover
`/run/c3`, under the directory of that call; the rollback of `Create("c2")` removes
`/run/c2`, under a bundle directory joined with `"c2"`; and `/run/c4` is apart from the
directory of the live `c1`. -/
theorem create_removes_only_own_dir_leftover :
    ∃ s, (init Client.idle).run leftoverC3 = some s ∧
      (∃ s', s.exec (.create { containerID := "c3" } { mkdirAll := some "mkdir" }) = some s' ∧
        s.client.fs.get ["run", "c3"] ≠ none ∧ s'.client.fs.get ["run", "c3"] = none ∧
        s.client.UnderCreateDir { containerID := "c3" } { mkdirAll := some "mkdir" } ["run", "c3"]) ∧
      (∃ s', s.exec (.finish 0) = some s' ∧
        s.client.fs.get ["run", "c2"] ≠ none ∧ s'.client.fs.get ["run", "c2"] = none ∧
        ∃ dir, BundleRoot s.client.stateDir dir ∧ join dir "c2" <+: ["run", "c2"]) ∧
      join ["run"] "c4" = ["run", "c4"] ∧
      ¬ (s.client.heap 0).dir <+: ["run", "c4"] ∧ ¬ ["run", "c4"] <+: (s.client.heap 0).dir := by
  have h := create_removes_only_own_dir (reachable_of_run (.init ⟨_, _, _, _, rfl⟩)
    (rfl : (init Client.idle).run leftoverC3 = some _))
  obtain ⟨dir, hd, -, hrm⟩ := h.2.1 0 { containerID := "c2" } { rpc := .error "rpc" } 2 _ rfl rfl
  have hc4 := h.2.2 (by decide) (by decide) "c4" ["run"] ⟨0, 0, fun _ => none, fun _ => none, [], [], rfl⟩
    (by decide) (by decide)
  exact ⟨_, rfl, ⟨_, rfl, by decide, by decide,
      h.1 { containerID := "c3" } { mkdirAll := some "mkdir" } _ rfl _ (by decide) (by decide)⟩,
    ⟨_, rfl, by decide, by decide, dir, hd, (hrm : ∀ p, _) _ (by decide) (by decide)⟩,
    hc4.1, hc4.2 "c1" 0 "c1" rfl rfl (by decide)⟩

/-- Ids that are not plain names, while `c1` is live in `/run/c1`: `Create("")` uses the
bundle directory `/run` itself, and its initial clean removes the live `c1`'s directory;
`Create("..")` would use `/`; `Create("c1/x")` uses a directory inside `c1`'s. -/
theorem create_empty_id_cleans_live_bundle :
    join ["run"] "" = ["run"] ∧ join ["run"] ".." = [] ∧ join ["run"] "c1/x" = ["run", "c1", "x"] ∧
    ((init Client.idle).run [.create { containerID := "c1" } {}, .finish 0]).map
        (fun s => (s.client.containers "c1", (s.client.fs.get ["run", "c1"]).isSome)) =
      some (some 0, true) ∧
    ((init Client.idle).run [.create { containerID := "c1" } {}, .finish 0,
        .create { containerID := "" } {}]).map
        (fun s => (s.client.containers "c1", (s.client.fs.get ["run", "c1"]).isSome)) =
      some (some 0, false) := by
  decide

end Sys

end ContainerLifecycle
