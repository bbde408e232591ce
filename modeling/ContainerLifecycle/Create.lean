import ContainerLifecycle.Client

/-! # Creating a container

`client.Create` and the `container.start` it ends with, one call under the lock of the id
it was given.  Every system call and RPC the call makes can fail, and how each one goes is
an argument (`CreateOutcome`): the root uid/gid lookup, the `os.Stat` and `MkdirAs` calls
of `prepareBundleDir`, the clean of the container directory, `MkdirAllAs`, the creation
and encoding of `config.json`, its read-back in `start`, `openFifos`, the caller's
`attachStdio`, the `CreateContainer` RPC, the final `backend.StateChanged`, and the clean
of the deferred rollback.

The call is split where other goroutines can see it: `createBegin` runs up to
`appendContainer`, after which the container is in the live table while the RPC is in
flight; `createFinish` runs from `attachStdio` to the return, the rollback included.  A
`Create` that runs alone is the one followed by the other (`create`).  The first steps,
until the deferred rollback is armed, are `createSetup`.

`prepareBundleDir` is the loop of the source over the components of the state
directory, threading the possibly renamed prefix `p`.  Its `filepath.Abs` is taken to
have succeeded: the state directory is kept absolute.
-/
namespace ContainerLifecycle

/-- What the modelled code reads of the OCI spec: whether the init process has a
terminal. -/
structure Spec where
  terminal : Bool
  deriving DecidableEq, Repr

/-- The arguments of `client.Create`: the id, the checkpoint and its directory, the spec,
and the runtime path and arguments of each `WithRuntime` option, in order. -/
structure CreateArgs where
  containerID : String
  checkpoint : String := ""
  checkpointDir : String := ""
  spec : Spec := ⟨false⟩
  options : List (String × List String) := []
  deriving DecidableEq, Repr

/-- How each step of one `Create` call goes: an error, or `none` for success; the RPC
gives the system pid of the container it created. -/
structure CreateOutcome where
  rootIDs : Except String (Nat × Nat) := .ok (0, 0)
  statErr : Path → Option String := fun _ => none
  mkdirErr : Path → Option String := fun _ => none
  clean : CleanOutcome := {}
  mkdirAll : Option String := none
  createConfig : Option String := none
  encode : Option String := none
  readBack : Option String := none
  openFifos : Option String := none
  attachStdio : Option String := none
  rpc : Except String Nat := .ok 1
  stateChanged : Option String := none
  rollback : CleanOutcome := {}

/-! ## The bundle directory -/

/-- `fmt.Sprintf("%s%s", p, s)`: `s` appended to the last component. -/
def suffix (p : Path) (s : String) : Path := p.dropLast ++ [p.getLastD "" ++ s]

/-- The loop of `prepareBundleDir`, from the prefix `p` over the components `ds` left. -/
def prepareLoop (uid gid : Nat) (statErr mkdirErr : Path → Option String) :
    Path → Fs → List String → Fs × Except String Path
  | p, fs, [] => (fs, .ok p)
  | p, fs, d :: ds =>
    let p := join p d
    match statErr p with
    | some err => (fs, .error err)
    | none =>
      if (fs.get p).all fun n => n.perm % 2 = 0 then
        let p := suffix p ("." ++ toString uid ++ "." ++ toString gid)
        match mkdirErr p with
        | some err => (fs, .error err)
        | none => prepareLoop uid gid statErr mkdirErr p (fs.mkdirAs p 0o700 uid gid) ds
      else prepareLoop uid gid statErr mkdirErr p fs ds

/-- `client.prepareBundleDir(uid, gid)` over the state directory `root`:
`strings.Split(root, "/")[1:]` is the list of `root`'s components, and `[""]` for `/`. -/
def prepareBundleDir (root : Path) (uid gid : Nat) (statErr mkdirErr : Path → Option String)
    (fs : Fs) : Fs × Except String Path :=
  if uid = 0 ∧ gid = 0 then (fs, .ok root)
  else prepareLoop uid gid statErr mkdirErr [] fs (if root = [] then [""] else root)

/-- `dir` is a directory `prepareBundleDir` returns over the state directory `root`, for
some ids and some outcomes of its system calls. -/
def BundleRoot (root dir : Path) : Prop :=
  ∃ uid gid statErr mkdirErr fs fs',
    prepareBundleDir root uid gid statErr mkdirErr fs = (fs', .ok dir)

namespace Client

variable (c : Client)

/-- `client.newContainer(dir, options...)`: a new container object at handle `c.next`,
named by the base of its directory, with each `WithRuntime` option applied in turn. -/
def newContainer (dir : Path) (options : List (String × List String)) : Client × Nat :=
  let ctr : Container :=
    { dir, containerID := base dir, friendlyName := InitFriendlyName, systemPid := 0,
      processes := fun _ => none, oom := false, runtime := "", runtimeArgs := [],
      pauseEvents := [] }
  let ctr := options.foldl (fun ctr rt => { ctr with runtime := rt.1, runtimeArgs := rt.2 }) ctr
  ({ c.setCtr c.next ctr with next := c.next + 1 }, c.next)

/-- The directory of the container a `Create` call makes: `filepath.Join(dir, containerID)`
for the bundle directory `dir` that `prepareBundleDir` returns to it, with the uid and gid
of `getRootIDs`; `none` when one of them returns an error. -/
def createDir (a : CreateArgs) (o : CreateOutcome) : Option Path :=
  match o.rootIDs with
  | .error _ => none
  | .ok (uid, gid) =>
    match prepareBundleDir c.stateDir uid gid o.statErr o.mkdirErr c.fs with
    | (_, .ok dir) => some (join dir a.containerID)
    | (_, .error _) => none

/-- Modelled from the spec: `openFifos` (absent from src) creates the FIFOs of the init
process in its bundle directory — stdin and stdout, and stderr unless a terminal is
requested — and opens them. -/
def openFifos (h : Nat) (terminal : Bool) : Client :=
  let fds := if terminal then [Fd.stdin, .stdout] else [Fd.stdin, .stdout, .stderr]
  { c with fs := fds.foldl (fun fs i => fs.set ((c.heap h).fifo i) ⟨0o700, 0, 0⟩) c.fs }

/-- The deferred function of `Create`, run when it returns an error: clean the container's
directory and delete the entry of the id `Create` was given. -/
def rollback (h : Nat) (id : String) (o : CleanOutcome) : Client :=
  { c.deleteContainer id with fs := ((c.heap h).clean c.noclean c.fs o).1 }

/-! ## `Create` -/

/-- The error of a `Create` on a live id: `fmt.Errorf("Container %s is already active")`. -/
def alreadyActive (id : String) : String := "Container " ++ id ++ " is already active"

/-- The steps of `Create` before its deferred rollback is armed: the liveness check, the
root ids, the bundle directory, the container object and the clean of its directory.
`.ok (c, h, uid, gid)` goes on with container `h`; `.error (c, err)` is a return. -/
def createSetup (a : CreateArgs) (o : CreateOutcome) :
    Except (Client × String) (Client × Nat × Nat × Nat) :=
  if (c.getContainer a.containerID).isSome then
    .error (c, alreadyActive a.containerID)
  else
    match o.rootIDs with
    | .error err => .error (c, err)
    | .ok (uid, gid) =>
      match prepareBundleDir c.stateDir uid gid o.statErr o.mkdirErr c.fs with
      | (fs, .error err) => .error ({ c with fs }, err)
      | (fs, .ok dir) =>
        let r := { c with fs }.newContainer (join dir a.containerID) a.options
        match (r.1.heap r.2).clean r.1.noclean r.1.fs o.clean with
        | (fs, some err) => .error ({ r.1 with fs }, err)
        | (fs, none) => .ok ({ r.1 with fs }, r.2, uid, gid)

/-- Where a `Create` call stands once its container is in the live table, or what it
returned before. -/
inductive CreateStage
  | returned (c : Client) (err : Option String)
  | registered (c : Client) (h : Nat)

/-- `Create` up to `appendContainer` in `start`.  After `createSetup` an error return runs
the rollback; a failed read-back of `config.json` returns `nil`. -/
def createBegin (a : CreateArgs) (o : CreateOutcome) : CreateStage :=
  match c.createSetup a o with
  | .error (c, err) => .returned c (some err)
  | .ok (c, h, uid, gid) =>
    let fail (c : Client) (err : String) :=
      CreateStage.returned (c.rollback h a.containerID o.rollback) (some err)
    let dir := (c.heap h).dir
    match o.mkdirAll with
    | some err => fail c err
    | none =>
    let c := { c with fs := c.fs.mkdirAllAs dir 0o700 uid gid }
    match o.createConfig with
    | some err => fail c err
    | none =>
    let c := { c with fs := c.fs.create (join dir configFilename) }
    match o.encode with
    | some err => fail c err
    | none =>
    match o.readBack with
    | some _ => .returned c none
    | none =>
    match o.openFifos with
    | some err => fail c err
    | none => .registered ((c.openFifos h a.spec.terminal).appendContainer h) h

/-- `Create` from `attachStdio` in `start` to its return, for the container `h` that
`createBegin` registered.  On success of the RPC the shim holds the container, its system
pid is recorded and `StateStart` is reported to the backend directly. -/
def createFinish (a : CreateArgs) (h : Nat) (o : CreateOutcome) : Client × Option String :=
  let fail (c : Client) (err : String) := (c.rollback h a.containerID o.rollback, some err)
  let ctr := c.heap h
  match o.attachStdio with
  | some err => fail c err
  | none =>
  match o.rpc with
  | .error err => fail c err
  | .ok pid =>
    let r : CreateContainerRequest :=
      { id := ctr.containerID, bundlePath := ctr.dir, stdin := ctr.fifo .stdin,
        stdout := ctr.fifo .stdout, stderr := ctr.fifo .stderr, checkpoint := a.checkpoint,
        checkpointDir := a.checkpointDir, noPivotRoot := c.ramdisk, runtime := ctr.runtime,
        runtimeArgs := ctr.runtimeArgs }
    let c := { c.setCtr h { ctr with systemPid := pid } with shim := c.shim ++ [r] }
    let c := { c with backend := c.backend ++ [⟨ctr.containerID, { state := StateStart, pid }, c.serial⟩]
                      serial := c.serial + 1 }
    match o.stateChanged with
    | some err => fail c err
    | none => (c, none)

/-- `client.Create`, run alone under the lock of its id. -/
def create (a : CreateArgs) (o : CreateOutcome) : Client × Option String :=
  match c.createBegin a o with
  | .returned c err => (c, err)
  | .registered c h => c.createFinish a h o

/-! ## What each part of `Create` does -/

variable {c} {a : CreateArgs} {o : CreateOutcome}

/-- A `Create` on a live id returns its error at once and changes nothing. -/
theorem createBegin_of_live (hl : c.containers a.containerID ≠ none) :
    c.createBegin a o = .returned c (some (alreadyActive a.containerID)) := by
  have hs : c.createSetup a o = .error (c, alreadyActive a.containerID) := by
    obtain ⟨h, hh⟩ := Option.ne_none_iff_exists'.mp hl
    simp [createSetup, getContainer, hh]
  simp [createBegin, hs]

theorem create_of_returned {c' : Client} {err : Option String}
    (hb : c.createBegin a o = .returned c' err) : c.create a o = (c', err) := by
  simp [create, hb]

theorem create_of_registered {c' : Client} {h : Nat}
    (hb : c.createBegin a o = .registered c' h) : c.create a o = c'.createFinish a h o := by
  simp [create, hb]

theorem newContainer_heap (dir : Path) (options : List (String × List String)) :
    ((c.newContainer dir options).1.heap (c.newContainer dir options).2).dir = dir ∧
    ((c.newContainer dir options).1.heap (c.newContainer dir options).2).containerID = base dir := by
  suffices ∀ (l : List (String × List String)) (ctr : Container),
      (l.foldl (fun ctr rt => { ctr with runtime := rt.1, runtimeArgs := rt.2 }) ctr).dir = ctr.dir ∧
      (l.foldl (fun ctr rt => { ctr with runtime := rt.1, runtimeArgs := rt.2 }) ctr).containerID =
        ctr.containerID by
    simpa [newContainer, setCtr] using this options _
  intro l
  induction l with
  | nil => simp
  | cons rt l ih => intro ctr; exact ih _

/-- Before the rollback is armed, `Create` touches neither the table, the shim nor the
backend; when it goes on, its container is in the directory of the call and named by the
base of it. -/
theorem createSetup_ok {c1 : Client} {h uid gid : Nat}
    (hs : c.createSetup a o = .ok (c1, h, uid, gid)) :
    c1.containers = c.containers ∧ c1.shim = c.shim ∧ c1.noclean = c.noclean ∧
    c.createDir a o = some (c1.heap h).dir ∧ (c1.heap h).containerID = base (c1.heap h).dir := by
  unfold createSetup at hs
  split at hs
  · cases hs
  split at hs
  · cases hs
  rename_i uid' gid' hr
  split at hs
  · cases hs
  rename_i fs dir hp
  dsimp only at hs
  split at hs
  · cases hs
  simp only [Except.ok.injEq, Prod.mk.injEq] at hs
  obtain ⟨rfl, rfl, -, -⟩ := hs
  obtain ⟨hd, hn⟩ := newContainer_heap (c := { c with fs }) (join dir a.containerID) a.options
  exact ⟨rfl, rfl, rfl, by simp [createDir, hr, hp, hd], by simp only [hn, hd]⟩

/-- The directory of a call is the join of a bundle directory and the id. -/
theorem createDir_join {d : Path} (h : c.createDir a o = some d) :
    ∃ dir, d = join dir a.containerID := by
  unfold createDir at h
  split at h
  · cases h
  · split at h
    · exact ⟨_, (Option.some.inj h).symm⟩
    · cases h

theorem createSetup_error {c1 : Client} {err : String}
    (hs : c.createSetup a o = .error (c1, err)) :
    c1.shim = c.shim ∧ (c.containers a.containerID = none → c1.containers a.containerID = none) := by
  unfold createSetup at hs
  split at hs
  · rename_i hl
    cases hs
    exact ⟨rfl, fun h => by simp [getContainer, h] at hl⟩
  split at hs
  · cases hs; exact ⟨rfl, id⟩
  split at hs
  · cases hs; exact ⟨rfl, id⟩
  dsimp only at hs
  split at hs
  · cases hs; exact ⟨rfl, id⟩
  · cases hs

/-- The rollback deletes the id's entry and, with cleaning enabled and its system calls
succeeding, leaves no container directory, nor anything under it if it was there. -/
theorem rollback_spec (h : Nat) (id : String) (o' : CleanOutcome) :
    (c.rollback h id o').containers id = none ∧ (c.rollback h id o').shim = c.shim ∧
    (c.noclean = false → o' = {} → (c.rollback h id o').fs.get (c.heap h).dir = none ∧
      (c.fs.Exists (c.heap h).dir → ∀ p, (c.heap h).dir <+: p → (c.rollback h id o').fs.get p = none)) :=
  ⟨by simp [rollback, deleteContainer], rfl, fun hn ho => Container.clean_removes hn ho⟩

theorem rollback_removes {fs : Fs} {d : Path} {h : Nat} {id : String} {o' : CleanOutcome}
    (hn : c.noclean = false) (ho : o' = {}) (hfs : c.fs = fs) (hd : (c.heap h).dir = d) :
    (c.rollback h id o').fs.get d = none ∧
      (fs.Exists d → ∀ p, d <+: p → (c.rollback h id o').fs.get p = none) :=
  hfs ▸ hd ▸ (rollback_spec h id o').2.2 hn ho

@[simp] theorem rollback_containers_self (h : Nat) (id : String) (o' : CleanOutcome) :
    (c.rollback h id o').containers id = none := (rollback_spec h id o').1

@[simp] theorem rollback_shim (h : Nat) (id : String) (o' : CleanOutcome) :
    (c.rollback h id o').shim = c.shim := rfl

/-- Once its rollback is armed, a `Create` that returns before registering its container
(the read-back succeeding) returns an error through the rollback, which runs where the
container directory is present if `MkdirAllAs` succeeded. -/
theorem createBegin_returned_of_ok {c1 c' : Client} {h uid gid : Nat} {err : Option String}
    (hs : c.createSetup a o = .ok (c1, h, uid, gid)) (hb : c.createBegin a o = .returned c' err)
    (hread : o.readBack = none) :
    ∃ (fs : Fs) (e : String), c' = { c1 with fs }.rollback h a.containerID o.rollback ∧
      err = some e ∧ (o.mkdirAll = none → fs.Exists (c1.heap h).dir) := by
  unfold createBegin at hb
  rw [hs] at hb
  dsimp only at hb
  have hmk := Fs.exists_mkdirAllAs c1.fs (c1.heap h).dir 0o700 uid gid
  split at hb
  · obtain ⟨rfl, rfl⟩ := CreateStage.returned.inj hb; exact ⟨_, _, rfl, rfl, by simp_all⟩
  split at hb
  · obtain ⟨rfl, rfl⟩ := CreateStage.returned.inj hb; exact ⟨_, _, rfl, rfl, fun _ => hmk⟩
  split at hb
  · obtain ⟨rfl, rfl⟩ := CreateStage.returned.inj hb
    exact ⟨_, _, rfl, rfl, fun _ => Fs.exists_set _ _ hmk⟩
  split at hb
  · simp_all
  split at hb
  · obtain ⟨rfl, rfl⟩ := CreateStage.returned.inj hb
    exact ⟨_, _, rfl, rfl, fun _ => Fs.exists_set _ _ hmk⟩
  · cases hb

/-- A `Create` that returns before its container is registered returns an error when the
read-back succeeds; it leaves the shim alone and an absent id absent, and once its rollback
is armed it leaves no container directory (cleaning enabled), nor anything under it if
`MkdirAllAs` made it. -/
theorem createBegin_returned {c' : Client} {err : Option String}
    (hb : c.createBegin a o = .returned c' err) (hread : o.readBack = none) :
    err ≠ none ∧ c'.shim = c.shim ∧
    (c.containers a.containerID = none → c'.containers a.containerID = none) ∧
    ∀ c1 h uid gid, c.createSetup a o = .ok (c1, h, uid, gid) → c.noclean = false →
      o.rollback = {} → c'.fs.get (c1.heap h).dir = none ∧
        (o.mkdirAll = none → ∀ p, (c1.heap h).dir <+: p → c'.fs.get p = none) := by
  cases hs : c.createSetup a o with
  | error r =>
    obtain ⟨c1, e⟩ := r
    have hb' : CreateStage.returned c1 (some e) = .returned c' err := by
      rw [← hb, createBegin, hs]
    obtain ⟨rfl, rfl⟩ := CreateStage.returned.inj hb'
    obtain ⟨hsh, hc⟩ := createSetup_error hs
    exact ⟨by simp, hsh, hc, fun _ _ _ _ h' => by cases h'⟩
  | ok r =>
    obtain ⟨c1, h, uid, gid⟩ := r
    obtain ⟨-, hsh, hn, -⟩ := createSetup_ok hs
    obtain ⟨fs, e, rfl, rfl, hex⟩ := createBegin_returned_of_ok hs hb hread
    obtain ⟨r1, r2, r3⟩ := rollback_spec (c := { c1 with fs }) h a.containerID o.rollback
    refine ⟨by simp, r2.trans hsh, fun _ => r1, fun c2 h2 u2 g2 h2s hn' ho => ?_⟩
    cases h2s
    obtain ⟨hd, hall⟩ := r3 (hn.trans hn') ho
    exact ⟨hd, fun hmk => hall (hex hmk)⟩

/-- A `Create` that registers its container has touched neither the shim nor any other
entry of the table; the entry is under the container's own `containerID`, and its
directory is present. -/
theorem createBegin_registered {c' : Client} {h : Nat} (hb : c.createBegin a o = .registered c' h) :
    ∃ c1 uid gid, c.createSetup a o = .ok (c1, h, uid, gid) ∧ c'.shim = c.shim ∧
      c'.noclean = c.noclean ∧ c'.heap = c1.heap ∧
      c'.containers = Function.update c.containers (c1.heap h).containerID (some h) ∧
      c'.fs.Exists (c1.heap h).dir := by
  unfold createBegin at hb
  split at hb
  · cases hb
  rename_i c1 h1 uid gid hs
  obtain ⟨hc, hsh, hn, -⟩ := createSetup_ok hs
  dsimp only at hb
  split at hb
  · cases hb
  split at hb
  · cases hb
  split at hb
  · cases hb
  split at hb
  · cases hb
  split at hb
  · cases hb
  obtain ⟨rfl, rfl⟩ := CreateStage.registered.inj hb
  refine ⟨c1, uid, gid, hs, hsh, hn, rfl, by rw [← hc]; rfl, ?_⟩
  exact Fs.exists_foldl_set _ _ _ (Fs.exists_set _ _ (Fs.exists_mkdirAllAs _ _ _ _ _))

/-- **`createFinish`, outcome by outcome.**  It returns `nil` exactly when `attachStdio`,
the RPC and `StateChanged` all succeed; the shim gains the container exactly when
`attachStdio` and the RPC succeed; on success the system pid is the RPC's and the table is
as it was; on an error the id's entry is deleted and, cleaning enabled, the container
directory is gone, and everything under it if it was there. -/
theorem createFinish_spec (h : Nat) :
    ((c.createFinish a h o).2 = none ↔
      o.attachStdio = none ∧ (∃ pid, o.rpc = .ok pid) ∧ o.stateChanged = none) ∧
    ((∃ q, (c.createFinish a h o).1.shim = c.shim ++ [q]) ↔
      o.attachStdio = none ∧ ∃ pid, o.rpc = .ok pid) ∧
    ((c.createFinish a h o).1.shim = c.shim ∨ ∃ q, (c.createFinish a h o).1.shim = c.shim ++ [q]) ∧
    ((c.createFinish a h o).2 = none → (c.createFinish a h o).1.containers = c.containers ∧
      ∃ pid, o.rpc = .ok pid ∧ (c.createFinish a h o).1.heap h = { c.heap h with systemPid := pid }) ∧
    ((c.createFinish a h o).2 ≠ none →
      (c.createFinish a h o).1.containers a.containerID = none ∧
      (c.noclean = false → o.rollback = {} →
        (c.createFinish a h o).1.fs.get (c.heap h).dir = none ∧
        (c.fs.Exists (c.heap h).dir → ∀ p, (c.heap h).dir <+: p →
          (c.createFinish a h o).1.fs.get p = none))) := by
  have hne : ∀ q : CreateContainerRequest, c.shim ≠ c.shim ++ [q] := by simp
  rcases ha : o.attachStdio with _ | e
  · rcases hr : o.rpc with e | pid
    · simp [createFinish, ha, hr, hne]
      exact fun hn ho => rollback_removes hn ho rfl rfl
    · rcases hsc : o.stateChanged with _ | e
      · simp [createFinish, ha, hr, hsc, setCtr]
      · simp [createFinish, ha, hr, hsc, setCtr]
        exact fun hn ho => rollback_removes hn ho rfl (by simp)
  · simp [createFinish, ha, hne]
    exact fun hn ho => rollback_removes hn ho rfl rfl

/-- **What `Create` returns.**  For an id that is not live, and every outcome of its steps
in which the read-back of `config.json` succeeds: `Create` returns `nil` exactly when the
shim accepted the container during the call and the final `StateChanged` succeeded.  Then
the container is live under its `containerID`, with the RPC's system pid, in the
directory of the call (`createDir`: the join of the bundle directory `prepareBundleDir`
returns and the id), and its `containerID` is the base of that directory — the id itself
when it is a plain name.  On an error the id has no entry, and if the call got past the
initial clean, the container directory is gone, and everything under it when `MkdirAllAs`
made it (cleaning enabled, the rollback's system calls succeeding). -/
theorem create_spec (c : Client) (a : CreateArgs) (o : CreateOutcome)
    (hlive : c.containers a.containerID = none) (hread : o.readBack = none) :
    ((c.create a o).2 = none ↔
      (∃ q, (c.create a o).1.shim = c.shim ++ [q]) ∧ o.stateChanged = none) ∧
    ((c.create a o).2 = none → ∃ pid h, o.rpc = .ok pid ∧
      (c.create a o).1.containers ((c.create a o).1.heap h).containerID = some h ∧
      ((c.create a o).1.heap h).systemPid = pid ∧
      c.createDir a o = some ((c.create a o).1.heap h).dir ∧
      ((c.create a o).1.heap h).containerID = base ((c.create a o).1.heap h).dir ∧
      (PlainName a.containerID → (c.create a o).1.containers a.containerID = some h)) ∧
    ((c.create a o).2 ≠ none → (c.create a o).1.containers a.containerID = none ∧
      ∀ c1 h uid gid, c.createSetup a o = .ok (c1, h, uid, gid) → c.noclean = false →
        o.rollback = {} → c.createDir a o = some (c1.heap h).dir ∧
        (c.create a o).1.fs.get (c1.heap h).dir = none ∧
        (o.mkdirAll = none → ∀ p, (c1.heap h).dir <+: p → (c.create a o).1.fs.get p = none)) := by
  have hne : ∀ q : CreateContainerRequest, c.shim ≠ c.shim ++ [q] := by simp
  cases hb : c.createBegin a o with
  | returned c' err =>
    rw [create_of_returned hb]
    obtain ⟨herr, hsh, hc, hdir⟩ := createBegin_returned hb hread
    refine ⟨?_, fun h' => absurd h' herr, fun _ => ⟨hc hlive, fun c1 h uid gid hs hn ho =>
      ⟨(createSetup_ok hs).2.2.2.1, hdir c1 h uid gid hs hn ho⟩⟩⟩
    simp only [hsh, hne, exists_false, false_and, iff_false]
    exact herr
  | registered c' h =>
    rw [create_of_registered hb]
    obtain ⟨c1, uid, gid, hs, hsh, hn, hheap, hc, hex⟩ := createBegin_registered hb
    obtain ⟨f1, f2, -, f4, f5⟩ := createFinish_spec (c := c') (a := a) (o := o) h
    obtain ⟨-, -, -, hdir, hid⟩ := createSetup_ok hs
    refine ⟨?_, fun hok => ?_, fun herr => ⟨(f5 herr).1, ?_⟩⟩
    · rw [f1, ← hsh, f2, and_assoc]
    · obtain ⟨hc', pid, hpid, hh⟩ := f4 hok
      have hkey : ((c'.createFinish a h o).1.heap h).containerID = (c1.heap h).containerID := by
        rw [hh, hheap]
      have hd : ((c'.createFinish a h o).1.heap h).dir = (c1.heap h).dir := by rw [hh, hheap]
      refine ⟨pid, h, hpid, by rw [hkey, hc', hc]; simp, by simp [hh], hd ▸ hdir, by rw [hkey, hd, hid],
        fun hp => ?_⟩
      obtain ⟨dir, hj⟩ := createDir_join hdir
      rw [hc', hc, hid, hj, base_join_of_plain hp]; simp
    · intro c2 h2 u2 g2 h2s hn' ho
      rw [hs] at h2s
      cases h2s
      obtain ⟨hd, hall⟩ := (f5 herr).2 (hn.trans hn') ho
      exact ⟨hdir, hheap ▸ hd, fun _ => hheap ▸ hall (hheap ▸ hex)⟩

/-! ## `Create` under concurrency -/

/-- What `Create` may change up to `appendContainer`: it keeps every name, leaves queue,
backend and exit notifiers alone, and names each container it allocates by the join of a bundle directory of
the state directory and the id it was given. -/
structure BeginFrame (c : Client) (id : String) (c' : Client) : Prop where
  names : c.KeepsNames c'
  q : c'.q = c.q
  backend : c'.backend = c.backend
  serial : c'.serial = c.serial
  notifiers : c'.notifierState = c.notifierState
  made : ∀ h, c.next ≤ h → h < c'.next → ∃ dir, BundleRoot c.stateDir dir ∧
    (c'.heap h).dir = join dir id ∧ (c'.heap h).containerID = base (join dir id)

namespace BeginFrame

variable {c c' : Client} {id : String}

theorem with_fs (hf : BeginFrame c id c') (fs : Fs) : BeginFrame c id { c' with fs } :=
  ⟨⟨hf.names.next_le, hf.names.heap, hf.names.table, hf.names.stateDir⟩, hf.q, hf.backend,
    hf.serial, hf.notifiers, hf.made⟩

theorem rollback (hf : BeginFrame c id c') (h : Nat) (id' : String) (o' : CleanOutcome) :
    BeginFrame c id (c'.rollback h id' o') := by
  refine ⟨⟨hf.names.next_le, hf.names.heap, fun k h' hk => hf.names.table k h' ?_,
    hf.names.stateDir⟩, hf.q, hf.backend, hf.serial, hf.notifiers, hf.made⟩
  by_cases hk' : k = id'
  · subst hk'; simp [rollback, deleteContainer] at hk
  · simpa [Client.rollback, deleteContainer, hk'] using hk

theorem appendContainer (hf : BeginFrame c id c') {h : Nat} (hh : h < c'.next) :
    BeginFrame c id (c'.appendContainer h) := by
  refine ⟨⟨hf.names.next_le, hf.names.heap, fun k h' hk => ?_, hf.names.stateDir⟩, hf.q,
    hf.backend, hf.serial, hf.notifiers, hf.made⟩
  by_cases hk' : k = (c'.heap h).containerID
  · subst hk'
    simp only [Client.appendContainer, Function.update_same, Option.some.injEq] at hk
    subst hk
    exact .inr ⟨rfl, hh⟩
  · exact hf.names.table k h' (by simpa [Client.appendContainer, hk'] using hk)

theorem openFifos (hf : BeginFrame c id c') (h : Nat) (terminal : Bool) :
    BeginFrame c id (c'.openFifos h terminal) := hf.with_fs _

end BeginFrame

theorem newContainer_frame {dir : Path} (hdir : BundleRoot c.stateDir dir)
    (options : List (String × List String)) :
    BeginFrame c a.containerID ((c.newContainer (join dir a.containerID) options).1) ∧
    (c.newContainer (join dir a.containerID) options).2 < (c.newContainer (join dir a.containerID) options).1.next := by
  obtain ⟨hd, hn⟩ := newContainer_heap (c := c) (join dir a.containerID) options
  refine ⟨⟨⟨Nat.le_succ _, fun h hh => ?_, fun k h hk => .inl hk, rfl⟩, rfl, rfl, rfl, rfl,
    fun h h1 h2 => ?_⟩, Nat.lt_succ_self _⟩
  · simp [newContainer, setCtr, Nat.ne_of_lt hh]
  · have : h = c.next := by simp [newContainer] at h2; omega
    subst this
    exact ⟨dir, hdir, hd, hn⟩

theorem createSetup_frame :
    (∀ r, c.createSetup a o = .error r → BeginFrame c a.containerID r.1) ∧
    (∀ r, c.createSetup a o = .ok r → BeginFrame c a.containerID r.1 ∧ r.2.1 < r.1.next) := by
  have refl : BeginFrame c a.containerID c :=
    ⟨.refl c, rfl, rfl, rfl, rfl, fun h h1 h2 => absurd h2 (Nat.not_lt.mpr h1)⟩
  unfold createSetup
  split
  · exact ⟨fun r hr => by cases hr; exact refl, fun r hr => by cases hr⟩
  split
  · exact ⟨fun r hr => by cases hr; exact refl, fun r hr => by cases hr⟩
  split
  · exact ⟨fun r hr => by cases hr; exact refl.with_fs _, fun r hr => by cases hr⟩
  rename_i fs dir hp
  obtain ⟨hf, hlt⟩ := newContainer_frame (c := c) (a := a) ⟨_, _, _, _, _, _, hp⟩ a.options
  dsimp only
  split
  · exact ⟨fun r hr => by cases hr; exact hf.with_fs _, fun r hr => by cases hr⟩
  · exact ⟨fun r hr => (nomatch hr), fun r hr => by cases hr; exact ⟨hf.with_fs _, hlt⟩⟩

/-- The client `Create` leaves once it returns or registers its container. -/
def CreateStage.client : CreateStage → Client
  | .returned c _ => c
  | .registered c _ => c

theorem createBegin_frame : BeginFrame c a.containerID (c.createBegin a o).client := by
  obtain ⟨herr, hok⟩ := createSetup_frame (c := c) (a := a) (o := o)
  unfold createBegin
  split
  · exact herr _ ‹_›
  rename_i c1 h uid gid hs
  obtain ⟨hf, hlt⟩ := hok _ hs
  dsimp only
  repeat' split
  all_goals first
    | exact ((hf.with_fs _).rollback _ _ _)
    | exact hf.with_fs _
    | exact ((hf.with_fs _).openFifos _ _).appendContainer hlt

@[simp] theorem createFinish_next (h : Nat) : (c.createFinish a h o).1.next = c.next := by
  unfold createFinish
  repeat' split
  all_goals rfl

/-- The rest of `Create` keeps every name, only deletes table entries, and reports
`StateStart` with a fresh serial or nothing. -/
theorem createFinish_frame (h : Nat) :
    c.KeepsNames (c.createFinish a h o).1 ∧ c.Reports (c.createFinish a h o).1 := by
  have back : ∀ c' : Client, c.KeepsNames c' → c.KeepsNames (c'.rollback h a.containerID o.rollback) :=
    fun c' hk => ⟨hk.next_le, hk.heap, fun k h' hk' => hk.table k h' (by
      by_cases hk'' : k = a.containerID
      · subst hk''; simp [Client.rollback, deleteContainer] at hk'
      · simpa [Client.rollback, deleteContainer, hk''] using hk'), hk.stateDir⟩
  have names : ∀ pid, ∀ h' < c.next,
      (Function.update c.heap h { c.heap h with systemPid := pid } h').dir = (c.heap h').dir ∧
      (Function.update c.heap h { c.heap h with systemPid := pid } h').containerID =
        (c.heap h').containerID := fun _ h' _ => by
    by_cases hh : h' = h
    · subst hh; simp
    · simp [hh]
  rcases ha : o.attachStdio with _ | e
  · rcases hr : o.rpc with e | pid
    · simp only [createFinish, ha, hr]
      exact ⟨back c (.refl c), .refl c⟩
    · rcases hsc : o.stateChanged with _ | e
      · simp only [createFinish, ha, hr, hsc]
        exact ⟨⟨le_rfl, names pid, fun _ _ hk => .inl hk, rfl⟩,
          .inr (.inr (.inl ⟨_, pid, rfl, rfl, rfl⟩))⟩
      · simp only [createFinish, ha, hr, hsc]
        exact ⟨back _ ⟨le_rfl, names pid, fun _ _ hk => .inl hk, rfl⟩,
          .inr (.inr (.inl ⟨_, pid, rfl, rfl, rfl⟩))⟩
  · simp only [createFinish, ha]
    exact ⟨back c (.refl c), .refl c⟩

/-- A client with nothing live, over a state directory `/run` that others can search. -/
def idle : Client := init ["run"] false false [(["run"], ⟨0o711, 0, 0⟩)]

theorem create_spec_idle :
    idle.containers "c1" = none ∧ ({} : CreateOutcome).readBack = none ∧
    (idle.create { containerID := "c1" } {}).2 = none ∧
    idle.createDir { containerID := "c1" } {} = some ["run", "c1"] ∧
    ∀ p, ["run", "c1"] <+: p →
      (idle.create { containerID := "c1" } { stateChanged := some "backend" }).1.fs.get p = none :=
  have herr := ((create_spec idle { containerID := "c1" } { stateChanged := some "backend" } rfl
    rfl).2.2 (by decide)).2 _ _ _ _ rfl rfl rfl
  ⟨rfl, rfl, (create_spec idle { containerID := "c1" } {} rfl rfl).1.mpr ⟨⟨_, rfl⟩, rfl⟩, herr.1,
    herr.2.2 rfl⟩

/-- `Create`'s result is not the RPC's.  A `StateChanged` failure after the shim accepted
the container: `Create` returns the error, and the rollback leaves the container the shim
runs without a table entry.  A failed read-back of `config.json`: `Create` returns `nil`
and the RPC never ran. -/
theorem create_result_not_rpc_result :
    (idle.create { containerID := "c1" } { stateChanged := some "backend" }).2 =
      some "backend" ∧
    (idle.create { containerID := "c1" } { stateChanged := some "backend" }).1.shim.length = 1 ∧
    (idle.create { containerID := "c1" } { stateChanged := some "backend" }).1.containers "c1" =
      none ∧
    (idle.create { containerID := "c1" } { readBack := some "EOF" }).2 = none ∧
    (idle.create { containerID := "c1" } { readBack := some "EOF" }).1.shim.length = 0 ∧
    (idle.create { containerID := "c1" } { readBack := some "EOF" }).1.containers "c1" = none := by
  decide

end Client
end ContainerLifecycle
