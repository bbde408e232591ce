import Mathlib.Data.List.Basic

/-! # The task table of `docker service ps`

`Print` of `cli/command/task` sorts the tasks with `sort.Stable` by `tasksBySlot` — by
slot, and within a slot the most recent first — and `print` writes one row per task.  A
row's name is indented with ` \_ ` when the task has the service and slot of the row
before it (`prevService`, `prevSlot`, which start at `""` and `0`), so that the older
tasks of a slot hang under its current one; the error is cut to `maxErrLength` bytes and
quoted.  `print` stops at the first task whose node the resolver cannot resolve, with the
rows before it already written.

What `print` calls outside `src` is a parameter (`Env`): the ID resolver, the parsing of
image references (`distreference.ParseNamed` and the `NamedTagged` test),
`command.PrettyPrint`, and the age of a timestamp as `units.HumanDuration` prints it.
`sort.Stable` is absent too; for the strict weak order `tasksBySlot.Less` it has one result,
the stable sorted permutation, which `List.mergeSort` computes (`sortStable`).  A Go
string is a sequence of bytes, and `taskErr[:maxErrLength-1]` cuts bytes, so the error is a
list of bytes here.

The results: the table is the sorted tasks, each formatted from its own fields, up to the
first node that does not resolve (`print_rows`); the sort orders by slot
(`sortStable_slot_le`); and for the tasks of one service, a row is indented exactly when
an earlier row is of its slot (`print_indent_one_service`).  With several services, as in
`docker stack ps` and `docker node ps`, rows of one slot are not contiguous, and an older
task of a slot is indented only when the row right above it is of its service.
-/

namespace ContainerLifecycle

namespace TaskPrint

/-- What `portStatus.String` reads of a `swarm.PortConfig`. -/
structure PortConfig where
  Protocol : String
  TargetPort : UInt32
  PublishedPort : UInt32
  deriving DecidableEq, Repr

/-- What `Print` reads of a `swarm.Task`: `CreatedAt` and `Status.Timestamp` as instants,
and `Status.Err` as the bytes of a Go string. -/
structure Task where
  ID : String
  ServiceID : String
  NodeID : String
  Slot : Int
  CreatedAt : Int
  DesiredState : String
  State : String
  Timestamp : Int
  Err : List UInt8
  Image : String
  Ports : List PortConfig
  deriving DecidableEq, Repr

/-- The service and slot `print` compares a task's with the previous row's. -/
def Task.key (t : Task) : String × Int := (t.ServiceID, t.Slot)

/-- `fmt.Sprintf("*:%d->%d/%s", ...)` for one port. -/
def portString (p : PortConfig) : String :=
  "*:" ++ toString p.PublishedPort ++ "->" ++ toString p.TargetPort ++ "/" ++ p.Protocol

/-- `portStatus(ps).String()`. -/
def portStatus.string : List PortConfig → String
  | [] => ""
  | p :: rest => rest.foldl (fun str pConfig => str ++ "," ++ portString pConfig) (portString p)

theorem foldl_portString (rest : List PortConfig) (acc : String) :
    rest.foldl (fun str pConfig => str ++ "," ++ portString pConfig) acc =
      String.intercalate.go acc "," (rest.map portString) := by
  induction rest generalizing acc with
  | nil => rfl
  | cons p rest ih => exact ih _

/-- The ports column lists every port, separated by commas. -/
theorem portStatus_string_eq (ports : List PortConfig) :
    portStatus.string ports = ",".intercalate (ports.map portString) := by
  cases ports with
  | nil => rfl
  | cons p rest => exact foldl_portString rest _

/-- `tasksBySlot.Less`: by slot, and within a slot the most recent first. -/
def tasksBySlot.less (a b : Task) : Bool :=
  if a.Slot ≠ b.Slot then a.Slot < b.Slot else b.CreatedAt < a.CreatedAt

/-- `sort.Stable(tasksBySlot(tasks))`: `a` may stay before `b` when `b` is not less. -/
def sortStable (tasks : List Task) : List Task :=
  tasks.mergeSort fun a b => !tasksBySlot.less b a

/-- `maxErrLength`. -/
def maxErrLength : Nat := 30

/-- The error column: cut to `maxErrLength - 1` bytes and `"???"` unless `noTrunc`, then
quoted when not empty. -/
def trimErr (noTrunc : Bool) (err : List UInt8) : List UInt8 :=
  let err := if !noTrunc && err.length > maxErrLength then
    err.take (maxErrLength - 1) ++ "???".toUTF8.toList else err
  if err.length > 0 then 34 :: err ++ [34] else err

/-- One row of the table: the columns of `psTaskItemFmt`. -/
structure Row where
  name : String
  image : String
  node : String
  desiredState : String
  currentState : String
  since : String
  err : List UInt8
  ports : String
  deriving DecidableEq, Repr

/-- What `print` calls that is absent from `src`. -/
structure Env where
  /-- `resolver.Resolve(ctx, task, task.ID)`, whose error `print` drops. -/
  resolveName : Task → String
  /-- `resolver.Resolve(ctx, swarm.Node{}, nodeID)`. -/
  resolveNode : String → Except String String
  /-- The name and tag of an image reference that `ParseNamed` accepts and that is
  `NamedTagged`. -/
  namedTagged : String → Option (String × String)
  /-- `command.PrettyPrint`. -/
  prettyPrint : String → String
  /-- `strings.ToLower(units.HumanDuration(time.Since(t)))`. -/
  humanSince : Int → String

/-- The row `print` writes for `task`, indented or not, on node `nodeValue`. -/
def Env.row (env : Env) (noTrunc indent : Bool) (task : Task) (nodeValue : String) : Row where
  name := if indent then " \\_ " ++ env.resolveName task else env.resolveName task
  image :=
    if noTrunc then task.Image
    else match env.namedTagged task.Image with
      | some (name, tag) => name ++ ":" ++ tag
      | none => task.Image
  node := nodeValue
  desiredState := env.prettyPrint task.DesiredState
  currentState := env.prettyPrint task.State
  since := env.humanSince task.Timestamp
  err := trimErr noTrunc task.Err
  ports := portStatus.string task.Ports

/-- The loop of `print`, after a row of service `prevService` and slot `prevSlot`: the rows
written, and the error that stopped it. -/
def printLoop (env : Env) (noTrunc : Bool) :
    String → Int → List Task → List Row × Option String
  | _, _, [] => ([], none)
  | prevService, prevSlot, task :: tasks =>
    match env.resolveNode task.NodeID with
    | .error err => ([], some err)
    | .ok nodeValue =>
      let r := printLoop env noTrunc task.ServiceID task.Slot tasks
      (env.row noTrunc (prevService = task.ServiceID ∧ prevSlot = task.Slot) task nodeValue :: r.1,
        r.2)

/-- `print(out, ctx, tasks, resolver, noTrunc)`. -/
def printTo (env : Env) (tasks : List Task) (noTrunc : Bool) : List Row × Option String :=
  printLoop env noTrunc "" 0 tasks

/-- The header row `Print` writes first. -/
def header : List String :=
  ["NAME", "IMAGE", "NODE", "DESIRED STATE", "CURRENT STATE", "ERROR", "PORTS"]

/-- `Print(dockerCli, ctx, tasks, resolver, noTrunc)`: the rows under `header`, and the
error. -/
def print (env : Env) (tasks : List Task) (noTrunc : Bool) : List Row × Option String :=
  printTo env (sortStable tasks) noTrunc

/-- `PrintQuiet(dockerCli, tasks)`: the IDs, one a line. -/
def printQuiet (tasks : List Task) : List String :=
  (sortStable tasks).map (·.ID)

/-! ## The order of the rows -/

theorem tasksBySlot_trans (a b c : Task) : (!tasksBySlot.less b a) = true →
    (!tasksBySlot.less c b) = true → (!tasksBySlot.less c a) = true := by
  simp only [tasksBySlot.less, Bool.not_eq_true', ne_eq, ite_not]
  split_ifs <;> simp_all <;> omega

theorem tasksBySlot_total (a b : Task) :
    ((!tasksBySlot.less b a) || !tasksBySlot.less a b) = true := by
  simp only [tasksBySlot.less, ne_eq, ite_not]
  split_ifs <;> simp_all <;> omega

theorem sortStable_sorted (tasks : List Task) :
    (sortStable tasks).Pairwise fun a b => (!tasksBySlot.less b a) = true :=
  List.sorted_mergeSort tasksBySlot_trans tasksBySlot_total tasks

theorem slot_le_of_not_less {a b : Task} (h : (!tasksBySlot.less b a) = true) :
    a.Slot ≤ b.Slot := by
  by_cases hs : b.Slot = a.Slot
  · exact hs ▸ Int.le_refl _
  · simp only [tasksBySlot.less, ne_eq, hs, not_false_eq_true, if_true, Bool.not_eq_true',
      decide_eq_false_iff_not] at h
    omega

/-- The rows come by slot. -/
theorem sortStable_slot_le {tasks : List Task} {i j : Nat} {a b : Task} (hij : i ≤ j)
    (ha : (sortStable tasks)[i]? = some a) (hb : (sortStable tasks)[j]? = some b) :
    a.Slot ≤ b.Slot := by
  obtain ⟨hi, rfl⟩ := List.getElem?_eq_some_iff.mp ha
  obtain ⟨hj, rfl⟩ := List.getElem?_eq_some_iff.mp hb
  rcases Nat.lt_or_eq_of_le hij with hij | rfl
  · exact slot_le_of_not_less (List.pairwise_iff_getElem.mp (sortStable_sorted tasks) i j hi hj hij)
  · exact Int.le_refl _

/-! ## The loop -/

/-- Whether `print`, started after a row of key `start`, indents row `i`, of task `t`: the
key of the row before is `t`'s. -/
def indentAt (start : String × Int) (tasks : List Task) : Nat → Task → Bool
  | 0, t => start = t.key
  | j + 1, t => match tasks[j]? with
    | some p => p.key = t.key
    | none => false

theorem indentAt_cons_succ (start : String × Int) (t : Task) (tasks : List Task) (i : Nat)
    (u : Task) : indentAt start (t :: tasks) (i + 1) u = indentAt t.key tasks i u := by
  cases i <;> simp [indentAt]

/-- **What the loop writes.**  After a row of key `start`, it writes one row for each task
in turn, until the first whose node does not resolve, and returns that node's error: row
`i` is task `i` on its node, indented by `indentAt`. -/
theorem printLoop_spec (env : Env) (noTrunc : Bool) :
    ∀ (tasks : List Task) (start : String × Int),
    let r := printLoop env noTrunc start.1 start.2 tasks
    r.1.length ≤ tasks.length ∧
    (∀ i t, i < r.1.length → tasks[i]? = some t → ∃ node, env.resolveNode t.NodeID = .ok node ∧
      r.1[i]? = some (env.row noTrunc (indentAt start tasks i t) t node)) ∧
    (r.2 = none → r.1.length = tasks.length) ∧
    (∀ e, r.2 = some e → ∃ t, tasks[r.1.length]? = some t ∧ env.resolveNode t.NodeID = .error e)
  | [], start => by simp [printLoop]
  | t :: tasks, start => by
    cases hn : env.resolveNode t.NodeID with
    | error e => simp [printLoop, hn]
    | ok node =>
      obtain ⟨h1, h2, h3, h4⟩ := printLoop_spec env noTrunc tasks t.key
      dsimp only [Task.key] at h1 h2 h3 h4
      simp only [printLoop, hn, List.length_cons]
      refine ⟨by omega, fun i u hi hu => ?_, fun h => by simp [h3 h], fun e h => by simpa using h4 e h⟩
      cases i with
      | zero =>
        obtain rfl : t = u := by simpa using hu
        exact ⟨node, hn, by simp [indentAt, Task.key, Prod.ext_iff]⟩
      | succ i =>
        obtain ⟨node', hn', hrow⟩ := h2 i u (by omega) (by simpa using hu)
        refine ⟨node', hn', ?_⟩
        rw [List.getElem?_cons_succ, hrow, indentAt_cons_succ]
        rfl

/-- With no task of service `""`, `print` indents the rows after the first that repeat the
previous row's slot, and with the rows sorted by slot, those are the rows of a slot seen
before. -/
theorem indentAt_one_service {tasks : List Task} {s : String} (hs : s ≠ "")
    (hsvc : ∀ t ∈ tasks, t.ServiceID = s) {i : Nat} {t : Task}
    (ht : (sortStable tasks)[i]? = some t) :
    indentAt ("", 0) (sortStable tasks) i t = ((sortStable tasks).take i).any (·.Slot = t.Slot) := by
  have hsv : ∀ u ∈ sortStable tasks, u.ServiceID = s :=
    fun u hu => hsvc u (List.mem_mergeSort.mp hu)
  have htm : t ∈ sortStable tasks := List.mem_iff_getElem?.mpr ⟨i, ht⟩
  cases i with
  | zero => simp [indentAt, Task.key, hsv t htm, Ne.symm hs]
  | succ j =>
    have hj : j < (sortStable tasks).length := by
      have := (List.getElem?_eq_some_iff.mp ht).1; omega
    obtain ⟨p, hp⟩ : ∃ p, (sortStable tasks)[j]? = some p := ⟨_, List.getElem?_eq_getElem hj⟩
    have hps : p.ServiceID = t.ServiceID := (hsv p (List.mem_iff_getElem?.mpr ⟨j, hp⟩)).trans
      (hsv t htm).symm
    have hkey : p.key = t.key ↔ p.Slot = t.Slot := by simp [Task.key, hps]
    simp only [indentAt, hp]
    rw [Bool.eq_iff_iff, decide_eq_true_iff, hkey, List.any_eq_true]
    constructor
    · refine fun h => ⟨p, List.mem_iff_getElem?.mpr ⟨j, ?_⟩, by simpa using h⟩
      rw [List.getElem?_take_of_lt (by omega), hp]
    · rintro ⟨q, hq, hqs⟩
      obtain ⟨k, hk⟩ := List.mem_iff_getElem?.mp hq
      rw [List.getElem?_take] at hk
      split at hk
      · have h1 := sortStable_slot_le (by omega) hk hp
        have h2 := sortStable_slot_le (Nat.le_succ j) hp ht
        simp only [decide_eq_true_eq] at hqs
        omega
      · cases hk

/-! ## The table -/

/-- **The table is the sorted tasks.**  For every task list and everything `print` calls:
`Print` orders the tasks by slot, the most recent first within a slot, and keeps the input
order of tasks this order does not separate; it writes one row for each task in that order
until the first whose node does not resolve, whose error it returns.  Row `i` is task `i`
on its node, indented when the row before it has the task's service and slot (for the
first row, when the task has service `""` and slot `0`). -/
theorem print_rows (env : Env) (tasks : List Task) (noTrunc : Bool) :
    let sorted := sortStable tasks
    let r := print env tasks noTrunc
    sorted.Perm tasks ∧ sorted.Pairwise (fun a b => (!tasksBySlot.less b a) = true) ∧
    (∀ c : List Task, c.Sublist tasks → c.Pairwise (fun a b => (!tasksBySlot.less b a) = true) →
      c.Sublist sorted) ∧
    r.1.length ≤ sorted.length ∧
    (∀ i t, i < r.1.length → sorted[i]? = some t → ∃ node, env.resolveNode t.NodeID = .ok node ∧
      r.1[i]? = some (env.row noTrunc (indentAt ("", 0) sorted i t) t node)) ∧
    (r.2 = none → r.1.length = sorted.length) ∧
    (∀ e, r.2 = some e →
      ∃ t, sorted[r.1.length]? = some t ∧ env.resolveNode t.NodeID = .error e) :=
  ⟨List.mergeSort_perm _ _, sortStable_sorted tasks,
    fun _ hc hs => List.sublist_mergeSort tasksBySlot_trans tasksBySlot_total hs hc,
    printLoop_spec env noTrunc _ ("", 0)⟩

/-- **History rows hang under the current task of their slot.**  For the tasks of one
service, as `docker service ps` prints them: row `i` of `Print` is indented exactly when an
earlier row is of the same slot, that is, when its task is not the first of its slot in
the order of the table. -/
theorem print_indent_one_service (env : Env) (tasks : List Task) (noTrunc : Bool) {s : String}
    (hs : s ≠ "") (hsvc : ∀ t ∈ tasks, t.ServiceID = s) (i : Nat) (t : Task)
    (hi : i < (print env tasks noTrunc).1.length) (ht : (sortStable tasks)[i]? = some t) :
    ∃ node, (print env tasks noTrunc).1[i]? = some (env.row noTrunc
      (((sortStable tasks).take i).any (·.Slot = t.Slot)) t node) := by
  obtain ⟨node, -, hrow⟩ := (printLoop_spec env noTrunc (sortStable tasks) ("", 0)).2.1 i t hi ht
  exact ⟨node, by rw [← indentAt_one_service hs hsvc ht]; exact hrow⟩

/-- An older task of slot 1 of service `web`. -/
def webTask (ID : String) (CreatedAt : Int) : Task :=
  { ID := ID, ServiceID := "web", NodeID := "node-1", Slot := 1, CreatedAt := CreatedAt,
    DesiredState := "shutdown", State := "failed", Timestamp := CreatedAt, Err := [],
    Image := "nginx", Ports := [] }

/-- Names as IDs, nodes that resolve to themselves. -/
def idEnv : Env :=
  ⟨(·.ID), .ok, fun _ => none, id, fun _ => ""⟩

/-- Of two tasks of one slot, the older, printed second, hangs under the newer. -/
theorem print_indent_one_service_history :
    let tasks := [webTask "b" 2, webTask "a" 1]
    "web" ≠ "" ∧ (∀ t ∈ tasks, t.ServiceID = "web") ∧ 1 < (print idEnv tasks false).1.length ∧
    (sortStable tasks)[1]? = some (webTask "a" 1) ∧
    ∃ node, (print idEnv tasks false).1[1]? = some (idEnv.row false
      (((sortStable tasks).take 1).any (·.Slot = (webTask "a" 1).Slot)) (webTask "a" 1) node) := by
  have hs : sortStable [webTask "b" 2, webTask "a" 1] = [webTask "b" 2, webTask "a" 1] :=
    List.mergeSort_of_sorted (by decide)
  have hi : 1 < (print idEnv [webTask "b" 2, webTask "a" 1] false).1.length := by
    rw [print, hs]; decide
  have ht : (sortStable [webTask "b" 2, webTask "a" 1])[1]? = some (webTask "a" 1) := by
    rw [hs]; rfl
  exact ⟨by decide, by decide, hi, ht,
    @print_indent_one_service idEnv _ false "web" (by decide) (by decide) 1 _ hi ht⟩

end TaskPrint

end ContainerLifecycle
