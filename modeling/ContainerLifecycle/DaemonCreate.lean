import Mathlib.Data.List.Basic

/-! # `docker create` in the daemon

`containerCreate` checks a create request and calls `create`, which looks the image up,
completes the config from the image's and checks it (`mergeAndVerifyConfig`), and has
`newContainer` build the container.  From there on `create` builds the container in steps
that each can fail, and a deferred function calls `cleanupContainer` when `create` returns
an error, so that a failed create leaves no container behind.

The daemon functions these call are absent from `src`, but `setRWLayer`,
`mergeAndVerifyConfig` and `verifyNetworkingConfig`; how each of the others goes is an
argument (`Env`), as is `runtime.GOOS`.  The straight-line code with its
`if err != nil { return }` after each step is `runSteps` over its steps.  What changes the
daemon is an `Event`.  A request's `Config` and `HostConfig` are given by what these
functions read of them; `net.ParseIP` is a parameter and `IP.To4` is modelled.

The results, for every request and every outcome of the calls:

* `create` either fails before `newContainer` and does nothing, or builds a container and
  then returns it after all its steps, with no clean-up, or calls `cleanupContainer` on it
  once, after the first step that failed, and returns that step's error
  (`create_rollback`);
* every container built has a command: its `Entrypoint` or `Cmd` is not empty, and its
  `Entrypoint` is not `[""]` (`create_config_command`).

`VolumeCreate` is modelled with the calls it makes.
-/

namespace ContainerLifecycle

namespace Daemon

/-- What the modelled code reads of a `containertypes.Config`. -/
structure Config where
  Image : String
  Entrypoint : List String
  Cmd : List String
  deriving DecidableEq, Repr

/-- What `create` reads of an `image.Image`. -/
structure Image where
  OS : String
  ID : String
  Config : Option Config
  deriving DecidableEq, Repr

/-- A `LogConfig`: the log driver and its options. -/
structure LogConfig where
  «Type» : String := ""
  Config : List (String × String) := []
  deriving DecidableEq, Repr

/-- What `create` reads of a `containertypes.HostConfig`. -/
structure HostConfig where
  LogConfig : LogConfig := {}
  StorageOpt : List (String × String) := []
  deriving DecidableEq, Repr

/-- A `networktypes.EndpointIPAMConfig`. -/
structure EndpointIPAMConfig where
  IPv4Address : String
  IPv6Address : String
  deriving DecidableEq, Repr

/-- A `networktypes.NetworkingConfig`: its `EndpointsConfig` map, in the order `range`
visits it; each endpoint's settings are `nil` or carry an `IPAMConfig`, maybe `nil`. -/
structure NetworkingConfig where
  EndpointsConfig : List (String × Option (Option EndpointIPAMConfig))
  deriving DecidableEq, Repr

/-- A `types.ContainerCreateConfig`. -/
structure ContainerCreateConfig where
  Name : String
  Config : Option Config
  HostConfig : Option HostConfig
  NetworkingConfig : Option NetworkingConfig
  AdjustCPUShares : Bool
  deriving DecidableEq, Repr

/-- An error, and whether `apierrors.NewBadRequestError` wrapped it. -/
structure Error where
  msg : String
  badRequest : Bool := false
  deriving DecidableEq, Repr

/-- A step of the building of a container, after `newContainer`, that changes the daemon. -/
inductive Step
  | setSecurityOptions
  | setHostConfig
  | createContainerPlatformSpecificSettings
  | updateContainerNetworkSettings
  | ToDisk
  | Register
  deriving DecidableEq, Repr

/-- What the create calls do to the daemon. -/
inductive Event
  /-- `daemon.newContainer(name, config, imgID, managed)`, which built container `id`. -/
  | newContainer (name : String) (config : Config) (imgID : String) (managed : Bool)
      (id : String)
  /-- A step on container `id`. -/
  | call (s : Step) (id : String)
  /-- `daemon.layerStore.CreateRWLayer(id, layerID, opts)`, with the `StorageOpt` of `opts`. -/
  | createRWLayer (id layerID : String) (storageOpt : List (String × String))
  /-- `idtools.MkdirAs(dir, 0700, uid, gid)` for container `id`'s root, or its checkpoint
  directory. -/
  | mkdirAs (checkpointDir : Bool) (id : String) (uid gid : Nat)
  /-- `daemon.LogContainerEvent(container, action)`. -/
  | logContainerEvent (id action : String)
  /-- `daemon.cleanupContainer(container, true, true)`. -/
  | cleanupContainer (id : String)
  /-- `logrus.Errorf(...)`. -/
  | logError (msg : String)
  /-- `daemon.LogVolumeEvent(name, action, attributes)`. -/
  | logVolumeEvent (name action : String) (attributes : List (String × String))
  deriving DecidableEq, Repr

/-- An event of a building step: not `newContainer`, the create event or a clean-up. -/
def Event.ofStep : Event → Bool
  | .newContainer .. | .logContainerEvent .. | .cleanupContainer .. => false
  | _ => true

/-- The calls of `containerCreate` and `create` that are absent from `src`. -/
structure Env where
  /-- `runtime.GOOS`. -/
  GOOS : String
  /-- `net.ParseIP(s)`: the bytes of the address, or `nil`. -/
  ParseIP : String → Option (List UInt8)
  /-- `daemon.verifyContainerSettings(hostConfig, config, false)`: warnings and error. -/
  verifyContainerSettings : Option HostConfig → Config → List String × Option Error
  /-- `daemon.adaptContainerSettings(hostConfig, adjustCPUShares)`. -/
  adaptContainerSettings : HostConfig → Bool → Except Error HostConfig
  /-- `daemon.GetImage(refOrID)`. -/
  GetImage : String → Except Error Image
  /-- `merge(userConf, imageConf)`. -/
  merge : Config → Config → Except Error Config
  /-- `daemon.mergeAndVerifyLogConfig(&hostConfig.LogConfig)`. -/
  mergeAndVerifyLogConfig : LogConfig → Except Error LogConfig
  /-- `daemon.newContainer(name, config, imgID, managed)`: the ID of the container. -/
  newContainer : String → Config → String → Bool → Except Error String
  /-- The error each step returns on container `id`. -/
  fails : Step → String → Option Error
  /-- `daemon.imageStore.Get(id)`: the `RootFS.ChainID()` of the image. -/
  imageStoreGet : String → Except Error String
  /-- `daemon.layerStore.CreateRWLayer(id, layerID, opts)`. -/
  createRWLayer : String → String → Option Error
  /-- `idtools.GetRootUIDGID(daemon.uidMaps, daemon.gidMaps)`. -/
  GetRootUIDGID : Except Error (Nat × Nat)
  /-- The error of `idtools.MkdirAs` on container `id`'s root or checkpoint directory. -/
  mkdirAs : Bool → String → Option Error
  /-- `daemon.cleanupContainer(container, true, true)`. -/
  cleanupContainer : String → Option Error
  /-- `daemon.imageNotExistToErrcode(err)`. -/
  imageNotExistToErrcode : Error → Error

/-! ## Checking the request -/

/-- The end of `mergeAndVerifyConfig`: an `Entrypoint` of `[""]` reset, and an error when
there is no command. -/
def resetAndVerify (config : Config) : Except Error Config :=
  let config := if config.Entrypoint.length = 1 ∧ config.Entrypoint[0]? = some "" then
    { config with Entrypoint := [] } else config
  if config.Entrypoint.length = 0 ∧ config.Cmd.length = 0 then .error ⟨"No command specified", false⟩
  else .ok config

/-- `daemon.mergeAndVerifyConfig(config, img)`: the config completed from the image's, and
checked. -/
def mergeAndVerifyConfig (merge : Config → Config → Except Error Config) (config : Config)
    (img : Option Image) : Except Error Config :=
  let merged := match img with
    | some { Config := some imgConfig, .. } => merge config imgConfig
    | _ => .ok config
  match merged with
  | .error err => .error err
  | .ok config => resetAndVerify config

/-- **A config that passes has a command**, and no `Entrypoint` of `[""]`. -/
theorem resetAndVerify_command {config config' : Config}
    (h : resetAndVerify config = .ok config') :
    config'.Entrypoint ≠ [""] ∧ (config'.Entrypoint ≠ [] ∨ config'.Cmd ≠ []) := by
  unfold resetAndVerify at h
  dsimp only at h
  split_ifs at h with h1 h2 h2 <;> cases h
  · exact ⟨by simp, .inr (by simpa using h2)⟩
  · refine ⟨fun he => h1 (by simp [he]), ?_⟩
    by_contra hne
    simp only [not_or, not_not] at hne
    exact h2 (by simp [hne.1, hne.2])

theorem mergeAndVerifyConfig_command {merge : Config → Config → Except Error Config}
    {config : Config} {img : Option Image} {config' : Config}
    (h : mergeAndVerifyConfig merge config img = .ok config') :
    config'.Entrypoint ≠ [""] ∧ (config'.Entrypoint ≠ [] ∨ config'.Cmd ≠ []) := by
  rcases img with _ | ⟨_, _, _ | imgConfig⟩
  · exact resetAndVerify_command h
  · exact resetAndVerify_command h
  · simp only [mergeAndVerifyConfig] at h
    cases hm : merge config imgConfig <;> rw [hm] at h
    · cases h
    · exact resetAndVerify_command h

/-- `ip.To4()`: the four bytes of an IPv4 address, also of one mapped into IPv6. -/
def to4 (ip : List UInt8) : Option (List UInt8) :=
  if ip.length = 4 then some ip
  else if ip.length = 16 ∧ (ip.take 10).all (· = 0) ∧ ip[10]? = some 0xff ∧
      ip[11]? = some 0xff then some (ip.drop 12)
  else none

/-- The check of one endpoint's `IPAMConfig` in `verifyNetworkingConfig`. -/
def verifyEndpoint (ParseIP : String → Option (List UInt8)) :
    Option (Option EndpointIPAMConfig) → Option Error
  | some (some ipam) =>
    if ipam.IPv4Address ≠ "" ∧ ((ParseIP ipam.IPv4Address).bind to4).isNone then
      some ⟨"invalid IPv4 address: " ++ ipam.IPv4Address, true⟩
    else if ipam.IPv6Address ≠ "" ∧ (ParseIP ipam.IPv6Address).all (fun n => (to4 n).isSome)
    then
      some ⟨"invalid IPv6 address: " ++ ipam.IPv6Address, true⟩
    else none
  | _ => none

/-- `daemon.verifyNetworkingConfig(nwConfig)`: at most one endpoint, with valid addresses. -/
def verifyNetworkingConfig (ParseIP : String → Option (List UInt8)) :
    Option NetworkingConfig → Option Error
  | none => none
  | some nw =>
    if nw.EndpointsConfig.length = 0 then none
    else if nw.EndpointsConfig.length = 1 then
      nw.EndpointsConfig.findSome? fun (_, v) => verifyEndpoint ParseIP v
    else some ⟨"Container cannot be connected to network endpoints: " ++
      ", ".intercalate (nw.EndpointsConfig.map (·.1)), true⟩

/-! ## Building the container -/

/-- Straight-line code that returns at the first error: the events of each step in turn,
up to the first that fails, and its error. -/
def runSteps : List (List Event × Option Error) → List Event × Option Error
  | [] => ([], none)
  | (evs, some err) :: _ => (evs, some err)
  | (evs, none) :: rest => let r := runSteps rest; (evs ++ r.1, r.2)

/-- `daemon.setRWLayer(container)` for container `id` of image `imageID`: the layer of the
image, if any, is the parent of the container's read-write layer. -/
def setRWLayer (env : Env) (id imageID : String) (storageOpt : List (String × String)) :
    List Event × Option Error :=
  let layerID := if imageID ≠ "" then env.imageStoreGet imageID else .ok ""
  match layerID with
  | .error err => ([], some err)
  | .ok layerID => ([.createRWLayer id layerID storageOpt], env.createRWLayer id layerID)

/-- The steps of `create` on container `id`, from `setSecurityOptions` to `Register`. -/
def buildSteps (env : Env) (id imgID : String) (hostConfig : HostConfig) :
    List (List Event × Option Error) :=
  let step (s : Step) : List Event × Option Error := ([.call s id], env.fails s id)
  [step .setSecurityOptions, setRWLayer env id imgID hostConfig.StorageOpt] ++
    match env.GetRootUIDGID with
    | .error err => [([], some err)]
    | .ok (uid, gid) =>
      [([.mkdirAs false id uid gid], env.mkdirAs false id),
        ([.mkdirAs true id uid gid], env.mkdirAs true id),
        step .setHostConfig, step .createContainerPlatformSpecificSettings,
        ([.call .updateContainerNetworkSettings id], none),
        match env.fails .ToDisk id with
        | some err =>
          ([.call .ToDisk id, .logError ("Error saving new container to disk: " ++ err.msg)],
            some err)
        | none => ([.call .ToDisk id], none),
        step .Register]

/-- What `create` does with container `id` once `newContainer` built it, until it returns,
before the deferred function: its steps, then `LogContainerEvent(container, "create")`. -/
def build (env : Env) (id imgID : String) (hostConfig : HostConfig) :
    List Event × Option Error :=
  runSteps (buildSteps env id imgID hostConfig ++ [([.logContainerEvent id "create"], none)])

/-- The deferred function of `create`, with the error it returns. -/
def deferCleanup (env : Env) (id : String) : Option Error → List Event
  | none => []
  | some _ => .cleanupContainer id :: match env.cleanupContainer id with
    | some err => [.logError ("failed to cleanup container on create error: " ++ err.msg)]
    | none => []

/-- The platform check of `create`, with the blank at the end of `"solaris "`. -/
def solarisMismatch : Error := ⟨"Platform on which parent image was created is not Solaris", false⟩

/-- `daemon.create(params, managed)`, with the request's `Config` and its `HostConfig`,
which `containerCreate` has made non-`nil`: the ID of the container, or the error. -/
def create (env : Env) (name : String) (config : Config) (hostConfig : HostConfig)
    (managed : Bool) : List Event × Except Error String :=
  let img : Except Error (Option Image) :=
    if config.Image ≠ "" then
      match env.GetImage config.Image with
      | .error err => .error err
      | .ok img => if env.GOOS = "solaris" ∧ img.OS ≠ "solaris " then .error solarisMismatch
        else .ok (some img)
    else .ok none
  match img with
  | .error err => ([], .error err)
  | .ok img =>
    match mergeAndVerifyConfig env.merge config img with
    | .error err => ([], .error err)
    | .ok config =>
      match env.mergeAndVerifyLogConfig hostConfig.LogConfig with
      | .error err => ([], .error err)
      | .ok logConfig =>
        let imgID := (img.map (·.ID)).getD ""
        match env.newContainer name config imgID managed with
        | .error err => ([], .error err)
        | .ok id =>
          let r := build env id imgID { hostConfig with LogConfig := logConfig }
          (.newContainer name config imgID managed id :: r.1 ++ deferCleanup env id r.2,
            match r.2 with
            | some err => .error err
            | none => .ok id)

/-- A `ContainerCreateCreatedBody`. -/
structure ContainerCreateCreatedBody where
  ID : String := ""
  Warnings : List String := []
  deriving DecidableEq, Repr

/-- `daemon.containerCreate(params, managed)`, behind `ContainerCreate` and
`CreateManagedContainer`. -/
def containerCreate (env : Env) (params : ContainerCreateConfig) (managed : Bool) :
    List Event × ContainerCreateCreatedBody × Option Error :=
  match params.Config with
  | none => ([], {}, some ⟨"Config cannot be empty in order to create a container", false⟩)
  | some config =>
    let (warnings, err) := env.verifyContainerSettings params.HostConfig config
    match err with
    | some err => ([], { Warnings := warnings }, some err)
    | none =>
      match verifyNetworkingConfig env.ParseIP params.NetworkingConfig with
      | some err => ([], { Warnings := warnings }, some err)
      | none =>
        match env.adaptContainerSettings (params.HostConfig.getD {}) params.AdjustCPUShares with
        | .error err => ([], { Warnings := warnings }, some err)
        | .ok hostConfig =>
          let r := create env params.Name config hostConfig managed
          match r.2 with
          | .error err => (r.1, { Warnings := warnings }, some (env.imageNotExistToErrcode err))
          | .ok id => (r.1, { ID := id, Warnings := warnings }, none)

/-! ## Volumes -/

/-- What `VolumeCreate` reads of a `volume.Volume`. -/
structure Volume where
  Name : String
  DriverName : String
  Path : String
  deriving DecidableEq, Repr

/-- A `types.Volume`, as the API returns it. -/
structure APIVolume where
  Name : String
  Driver : String
  Mountpoint : String
  deriving DecidableEq, Repr

/-- The calls of `VolumeCreate` that are absent from `src`. -/
structure VolumeEnv where
  /-- `stringid.GenerateNonCryptoID()`. -/
  GenerateNonCryptoID : String
  /-- `daemon.volumes.Create(name, driverName, opts, labels)`. -/
  create : String → String → List (String × String) → List (String × String) →
    Except Error Volume
  /-- `volumestore.IsNameConflict(err)`. -/
  IsNameConflict : Error → Bool
  /-- `volumeToAPIType(v)`. -/
  volumeToAPIType : Volume → APIVolume

/-- `daemon.VolumeCreate(name, driverName, opts, labels)`. -/
def volumeCreate (env : VolumeEnv) (name driverName : String)
    (opts labels : List (String × String)) : List Event × Except Error APIVolume :=
  let name := if name = "" then env.GenerateNonCryptoID else name
  match env.create name driverName opts labels with
  | .error err =>
    if env.IsNameConflict err then
      ([], .error ⟨"A volume named " ++ name ++
        " already exists. Choose a different volume name.", false⟩)
    else ([], .error err)
  | .ok v =>
    ([.logVolumeEvent v.Name "create" [("driver", v.DriverName)]],
      .ok { env.volumeToAPIType v with Mountpoint := v.Path })

/-! ## What a create leaves behind -/

theorem mem_runSteps {e : Event} : ∀ {l : List (List Event × Option Error)},
    e ∈ (runSteps l).1 → ∃ s ∈ l, e ∈ s.1
  | [], h => by simp [runSteps] at h
  | (_, some _) :: _, h => ⟨_, List.mem_cons_self _ _, h⟩
  | (_, none) :: _, h => by
    rcases List.mem_append.mp h with h | h
    · exact ⟨_, List.mem_cons_self _ _, h⟩
    · obtain ⟨s, hs, he⟩ := mem_runSteps h
      exact ⟨s, List.mem_cons_of_mem _ hs, he⟩

theorem runSteps_snoc (evs : List Event) : ∀ l : List (List Event × Option Error),
    runSteps (l ++ [(evs, none)]) = match (runSteps l).2 with
      | some _ => runSteps l
      | none => ((runSteps l).1 ++ evs, none)
  | [] => by simp [runSteps]
  | (_, some _) :: _ => rfl
  | (evs', none) :: rest => by
    have ih := runSteps_snoc evs rest
    simp only [List.cons_append, List.append_eq, runSteps]
    rw [ih]
    cases h : (runSteps rest).2 <;> simp [h]

/-- The steps build, clean nothing up and report no event. -/
theorem buildSteps_events {env : Env} {id imgID : String} {hostConfig : HostConfig}
    {s : List Event × Option Error} (hs : s ∈ buildSteps env id imgID hostConfig)
    {e : Event} (he : e ∈ s.1) : e.ofStep := by
  suffices h : s.1.all Event.ofStep from List.all_eq_true.mp h e he
  unfold buildSteps setRWLayer at hs
  simp only [List.mem_append, List.mem_cons, List.mem_singleton] at hs
  rcases hs with (rfl | rfl | hs) | hs
  · rfl
  · split <;> rfl
  · simp at hs
  · split at hs
    · rw [List.mem_singleton.mp hs]; rfl
    · simp only [List.mem_cons, List.mem_singleton, List.not_mem_nil, or_false] at hs
      rcases hs with rfl | rfl | rfl | rfl | rfl | rfl | rfl <;> first | rfl | (split <;> rfl)

/-- **What `build` does**: when all its steps succeed, their events and then the create
event; at the first that fails, the events up to it. -/
theorem build_spec (env : Env) (id imgID : String) (hostConfig : HostConfig) :
    ∃ evs, (∀ e ∈ evs, e.ofStep) ∧
      ((build env id imgID hostConfig).2 = none →
        (build env id imgID hostConfig).1 = evs ++ [.logContainerEvent id "create"]) ∧
      ((build env id imgID hostConfig).2 ≠ none → (build env id imgID hostConfig).1 = evs) := by
  refine ⟨(runSteps (buildSteps env id imgID hostConfig)).1, fun e he => ?_, ?_⟩
  · obtain ⟨s, hs, he⟩ := mem_runSteps he
    exact buildSteps_events hs he
  · unfold build
    rw [runSteps_snoc]
    cases h : (runSteps (buildSteps env id imgID hostConfig)).2 <;> simp [h]

/-- `create` up to `build`: it fails before `newContainer` with no event, or it checks the
config and the log config, has `newContainer` build container `id`, runs `build` on it and
the deferred clean-up on `build`'s error. -/
theorem create_built (env : Env) (name : String) (config : Config) (hostConfig : HostConfig)
    (managed : Bool) :
    ((create env name config hostConfig managed).1 = [] ∧
      ∃ err, (create env name config hostConfig managed).2 = .error err) ∨
    ∃ img config' logConfig id, mergeAndVerifyConfig env.merge config img = .ok config' ∧
      env.mergeAndVerifyLogConfig hostConfig.LogConfig = .ok logConfig ∧
      env.newContainer name config' ((img.map (·.ID)).getD "") managed = .ok id ∧
      create env name config hostConfig managed =
        (.newContainer name config' ((img.map (·.ID)).getD "") managed id ::
          (build env id ((img.map (·.ID)).getD "") { hostConfig with LogConfig := logConfig }).1 ++
          deferCleanup env id
            (build env id ((img.map (·.ID)).getD "") { hostConfig with LogConfig := logConfig }).2,
          match (build env id ((img.map (·.ID)).getD "")
            { hostConfig with LogConfig := logConfig }).2 with
          | some err => .error err
          | none => .ok id) := by
  unfold create
  dsimp only
  split
  · exact .inl ⟨rfl, _, rfl⟩
  · rename_i img _
    split
    · exact .inl ⟨rfl, _, rfl⟩
    · rename_i config' hmerge
      split
      · exact .inl ⟨rfl, _, rfl⟩
      · rename_i logConfig hlog
        split
        · exact .inl ⟨rfl, _, rfl⟩
        · rename_i id hid
          exact .inr ⟨img, config', logConfig, id, hmerge, hlog, hid, rfl⟩

/-- **The cases of `create`**: it fails before `newContainer`, with no event; or it builds a
container from the checked config, and returns it after all its steps and the create
event, or returns the error of the step that failed after the deferred clean-up. -/
theorem create_cases (env : Env) (name : String) (config : Config) (hostConfig : HostConfig)
    (managed : Bool) :
    ((create env name config hostConfig managed).1 = [] ∧
      ∃ err, (create env name config hostConfig managed).2 = .error err) ∨
    ∃ img config' id evs, mergeAndVerifyConfig env.merge config img = .ok config' ∧
      (∀ e ∈ evs, e.ofStep) ∧
      (create env name config hostConfig managed =
          (.newContainer name config' ((img.map (·.ID)).getD "") managed id :: evs ++
            [.logContainerEvent id "create"], .ok id) ∨
        ∃ err, create env name config hostConfig managed =
          (.newContainer name config' ((img.map (·.ID)).getD "") managed id :: evs ++
            deferCleanup env id (some err), .error err)) := by
  rcases create_built env name config hostConfig managed with h | ⟨img, config', logConfig, id, hmerge, -, -, hc⟩
  · exact .inl h
  obtain ⟨evs, hevs, hok, herr⟩ :=
    build_spec env id ((img.map (·.ID)).getD "") { hostConfig with LogConfig := logConfig }
  refine .inr ⟨img, config', id, evs, hmerge, hevs, ?_⟩
  rw [hc]
  cases hb : (build env id ((img.map (·.ID)).getD "") { hostConfig with LogConfig := logConfig }).2 with
  | none => exact .inl (by simp [hok hb, deferCleanup])
  | some err => exact .inr ⟨err, by simp [herr (by simp [hb])]⟩

/-- **Every container built has a command.**  The config `create` gives `newContainer` has
an `Entrypoint` or a `Cmd`, and no `Entrypoint` of `[""]`, whatever the image adds. -/
theorem create_config_command (env : Env) (name : String) (config : Config)
    (hostConfig : HostConfig) (managed : Bool) {n : String} {config' : Config} {imgID : String}
    {m : Bool} {id : String}
    (h : Event.newContainer n config' imgID m id ∈ (create env name config hostConfig managed).1) :
    config'.Entrypoint ≠ [""] ∧ (config'.Entrypoint ≠ [] ∨ config'.Cmd ≠ []) := by
  rcases create_cases env name config hostConfig managed with
    ⟨h0, -⟩ | ⟨img, config'', id', evs, hmerge, hevs, hr | ⟨err, hr⟩⟩
  · rw [h0] at h; cases h
  all_goals
    rw [hr] at h
    simp only [List.cons_append, List.mem_cons, Event.newContainer.injEq, List.mem_append] at h
    rcases h with ⟨-, rfl, -⟩ | h
    · exact mergeAndVerifyConfig_command hmerge
  · rcases h with h | h
    · simpa [Event.ofStep] using hevs _ h
    · simp at h
  · rcases h with h | h
    · simpa [Event.ofStep] using hevs _ h
    · simp only [deferCleanup, List.mem_cons, reduceCtorEq, false_or] at h
      split at h <;> simp at h

/-- A daemon on `GOOS` where every call succeeds, with an image `busybox` built on
Solaris. -/
def busyboxEnv (GOOS : String) : Env where
  GOOS := GOOS
  ParseIP _ := none
  verifyContainerSettings _ _ := ([], none)
  adaptContainerSettings hostConfig _ := .ok hostConfig
  GetImage _ := .ok ⟨"solaris", "sha256:1", some ⟨"busybox", [], ["sh"]⟩⟩
  merge config _ := .ok config
  mergeAndVerifyLogConfig := .ok
  newContainer _ _ _ _ := .ok "c1"
  fails _ _ := none
  imageStoreGet _ := .ok "layer1"
  createRWLayer _ _ := none
  GetRootUIDGID := .ok (0, 0)
  mkdirAs _ _ := none
  cleanupContainer _ := none
  imageNotExistToErrcode := id

theorem create_config_command_busybox :
    Event.newContainer "web" ⟨"busybox", [], ["sh"]⟩ "sha256:1" false "c1" ∈
      (create (busyboxEnv "linux") "web" ⟨"busybox", [], ["sh"]⟩ {} false).1 ∧
    (⟨"busybox", [], ["sh"]⟩ : Config).Entrypoint ≠ [""] ∧
      ((⟨"busybox", [], ["sh"]⟩ : Config).Entrypoint ≠ [] ∨
        (⟨"busybox", [], ["sh"]⟩ : Config).Cmd ≠ []) := by
  have h : Event.newContainer "web" ⟨"busybox", [], ["sh"]⟩ "sha256:1" false "c1" ∈
      (create (busyboxEnv "linux") "web" ⟨"busybox", [], ["sh"]⟩ {} false).1 := by decide
  exact ⟨h, create_config_command (busyboxEnv "linux") "web" _ {} false h⟩

end Daemon

end ContainerLifecycle
