import FusionAccess.Controller.Passes

/-!
# The creation of LocalDisks

The loop that creates LocalDisks stops at the first device that it cannot name
a LocalDisk for and at the first LocalDisk that exists already, and it is never
resumed behind a LocalDisk that it has created. What it creates is therefore
planned by the state in which it starts. When the plan is to create all
LocalDisks of a claim or none, and no call fails in between, the claim never
owns a part of them.
-/

namespace FusionAccess

open Kubernetes Interaction Fallible

/-! ## What the loop creates -/

/-- The WWN that `getDeviceWWN` finds. -/
def knownWWN? (cluster : Cluster) (devicePath nodeName : String) : Option String :=
  cluster.deploymentNamespace.bind fun operatorNamespace =>
    (Registry.find? LocalVolumeDiscoveryResult.key
        ⟨operatorNamespace, discoveryResultName nodeName⟩
        cluster.discoveryResults).bind fun lvdr =>
      (wwnOf devicePath nodeName lvdr).toOption

/-- The name of the LocalDisk for a device, if it can be told. -/
def localDiskName? (cluster : Cluster) (devicePath nodeName : String) :
    Option String :=
  (knownWWN? cluster devicePath nodeName).bind fun wwn =>
    (generateLocalDiskName wwn).toOption

/-- The devices for which the loop creates a LocalDisk when the given names are
taken. -/
def plannedDevices (cluster : Cluster) (ns nodeName : String) :
    List NamespacedName → List String → List String
  | _, [] => []
  | taken, devicePath :: devices =>
      match localDiskName? cluster devicePath nodeName with
      | none => []
      | some name =>
          if ⟨ns, name⟩ ∈ taken then []
          else
            devicePath ::
              plannedDevices cluster ns nodeName (taken ++ [⟨ns, name⟩]) devices

/-- The devices for which a pass creates LocalDisks on a node. -/
def planFor (cluster : Cluster) (fsc : FileSystemClaim) (nodeName : String) :
    List String :=
  plannedDevices cluster fsc.metadata.ns nodeName
    (cluster.localDisks.map Unstructured.key) fsc.devices

theorem plannedDevices_subset
    (cluster : Cluster) (ns nodeName : String)
    (taken : List NamespacedName) (devices : List String) :
    plannedDevices cluster ns nodeName taken devices ⊆ devices := by
  induction devices generalizing taken with
  | nil => exact List.Subset.refl _
  | cons devicePath devices inductionHypothesis =>
      rw [plannedDevices]
      split
      · exact List.nil_subset _
      · split
        · exact List.nil_subset _
        · exact List.cons_subset_cons _ (inductionHypothesis _)

/-- The devices of the LocalDisks that a claim owns. -/
def devicesOf (cluster : Cluster) (fsc : FileSystemClaim) : List String :=
  (ownedBy cluster fsc .localDisk).map (·.specString "device")

/-- The storage nodes of a cluster. -/
def storageNodes (cluster : Cluster) : List String :=
  (cluster.nodes.filter isStorageNode).map Node.name

variable {C : Contract apiServer}

/-- `getDeviceWWN` finds what is known, unless a call fails. -/
theorem ensures_getDeviceWWN
    {devicePath nodeName : String}
    {post : Except Failure String → Cluster → Prop}
    {cluster : Cluster}
    (admits : AdmitsReads C)
    (known : ∀ wwn, knownWWN? cluster devicePath nodeName = some wwn →
      post (.ok wwn) cluster)
    (unknown : knownWWN? cluster devicePath nodeName = none →
      ∀ failure, post (.error failure) cluster)
    (failed : ∀ failure call, ReadMayFail C cluster call →
      post (.error failure) cluster) :
    Ensures C (getDeviceWWN devicePath nodeName) post cluster := by
  unfold getDeviceWWN getDeploymentNamespace
  simp only [ensures_bind, ensures_mapError]
  refine ensures_local (admits _ _ rfl) rfl rfl fun pick => ?_
  simp only [Cluster.answer, onSuccess_ok]
  cases namespace' : cluster.deploymentNamespace with
  | none =>
      exact unknown (by simp [knownWWN?, namespace']) _
  | some operatorNamespace =>
      simp only [ensures_pure, Except.mapError, onSuccess_ok, ensures_bind,
        ensures_mapError]
      refine ensures_read admits rfl (fun pick => ?_) fun failure _ mayFail =>
        failed _ _ ⟨rfl, mayFail⟩
      simp only [Cluster.answer]
      cases found : Registry.find? LocalVolumeDiscoveryResult.key
          ⟨operatorNamespace, discoveryResultName nodeName⟩
          cluster.discoveryResults with
      | none => exact unknown (by simp [knownWWN?, namespace', found]) _
      | some lvdr =>
          rw [onSuccess_ok]
          cases looked : wwnOf devicePath nodeName lvdr with
          | error err =>
              exact unknown
                (by simp [knownWWN?, namespace', found, looked, Except.toOption]) _
          | ok wwn =>
              exact known wwn
                (by simp [knownWWN?, namespace', found, looked, Except.toOption])

/-- The storage node for a random number. -/
def drawnNode (cluster : Cluster) (pick : Nat) : String :=
  (storageNodes cluster).getD (pick % (storageNodes cluster).length) ""

theorem drawnNode_mem
    {cluster : Cluster} (some : storageNodes cluster ≠ []) (pick : Nat) :
    drawnNode cluster pick ∈ storageNodes cluster := by
  have inRange := Nat.mod_lt pick (List.length_pos_iff.mpr some)
  rw [drawnNode, List.getD_eq_getElem?_getD, List.getElem?_eq_getElem inRange]
  exact List.getElem_mem inRange

/-- The contract admits that the storage node is drawn. -/
def MayDraw (C : Contract apiServer) (cluster : Cluster) (nodeName : String) : Prop :=
  ∃ bound choice, C.rely cluster (.randomIndex bound) choice ∧
    nodeName = drawnNode cluster choice.pick

/-- `getRandomStorageNode` picks one of the storage nodes. -/
theorem ensures_getRandomStorageNode
    {post : Except Failure String → Cluster → Prop}
    {cluster : Cluster}
    (admits : AdmitsReads C)
    (picked : ∀ nodeName ∈ storageNodes cluster, MayDraw C cluster nodeName →
      post (.ok nodeName) cluster)
    (failed : storageNodes cluster = [] ∨ FailsReads C →
      ∀ failure, post (.error failure) cluster) :
    Ensures C getRandomStorageNode post cluster := by
  unfold getRandomStorageNode
  simp only [ensures_bind, ensures_mapError]
  refine ensures_read admits rfl (fun pick => ?_)
    fun failure _ mayFail => failed (Or.inr ⟨_, _, rfl, mayFail⟩) _
  simp only [Cluster.answer, Except.mapError, onSuccess_ok, ensures_ite,
    ensures_throw, ensures_bind, ensures_mapError]
  refine ⟨fun none => failed (Or.inl (List.length_eq_zero_iff.mp none)) _,
    fun some => ?_⟩
  refine ensures_draw admits (fun choice relied => ?_)
    fun failure _ mayFail => failed (Or.inr ⟨_, _, rfl, mayFail⟩) _
  simp only [Cluster.answer, onSuccess_ok, ensures_pure]
  have nonempty : storageNodes cluster ≠ [] := fun none => some (by
    rw [← storageNodes, none, List.length_nil])
  exact picked _ (drawnNode_mem nonempty choice.pick) ⟨_, choice, relied, rfl⟩

/-! ## One turn of the loop -/

/-- Report a failed creation and end the pass. -/
abbrev reportFailure
    (fsc : FileSystemClaim) (resourceType : ResourceType) (err : Failure) :
    Act Bool := do
  handleResourceCreationError fsc resourceType err
  return true

/-- The LocalDisk that comes first is created, and then those that follow. -/
abbrev createLocalDisk
    (fsc : FileSystemClaim) (nodeName devicePath name : String)
    (devices : List String) : Act Bool := do
  match ← (createResourceWithOwnership fsc .localDisk name
      (localDiskSpec devicePath nodeName)).attempt with
  | .error err => reportFailure fsc .localDisk err
  | .ok _ => do
      let _ ← updateConditionIfChanged fsc .localDiskCreated .isFalse
        .localDiskCreationInProgress
        "LocalDisks created, waiting for them to become ready"
      createLocalDisks fsc nodeName devices true

/-- The loop at its first device: it goes on only when a LocalDisk can be created. -/
theorem ensures_createLocalDisks_turn
    {cluster : Cluster} {fsc : FileSystemClaim} {post : Except Failure Bool → Cluster → Prop}
    {nodeName devicePath : String} {devices : List String} {requeue : Bool}
    (admits : AdmitsReads C)
    (failed : ∀ call, ReadMayFail C cluster call →
      ∀ failure, post (.error failure) cluster)
    (unknown : (localDiskName? cluster devicePath nodeName = none ∨
        ∃ call, ReadMayFail C cluster call) →
      ∀ err, Ensures C (reportFailure fsc .localDisk err) post cluster)
    (taken : ∀ name, localDiskName? cluster devicePath nodeName = some name →
      (cluster.object? .localDisk ⟨fsc.metadata.ns, name⟩).isSome →
      post (.ok false) cluster)
    (creates : ∀ name, localDiskName? cluster devicePath nodeName = some name →
      cluster.object? .localDisk ⟨fsc.metadata.ns, name⟩ = none →
      Ensures C (createLocalDisk fsc nodeName devicePath name devices) post cluster) :
    Ensures C (createLocalDisks fsc nodeName (devicePath :: devices) requeue)
      post cluster := by
  rw [createLocalDisks, ensures_bind, ensures_attempt]
  refine ensures_getDeviceWWN admits (fun wwn known => ?_) (fun missing failure => ?_)
    fun failure call mayFail => unknown (Or.inr ⟨call, mayFail⟩) failure
  · rw [onSuccess_ok]
    dsimp only
    cases generated : generateLocalDiskName wwn with
    | error err =>
        have nameless : localDiskName? cluster devicePath nodeName = none := by
          rw [localDiskName?, known, Option.bind_some, generated]
          rfl
        exact unknown (Or.inl nameless) err
    | ok name =>
        have named : localDiskName? cluster devicePath nodeName = some name := by
          rw [localDiskName?, known, Option.bind_some, generated]
          rfl
        dsimp only
        rw [ensures_bind, ensures_attempt]
        refine ensures_read admits rfl (fun pick => ?_) fun failure transient mayFail => ?_
        · cases stored : cluster.object? .localDisk ⟨fsc.metadata.ns, name⟩ with
          | some object =>
              simp only [Cluster.answer, stored, onSuccess_ok, ensures_pure]
              exact taken name named (by rw [stored]; rfl)
          | none =>
              simp only [Cluster.answer, stored, onSuccess_ok, ensures_ite]
              refine ⟨fun _ => ?_, fun present => absurd rfl present⟩
              exact creates name named stored
        · simp only [onSuccess_ok, ensures_ite, ensures_throw]
          exact ⟨fun absent => absurd absent transient.1, fun _ => failed _ ⟨rfl, mayFail⟩ _⟩
  · refine unknown (Or.inl ?_) failure
    rw [localDiskName?, missing, Option.bind_none]

/-! ## Claims that own all their LocalDisks or none -/

/-- What the devices of the LocalDisks of a claim have to do with the devices
that the claim asks for; LocalDisks for devices of the claim may be added. -/
structure Fitting where
  fits : List String → List String → Prop
  grows : ∀ {owned devices more : List String},
    fits owned devices → more ⊆ devices → fits (owned ++ more) devices

variable {F : Fitting}

/-- The claim owns no LocalDisks, or those that fit. -/
def HasAllOrNone (F : Fitting) (cluster : Cluster) (fsc : FileSystemClaim) : Prop :=
  devicesOf cluster fsc = [] ∨ F.fits (devicesOf cluster fsc) fsc.devices

/-- The claim with the given key, if there is one, owns no LocalDisks or those
that fit. -/
def Complete (F : Fitting) (key : NamespacedName) (cluster : Cluster) : Prop :=
  ∀ cur, cluster.claim? key = some cur → HasAllOrNone F cluster cur

/-- The same, unless the claim is being deleted. -/
def Whole (F : Fitting) (key : NamespacedName) (cluster : Cluster) : Prop :=
  ∀ cur, cluster.claim? key = some cur →
    isDeleting cur = true ∨ HasAllOrNone F cluster cur

instance [∀ owned devices, Decidable (F.fits owned devices)]
    (key : NamespacedName) (cluster : Cluster) : Decidable (Whole F key cluster) :=
  inferInstanceAs (Decidable (∀ cur ∈ cluster.claim? key, _ ∨ _ ∨ _))

theorem Complete.whole
    {key : NamespacedName} {cluster : Cluster}
    (complete : Complete F key cluster) :
    Whole F key cluster :=
  fun cur stored => Or.inr (complete cur stored)

theorem Whole.complete
    {fsc cur : FileSystemClaim} {cluster : Cluster}
    (whole : Whole F fsc.key cluster)
    (stored : cluster.claim? fsc.key = some cur)
    (live : isDeleting cur = false) :
    Complete F fsc.key cluster := by
  intro other found
  rw [stored] at found
  cases found
  rcases whole cur stored with deleting | allOrNone
  · rw [live] at deleting
    cases deleting
  · exact allOrNone

theorem devicesOf_of_key_eq
    {first second : FileSystemClaim}
    (same : first.key = second.key)
    (cluster : Cluster) :
    devicesOf cluster first = devicesOf cluster second := by
  rw [devicesOf, ownedBy_of_key_eq same, devicesOf]

theorem devicesOf_of_objects_eq
    {before after : Cluster}
    (same : after.objects .localDisk = before.objects .localDisk)
    (fsc : FileSystemClaim) :
    devicesOf after fsc = devicesOf before fsc := by
  rw [devicesOf, ownedBy, same, devicesOf, ownedBy]

/-- A change that keeps the spec of the claim and all LocalDisks keeps the claim
complete. -/
theorem Complete.of_keepsSpec
    {key : NamespacedName} {before after : Cluster}
    (complete : Complete F key before)
    (keeps : Cluster.KeepsSpec key before after)
    (same : after.objects .localDisk = before.objects .localDisk) :
    Complete F key after := by
  intro patched found
  obtain ⟨cur, stored, spec⟩ := keeps patched found
  rw [HasAllOrNone, spec.devices, devicesOf_of_objects_eq same,
    devicesOf_of_key_eq spec.key]
  exact complete cur stored

theorem Complete.afterCall
    {key : NamespacedName} {cluster : Cluster} {call : Call}
    (complete : Complete F key cluster)
    (claims : call.part? ≠ some .claims)
    (localDisks : call.part? ≠ some (.objects .localDisk)) :
    Complete F key (cluster.afterCall call) :=
  complete.of_keepsSpec (Cluster.keepsSpec_afterCall claims key)
    (cluster.objects_afterCall localDisks)

theorem Complete.patchClaimStatus
    {key : NamespacedName} {cluster : Cluster}
    (complete : Complete F key cluster)
    (patched : NamespacedName)
    (original modified : List Condition) :
    Complete F key
      (cluster.afterCall (.patchClaimStatus patched original modified)) :=
  complete.of_keepsSpec
    (Cluster.keepsSpec_patchClaimStatus key patched original modified)
    (cluster.objects_afterCall (by simp [Call.part?]))

theorem Complete.patchClaimFinalizers
    {key : NamespacedName} {cluster : Cluster}
    (complete : Complete F key cluster)
    (patched : NamespacedName)
    (original modified : List String) :
    Complete F key
      (cluster.afterCall (.patchClaimFinalizers patched original modified)) :=
  complete.of_keepsSpec
    (Cluster.keepsSpec_patchClaimFinalizers key patched original modified)
    (cluster.objects_afterCall (by simp [Call.part?]))

/-! ## The loop -/

/-- The storage nodes and what was discovered on them are the same. -/
structure SameInventory (before after : Cluster) : Prop where
  nodes : after.nodes = before.nodes
  discoveryResults : after.discoveryResults = before.discoveryResults
  deploymentNamespace : after.deploymentNamespace = before.deploymentNamespace

theorem SameInventory.refl (cluster : Cluster) : SameInventory cluster cluster :=
  ⟨rfl, rfl, rfl⟩

theorem SameInventory.trans
    {first second third : Cluster}
    (earlier : SameInventory first second)
    (later : SameInventory second third) :
    SameInventory first third where
  nodes := later.nodes.trans earlier.nodes
  discoveryResults := later.discoveryResults.trans earlier.discoveryResults
  deploymentNamespace := later.deploymentNamespace.trans earlier.deploymentNamespace

theorem sameInventory_of_sameSurroundings
    {before after : Cluster} (same : Cluster.SameSurroundings before after) :
    SameInventory before after :=
  ⟨same.nodes, same.discoveryResults, same.deploymentNamespace⟩

theorem sameInventory_afterCall (cluster : Cluster) (call : Call) :
    SameInventory cluster (cluster.afterCall call) :=
  sameInventory_of_sameSurroundings (cluster.sameSurroundings_afterCall call)

theorem localDiskName?_of_sameInventory
    {before after : Cluster}
    (same : SameInventory before after)
    (devicePath nodeName : String) :
    localDiskName? after devicePath nodeName =
      localDiskName? before devicePath nodeName := by
  rw [localDiskName?, knownWWN?, same.deploymentNamespace, same.discoveryResults,
    localDiskName?, knownWWN?]

theorem localDiskName?_of_sameSurroundings
    {before after : Cluster}
    (same : Cluster.SameSurroundings before after)
    (devicePath nodeName : String) :
    localDiskName? after devicePath nodeName =
      localDiskName? before devicePath nodeName :=
  localDiskName?_of_sameInventory (sameInventory_of_sameSurroundings same)
    devicePath nodeName

/-- The names of the LocalDisks that are stored. -/
abbrev localDiskNames (cluster : Cluster) : List NamespacedName :=
  cluster.localDisks.map Unstructured.key

/-- The plan depends on which names are taken. -/
theorem plannedDevices_congr
    {ns nodeName : String} {taken others : List NamespacedName}
    (cluster : Cluster)
    (same : ∀ key, key ∈ others ↔ key ∈ taken)
    (devices : List String) :
    plannedDevices cluster ns nodeName others devices =
      plannedDevices cluster ns nodeName taken devices := by
  induction devices generalizing taken others with
  | nil => rfl
  | cons devicePath devices inductionHypothesis =>
      rw [plannedDevices, plannedDevices]
      split
      · rfl
      · simp only [same]
        congr 2
        refine inductionHypothesis fun key => ?_
        rw [List.mem_append, List.mem_append, same]

/-- How far the creation has come: what was created and what remains are together
what was planned. -/
structure Planned
    (start : Cluster) (fsc : FileSystemClaim) (nodeName : String)
    (made remaining : List String) (state : Cluster) : Prop where
  inventory : SameInventory start state
  devices : devicesOf state fsc = devicesOf start fsc ++ made
  plan : planFor start fsc nodeName = made ++
    plannedDevices start fsc.metadata.ns nodeName (localDiskNames state) remaining

/-- How far the loop has come, and the claim is the one that it works on. -/
structure Created
    (start : Cluster) (fsc : FileSystemClaim) (nodeName : String)
    (made remaining : List String) (state : Cluster) : Prop where
  planned : Planned start fsc nodeName made remaining state
  claim : ∃ cur, state.claim? fsc.key = some cur ∧ Cluster.SameSpec fsc cur

section Loop

variable {start state : Cluster} {fsc : FileSystemClaim} {nodeName : String}
  {made remaining : List String}

theorem planned_start (start : Cluster) (fsc : FileSystemClaim) (nodeName : String) :
    Planned start fsc nodeName [] fsc.devices start where
  inventory := SameInventory.refl start
  devices := (List.append_nil _).symm
  plan := rfl

theorem created_start (stored : start.claim? fsc.key = some fsc) :
    Created start fsc nodeName [] fsc.devices start :=
  ⟨planned_start start fsc nodeName, fsc, stored, Cluster.SameSpec.refl fsc⟩

/-- What keeps the inventory and the LocalDisks does not interfere with the plan. -/
theorem Planned.of_same
    {after : Cluster}
    (planned : Planned start fsc nodeName made remaining state)
    (inventory : SameInventory state after)
    (devices : devicesOf after fsc = devicesOf state fsc)
    (names : ∀ key, key ∈ localDiskNames after ↔ key ∈ localDiskNames state) :
    Planned start fsc nodeName made remaining after where
  inventory := planned.inventory.trans inventory
  devices := devices.trans planned.devices
  plan := by
    rw [plannedDevices_congr start names]
    exact planned.plan

/-- Nor does a call that does not write LocalDisks. -/
theorem Planned.afterCall
    {call : Call}
    (planned : Planned start fsc nodeName made remaining state)
    (elsewhere : call.part? ≠ some (.objects .localDisk)) :
    Planned start fsc nodeName made remaining (state.afterCall call) := by
  have same := state.objects_afterCall elsewhere
  refine planned.of_same (sameInventory_afterCall state call)
    (devicesOf_of_objects_eq same fsc) fun key => ?_
  simp only [Cluster.objects] at same
  rw [localDiskNames, same]

/-- Status patches do not interfere with the loop. -/
theorem Created.patchClaimStatus
    (created : Created start fsc nodeName made remaining state)
    {cur : FileSystemClaim}
    (stored : state.claim? fsc.key = some cur)
    (modified : List Condition) :
    Created start fsc nodeName made remaining
      (state.afterCall (.patchClaimStatus fsc.key cur.conditions modified)) where
  planned := created.planned.afterCall (by simp [Call.part?])
  claim := by
    obtain ⟨other, storedOther, sameSpec⟩ := created.claim
    rw [stored] at storedOther
    cases storedOther
    obtain ⟨patched, found, spec, _⟩ :=
      Cluster.claim?_patchClaimStatus_stored stored modified
    exact ⟨patched, found, sameSpec.trans spec⟩

/-- The name is free exactly when it is not taken by a LocalDisk. -/
theorem object?_eq_none_iff (cluster : Cluster) (key : NamespacedName) :
    cluster.object? .localDisk key = none ↔ key ∉ localDiskNames cluster := by
  rw [Cluster.object?, Registry.find?_eq_none, List.mem_map]
  simp only [Cluster.objects, not_exists, not_and, ne_eq]

/-- The next LocalDisk that was planned is created. -/
theorem Planned.create
    {devicePath name : String} {devices : List String}
    (planned : Planned start fsc nodeName made (devicePath :: devices) state)
    (named : localDiskName? start devicePath nodeName = some name)
    (free : state.object? .localDisk ⟨fsc.metadata.ns, name⟩ = none) :
    Planned start fsc nodeName (made ++ [devicePath]) devices
      (state.afterCall (.create .localDisk
        (ownedObject fsc name (localDiskSpec devicePath nodeName)))) := by
  refine ⟨planned.inventory.trans (sameInventory_afterCall _ _), ?_, ?_⟩
  · rw [devicesOf, ownedBy_create free, List.map_append, ← devicesOf, planned.devices,
      List.append_assoc]
    rfl
  · have free' : state.object? .localDisk
      (ownedObject fsc name (localDiskSpec devicePath nodeName)).key = none := free
    have stored := state.objects_create free'
    have notTaken := (object?_eq_none_iff state _).mp free
    simp only [Cluster.objects] at stored
    rw [localDiskNames, stored, List.map_append, planned.plan, plannedDevices, named]
    dsimp only
    rw [if_neg notTaken, List.append_assoc]
    rfl

theorem Created.create
    {devicePath name : String} {devices : List String}
    (created : Created start fsc nodeName made (devicePath :: devices) state)
    (named : localDiskName? start devicePath nodeName = some name)
    (free : state.object? .localDisk ⟨fsc.metadata.ns, name⟩ = none) :
    Created start fsc nodeName (made ++ [devicePath]) devices
      (state.afterCall (.create .localDisk
        (ownedObject fsc name (localDiskSpec devicePath nodeName)))) := by
  refine ⟨created.planned.create named free, ?_⟩
  rw [state.claim?_afterCall (by simp [Call.part?])]
  exact created.claim

/-- Where the creation stops by itself the plan is fulfilled. -/
theorem Planned.allOrNone
    (planned : Planned start fsc nodeName made remaining state)
    (stopped : plannedDevices start fsc.metadata.ns nodeName (localDiskNames state)
      remaining = [])
    (allOrNone : HasAllOrNone F start fsc)
    (plans : devicesOf start fsc = [] → planFor start fsc nodeName = [] ∨
      F.fits (planFor start fsc nodeName) fsc.devices) :
    HasAllOrNone F state fsc := by
  have fulfilled : planFor start fsc nodeName = made := by
    rw [planned.plan, stopped, List.append_nil]
  have part : made ⊆ fsc.devices :=
    fulfilled ▸ plannedDevices_subset start _ nodeName _ fsc.devices
  rw [HasAllOrNone, planned.devices]
  rw [fulfilled] at plans
  rcases allOrNone with none | fits
  · rw [none, List.nil_append]
    exact plans none
  · exact Or.inr (F.grows fits part)

theorem HasAllOrNone.of_sameSpec
    {cur : FileSystemClaim}
    (allOrNone : HasAllOrNone F state fsc)
    (spec : Cluster.SameSpec fsc cur) :
    HasAllOrNone F state cur := by
  rw [HasAllOrNone, devicesOf_of_key_eq spec.key, spec.devices]
  exact allOrNone

/-- Where the loop stops the claim is complete. -/
theorem Created.complete
    (created : Created start fsc nodeName made remaining state)
    (stopped : plannedDevices start fsc.metadata.ns nodeName (localDiskNames state)
      remaining = [])
    (allOrNone : HasAllOrNone F start fsc)
    (plans : devicesOf start fsc = [] → planFor start fsc nodeName = [] ∨
      F.fits (planFor start fsc nodeName) fsc.devices) :
    Complete F fsc.key state := by
  intro cur found
  obtain ⟨other, foundOther, spec⟩ := created.claim
  rw [found] at foundOther
  cases foundOther
  exact (created.planned.allOrNone stopped allOrNone plans).of_sameSpec spec

/-- A live claim that is whole while the loop runs is complete. -/
theorem Created.complete_of_whole
    (created : Created start fsc nodeName made remaining state)
    (live : isDeleting fsc = false)
    (whole : Whole F fsc.key state) :
    Complete F fsc.key state := by
  obtain ⟨cur, stored, spec⟩ := created.claim
  refine whole.complete stored ?_
  rw [isDeleting, spec.deletionTimestamp]
  exact live

/-- The call patches the status of a claim. -/
def isStatusPatch : Call → Bool
  | .patchClaimStatus _ _ _ => true
  | _ => false

/-- All calls but status patches are guarded. -/
def GuardsCalls (C : Contract apiServer) : Prop :=
  ∀ state call, isStatusPatch call = false → C.guard state call

theorem GuardsCalls.admitsReads (calls : GuardsCalls C) : AdmitsReads C := by
  intro cluster call reads
  refine calls cluster call ?_
  cases call <;> simp_all [Call.isRead, isStatusPatch]

/-- All calls but status patches are guarded, and calls fail only when the claim
is whole afterwards. -/
structure FailsWhole
    (C : Contract apiServer) (F : Fitting) (key : NamespacedName) : Prop where
  calls : GuardsCalls C
  faults : ∀ state call final, MayFail C state call final → Whole F key final

/-- Patches of the stored status that make the given reports are guarded. -/
def GuardsReports
    (C : Contract apiServer) (key : NamespacedName)
    (reports : ConditionType → ConditionStatus → Reason → Prop) : Prop :=
  ∀ state cur modified, state.claim? key = some cur →
    Touches reports cur.conditions modified →
      C.guard state (.patchClaimStatus key cur.conditions modified)

variable (terms : FailsWhole C F fsc.key)

include terms

theorem FailsWhole.allowsReports
    {reports : ConditionType → ConditionStatus → Reason → Prop}
    (guards : GuardsReports C fsc.key reports) :
    AllowsReports C (Complete F fsc.key) fsc reports :=
  allowsReports_of_patch terms.calls.admitsReads
    fun state cur modified complete stored touches =>
      ⟨guards state cur modified stored touches, complete.patchClaimStatus _ _ _⟩

/-- The loop leaves the claim complete when it does so wherever it stops by
itself. -/
theorem ensures_createLocalDisks
    (live : isDeleting fsc = false)
    (failures : GuardsReports C fsc.key (reportsFailure .localDisk))
    (stops : ∀ made remaining state, Created start fsc nodeName made remaining state →
      plannedDevices start fsc.metadata.ns nodeName
        (localDiskNames state) remaining = [] →
        Complete F fsc.key state)
    (devices : List String)
    (requeue : Bool)
    (created : Created start fsc nodeName made devices state) :
    Ensures C (createLocalDisks fsc nodeName devices requeue)
      (fun _ final => Complete F fsc.key final) state := by
  have admits := terms.calls.admitsReads
  have givesUp : ∀ (err : Failure) (state : Cluster), Complete F fsc.key state →
      Ensures C (reportFailure fsc .localDisk err)
        (fun _ final => Complete F fsc.key final) state :=
    fun err state complete => Ensures.mono
      (safe_reportFailure (terms.allowsReports failures).ofPass err state complete)
      fun _ _ ensured => ensured.2
  -- induction on the devices that remain; `created` is the invariant of the loop
  induction devices generalizing made requeue state with
  | nil => exact stops _ _ _ created rfl
  | cons devicePath devices inductionHypothesis =>
      have failed : ∀ call, MayFail C state call state → Complete F fsc.key state :=
        fun call mayFail =>
          created.complete_of_whole live (terms.faults _ _ _ mayFail)
      have unnamed : localDiskName? start devicePath nodeName = none →
          Complete F fsc.key state := by
        intro none
        refine stops _ _ _ created ?_
        rw [plannedDevices, none]
      have sameName :=
        localDiskName?_of_sameInventory created.planned.inventory devicePath nodeName
      refine ensures_createLocalDisks_turn admits
        (fun call fails _ => failed call fails.2)
        (fun cause err => givesUp err state ?_) (fun name named there => ?_)
        fun name named free => ?_
      · rcases cause with nameless | ⟨call, _, mayFail⟩
        · exact unnamed (sameName.symm.trans nameless)
        · exact failed call mayFail
      · have taken : ⟨fsc.metadata.ns, name⟩ ∈ localDiskNames state := by
          by_contra free
          rw [← object?_eq_none_iff] at free
          rw [free] at there
          cases there
        refine stops _ _ _ created ?_
        rw [plannedDevices, sameName.symm.trans named]
        exact if_pos taken
      · have next := created.create (sameName.symm.trans named) free
        rw [ensures_bind, ensures_attempt]
        refine ensures_createResourceWithOwnership (terms.calls _ _ rfl)
          (fun _ => ?_) (fun object taken => ?_)
          (fun failure call _ mayFail => ?_) fun failure call _ mayFail => ?_
        · rw [onSuccess_ok]
          obtain ⟨cur, found, spec⟩ := next.claim
          rw [ensures_bind]
          refine ensures_updateConditionIfChanged admits found (fun _ => ?_)
            (fun _ => failures _ _ _ found
              ((Touches.refl _ _).withCondition ⟨rfl, Or.inl rfl⟩ _ _))
            (fun _ => ?_) (fun _ _ _ mayFail => ?_) fun _ _ _ mayFail _ => ?_
          · exact inductionHypothesis true next
          · exact inductionHypothesis true (next.patchClaimStatus found _)
          · exact next.complete_of_whole live (terms.faults _ _ _ mayFail)
          · exact (next.patchClaimStatus found _).complete_of_whole live
              (terms.faults _ _ _ mayFail)
        · rw [free] at taken
          cases taken
        · exact givesUp failure _ (failed call mayFail)
        · exact givesUp failure _
            (next.complete_of_whole live (terms.faults _ _ _ mayFail))

end Loop

/-! ## The pass -/

/-- A pass on the claim gets to the creation of LocalDisks: its devices are
validated, and its LocalDisks are neither created nor on their way. -/
def startsCreation (fsc : FileSystemClaim) : Bool :=
  !isDeleting fsc && hasFinalizer fsc && !isConditionTrue fsc .localDiskCreated &&
    !hasConditionWithReason fsc.conditions .localDiskCreated
      .localDiskCreationInProgress &&
    isConditionTrue fsc .deviceValidated

/-- If a pass on a claim without LocalDisks starts to create them, then it
creates none or those that fit, whichever storage node it picks. -/
def CreatesAllOrNone (F : Fitting) (cluster : Cluster) (fsc : FileSystemClaim) : Prop :=
  startsCreation fsc = true → devicesOf cluster fsc = [] →
    ∀ nodeName ∈ storageNodes cluster,
      planFor cluster fsc nodeName = [] ∨
        F.fits (planFor cluster fsc nodeName) fsc.devices

instance [∀ owned devices, Decidable (F.fits owned devices)]
    (cluster : Cluster) (fsc : FileSystemClaim) :
    Decidable (CreatesAllOrNone F cluster fsc) :=
  inferInstanceAs (Decidable (_ → _ → ∀ nodeName ∈ storageNodes cluster, _ ∨ _))

section Pass

variable {cluster : Cluster} {fsc : FileSystemClaim} {key : NamespacedName}
  {r : FileSystemClaimReconciler}

/-- The check of the devices of a claim whose LocalDisks are created. -/
abbrev checkDevices (fsc : FileSystemClaim) : Act Bool := do
  let owned ← (listOwnedResources fsc .localDisk).mapError
    (Failure.wrap "failed to list owned LocalDisks: ")
  if ownedDevices owned ≠ fsc.devices.toFinset then do
    patchFSCStatus fsc (withCondition .ready .isFalse .immutableFieldModified
      (immutableMessage fsc owned))
    return true
  else return false

theorem ensures_ensureLocalDisks
    (terms : FailsWhole C F fsc.key)
    (stored : cluster.claim? fsc.key = some fsc)
    (live : isDeleting fsc = false)
    (finalized : hasFinalizer fsc = true)
    (allOrNone : HasAllOrNone F cluster fsc)
    (creation : CreatesAllOrNone F cluster fsc)
    (checks : isConditionTrue fsc .localDiskCreated = true →
      Ensures C (checkDevices fsc) (fun _ final => Complete F fsc.key final) cluster)
    (failures : GuardsReports C fsc.key (reportsFailure .localDisk))
    (validates : GuardsReports C fsc.key reportsValidation) :
    Ensures C (ensureLocalDisks fsc) (fun _ final => Complete F fsc.key final)
      cluster := by
  have admits := terms.calls.admitsReads
  have complete : Complete F fsc.key cluster := by
    intro cur found
    rw [stored] at found
    cases found
    exact allOrNone
  unfold ensureLocalDisks
  simp only [ensures_ite, ensures_pure]
  refine ⟨checks, fun notCreated => ⟨fun _ => complete, fun notInProgress =>
    ⟨fun _ => ?_, fun validated => ?_⟩⟩⟩
  · exact Ensures.mono
      (safe_validation (readsSafely_of_admits admits)
        (terms.allowsReports validates).ofPass cluster complete)
      fun _ _ ensured => ensured.2
  rw [ensures_bind, ensures_attempt]
  refine ensures_getRandomStorageNode admits (fun nodeName member _ => ?_)
    fun _ failure => ?_
  · rw [onSuccess_ok]
    refine ensures_createLocalDisks terms live failures ?_ _ _ (created_start stored)
    intro made remaining state created stopped
    refine created.complete stopped allOrNone fun none => ?_
    exact creation (by simp_all [startsCreation]) none nodeName member
  · exact Ensures.mono
      (safe_reportFailure (terms.allowsReports failures).ofPass failure cluster complete)
      fun _ _ ensured => ensured.2

/-- The claim with the given key is missing or being deleted. -/
def Gone (key : NamespacedName) (cluster : Cluster) : Prop :=
  ∀ cur, cluster.claim? key = some cur → isDeleting cur = true

theorem Gone.of_keepsSpec
    {before after : Cluster}
    (gone : Gone key before)
    (keeps : Cluster.KeepsSpec key before after) :
    Gone key after := by
  intro patched found
  obtain ⟨cur, stored, spec⟩ := keeps patched found
  rw [isDeleting, spec.deletionTimestamp]
  exact gone cur stored

theorem Gone.whole (gone : Gone key cluster) : Whole F key cluster :=
  fun cur stored => Or.inl (gone cur stored)

/-- The teardown leaves the claim being deleted. -/
theorem GuardsCalls.allowsTeardown
    (calls : GuardsCalls C)
    (reports : GuardsReports C fsc.key reportsTeardown) :
    AllowsTeardown C (Gone fsc.key) fsc where
  reads := readsSafely_of_admits calls.admitsReads
  reports := allowsReports_of_patch calls.admitsReads
    fun state cur modified gone stored touches =>
      ⟨reports state cur modified stored touches,
        gone.of_keepsSpec (Cluster.keepsSpec_patchClaimStatus _ _ _ _)⟩
  deletesStorageClass := (safe_request (fun state _ => calls state _ rfl)
    fun _ gone => gone.of_keepsSpec
      (Cluster.keepsSpec_afterCall (by simp [Call.part?]) _)).safe
  deletes := fun kind target => (safe_request (fun state _ => calls state _ rfl)
    fun _ gone => gone.of_keepsSpec
      (Cluster.keepsSpec_afterCall (by simp [Call.part?]) _)).safe
  dropsFinalizer := safe_patchFSCSpec calls.admitsReads fun state cur gone _ =>
    ⟨calls state _ rfl,
      gone.of_keepsSpec (Cluster.keepsSpec_patchClaimFinalizers _ _ _ _)⟩

/-- A pass that keeps the finalizer during the deletion preserves what holds of
claims that are being deleted, and what it preserves on all others. -/
theorem GuardsCalls.ensures_reconcile
    {invariant : Cluster → Prop}
    (calls : GuardsCalls C)
    (teardown : GuardsReports C key reportsTeardown)
    (retains : ∀ fsc, cluster.claim? key = some fsc → isDeleting fsc = true →
      hasFinalizer fsc = true)
    (gone : ∀ state, Gone key state → invariant state)
    (live : ∀ fsc, cluster.claim? key = some fsc → isDeleting fsc = false →
      Ensures C (reconcileClaim r fsc) (fun _ final => invariant final) cluster)
    (holds : invariant cluster) :
    Ensures C (reconcile r key) (fun _ final => invariant final) cluster := by
  refine FusionAccess.ensures_reconcile calls.admitsReads (fun _ => holds)
    (fun fsc stored => ?_) fun _ _ _ _ => holds
  by_cases deleting : isDeleting fsc = true
  · have named : fsc.key = key := (Registry.find?_eq_some stored).2
    subst named
    have isGone : Gone fsc.key cluster := by
      intro cur found
      rw [stored] at found
      cases found
      exact deleting
    refine Ensures.mono (safe_reconcileClaim_of_teardown deleting
      (safe_handleDeletion deleting (retains fsc stored deleting)
        (calls.allowsTeardown teardown)) cluster isGone) ?_
    exact fun _ final ensured => gone final ensured.2
  · exact live fsc stored (by simpa using deleting)

/-- A status report that the claim has all its LocalDisks is guarded where the
claim is complete and has some. -/
def GuardsConfirmation
    (C : Contract apiServer) (F : Fitting) (key : NamespacedName) : Prop :=
  ∀ state cur modified, Complete F key state → ownedBy state cur .localDisk ≠ [] →
    state.claim? key = some cur →
      Touches (fun conditionType _ _ => conditionType = .localDiskCreated)
        cur.conditions modified →
        C.guard state (.patchClaimStatus key cur.conditions modified)

/-- The steps after the creation keep the claim complete. -/
theorem FailsWhole.allowsProvisioning
    (terms : FailsWhole C F fsc.key)
    (progress : GuardsReports C fsc.key reportsProgress)
    (confirms : GuardsConfirmation C F fsc.key) :
    AllowsProvisioning C (Complete F fsc.key) fsc where
  reads := terms.calls.admitsReads
  reports := terms.allowsReports progress
  confirms := by
    refine allowsReports_owning terms.calls.admitsReads
      fun state cur modified owning stored touches => ?_
    have same : cur.key = fsc.key := (Registry.find?_eq_some stored).2
    refine ⟨confirms state cur modified owning.1 ?_ stored touches,
      owning.1.patchClaimStatus _ _ _⟩
    rw [ownedBy_of_key_eq same]
    exact owning.2
  createsFilesystem := fun spec => (safe_request (fun state _ => terms.calls state _ rfl)
    fun _ complete => complete.afterCall (by simp [Call.part?]) (by simp [Call.part?])).safe
  patchesFilesystem := fun _ spec =>
    (safe_request (fun state _ => terms.calls state _ rfl)
      fun _ complete => complete.afterCall (by simp [Call.part?]) (by simp [Call.part?])).safe
  createsStorageClass := (safe_request (fun state _ => terms.calls state _ rfl)
    fun _ complete => complete.afterCall (by simp [Call.part?]) (by simp [Call.part?])).safe
  patchesStorageClass := fun current _ =>
    (safe_request (fun state _ => terms.calls state _ rfl)
      fun _ complete => complete.afterCall (by simp [Call.part?]) (by simp [Call.part?])).safe

/-- A pass on a whole claim leaves it whole. -/
theorem ensures_reconcile_whole
    (terms : FailsWhole C F key)
    (progress : GuardsReports C key reportsProgress)
    (teardown : GuardsReports C key reportsTeardown)
    (confirms : GuardsConfirmation C F key)
    (checks : ∀ fsc, cluster.claim? key = some fsc → isDeleting fsc = false →
      isConditionTrue fsc .localDiskCreated = true →
        Ensures C (checkDevices fsc) (fun _ final => Complete F key final) cluster)
    (retains : ∀ fsc, cluster.claim? key = some fsc → isDeleting fsc = true →
      hasFinalizer fsc = true)
    (creation : ∀ fsc, cluster.claim? key = some fsc → CreatesAllOrNone F cluster fsc)
    (whole : Whole F key cluster) :
    Ensures C (reconcile r key) (fun _ final => Whole F key final) cluster := by
  refine terms.calls.ensures_reconcile teardown retains (fun _ gone => gone.whole)
    (fun fsc stored live => ?_) whole
  have named : fsc.key = key := (Registry.find?_eq_some stored).2
  subst named
  have allowed := terms.allowsProvisioning progress confirms
  have guards : ∀ {reports}, (∀ conditionType status reason,
      reports conditionType status reason →
        reportsProgress conditionType status reason) →
      GuardsReports C fsc.key reports :=
    fun fewer state cur modified found touches =>
      progress state cur modified found (touches.mono fewer)
  have complete := whole.complete stored live
  refine Ensures.mono (ensures_reconcileClaim_of_provision
    (fun deleting => by simp [live] at deleting) (fun _ => ?_) (fun passes => ?_)
    (safe_syncFSCReady allowed.reportsReady) complete) fun _ _ holds => holds.whole
  · exact safe_patchFSCSpec terms.calls.admitsReads fun state cur complete _ =>
      ⟨terms.calls state _ rfl, complete.patchClaimFinalizers _ _ _⟩
  · refine ensures_provision (ensures_ensureLocalDisks terms stored live
      (passes.resolve_left (by simp [live])) (complete fsc stored)
      (creation fsc stored) (checks fsc stored live) (guards ?_) (guards ?_)) allowed
    · exact fun _ _ _ => reportsProgress_of_failure
    · exact fun _ _ _ => reportsProgress_of_validation

end Pass

/-- The pass works on the claim with the given key, which keeps the finalizer
during its deletion; it creates LocalDisks for all devices or for none, and no
call fails while there are only some of them. -/
structure CreatesWhole
    (F : Fitting) (r : FileSystemClaimReconciler) (key : NamespacedName)
    (pass : Pass apiServer NamespacedName) : Prop where
  index : pass.index = key
  retains : RetainsFinalizer pass
  creation : ∀ fsc ∈ pass.start.claim? key, CreatesAllOrNone F pass.start fsc
  failures : ∀ event ∈ passLog r pass, event.request.remote = true →
    event.choice.fault ≠ .none → Whole F key event.after

end FusionAccess
