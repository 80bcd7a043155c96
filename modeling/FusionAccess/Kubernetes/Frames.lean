import FusionAccess.Kubernetes.Client

/-!
# What a call leaves alone

Each call writes at most one part of the cluster. All other parts are the same
after it, and nothing that the operator only observes is ever written.
-/

namespace Kubernetes

/-- The parts of the cluster that calls write. -/
inductive Part
  | claims
  | objects (kind : Kind)
  | storageClasses
  deriving DecidableEq

/-- The part that a call writes, if it writes at all. -/
def Call.part? : Call → Option Part
  | .createClaim _ | .patchClaimFinalizers _ _ _ | .patchClaimStatus _ _ _
  | .updateClaimStatus _ => some .claims
  | .create kind _ | .update kind _ | .patchSpec kind _ _ | .delete kind _ =>
      some (.objects kind)
  | .createStorageClass _ | .patchStorageClass _ | .updateStorageClass _
  | .deleteStorageClass _ => some .storageClasses
  | _ => none

namespace Cluster

variable (cluster : Cluster)

@[simp] theorem claims_written : cluster.written.claims = cluster.claims := rfl

@[simp] theorem objects_written (kind : Kind) :
    cluster.written.objects kind = cluster.objects kind := by
  cases kind <;> rfl

@[simp] theorem storageClasses_written :
    cluster.written.storageClasses = cluster.storageClasses := rfl

@[simp] theorem claims_withObjects (kind : Kind) (objects : List Unstructured) :
    (cluster.withObjects kind objects).claims = cluster.claims := by
  cases kind <;> rfl

@[simp] theorem storageClasses_withObjects
    (kind : Kind) (objects : List Unstructured) :
    (cluster.withObjects kind objects).storageClasses =
      cluster.storageClasses := by
  cases kind <;> rfl

@[simp] theorem objects_withObjects (kind : Kind) (objects : List Unstructured) :
    (cluster.withObjects kind objects).objects kind = objects := by
  cases kind <;> rfl

theorem objects_withObjects_of_ne
    {kind other : Kind}
    (different : kind ≠ other)
    (objects : List Unstructured) :
    (cluster.withObjects kind objects).objects other = cluster.objects other := by
  cases kind <;> cases other <;> first | rfl | exact absurd rfl different

/-- What the operator observes and never writes is the same. -/
structure SameSurroundings (before after : Cluster) : Prop where
  persistentVolumes : after.persistentVolumes = before.persistentVolumes
  nodes : after.nodes = before.nodes
  discoveryResults : after.discoveryResults = before.discoveryResults
  deploymentNamespace : after.deploymentNamespace = before.deploymentNamespace

theorem SameSurroundings.refl : SameSurroundings cluster cluster :=
  ⟨rfl, rfl, rfl, rfl⟩

theorem SameSurroundings.trans
    {first second third : Cluster}
    (earlier : SameSurroundings first second)
    (later : SameSurroundings second third) :
    SameSurroundings first third where
  persistentVolumes := later.persistentVolumes.trans earlier.persistentVolumes
  nodes := later.nodes.trans earlier.nodes
  discoveryResults := later.discoveryResults.trans earlier.discoveryResults
  deploymentNamespace := later.deploymentNamespace.trans earlier.deploymentNamespace

/-- A call that does not write claims leaves them alone. -/
theorem claims_afterCall
    {call : Call}
    (elsewhere : call.part? ≠ some .claims) :
    (cluster.afterCall call).claims = cluster.claims := by
  cases call <;> first | exact absurd rfl elsewhere | skip
  all_goals
    simp only [afterCall, answer, create, update, patchSpec, delete,
      createStorageClass, patchStorageClass, updateStorageClass, deleteStorageClass]
  all_goals repeat' split
  all_goals simp

theorem claim?_afterCall
    {call : Call}
    (elsewhere : call.part? ≠ some .claims)
    (key : NamespacedName) :
    (cluster.afterCall call).claim? key = cluster.claim? key := by
  rw [claim?, claims_afterCall cluster elsewhere, claim?]

/-- A call that does not write StorageClasses leaves them alone. -/
theorem storageClasses_afterCall
    {call : Call}
    (elsewhere : call.part? ≠ some .storageClasses) :
    (cluster.afterCall call).storageClasses = cluster.storageClasses := by
  cases call <;> first | exact absurd rfl elsewhere | skip
  all_goals
    simp only [afterCall, answer, createClaim, patchClaimFinalizers,
      patchClaimStatus, updateClaimStatus, setFinalizers, setConditions, create,
      update, patchSpec, delete]
  all_goals repeat' split
  all_goals simp

/-- A call that does not write objects of a kind leaves them alone. -/
theorem objects_afterCall
    {call : Call}
    {kind : Kind}
    (elsewhere : call.part? ≠ some (.objects kind)) :
    (cluster.afterCall call).objects kind = cluster.objects kind := by
  have different : ∀ other : Kind, call.part? = some (.objects other) →
      other ≠ kind := by
    rintro other writes rfl
    exact elsewhere writes
  cases call
  case create | update | patchSpec | delete =>
      have ne := different _ rfl
      simp only [afterCall, answer, create, update, patchSpec, delete]
      repeat' split
      all_goals simp [objects_withObjects_of_ne _ ne]
  all_goals
    simp only [afterCall, answer, createClaim, patchClaimFinalizers,
      patchClaimStatus, updateClaimStatus, setFinalizers, setConditions,
      createStorageClass, patchStorageClass, updateStorageClass, deleteStorageClass]
  all_goals repeat' split
  all_goals cases kind <;> rfl

theorem sameSurroundings_withObjects (kind : Kind) (objects : List Unstructured) :
    SameSurroundings cluster (cluster.written.withObjects kind objects) := by
  cases kind <;> exact ⟨rfl, rfl, rfl, rfl⟩

/-- No call changes what the operator observes. -/
theorem sameSurroundings_afterCall (call : Call) :
    SameSurroundings cluster (cluster.afterCall call) := by
  cases call
  all_goals
    simp only [afterCall, answer, createClaim, patchClaimFinalizers,
      patchClaimStatus, updateClaimStatus, setFinalizers, setConditions, create,
      update, patchSpec, delete, createStorageClass, patchStorageClass,
      updateStorageClass, deleteStorageClass]
  all_goals repeat' split
  all_goals
    first
    | exact sameSurroundings_withObjects cluster _ _
    | exact ⟨rfl, rfl, rfl, rfl⟩

/-- An object as it is stored by its creation. -/
def newObject (object : Unstructured) : Unstructured where
  metadata := cluster.identify object.metadata
  spec := object.spec

/-- A creation under a free name adds the object. -/
theorem objects_create
    {kind : Kind} {object : Unstructured}
    (free : cluster.object? kind object.key = none) :
    (cluster.afterCall (.create kind object)).objects kind =
      cluster.objects kind ++ [cluster.newObject object] := by
  simp only [afterCall, answer, create, free, objects_withObjects]
  rfl

/-- An update of an object as it is stored replaces its metadata. -/
theorem answer_update
    {kind : Kind} {object : Unstructured}
    (stored : cluster.object? kind object.key = some object)
    (metadata : ObjectMeta)
    (key : metadata.key = object.key)
    (version : metadata.resourceVersion = object.metadata.resourceVersion)
    (pick : Nat) :
    cluster.answer pick (.update kind { object with metadata := metadata }) =
      (cluster.written.withObjects kind
        (Registry.amend Unstructured.key object.key
          (fun stored => { stored with
            metadata := cluster.stamp metadata, spec := object.spec })
          (cluster.objects kind)), .ok ()) := by
  have sameKey : ({ object with metadata := metadata } : Unstructured).key =
      object.key := key
  simp only [answer, update, sameKey, stored, version, ne_eq, not_true_eq_false,
    if_false]

/-- The same for a StorageClass. -/
theorem answer_updateStorageClass
    {storageClass : StorageClass}
    (stored : cluster.storageClass? storageClass.name = some storageClass)
    (metadata : ObjectMeta)
    (name : metadata.name = storageClass.name)
    (version : metadata.resourceVersion = storageClass.metadata.resourceVersion)
    (pick : Nat) :
    cluster.answer pick
        (.updateStorageClass { storageClass with metadata := metadata }) =
      ({ cluster.written with
        storageClasses := Registry.amend StorageClass.name storageClass.name
          (fun _ => { storageClass with metadata := cluster.stamp metadata })
          cluster.storageClasses }, .ok ()) := by
  have sameName : ({ storageClass with metadata := metadata } : StorageClass).name =
      storageClass.name := name
  simp only [answer, updateStorageClass, patchStorageClass, sameName, stored, version,
    ne_eq, not_true_eq_false, if_false]

/-- A StorageClass that is created under a free name is found. -/
theorem storageClass?_createStorageClass
    {storageClass : StorageClass}
    (free : cluster.storageClass? storageClass.name = none) :
    (cluster.afterCall (.createStorageClass storageClass)).storageClass?
        storageClass.name =
      some { storageClass with metadata := cluster.identify storageClass.metadata } := by
  simp only [afterCall, answer, createStorageClass, free]
  unfold storageClass? at free ⊢
  rw [Registry.find?_append, free, Option.none_or, Registry.find?_cons]
  exact if_pos rfl

/-- So is one that is patched. -/
theorem storageClass?_patchStorageClass
    {storageClass current : StorageClass}
    (stored : cluster.storageClass? storageClass.name = some current) :
    (cluster.afterCall (.patchStorageClass storageClass)).storageClass?
        storageClass.name =
      some { storageClass with metadata := cluster.stamp storageClass.metadata } := by
  simp only [afterCall, answer, patchStorageClass, stored]
  unfold storageClass? at stored ⊢
  refine (Registry.find?_amend_self fun _ _ => ?_).trans ?_
  · rfl
  · rw [stored]
    rfl

/-- What a deletion leaves of a StorageClass. -/
theorem storageClass?_deleteStorageClass
    {name : String} {storageClass : StorageClass}
    (stored : cluster.storageClass? name = some storageClass) :
    (cluster.afterCall (.deleteStorageClass name)).storageClass? name =
      if storageClass.metadata.finalizers = [] then none
      else some { storageClass with metadata := cluster.terminate storageClass.metadata } := by
  simp only [afterCall, answer, deleteStorageClass, stored]
  unfold storageClass? at stored ⊢
  split
  · exact Registry.find?_remove_self
  · dsimp only
    rw [Registry.find?_amend_self, stored]
    · rfl
    · exact fun _ same => same

/-! ## What happens to a claim -/

/-- A claim as it is stored by its creation. -/
def newClaim (claim : FileSystemClaim) : FileSystemClaim :=
  { claim with metadata := cluster.identify claim.metadata, conditions := [] }

/-- The creation of a claim under a free name succeeds. -/
theorem answer_createClaim
    (claim : FileSystemClaim)
    (free : cluster.claim? claim.key = none)
    (pick : Nat) :
    cluster.answer pick (.createClaim claim) =
      ({ cluster.written with
        claims := cluster.claims ++ [cluster.newClaim claim] },
        .ok (cluster.newClaim claim)) := by
  simp only [answer, createClaim, free, newClaim]

/-- It adds the claim and leaves all others alone. -/
theorem claim?_createClaim
    (claim : FileSystemClaim)
    (free : cluster.claim? claim.key = none)
    (other : NamespacedName) :
    (cluster.afterCall (.createClaim claim)).claim? other =
      if claim.key = other then some (cluster.newClaim claim)
      else cluster.claim? other := by
  have sameKey : (cluster.newClaim claim).key = claim.key := rfl
  rw [afterCall, cluster.answer_createClaim claim free]
  change Registry.find? FileSystemClaim.key other
    (cluster.claims ++ [cluster.newClaim claim]) = _
  rw [Registry.find?_append, Registry.find?_cons, sameKey, Registry.find?_nil]
  by_cases same : claim.key = other
  · rw [if_pos same, if_pos same, ← same]
    change (cluster.claim? claim.key).or _ = _
    rw [free, Option.none_or]
  · rw [if_neg same, if_neg same, Option.or_none]
    rfl

/-- Two versions of a claim with the same spec: no patch of the operator
changes it. -/
structure SameSpec (before after : FileSystemClaim) : Prop where
  key : after.key = before.key
  devices : after.devices = before.devices
  deletionTimestamp :
    after.metadata.deletionTimestamp = before.metadata.deletionTimestamp

theorem SameSpec.refl (claim : FileSystemClaim) : SameSpec claim claim :=
  ⟨rfl, rfl, rfl⟩

theorem SameSpec.trans
    {first second third : FileSystemClaim}
    (earlier : SameSpec first second)
    (later : SameSpec second third) :
    SameSpec first third where
  key := later.key.trans earlier.key
  devices := later.devices.trans earlier.devices
  deletionTimestamp := later.deletionTimestamp.trans earlier.deletionTimestamp

variable {cluster}

/-- A patch of the status that is not empty stamps the claim and puts the new
conditions in the place of whatever conditions are stored. -/
theorem claim?_patchClaimStatus_of_different
    {key : NamespacedName} {cur : FileSystemClaim}
    {original modified : List Condition}
    (stored : cluster.claim? key = some cur)
    (different : original ≠ modified) :
    (cluster.afterCall (.patchClaimStatus key original modified)).claim? key =
      some { cur with
        metadata := cluster.stamp cur.metadata, conditions := modified } := by
  simp only [afterCall, answer, Cluster.patchClaimStatus, stored, if_neg different]
  unfold claim? at stored ⊢
  refine (Registry.find?_amend_self fun claim named => ?_).trans ?_
  · exact named
  · rw [stored]
    rfl

/-- A patch of the status puts the new conditions in the place of whatever
conditions are stored, unless it is empty. -/
theorem claim?_patchClaimStatus
    {key : NamespacedName} {cur : FileSystemClaim}
    (stored : cluster.claim? key = some cur)
    (original modified : List Condition) :
    ∃ patched, (cluster.afterCall
        (.patchClaimStatus key original modified)).claim? key = some patched ∧
      SameSpec cur patched ∧
        patched.conditions =
          if original = modified then cur.conditions else modified := by
  by_cases same : original = modified
  · refine ⟨cur, ?_, SameSpec.refl cur, by rw [if_pos same]⟩
    simp only [afterCall, answer, Cluster.patchClaimStatus, stored, if_pos same]
  · exact ⟨_, claim?_patchClaimStatus_of_different stored same, ⟨rfl, rfl, rfl⟩,
      by rw [if_neg same]⟩

/-- A patch that starts from the stored conditions leaves the new ones. -/
theorem claim?_patchClaimStatus_stored
    {key : NamespacedName} {cur : FileSystemClaim}
    (stored : cluster.claim? key = some cur)
    (modified : List Condition) :
    ∃ patched, (cluster.afterCall
        (.patchClaimStatus key cur.conditions modified)).claim? key = some patched ∧
      SameSpec cur patched ∧ patched.conditions = modified := by
  obtain ⟨patched, found, sameSpec, conditions⟩ :=
    claim?_patchClaimStatus stored cur.conditions modified
  refine ⟨patched, found, sameSpec, ?_⟩
  rw [conditions]
  split
  next same => exact same
  next => rfl

/-- A patch of the status takes no time. -/
theorem clock_patchClaimStatus
    (key : NamespacedName) (original modified : List Condition) :
    (cluster.afterCall (.patchClaimStatus key original modified)).clock =
      cluster.clock := by
  simp only [afterCall, answer, Cluster.patchClaimStatus]
  split
  · rfl
  · split <;> rfl

/-- A patch of the status leaves other claims alone. -/
theorem claim?_patchClaimStatus_of_ne
    {key other : NamespacedName}
    (different : other ≠ key)
    (original modified : List Condition) :
    (cluster.afterCall (.patchClaimStatus key original modified)).claim? other =
      cluster.claim? other := by
  simp only [afterCall, answer, Cluster.patchClaimStatus]
  split
  · rfl
  · split
    · rfl
    · unfold claim?
      refine Registry.find?_amend_of_ne (fun claim named => ?_) different
      exact named

/-- A patch of the finalizers that is not empty stores them; without finalizers a
claim that is being deleted disappears. -/
theorem claim?_patchClaimFinalizers_of_different
    {key : NamespacedName} {cur : FileSystemClaim}
    {original modified : List String}
    (stored : cluster.claim? key = some cur)
    (different : original ≠ modified) :
    (cluster.afterCall (.patchClaimFinalizers key original modified)).claim? key =
      if cur.metadata.deletionTimestamp.isSome && modified.isEmpty then none
      else some { cur with
        metadata := { cluster.stamp cur.metadata with finalizers := modified } } := by
  simp only [afterCall, answer, Cluster.patchClaimFinalizers, stored, if_neg different,
    setFinalizers]
  unfold claim? at stored ⊢
  split
  · exact Registry.find?_remove_self
  · refine (Registry.find?_amend_self fun claim named => ?_).trans ?_
    · exact named
    · rw [stored]
      rfl

/-- After a patch of the finalizers a claim that is still there has the same
spec and the same conditions. -/
theorem claim?_patchClaimFinalizers
    {key other : NamespacedName} {original modified : List String}
    {patched : FileSystemClaim}
    (found : (cluster.afterCall
      (.patchClaimFinalizers key original modified)).claim? other = some patched) :
    ∃ cur, cluster.claim? other = some cur ∧ SameSpec cur patched ∧
      patched.conditions = cur.conditions := by
  have unchanged : cluster.claim? other = some patched →
      ∃ cur, cluster.claim? other = some cur ∧ SameSpec cur patched ∧
        patched.conditions = cur.conditions :=
    fun stored => ⟨patched, stored, SameSpec.refl patched, rfl⟩
  simp only [afterCall, answer, Cluster.patchClaimFinalizers] at found
  split at found
  · exact unchanged found
  next claim stored =>
    split at found
    · exact unchanged found
    simp only [setFinalizers, stored] at found
    by_cases same : other = key
    · subst same
      refine ⟨claim, stored, ?_⟩
      unfold claim? at found stored
      split at found
      · rw [Registry.find?_remove_self] at found
        cases found
      · change Registry.find? FileSystemClaim.key other
          (Registry.amend FileSystemClaim.key other _ cluster.claims) = _ at found
        rw [Registry.find?_amend_self, stored] at found
        · cases found
          exact ⟨⟨rfl, rfl, rfl⟩, rfl⟩
        · exact fun claim named => named
    · apply unchanged
      unfold claim? at found ⊢
      split at found
      · rwa [Registry.find?_remove_of_ne same] at found
      · rwa [Registry.find?_amend_of_ne _ same] at found
        exact fun claim named => named

/-- An update of the status of the stored version of a claim. -/
theorem claim?_updateClaimStatus
    (claim : FileSystemClaim)
    {cur : FileSystemClaim}
    (stored : cluster.claim? claim.key = some cur)
    (version : cur.metadata.resourceVersion = claim.metadata.resourceVersion)
    (changes : cur.conditions ≠ claim.conditions)
    (other : NamespacedName) :
    (cluster.afterCall (.updateClaimStatus claim)).claim? other =
      if claim.key = other then
        some { cur with
          metadata := cluster.stamp cur.metadata, conditions := claim.conditions }
      else cluster.claim? other := by
  simp only [afterCall, answer, updateClaimStatus, stored, version, ne_eq,
    not_true_eq_false, if_false, if_neg changes]
  unfold claim? at stored ⊢
  by_cases same : claim.key = other
  · subst same
    rw [if_pos rfl]
    refine (Registry.find?_amend_self fun claim named => ?_).trans ?_
    · exact named
    · rw [stored]
      rfl
  · rw [if_neg same]
    refine Registry.find?_amend_of_ne (fun claim named => ?_) (Ne.symm same)
    exact named

/-- After an update of the devices the claim has these and is otherwise the
same. -/
theorem claim?_updateDevices
    {key : NamespacedName} {cur : FileSystemClaim}
    (stored : cluster.claim? key = some cur)
    (devices : List String) :
    ∃ updated, (cluster.updateDevices key devices).claim? key = some updated ∧
      updated.key = cur.key ∧ updated.devices = devices ∧
        updated.conditions = cur.conditions ∧
          updated.metadata.deletionTimestamp = cur.metadata.deletionTimestamp := by
  refine ⟨{ cur with
    metadata := { cluster.stamp cur.metadata with
      generation :=
        if cur.devices = devices then cur.metadata.generation
        else cur.metadata.generation + 1 }
    devices := devices }, ?_, rfl, rfl, rfl, rfl⟩
  unfold claim? at stored ⊢
  refine (Registry.find?_amend_self fun claim named => ?_).trans ?_
  · exact named
  · rw [stored]
    rfl

theorem claim?_updateDevices_of_ne
    {key other : NamespacedName}
    (different : other ≠ key)
    (devices : List String) :
    (cluster.updateDevices key devices).claim? other = cluster.claim? other := by
  unfold claim?
  refine Registry.find?_amend_of_ne (fun claim named => ?_) different
  exact named

/-- A claim that is still there has the spec that it had before. -/
def KeepsSpec (key : NamespacedName) (before after : Cluster) : Prop :=
  ∀ patched, after.claim? key = some patched →
    ∃ cur, before.claim? key = some cur ∧ SameSpec cur patched

theorem keepsSpec_afterCall
    {call : Call}
    (elsewhere : call.part? ≠ some .claims)
    (key : NamespacedName) :
    KeepsSpec key cluster (cluster.afterCall call) := by
  intro patched found
  rw [claim?_afterCall cluster elsewhere] at found
  exact ⟨patched, found, SameSpec.refl patched⟩

theorem keepsSpec_patchClaimStatus
    (key patchedKey : NamespacedName) (original modified : List Condition) :
    KeepsSpec key cluster
      (cluster.afterCall (.patchClaimStatus patchedKey original modified)) := by
  intro patched found
  by_cases same : key = patchedKey
  · subst same
    cases stored : cluster.claim? key with
    | none =>
        simp only [afterCall, answer, Cluster.patchClaimStatus, stored] at found
        cases found
    | some cur =>
        obtain ⟨other, foundOther, sameSpec, _⟩ :=
          claim?_patchClaimStatus stored original modified
        rw [found] at foundOther
        cases foundOther
        exact ⟨cur, rfl, sameSpec⟩
  · rw [claim?_patchClaimStatus_of_ne same] at found
    exact ⟨patched, found, SameSpec.refl patched⟩

theorem keepsSpec_patchClaimFinalizers
    (key patchedKey : NamespacedName) (original modified : List String) :
    KeepsSpec key cluster
      (cluster.afterCall (.patchClaimFinalizers patchedKey original modified)) := by
  intro patched found
  obtain ⟨cur, stored, sameSpec, _⟩ := claim?_patchClaimFinalizers found
  exact ⟨cur, stored, sameSpec⟩

end Cluster
end Kubernetes
