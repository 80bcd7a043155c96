import FusionAccess.Controller.Completion

/-!
# A claim is ready after ten passes

Between two passes on a claim the storage product reports on the children of the
claim, and others work on whatever does not concern it. Once the passes have found
the children healthy ten times, the claim is ready and stays so.
-/

namespace FusionAccess

open Kubernetes Interaction Fallible

/-! ## Between two passes -/

/-- What the controller has asked for in an object. -/
def asksFor (object : Unstructured) : String × Option Value :=
  (object.metadata.name, object.spec)

/-- The claim and what it is made of stay as they are; its children have other
statuses at most, and healthy ones stay healthy. -/
structure Supports
    (names : List String) (before after : Cluster) (fsc cur : FileSystemClaim) : Prop where
  stored : after.claim? fsc.key = some cur
  spec : Cluster.SameSpec fsc cur
  finalizers : cur.metadata.finalizers = fsc.metadata.finalizers
  conditions : cur.conditions = fsc.conditions
  named : LocalDisksNamed before fsc names → LocalDisksNamed after fsc names
  there : ∀ name ∈ names, isThere after fsc name = isThere before fsc name
  children : ∀ kind,
    (ownedBy after fsc kind).map asksFor = (ownedBy before fsc kind).map asksFor
  free : before.object? .filesystem fsc.key = none → after.object? .filesystem fsc.key = none
  storageClass : after.storageClass? fsc.metadata.name = before.storageClass? fsc.metadata.name
  localDisks : unhealthyLocalDisk before fsc = false → unhealthyLocalDisk after fsc = false
  filesystems : unhealthyFilesystem before fsc = false → unhealthyFilesystem after fsc = false

/-- The claim of the given key is supported, and conditions of claims are left to the
controller. -/
structure Supporting
    (names : List String) (key : NamespacedName) (before after : Cluster) : Prop where
  leaves : LeavesConditions before after
  supports : ∀ fsc, before.claim? key = some fsc → ∃ cur, Supports names before after fsc cur

section Supports

variable {names : List String} {before after : Cluster} {fsc cur : FileSystemClaim}

/-- Children for which the same is asked agree in whatever depends on that only. -/
theorem map_eq_of_asksFor
    {α : Type} {now earlier : List Unstructured}
    (same : now.map asksFor = earlier.map asksFor) (read : String × Option Value → α) :
    now.map (fun object => read (asksFor object)) =
      earlier.map fun object => read (asksFor object) := by
  have mapped := congrArg (List.map read) same
  rwa [List.map_map, List.map_map] at mapped

variable (supports : Supports names before after fsc cur)

include supports

theorem Supports.key : cur.key = fsc.key :=
  supports.spec.key

theorem Supports.name : cur.metadata.name = fsc.metadata.name :=
  congrArg NamespacedName.name supports.key

theorem Supports.ownedBy (kind : Kind) : ownedBy after cur kind = ownedBy after fsc kind :=
  ownedBy_of_key_eq supports.key after kind

theorem Supports.childNames (kind : Kind) :
    (FusionAccess.ownedBy after cur kind).map (·.metadata.name) =
      (FusionAccess.ownedBy before fsc kind).map (·.metadata.name) := by
  rw [supports.ownedBy]
  exact map_eq_of_asksFor (supports.children kind) Prod.fst

theorem Supports.length (kind : Kind) :
    (FusionAccess.ownedBy after cur kind).length =
      (FusionAccess.ownedBy before fsc kind).length := by
  have same := congrArg List.length (supports.childNames kind)
  rwa [List.length_map, List.length_map] at same

theorem Supports.eq_nil_iff (kind : Kind) :
    FusionAccess.ownedBy after cur kind = [] ↔ FusionAccess.ownedBy before fsc kind = [] := by
  rw [← List.length_eq_zero_iff, supports.length, List.length_eq_zero_iff]

theorem Supports.isEmpty (kind : Kind) :
    (FusionAccess.ownedBy after cur kind).isEmpty =
      (FusionAccess.ownedBy before fsc kind).isEmpty := by
  rw [Bool.eq_iff_iff, List.isEmpty_iff, List.isEmpty_iff, supports.eq_nil_iff]

theorem Supports.isConditionTrue (conditionType : ConditionType) :
    isConditionTrue cur conditionType = isConditionTrue fsc conditionType := by
  rw [FusionAccess.isConditionTrue, supports.conditions, FusionAccess.isConditionTrue]

theorem Supports.keepsCondition
    (conditionType : ConditionType) (status : ConditionStatus) (reason : Reason)
    (message : String) :
    keepsCondition cur conditionType status reason message =
      keepsCondition fsc conditionType status reason message := by
  rw [FusionAccess.keepsCondition, supports.conditions, FusionAccess.keepsCondition]

theorem Supports.devicesMatch : devicesMatch after cur = devicesMatch before fsc := by
  have devices := map_eq_of_asksFor (supports.children .localDisk)
    fun asked => Unstructured.specString ⟨{ name := "" }, asked.2, none, ""⟩ "device"
  rw [FusionAccess.devicesMatch, ownedDevices, supports.ownedBy, supports.spec.devices,
    FusionAccess.devicesMatch, ownedDevices]
  exact congrArg (fun list => decide ((list.filter (· ≠ "")).toFinset = _)) devices

/-- The claim can be provisioned as before. -/
theorem Supports.provisionable (able : Provisionable names before fsc) :
    Provisionable names after cur where
  stored := by rw [supports.key, supports.stored]
  live := by
    rw [isDeleting, supports.spec.deletionTimestamp]
    exact able.live
  named := (supports.named able.named).of_same supports.spec.devices
    (Cluster.SameSurroundings.refl after)
  localDisks := by
    have there : ∀ name ∈ names, isThere after cur name = isThere before fsc name := by
      intro name member
      rw [isThere, show cur.metadata.ns = fsc.metadata.ns from
        congrArg NamespacedName.ns supports.key, ← isThere, supports.there name member]
    refine able.localDisks.imp (fun lacks => ⟨?_, fun name member => ?_, ?_, ?_⟩)
      fun owns => ⟨?_, ?_, fun name first => ?_⟩
    · exact (supports.eq_nil_iff .localDisk).mpr lacks.none
    · rw [there name member, lacks.free name member]
    · rw [supports.isConditionTrue, lacks.notCreated]
    · rw [awaitsLocalDisks, supports.conditions]
      exact lacks.notAwaiting
    · exact fun none => owns.some ((supports.eq_nil_iff .localDisk).mp none)
    · rw [supports.devicesMatch, owns.devices]
    · rw [there name (List.mem_of_mem_head? first), owns.first name first]
  one := by
    rw [supports.length]
    exact able.one
  free := by
    intro none
    rw [supports.key]
    exact supports.free (able.free ((supports.eq_nil_iff .filesystem).mp none))

/-- LocalDisks that are done stay so. -/
theorem Supports.localDisksDone (done : localDisksDone before fsc = true) :
    localDisksDone after cur = true := by
  rw [FusionAccess.localDisksDone, Bool.and_eq_true, Bool.not_eq_true'] at done ⊢
  obtain ⟨healthy, kept⟩ := done
  have users : ownFilesystems after cur = ownFilesystems before fsc := supports.childNames _
  have healthyNow : unhealthyLocalDisk after cur = false := by
    rw [unhealthyLocalDisk, ownFilesystems, supports.ownedBy, supports.ownedBy,
      supports.name]
    exact supports.localDisks healthy
  have wanted : wantedLocalDiskCondition after cur (ownFilesystems after cur) =
      wantedLocalDiskCondition before fsc (ownFilesystems before fsc) := by
    have sound := List.any_eq_false.mp healthy
    have soundNow := List.any_eq_false.mp healthyNow
    simp only [Bool.not_eq_true, Option.isSome_eq_false_iff, Option.isNone_iff_eq_none]
      at sound soundNow
    simp only [wantedLocalDiskCondition, supports.eq_nil_iff, localDiskCondition,
      checkAllResourcesHealthy_iff.mpr sound, checkAllResourcesHealthy_iff.mpr soundNow,
      supports.length]
  refine ⟨healthyNow, ?_⟩
  rw [keepsLocalDiskCondition, wanted, supports.isEmpty, supports.isConditionTrue,
    supports.keepsCondition]
  exact kept

theorem Supports.filesystemsMatch : filesystemsMatch after cur = filesystemsMatch before fsc := by
  have wanted : wantedFilesystemSpec after cur = wantedFilesystemSpec before fsc :=
    congrArg buildFilesystemSpec (supports.childNames .localDisk)
  have same := map_eq_of_asksFor (supports.children .filesystem)
    fun asked => decide (asked.2 = some (wantedFilesystemSpec before fsc))
  have all := congrArg (fun list => list.all id) same
  simp only [List.all_map] at all
  rw [FusionAccess.filesystemsMatch, wanted, supports.ownedBy]
  exact all

/-- So does a Filesystem. -/
theorem Supports.filesystemDone (done : filesystemDone before fsc = true) :
    filesystemDone after cur = true := by
  rw [FusionAccess.filesystemDone, Bool.and_eq_true, Bool.not_eq_true', Bool.not_eq_true']
    at done ⊢
  obtain ⟨healthy, kept⟩ := done
  have healthyNow : unhealthyFilesystem after cur = false := by
    rw [unhealthyFilesystem, supports.ownedBy]
    exact supports.filesystems healthy
  have wanted : filesystemCondition (FusionAccess.ownedBy after cur .filesystem) =
      filesystemCondition (FusionAccess.ownedBy before fsc .filesystem) := by
    have sound := List.any_eq_false.mp healthy
    have soundNow := List.any_eq_false.mp healthyNow
    simp only [Bool.not_eq_true, Option.isSome_eq_false_iff, Option.isNone_iff_eq_none]
      at sound soundNow
    simp only [filesystemCondition, supports.length,
      checkAllResourcesHealthy_iff.mpr sound, checkAllResourcesHealthy_iff.mpr soundNow]
  refine ⟨healthyNow, ?_⟩
  rw [pendingFilesystemCondition, wanted, supports.keepsCondition]
  exact kept

theorem Supports.storageClassMatches :
    storageClassMatches after cur = storageClassMatches before fsc := by
  have wanted : wantedStorageClass cur = wantedStorageClass fsc := by
    simp only [wantedStorageClass, buildStorageClass, supports.name,
      show cur.metadata.ns = fsc.metadata.ns from congrArg NamespacedName.ns supports.key]
  rw [FusionAccess.storageClassMatches, supports.name, supports.storageClass, wanted,
    FusionAccess.storageClassMatches]

/-- No milestone is lost between two passes. -/
theorem Supports.distance_le : distance after cur ≤ distance before fsc := by
  have finalized : hasFinalizer cur = hasFinalizer fsc := by
    rw [hasFinalizer, supports.finalizers, hasFinalizer]
  have ready : keepsReady cur = keepsReady fsc := by
    have now : readyNow cur = readyNow fsc := by
      simp only [readyNow, supports.isConditionTrue]
    rw [keepsReady, now, supports.keepsCondition, supports.keepsCondition, keepsReady]
  refine stepsLeft_mono ?_
  simp only [milestones, List.forall₂_cons, List.Forall₂.nil, and_true, finalized, ready,
    supports.isConditionTrue, supports.isEmpty, supports.filesystemsMatch,
    supports.storageClassMatches, keepsStorageClassCondition, supports.keepsCondition,
    imp_self, true_and]
  exact ⟨supports.localDisksDone, supports.filesystemDone⟩

end Supports

/-! ## The sequence of passes -/

/-- No child of the claim of the given key is unhealthy. -/
def healthyAt (key : NamespacedName) (cluster : Cluster) : Bool :=
  (cluster.claim? key).all (childrenHealthy cluster)

/-- How far the claim of the given key has to go. -/
def distanceAt (key : NamespacedName) (cluster : Cluster) : Nat :=
  ((cluster.claim? key).map (distance cluster)).getD 0

/-- The claim is ready, all of its children are as the controller wants them, and they
are healthy. -/
structure Provisioned (cluster : Cluster) (fsc : FileSystemClaim) : Prop where
  ready : isConditionTrue fsc .ready = true
  localDisks : ownedBy cluster fsc .localDisk ≠ []
  filesystem : ∃ fs, ownedBy cluster fsc .filesystem = [fs] ∧
    fs.spec = some (wantedFilesystemSpec cluster fsc)
  storageClass : storageClassMatches cluster fsc = true
  healthy : childrenHealthy cluster fsc = true

/-- A claim that has reached all milestones is provisioned. -/
theorem provisioned_of_distance
    {names : List String} {cluster : Cluster} {fsc : FileSystemClaim}
    (able : Provisionable names cluster fsc)
    (coherent : Coherent fsc.conditions)
    (reached : distance cluster fsc = 0) :
    Provisioned cluster fsc := by
  have done := stepsLeft_eq_zero.mp reached
  simp only [milestones, List.forall_mem_cons, Bool.not_eq_true', List.isEmpty_eq_false_iff]
    at done
  obtain ⟨finalized, validated, some, disked, filed, isMatch, recorded, classed, kept, ready,
    _⟩ := done
  rw [localDisksDone, Bool.and_eq_true, Bool.not_eq_true'] at disked
  rw [filesystemDone, Bool.and_eq_true, Bool.not_eq_true', Bool.not_eq_true'] at recorded
  have healthy : childrenHealthy cluster fsc = true := by
    rw [childrenHealthy, disked.1, recorded.1]
    rfl
  have found : KeepsLocalDisks cluster fsc := ⟨⟨coherent, finalized, validated, some⟩, disked.2⟩
  obtain ⟨fs, rest, owned⟩ := List.exists_cons_of_ne_nil filed
  obtain rfl : rest = [] := by
    have one := able.one
    rw [owned] at one
    simpa using one
  have spec : fs.spec = Option.some (wantedFilesystemSpec cluster fsc) := by
    simpa [filesystemsMatch, owned] using isMatch
  have goesOn : filesystemGoesOn cluster fsc = true := by
    simp [filesystemGoesOn, owned, spec]
  have keptFilesystem : keepsFilesystemCondition cluster fsc = true := by
    have changes := recorded.2
    rw [pendingFilesystemCondition, Bool.not_eq_false'] at changes
    rw [keepsFilesystemCondition, changes, Bool.or_true]
  have created : isConditionTrue fsc .storageClassCreated = true :=
    coherent.isConditionTrue_of_kept kept
  have wanted : wantedReady fsc = (.isTrue, .provisioningSucceeded,
      "All resources created and ready") := by
    rw [wantedReady, if_pos]
    simp [readyNow, validated, found.created healthy, created,
      KeepsFilesystem.createdFilesystem ⟨⟨found, goesOn⟩, keptFilesystem⟩ healthy]
  rw [keepsReady_eq, wanted] at ready
  exact ⟨coherent.isConditionTrue_of_kept ready, some, ⟨fs, owned, spec⟩, classed, healthy⟩

section Passes

variable {r : FileSystemClaimReconciler} {key : NamespacedName} {names : List String}
  {picks : Nat → Nat} {states : Nat → Cluster}

/-- The claim of the given key can be provisioned, and all conditions are coherent. -/
structure Underway (names : List String) (key : NamespacedName) (cluster : Cluster) : Prop where
  coherent : AllCoherent cluster
  able : ∃ fsc, fsc.key = key ∧ Provisionable names cluster fsc

/-- What a pass and what happens after it do to a claim that can be provisioned. -/
theorem Underway.next
    {pick : Nat} {before after : Cluster}
    (underway : Underway names key before)
    (supporting : Supporting names key
      ((calmPass key pick before).outcome (reconciler r)).state after) :
    Underway names key after ∧ distanceAt key after ≤ distanceAt key before ∧
      (healthyAt key before = true →
        distanceAt key before = 0 ∨ distanceAt key after < distanceAt key before) := by
  obtain ⟨coherent, fsc, rfl, able⟩ := underway
  have kept := (@passLog_of_ensures _ _ (calmPass fsc.key pick before) _
    (ensures_reconcile_coherent r fsc.key coherent) fun _ _ => trivial).2
  obtain ⟨patched, keyed, ableThen, nears⟩ := (@passLog_of_ensures _ _
    (calmPass fsc.key pick before) _
    (@proceeds_reconcile names before fsc (drawnNode before pick) r able
      (coherent _ fsc able.stored))
    fun event member => by
      have drawn : Draws before (drawnNode before pick) event.request event.choice := by
        rw [choice_of_calmPass member]
        exact ⟨rfl, fun _ _ => rfl⟩
      exact drawn).2
  have storedThen := ableThen.stored
  rw [keyed] at storedThen
  obtain ⟨cur, supports⟩ := supporting.supports patched storedThen
  have keyNow : cur.key = fsc.key := supports.key.trans keyed
  have stored := supports.stored
  rw [keyed] at stored
  have falls := supports.distance_le
  simp only [distanceAt, healthyAt, able.stored, stored, Option.map_some, Option.getD_some,
    Option.all_some]
  refine ⟨⟨kept.mono supporting.leaves, cur, keyNow, supports.provisionable ableThen⟩,
    falls.trans nears.stays, fun healthy => ?_⟩
  exact (nears.falls healthy).imp_right fun nearer => falls.trans_lt nearer

/-- Passes in which no call fails find the children of a claim healthy ten times. Then
the claim is provisioned, and it stays so. -/
theorem provisioned_after_ten_healthy_passes
    {fsc : FileSystemClaim} {count : Nat}
    (able : Provisionable names (states 0) fsc)
    (coherent : AllCoherent (states 0))
    (supporting : ∀ index, Supporting names fsc.key
      ((calmPass fsc.key (picks index) (states index)).outcome (reconciler r)).state
      (states (index + 1)))
    (enough : 10 ≤ Nat.count (fun index => healthyAt fsc.key (states index) = true) count) :
    ∀ later, count ≤ later → ∃ cur, (states later).claim? fsc.key = some cur ∧
      Provisioned (states later) cur := by
  have underway : ∀ index, Underway names fsc.key (states index) := by
    intro index
    induction index with
    | zero => exact ⟨coherent, fsc, rfl, able⟩
    | succ index inductionHypothesis => exact (inductionHypothesis.next (supporting index)).1
  intro later after
  have reached : distanceAt fsc.key (states later) = 0 := by
    refine @eq_zero_of_goodTurns (fun index => distanceAt fsc.key (states index)) _ _ later
      (fun index => ((underway index).next (supporting index)).2.1)
      (fun index => ((underway index).next (supporting index)).2.2) ?_
    refine Nat.le_trans ?_ (enough.trans (Nat.count_monotone _ after))
    rw [distanceAt, able.stored]
    exact distance_le _ _
  obtain ⟨cur, keyed, ableNow⟩ := (underway later).able
  have stored := ableNow.stored
  rw [keyed] at stored
  rw [distanceAt, stored, Option.map_some, Option.getD_some] at reached
  exact ⟨cur, stored, provisioned_of_distance ableNow
    ((underway later).coherent _ cur ableNow.stored) reached⟩

end Passes

/-! ### A storage product that serves every request -/

/-- The report of an object that is in order. -/
def withGoodReport (object : Unstructured) : Unstructured :=
  { object with conditions := some [metCondition .ready,
      { metCondition .used with status := .isFalse }, metCondition .success,
      metCondition .healthy] }

/-- The storage product reports that all children are in order. -/
def tend (cluster : Cluster) : Cluster :=
  { cluster with
    localDisks := cluster.localDisks.map withGoodReport
    filesystems := cluster.filesystems.map withGoodReport }

theorem objects_tend (cluster : Cluster) (kind : Kind) :
    (tend cluster).objects kind = (cluster.objects kind).map withGoodReport := by
  cases kind <;> rfl

theorem object?_tend (cluster : Cluster) (kind : Kind) (key : NamespacedName) :
    (tend cluster).object? kind key = (cluster.object? kind key).map withGoodReport := by
  rw [Cluster.object?, objects_tend]
  exact List.find?_map

theorem ownedBy_tend (cluster : Cluster) (fsc : FileSystemClaim) (kind : Kind) :
    ownedBy (tend cluster) fsc kind = (ownedBy cluster fsc kind).map withGoodReport := by
  rw [ownedBy, objects_tend, List.filter_map, List.filter_map]
  rfl

theorem unhealthyLocalDisk_tend (cluster : Cluster) (fsc : FileSystemClaim) :
    unhealthyLocalDisk (tend cluster) fsc = false := by
  have healthy : ∀ object users,
      checkResourceHealthy (withGoodReport object) localDiskRequirements users = none :=
    fun _ _ => rfl
  simp [unhealthyLocalDisk, ownedBy_tend, healthy]

theorem unhealthyFilesystem_tend (cluster : Cluster) (fsc : FileSystemClaim) :
    unhealthyFilesystem (tend cluster) fsc = false := by
  have healthy : ∀ object,
      checkResourceHealthy (withGoodReport object) filesystemRequirements [] = none :=
    fun _ => rfl
  simp [unhealthyFilesystem, ownedBy_tend, healthy]

theorem supporting_tend (names : List String) (key : NamespacedName) (cluster : Cluster) :
    Supporting names key cluster (tend cluster) where
  leaves := fun key fsc stored => Or.inr ⟨fsc, stored, rfl⟩
  supports := by
    intro fsc stored
    obtain rfl : fsc.key = key := (Registry.find?_eq_some stored).2
    refine ⟨fsc, stored, Cluster.SameSpec.refl fsc, rfl, rfl,
      fun named => named.of_same rfl ⟨rfl, rfl, rfl, rfl⟩, fun name _ => ?_, fun kind => ?_,
      fun none => ?_, rfl, fun _ => unhealthyLocalDisk_tend cluster fsc,
      fun _ => unhealthyFilesystem_tend cluster fsc⟩
    · rw [isThere, object?_tend, Option.isSome_map, ← isThere]
    · rw [ownedBy_tend, List.map_map]
      rfl
    · rw [object?_tend, none, Option.map_none]

/-- A claim that has just been made. -/
def madeClaim : FileSystemClaim :=
  { metadata := { name := "fs", ns := "ibm-spectrum-scale" }, devices := ["/dev/sdb"] }

/-- Passes on the claim, each of which is served at once. -/
def served : Nat → Cluster
  | 0 => { freshCluster with claims := [madeClaim] }
  | count + 1 => tend ((calmPass readyKey 0 (served count)).outcome (reconciler {})).state

theorem provisioned_after_ten_healthy_passes_served :
    ∃ cur, (served 10).claim? readyKey = some cur ∧ Provisioned (served 10) cur := by
  have able : Provisionable ["uuid.1"] (served 0) madeClaim :=
    ⟨by decide, by decide, ⟨by decide, by decide, by decide, by decide, by decide⟩,
      Or.inl ⟨by decide, by decide, by decide, by decide⟩, by decide, by decide⟩
  have coherent : AllCoherent (served 0) := by
    intro key fsc stored
    have listed := (Registry.find?_eq_some stored).1
    rw [List.mem_singleton.mp listed]
    exact coherent_nil
  have healthy : ∀ index, healthyAt readyKey (served index) = true := by
    intro index
    cases index with
    | zero => decide
    | succ index =>
        rw [healthyAt, Option.all_eq_true]
        intro fsc _
        rw [childrenHealthy, served, unhealthyLocalDisk_tend, unhealthyFilesystem_tend]
        rfl
  have enough : 10 ≤ Nat.count (fun index => healthyAt readyKey (served index) = true) 10 :=
    Nat.le_of_eq (Nat.count_iff_forall.mpr fun index _ => healthy index).symm
  exact @provisioned_after_ten_healthy_passes {} ["uuid.1"] (fun _ => 0) served madeClaim 10
    able coherent (fun index => supporting_tend _ _ _) enough 10 (Nat.le_refl 10)

end FusionAccess
