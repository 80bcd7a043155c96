import FusionAccess.Controller.Milestones

/-!
# Claims that can be provisioned

A claim can be provisioned when discovery names its LocalDisks, on all storage nodes
alike, and when these LocalDisks are all there or all missing. The creation loop then
creates all of them in one go.
-/

namespace FusionAccess

open Kubernetes Interaction Fallible

/-! ## What a claim needs -/

/-- All storage nodes give the LocalDisks of the claim the same names, one for each
device. -/
structure LocalDisksNamed
    (cluster : Cluster) (fsc : FileSystemClaim) (names : List String) : Prop where
  nodes : storageNodes cluster ≠ []
  named : ∀ nodeName ∈ storageNodes cluster,
    (fsc.devices.map fun devicePath => localDiskName? cluster devicePath nodeName) =
      names.map some
  distinct : names.Nodup
  some : names ≠ []
  paths : "" ∉ fsc.devices

/-- None of the LocalDisks is there, and the claim does not wait for any. -/
structure LacksLocalDisks
    (cluster : Cluster) (fsc : FileSystemClaim) (names : List String) : Prop where
  none : ownedBy cluster fsc .localDisk = []
  free : ∀ name ∈ names, isThere cluster fsc name = false
  notCreated : isConditionTrue fsc .localDiskCreated = false
  notAwaiting : awaitsLocalDisks fsc = false

/-- The claim owns the LocalDisks for its devices; the first one is found under its
name. -/
structure OwnsLocalDisks
    (cluster : Cluster) (fsc : FileSystemClaim) (names : List String) : Prop where
  some : ownedBy cluster fsc .localDisk ≠ []
  devices : devicesMatch cluster fsc = true
  first : ∀ name ∈ names.head?, isThere cluster fsc name = true

/-- A live claim that can be provisioned: its LocalDisks are named, and they are all
there or all missing; it has one Filesystem at most, whose name is free if there is
none. -/
structure Provisionable
    (names : List String) (cluster : Cluster) (fsc : FileSystemClaim) : Prop where
  stored : cluster.claim? fsc.key = some fsc
  live : isDeleting fsc = false
  named : LocalDisksNamed cluster fsc names
  localDisks : LacksLocalDisks cluster fsc names ∨ OwnsLocalDisks cluster fsc names
  one : (ownedBy cluster fsc .filesystem).length ≤ 1
  free : ownedBy cluster fsc .filesystem = [] → cluster.object? .filesystem fsc.key = none

section Names

variable {cluster : Cluster} {fsc : FileSystemClaim} {names : List String}

theorem LocalDisksNamed.exists_first (named : LocalDisksNamed cluster fsc names) :
    ∃ devicePath devices name rest, fsc.devices = devicePath :: devices ∧
      names = name :: rest ∧ ∀ nodeName ∈ storageNodes cluster,
        localDiskName? cluster devicePath nodeName = Option.some name := by
  obtain ⟨name, rest, rfl⟩ := List.exists_cons_of_ne_nil named.some
  obtain ⟨nodeName, member⟩ := List.exists_mem_of_ne_nil _ named.nodes
  have first := named.named nodeName member
  cases listed : fsc.devices with
  | nil => simp [listed] at first
  | cons devicePath devices =>
      refine ⟨devicePath, devices, name, rest, rfl, rfl, fun other isNode => ?_⟩
      have same := named.named other isNode
      rw [listed, List.map_cons, List.map_cons] at same
      exact (List.cons.inj same).1

/-- A device with a name is listed by the discovery result. -/
theorem listsDevice_of_localDiskName?
    {devicePath nodeName name : String}
    (isName : localDiskName? cluster devicePath nodeName = some name) :
    listsDevice cluster devicePath nodeName = true := by
  rw [localDiskName?, Option.bind_eq_some_iff] at isName
  obtain ⟨wwn, known, _⟩ := isName
  rw [knownWWN?, Option.bind_eq_some_iff] at known
  obtain ⟨operatorNamespace, isNamespace, known⟩ := known
  rw [Option.bind_eq_some_iff] at known
  obtain ⟨lvdr, found, known⟩ := known
  have result : nodeResult? cluster nodeName = some lvdr := by
    rw [nodeResult?, isNamespace, Option.bind_some, found]
  rw [listsDevice, result, Option.any_some, List.any_eq_true]
  unfold wwnOf at known
  cases listed : lvdr.discoveredDevices.find? fun device => device.path = devicePath with
  | none => simp [listed, Except.toOption] at known
  | some device =>
      have path := List.find?_some listed
      exact ⟨device, List.mem_of_find?_eq_some listed, by simpa using path⟩

/-- The devices of a claim whose LocalDisks are named are valid. -/
theorem LocalDisksNamed.validates (named : LocalDisksNamed cluster fsc names) :
    validates cluster fsc.devices = true := by
  have lists : ∀ devicePath ∈ fsc.devices, ∀ nodeName ∈ storageNodes cluster,
      listsDevice cluster devicePath nodeName = true := by
    intro devicePath device nodeName node
    have listed : localDiskName? cluster devicePath nodeName ∈ names.map Option.some :=
      named.named nodeName node ▸ List.mem_map_of_mem device
    obtain ⟨name, _, isName⟩ := List.mem_map.mp listed
    exact listsDevice_of_localDiskName? isName.symm
  obtain ⟨devicePath, devices, _, _, listed, _⟩ := named.exists_first
  rw [validates_iff, discoveryComplete, Bool.and_eq_true, Bool.not_eq_true',
    List.isEmpty_eq_false_iff, List.all_eq_true]
  refine ⟨⟨named.nodes, fun nodeName node => ?_⟩, fun device member =>
    List.all_eq_true.mpr (lists device member)⟩
  have result := lists devicePath (by simp [listed]) nodeName node
  rw [listsDevice, Option.any_eq_true] at result
  obtain ⟨lvdr, found, _⟩ := result
  rw [found]
  rfl

/-- Where the first LocalDisk is there, none is created. -/
theorem OwnsLocalDisks.creationEnds
    (owns : OwnsLocalDisks cluster fsc names) (named : LocalDisksNamed cluster fsc names)
    {nodeName : String} (node : nodeName ∈ storageNodes cluster) :
    creationEnds cluster fsc nodeName = true := by
  obtain ⟨devicePath, devices, name, rest, listed, rfl, isName⟩ := named.exists_first
  have there := owns.first name rfl
  simp only [FusionAccess.creationEnds, listed, isName nodeName node]
  exact there

end Names

/-! ## What stays -/

/-- Only conditions of the claim and LocalDisks are different, as far as a claim that
is provisioned is concerned. -/
structure Retains
    (cluster later : Cluster) (fsc cur : FileSystemClaim) : Prop where
  stored : later.claim? fsc.key = some cur
  key : cur.key = fsc.key
  devices : cur.devices = fsc.devices
  deleting : isDeleting cur = isDeleting fsc
  filesystems : later.objects .filesystem = cluster.objects .filesystem
  surroundings : Cluster.SameSurroundings cluster later

section Retains

variable {cluster later : Cluster} {fsc cur : FileSystemClaim} {names : List String}

theorem LocalDisksNamed.of_same
    (named : LocalDisksNamed cluster fsc names)
    (devices : cur.devices = fsc.devices)
    (surroundings : Cluster.SameSurroundings cluster later) :
    LocalDisksNamed later cur names := by
  have nodes : storageNodes later = storageNodes cluster := by
    rw [storageNodes, surroundings.nodes, storageNodes]
  refine ⟨nodes ▸ named.nodes, fun nodeName node => ?_, named.distinct, named.some,
    devices ▸ named.paths⟩
  rw [devices, ← named.named nodeName (nodes ▸ node)]
  simp only [localDiskName?_of_sameSurroundings surroundings]

theorem Provisionable.retains
    (able : Provisionable names cluster fsc)
    (retains : Retains cluster later fsc cur)
    (localDisks : LacksLocalDisks later cur names ∨ OwnsLocalDisks later cur names) :
    Provisionable names later cur := by
  have filesystems : ownedBy later cur .filesystem = ownedBy cluster fsc .filesystem := by
    rw [ownedBy_of_key_eq retains.key, ownedBy, retains.filesystems, ownedBy]
  refine ⟨by rw [retains.key, retains.stored], retains.deleting.trans able.live,
    able.named.of_same retains.devices retains.surroundings, localDisks,
    filesystems ▸ able.one, fun none => ?_⟩
  rw [retains.key, Cluster.object?, retains.filesystems, ← Cluster.object?]
  exact able.free (filesystems ▸ none)

variable {conditionType : ConditionType} {status : ConditionStatus} {reason : Reason}
  {message : String}

theorem Reported.retains
    (after : Reported conditionType status reason message cluster later fsc cur) :
    Retains cluster later fsc cur where
  stored := after.stored
  key := after.key
  devices := after.devices
  deleting := after.deleting
  filesystems := after.objects .filesystem
  surroundings := after.surroundings

theorem OwnsLocalDisks.of_same
    (owns : OwnsLocalDisks cluster fsc names)
    (key : cur.key = fsc.key)
    (devices : cur.devices = fsc.devices)
    (localDisks : later.objects .localDisk = cluster.objects .localDisk) :
    OwnsLocalDisks later cur names := by
  have owned : ownedBy later cur .localDisk = ownedBy cluster fsc .localDisk := by
    rw [ownedBy_of_key_eq key, ownedBy, localDisks, ownedBy]
  have ns : cur.metadata.ns = fsc.metadata.ns := congrArg NamespacedName.ns key
  refine ⟨owned ▸ owns.some, ?_, fun name isFirst => ?_⟩
  · rw [devicesMatch, owned, devices]
    exact owns.devices
  · rw [isThere, ns, Cluster.object?, localDisks, ← Cluster.object?]
    exact owns.first name isFirst

/-- A claim that owns its LocalDisks can be provisioned after every report. -/
theorem Provisionable.reported
    (able : Provisionable names cluster fsc)
    (owns : OwnsLocalDisks cluster fsc names)
    (after : Reported conditionType status reason message cluster later fsc cur) :
    Provisionable names later cur :=
  able.retains after.retains
    (Or.inr (owns.of_same after.key after.devices (after.objects .localDisk)))

/-- A claim without LocalDisks can be provisioned after reports about others. -/
theorem LacksLocalDisks.reported
    (lacks : LacksLocalDisks cluster fsc names)
    (after : Reported conditionType status reason message cluster later fsc cur)
    (different : conditionType ≠ .localDiskCreated) :
    LacksLocalDisks later cur names := by
  obtain ⟨now, reported⟩ := after.conditions
  refine ⟨by rw [after.ownedBy, lacks.none], fun name member => ?_, ?_, ?_⟩
  · rw [isThere, after.ns, Cluster.object?, after.objects, ← Cluster.object?]
    exact lacks.free name member
  · rw [after.isConditionTrue_of_ne different.symm, lacks.notCreated]
  · rw [awaitsLocalDisks, hasConditionWithReason,
      findStatusCondition_of_reported reported different.symm]
    exact lacks.notAwaiting

end Retains

/-! ## The creation of all LocalDisks -/

/-- How far the loop has come: it has created the LocalDisks of the given names, for
the given devices. -/
structure Making
    (start : Cluster) (fsc : FileSystemClaim) (made devices : List String)
    (state : Cluster) : Prop where
  claim : ∃ cur, Retains start state fsc cur ∧ hasFinalizer cur = hasFinalizer fsc ∧
    isConditionTrue cur .deviceValidated = isConditionTrue fsc .deviceValidated
  devices : devicesOf state fsc = devices
  there : ∀ name, isThere state fsc name = true ↔
    isThere start fsc name = true ∨ name ∈ made

section Making

variable {start state : Cluster} {fsc : FileSystemClaim} {nodeName : String}
  {made done : List String}

theorem making_start
    (stored : start.claim? fsc.key = some fsc)
    (none : ownedBy start fsc .localDisk = []) :
    Making start fsc [] [] start where
  claim := ⟨fsc, ⟨stored, rfl, rfl, rfl, rfl, Cluster.SameSurroundings.refl start⟩, rfl, rfl⟩
  devices := by rw [devicesOf, none, List.map_nil]
  there := by simp

/-- One more LocalDisk is created. -/
theorem Making.create
    {devicePath name : String}
    (making : Making start fsc made done state)
    (free : state.object? .localDisk ⟨fsc.metadata.ns, name⟩ = none) :
    Making start fsc (made ++ [name]) (done ++ [devicePath])
      (state.afterCall (.create .localDisk
        (ownedObject fsc name (localDiskSpec devicePath nodeName)))) := by
  obtain ⟨cur, retains, same⟩ := making.claim
  refine ⟨⟨cur, ⟨?_, retains.key, retains.devices, retains.deleting, ?_, ?_⟩, same⟩, ?_,
    fun other => ?_⟩
  · rw [state.claim?_afterCall (by simp [Call.part?]), retains.stored]
  · rw [state.objects_afterCall (by simp [Call.part?]), retains.filesystems]
  · exact retains.surroundings.trans (Cluster.sameSurroundings_afterCall _ _)
  · rw [devicesOf, ownedBy_create free, List.map_append, ← devicesOf, making.devices]
    rfl
  · rw [isThere, object?_create free, Option.isSome_or, Bool.or_eq_true, ← isThere,
      making.there, or_assoc, List.mem_append, List.mem_singleton]
    refine or_congr_right (or_congr_right ?_)
    by_cases same : other = name <;> simp [same]

/-- Reports of the loop do not interfere. -/
theorem Making.report
    {cur : FileSystemClaim} {conditionType : ConditionType} {status : ConditionStatus}
    {reason : Reason} {message : String} {now : Nat}
    (making : Making start fsc made done state)
    (stored : state.claim? fsc.key = some cur)
    (different : conditionType ≠ .deviceValidated) :
    Making start fsc made done
      (state.afterCall (.patchClaimStatus fsc.key cur.conditions
        (withCondition conditionType status reason message now cur).conditions)) := by
  obtain ⟨other, retains, finalized, validated⟩ := making.claim
  rw [retains.stored] at stored
  cases stored
  have localDisks : (state.afterCall (.patchClaimStatus fsc.key cur.conditions
      (withCondition conditionType status reason message now cur).conditions)).objects
        .localDisk = state.objects .localDisk := state.objects_afterCall (by simp [Call.part?])
  have claim : ∃ patched, (state.afterCall (.patchClaimStatus fsc.key cur.conditions
      (withCondition conditionType status reason message now cur).conditions)).claim?
        fsc.key = some patched ∧ Cluster.SameSpec cur patched ∧
          hasFinalizer patched = hasFinalizer cur ∧ patched.conditions =
            (withCondition conditionType status reason message now cur).conditions := by
    by_cases same : cur.conditions =
        (withCondition conditionType status reason message now cur).conditions
    · refine ⟨cur, ?_, Cluster.SameSpec.refl cur, rfl, same⟩
      simp only [Cluster.afterCall, Cluster.answer, Cluster.patchClaimStatus,
        retains.stored, if_pos same]
    · exact ⟨_, Cluster.claim?_patchClaimStatus_of_different retains.stored same,
        ⟨rfl, rfl, rfl⟩, rfl, rfl⟩
  obtain ⟨patched, found, spec, kept, conditions⟩ := claim
  refine ⟨⟨patched, ⟨found, spec.key.trans retains.key, spec.devices.trans retains.devices,
    ?_, ?_, ?_⟩, kept.trans finalized, ?_⟩, ?_, fun name => ?_⟩
  · rw [isDeleting, spec.deletionTimestamp]
    exact retains.deleting
  · rw [state.objects_afterCall (by simp [Call.part?]), retains.filesystems]
  · exact retains.surroundings.trans (Cluster.sameSurroundings_afterCall _ _)
  · rw [isConditionTrue_of_reported conditions different.symm, validated]
  · rw [devicesOf_of_objects_eq localDisks, making.devices]
  · rw [isThere, Cluster.object?, localDisks, ← Cluster.object?]
    exact making.there name

/-- When the LocalDisks of all devices are named and missing, the loop creates all of
them. -/
theorem ensures_createLocalDisks_all
    (notAwaiting : awaitsLocalDisks fsc = false)
    {devices names : List String} {requeue : Bool}
    (named : (devices.map fun devicePath => localDiskName? start devicePath nodeName) =
      names.map some)
    (distinct : (made ++ names).Nodup)
    (free : ∀ name ∈ names, isThere start fsc name = false)
    (making : Making start fsc made done state) :
    Ensures (drawing start nodeName) (createLocalDisks fsc nodeName devices requeue)
      (fun result final => result = .ok (requeue || !devices.isEmpty) ∧
        Making start fsc (made ++ names) (done ++ devices) final) state := by
  have never : ∀ {Q : Prop}, FailsReads (drawing start nodeName) → Q :=
    fun faulty => absurd faulty not_failsReads_drawing
  -- induction on the devices that remain; `making` is the invariant of the loop
  induction devices generalizing names made done requeue state with
  | nil =>
      obtain rfl : names = [] := by simpa using named.symm
      rw [createLocalDisks, ensures_pure]
      simpa using making
  | cons devicePath devices inductionHypothesis =>
      obtain ⟨name, names, rfl⟩ : ∃ name rest, names = name :: rest := by
        cases names with
        | nil => simp at named
        | cons name rest => exact ⟨name, rest, rfl⟩
      rw [List.map_cons, List.map_cons, List.cons_eq_cons] at named
      obtain ⟨cur, retains, _⟩ := making.claim
      have isNow : localDiskName? state devicePath nodeName = some name := by
        rw [localDiskName?_of_sameSurroundings retains.surroundings, named.1]
      have missing : isThere state fsc name = false := by
        rw [Bool.eq_false_iff, Ne, making.there, free name List.mem_cons_self]
        have new := List.disjoint_of_nodup_append distinct
        simpa using fun earlier => new earlier List.mem_cons_self
      refine ensures_createLocalDisks_cons admitsReads_drawing never (fun unknown => ?_)
        (fun other isOther taken => ?_) fun other isOther missing => ?_
      · rcases unknown with nameless | faulty
        · rw [isNow] at nameless
          cases nameless
        · exact never faulty
      · rw [isNow] at isOther
        cases isOther
        rw [isThere, taken] at missing
        cases missing
      · rw [isNow] at isOther
        cases isOther
        have next := @Making.create start state fsc nodeName made done devicePath name making
          missing
        rw [ensures_bind, ensures_attempt]
        refine ensures_createResourceWithOwnership_free not_mayFail_drawing missing trivial ?_
        rw [onSuccess_ok, ensures_bind]
        obtain ⟨cur, retains, _⟩ := next.claim
        have rest : ∀ later, Making start fsc (made ++ [name]) (done ++ [devicePath]) later →
            Ensures (drawing start nodeName) (createLocalDisks fsc nodeName devices true)
              (fun result final => result = .ok (requeue || !(devicePath :: devices).isEmpty) ∧
                Making start fsc (made ++ name :: names) (done ++ devicePath :: devices)
                  final) later := by
          intro later making
          have made : Ensures (drawing start nodeName)
              (createLocalDisks fsc nodeName devices true) _ later :=
            inductionHypothesis named.2 (by simpa using distinct)
              (fun other member => free other (List.mem_cons_of_mem _ member)) making
          simpa using made
        refine ensures_updateConditionIfChanged admitsReads_drawing retains.stored
          (fun kept => ?_) (fun _ => trivial) (fun _ => ?_)
          (fun _ _ _ mayFail => absurd mayFail (not_mayFail_drawing _))
          fun _ _ _ mayFail _ => absurd mayFail (not_mayFail_drawing _)
        · have awaits := hasConditionWithReason_of_keepsCondition kept
          rw [awaitsLocalDisks, awaits] at notAwaiting
          cases notAwaiting
        · exact rest _ (next.report retains.stored (by simp))

end Making

end FusionAccess
