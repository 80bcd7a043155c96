import FusionAccess.Controller.LocalDiskCreation

/-!
# Validation of devices

When `validateDevices` accepts the devices of a claim: there are storage nodes,
each of them has its discovery result, and every device is listed by all of
these results.
-/

namespace FusionAccess

open Kubernetes Interaction Fallible

/-- The discovery result of a node, where the controller looks for it. -/
def nodeResult? (cluster : Cluster) (nodeName : String) :
    Option LocalVolumeDiscoveryResult :=
  cluster.deploymentNamespace.bind fun operatorNamespace =>
    Registry.find? LocalVolumeDiscoveryResult.key
      ⟨operatorNamespace, discoveryResultName nodeName⟩ cluster.discoveryResults

/-- The discovery result of a node lists a device. -/
def listsDevice (cluster : Cluster) (device nodeName : String) : Bool :=
  (nodeResult? cluster nodeName).any fun lvdr =>
    lvdr.discoveredDevices.any fun discovered => discovered.path = device

/-- The discovery results of all storage nodes list a device. -/
def isShared (cluster : Cluster) (device : String) : Bool :=
  (storageNodes cluster).all (listsDevice cluster device)

/-- There are storage nodes and all of them have their discovery result. -/
def discoveryComplete (cluster : Cluster) : Bool :=
  !(storageNodes cluster).isEmpty &&
    (storageNodes cluster).all fun nodeName => (nodeResult? cluster nodeName).isSome

/-- The devices are fit for a claim. -/
def validates (cluster : Cluster) (devices : List String) : Bool :=
  discoveryComplete cluster && devices.all (isShared cluster)

variable {C : Contract apiServer} {cluster : Cluster}

theorem validates_iff {devices : List String} :
    validates cluster devices = true ↔
      discoveryComplete cluster = true ∧
        ∀ device ∈ devices, isShared cluster device = true := by
  rw [validates, Bool.and_eq_true, List.all_eq_true]

theorem checkDeviceOnNode_eq_none
    {device : String} {result : String × LocalVolumeDiscoveryResult} :
    checkDeviceOnNode device result = none ↔
      (result.2.discoveredDevices.any fun discovered =>
        discovered.path = device) = true := by
  unfold checkDeviceOnNode
  split
  next empty => simp [List.length_eq_zero_iff.mp empty]
  next =>
    split
    next listed => simp [listed]
    next missing => simp [missing]

/-- The results that are collected are those of the storage nodes. -/
theorem ensures_collectDiscoveryResults
    (admits : AdmitsReads C)
    (nodes : List Node) :
    Ensures C (collectDiscoveryResults nodes)
      (fun result final => final = cluster ∧
        match result with
        | .ok lvdrs =>
            lvdrs.map Prod.fst = (nodes.filter isStorageNode).map Node.name ∧
              ∀ lvdr ∈ lvdrs, nodeResult? cluster lvdr.1 = some lvdr.2
        | .error _ => FailsReads C ∨
            ∃ node ∈ nodes, isStorageNode node = true ∧
              nodeResult? cluster node.name = none) cluster := by
  induction nodes with
  | nil => exact ⟨rfl, rfl, by simp⟩
  | cons node nodes inductionHypothesis =>
      rw [collectDiscoveryResults]
      by_cases storage : isStorageNode node = true
      case neg =>
        rw [if_neg storage]
        refine inductionHypothesis.mono ?_
        rintro (failure | lvdrs) final ⟨rfl, known⟩
        · refine ⟨rfl, known.imp_right ?_⟩
          rintro ⟨other, member, isStorage, missing⟩
          exact ⟨other, List.mem_cons_of_mem _ member, isStorage, missing⟩
        · exact ⟨rfl, by simp [storage, known.1], known.2⟩
      case pos =>
        rw [if_pos storage]
        have absent : nodeResult? cluster node.name = none →
            FailsReads C ∨ ∃ other ∈ node :: nodes, isStorageNode other = true ∧
              nodeResult? cluster other.name = none :=
          fun missing => Or.inr ⟨node, by simp, storage, missing⟩
        unfold getDeploymentNamespace
        simp only [ensures_bind, ensures_mapError]
        refine ensures_local (admits _ _ rfl) rfl rfl fun pick => ?_
        simp only [Cluster.answer, onSuccess_ok]
        cases named : cluster.deploymentNamespace with
        | none => exact ⟨rfl, absent (by simp [nodeResult?, named])⟩
        | some operatorNamespace =>
            simp only [ensures_pure, Except.mapError, onSuccess_ok, ensures_bind,
              ensures_mapError]
            refine ensures_read admits rfl (fun pick => ?_) fun _ _ mayFail =>
              ⟨rfl, Or.inl ⟨_, _, rfl, mayFail⟩⟩
            simp only [Cluster.answer]
            cases found : Registry.find? LocalVolumeDiscoveryResult.key
                ⟨operatorNamespace, discoveryResultName node.name⟩
                cluster.discoveryResults with
            | none => exact ⟨rfl, absent (by simp [nodeResult?, named, found])⟩
            | some lvdr =>
                have own : nodeResult? cluster node.name = some lvdr := by
                  simp [nodeResult?, named, found]
                rw [onSuccess_ok, ensures_bind]
                refine inductionHypothesis.mono ?_
                rintro (failure | lvdrs) final ⟨rfl, known⟩
                · refine ⟨rfl, known.imp_right ?_⟩
                  rintro ⟨other, member, isStorage, missing⟩
                  exact ⟨other, List.mem_cons_of_mem _ member, isStorage, missing⟩
                · refine ⟨rfl, by simp [storage, known.1], ?_⟩
                  rintro pair (_ | ⟨_, later⟩)
                  · exact own
                  · exact known.2 pair later

/-- Collected results accept a device if and only if all storage nodes list
it. -/
theorem findSome?_checkDeviceOnNode
    {lvdrs : List (String × LocalVolumeDiscoveryResult)}
    (names : lvdrs.map Prod.fst = storageNodes cluster)
    (own : ∀ lvdr ∈ lvdrs, nodeResult? cluster lvdr.1 = some lvdr.2)
    (device : String) :
    lvdrs.findSome? (checkDeviceOnNode device) = none ↔
      isShared cluster device = true := by
  rw [List.findSome?_eq_none_iff, isShared, ← names, List.all_map, List.all_eq_true]
  refine forall₂_congr fun lvdr member => ?_
  rw [checkDeviceOnNode_eq_none, Function.comp_apply, listsDevice, own lvdr member,
    Option.any_some]

/-- `validateDevices` finds out whether devices are fit, unless a call fails. -/
theorem ensures_validateDevices
    (admits : AdmitsReads C)
    (fsc : FileSystemClaim) :
    Ensures C (validateDevices fsc)
      (fun result final => final = cluster ∧
        match result with
        | .ok _ => validates cluster fsc.devices = true
        | .error _ => FailsReads C ∨ validates cluster fsc.devices = false) cluster := by
  unfold validateDevices
  simp only [ensures_bind, ensures_mapError]
  refine ensures_read admits rfl (fun pick => ?_) fun _ _ mayFail =>
    ⟨rfl, Or.inl ⟨_, _, rfl, mayFail⟩⟩
  simp only [Cluster.answer, Except.mapError, onSuccess_ok, ensures_bind]
  refine (ensures_collectDiscoveryResults admits cluster.nodes).mono ?_
  rintro (failure | lvdrs) final ⟨rfl, known⟩
  · refine ⟨rfl, known.imp_right ?_⟩
    rintro ⟨node, member, storage, missing⟩
    have listed : node.name ∈ storageNodes final :=
      List.mem_map_of_mem (List.mem_filter.mpr ⟨member, storage⟩)
    have incomplete : ((storageNodes final).all fun nodeName =>
        (nodeResult? final nodeName).isSome) = false := by
      rw [List.all_eq_false]
      exact ⟨node.name, listed, by simp [missing]⟩
    simp [validates, discoveryComplete, incomplete]
  · obtain ⟨names, own⟩ := known
    change lvdrs.map Prod.fst = storageNodes final at names
    have present : ((storageNodes final).all fun nodeName =>
        (nodeResult? final nodeName).isSome) = true := by
      rw [← names, List.all_map, List.all_eq_true]
      exact fun lvdr member => by simp [own lvdr member]
    rw [onSuccess_ok, ensures_ite]
    refine ⟨fun none => ⟨rfl, Or.inr ?_⟩, fun some => ?_⟩
    · have noNodes : storageNodes final = [] := by
        rw [← names, List.length_eq_zero_iff.mp none, List.map_nil]
      simp [validates, discoveryComplete, noNodes]
    · have nodes : (storageNodes final).isEmpty = false := by
        rw [← names]
        simpa [List.isEmpty_iff, List.length_eq_zero_iff] using some
      have decided : (fsc.devices.findSome? fun device =>
          lvdrs.findSome? (checkDeviceOnNode device)) = none ↔
            validates final fsc.devices = true := by
        rw [List.findSome?_eq_none_iff, validates, discoveryComplete, nodes, present,
          Bool.and_eq_true, List.all_eq_true]
        simp [findSome?_checkDeviceOnNode names own]
      split
      next err failed =>
        refine ⟨rfl, Or.inr ?_⟩
        rw [← Bool.not_eq_true, ← decided, failed]
        simp
      next passed => exact ⟨rfl, decided.mp passed⟩

/-- Devices that `validateDevices` accepts are fit. -/
theorem validates_of_validateDevices
    {fsc : FileSystemClaim} {choices : Nat → Choice}
    (accepted : (Program.run apiServer (validateDevices fsc).run choices cluster).value =
      .ok ()) :
    validates cluster fsc.devices = true := by
  have sound := Program.Ensures.sound
    (@ensures_validateDevices free cluster admitsReads_free fsc) choices
    fun _ _ => trivial
  rw [accepted] at sound
  exact sound.2.2

/-- When no call fails it accepts all devices that are fit. -/
theorem validateDevices_of_validates
    {fsc : FileSystemClaim} {choices : Nat → Choice}
    (faultFree : ∀ index, (choices index).fault = .none)
    (valid : validates cluster fsc.devices = true) :
    (Program.run apiServer (validateDevices fsc).run choices cluster).value = .ok () := by
  have sound := Program.Ensures.sound
    (@ensures_validateDevices faultless cluster (fun _ _ _ => trivial) fsc) choices
    fun event member => by
      obtain ⟨index, chosen⟩ := Program.choice_of_mem_log member
      rw [Contract.Relied, chosen]
      exact faultFree index
  obtain ⟨_, _, known⟩ := sound
  cases ended : (Program.run apiServer (validateDevices fsc).run choices cluster).value with
  | ok value => rfl
  | error err =>
      rw [ended] at known
      have rejected := known.resolve_left fun fails => not_faulty_faultless fails.faulty
      rw [valid] at rejected
      cases rejected

end FusionAccess
