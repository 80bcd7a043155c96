import FusionAccess.Console.Agreement
import FusionAccess.Console.NodeSelection

/-!
# The number of shared disks

The table of nodes shows how many disks the selected nodes share: it intersects
the sets of WWNs of their discovery results. The LUNs come from a computation of
their own, which groups all devices by WWN and counts the members of each group.
-/

namespace Console

open Kubernetes FusionAccess Discovery

/-! ## The table of nodes -/

/-- The worker nodes, which the table shows. -/
def workerNodes (cluster : Cluster) : List Node :=
  cluster.nodes.filter fun node => node.labels.get? workerNodeRoleLabel = some ""

/-- The nodes of the table that are selected. -/
def selectedNodes (cluster : Cluster) : List Node :=
  (workerNodes cluster).filter hasStorageRole

/-- The WWNs of a discovery result. -/
def wwnSet (lvdr : DiscoveryResult) : Finset String :=
  (lvdr.discoveredDevices.map fun device => device.wwn).toFinset

/-- The discovery results that are intersected. -/
def selectedNodesLvdrs (selected : List Node) (results : List DiscoveryResult) :
    List DiscoveryResult :=
  results.filter fun lvdr => selected.any fun node => node.name = lvdr.nodeName

/-- The size of the intersection of at least two sets of WWNs. -/
def intersectionSize : List (Finset String) → Nat
  | first :: second :: rest =>
      ((second :: rest).foldl (fun previous current => previous ∩ current) first).card
  | _ => 0

/-- `sharedDisksCount`. -/
def sharedDisksCount (selected : List Node) (results : List DiscoveryResult) : Nat :=
  intersectionSize ((selectedNodesLvdrs selected results).map wwnSet)

/-! ## What is counted -/

theorem mem_foldl_inter
    {α : Type} [DecidableEq α] {sets : List (Finset α)} {start : Finset α} {element : α} :
    element ∈ sets.foldl (fun previous current => previous ∩ current) start ↔
      element ∈ start ∧ ∀ set ∈ sets, element ∈ set := by
  induction sets generalizing start with
  | nil => simp
  | cons head tail inductionHypothesis =>
      rw [List.foldl_cons, inductionHypothesis, Finset.mem_inter, List.forall_mem_cons,
        and_assoc]

theorem mem_wwnSet {lvdr : DiscoveryResult} {wwn : String} :
    wwn ∈ wwnSet lvdr ↔ listsWWN wwn lvdr = true := by
  simp [wwnSet, listsWWN]

/-- Of at least two results the WWNs that all of them list are counted. -/
theorem intersectionSize_eq_card
    {lvdrs : List DiscoveryResult} (several : 2 ≤ lvdrs.length)
    {shared : Finset String}
    (listed : ∀ wwn, wwn ∈ shared ↔ ∀ lvdr ∈ lvdrs, listsWWN wwn lvdr = true) :
    intersectionSize (lvdrs.map wwnSet) = shared.card := by
  match lvdrs with
  | first :: second :: rest =>
      rw [List.map_cons, List.map_cons, intersectionSize]
      congr 1
      ext wwn
      rw [mem_foldl_inter, listed, mem_wwnSet, ← List.map_cons, List.forall_mem_map]
      simp only [mem_wwnSet, List.forall_mem_cons]

/-! ## The representatives -/

theorem perm_objectEntries {α : Type} (groups : List (String × α)) :
    (objectEntries groups).Perm groups := by
  have indices : (groups.filter fun group => (arrayIndex? group.1).isNone) =
      groups.filter fun group => !(arrayIndex? group.1).isSome := by
    simp
  rw [objectEntries, indices]
  exact ((List.mergeSort_perm _ _).append_right _).trans
    (List.filter_append_perm _ groups)

/-- The heads of groups have the keys of the groups. -/
theorem map_wwn_heads
    {groups : List (String × List DeviceOnNode)}
    (heads : ∀ group ∈ groups, ∃ dd, group.2.head? = some dd ∧ dd.wwn = group.1) :
    (groups.filterMap fun group => group.2.head?).map DeviceOnNode.wwn =
      groups.map Prod.fst := by
  induction groups with
  | nil => rfl
  | cons group rest inductionHypothesis =>
      rw [List.forall_mem_cons] at heads
      obtain ⟨dd, head, key⟩ := heads.1
      rw [List.filterMap_cons]
      simp only [head]
      rw [List.map_cons, List.map_cons, key, inductionHypothesis heads.2]

/-- Every group has a head with its key. -/
theorem exists_head_of_mem_groupBy
    {devices : List DeviceOnNode} {group : String × List DeviceOnNode}
    (member : group ∈ Registry.groupBy DeviceOnNode.wwn devices) :
    ∃ dd, group.2.head? = some dd ∧ dd.wwn = group.1 := by
  obtain ⟨some, same⟩ := Registry.mem_groupBy.mp member
  obtain ⟨dd, others, split⟩ := List.exists_cons_of_ne_nil some
  have kept : dd ∈ group.2 := by
    rw [split]
    exact List.mem_cons_self
  rw [same] at kept
  exact ⟨dd, by rw [split]; rfl, of_decide_eq_true (List.mem_filter.mp kept).2⟩

/-- Each WWN is represented once. -/
theorem nodup_wwn_representatives (lvdrs : List DiscoveryResult) :
    ((getSharedDiscoveredDevicesRepresentatives lvdrs).map DeviceOnNode.wwn).Nodup := by
  unfold getSharedDiscoveredDevicesRepresentatives
  dsimp only
  rw [map_wwn_heads]
  · have keys := Registry.nodup_groupBy DeviceOnNode.wwn
      (makeDiscoveredDevicesWithNodeName lvdrs)
    rw [← ((perm_objectEntries _).map Prod.fst).nodup_iff] at keys
    exact keys.sublist (List.filter_sublist.map Prod.fst)
  · intro group member
    exact exists_head_of_mem_groupBy (mem_objectEntries.mp (List.mem_of_mem_filter member))

/-! ## Agreement -/

/-- The represented WWNs are those that all results list. -/
theorem mem_wwn_representatives
    {lvdrs : List DiscoveryResult} (some : lvdrs ≠ []) (once : ListsOnce lvdrs)
    {wwn : String} :
    wwn ∈ (getSharedDiscoveredDevicesRepresentatives lvdrs).map DeviceOnNode.wwn ↔
      ∀ lvdr ∈ lvdrs, listsWWN wwn lvdr = true := by
  simp only [List.mem_map, mem_getSharedDiscoveredDevicesRepresentatives once]
  constructor
  · rintro ⟨dd, ⟨-, everywhere⟩, rfl⟩
    exact everywhere
  · intro everywhere
    obtain ⟨first, rest, rfl⟩ := List.exists_cons_of_ne_nil some
    have listed := everywhere first List.mem_cons_self
    rw [← any_devicesOnNode, List.any_eq_true] at listed
    obtain ⟨dd, member, same⟩ := listed
    obtain rfl := of_decide_eq_true same
    exact ⟨dd, ⟨⟨first, rfl, member⟩, everywhere⟩, rfl⟩

/-- There are as many representatives as WWNs in the intersection. -/
theorem length_representatives
    {lvdrs : List DiscoveryResult}
    (several : 2 ≤ lvdrs.length) (once : ListsOnce lvdrs) :
    (getSharedDiscoveredDevicesRepresentatives lvdrs).length =
      intersectionSize (lvdrs.map wwnSet) := by
  have some : lvdrs ≠ [] := by
    rintro rfl
    simp at several
  have shared : ∀ wwn, wwn ∈ ((getSharedDiscoveredDevicesRepresentatives lvdrs).map
      DeviceOnNode.wwn).toFinset ↔ ∀ lvdr ∈ lvdrs, listsWWN wwn lvdr = true := by
    intro wwn
    rw [List.mem_toFinset]
    exact mem_wwn_representatives some once
  rw [intersectionSize_eq_card several shared,
    List.toFinset_card_of_nodup (nodup_wwn_representatives lvdrs), List.length_map]

/-- Of at least two results the LUNs represent each WWN once that all of them list,
by the device of the first one; the table of nodes counts just these WWNs. -/
theorem shared_disk_computations_agree
    {lvdrs : List DiscoveryResult}
    (several : 2 ≤ lvdrs.length) (once : ListsOnce lvdrs) :
    let representatives := getSharedDiscoveredDevicesRepresentatives lvdrs
    (representatives.map DeviceOnNode.wwn).Nodup ∧
      (∀ wwn, wwn ∈ representatives.map DeviceOnNode.wwn ↔
        ∀ lvdr ∈ lvdrs, wwn ∈ wwnSet lvdr) ∧
      (∀ selected results, selectedNodesLvdrs selected results = lvdrs →
        representatives.length = sharedDisksCount selected results) ∧
      ∀ dd ∈ representatives, ∃ first ∈ lvdrs.head?, dd ∈ devicesOnNode first := by
  refine ⟨nodup_wwn_representatives lvdrs, ?_, ?_, ?_⟩
  · intro wwn
    have some : lvdrs ≠ [] := by
      rintro rfl
      simp at several
    simp only [mem_wwnSet]
    exact mem_wwn_representatives some once
  · intro selected results considered
    rw [sharedDisksCount, considered]
    exact length_representatives several once
  · intro dd member
    exact ((mem_getSharedDiscoveredDevicesRepresentatives once).mp member).1

/-- The result of a node with the shared disk and one of its own. -/
def resultWithOwn (nodeName path own : String) : DiscoveryResult :=
  { resultOn nodeName path with
    discoveredDevices := [{ path := "/dev/sda", wwn := own }, { path, wwn := "uuid.1" }] }

/-- Two nodes that share one of their two disks. -/
theorem shared_disk_computations_agree_pair :
    (getSharedDiscoveredDevicesRepresentatives
        [resultWithOwn "a" "/dev/sdb" "uuid.2", resultWithOwn "b" "/dev/sdc" "uuid.3"]).length =
      sharedDisksCount [⟨"a", []⟩, ⟨"b", []⟩]
        [resultWithOwn "a" "/dev/sdb" "uuid.2", resultWithOwn "b" "/dev/sdc" "uuid.3"] :=
  (shared_disk_computations_agree (by decide) (by unfold ListsOnce; decide)).2.2.1
    _ _ (by decide)

/-! ## One cluster -/

/-- The table selects the nodes that the LUNs come from. -/
theorem selectedNodes_eq (cluster : Cluster) :
    selectedNodes cluster = watchedNodes cluster := by
  unfold selectedNodes workerNodes watchedNodes
  rw [List.filter_filter]
  congr 1
  funext node
  simp [matchLabels, hasStorageRole, Bool.and_comm]

/-- While no disk is in use, as many LUNs are offered as the table counts. -/
theorem length_offeredLuns
    (gib : Int → String)
    {cluster : Cluster} {results : List DiscoveryResult}
    (several : 2 ≤ (storageNodesLvdrs cluster results).length)
    (once : ListsOnce (storageNodesLvdrs cluster results))
    (unused : watchedLocalDisks cluster = []) :
    (offeredLuns gib cluster results).length =
      sharedDisksCount (selectedNodes cluster) (localVolumeDiscoveryResults results) := by
  have considered : selectedNodesLvdrs (selectedNodes cluster)
      (localVolumeDiscoveryResults results) = storageNodesLvdrs cluster results := by
    rw [selectedNodes_eq]
    rfl
  have free : outDevicesUsedByLocalDisks (watchedLocalDisks cluster) = fun _ => true := by
    funext dd
    rw [outDevicesUsedByLocalDisks, unused]
    rfl
  rw [offeredLuns, makeLuns, List.length_map, free, List.filter_true,
    length_representatives several once, sharedDisksCount, considered]

end Console
