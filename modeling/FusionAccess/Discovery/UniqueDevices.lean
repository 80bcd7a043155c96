import FusionAccess.Discovery.BlockDevices
import FusionAccess.Registry.Entries
import FusionAccess.Registry.Positions

/-!
# One entry for each WWN

The loop over the discovered devices fills a slice and keeps in a map the index at
which it has put the entry of each WWN. The map tells the position of every WWN in
the slice, so that the loop writes within the slice and computes an upsert for each
device.
-/

namespace Discovery

open Registry

/-! ## The loop -/

/-- The variables of the loop: the indices by WWN, and the entries so far. -/
structure UniqueLoop where
  m : Entries String Nat := []
  unique : List DiscoveredDevice := []

/-- One turn of the loop; there is none when the index is out of range. -/
def UniqueLoop.turn (loop : UniqueLoop) (v : DiscoveredDevice) : Option UniqueLoop :=
  match loop.m.get? v.wwn with
  | some i =>
      if i < loop.unique.length then some { loop with unique := loop.unique.set i v }
      else none
  | none =>
      some {
        m := loop.m.set v.wwn loop.unique.length
        unique := loop.unique ++ [v] }

/-- `uniqueDevices` with its map and its slice. -/
def uniqueDevicesLoop (sample : List DiscoveredDevice) : Option (List DiscoveredDevice) :=
  (sample.foldlM UniqueLoop.turn {}).map UniqueLoop.unique

/-! ## Map and slice -/

/-- The map has the position of each WWN. -/
def UniqueLoop.Indexed (loop : UniqueLoop) : Prop :=
  ∀ wwn, loop.m.get? wwn = position? (fun device => device.wwn) wwn loop.unique

theorem indexed_start : UniqueLoop.Indexed {} := fun _ => rfl

/-- A turn upserts the device, and the map keeps up with the slice. -/
theorem UniqueLoop.Indexed.turn
    {loop : UniqueLoop} (indexed : loop.Indexed) (v : DiscoveredDevice) :
    ∃ next, loop.turn v = some next ∧ next.Indexed ∧
      next.unique = upsert (fun device => device.wwn) v loop.unique := by
  have positions := @position?_upsert _ _ _ (fun device : DiscoveredDevice => device.wwn)
  unfold UniqueLoop.turn
  rw [indexed v.wwn]
  cases found : position? (fun device => device.wwn) v.wwn loop.unique with
  | some i =>
      have upserted := upsert_of_position?_eq_some found
      refine ⟨_, if_pos (position?_lt found), fun wwn => ?_, upserted.symm⟩
      change loop.m.get? wwn = position? _ wwn (loop.unique.set i v)
      rw [← upserted, positions, indexed wwn]
      split
      next same => rw [← same, found, Option.some_or]
      next => rw [Option.or_none]
  | none =>
      have upserted := upsert_of_position?_eq_none found
      refine ⟨_, rfl, fun wwn => ?_, upserted.symm⟩
      change (loop.m.set v.wwn loop.unique.length).get? wwn =
        position? _ wwn (loop.unique ++ [v])
      rw [← upserted, positions, Entries.get?_set, indexed wwn]
      split
      next same => rw [← same, found, Option.none_or]
      next => rw [Option.or_none]

/-- The loop never leaves the slice and ends with the upserted entries. -/
theorem uniqueDevicesLoop_eq (sample : List DiscoveredDevice) :
    uniqueDevicesLoop sample = some (uniqueDevices sample) := by
  have extended : ∀ loop : UniqueLoop, loop.Indexed →
      (sample.foldlM UniqueLoop.turn loop).map UniqueLoop.unique =
        some (sample.foldl (fun unique device =>
          upsert (fun other => other.wwn) device unique) loop.unique) := by
    induction sample with
    | nil => exact fun _ _ => rfl
    | cons v rest inductionHypothesis =>
        intro loop indexed
        obtain ⟨next, turns, indexed, upserted⟩ := indexed.turn v
        rw [List.foldlM_cons, turns, List.foldl_cons, ← upserted]
        exact inductionHypothesis next indexed
  exact extended {} indexed_start

/-! ## The entries -/

/-- The entry of a WWN is the last device with it. -/
theorem mem_uniqueDevices
    {sample : List DiscoveredDevice} {device : DiscoveredDevice} :
    device ∈ uniqueDevices sample ↔
      (sample.filter fun other => other.wwn = device.wwn).getLast? = some device := by
  unfold uniqueDevices
  rw [mem_foldl_upsert, find?, ← List.head?_filter, List.filter_reverse,
    List.head?_reverse]

/-- Each discovered WWN has one entry, which is the last device with it, and the
entries stand in the order in which their WWNs occur first. -/
theorem uniqueDevices_lists_each_wwn_once (sample : List DiscoveredDevice) :
    uniqueDevicesLoop sample = some (uniqueDevices sample) ∧
      ((uniqueDevices sample).map fun device => device.wwn).Nodup ∧
      (∀ wwn, wwn ∈ (uniqueDevices sample).map (fun device => device.wwn) ↔
        wwn ∈ sample.map fun device => device.wwn) ∧
      (uniqueDevices sample).Pairwise (fun first second =>
        (sample.map fun device => device.wwn).idxOf first.wwn <
          (sample.map fun device => device.wwn).idxOf second.wwn) ∧
      ∀ device ∈ uniqueDevices sample,
        (sample.filter fun other => other.wwn = device.wwn).getLast? = some device := by
  refine ⟨uniqueDevicesLoop_eq sample, ?_, fun wwn => ?_, ?_, fun device listed => ?_⟩
  · exact nodup_foldl_upsert sample List.nodup_nil
  · exact mem_map_key_foldl_upsert sample
  · have ordered := @pairwise_foldl_upsert _ _ _
      (fun device : DiscoveredDevice => device.wwn) sample
    rw [List.pairwise_map] at ordered
    exact ordered
  · exact mem_uniqueDevices.mp listed

end Discovery
