import FusionAccess.Kubernetes.NodeSelectors
import Mathlib.Data.List.Dedup

/-!
# The DaemonSet of the discovery

The discovery daemons run as a DaemonSet. Its spec is computed from a template and
overlaid on the one that exists; labels and annotations that others have set are
meant to stay.
-/

namespace Kubernetes.StringMap

/-- `len`: the number of keys. -/
def size (entries : StringMap) : Nat := (entries.map Prod.fst).dedup.length

/-- Set the entries of the second map in the first. -/
def overlay (entries updates : StringMap) : StringMap :=
  updates.foldr (fun entry entries => entries.set entry.1 entry.2) entries

theorem get?_cons (head : String × String) (tail : StringMap) (key : String) :
    get? (head :: tail) key = if head.1 = key then some head.2 else get? tail key := by
  rw [get?, Registry.find?_cons]
  split <;> rfl

/-- Reading a map after setting the entries of another one. -/
theorem get?_overlay (entries updates : StringMap) (key : String) :
    (entries.overlay updates).get? key = (updates.get? key).or (entries.get? key) := by
  induction updates with
  | nil => rfl
  | cons head tail inductionHypothesis =>
      rw [overlay, List.foldr_cons, get?_set, get?_cons]
      split
      · rfl
      · exact inductionHypothesis

theorem size_eq_zero_iff {entries : StringMap} : entries.size = 0 ↔ entries = [] := by
  rw [size, List.length_eq_zero_iff, List.dedup_eq_nil, List.map_eq_nil_iff]

/-- A map with a key is not empty. -/
theorem size_pos_of_get?
    {entries : StringMap} {key value : String} (found : entries.get? key = some value) :
    0 < entries.size := by
  rw [Nat.pos_iff_ne_zero]
  intro none
  rw [size_eq_zero_iff.mp none] at found
  cases found

end Kubernetes.StringMap

namespace Discovery

open Kubernetes

/-! ## Objects -/

/-- `Toleration`. -/
structure Toleration where
  key : String := ""
  operator : String := ""
  value : String := ""
  effect : String := ""
  tolerationSeconds : Option Int := none
  deriving DecidableEq

/-- `EnvVar`; the field of the pod that a value is taken from is given by its path. -/
structure EnvVar where
  name : String
  value : String := ""
  fieldPath : String := ""
  deriving DecidableEq

/-- `Container`. What is copied as a whole is kept as it is encoded. -/
structure Container where
  name : String
  image : String
  args : List String := []
  env : List EnvVar := []
  settings : Value := .null
  deriving DecidableEq

/-- `PodSpec` with the fields that are set. -/
structure PodSpec where
  serviceAccountName : String := ""
  priorityClassName : String := ""
  tolerations : List Toleration := []
  affinity : Option NodeSelector := none
  volumes : List Value := []
  containers : List Container := []
  hostPID : Bool := false
  deriving DecidableEq

/-- `PodTemplateSpec`. -/
structure PodTemplateSpec where
  labels : StringMap := []
  annotations : StringMap := []
  spec : PodSpec := {}
  deriving DecidableEq

/-- `DaemonSetSpec`. -/
structure DaemonSetSpec where
  selector : StringMap := []
  template : PodTemplateSpec := {}
  updateStrategy : Value := .null
  deriving DecidableEq

/-- `DaemonSet`. -/
structure DaemonSet where
  metadata : ObjectMeta := { name := "" }
  creationTimestamp : Nat := 0
  spec : DaemonSetSpec := {}
  desiredNumberScheduled : Nat := 0
  numberReady : Nat := 0
  deriving DecidableEq

/-- The key of a DaemonSet. -/
def DaemonSet.key (ds : DaemonSet) : NamespacedName := ds.metadata.key

/-! ## The spec -/

/-- `initMapIfNil`. -/
def initMapIfNil (m : StringMap) : StringMap := if 1 < m.size then m else []

/-- The part of `MutateAggregatedSpec` for a DaemonSet that is to be created. -/
def createOnly (dsTemplate ds : DaemonSet) : DaemonSet :=
  if ds.creationTimestamp = 0 then
    { ds with
      metadata := dsTemplate.metadata
      spec := { ds.spec with selector := dsTemplate.spec.selector } }
  else ds

/-- `MutateAggregatedSpec`, with the value of PRIORITY_CLASS_NAME. -/
def mutateAggregatedSpec (priorityClassName : String) (tolerations : List Toleration)
    (ownerRefs : List OwnerReference) (nodeSelector : Option NodeSelector)
    (dsTemplate : DaemonSet) (ds : DaemonSet) : DaemonSet :=
  let ds := createOnly dsTemplate ds
  let pod := ds.spec.template
  let podTemplate := dsTemplate.spec.template
  { ds with
    metadata := { ds.metadata with
      labels := (initMapIfNil ds.metadata.labels).overlay dsTemplate.metadata.labels
      ownerReferences := ownerRefs }
    spec := { ds.spec with
      template :=
        { labels := (initMapIfNil pod.labels).overlay podTemplate.labels
          annotations := (initMapIfNil pod.annotations).overlay podTemplate.annotations
          spec := { pod.spec with
            serviceAccountName := podTemplate.spec.serviceAccountName
            priorityClassName :=
              if priorityClassName ≠ "" then priorityClassName
              else pod.spec.priorityClassName
            tolerations := tolerations
            affinity := nodeSelector
            volumes := podTemplate.spec.volumes
            containers := podTemplate.spec.containers
            hostPID := podTemplate.spec.hostPID } }
      updateStrategy := dsTemplate.spec.updateStrategy } }

/-! ## Foreign metadata -/

/-- What the template defines is set, and all else is as it was. -/
structure KeepsForeign (old template new : StringMap) : Prop where
  foreign : ∀ key, template.get? key = none → new.get? key = old.get? key
  own : ∀ key value, template.get? key = some value → new.get? key = some value

/-- The map has a single key, which the template does not define. -/
def SoleForeign (old template : StringMap) : Prop :=
  old.size = 1 ∧ ∃ key value, old.get? key = some value ∧ template.get? key = none

/-- An overlaid map keeps what is foreign unless that is all it has. -/
theorem keepsForeign_overlay_iff (old template : StringMap) :
    KeepsForeign old template ((initMapIfNil old).overlay template) ↔
      ¬ SoleForeign old template := by
  have read : ∀ key, ((initMapIfNil old).overlay template).get? key =
      (template.get? key).or ((initMapIfNil old).get? key) :=
    StringMap.get?_overlay _ _
  have own : ∀ key value, template.get? key = some value →
      ((initMapIfNil old).overlay template).get? key = some value := by
    intro key value defined
    rw [read, defined]
    rfl
  by_cases large : 1 < old.size
  · have kept : initMapIfNil old = old := if_pos large
    refine ⟨fun _ sole => ?_, fun _ => ⟨fun key undefined => ?_, own⟩⟩
    · rw [sole.1] at large
      exact absurd large (Nat.lt_irrefl 1)
    · rw [read, undefined, kept]
      rfl
  · have wiped : initMapIfNil old = [] := if_neg large
    constructor
    · rintro keeps ⟨-, key, value, found, undefined⟩
      have kept := keeps.foreign key undefined
      rw [read, undefined, wiped, found] at kept
      cases kept
    · intro noSole
      refine ⟨fun key undefined => ?_, own⟩
      rw [read, undefined, wiped]
      cases found : old.get? key with
      | none => rfl
      | some value =>
          have single : old.size = 1 :=
            Nat.le_antisymm (Nat.not_lt.mp large) (StringMap.size_pos_of_get? found)
          exact absurd ⟨single, key, value, found, undefined⟩ noSole

/-- An update of a DaemonSet keeps foreign labels and annotations just if none of its
three maps has a single key, which the template does not define. -/
theorem daemonset_update_keeps_metadata_iff
    {ds : DaemonSet} (existing : ds.creationTimestamp ≠ 0)
    (priorityClassName : String) (tolerations : List Toleration)
    (ownerRefs : List OwnerReference) (nodeSelector : Option NodeSelector)
    (dsTemplate : DaemonSet) :
    let updated := mutateAggregatedSpec priorityClassName tolerations ownerRefs
      nodeSelector dsTemplate ds
    (KeepsForeign ds.metadata.labels dsTemplate.metadata.labels updated.metadata.labels ∧
      KeepsForeign ds.spec.template.labels dsTemplate.spec.template.labels
        updated.spec.template.labels ∧
      KeepsForeign ds.spec.template.annotations dsTemplate.spec.template.annotations
        updated.spec.template.annotations) ↔
      ¬ SoleForeign ds.metadata.labels dsTemplate.metadata.labels ∧
        ¬ SoleForeign ds.spec.template.labels dsTemplate.spec.template.labels ∧
        ¬ SoleForeign ds.spec.template.annotations dsTemplate.spec.template.annotations := by
  have same : createOnly dsTemplate ds = ds := if_neg existing
  simp only [mutateAggregatedSpec, same, keepsForeign_overlay_iff]

/-- The template of the discovery DaemonSet, as far as its metadata goes. -/
def discoveryTemplate : DaemonSet where
  metadata := { name := "devicefinder-discovery", labels := [("app", "devicefinder-discovery")] }
  spec :=
    { selector := [("app", "devicefinder-discovery")]
      template :=
        { labels := [("app", "devicefinder-discovery")]
          annotations := [("target.workload.openshift.io/management",
            "\x7b\"effect\": \"PreferredDuringScheduling\"\x7d")] } }

/-- The DaemonSet with the given labels, and a restart marker on its pods. -/
def restarted (labels : StringMap) : DaemonSet :=
  { discoveryTemplate with
    creationTimestamp := 1
    metadata := { discoveryTemplate.metadata with labels }
    spec := { discoveryTemplate.spec with
      template := { discoveryTemplate.spec.template with
        annotations := discoveryTemplate.spec.template.annotations ++
          [("kubectl.kubernetes.io/restartedAt", "2025-06-01T00:00:00Z")] } } }

/-- A restart marker stays beside the annotation of the template. -/
theorem daemonset_update_keeps_metadata_restarted :
    KeepsForeign (restarted [("app", "devicefinder-discovery")]).spec.template.annotations
      discoveryTemplate.spec.template.annotations
      (mutateAggregatedSpec "" [] [] none discoveryTemplate
        (restarted [("app", "devicefinder-discovery")])).spec.template.annotations := by
  refine ((daemonset_update_keeps_metadata_iff (by decide) "" [] [] none
    discoveryTemplate).mpr ⟨?_, ?_, ?_⟩).2.2
  · rintro ⟨-, key, value, found, undefined⟩
    rw [show (restarted _).metadata.labels = discoveryTemplate.metadata.labels from rfl,
      undefined] at found
    cases found
  · rintro ⟨-, key, value, found, undefined⟩
    rw [show (restarted _).spec.template.labels = discoveryTemplate.spec.template.labels
      from rfl, undefined] at found
    cases found
  · rintro ⟨single, -⟩
    revert single
    decide

/-- A label that another party has set alone is wiped. -/
theorem sole_label_wiped :
    (restarted [("team", "storage")]).creationTimestamp ≠ 0 ∧
      ¬ KeepsForeign (restarted [("team", "storage")]).metadata.labels
        discoveryTemplate.metadata.labels
        (mutateAggregatedSpec "" [] [] none discoveryTemplate
          (restarted [("team", "storage")])).metadata.labels := by
  refine ⟨by decide, fun keeps => ?_⟩
  have kept := keeps.foreign "team" (by decide)
  revert kept
  decide

end Discovery
