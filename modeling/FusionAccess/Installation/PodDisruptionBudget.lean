import FusionAccess.Kubernetes.Api

/-!
# The PodDisruptionBudget of the module build

Before the FusionAccess controller starts an update of Storage Scale, it
creates a PodDisruptionBudget that keeps node drains from terminating the pod
that builds the kernel module. Later passes delete the PodDisruptionBudget once
the build is over, or once it has grown too old.
-/

namespace Installation

open Kubernetes Interaction

/-! ## Objects -/

/-- `LabelSelectorOperator`. -/
inductive LabelSelectorOperator
  | isIn
  | notIn
  | exists
  | doesNotExist
  deriving DecidableEq

/-- `LabelSelectorRequirement`. -/
structure LabelSelectorRequirement where
  key : String
  operator : LabelSelectorOperator
  values : List String := []
  deriving DecidableEq

/-- `PodDisruptionBudgetSpec` with the fields that the operator sets. -/
structure PodDisruptionBudgetSpec where
  minAvailable : Option Nat := none
  matchExpressions : List LabelSelectorRequirement := []
  deriving DecidableEq

/-- `PodDisruptionBudget`. -/
structure PodDisruptionBudget where
  metadata : ObjectMeta
  creationTimestamp : Nat := 0
  spec : PodDisruptionBudgetSpec := {}
  deriving DecidableEq

/-- The key of a PodDisruptionBudget. -/
def PodDisruptionBudget.key (pdb : PodDisruptionBudget) : NamespacedName :=
  pdb.metadata.key

/-- `FusionAccess` with the version it asks for. -/
structure FusionAccess where
  metadata : ObjectMeta
  storageScaleVersion : String := ""
  deriving DecidableEq

/-- The key of a FusionAccess. -/
def FusionAccess.key (fusionaccess : FusionAccess) : NamespacedName :=
  fusionaccess.metadata.key

/-! ## The API server -/

/-- The calls of an update and of the management of the PodDisruptionBudget. -/
inductive UpdateRequest
  | getPodDisruptionBudget (key : NamespacedName)
  | createPodDisruptionBudget (pdb : PodDisruptionBudget)
  | updatePodDisruptionBudget (pdb : PodDisruptionBudget)
  | deletePodDisruptionBudget (key : NamespacedName)
  | listBuilds (ns : String)
  | updateFusionAccess (fusionaccess : FusionAccess)
  | now

/-- What a call yields when it succeeds; of a Build only its key is looked
at. -/
@[reducible] def UpdateRequest.Yield : UpdateRequest → Type
  | .getPodDisruptionBudget _ => PodDisruptionBudget
  | .listBuilds _ => List NamespacedName
  | .now => Nat
  | _ => Unit

/-- The clock is at hand. -/
def UpdateRequest.remote : UpdateRequest → Bool
  | .now => false
  | _ => true

/-- The API of the updates. -/
abbrev updateApi : Api where
  Request := UpdateRequest
  Yield := UpdateRequest.Yield
  remote := UpdateRequest.remote

/-- What is stored, and the clock, which counts whole seconds. -/
structure Site where
  fusionAccesses : List FusionAccess := []
  podDisruptionBudgets : List PodDisruptionBudget := []
  builds : List NamespacedName := []
  clock : Nat := 0
  revision : Nat := 0

namespace Site

/-- The stored PodDisruptionBudget with the given key. -/
def podDisruptionBudget? (site : Site) (key : NamespacedName) :
    Option PodDisruptionBudget :=
  Registry.find? PodDisruptionBudget.key key site.podDisruptionBudgets

/-- The stored FusionAccess with the given key. -/
def fusionAccess? (site : Site) (key : NamespacedName) : Option FusionAccess :=
  Registry.find? FusionAccess.key key site.fusionAccesses

/-- The Builds of a namespace. -/
def buildsIn (site : Site) (ns : String) : List NamespacedName :=
  site.builds.filter fun key => key.ns = ns

/-- A new PodDisruptionBudget as it is stored. -/
def created (site : Site) (pdb : PodDisruptionBudget) : PodDisruptionBudget :=
  { pdb with
    metadata := { pdb.metadata with
      uid := site.revision + 1, generation := 1
      resourceVersion := site.revision + 1 }
    creationTimestamp := site.clock }

/-- A stored PodDisruptionBudget after an update. What the API server has assigned
to it stays. -/
def updated (site : Site) (pdb stored : PodDisruptionBudget) : PodDisruptionBudget :=
  { stored with
    metadata := { stored.metadata with
      labels := pdb.metadata.labels
      annotations := pdb.metadata.annotations
      resourceVersion := site.revision + 1 }
    spec := pdb.spec }

/-- Store a new PodDisruptionBudget. -/
def createPodDisruptionBudget (site : Site) (pdb : PodDisruptionBudget) :
    Site × Except Failure Unit :=
  match site.podDisruptionBudget? pdb.key with
  | some _ => (site, .error
      (alreadyExists "poddisruptionbudgets.policy" pdb.metadata.name))
  | none =>
      ({ site with
        podDisruptionBudgets := site.podDisruptionBudgets ++ [site.created pdb]
        revision := site.revision + 1 }, .ok ())

/-- Replace a PodDisruptionBudget, unless the version is outdated. -/
def updatePodDisruptionBudget (site : Site) (pdb : PodDisruptionBudget) :
    Site × Except Failure Unit :=
  match site.podDisruptionBudget? pdb.key with
  | none => (site, .error (notFound "poddisruptionbudgets.policy" pdb.metadata.name))
  | some stored =>
      if stored.metadata.resourceVersion ≠ pdb.metadata.resourceVersion then
        (site, .error (outdated "poddisruptionbudgets.policy" pdb.metadata.name))
      else
        ({ site with
          podDisruptionBudgets := Registry.amend PodDisruptionBudget.key pdb.key
            (site.updated pdb) site.podDisruptionBudgets
          revision := site.revision + 1 }, .ok ())

/-- Delete a PodDisruptionBudget; it has no finalizers. -/
def deletePodDisruptionBudget (site : Site) (key : NamespacedName) :
    Site × Except Failure Unit :=
  match site.podDisruptionBudget? key with
  | none => (site, .error (notFound "poddisruptionbudgets.policy" key.name))
  | some _ =>
      ({ site with
        podDisruptionBudgets :=
          Registry.remove PodDisruptionBudget.key key site.podDisruptionBudgets
        revision := site.revision + 1 }, .ok ())

/-- Replace the spec of a FusionAccess, unless the version is outdated. -/
def updateFusionAccess (site : Site) (fusionaccess : FusionAccess) :
    Site × Except Failure Unit :=
  match site.fusionAccess? fusionaccess.key with
  | none => (site, .error (notFound "fusionaccesses.fusion.storage.openshift.io"
      fusionaccess.metadata.name))
  | some stored =>
      if stored.metadata.resourceVersion ≠ fusionaccess.metadata.resourceVersion then
        (site, .error (outdated "fusionaccesses.fusion.storage.openshift.io"
          fusionaccess.metadata.name))
      else
        ({ site with
          fusionAccesses := Registry.amend FusionAccess.key fusionaccess.key
            (fun stored => { stored with
              metadata := { stored.metadata with resourceVersion := site.revision + 1 }
              storageScaleVersion := fusionaccess.storageScaleVersion })
            site.fusionAccesses
          revision := site.revision + 1 }, .ok ())

/-- The answer to a call that nothing goes wrong with. -/
def answer (site : Site) :
    (request : UpdateRequest) → Site × Except Failure request.Yield
  | .getPodDisruptionBudget key =>
      (site, match site.podDisruptionBudget? key with
        | some pdb => .ok pdb
        | none => .error (notFound "poddisruptionbudgets.policy" key.name))
  | .createPodDisruptionBudget pdb => site.createPodDisruptionBudget pdb
  | .updatePodDisruptionBudget pdb => site.updatePodDisruptionBudget pdb
  | .deletePodDisruptionBudget key => site.deletePodDisruptionBudget key
  | .listBuilds ns => (site, .ok (site.buildsIn ns))
  | .updateFusionAccess fusionaccess => site.updateFusionAccess fusionaccess
  | .now => (site, .ok site.clock)

end Site

/-- The API server as the updates see it. -/
abbrev siteServer : Server updateApi.interface := @Api.server updateApi Site Site.answer

/-! ## The controller -/

/-- Programs of the controller that may fail. -/
abbrev Update : Type → Type := Fallible updateApi.interface Failure

/-- Issue one call. -/
abbrev call (request : UpdateRequest) : Update request.Yield :=
  updateApi.ask request

/-- `reconcile.Result`. -/
structure Result where
  requeue : Bool := false
  deriving DecidableEq

/-- `podDisruptionBudgetName`. -/
def podDisruptionBudgetName : String := "kmm-pdb"

/-- `podDisruptionDeleteLabel`. -/
def podDisruptionDeleteLabel : String := "fusion.storage.openshift.io/delete-me"

/-- `moduleBuildTimeLimit`, in minutes. -/
def moduleBuildTimeLimit : Nat := 30

/-- `time.Minute`. -/
def minute : Nat := 60

/-- The spec that `createPodDisruptionBudget` gives. -/
def podDisruptionBudgetSpec : PodDisruptionBudgetSpec where
  minAvailable := some 1
  matchExpressions := [{ key := "openshift.io/build.name", operator := .exists }]

/-- `createPodDisruptionBudget`: `CreateOrUpdate` with this spec. -/
def createPodDisruptionBudget (fusionaccess : FusionAccess) (name : String) :
    Update Unit := do
  let pdb : PodDisruptionBudget :=
    { metadata := { name, ns := fusionaccess.metadata.ns } }
  match ← (call (.getPodDisruptionBudget pdb.key)).attempt with
  | .error err =>
      if err.reason = .notFound then
        call (.createPodDisruptionBudget { pdb with spec := podDisruptionBudgetSpec })
      else throw err
  | .ok existing =>
      -- an object that the mutation leaves as it is, is not written
      if existing.spec = podDisruptionBudgetSpec then return ()
      else call (.updatePodDisruptionBudget
        { existing with spec := podDisruptionBudgetSpec })

/-- `deletePodDisruptionBudget`. -/
def deletePodDisruptionBudget (name ns : String) : Update Unit := do
  match ← (call (.deletePodDisruptionBudget ⟨ns, name⟩)).attempt with
  | .error err => if err.reason = .notFound then return () else throw err
  | .ok _ => return ()

/-- `haveBuilds`. -/
def haveBuilds (fusionaccess : FusionAccess) : Update Bool := do
  let buildList ← call (.listBuilds fusionaccess.metadata.ns)
  return !buildList.isEmpty

/-- `updateStorageScaleVersion`. -/
def updateStorageScaleVersion (fusionaccess : FusionAccess) (version : String) :
    Update Result := do
  createPodDisruptionBudget fusionaccess podDisruptionBudgetName
  call (.updateFusionAccess { fusionaccess with storageScaleVersion := version })
  return { requeue := true }

/-- The PodDisruptionBudget may go. -/
def PodDisruptionBudget.deleteMe (pdb : PodDisruptionBudget) : Bool :=
  (pdb.metadata.labels.get? podDisruptionDeleteLabel).isSome

/-- What `managePodDisruptionBudget` does while there are Builds. -/
def labelPodDisruptionBudget (pdb : PodDisruptionBudget) : Update (Option Result) :=
  if pdb.deleteMe then return none
  else do
    call (.updatePodDisruptionBudget { pdb with
      metadata := { pdb.metadata with
        labels := pdb.metadata.labels.set podDisruptionDeleteLabel "" } })
    return some {}

/-- The PodDisruptionBudget is marked, or older than the limit. -/
def isExpired (pdb : PodDisruptionBudget) : Update Bool :=
  if pdb.deleteMe then return true
  else do
    let now : Nat ← call .now
    return decide (pdb.creationTimestamp + moduleBuildTimeLimit * minute < now)

/-- What `managePodDisruptionBudget` does while there is no Build. -/
def expirePodDisruptionBudget (fusionaccess : FusionAccess) (pdb : PodDisruptionBudget) :
    Update (Option Result) := do
  let expired ← isExpired pdb
  if expired then
    deletePodDisruptionBudget podDisruptionBudgetName fusionaccess.metadata.ns
    return none
  else return none

/-- `managePodDisruptionBudget`. -/
def managePodDisruptionBudget (fusionaccess : FusionAccess) : Update (Option Result) := do
  match ← (call (.getPodDisruptionBudget
      ⟨fusionaccess.metadata.ns, podDisruptionBudgetName⟩)).attempt with
  | .error err => if err.reason = .notFound then return none else throw err
  | .ok pdb => do
      let haveBuilds ← haveBuilds fusionaccess
      if haveBuilds then labelPodDisruptionBudget pdb
      else expirePodDisruptionBudget fusionaccess pdb

end Installation
