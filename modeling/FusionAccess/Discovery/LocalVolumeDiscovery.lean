import FusionAccess.Discovery.DaemonSets
import FusionAccess.Discovery.Daemon
import FusionAccess.Kubernetes.Api

/-!
# The controller of the discovery

A LocalVolumeDiscovery asks for the discovery on the nodes that a selector matches.
Its controller applies the DaemonSet of the discovery daemons, reports in the status
how many of them are ready, and deletes the results of nodes that no longer take
part.
-/

namespace Discovery

open Kubernetes Interaction

/-! ## Objects -/

/-- `DiscoveryPhase`. -/
inductive DiscoveryPhase
  | unset
  | discovering
  | discoveryFailed
  deriving DecidableEq

/-- `LocalVolumeDiscovery`. -/
structure LocalVolumeDiscovery where
  metadata : ObjectMeta
  nodeSelector : Option NodeSelector := none
  tolerations : List Toleration := []
  phase : DiscoveryPhase := .unset
  conditions : List Condition := []
  observedGeneration : Nat := 0
  deriving DecidableEq

/-- The key of a LocalVolumeDiscovery. -/
def LocalVolumeDiscovery.key (lvd : LocalVolumeDiscovery) : NamespacedName :=
  lvd.metadata.key

/-- `OperatorStatusTypeAvailable`. -/
def availableType : ConditionType := .other "Available"

/-- `OperatorStatusTypeProgressing`. -/
def progressingType : ConditionType := .other "Progressing"

/-- `OperatorStatusTypeDegraded`. -/
def degradedType : ConditionType := .other "Degraded"

/-! ## The API server -/

/-- The calls of the controller. -/
inductive ControllerRequest
  | getLocalVolumeDiscovery (key : NamespacedName)
  | updateLocalVolumeDiscoveryStatus (lvd : LocalVolumeDiscovery)
  | getDaemonSet (key : NamespacedName)
  | createDaemonSet (ds : DaemonSet)
  | updateDaemonSet (ds : DaemonSet)
  | listDiscoveryResults (ns : String)
  | getNode (name : String)
  | deleteDiscoveryResult (key : NamespacedName)
  | now

/-- What a call yields when it succeeds; an update of a status yields the object with
its new version. -/
@[reducible] def ControllerRequest.Yield : ControllerRequest → Type
  | .getLocalVolumeDiscovery _ | .updateLocalVolumeDiscoveryStatus _ => LocalVolumeDiscovery
  | .getDaemonSet _ => DaemonSet
  | .listDiscoveryResults _ => List DiscoveryResult
  | .getNode _ => Node
  | .now => Nat
  | _ => Unit

/-- The clock is at hand. -/
def ControllerRequest.remote : ControllerRequest → Bool
  | .now => false
  | _ => true

/-- The API of the controller. -/
abbrev controllerApi : Api where
  Request := ControllerRequest
  Yield := ControllerRequest.Yield
  remote := ControllerRequest.remote

/-- What is stored, and the clock. -/
structure DiscoverySite where
  localVolumeDiscoveries : List LocalVolumeDiscovery := []
  daemonSets : List DaemonSet := []
  nodes : List Node := []
  results : List DiscoveryResult := []
  clock : Nat := 0
  revision : Nat := 0

namespace DiscoverySite

/-- The stored LocalVolumeDiscovery with the given key. -/
def localVolumeDiscovery? (site : DiscoverySite) (key : NamespacedName) :
    Option LocalVolumeDiscovery :=
  Registry.find? LocalVolumeDiscovery.key key site.localVolumeDiscoveries

/-- The stored DaemonSet with the given key. -/
def daemonSet? (site : DiscoverySite) (key : NamespacedName) : Option DaemonSet :=
  Registry.find? DaemonSet.key key site.daemonSets

/-- The node with the given name. -/
def node? (site : DiscoverySite) (name : String) : Option Node :=
  Registry.find? Node.name name site.nodes

/-- The stored discovery result with the given key. -/
def result? (site : DiscoverySite) (key : NamespacedName) : Option DiscoveryResult :=
  Registry.find? DiscoveryResult.key key site.results

/-- A LocalVolumeDiscovery as it is stored with another status. -/
def withStatus (site : DiscoverySite) (lvd stored : LocalVolumeDiscovery) :
    LocalVolumeDiscovery :=
  { stored with
    metadata := { stored.metadata with resourceVersion := site.revision + 1 }
    phase := lvd.phase
    conditions := lvd.conditions
    observedGeneration := lvd.observedGeneration }

/-- Replace the status of a LocalVolumeDiscovery, unless the version is outdated. -/
def updateStatus (site : DiscoverySite) (lvd : LocalVolumeDiscovery) :
    DiscoverySite × Except Failure LocalVolumeDiscovery :=
  let resource := "localvolumediscoveries.fusion.storage.openshift.io"
  match site.localVolumeDiscovery? lvd.key with
  | none => (site, .error (notFound resource lvd.metadata.name))
  | some stored =>
      if stored.metadata.resourceVersion ≠ lvd.metadata.resourceVersion then
        (site, .error (outdated resource lvd.metadata.name))
      else
        ({ site with
          localVolumeDiscoveries := Registry.amend LocalVolumeDiscovery.key lvd.key
            (site.withStatus lvd) site.localVolumeDiscoveries
          revision := site.revision + 1 }, .ok (site.withStatus lvd stored))

/-- Store a new DaemonSet, none of whose daemons runs yet. -/
def createDaemonSet (site : DiscoverySite) (ds : DaemonSet) :
    DiscoverySite × Except Failure Unit :=
  match site.daemonSet? ds.key with
  | some _ => (site, .error (alreadyExists "daemonsets.apps" ds.metadata.name))
  | none =>
      ({ site with
        daemonSets := site.daemonSets ++ [{ ds with
          metadata := { ds.metadata with
            uid := site.revision + 1, generation := 1
            resourceVersion := site.revision + 1 }
          creationTimestamp := site.clock
          desiredNumberScheduled := 0
          numberReady := 0 }]
        revision := site.revision + 1 }, .ok ())

/-- Replace a DaemonSet apart from its status, unless the version is outdated. -/
def updateDaemonSet (site : DiscoverySite) (ds : DaemonSet) :
    DiscoverySite × Except Failure Unit :=
  match site.daemonSet? ds.key with
  | none => (site, .error (notFound "daemonsets.apps" ds.metadata.name))
  | some stored =>
      if stored.metadata.resourceVersion ≠ ds.metadata.resourceVersion then
        (site, .error (outdated "daemonsets.apps" ds.metadata.name))
      else
        ({ site with
          daemonSets := Registry.amend DaemonSet.key ds.key (fun stored => { stored with
            metadata := { stored.metadata with
              labels := ds.metadata.labels
              annotations := ds.metadata.annotations
              ownerReferences := ds.metadata.ownerReferences
              resourceVersion := site.revision + 1 }
            spec := ds.spec }) site.daemonSets
          revision := site.revision + 1 }, .ok ())

/-- Delete a discovery result; it has no finalizers. -/
def deleteResult (site : DiscoverySite) (key : NamespacedName) :
    DiscoverySite × Except Failure Unit :=
  match site.result? key with
  | none => (site, .error (Store.missing key))
  | some _ =>
      ({ site with
        results := Registry.remove DiscoveryResult.key key site.results
        revision := site.revision + 1 }, .ok ())

/-- The answer to a call that nothing goes wrong with. -/
def answer (site : DiscoverySite) :
    (request : ControllerRequest) → DiscoverySite × Except Failure request.Yield
  | .getLocalVolumeDiscovery key =>
      (site, match site.localVolumeDiscovery? key with
        | some lvd => .ok lvd
        | none => .error (notFound
            "localvolumediscoveries.fusion.storage.openshift.io" key.name))
  | .updateLocalVolumeDiscoveryStatus lvd => site.updateStatus lvd
  | .getDaemonSet key =>
      (site, match site.daemonSet? key with
        | some ds => .ok ds
        | none => .error (notFound "daemonsets.apps" key.name))
  | .createDaemonSet ds => site.createDaemonSet ds
  | .updateDaemonSet ds => site.updateDaemonSet ds
  | .listDiscoveryResults ns =>
      (site, .ok (site.results.filter fun result => result.metadata.ns = ns))
  | .getNode name =>
      (site, match site.node? name with
        | some node => .ok node
        | none => .error (notFound "nodes" name))
  | .deleteDiscoveryResult key => site.deleteResult key
  | .now => (site, .ok site.clock)

end DiscoverySite

/-- The API server as the controller sees it. -/
abbrev controllerServer : Server controllerApi.interface :=
  @Api.server controllerApi DiscoverySite DiscoverySite.answer

/-! ## The DaemonSet -/

/-- Programs of the controller that may fail. -/
abbrev Control : Type → Type := Fallible controllerApi.interface Failure

/-- Issue one call. -/
abbrev command (request : ControllerRequest) : Control request.Yield :=
  controllerApi.ask request

/-- Continue with the result of a function. -/
def orFail {α : Type} : Except Failure α → Control α
  | .ok value => pure value
  | .error failure => throw failure

/-- `OperationResult`. -/
inductive OperationResult
  | unchanged
  | created
  | updated
  deriving DecidableEq

/-- The mutation must not change the key of the object. -/
def mutateDaemonSet (daemonSetMutateFn : DaemonSet → Except Failure DaemonSet)
    (ds : DaemonSet) (key : NamespacedName) : Except Failure DaemonSet := do
  let mutated ← daemonSetMutateFn ds
  if mutated.key ≠ key then
    throw (errorf "MutateFn cannot mutate object name and/or object namespace")
  else return mutated

/-- `CreateOrUpdateDaemonset`. -/
def createOrUpdateDaemonset (daemonSetMutateFn : DaemonSet → Except Failure DaemonSet) :
    Control (DaemonSet × OperationResult) := do
  let ds ← orFail (daemonSetMutateFn {})
  match ← (command (.getDaemonSet ds.key)).attempt with
  | .error err =>
      if err.reason = .notFound then do
        let mutated ← orFail (mutateDaemonSet daemonSetMutateFn ds ds.key)
        command (.createDaemonSet mutated)
        return (mutated, .created)
      else throw err
  | .ok existing => do
      let mutated ← orFail (mutateDaemonSet daemonSetMutateFn existing ds.key)
      -- an object that the mutation leaves as it is, is not written
      if mutated = existing then return (mutated, .unchanged)
      else do
        command (.updateDaemonSet mutated)
        return (mutated, .updated)

/-- A template whose pod has a container, as that of the file in the binary has. -/
structure DaemonSetTemplate extends DaemonSet where
  hasContainer : spec.template.spec.containers ≠ []

/-- What the process of the operator has at hand: the template of the DaemonSet for a
namespace, as it is read and decoded, and PRIORITY_CLASS_NAME. -/
structure OperatorEnvironment where
  dsTemplate : String → Except Failure DaemonSetTemplate
  priorityClassName : String := ""

/-- `getOwnerRefs`. -/
def getOwnerRefs (cr : LocalVolumeDiscovery) : List OwnerReference :=
  [{ apiVersion := "fusion.storage.openshift.io/v1alpha1"
     kind := "LocalVolumeDiscovery"
     name := cr.metadata.name
     uid := cr.metadata.uid }]

/-- `getEnvVars`. -/
def getEnvVars (cr : LocalVolumeDiscovery) : List EnvVar :=
  [{ name := "DISCOVERY_OBJECT_UID", value := toString cr.metadata.uid },
    { name := "DISCOVERY_OBJECT_NAME", value := cr.metadata.name }]

/-- Append variables to the first container; without one the source panics. -/
def appendEnv (envVars : List EnvVar) :
    (containers : List Container) → containers ≠ [] → List Container
  | [], nonempty => absurd rfl nonempty
  | first :: others, _ => { first with env := first.env ++ envVars } :: others

/-- `getDeviceFinderDiscoveryDSMutateFn`. -/
def getDeviceFinderDiscoveryDSMutateFn (env : OperatorEnvironment)
    (request : NamespacedName) (instance_ : LocalVolumeDiscovery) (ds : DaemonSet) :
    Except Failure DaemonSet := do
  let dsTemplate ← env.dsTemplate request.ns
  let ds := mutateAggregatedSpec env.priorityClassName instance_.tolerations
    (getOwnerRefs instance_) instance_.nodeSelector dsTemplate.toDaemonSet ds
  -- the containers are those of the template
  let pod := ds.spec.template.spec
  let containers := appendEnv (getEnvVars instance_) pod.containers dsTemplate.hasContainer
  return { ds with
    spec := { ds.spec with
      template := { ds.spec.template with spec := { pod with containers } } } }

/-! ## The status -/

/-- `reconcile.Result`; a delay is counted in seconds. -/
structure Result where
  requeue : Bool := false
  requeueAfter : Nat := 0
  deriving DecidableEq

/-- `waitForRequeueIfDaemonsNotReady`. -/
def waitForRequeueIfDaemonsNotReady : Result := ⟨true, 10⟩

/-- `DeviceFinderDiscovery`. -/
def deviceFinderDiscovery : String := "devicefinder-discovery"

/-- What a report says. -/
structure Report where
  conditionType : ConditionType
  message : String
  status : ConditionStatus
  phase : DiscoveryPhase

/-- The report about a DaemonSet that was not applied. -/
def applyFailed (err : Failure) : Report where
  conditionType := degradedType
  message := s!"failed to create discovery daemonset. Error {err.message}"
  status := .isFalse
  phase := .discoveryFailed

/-- The report about a DaemonSet without daemons. -/
def noDaemons : Report where
  conditionType := degradedType
  message := "no discovery daemons are scheduled for running"
  status := .isFalse
  phase := .discoveryFailed

/-- The report while daemons are not ready. -/
def someDaemons (readyDaemons desiredDaemons : Nat) : Report where
  conditionType := progressingType
  message := s!"running {readyDaemons} out of {desiredDaemons} discovery daemons"
  status := .isFalse
  phase := .discovering

/-- The report when all daemons are ready. -/
def allDaemons (desiredDaemons readyDaemons : Nat) : Report where
  conditionType := availableType
  message := s!"successfully running {desiredDaemons} out of {readyDaemons} discovery daemons"
  status := .isTrue
  phase := .discovering

/-- The condition of a report. -/
def Report.condition (report : Report) (now : Nat) : Condition where
  type := report.conditionType
  status := report.status
  reason := .other "DiscoveryUpdate"
  message := report.message
  lastTransitionTime := now

/-- The first condition has the message of the report. -/
def LocalVolumeDiscovery.shows (lvd : LocalVolumeDiscovery) (report : Report) : Bool :=
  lvd.conditions.head?.any fun condition => condition.message = report.message

/-- A LocalVolumeDiscovery with the status of a report. -/
def LocalVolumeDiscovery.reporting
    (lvd : LocalVolumeDiscovery) (report : Report) (now : Nat) : LocalVolumeDiscovery :=
  { lvd with
    conditions := [report.condition now]
    phase := report.phase
    observedGeneration := lvd.metadata.generation }

/-- `updateDiscoveryStatus`; a status with the same message is not written again. -/
def updateDiscoveryStatus (lvd : LocalVolumeDiscovery) (report : Report) :
    Control LocalVolumeDiscovery :=
  if lvd.shows report then return lvd
  else do
    let now : Nat ← command .now
    command (.updateLocalVolumeDiscoveryStatus (lvd.reporting report now))

/-- `getDaemonSetStatus`. -/
def getDaemonSetStatus (ns : String) : Control (Nat × Nat) := do
  let existingDS : DaemonSet ← command (.getDaemonSet ⟨ns, deviceFinderDiscovery⟩)
  return (existingDS.desiredNumberScheduled, existingDS.numberReady)

/-! ## Orphan results -/

/-- The error about a selector that cannot be evaluated. -/
def selectorFailure (errs : List FieldError) : Failure :=
  errorf (String.intercalate ", " (errs.map fun err => err.field ++ ": " ++ err.detail))

/-- The loop of `deleteOrphanDiscoveryResults`. -/
def deleteOrphans (nodeSelector : NodeSelector) : List DiscoveryResult → Control Unit
  | [] => return ()
  | item :: items => do
      let node : Node ← (command (.getNode item.nodeName)).mapError fun _ =>
        errorf s!"failed to get instance of node \"{item.nodeName}\""
      let isMatch ← orFail ((matchNodeSelectorTerms node nodeSelector).mapError
        selectorFailure)
      if !isMatch then
        (command (.deleteDiscoveryResult item.key)).mapError fun _ =>
          errorf (s!"failed to delete orphan discovery result \"{item.metadata.name}\" " ++
            s!"in node \"{item.nodeName}\"")
      deleteOrphans nodeSelector items

/-- `deleteOrphanDiscoveryResults`. -/
def deleteOrphanDiscoveryResults (lvd : LocalVolumeDiscovery) : Control Unit :=
  match lvd.nodeSelector with
  | none => return ()
  | some nodeSelector =>
      if nodeSelector.nodeSelectorTerms = [] then return ()
      else do
        let items ← (command (.listDiscoveryResults lvd.metadata.ns)).mapError fun _ =>
          errorf ("failed to list LocalVolumeDiscoveryResult instances in namespace " ++
            s!"\"{lvd.metadata.ns}\"")
        deleteOrphans nodeSelector items

/-! ## Reconciling -/

/-- `Reconcile` from where it looks at the daemons. -/
def reportDaemons (lvd : LocalVolumeDiscovery) : Control Result := do
  let (desiredDaemons, readyDaemons) ← getDaemonSetStatus lvd.metadata.ns
  if desiredDaemons = 0 then do
    let _ ← updateDiscoveryStatus lvd noDaemons
    return waitForRequeueIfDaemonsNotReady
  else if desiredDaemons ≠ readyDaemons then do
    let _ ← updateDiscoveryStatus lvd (someDaemons readyDaemons desiredDaemons)
    return waitForRequeueIfDaemonsNotReady
  else do
    let lvd ← updateDiscoveryStatus lvd (allDaemons desiredDaemons readyDaemons)
    deleteOrphanDiscoveryResults lvd
    return {}

/-- `Reconcile` once it has applied the DaemonSet. -/
def afterApply (lvd : LocalVolumeDiscovery) :
    Except Failure (DaemonSet × OperationResult) → Control Result
  | .error err => do
      -- the error is reported, but the pass goes on
      let lvd ← updateDiscoveryStatus lvd (applyFailed err)
      reportDaemons lvd
  | .ok _ => reportDaemons lvd

/-- `Reconcile`. -/
def reconcile (env : OperatorEnvironment) (request : NamespacedName) : Control Result := do
  match ← (command (.getLocalVolumeDiscovery request)).attempt with
  | .error err => if err.reason = .notFound then return {} else throw err
  | .ok lvd => do
      let applied ← (createOrUpdateDaemonset
        (getDeviceFinderDiscoveryDSMutateFn env request lvd)).attempt
      afterApply lvd applied

end Discovery
