import FusionAccess.Discovery.BlockDevices
import FusionAccess.Interaction.Contract

/-!
# The discovery daemon

One daemon runs on each node. It probes the block devices, remembers the last
list of discovered devices, and writes a list that differs from it to the
LocalVolumeDiscoveryResult of its node.
-/

namespace Discovery

open Kubernetes Interaction

/-! ## The node and the API server -/

/-- `LocalVolumeDiscoveryResult` with the fields that the daemon writes. -/
structure DiscoveryResult where
  metadata : ObjectMeta
  nodeName : String := ""
  discoveredTimeStamp : String := ""
  discoveredDevices : List DiscoveredDevice := []
  deriving DecidableEq

/-- The key of a discovery result. -/
def DiscoveryResult.key (result : DiscoveryResult) : NamespacedName :=
  result.metadata.key

/-- Whether an event is a warning. -/
inductive EventType
  | normal
  | warning
  deriving DecidableEq

/-- Reasons of the events of the discovery. -/
inductive EventReason
  | errorCreatingDiscoveryResultObject
  | errorUpdatingDiscoveryResultObject
  | errorListingBlockDevices
  | createdDiscoveryResultObject
  | updatedDiscoveredDeviceList
  deriving DecidableEq

/-- `DiskEvent`. -/
structure DiskEvent where
  eventType : EventType
  eventReason : EventReason
  disk : String := ""
  message : String
  deriving DecidableEq

/-- The calls of the daemon. -/
inductive Request
  | getBlockDevices
  | getDiscoveryResult (key : NamespacedName)
  | createDiscoveryResult (result : DiscoveryResult)
  | updateDiscoveryResultStatus (result : DiscoveryResult)
  | recordEvent (event : DiskEvent)
  | now

/-- What a call of the daemon yields when it succeeds. -/
@[reducible] def Request.Yield : Request → Type
  | .getBlockDevices => List BlockDevice
  | .getDiscoveryResult _ => DiscoveryResult
  | .now => Nat
  | _ => Unit

/-- The interface of the daemon. -/
abbrev daemon : Interface where
  Call := Request
  Reply := fun request => Except Failure request.Yield

/-- The discovery results that are stored, and the clock. -/
structure Store where
  results : List DiscoveryResult := []
  clock : Nat := 0
  revision : Nat := 0

namespace Store

/-- The stored result with the given key. -/
def result? (store : Store) (key : NamespacedName) : Option DiscoveryResult :=
  Registry.find? DiscoveryResult.key key store.results

/-- The answer about a result that is not stored. -/
def missing (key : NamespacedName) : Failure :=
  notFound "localvolumediscoveryresults.fusion.storage.openshift.io" key.name

/-- Store a new result; its status is not part of the creation. -/
def create (store : Store) (result : DiscoveryResult) :
    Store × Except Failure Unit :=
  match store.result? result.key with
  | some _ => (store, .error (alreadyExists
      "localvolumediscoveryresults.fusion.storage.openshift.io" result.metadata.name))
  | none =>
      let created : DiscoveryResult :=
        { metadata := { result.metadata with
            uid := store.revision + 1, generation := 1
            resourceVersion := store.revision + 1 }
          nodeName := result.nodeName }
      ({ store with
        results := store.results ++ [created], revision := store.revision + 1 },
        .ok ())

/-- Replace the status of a result, unless the version is outdated. -/
def updateStatus (store : Store) (result : DiscoveryResult) :
    Store × Except Failure Unit :=
  match store.result? result.key with
  | none => (store, .error (missing result.key))
  | some stored =>
      if stored.metadata.resourceVersion ≠ result.metadata.resourceVersion then
        (store, .error (outdated
          "localvolumediscoveryresults.fusion.storage.openshift.io" result.metadata.name))
      else
        ({ store with
          results := Registry.amend DiscoveryResult.key result.key
            (fun stored => { stored with
              metadata := { stored.metadata with
                resourceVersion := store.revision + 1 }
              discoveredTimeStamp := result.discoveredTimeStamp
              discoveredDevices := result.discoveredDevices })
            store.results
          revision := store.revision + 1 }, .ok ())

/-- The answer to a call that nothing goes wrong with; the block devices are
not the store's. -/
def answer (lsblk : Except Failure (List BlockDevice)) (store : Store) :
    (request : Request) → Store × Except Failure request.Yield
  | .getBlockDevices => (store, lsblk)
  | .getDiscoveryResult key =>
      (store, match store.result? key with
        | some result => .ok result
        | none => .error (missing key))
  | .createDiscoveryResult result => store.create result
  | .updateDiscoveryResultStatus result => store.updateStatus result
  | .recordEvent _ => (store, .ok ())
  | .now => (store, .ok store.clock)

end Store

/-- The call goes to the API server and its outcome matters. -/
def Request.remote : Request → Bool
  | .getDiscoveryResult _ | .createDiscoveryResult _
  | .updateDiscoveryResultStatus _ => true
  | _ => false

/-- What the environment decides about one call: a fault, and what `lsblk`
prints. -/
structure ProbeChoice where
  fault : Fault := .none
  lsblk : Except Failure (List BlockDevice) := .ok []

/-- The node and the API server under an environment that may let calls
fail. -/
abbrev nodeServer : Server daemon where
  State := Store
  Choice := ProbeChoice
  serve := fun choice store request =>
    if request.remote then
      match choice.fault with
      | .none => store.answer choice.lsblk request
      | .refused refusal message => (store, .error (refusal.failure message))
      | .lost message =>
          ((store.answer choice.lsblk request).1, .error (errorf message))
    else store.answer choice.lsblk request

/-! ## The daemon -/

/-- The process environment of the daemon: a variable that is not set is
empty. The hash shortens the names of nodes. -/
structure Environment where
  myNodeName : String := ""
  watchNamespace : String := ""
  discoveryObjectUID : Option Nat := none
  discoveryObjectName : String := ""
  hash : String → String := id

/-- `resultCRName`. -/
def resultCRName (nodeName : String) : String := s!"discovery-result-{nodeName}"

/-- `DNS1123SubdomainMaxLength`. -/
def dns1123SubdomainMaxLength : Nat := 253

/-- `truncateNodeName`. -/
def truncateNodeName
    (hash : String → String) (format : String → String) (nodeName : String) :
    String :=
  if nodeName.utf8ByteSize + (format "").utf8ByteSize > dns1123SubdomainMaxLength then
    format (hash nodeName)
  else format nodeName

/-- The key of the result of the daemon's node. -/
def Environment.resultKey (env : Environment) : NamespacedName :=
  ⟨env.watchNamespace, truncateNodeName env.hash resultCRName env.myNodeName⟩

/-- `DeviceDiscovery`: the devices of the last probe, and the events that have
been reported. -/
structure DeviceDiscovery where
  disks : List DiscoveredDevice := []
  reportedEvents : List (EventReason × EventType × String) := []
  deriving DecidableEq

/-- `newDiscoveryResultInstance`. -/
def newDiscoveryResultInstance (env : Environment) : DiscoveryResult where
  metadata := {
    name := truncateNodeName env.hash resultCRName env.myNodeName
    ns := env.watchNamespace
    labels := [("discovery-result-node", env.myNodeName)]
    ownerReferences := [{
      apiVersion := "fusion.storage.openshift.io/v1alpha1"
      kind := "LocalVolumeDiscovery"
      name := env.discoveryObjectName
      uid := env.discoveryObjectUID.getD 0 }] }
  nodeName := env.myNodeName

/-- Issue one call. -/
def ask (request : Request) : Fallible daemon Failure request.Yield :=
  ExceptT.mk (Program.issue (I := daemon) request)

/-- `Report`: an event is recorded once for each reason. -/
def report (discovery : DeviceDiscovery) (event : DiskEvent) :
    Program daemon DeviceDiscovery :=
  let eventKey := (event.eventReason, event.eventType, event.disk)
  if eventKey ∈ discovery.reportedEvents then return discovery
  else do
    let _ ← (ask (.recordEvent event)).run
    return { discovery with
      reportedEvents := eventKey :: discovery.reportedEvents }

/-- `ensureDiscoveryResultCR`. -/
def ensureDiscoveryResultCR (env : Environment) (discovery : DeviceDiscovery) :
    Program daemon (DeviceDiscovery × Option Failure) :=
  if env.myNodeName = "" || env.watchNamespace = "" ||
      env.discoveryObjectUID.isNone || env.discoveryObjectName = "" then
    return (discovery, some (errorf ("failed to create LocalVolumeDiscoveryResult " ++
      "resource. missing required env variables")))
  else do
    let newCR := newDiscoveryResultInstance env
    match ← (ask (.getDiscoveryResult newCR.key)).run with
    | .ok _ => return (discovery, none)
    | .error err =>
        if err.reason = .notFound then do
          match ← (ask (.createDiscoveryResult newCR)).run with
          | .error err => return (discovery,
              some (err.wrap "failed to create LocalVolumeDiscoveryResult resource: "))
          | .ok _ => do
              let discovery ← report discovery {
                eventType := .normal
                eventReason := .createdDiscoveryResultObject
                message := "successfully created LocalVolumeDiscoveryResult resource" }
              return (discovery, none)
        else return (discovery, some err)

/-- A result with the devices in memory and the time of the update. -/
def withDevices
    (discovery : DeviceDiscovery) (now : Nat) (resultCR : DiscoveryResult) :
    DiscoveryResult :=
  { resultCR with
    discoveredDevices := discovery.disks
    discoveredTimeStamp := formatRFC3339 now }

/-- `updateStatus`: write the devices in memory to the result; a result that
is missing is left alone. -/
def updateStatus (env : Environment) (discovery : DeviceDiscovery) :
    Fallible daemon Failure Unit := do
  match ← (ask (.getDiscoveryResult env.resultKey)).attempt with
  | .error err =>
      if err.reason = .notFound then return ()
      else throw (err.wrap ("failed to retrieve LocalVolumeDiscoveryResult " ++
        "resource to update status: "))
  | .ok resultCR => do
      let now ← ask .now
      (ask (.updateDiscoveryResultStatus
          (withDevices discovery now resultCR))).mapError
        (Failure.wrap ("failed to update the device status in the " ++
          "LocalVolumeDiscoveryResult resource: "))

/-- The end of `discoverDevices`: a list that differs from the one in memory
replaces it and is then written. -/
def recordDevices
    (env : Environment) (discovery : DeviceDiscovery)
    (discoveredDisks : List DiscoveredDevice) :
    Program daemon (DeviceDiscovery × Option Failure) :=
  if discovery.disks ≠ discoveredDisks then do
    let discovery := { discovery with disks := discoveredDisks }
    match ← (updateStatus env discovery).run with
    | .error err => do
        let message := "failed to update LocalVolumeDiscoveryResult status"
        let discovery ← report discovery {
          eventType := .warning
          eventReason := .errorUpdatingDiscoveryResultObject
          message := s!"{message}. Error: {err.message}" }
        return (discovery, some (err.wrap s!"{message}: "))
    | .ok _ => do
        let discovery ← report discovery {
          eventType := .normal
          eventReason := .updatedDiscoveredDeviceList
          message := "successfully updated discovered device details in the " ++
            "LocalVolumeDiscoveryResult resource" }
        return (discovery, none)
  else return (discovery, none)

/-- `discoverDevices` once it has asked for the block devices. -/
def handleBlockDevices (env : Environment) (discovery : DeviceDiscovery) :
    Except Failure (List BlockDevice) →
      Program daemon (DeviceDiscovery × Option Failure)
  | .error err => do
      let discovery ← report discovery {
        eventType := .warning
        eventReason := .errorListingBlockDevices
        message := s!"failed to discover devices. Error: {err.message}" }
      return (discovery, some (err.wrap "failed to discover devices: "))
  | .ok validDevices =>
      recordDevices env discovery (getDiscoverdDevices validDevices)

/-- `discoverDevices`. -/
def discoverDevices (env : Environment) (discovery : DeviceDiscovery) :
    Program daemon (DeviceDiscovery × Option Failure) := do
  let validDevices ← Program.issue (I := daemon) .getBlockDevices
  handleBlockDevices env discovery validDevices

end Discovery
