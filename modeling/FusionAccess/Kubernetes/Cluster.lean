import FusionAccess.Interaction.Run
import FusionAccess.Kubernetes.Objects

/-!
# The API server

The cluster state, the calls a client issues and how the API server answers
them. The environment decides about every call: it may refuse it, or carry it
out and lose the reply. A refusal never claims that an object is missing or
that it exists already; the server says so only when it is the case.
-/

namespace Kubernetes

open Interaction

/-- What `errors.Is...` can tell about an error. -/
inductive FailureReason
  | notFound
  | alreadyExists
  | conflict
  | noKindMatch
  | unspecified
  deriving DecidableEq

/-- An error value: its reason and its text. -/
structure Failure where
  reason : FailureReason
  message : String
  deriving DecidableEq

/-- `fmt.Errorf` without a wrapped error. -/
def errorf (message : String) : Failure := ⟨.unspecified, message⟩

/-- `fmt.Errorf` with a wrapped error at the end of the text. -/
def Failure.wrap (message : String) (failure : Failure) : Failure :=
  { failure with message := message ++ failure.message }

/-- The answer to a call about an object that is not stored. -/
def notFound (resource name : String) : Failure :=
  ⟨.notFound, s!"{resource} \"{name}\" not found"⟩

/-- The answer to the creation of an object that is stored already. -/
def alreadyExists (resource name : String) : Failure :=
  ⟨.alreadyExists, s!"{resource} \"{name}\" already exists"⟩

/-- The answer to an update of an outdated version. -/
def outdated (resource name : String) : Failure :=
  ⟨.conflict, s!"Operation cannot be fulfilled on {resource} \"{name}\""⟩

/-- Why a call is refused. -/
inductive Refusal
  | conflict
  | noKindMatch
  | unspecified
  deriving DecidableEq

/-- The error a refused call ends in. -/
def Refusal.failure (message : String) : Refusal → Failure
  | .conflict => ⟨.conflict, message⟩
  | .noKindMatch => ⟨.noKindMatch, message⟩
  | .unspecified => ⟨.unspecified, message⟩

/-- What goes wrong with a call: nothing, it is refused, or it is carried out
and the reply is lost. -/
inductive Fault
  | none
  | refused (refusal : Refusal) (message : String)
  | lost (message : String)
  deriving DecidableEq

/-- What the environment decides about one call: a fault, and the random
number it draws. -/
structure Choice where
  fault : Fault := .none
  pick : Nat := 0

instance : Inhabited Choice := ⟨{}⟩

/-- What is stored in the cluster, the environment of the operator's process
and the clock. -/
structure Cluster where
  claims : List FileSystemClaim := []
  localDisks : List Unstructured := []
  filesystems : List Unstructured := []
  storageClasses : List StorageClass := []
  persistentVolumes : List PersistentVolume := []
  nodes : List Node := []
  discoveryResults : List LocalVolumeDiscoveryResult := []
  /-- The variable `DEPLOYMENT_NAMESPACE`, if it is set. -/
  deploymentNamespace : Option String := none
  clock : Nat := 0
  /-- The number of writes so far; it numbers versions and identities. -/
  revision : Nat := 0

/-- The calls of the operator. -/
inductive Call
  | getClaim (key : NamespacedName)
  | createClaim (claim : FileSystemClaim)
  | patchClaimFinalizers (key : NamespacedName) (original modified : List String)
  | patchClaimStatus (key : NamespacedName) (original modified : List Condition)
  | updateClaimStatus (claim : FileSystemClaim)
  | list (kind : Kind) (ns : String)
  | get (kind : Kind) (key : NamespacedName)
  | create (kind : Kind) (object : Unstructured)
  | update (kind : Kind) (object : Unstructured)
  | patchSpec (kind : Kind) (key : NamespacedName) (spec : Value)
  | delete (kind : Kind) (key : NamespacedName)
  | getStorageClass (name : String)
  | createStorageClass (storageClass : StorageClass)
  | patchStorageClass (storageClass : StorageClass)
  | updateStorageClass (storageClass : StorageClass)
  | deleteStorageClass (name : String)
  | listPersistentVolumes
  | listNodes
  | getDiscoveryResult (key : NamespacedName)
  | createEvent (involved : NamespacedName) (message : String)
  | lookupDeploymentNamespace
  | now
  | randomIndex (bound : Nat)

/-- What a call yields when it succeeds. -/
@[reducible] def Call.Yield : Call → Type
  | .getClaim _ => FileSystemClaim
  | .createClaim _ => FileSystemClaim
  | .list _ _ => List Unstructured
  | .get _ _ => Unstructured
  | .getStorageClass _ => StorageClass
  | .listPersistentVolumes => List PersistentVolume
  | .listNodes => List Node
  | .getDiscoveryResult _ => LocalVolumeDiscoveryResult
  | .lookupDeploymentNamespace => Option String
  | .now => Nat
  | .randomIndex _ => Nat
  | _ => Unit

/-- The calls that leave the process; the clock and the process environment
are at hand. -/
def Call.remote : Call → Bool
  | .lookupDeploymentNamespace => false
  | .now => false
  | _ => true

/-- The interface of the cluster. -/
abbrev kubernetes : Interface where
  Call := Call
  Reply := fun call => Except Failure call.Yield

namespace Cluster

/-- The stored claim with the given key. -/
def claim? (cluster : Cluster) (key : NamespacedName) : Option FileSystemClaim :=
  Registry.find? FileSystemClaim.key key cluster.claims

/-- The stored objects of a kind. -/
def objects (cluster : Cluster) : Kind → List Unstructured
  | .localDisk => cluster.localDisks
  | .filesystem => cluster.filesystems

/-- Replace the stored objects of a kind. -/
def withObjects
    (cluster : Cluster) (kind : Kind) (objects : List Unstructured) : Cluster :=
  match kind with
  | .localDisk => { cluster with localDisks := objects }
  | .filesystem => { cluster with filesystems := objects }

/-- The stored object of a kind with the given key. -/
def object?
    (cluster : Cluster) (kind : Kind) (key : NamespacedName) :
    Option Unstructured :=
  Registry.find? Unstructured.key key (cluster.objects kind)

/-- The stored StorageClass with the given name. -/
def storageClass? (cluster : Cluster) (name : String) : Option StorageClass :=
  Registry.find? StorageClass.name name cluster.storageClasses

/-- Count one write. -/
def written (cluster : Cluster) : Cluster :=
  { cluster with revision := cluster.revision + 1 }

/-- Metadata as stored by the next write. -/
def stamp (cluster : Cluster) (metadata : ObjectMeta) : ObjectMeta :=
  { metadata with resourceVersion := cluster.revision + 1 }

/-- Metadata of an object created by the next write. -/
def identify (cluster : Cluster) (metadata : ObjectMeta) : ObjectMeta :=
  { metadata with
    uid := cluster.revision + 1
    generation := 1
    resourceVersion := cluster.revision + 1
    deletionTimestamp := none }

/-- Metadata of an object whose deletion waits for its finalizers. -/
def terminate (cluster : Cluster) (metadata : ObjectMeta) : ObjectMeta :=
  { cluster.stamp metadata with
    deletionTimestamp := metadata.deletionTimestamp.or (some cluster.clock) }

/-- Store a new claim; its status is not part of the creation. -/
def createClaim (cluster : Cluster) (claim : FileSystemClaim) :
    Cluster × Except Failure FileSystemClaim :=
  match cluster.claim? claim.key with
  | some _ => (cluster, .error
      (alreadyExists "filesystemclaims.fusion.storage.openshift.io" claim.metadata.name))
  | none =>
      let created : FileSystemClaim :=
        { claim with metadata := cluster.identify claim.metadata, conditions := [] }
      ({ cluster.written with claims := cluster.claims ++ [created] }, .ok created)

/-- Store finalizers of a claim. A claim that is being deleted disappears with
its last finalizer. -/
def setFinalizers
    (cluster : Cluster) (key : NamespacedName) (finalizers : List String) :
    Cluster :=
  match cluster.claim? key with
  | none => cluster
  | some claim =>
      if claim.metadata.deletionTimestamp.isSome && finalizers.isEmpty then
        { cluster.written with
          claims := Registry.remove FileSystemClaim.key key cluster.claims }
      else
        { cluster.written with
          claims := Registry.amend FileSystemClaim.key key
            (fun stored => { stored with
              metadata := { cluster.stamp stored.metadata with
                finalizers := finalizers } })
            cluster.claims }

/-- Delete a claim, as its users do; one with finalizers stays until they are
gone. -/
def deleteClaim (cluster : Cluster) (key : NamespacedName) : Cluster :=
  match cluster.claim? key with
  | none => cluster
  | some claim =>
      if claim.metadata.finalizers = [] then
        { cluster.written with
          claims := Registry.remove FileSystemClaim.key key cluster.claims }
      else
        { cluster.written with
          claims := Registry.amend FileSystemClaim.key key
            (fun stored => { stored with
              metadata := cluster.terminate stored.metadata })
            cluster.claims }

/-- Replace the devices of a claim, as its users do. -/
def updateDevices
    (cluster : Cluster) (key : NamespacedName) (devices : List String) : Cluster :=
  { cluster.written with
    claims := Registry.amend FileSystemClaim.key key
      (fun stored => { stored with
        metadata := { cluster.stamp stored.metadata with
          generation :=
            if stored.devices = devices then stored.metadata.generation
            else stored.metadata.generation + 1 }
        devices := devices })
      cluster.claims }

/-- The storage product reports on a LocalDisk: its conditions, and the
filesystem that uses it. -/
def reportLocalDisk
    (cluster : Cluster) (key : NamespacedName)
    (conditions : List Condition) (filesystem : String) : Cluster :=
  { cluster.written with
    localDisks := Registry.amend Unstructured.key key
      (fun stored => { stored with
        metadata := cluster.stamp stored.metadata
        conditions := some conditions, filesystem := filesystem })
      cluster.localDisks }

/-- Store conditions of a claim. -/
def setConditions
    (cluster : Cluster) (key : NamespacedName) (conditions : List Condition) :
    Cluster :=
  { cluster.written with
    claims := Registry.amend FileSystemClaim.key key
      (fun stored => { stored with
        metadata := cluster.stamp stored.metadata, conditions := conditions })
      cluster.claims }

/-- Apply the merge patch between two versions of a claim's finalizers. -/
def patchClaimFinalizers
    (cluster : Cluster) (key : NamespacedName) (original modified : List String) :
    Cluster × Except Failure Unit :=
  match cluster.claim? key with
  | none => (cluster, .error
      (notFound "filesystemclaims.fusion.storage.openshift.io" key.name))
  | some _ =>
      if original = modified then (cluster, .ok ())
      else (cluster.setFinalizers key modified, .ok ())

/-- Apply the merge patch between two versions of a claim's conditions: equal
versions give an empty patch, and an array is replaced whole. -/
def patchClaimStatus
    (cluster : Cluster) (key : NamespacedName)
    (original modified : List Condition) :
    Cluster × Except Failure Unit :=
  match cluster.claim? key with
  | none => (cluster, .error
      (notFound "filesystemclaims.fusion.storage.openshift.io" key.name))
  | some _ =>
      if original = modified then (cluster, .ok ())
      else (cluster.setConditions key modified, .ok ())

/-- Replace the status of a claim, unless the version is outdated. -/
def updateClaimStatus (cluster : Cluster) (claim : FileSystemClaim) :
    Cluster × Except Failure Unit :=
  match cluster.claim? claim.key with
  | none => (cluster, .error
      (notFound "filesystemclaims.fusion.storage.openshift.io" claim.metadata.name))
  | some stored =>
      if stored.metadata.resourceVersion ≠ claim.metadata.resourceVersion then
        (cluster, .error
          (outdated "filesystemclaims.fusion.storage.openshift.io" claim.metadata.name))
      else if stored.conditions = claim.conditions then (cluster, .ok ())
      else (cluster.setConditions claim.key claim.conditions, .ok ())

/-- Store a new object. -/
def create (cluster : Cluster) (kind : Kind) (object : Unstructured) :
    Cluster × Except Failure Unit :=
  match cluster.object? kind object.key with
  | some _ => (cluster, .error (alreadyExists kind.resource object.metadata.name))
  | none =>
      let created : Unstructured :=
        { metadata := cluster.identify object.metadata, spec := object.spec }
      (cluster.written.withObjects kind (cluster.objects kind ++ [created]), .ok ())

/-- Replace metadata and spec of an object, unless the version is outdated. -/
def update (cluster : Cluster) (kind : Kind) (object : Unstructured) :
    Cluster × Except Failure Unit :=
  match cluster.object? kind object.key with
  | none => (cluster, .error (notFound kind.resource object.metadata.name))
  | some stored =>
      if stored.metadata.resourceVersion ≠ object.metadata.resourceVersion then
        (cluster, .error (outdated kind.resource object.metadata.name))
      else
        (cluster.written.withObjects kind
          (Registry.amend Unstructured.key object.key
            (fun stored => { stored with
              metadata := cluster.stamp object.metadata, spec := object.spec })
            (cluster.objects kind)), .ok ())

/-- Apply the merge patch that turns the spec of an object as it was read into
the given one. -/
def patchSpec
    (cluster : Cluster) (kind : Kind) (key : NamespacedName) (spec : Value) :
    Cluster × Except Failure Unit :=
  match cluster.object? kind key with
  | none => (cluster, .error (notFound kind.resource key.name))
  | some _ =>
      (cluster.written.withObjects kind
        (Registry.amend Unstructured.key key
          (fun stored => { stored with
            metadata := cluster.stamp stored.metadata, spec := some spec })
          (cluster.objects kind)), .ok ())

/-- Delete an object; one with finalizers stays until they are gone. -/
def delete (cluster : Cluster) (kind : Kind) (key : NamespacedName) :
    Cluster × Except Failure Unit :=
  match cluster.object? kind key with
  | none => (cluster, .error (notFound kind.resource key.name))
  | some object =>
      if object.metadata.finalizers = [] then
        (cluster.written.withObjects kind
          (Registry.remove Unstructured.key key (cluster.objects kind)), .ok ())
      else
        (cluster.written.withObjects kind
          (Registry.amend Unstructured.key key
            (fun stored => { stored with
              metadata := cluster.terminate stored.metadata })
            (cluster.objects kind)), .ok ())

/-- Store a new StorageClass. -/
def createStorageClass (cluster : Cluster) (storageClass : StorageClass) :
    Cluster × Except Failure Unit :=
  match cluster.storageClass? storageClass.name with
  | some _ => (cluster, .error
      (alreadyExists "storageclasses.storage.k8s.io" storageClass.name))
  | none =>
      ({ cluster.written with
        storageClasses := cluster.storageClasses ++
          [{ storageClass with
            metadata := cluster.identify storageClass.metadata }] }, .ok ())

/-- Apply the merge patch that turns a StorageClass as it was read into the
given one. -/
def patchStorageClass (cluster : Cluster) (storageClass : StorageClass) :
    Cluster × Except Failure Unit :=
  match cluster.storageClass? storageClass.name with
  | none => (cluster, .error
      (notFound "storageclasses.storage.k8s.io" storageClass.name))
  | some _ =>
      ({ cluster.written with
        storageClasses := Registry.amend StorageClass.name storageClass.name
          (fun _ => { storageClass with
            metadata := cluster.stamp storageClass.metadata })
          cluster.storageClasses }, .ok ())

/-- Replace a StorageClass, unless the version is outdated. -/
def updateStorageClass (cluster : Cluster) (storageClass : StorageClass) :
    Cluster × Except Failure Unit :=
  match cluster.storageClass? storageClass.name with
  | none => (cluster, .error
      (notFound "storageclasses.storage.k8s.io" storageClass.name))
  | some stored =>
      if stored.metadata.resourceVersion ≠ storageClass.metadata.resourceVersion then
        (cluster, .error
          (outdated "storageclasses.storage.k8s.io" storageClass.name))
      else cluster.patchStorageClass storageClass

/-- Delete a StorageClass; one with finalizers stays until they are gone. -/
def deleteStorageClass (cluster : Cluster) (name : String) :
    Cluster × Except Failure Unit :=
  match cluster.storageClass? name with
  | none => (cluster, .error (notFound "storageclasses.storage.k8s.io" name))
  | some storageClass =>
      if storageClass.metadata.finalizers = [] then
        ({ cluster.written with
          storageClasses :=
            Registry.remove StorageClass.name name cluster.storageClasses },
          .ok ())
      else
        ({ cluster.written with
          storageClasses := Registry.amend StorageClass.name name
            (fun stored => { stored with
              metadata := cluster.terminate stored.metadata })
            cluster.storageClasses }, .ok ())

/-- The answer to a call that nothing goes wrong with. -/
def answer (pick : Nat) (cluster : Cluster) :
    (call : Call) → Cluster × Except Failure call.Yield
  | .getClaim key =>
      (cluster, match cluster.claim? key with
        | some claim => .ok claim
        | none => .error
            (notFound "filesystemclaims.fusion.storage.openshift.io" key.name))
  | .createClaim claim => cluster.createClaim claim
  | .patchClaimFinalizers key original modified =>
      cluster.patchClaimFinalizers key original modified
  | .patchClaimStatus key original modified =>
      cluster.patchClaimStatus key original modified
  | .updateClaimStatus claim => cluster.updateClaimStatus claim
  | .list kind ns =>
      (cluster, .ok ((cluster.objects kind).filter fun object =>
        object.metadata.ns = ns))
  | .get kind key =>
      (cluster, match cluster.object? kind key with
        | some object => .ok object
        | none => .error (notFound kind.resource key.name))
  | .create kind object => cluster.create kind object
  | .update kind object => cluster.update kind object
  | .patchSpec kind key spec => cluster.patchSpec kind key spec
  | .delete kind key => cluster.delete kind key
  | .getStorageClass name =>
      (cluster, match cluster.storageClass? name with
        | some storageClass => .ok storageClass
        | none => .error (notFound "storageclasses.storage.k8s.io" name))
  | .createStorageClass storageClass => cluster.createStorageClass storageClass
  | .patchStorageClass storageClass => cluster.patchStorageClass storageClass
  | .updateStorageClass storageClass => cluster.updateStorageClass storageClass
  | .deleteStorageClass name => cluster.deleteStorageClass name
  | .listPersistentVolumes => (cluster, .ok cluster.persistentVolumes)
  | .listNodes => (cluster, .ok cluster.nodes)
  | .getDiscoveryResult key =>
      (cluster,
        match Registry.find? LocalVolumeDiscoveryResult.key key
            cluster.discoveryResults with
        | some result => .ok result
        | none => .error
            (notFound "localvolumediscoveryresults.fusion.storage.openshift.io" key.name))
  | .createEvent _ _ => (cluster, .ok ())
  | .lookupDeploymentNamespace => (cluster, .ok cluster.deploymentNamespace)
  | .now => (cluster, .ok cluster.clock)
  | .randomIndex bound => (cluster, .ok (pick % bound))

end Cluster

/-- How a call is served when the environment decides as given. -/
def serve (choice : Choice) (cluster : Cluster) (call : Call) :
    Cluster × Except Failure call.Yield :=
  if call.remote then
    match choice.fault with
    | .none => cluster.answer choice.pick call
    | .refused refusal message => (cluster, .error (refusal.failure message))
    | .lost message =>
        ((cluster.answer choice.pick call).1, .error (errorf message))
  else cluster.answer choice.pick call

/-- The API server under an environment that may let remote calls fail. -/
abbrev apiServer : Server kubernetes where
  State := Cluster
  Choice := Choice
  serve := serve

/-- A client of the cluster: it computes a value or ends in an error. -/
abbrev Act (α : Type) : Type := Fallible kubernetes Failure α

/-- Issue one call. -/
def request (call : Call) : Act call.Yield :=
  ExceptT.mk (Program.issue (I := kubernetes) call)

end Kubernetes
