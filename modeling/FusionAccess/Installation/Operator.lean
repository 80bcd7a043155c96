import FusionAccess.Discovery.LocalVolumeDiscovery
import FusionAccess.Installation.ConsolePlugin
import FusionAccess.Installation.CoreImage
import FusionAccess.Installation.Entitlement
import FusionAccess.Installation.ImageCheck
import FusionAccess.Installation.ManifestUrl
import FusionAccess.Installation.PodDisruptionBudget
import FusionAccess.Interaction.Parts
import FusionAccess.Kubernetes.Conditions

/-!
# The FusionAccess controller

A pass brings the installation in line with a FusionAccess: it applies the manifest of
the product, distributes the entitlement, prepares the kernel module, enables the console
plugin, checks that images can be pulled, asks for the discovery of devices, and reports in
the status how far it has come. Each of these steps talks to its own part of the API server.
-/

namespace Installation
namespace Operator

open Kubernetes Interaction Fallible

/-! ## Objects -/

/-- `FusionAccessStatus`, with the fields that the operator sets. -/
structure FusionAccessStatus where
  conditions : List Condition := []
  status : String := ""
  deriving DecidableEq

/-- `FusionAccess` with all that a pass looks at. -/
structure FusionAccess extends Installation.FusionAccess where
  externalManifestURL : String := ""
  createDiscovery : Bool := false
  status : FusionAccessStatus := {}
  deriving DecidableEq

/-- What is stored of a FusionAccess besides its version. -/
structure Details where
  externalManifestURL : String := ""
  createDiscovery : Bool := false
  status : FusionAccessStatus := {}
  deriving DecidableEq

/-- A secret with the bytes of its data. -/
structure PullSecret where
  key : NamespacedName
  type : SecretType
  data : Option (Registry.Entries String (List UInt8))

/-- `Config` of the image registry: whether its storage is an emptyDir, by the spec and by
the status. -/
structure RegistryConfig where
  specEmptyDir : Bool
  statusEmptyDir : Bool

/-- A resource of the manifest. -/
structure ManifestResource where
  kind : String
  key : NamespacedName
  deriving DecidableEq

/-! ## The API server -/

/-- The calls that no other part of the operator issues. -/
inductive OwnRequest
  | getFusionAccess (key : NamespacedName)
  | updateStatus (fusionaccess : FusionAccess)
  | newManifest (path : String)
  | applyResource (path : String) (spec : ManifestResource)
  | getPullSecret (key : NamespacedName)
  | getRegistryConfig
  | getLocalVolumeDiscovery (key : NamespacedName)
  | createLocalVolumeDiscovery (lvd : Discovery.LocalVolumeDiscovery)
  | updateLocalVolumeDiscovery (lvd : Discovery.LocalVolumeDiscovery)
  | now

/-- What a call yields when it succeeds; an update of a status yields the object with its
new version. -/
@[reducible] def OwnRequest.Yield : OwnRequest → Type
  | .getFusionAccess _ | .updateStatus _ => FusionAccess
  | .newManifest _ => List ManifestResource
  | .getPullSecret _ => PullSecret
  | .getRegistryConfig => RegistryConfig
  | .getLocalVolumeDiscovery _ => Discovery.LocalVolumeDiscovery
  | .now => Nat
  | _ => Unit

/-- The clock is at hand. -/
def OwnRequest.remote : OwnRequest → Bool
  | .now => false
  | _ => true

/-- The API of these calls. -/
abbrev ownApi : Api where
  Request := OwnRequest
  Yield := OwnRequest.Yield
  remote := OwnRequest.remote

/-- What is stored, part by part. -/
structure State where
  /-- The FusionAccess objects and their versions, PodDisruptionBudgets and Builds. -/
  site : Site := {}
  /-- What else is stored of a FusionAccess. -/
  details : NamespacedName → Details := fun _ => {}
  depot : Depot := {}
  plugin : Plugin.PluginSite := {}
  pods : ImageCheck.PodSite := {}
  /-- The resources of each manifest that can be read. -/
  manifests : String → Option (List ManifestResource) := fun _ => none
  /-- The resources that are in place, and the manifest that they come from. -/
  applied : List (String × ManifestResource) := []
  pullSecrets : List PullSecret := []
  registryConfig : Option RegistryConfig := none
  discoveries : List Discovery.LocalVolumeDiscovery := []
  revision : Nat := 0

namespace State

/-- A FusionAccess with its details. -/
def assemble (state : State) (base : Installation.FusionAccess) : FusionAccess :=
  let details := state.details base.key
  { base with
    externalManifestURL := details.externalManifestURL
    createDiscovery := details.createDiscovery
    status := details.status }

/-- The stored FusionAccess with the given key. -/
def fusionAccess? (state : State) (key : NamespacedName) : Option FusionAccess :=
  (state.site.fusionAccess? key).map state.assemble

/-- The stored LocalVolumeDiscovery with the given key. -/
def discovery? (state : State) (key : NamespacedName) :
    Option Discovery.LocalVolumeDiscovery :=
  Registry.find? Discovery.LocalVolumeDiscovery.key key state.discoveries

/-- The state with another status of a FusionAccess. -/
def withStatus (state : State) (fusionaccess : FusionAccess) : State :=
  { state with
    site := { state.site with
      fusionAccesses := Registry.amend Installation.FusionAccess.key
        fusionaccess.toFusionAccess.key
        (fun stored => { stored with
          metadata := { stored.metadata with resourceVersion := state.site.revision + 1 } })
        state.site.fusionAccesses
      revision := state.site.revision + 1 }
    details := Function.update state.details fusionaccess.toFusionAccess.key
      { state.details fusionaccess.toFusionAccess.key with status := fusionaccess.status } }

/-- Replace the status of a FusionAccess, unless the version is outdated. -/
def updateStatus (state : State) (fusionaccess : FusionAccess) :
    State × Except Failure FusionAccess :=
  match state.site.fusionAccess? fusionaccess.toFusionAccess.key with
  | none => (state, .error (notFound "fusionaccesses.fusion.storage.openshift.io"
      fusionaccess.metadata.name))
  | some stored =>
      if stored.metadata.resourceVersion ≠ fusionaccess.metadata.resourceVersion then
        (state, .error (outdated "fusionaccesses.fusion.storage.openshift.io"
          fusionaccess.metadata.name))
      else
        (state.withStatus fusionaccess, .ok { state.assemble stored with
          metadata := { stored.metadata with resourceVersion := state.site.revision + 1 }
          status := fusionaccess.status })

/-- Store a new LocalVolumeDiscovery. -/
def createDiscovery (state : State) (lvd : Discovery.LocalVolumeDiscovery) :
    State × Except Failure Unit :=
  match state.discovery? lvd.key with
  | some _ => (state, .error (alreadyExists
      "localvolumediscoveries.fusion.storage.openshift.io" lvd.metadata.name))
  | none =>
      ({ state with
        discoveries := state.discoveries ++ [{ lvd with
          metadata := { lvd.metadata with
            uid := state.revision + 1, generation := 1
            resourceVersion := state.revision + 1 }
          phase := .unset, conditions := [], observedGeneration := 0 }]
        revision := state.revision + 1 }, .ok ())

/-- Replace a LocalVolumeDiscovery but for its status, unless the version is outdated. -/
def updateDiscovery (state : State) (lvd : Discovery.LocalVolumeDiscovery) :
    State × Except Failure Unit :=
  match state.discovery? lvd.key with
  | none => (state, .error (notFound
      "localvolumediscoveries.fusion.storage.openshift.io" lvd.metadata.name))
  | some stored =>
      if stored.metadata.resourceVersion ≠ lvd.metadata.resourceVersion then
        (state, .error (outdated
          "localvolumediscoveries.fusion.storage.openshift.io" lvd.metadata.name))
      else
        ({ state with
          discoveries := Registry.amend Discovery.LocalVolumeDiscovery.key lvd.key
            (fun stored => { stored with
              metadata := { lvd.metadata with
                uid := stored.metadata.uid
                resourceVersion := state.revision + 1 }
              nodeSelector := lvd.nodeSelector
              tolerations := lvd.tolerations }) state.discoveries
          revision := state.revision + 1 }, .ok ())

/-- The answer to a call that nothing goes wrong with. -/
def answer (state : State) :
    (request : OwnRequest) → State × Except Failure request.Yield
  | .getFusionAccess key =>
      (state, match state.fusionAccess? key with
        | some fusionaccess => .ok fusionaccess
        | none => .error (notFound "fusionaccesses.fusion.storage.openshift.io" key.name))
  | .updateStatus fusionaccess => state.updateStatus fusionaccess
  | .newManifest path =>
      (state, match state.manifests path with
        | some resources => .ok resources
        | none => .error (errorf s!"open {path}: no such file or directory"))
  | .applyResource path spec =>
      ({ state with applied := (path, spec) :: state.applied }, .ok ())
  | .getPullSecret key =>
      (state, match Registry.find? PullSecret.key key state.pullSecrets with
        | some secret => .ok secret
        | none => .error (notFound "secrets" key.name))
  | .getRegistryConfig =>
      (state, match state.registryConfig with
        | some config => .ok config
        | none => .error (notFound "configs.imageregistry.operator.openshift.io" "cluster"))
  | .getLocalVolumeDiscovery key =>
      (state, match state.discovery? key with
        | some lvd => .ok lvd
        | none => .error (notFound "localvolumediscoveries.fusion.storage.openshift.io"
            key.name))
  | .createLocalVolumeDiscovery lvd => state.createDiscovery lvd
  | .updateLocalVolumeDiscovery lvd => state.updateDiscovery lvd
  | .now => (state, .ok state.site.clock)

end State

/-- The server of these calls. -/
abbrev ownServer : Server ownApi.interface := @Api.server ownApi State State.answer

/-- All calls of a pass. -/
inductive Request
  | own (request : OwnRequest)
  | site (request : UpdateRequest)
  | depot (request : ModuleRequest)
  | plugin (request : Plugin.PluginRequest)
  | pods (request : ImageCheck.Request)

/-- The reply to a call. -/
@[reducible] def Request.Reply : Request → Type
  | .own request => Except Failure request.Yield
  | .site request => Except Failure request.Yield
  | .depot request => Except Failure request.Yield
  | .plugin request => Except Failure request.Yield
  | .pods request => Except Failure request.Yield

/-- The interface of a pass. -/
abbrev operatorInterface : Interface where
  Call := Request
  Reply := Request.Reply

/-- The API server as the controller sees it: each part serves its calls. -/
abbrev operatorServer : Server operatorInterface where
  State := State
  Choice := ImageCheck.PodChoice
  serve := fun choice state request =>
    match request with
    | .own request => ownServer.serve choice.fault state request
    | .site request =>
        let answer := siteServer.serve choice.fault state.site request
        ({ state with site := answer.1 }, answer.2)
    | .depot request =>
        let answer := depotServer.serve choice.fault state.depot request
        ({ state with depot := answer.1 }, answer.2)
    | .plugin request =>
        let answer := Plugin.pluginServer.serve choice.fault state.plugin request
        ({ state with plugin := answer.1 }, answer.2)
    | .pods request =>
        let answer := ImageCheck.podServer.serve choice state.pods request
        ({ state with pods := answer.1 }, answer.2)

/-- The calls of the controller itself. -/
def ownPart : Component ownServer operatorServer where
  call := .own
  reply := fun _ reply => reply
  view := fun state => state
  put := fun _ next => next
  choose := ImageCheck.PodChoice.fault
  put_view := fun _ => rfl
  view_put := fun _ _ => rfl
  put_put := fun _ _ _ => rfl
  served := fun _ _ _ => rfl
  replied := fun _ _ _ => rfl

/-- The calls about updates and the PodDisruptionBudget. -/
def sitePart : Component siteServer operatorServer where
  call := .site
  reply := fun _ reply => reply
  view := State.site
  put := fun state site => { state with site }
  choose := ImageCheck.PodChoice.fault
  put_view := fun _ => rfl
  view_put := fun _ _ => rfl
  put_put := fun _ _ _ => rfl
  served := fun _ _ _ => rfl
  replied := fun _ _ _ => rfl

/-- The calls about secrets, ConfigMaps and Modules. -/
def depotPart : Component depotServer operatorServer where
  call := .depot
  reply := fun _ reply => reply
  view := State.depot
  put := fun state depot => { state with depot }
  choose := ImageCheck.PodChoice.fault
  put_view := fun _ => rfl
  view_put := fun _ _ => rfl
  put_put := fun _ _ _ => rfl
  served := fun _ _ _ => rfl
  replied := fun _ _ _ => rfl

/-- The calls about the console plugin. -/
def pluginPart : Component Plugin.pluginServer operatorServer where
  call := .plugin
  reply := fun _ reply => reply
  view := State.plugin
  put := fun state plugin => { state with plugin }
  choose := ImageCheck.PodChoice.fault
  put_view := fun _ => rfl
  view_put := fun _ _ => rfl
  put_put := fun _ _ _ => rfl
  served := fun _ _ _ => rfl
  replied := fun _ _ _ => rfl

/-- The calls of the image pull check. -/
def podsPart : Component ImageCheck.podServer operatorServer where
  call := .pods
  reply := fun _ reply => reply
  view := State.pods
  put := fun state pods => { state with pods }
  choose := fun choice => choice
  put_view := fun _ => rfl
  view_put := fun _ _ => rfl
  put_put := fun _ _ _ => rfl
  served := fun _ _ _ => rfl
  replied := fun _ _ _ => rfl

/-! ## The environment of the process -/

/-- `os.DirEntry`. -/
structure DirEntry where
  name : String
  isDir : Bool

/-- What the process finds around it: its variable, its files, the parser of YAML streams
and the table of lower-case letters; and how often the image check polls. -/
structure Environment where
  deploymentNamespace : Option String
  readDir : String → Except String (List DirEntry)
  readFile : String → Except String String
  parse : CoreImage.Parser
  toLower : Char → Char
  rounds : Nat

namespace Environment

/-- `GetDeploymentNamespace`. -/
def getDeploymentNamespace (env : Environment) : Except Failure String :=
  match env.deploymentNamespace with
  | some ns => .ok ns
  | none => .error (errorf "DEPLOYMENT_NAMESPACE must be set")

/-- `getSingleSubdirectory`. -/
def getSingleSubdirectory (env : Environment) (dirPath : String) : Except String String :=
  match env.readDir dirPath with
  | .error err => .error s!"failed to read directory {dirPath}: {err}"
  | .ok entries =>
      match (entries.filter DirEntry.isDir).map DirEntry.name with
      | [] => .error s!"no subdirectories found in {dirPath}"
      | [subdir] => .ok subdir
      | subdirs =>
          let subdirList := String.intercalate " " subdirs
          .error (s!"expected exactly one subdirectory in {dirPath}, found " ++
            s!"{subdirs.length}: [{subdirList}]")

/-- The directories that may hold the manifests, and how their paths are written. -/
def manifestDirectories : List (String × String) :=
  [("../../files", "../../files"), ("./files", "files"), ("/files", "/files")]

/-- `GetStorageScaleVersion`: the version and the path of its manifest. -/
def getStorageScaleVersion (env : Environment) : Except Failure (String × String) :=
  match manifestDirectories.findSome? fun directory =>
      (env.getSingleSubdirectory directory.1).toOption.map fun cnsaVersion =>
        (cnsaVersion, s!"{directory.2}/{cnsaVersion}/install.yaml") with
  | some found => .ok found
  -- the error that is wrapped here is never set
  | none => .error (errorf "could not determine the CNSA version: %!w(<nil>)")

/-- `GetExternalTestImage`. -/
def getExternalTestImage (env : Environment) : Except Failure String := do
  let found ← env.getStorageScaleVersion
  let manifest ← (env.readFile found.2).mapError errorf
  (CoreImage.parseYAMLAndExtractTestImage env.parse manifest).mapError errorf

/-- `getIbmManifest`: the version, if there is one, and the path of the manifest. -/
def getIbmManifest (env : Environment) (fusionaccess : FusionAccess) :
    Except Failure (String × String) :=
  let extManifestURL := fusionaccess.externalManifestURL
  if extManifestURL ≠ "" then
    if ManifestUrl.isExternalManifestURLAllowed env.toLower extManifestURL then
      .ok ("", extManifestURL)
    else .error (errorf s!"disallowed URL for external manifest: {extManifestURL}")
  else env.getStorageScaleVersion

end Environment

/-! ## Programs -/

/-- Programs of a pass that may fail. -/
abbrev Act : Type → Type := Fallible operatorInterface Failure

/-- Issue a call of the controller itself. -/
def own (request : OwnRequest) : Act request.Yield :=
  Fallible.within ownPart.toPart (ownApi.ask request)

/-- Do something about updates and the PodDisruptionBudget. -/
def onSite {α : Type} (program : Update α) : Act α :=
  Fallible.within sitePart.toPart program

/-- Do something about secrets, ConfigMaps and Modules. -/
def onDepot {α : Type} (program : Preparation α) : Act α :=
  Fallible.within depotPart.toPart program

/-- Do something about the console plugin. -/
def onPlugin {α : Type} (program : Plugin.Plugins α) : Act α :=
  Fallible.within pluginPart.toPart program

/-- Do something about the pod of the image check. -/
def onPods {α : Type} (program : ImageCheck.Check α) : Act α :=
  Fallible.within podsPart.toPart program

/-- Continue with the result of a function. -/
def orFail {α : Type} : Except Failure α → Act α
  | .ok value => pure value
  | .error err => throw err

/-- `errors.Join`. -/
def joinErrors (first second : Failure) : Failure :=
  ⟨if first.reason = .unspecified then second.reason else first.reason,
    first.message ++ "\n" ++ second.message⟩

/-! ### Reports -/

/-- Set a condition and the status, and write both. -/
def report (fusionaccess : FusionAccess) (status : String) (condition : Condition) :
    Act FusionAccess := do
  let now : Nat ← own .now
  own (.updateStatus { fusionaccess with
    status :=
      { status
        conditions := setStatusCondition now fusionaccess.status.conditions condition } })

/-- Report an error, and return it. -/
def reportError {α : Type} (fusionaccess : FusionAccess) (status : String)
    (condition : Condition) (err : Failure) : Act α := do
  match ← (report fusionaccess status condition).attempt with
  | .error serr => throw (joinErrors serr err)
  | .ok _ => throw err

/-- The condition about the manifest. -/
def manifestApply (status : ConditionStatus) (message : String) : Condition where
  type := .other "ManifestApply"
  status := status
  reason := .other "ReconcileCompleted"
  message := message

/-- The condition about the storage of the image registry. -/
def imageRegistryStorage (status : ConditionStatus) (reason message : String) :
    Condition where
  type := .other "ImageRegistryStorage"
  status := status
  reason := .other reason
  message := message

/-- The condition about the pull of protected images. -/
def imagePull (status : ConditionStatus) (message : String) : Condition where
  type := .other "ImagePull"
  status := status
  reason := .other "ImagePullDone"
  message := message

/-! ### The manifest -/

/-- `Apply` of the manifest library, with one call for each resource. -/
def applyResources (path : String) : List ManifestResource → Act Unit
  | [] => return ()
  | spec :: resources => do
      own (.applyResource path spec)
      applyResources path resources

/-- The step that applies the manifest. -/
def applyManifest (fusionaccess : FusionAccess) (installPath : String) :
    Act FusionAccess := do
  let resources ← own (.newManifest installPath)
  match ← (applyResources installPath resources).attempt with
  | .error err =>
      reportError fusionaccess "Error"
        (manifestApply .isFalse "Storage Scale manifest apply failed") err
  | .ok _ =>
      report fusionaccess fusionaccess.status.status
        (manifestApply .isTrue "Storage Scale manifest was applied")

/-! ### The kernel module -/

/-- `FUSIONPULLSECRETNAME`. -/
def fusionPullSecretName : String := "fusion-pullsecret"

/-- `getPullSecretContent`. -/
def getPullSecretContent (name ns : String) : Act (List UInt8) := do
  let secret : PullSecret ← own (.getPullSecret ⟨ns, name⟩)
  if secret.type ≠ .other "Opaque" then
    throw (errorf s!"secret {name} is not of type Opaque")
  else
    match secret.data with
    | none => throw (errorf s!"secret {name} has no data")
    | some data =>
        match data.get? ibmEntitlementName with
        | none => throw (errorf s!"secret {name} does not contain {ibmEntitlementName}")
        | some secData => return secData

/-- The URLs of the internal image registry. -/
def internalRegistryURLs : List String :=
  ["image-registry.openshift-image-registry.svc:5000",
    "image-registry.openshift-image-registry.svc.cluster.local:5000",
    "docker-registry.default.svc:5000",
    "docker-registry.default.svc.cluster.local:5000"]

/-- `IsUsingInternalImageRegistry`. -/
def isUsingInternalImageRegistry (ns : String) : Preparation Bool := do
  let kmmConfig ← (getKMMImageConfig ns).mapError
    (Failure.wrap "failed to get KMM image config: ")
  return decide (kmmConfig.registryURL ∈ internalRegistryURLs)

/-- The error about an emptyDir. -/
def emptyDirMessage (usage : String) : String :=
  s!"image registry is {usage} emptyDir storage which is not supported for kernel " ++
    "module builds. EmptyDir storage is ephemeral and unsuitable for production use. " ++
    "Please configure the image registry with persistent storage (PVC, S3, GCS, Azure, " ++
    "etc.). " ++
    "For more information, see: https://docs.openshift.com/container-platform/latest/" ++
    "registry/configuring_registry_storage/" ++
    "configuring-registry-storage-aws-user-infrastructure.html"

/-- `CheckImageRegistryStorage`. -/
def checkImageRegistryStorage : Act Unit := do
  match ← (own .getRegistryConfig).attempt with
  | .error err =>
      if err.reason = .notFound then return ()
      else throw (err.wrap "failed to get image registry configuration: ")
  | .ok (config : RegistryConfig) =>
      if config.specEmptyDir then throw (errorf (emptyDirMessage "configured with"))
      else if config.statusEmptyDir then throw (errorf (emptyDirMessage "currently using"))
      else return ()

/-- The step that checks the image registry, if it is the internal one. -/
def checkRegistry (fusionaccess : FusionAccess) (ns : String) : Act FusionAccess := do
  let usingInternalRegistry ← onDepot (isUsingInternalImageRegistry ns)
  if usingInternalRegistry then
    match ← checkImageRegistryStorage.attempt with
    | .error err =>
        reportError fusionaccess "Error"
          (imageRegistryStorage .isFalse "InvalidStorageBackend" err.message) err
    | .ok _ =>
        report fusionaccess fusionaccess.status.status
          (imageRegistryStorage .isTrue "ValidStorageBackend"
            "Image registry is using a supported storage backend")
  else return fusionaccess

/-- The steps that need the pull secret; without it they are left out. -/
def prepareKernelModule (env : Environment) (fusionaccess : FusionAccess) (ns : String) :
    Act FusionAccess := do
  match ← (getPullSecretContent fusionPullSecretName ns).attempt with
  | .error _ => return fusionaccess
  | .ok secret => do
      onDepot (updateEntitlementPullSecrets secret ns)
      let fusionaccess ← checkRegistry fusionaccess ns
      onDepot (createOrUpdateKMMResources (CoreImage.decodeObjmap env.parse)
        env.deploymentNamespace)
      return fusionaccess

/-! ### Console, images and discovery -/

/-- The steps about the console plugin. -/
def enableConsolePlugin (env : Environment) : Act Unit := do
  onPlugin (Plugin.createOrUpdatePlugin env.deploymentNamespace)
  onPlugin Plugin.enablePlugin

/-- `runPullImageCheck`; it yields nothing while the check is still polling. -/
def runPullImageCheck (env : Environment) (ns : String) : Act (Option Unit) := do
  let testImage ← orFail env.getExternalTestImage
  match ← onPods (ImageCheck.canPullImage ns testImage ibmEntitlementName env.rounds) with
  | none => return none
  -- without an error the image counts as pulled, whatever the check has found
  | some _ => return some ()

/-- The step that checks whether images can be pulled. -/
def checkImagePull (env : Environment) (fusionaccess : FusionAccess) (ns : String) :
    Act (Option FusionAccess) := do
  if fusionaccess.storageScaleVersion ≠ "" then
    match ← (runPullImageCheck env ns).attempt with
    | .error err =>
        reportError fusionaccess "ErrImagePull"
          (imagePull .isFalse "Protected images can't be pulled") err
    | .ok none => return none
    | .ok (some _) =>
        some <$> report fusionaccess ""
          (imagePull .isTrue "Protected images pulled successfully")
  else return some fusionaccess

/-- `NewLocalVolumeDiscovery`. -/
def newLocalVolumeDiscovery (ns : String) : Discovery.LocalVolumeDiscovery where
  metadata := { name := "auto-discover-devices", ns }

/-- `CreateOrUpdateLocalVolumeDiscovery`. -/
def createOrUpdateLocalVolumeDiscovery (devicefinder : Discovery.LocalVolumeDiscovery) :
    Act Unit := do
  match ← (own (.getLocalVolumeDiscovery devicefinder.key)).attempt with
  | .error err =>
      if err.reason = .notFound then
        (own (.createLocalVolumeDiscovery devicefinder)).mapError
          (Failure.wrap "could not create device finder: ")
      else throw (err.wrap "could not check for existing device finder: ")
  | .ok (oldCP : Discovery.LocalVolumeDiscovery) =>
      (own (.updateLocalVolumeDiscovery { oldCP with
        metadata := { oldCP.metadata with
          ownerReferences := devicefinder.metadata.ownerReferences }
        nodeSelector := devicefinder.nodeSelector
        tolerations := devicefinder.tolerations })).mapError
          (Failure.wrap "could not update device finder: ")

/-- The step that asks for the discovery, if it is wanted. -/
def createDiscovery (fusionaccess : FusionAccess) (ns : String) : Act Unit :=
  if fusionaccess.createDiscovery then
    createOrUpdateLocalVolumeDiscovery (newLocalVolumeDiscovery ns)
  else return ()

/-! ### The pass -/

/-- The last steps of a pass. -/
def finish (fusionaccess : FusionAccess) (ns : String) : Act (Option Result) := do
  createDiscovery fusionaccess ns
  let _ ← own (.updateStatus { fusionaccess with
    status := { fusionaccess.status with status := "Ready" } })
  return some {}

/-- The steps that follow the decision which manifest to apply. -/
def install (env : Environment) (fusionaccess : FusionAccess) (ns installPath : String) :
    Act (Option Result) := do
  let fusionaccess ← applyManifest fusionaccess installPath
  match ← onSite (managePodDisruptionBudget fusionaccess.toFusionAccess) with
  | some pdbreq => return some pdbreq
  | none => do
      let fusionaccess ← prepareKernelModule env fusionaccess ns
      enableConsolePlugin env
      match ← checkImagePull env fusionaccess ns with
      | none => return none
      | some fusionaccess => finish fusionaccess ns

/-- `Reconcile`. It yields nothing while the image check is still polling. -/
def reconcile (env : Environment) (req : NamespacedName) : Act (Option Result) := do
  match ← (own (.getFusionAccess req)).attempt with
  | .error err => if err.reason = .notFound then return some {} else throw err
  | .ok (fusionaccess : FusionAccess) => do
      let ns ← orFail env.getDeploymentNamespace
      let manifest ← orFail (env.getIbmManifest fusionaccess)
      if manifest.1 ≠ "" ∧ fusionaccess.storageScaleVersion ≠ manifest.1 then
        some <$> onSite (updateStorageScaleVersion fusionaccess.toFusionAccess manifest.1)
      else install env fusionaccess ns manifest.2

end Operator
end Installation
