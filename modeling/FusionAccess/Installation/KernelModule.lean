import FusionAccess.Kubernetes.Api
import FusionAccess.Installation.DockerConfig

/-!
# The resources of the kernel module

The operator has the kernel module built, signed and loaded by the kernel
module management operator. It prepares the registry credentials, the
Dockerfile and the Module that describes the build.
-/

namespace Installation

open Kubernetes Registry Interaction

/-! ## Objects -/

/-- `ConfigMap`. -/
structure ConfigMap where
  metadata : ObjectMeta
  data : StringMap := []
  deriving DecidableEq

/-- `BuildArg`. -/
structure BuildArg where
  name : String
  value : String
  deriving DecidableEq

/-- `Build`. -/
structure Build where
  dockerfileConfigMap : String
  buildArgs : List BuildArg
  deriving DecidableEq

/-- `Sign`. -/
structure Sign where
  filesToSign : List String
  keySecret : String
  certSecret : String
  deriving DecidableEq

/-- `KernelMapping`. -/
structure KernelMapping where
  regexp : String
  containerImage : String
  build : Build
  sign : Option Sign
  deriving DecidableEq

/-- `ModprobeSpec`. -/
structure ModprobeSpec where
  moduleName : String
  modulesLoadingOrder : List String
  firmwarePath : String
  dirName : String
  deriving DecidableEq

/-- `ModuleSpec`, with the parts of the module loader and its container. -/
structure ModuleSpec where
  imagePullPolicy : String
  modprobe : ModprobeSpec
  insecure : Bool
  insecureSkipTLSVerify : Bool
  kernelMappings : List KernelMapping
  serviceAccountName : String
  imageRepoSecret : String
  selector : StringMap
  deriving DecidableEq

/-- `Module`. -/
structure Module where
  metadata : ObjectMeta
  spec : ModuleSpec
  deriving DecidableEq

/-- The kinds of objects that the kernel module needs. -/
inductive Kind
  | secret
  | configMap
  | module
  deriving DecidableEq

namespace Kind

/-- The objects of a kind. -/
@[reducible] def Object : Kind → Type
  | .secret => Secret
  | .configMap => ConfigMap
  | .module => Module

instance : (kind : Kind) → DecidableEq kind.Object
  | .secret => inferInstanceAs (DecidableEq Secret)
  | .configMap => inferInstanceAs (DecidableEq ConfigMap)
  | .module => inferInstanceAs (DecidableEq Module)

/-- The metadata of an object. -/
def metadata : (kind : Kind) → kind.Object → ObjectMeta
  | .secret, (object : Secret) => object.metadata
  | .configMap, (object : ConfigMap) => object.metadata
  | .module, (object : Module) => object.metadata

/-- An object with other metadata. -/
def withMetadata : (kind : Kind) → kind.Object → ObjectMeta → kind.Object
  | .secret, (object : Secret), metadata => { object with metadata }
  | .configMap, (object : ConfigMap), metadata => { object with metadata }
  | .module, (object : Module), metadata => { object with metadata }

/-- The key of an object. -/
def key (kind : Kind) (object : kind.Object) : NamespacedName :=
  (kind.metadata object).key

/-- The resource of a kind, as error messages name it. -/
def resource : Kind → String
  | .secret => "secrets"
  | .configMap => "configmaps"
  | .module => "modules.kmm.sigs.x-k8s.io"

/-- The type of the objects of a kind, as error messages name it. -/
def goType : Kind → String
  | .secret => "*v1.Secret"
  | .configMap => "*v1.ConfigMap"
  | .module => "*v1beta1.Module"

end Kind

/-! ## The API server -/

/-- The calls that prepare the kernel module. -/
inductive ModuleRequest
  | get (kind : Kind) (key : NamespacedName)
  | list (kind : Kind) (ns : String)
  | create (kind : Kind) (object : kind.Object)
  | update (kind : Kind) (object : kind.Object)

/-- What a call yields when it succeeds. -/
@[reducible] def ModuleRequest.Yield : ModuleRequest → Type
  | .get kind _ => kind.Object
  | .list kind _ => List kind.Object
  | _ => Unit

/-- The API of the kernel module. -/
abbrev moduleApi : Api where
  Request := ModuleRequest
  Yield := ModuleRequest.Yield
  remote := fun _ => true

/-- What is stored. -/
structure Depot where
  objects : (kind : Kind) → List kind.Object := fun _ => []
  revision : Nat := 0

namespace Depot

/-- The stored object of a kind with the given key. -/
def find? (depot : Depot) (kind : Kind) (key : NamespacedName) : Option kind.Object :=
  Registry.find? kind.key key (depot.objects kind)

/-- Replace the objects of a kind. -/
def store (depot : Depot) (kind : Kind) (objects : List kind.Object) : Depot where
  objects := Function.update depot.objects kind objects
  revision := depot.revision + 1

/-- A new object as it is stored. -/
def created (depot : Depot) (kind : Kind) (object : kind.Object) : kind.Object :=
  kind.withMetadata object { kind.metadata object with
    uid := depot.revision + 1, generation := 1, resourceVersion := depot.revision + 1 }

/-- A stored object after an update. -/
def updated (depot : Depot) (kind : Kind) (object stored : kind.Object) : kind.Object :=
  kind.withMetadata object { kind.metadata object with
    uid := (kind.metadata stored).uid
    generation := (kind.metadata stored).generation
    resourceVersion := depot.revision + 1 }

/-- Store a new object. -/
def create (depot : Depot) (kind : Kind) (object : kind.Object) :
    Depot × Except Failure Unit :=
  if (kind.metadata object).resourceVersion ≠ 0 then
    (depot, .error (errorf "resourceVersion should not be set on objects to be created"))
  else
    match depot.find? kind (kind.key object) with
    | some _ => (depot, .error (alreadyExists kind.resource (kind.metadata object).name))
    | none =>
        (depot.store kind (depot.objects kind ++ [depot.created kind object]), .ok ())

/-- Replace an object, unless the version is outdated. -/
def update (depot : Depot) (kind : Kind) (object : kind.Object) :
    Depot × Except Failure Unit :=
  match depot.find? kind (kind.key object) with
  | none => (depot, .error (notFound kind.resource (kind.metadata object).name))
  | some stored =>
      if (kind.metadata stored).resourceVersion ≠ (kind.metadata object).resourceVersion then
        (depot, .error (outdated kind.resource (kind.metadata object).name))
      else
        (depot.store kind (Registry.amend kind.key (kind.key object)
          (depot.updated kind object) (depot.objects kind)), .ok ())

/-- The answer to a call that nothing goes wrong with. -/
def answer (depot : Depot) :
    (request : ModuleRequest) → Depot × Except Failure request.Yield
  | .get kind key =>
      (depot, match depot.find? kind key with
        | some object => .ok object
        | none => .error (notFound kind.resource key.name))
  | .list kind ns =>
      (depot, .ok ((depot.objects kind).filter fun object => (kind.metadata object).ns = ns))
  | .create kind object => depot.create kind object
  | .update kind object => depot.update kind object

end Depot

/-- The API server as the preparation of the kernel module sees it. -/
abbrev depotServer : Server moduleApi.interface := @Api.server moduleApi Depot Depot.answer

/-! ## Programs -/

/-- Programs of the controller that may fail. -/
abbrev Preparation : Type → Type := Fallible moduleApi.interface Failure

/-- Issue one call. -/
abbrev send (request : ModuleRequest) : Preparation request.Yield :=
  moduleApi.ask request

/-- The error that the controller makes of an abort; panics are recovered
from. -/
def Abort.failure : Abort → Failure
  | .error message => errorf message
  | .panic message => errorf s!"panic: {message} [recovered]"

/-- Continue with the result of a function. -/
def orAbort {α : Type} : Except Abort α → Preparation α
  | .ok value => pure value
  | .error abort => throw abort.failure

/-- `CreateOrUpdate` of the controller library. -/
def createOrUpdate (kind : Kind) (object : kind.Object)
    (mutate : kind.Object → kind.Object) : Preparation Unit := do
  match ← (send (.get kind (kind.key object))).attempt with
  | .error err =>
      if err.reason = .notFound then send (.create kind (mutate object))
      else throw err
  | .ok existing =>
      -- an object that the mutation leaves as it is, is not written
      if mutate existing = existing then return ()
      else send (.update kind (mutate existing))

/-- The stored object, or the desired one. -/
def getExisting (kind : Kind) (desired : kind.Object) : Preparation kind.Object := do
  match ← (send (.get kind (kind.key desired))).attempt with
  | .error err =>
      if err.reason = .notFound then return desired
      else throw (err.wrap "failed to get existing resource: ")
  | .ok existing => return existing

/-- `CreateOrUpdateResource`. -/
def createOrUpdateResource (kind : Kind) (desired : kind.Object)
    (mutateFn : (existing desired : kind.Object) → kind.Object) : Preparation Unit := do
  let existing ← getExisting kind desired
  (createOrUpdate kind existing fun existing => mutateFn existing desired).mapError
    (Failure.wrap (s!"failed to create or update resource {kind.goType} " ++
      s!"{(kind.metadata desired).ns}/{(kind.metadata desired).name}: "))

/-! ## The image of the kernel module -/

/-- The service account of the module build. -/
def serviceAccountName : String := "fusion-access-operator-controller-manager"

/-- `KMMImageConfigMapName`. -/
def kmmImageConfigMapName : String := "kmm-image-config"

/-- `IBMENTITLEMENTNAME`. -/
def ibmEntitlementName : String := "ibm-entitlement-key"

/-- `KMMRegistryPushPullSecretName`. -/
def kmmRegistryPushPullSecretName : String := "kmm-registry-push-pull-secret"

/-- `SecureBootKey`. -/
def secureBootKey : String := "secureboot-signing-key"

/-- `SecureBootKeyPub`. -/
def secureBootKeyPub : String := "secureboot-signing-key-pub"

/-- `KMMImageConfig`. -/
structure KMMImageConfig where
  registryURL : String
  repo : String
  tlsInsecure : Bool := false
  tlsSkipVerify : Bool := false
  registrySecretName : String := ""
  deriving DecidableEq

/-- The configuration without a ConfigMap. -/
def KMMImageConfig.defaults (ns : String) : KMMImageConfig where
  registryURL := "image-registry.openshift-image-registry.svc:5000"
  repo := s!"{ns}/gpfs_compat_kmod"

/-- `strconv.ParseBool`. -/
def parseBool (text : String) : Option Bool :=
  if text ∈ ["1", "t", "T", "true", "TRUE", "True"] then some true
  else if text ∈ ["0", "f", "F", "false", "FALSE", "False"] then some false
  else none

/-- Values of the ConfigMap override those of the configuration. -/
def KMMImageConfig.override (config : KMMImageConfig) (data : StringMap) :
    KMMImageConfig where
  registryURL := (data.get? "kmm_image_registry_url").getD config.registryURL
  repo := (data.get? "kmm_image_repo").getD config.repo
  tlsInsecure := ((data.get? "kmm_tls_insecure").bind parseBool).getD config.tlsInsecure
  tlsSkipVerify := ((data.get? "kmm_tls_skip_verify").bind parseBool).getD config.tlsSkipVerify
  registrySecretName :=
    (data.get? "kmm_image_registry_secret_name").getD config.registrySecretName

/-- `GetKMMImageConfig`. -/
def getKMMImageConfig (ns : String) : Preparation KMMImageConfig := do
  match ← (send (.get .configMap ⟨ns, kmmImageConfigMapName⟩)).attempt with
  | .error err =>
      if err.reason = .notFound then return .defaults ns
      else throw (err.wrap
        s!"failed to get configmap {kmmImageConfigMapName} in GetKMMImageConfig: ")
  | .ok cm => return (KMMImageConfig.defaults ns).override (ConfigMap.data cm)

/-- The name is that of a dockercfg secret of the service account. -/
def isDockercfgSecretName (serviceAccountName name : String) : Bool :=
  let start := (serviceAccountName ++ "-dockercfg-").toList
  start.isPrefixOf name.toList && !((name.toList.drop start.length).contains '\n')

/-- `GetServiceAccountDockercfgSecretName`. -/
def getServiceAccountDockercfgSecretName (ns serviceAccountName : String) :
    Preparation String := do
  let secrets ← (send (.list .secret ns)).mapError
    (Failure.wrap s!"failed to list secrets in namespace {ns}: ")
  match secrets.find? fun (secret : Secret) =>
      isDockercfgSecretName serviceAccountName secret.metadata.name with
  | some (secret : Secret) => return secret.metadata.name
  | none => throw (errorf ("no dockercfg secret found for service account " ++
      s!"{serviceAccountName} in namespace {ns}"))

/-- The secret of the configured registry, or that of the internal one. -/
def getRegistrySecret (ns : String) (config : KMMImageConfig) : Preparation Secret :=
  if config.registrySecretName ≠ "" then
    (send (.get .secret ⟨ns, config.registrySecretName⟩)).mapError
      (Failure.wrap
        s!"failed to get secret {config.registrySecretName} in getMergedRegistrySecret: ")
  else do
    let name ← (getServiceAccountDockercfgSecretName ns "builder").mapError
      (Failure.wrap "error fetching dockercfg secret in getMergedRegistrySecret: ")
    (send (.get .secret ⟨ns, name⟩)).mapError (Failure.wrap
      s!"failed to get secret (for internal registry) {name} in getMergedRegistrySecret: ")

/-- The secret that credentials are merged into, or an empty one. -/
def getPushPullSecret (ns : String) : Preparation Secret := do
  match ← (send (.get .secret ⟨ns, kmmRegistryPushPullSecretName⟩)).attempt with
  | .error err =>
      if err.reason = .notFound then
        return { metadata := { name := kmmRegistryPushPullSecretName, ns } }
      else throw (errorf (s!"error while retrieving the {kmmRegistryPushPullSecretName} " ++
        s!"secret: {err.message}"))
  | .ok secret => return secret

/-- `getMergedRegistrySecret`. -/
def getMergedRegistrySecret (ns : String) (config : KMMImageConfig) :
    Preparation Secret := do
  let ibmPullSecret : Secret ← (send (.get .secret ⟨ns, ibmEntitlementName⟩)).mapError
    (Failure.wrap
      s!"failed to get ibmPullSecret pull secret {ibmEntitlementName} in getMergedRegistrySecret: ")
  let registrySecret ← getRegistrySecret ns config
  let kmmRegistryPushPullSecret ← getPushPullSecret ns
  let withEntitlement ←
    (orAbort (mergeDockerSecrets (some kmmRegistryPushPullSecret) (some ibmPullSecret))).mapError
      (Failure.wrap "failed to merge ibm pull secret: ")
  (orAbort (mergeDockerSecrets (some withEntitlement) (some registrySecret))).mapError
    (Failure.wrap "failed to merge registry secret: ")

/-! ## The core image -/

/-- What follows the first occurrence of a pattern. -/
def afterFirst (pattern : List Char) : List Char → Option (List Char)
  | [] => none
  | head :: tail =>
      if pattern.isPrefixOf (head :: tail) then some ((head :: tail).drop pattern.length)
      else afterFirst pattern tail

/-- What follows the last occurrence of a separator. -/
def afterLast (separator : Char) : List Char → Option (List Char)
  | [] => none
  | head :: tail =>
      match afterLast separator tail with
      | some rest => some rest
      | none => if head = separator then some tail else none

/-- `getIBMCoreImageHash`. -/
def getIBMCoreImageHash (image : String) : String :=
  match afterFirst "@sha256:".toList image.toList with
  | some hash => String.ofList hash
  | none =>
      match afterLast ':' image.toList with
      | some tag => if tag.contains '/' then "" else String.ofList tag
      | none => ""

/-- The image that the decoded configuration names. -/
def coreInit (objmap : Fields) : Except Abort String :=
  match objmap.get? "images" with
  | some (.object images) =>
      match Entries.get? images "coreInit" with
      | some (.string image) => .ok image
      | _ => .error (.panic "interface conversion: not a string")
  | _ => .error (.panic "interface conversion: not a map[string]interface \x7b\x7d")

/-- `getIBMCoreImage`, with the decoder of YAML maps. -/
def getIBMCoreImage (decodeYAML : String → Except String Fields) : Preparation String := do
  let cm : ConfigMap ← send (.get .configMap
    ⟨"ibm-spectrum-scale-operator", "ibm-spectrum-scale-manager-config"⟩)
  match decodeYAML ((cm.data.get? "controller_manager_config.yaml").getD "") with
  | .error message => throw (errorf message)
  | .ok objmap => orAbort (coreInit objmap)

/-! ## The resources -/

/-- The Dockerfile of the module build. -/
def dockerFileValue : String :=
  String.intercalate "\n" [
    "ARG IBM_SCALE",
    "ARG DTK_AUTO",
    "ARG KERNEL_FULL_VERSION",
    "FROM ${IBM_SCALE} as src_image",
    "FROM ${DTK_AUTO} as builder",
    "ARG KERNEL_FULL_VERSION",
    "COPY --from=src_image /usr/lpp/mmfs /usr/lpp/mmfs",
    "RUN /usr/lpp/mmfs/bin/mmbuildgpl",
    "RUN mkdir -p /opt/lib/modules/${KERNEL_FULL_VERSION}/",
    "RUN cp -avf /lib/modules/${KERNEL_FULL_VERSION}/extra/*.ko " ++
      "/opt/lib/modules/${KERNEL_FULL_VERSION}/",
    "RUN depmod -b /opt",
    "FROM registry.redhat.io/ubi9/ubi-minimal",
    "ARG KERNEL_FULL_VERSION",
    "RUN mkdir -p /opt/lib/modules/${KERNEL_FULL_VERSION}/ /opt/lxtrace/",
    "COPY --from=builder /opt/lib/modules/${KERNEL_FULL_VERSION}/*.ko " ++
      "/opt/lib/modules/${KERNEL_FULL_VERSION}/",
    "COPY --from=builder /opt/lib/modules/${KERNEL_FULL_VERSION}/modules* " ++
      "/opt/lib/modules/${KERNEL_FULL_VERSION}/",
    "COPY --from=builder /usr/lpp/mmfs/bin/lxtrace-${KERNEL_FULL_VERSION} /opt/lxtrace/"]

/-- `NewDockerConfigmap`. -/
def newDockerConfigmap (ns : String) : ConfigMap where
  metadata := { name := "kmm-dockerfile", ns }
  data := [("dockerfile", dockerFileValue)]

/-- How the modules are signed for secure boot. -/
def signing : Sign where
  filesToSign :=
    ["/opt/lib/modules/${KERNEL_FULL_VERSION}/mmfslinux.ko",
      "/opt/lib/modules/${KERNEL_FULL_VERSION}/mmfs26.ko",
      "/opt/lib/modules/${KERNEL_FULL_VERSION}/tracedev.ko"]
  keySecret := secureBootKey
  certSecret := secureBootKeyPub

/-- `NewKMMModule`. -/
def newKMMModule (ns ibmScaleImage : String) (sign : Bool) (config : KMMImageConfig) :
    Module where
  metadata := { name := "gpfs-module", ns }
  spec :=
    -- the tag of the image has to fit into 128 characters
    let ibmImageHash := String.ofList ((getIBMCoreImageHash ibmScaleImage).toList.take 32)
    { imagePullPolicy := "Always"
      modprobe :=
        { moduleName := "mmfs26"
          modulesLoadingOrder := ["mmfs26", "mmfslinux", "tracedev"]
          firmwarePath := "/opt/lxtrace/"
          dirName := "/opt" }
      insecure := config.tlsInsecure
      insecureSkipTLSVerify := config.tlsSkipVerify
      kernelMappings :=
        [{ regexp := "^.*\\.x86_64$"
           containerImage := config.registryURL ++ "/" ++ config.repo ++
             ":${KERNEL_FULL_VERSION}-" ++ ibmImageHash
           build :=
             { dockerfileConfigMap := "kmm-dockerfile"
               buildArgs := [⟨"IBM_SCALE", ibmScaleImage⟩] }
           sign := if sign then some signing else none }]
      serviceAccountName
      imageRepoSecret := kmmRegistryPushPullSecretName
      selector :=
        [("kubernetes.io/arch", "amd64"), ("scale.spectrum.ibm.com/role", "storage")] }

/-- `doSigningSecretsExist`. -/
def doSigningSecretsExist (ns : String) : List String → Preparation Bool
  | [] => return true
  | name :: names => do
      match ← (send (.get .secret ⟨ns, name⟩)).attempt with
      | .error _ => return false
      | .ok _ => doSigningSecretsExist ns names

/-- What `CreateOrUpdateKMMResources` changes about the secret. -/
def mutateSecret (existing desired : Secret) : Secret :=
  { existing with type := desired.type, data := desired.data }

/-- What it changes about the ConfigMap. -/
def mutateConfigMap (existing desired : ConfigMap) : ConfigMap :=
  { existing with data := desired.data }

/-- `mutateKMMModule`. -/
def mutateKMMModule (existing desired : Module) : Module :=
  if existing.spec = desired.spec then existing else { existing with spec := desired.spec }

/-- `GetDeploymentNamespace`, with the value of the environment variable. -/
def getDeploymentNamespace : Option String → Preparation String
  | some ns => pure ns
  | none => throw (errorf "DEPLOYMENT_NAMESPACE must be set")

/-- The part of `CreateOrUpdateKMMResources` that prepares the credentials. -/
def createOrUpdateRegistrySecret (ns : String) (config : KMMImageConfig) :
    Preparation Unit := do
  let secret ← (getMergedRegistrySecret ns config).mapError
    (Failure.wrap "failed to getMergedRegistrySecret in CreateOrUpdateKMMResources: ")
  (createOrUpdateResource .secret secret mutateSecret).mapError
    (Failure.wrap "failed to update secret in CreateOrUpdateKMMResources: ")

/-- The part that prepares the build. -/
def createOrUpdateModule (decodeYAML : String → Except String Fields) (ns : String)
    (config : KMMImageConfig) : Preparation Unit := do
  (createOrUpdateResource .configMap (newDockerConfigmap ns) mutateConfigMap).mapError
    (Failure.wrap "failed to update dockerconfigmap for KMM: ")
  let ibmScaleImage ← (getIBMCoreImage decodeYAML).mapError
    (Failure.wrap "failed to get coreImage in CreateOrUpdateKMMResources: ")
  let signModules ← doSigningSecretsExist ns [secureBootKey, secureBootKeyPub]
  (createOrUpdateResource .module (newKMMModule ns ibmScaleImage signModules config)
    mutateKMMModule).mapError
    (Failure.wrap "failed to update kernelModule in CreateOrUpdateKMMResources: ")

/-- `CreateOrUpdateKMMResources`. -/
def createOrUpdateKMMResources (decodeYAML : String → Except String Fields)
    (deploymentNamespace : Option String) : Preparation Unit := do
  let ns ← (getDeploymentNamespace deploymentNamespace).mapError
    (Failure.wrap "failed to get namespace in CreateOrUpdateKMMResources: ")
  let config ← (getKMMImageConfig ns).mapError
    (Failure.wrap "failed to get KMMImageConfigmap in CreateOrUpdateKMMResources: ")
  createOrUpdateRegistrySecret ns config
  createOrUpdateModule decodeYAML ns config

end Installation
