import FusionAccess.Installation.Entitlement

/-!
# What the preparation leaves behind

Every resource that the operator creates or updates is in place after success, and nothing
else has changed. So the pull secrets of all namespaces list the registry of the
entitlement, the Module describes the build, and the merged credentials are those of the
current registry secret, when a preparation has succeeded.
-/

namespace Installation

open Kubernetes Registry Interaction Fallible

/-! ## One resource -/

/-- The keys of the stored objects, in the order in which they are listed. -/
def Depot.keys (depot : Depot) (kind : Kind) : List NamespacedName :=
  (depot.objects kind).map kind.key

/-- Nothing has changed but the object of the kind with the key, and if it is new it comes
last. -/
structure Depot.OnlyAt (kind : Kind) (key : NamespacedName) (depot final : Depot) : Prop where
  others : ∀ (other : Kind) (name : NamespacedName), other ≠ kind ∨ name ≠ key →
    final.find? other name = depot.find? other name
  keys : ∀ other, final.keys other = depot.keys other ∨
    other = kind ∧ depot.find? kind key = none ∧ final.keys other = depot.keys other ++ [key]

theorem Kind.withMetadata_metadata (kind : Kind) (object : kind.Object) :
    kind.withMetadata object (kind.metadata object) = object := by
  cases kind <;> rfl

/-- The object, with any metadata, is stored under the key. -/
def Depot.Keeps (depot : Depot) (kind : Kind) (key : NamespacedName) (object : kind.Object) :
    Prop :=
  ∃ metadata, depot.find? kind key = some (kind.withMetadata object metadata)

section Resource

variable {depot : Depot} {kind : Kind} {object : kind.Object}

theorem onlyAt_refl {key : NamespacedName} : depot.OnlyAt kind key depot :=
  ⟨fun _ _ _ => rfl, fun _ => Or.inl rfl⟩

theorem keys_store_self (depot : Depot) (kind : Kind) (objects : List kind.Object) :
    (depot.store kind objects).keys kind = objects.map kind.key := by
  unfold Depot.keys Depot.store
  exact congrArg (List.map kind.key) (Function.update_self _ _ _)

theorem keys_store_of_ne
    {kind other : Kind} (different : other ≠ kind)
    (depot : Depot) (objects : List kind.Object) :
    (depot.store kind objects).keys other = depot.keys other := by
  unfold Depot.keys Depot.store
  exact congrArg (List.map other.key) (Function.update_of_ne different _ _)

theorem onlyAt_create : depot.OnlyAt kind (kind.key object) (depot.create kind object).1 where
  others := by
    intro other name apart
    by_cases same : other = kind
    · subst same
      exact (find?_answer_of_other_key (apart.resolve_left fun different =>
        different rfl)).1
    · exact (find?_answer_of_ne same object).1
  keys := by
    intro other
    unfold Depot.create
    split
    · exact Or.inl rfl
    · split
      · exact Or.inl rfl
      next absent =>
        by_cases same : other = kind
        · subst same
          refine Or.inr ⟨rfl, absent, ?_⟩
          rw [keys_store_self, List.map_append, List.map_singleton, Kind.key, Depot.created,
            Kind.metadata_withMetadata]
          rfl
        · exact Or.inl (keys_store_of_ne same _ _)

theorem onlyAt_update : depot.OnlyAt kind (kind.key object) (depot.update kind object).1 where
  others := by
    intro other name apart
    by_cases same : other = kind
    · subst same
      exact (find?_answer_of_other_key (apart.resolve_left fun different =>
        different rfl)).2
    · exact (find?_answer_of_ne same object).2
  keys := by
    intro other
    refine Or.inl ?_
    unfold Depot.update
    split
    · rfl
    · split
      · rfl
      · by_cases same : other = kind
        · subst same
          rw [keys_store_self]
          refine Registry.map_key_amend fun record _ => ?_
          rw [Kind.key, Depot.updated, Kind.metadata_withMetadata]
          rfl
        · exact keys_store_of_ne same _ _

/-- A call that writes an object is refused, or leaves the object behind. -/
theorem ensures_writes
    {request : ModuleRequest} {key : NamespacedName}
    {post : Except Failure request.Yield → Depot → Prop}
    (named : kind.key object = key)
    (cases : (∃ err, depot.answer request = (depot, .error err)) ∨
      (depot.answer request).1.Stores kind object)
    (only : depot.OnlyAt kind (kind.key object) (depot.answer request).1)
    (written : ∀ result final, depot.OnlyAt kind key final → final.Keeps kind key object →
      post result final)
    (failed : ∀ err : Failure, post (.error err) depot) :
    Fallible.Ensures anyRequest (send request) post depot := by
  subst named
  refine Api.ensures_ask trivial (fun _ => ?_) fun failure _ _ final same => ?_
  · rcases cases with ⟨err, refused⟩ | stores
    · rw [refused]
      exact failed err
    · exact written _ _ only stores
  · rcases same with rfl | rfl
    · exact failed failure
    · rcases cases with ⟨err, refused⟩ | stores
      · rw [refused]
        exact failed failure
      · exact written _ _ only stores

/-- A resource that is created or updated is in place after success, and nothing else
changes. -/
theorem ensures_createOrUpdateResource
    {desired : kind.Object} {mutateFn : kind.Object → kind.Object → kind.Object}
    (named : ∀ existing, kind.key existing = kind.key desired →
      kind.key (mutateFn existing desired) = kind.key desired) :
    Fallible.Ensures anyRequest (createOrUpdateResource kind desired mutateFn)
      (fun result final => depot.OnlyAt kind (kind.key desired) final ∧
        (result = .ok () → ∃ existing,
          final.Keeps kind (kind.key desired) (mutateFn existing desired))) depot := by
  rw [createOrUpdateResource, ensures_bind]
  refine ensures_getExisting (fun desiredOrStored same => ?_)
    fun err => ⟨onlyAt_refl, by simp⟩
  change Fallible.Ensures _ (Fallible.mapError _ _) _ _
  rw [ensures_mapError, createOrUpdate, ensures_bind, ensures_attempt]
  refine ensures_get (fun existing stored => ?_) fun err _ => ?_
  · have isKey : kind.key existing = kind.key desired :=
      (Registry.find?_eq_some stored).2.trans same
    rw [onSuccess_ok, ensures_ite]
    constructor
    · intro unchanged
      refine ⟨onlyAt_refl, fun _ => ⟨existing, kind.metadata existing, ?_⟩⟩
      rw [unchanged, Kind.withMetadata_metadata, ← same]
      exact stored
    · intro _
      refine ensures_writes (named existing isKey) (update_cases _ _ _) onlyAt_update ?_
        fun err => ⟨onlyAt_refl, by simp [Except.mapError]⟩
      exact fun result final only kept => ⟨only, fun _ => ⟨existing, kept⟩⟩
  · rw [onSuccess_ok, ensures_ite]
    refine ⟨fun _ => ?_, fun _ => ⟨onlyAt_refl, by simp [Except.mapError]⟩⟩
    refine ensures_writes (named desiredOrStored same) (create_cases _ _ _) onlyAt_create ?_
      fun err => ⟨onlyAt_refl, by simp [Except.mapError]⟩
    exact fun result final only kept => ⟨only, fun _ => ⟨desiredOrStored, kept⟩⟩

end Resource

/-! ## Which secrets change -/

/-- Of the secrets only those of one kind have changed; the configuration of the image and
the name of the secret of the internal registry have not. -/
structure KeepsSecrets (written : NamespacedName → Prop) (ns : String) (depot final : Depot) :
    Prop where
  secrets : ∀ name, ¬written name → final.find? .secret name = depot.find? .secret name
  imageConfig : final.imageConfig ns = depot.imageConfig ns
  builder : final.builderSecretName? ns = depot.builderSecretName? ns

/-- Of the secrets only the one that credentials are merged into has changed. -/
abbrev KeepsEntitlements (ns : String) : Depot → Depot → Prop :=
  KeepsSecrets (fun name => name = pushPullKey ns) ns

/-- Of the secrets only those that distribute the entitlement have changed. -/
abbrev Distributes (ns : String) : Depot → Depot → Prop :=
  KeepsSecrets (fun name => name.name = ibmEntitlementName) ns

/-- The name of the secret of the internal registry depends on the keys only. -/
theorem builderSecretName?_eq (depot : Depot) (ns : String) :
    depot.builderSecretName? ns =
      ((depot.keys .secret).find? fun key =>
        decide (key.ns = ns) && isDockercfgSecretName "builder" key.name).map
          NamespacedName.name := by
  unfold Depot.builderSecretName? Depot.keys
  rw [List.find?_filter, List.find?_map, Option.map_map]
  refine congrArg (Option.map _) (congrArg (fun selects => List.find? selects _) ?_)
  funext secret
  simp only [Bool.decide_and, Bool.decide_eq_true]
  rfl

section Secrets

variable {written : NamespacedName → Prop} {depot between final : Depot} {ns : String}

theorem KeepsSecrets.refl : KeepsSecrets written ns depot depot :=
  ⟨fun _ _ => rfl, rfl, rfl⟩

theorem KeepsSecrets.trans
    (first : KeepsSecrets written ns depot between)
    (second : KeepsSecrets written ns between final) :
    KeepsSecrets written ns depot final where
  secrets := fun name other => (second.secrets name other).trans (first.secrets name other)
  imageConfig := second.imageConfig.trans first.imageConfig
  builder := second.builder.trans first.builder

/-- One object changes, which is neither the ConfigMap of the image nor a secret of the
internal registry. -/
theorem keepsSecrets_of_onlyAt
    {kind : Kind} {key : NamespacedName}
    (only : depot.OnlyAt kind key final)
    (secrets : kind = .secret → written key)
    (builder : kind = .secret → isDockercfgSecretName "builder" key.name ≠ true)
    (configMaps : kind = .configMap → key.name ≠ kmmImageConfigMapName) :
    KeepsSecrets written ns depot final where
  secrets := by
    intro name other
    refine only.others .secret name ?_
    by_cases same : kind = .secret
    · refine Or.inr fun isKey => other ?_
      rw [isKey]
      exact secrets same
    · exact Or.inl (Ne.symm same)
  imageConfig := by
    unfold Depot.imageConfig
    rw [only.others .configMap ⟨ns, kmmImageConfigMapName⟩]
    by_cases same : kind = .configMap
    · refine Or.inr fun isKey => configMaps same ?_
      rw [← isKey]
    · exact Or.inl (Ne.symm same)
  builder := by
    rw [builderSecretName?_eq, builderSecretName?_eq]
    rcases only.keys .secret with same | ⟨isSecret, -, appended⟩
    · rw [same]
    · rw [appended, List.find?_append, List.find?_singleton, if_neg]
      · rw [Option.or_none]
      · rw [Bool.and_eq_true]
        rintro ⟨-, impossible⟩
        exact builder isSecret.symm impossible

end Secrets

/-! ## The pull secrets -/

/-- The pull secret of a namespace lists the registry of the entitlement. -/
def ListsEntitlement (depot : Depot) (destNamespace : String) : Prop :=
  ∃ stored : Secret, depot.find? .secret ⟨destNamespace, ibmEntitlementName⟩ = some stored ∧
    (stored.credential? ibmRegistry).isSome

/-- The data lists the registry of the entitlement. -/
def listsEntitlement (secretData : Entries String Payload) : Bool :=
  ((auths (payloadOf secretData).fields).get? ibmRegistry).isSome

section PullSecrets

variable {depot : Depot} {ns : String} {extraPullSecret : Option Secret}
  {secretData : Entries String Payload}

/-- What is merged into the data does not drop the registry. -/
theorem listsEntitlement_ibmPullSecret
    {destNamespace : String} {secret : Secret}
    (lists : listsEntitlement secretData = true)
    (merges : ibmPullSecret extraPullSecret secretData destNamespace = .ok secret) :
    listsEntitlement secret.data = true := by
  cases extraPullSecret with
  | none =>
      cases merges
      exact lists
  | some extraPullSecret => exact isSome_credential?_mergeDockerSecrets merges lists

/-- A pull secret whose data is stored. -/
theorem listsEntitlement_of_keeps
    {existing secret : Secret} {destNamespace : String}
    (lists : listsEntitlement secret.data = true)
    (kept : depot.Keeps .secret ⟨destNamespace, ibmEntitlementName⟩
      (mutateSecret existing secret)) :
    ListsEntitlement depot destNamespace := by
  obtain ⟨metadata, stored⟩ := kept
  exact ⟨_, stored, lists⟩

/-- Induction on the namespaces: after success the pull secret of each of them lists the
registry, and no other object has changed in any case. -/
theorem ensures_updatePullSecrets_lists
    {destNamespaces : List String}
    (lists : listsEntitlement secretData = true) :
    Fallible.Ensures anyRequest (updatePullSecrets extraPullSecret secretData destNamespaces)
      (fun result final =>
        (∀ (kind : Kind) (name : NamespacedName),
          (kind ≠ .secret ∨ ∀ destNamespace ∈ destNamespaces,
            name ≠ ⟨destNamespace, ibmEntitlementName⟩) →
          final.find? kind name = depot.find? kind name) ∧
        Distributes ns depot final ∧
        (result = .ok () → ∀ destNamespace ∈ destNamespaces,
          ListsEntitlement final destNamespace)) depot := by
  induction destNamespaces generalizing secretData depot with
  | nil => exact ⟨fun _ _ _ => rfl, .refl, by simp⟩
  | cons destNamespace destNamespaces inductionHypothesis =>
      rw [updatePullSecrets, ensures_bind, ensures_mapError]
      cases merges : ibmPullSecret extraPullSecret secretData destNamespace with
      | error abort =>
          exact ⟨fun _ _ _ => rfl, .refl, fun succeeded => by cases succeeded⟩
      | ok secret =>
          have stillLists := listsEntitlement_ibmPullSecret lists merges
          have key : Kind.secret.key secret = ⟨destNamespace, ibmEntitlementName⟩ :=
            metadata_ibmPullSecret merges
          change Fallible.Ensures _ (_ >>= _) _ _
          rw [ensures_bind, ensures_mapError]
          refine (@ensures_createOrUpdateResource depot .secret secret mutateSecret
            fun _ named => named).mono ?_
          rw [key]
          rintro result between ⟨only, written⟩
          have distributes : Distributes ns depot between :=
            keepsSecrets_of_onlyAt only (fun _ => rfl)
              (fun _ => show isDockercfgSecretName "builder" ibmEntitlementName ≠ true by decide)
              fun impossible => by cases impossible
          rcases result with err | _
          · refine ⟨fun kind name apart => only.others kind name (apart.imp_right ?_),
              distributes, fun succeeded => by cases succeeded⟩
            exact fun others => others destNamespace List.mem_cons_self
          · obtain ⟨existing, kept⟩ := written rfl
            have here := listsEntitlement_of_keeps stillLists kept
            have later := @inductionHypothesis between secret.data stillLists
            refine later.mono fun result final ensured => ?_
            obtain ⟨untouched, distributesOn, succeeds⟩ := ensured
            refine ⟨fun kind name apart => ?_, distributes.trans distributesOn,
              fun succeeded => ?_⟩
            · have before := only.others kind name (apart.imp_right fun others =>
                others destNamespace List.mem_cons_self)
              refine (untouched kind name (apart.imp_right fun others other member => ?_)).trans
                before
              exact others other (List.mem_cons_of_mem _ member)
            · refine List.forall_mem_cons.mpr ⟨?_, succeeds succeeded⟩
              by_cases again : destNamespace ∈ destNamespaces
              · exact succeeds succeeded destNamespace again
              · obtain ⟨stored, found, listed⟩ := here
                refine ⟨stored, ?_, listed⟩
                rw [← found]
                refine untouched .secret _ (Or.inr fun other member same => again ?_)
                have sameNamespace : destNamespace = other := congrArg NamespacedName.ns same
                rw [sameNamespace]
                exact member

/-- Reading the extra secret changes nothing. -/
theorem ensures_getExtraPullSecret
    (ns : String) {post : Except Failure (Option Secret) → Depot → Prop}
    (holds : ∀ result, post result depot) :
    Fallible.Ensures anyRequest (getExtraPullSecret ns) post depot := by
  rw [getExtraPullSecret, ensures_bind, ensures_attempt]
  exact ensures_get (fun secret _ => holds _) fun err _ => holds _

/-- Only the pull secrets change, and after success that of every namespace lists the
registry. -/
theorem ensures_updateEntitlementPullSecrets (secret : List UInt8) (ns : String) :
    Fallible.Ensures anyRequest (updateEntitlementPullSecrets secret ns)
      (fun result final => Distributes ns depot final ∧
        (result = .ok () → ∀ destNamespace ∈ ibmEntitlementSecrets ns,
          ListsEntitlement final destNamespace)) depot := by
  rw [updateEntitlementPullSecrets, ensures_bind]
  refine ensures_getExtraPullSecret ns ?_
  rintro (err | extraPullSecret)
  · exact ⟨.refl, by simp⟩
  · have lists : listsEntitlement (entitlementData secret) = true := rfl
    exact (ensures_updatePullSecrets_lists lists).mono fun result final ensured => ensured.2

end PullSecrets

/-! ## The Module -/

/-- The key of the Module. -/
def moduleKey (ns : String) : NamespacedName := ⟨ns, "gpfs-module"⟩

/-- The Module describes the build of some image under the current configuration. -/
def DescribesBuild (depot : Depot) (ns : String) : Prop :=
  ∃ (stored : Module) (ibmScaleImage : String) (sign : Bool),
    depot.find? .module (moduleKey ns) = some stored ∧
      stored.spec = (newKMMModule ns ibmScaleImage sign (depot.imageConfig ns)).spec

section Module

variable {depot between final : Depot} {ns : String}

/-- The name of the secret that credentials are merged into is not one of the internal
registry. -/
theorem keepsEntitlements_of_onlyAt
    {kind : Kind} {key : NamespacedName}
    (only : depot.OnlyAt kind key final)
    (secrets : kind = .secret → key = pushPullKey ns)
    (configMaps : kind = .configMap → key.name ≠ kmmImageConfigMapName) :
    KeepsEntitlements ns depot final := by
  refine keepsSecrets_of_onlyAt only secrets (fun isSecret => ?_) configMaps
  rw [secrets isSecret]
  exact show isDockercfgSecretName "builder" kmmRegistryPushPullSecretName ≠ true by decide

/-- The part that prepares the credentials. -/
theorem ensures_createOrUpdateRegistrySecret_keeps :
    Fallible.Ensures anyRequest (createOrUpdateRegistrySecret ns (depot.imageConfig ns))
      (fun _ final => KeepsEntitlements ns depot final) depot := by
  have unchanged : KeepsEntitlements ns depot depot := .refl
  rw [createOrUpdateRegistrySecret, ensures_bind, ensures_mapError]
  refine ensures_getMergedRegistrySecret (fun secret merges => ?_) fun _ => unchanged
  change Fallible.Ensures _ (Fallible.mapError _ _) _ _
  rw [ensures_mapError]
  refine (@ensures_createOrUpdateResource depot .secret secret mutateSecret
    fun _ named => named).mono ?_
  rintro result final ⟨only, -⟩
  refine keepsEntitlements_of_onlyAt only (fun _ => metadata_of_merges merges) ?_
  intro impossible
  cases impossible

theorem ensures_doSigningSecretsExist
    (names : List String) {post : Except Failure Bool → Depot → Prop}
    (holds : ∀ sign, post (.ok sign) depot) :
    Fallible.Ensures anyRequest (doSigningSecretsExist ns names) post depot := by
  induction names with
  | nil => exact holds true
  | cons name names inductionHypothesis =>
      rw [doSigningSecretsExist, ensures_bind, ensures_attempt]
      exact ensures_get (fun secret _ => inductionHypothesis) fun err _ => holds false

theorem ensures_getIBMCoreImage
    (decodeYAML : String → Except String Fields)
    {post : Except Failure String → Depot → Prop}
    (holds : ∀ result, post result depot) :
    Fallible.Ensures anyRequest (getIBMCoreImage decodeYAML) post depot := by
  rw [getIBMCoreImage, ensures_bind]
  refine ensures_get (fun cm _ => ?_) fun err _ => holds _
  rw [onSuccess_ok]
  split
  · exact holds _
  · exact ensures_orAbort (fun _ _ => holds _) fun _ => holds _

/-- The part that prepares the build. -/
theorem ensures_createOrUpdateModule
    (decodeYAML : String → Except String Fields) :
    Fallible.Ensures anyRequest (createOrUpdateModule decodeYAML ns (depot.imageConfig ns))
      (fun result final => KeepsEntitlements ns depot final ∧
        (result = .ok () → DescribesBuild final ns)) depot := by
  rw [createOrUpdateModule, ensures_bind, ensures_mapError]
  refine (@ensures_createOrUpdateResource depot .configMap (newDockerConfigmap ns)
    mutateConfigMap fun _ named => named).mono ?_
  rintro result between ⟨only, -⟩
  have kept : KeepsEntitlements ns depot between :=
    keepsEntitlements_of_onlyAt only (fun impossible => by cases impossible) fun _ =>
      show "kmm-dockerfile" ≠ kmmImageConfigMapName by decide
  cases result with
  | error err => exact ⟨kept, fun succeeded => by cases succeeded⟩
  | ok _ =>
      change Fallible.Ensures _ (_ >>= _) _ _
      rw [ensures_bind, ensures_mapError]
      refine ensures_getIBMCoreImage decodeYAML ?_
      rintro (err | ibmScaleImage)
      · exact ⟨kept, fun succeeded => by cases succeeded⟩
      change Fallible.Ensures _ (_ >>= _) _ _
      rw [ensures_bind]
      refine ensures_doSigningSecretsExist _ fun sign => ?_
      rw [onSuccess_ok, ensures_mapError]
      have named : ∀ existing : Module,
          Kind.module.key existing = moduleKey ns →
            Kind.module.key (mutateKMMModule existing
              (newKMMModule ns ibmScaleImage sign (depot.imageConfig ns))) = moduleKey ns := by
        intro existing isKey
        rw [mutateKMMModule]
        split
        · exact isKey
        · exact isKey
      refine (@ensures_createOrUpdateResource between .module
        (newKMMModule ns ibmScaleImage sign (depot.imageConfig ns)) mutateKMMModule
        named).mono ?_
      rintro result final ⟨onlyModule, written⟩
      have later : KeepsEntitlements ns between final :=
        keepsEntitlements_of_onlyAt onlyModule (fun impossible => by cases impossible)
          fun impossible => by cases impossible
      have all := kept.trans later
      refine ⟨all, fun succeeded => ?_⟩
      cases result with
      | error err => cases succeeded
      | ok _ =>
          obtain ⟨existing, metadata, stored⟩ := written rfl
          refine ⟨_, ibmScaleImage, sign, stored, ?_⟩
          rw [all.imageConfig]
          change (mutateKMMModule existing _).spec = _
          rw [mutateKMMModule]
          split
          next same => exact same
          · rfl

/-- After success the Module describes the build, and in any case the pull secrets are as
they were. -/
theorem ensures_createOrUpdateKMMResources
    (decodeYAML : String → Except String Fields) :
    Fallible.Ensures anyRequest (createOrUpdateKMMResources decodeYAML (some ns))
      (fun result final => KeepsEntitlements ns depot final ∧
        (result = .ok () → DescribesBuild final ns)) depot := by
  have unchanged : KeepsEntitlements ns depot depot := .refl
  rw [createOrUpdateKMMResources, ensures_bind, ensures_mapError]
  change Fallible.Ensures _ (_ >>= _) _ _
  rw [ensures_bind, ensures_mapError]
  refine ensures_getKMMImageConfig ?_ fun err => ⟨unchanged, by simp⟩
  change Fallible.Ensures _ (_ >>= _) _ _
  rw [ensures_bind]
  refine ensures_createOrUpdateRegistrySecret_keeps.mono fun result between kept => ?_
  cases result with
  | error err => exact ⟨kept, fun succeeded => by cases succeeded⟩
  | ok _ =>
      rw [onSuccess_ok, ← kept.imageConfig]
      refine (ensures_createOrUpdateModule decodeYAML).mono fun result final ensured => ?_
      exact ⟨kept.trans ensured.1, ensured.2⟩

end Module

/-! ## Up to date -/

/-- The name of the current registry secret. -/
def Depot.registrySecretName? (depot : Depot) (ns : String) : Option String :=
  let config := depot.imageConfig ns
  if config.registrySecretName ≠ "" then some config.registrySecretName
  else depot.builderSecretName? ns

/-- The registries that the current registry secret lists have its credentials. -/
def UpToDate (ns : String) (depot : Depot) : Prop :=
  ∀ secret, depot.registrySecret? ns = some secret → ∀ registry credential,
    secret.listed? registry = some credential →
      depot.credential? ns registry = some credential

/-- The source of the credentials is well formed, and none of the secrets that the operator
writes itself. -/
structure WellSourced (ns : String) (depot : Depot) : Prop where
  source : ∀ secret, depot.registrySecret? ns = some secret →
    secret.IsSource ∧ secret.FormatTold
  apart : ∀ name, depot.registrySecretName? ns = some name →
    name ≠ kmmRegistryPushPullSecretName ∧ name ≠ ibmEntitlementName

section Credentials

variable {depot final : Depot} {ns : String} {written : NamespacedName → Prop}

theorem registrySecret?_eq :
    depot.registrySecret? ns =
      (depot.registrySecretName? ns).bind fun name => depot.find? .secret ⟨ns, name⟩ := by
  unfold Depot.registrySecret? Depot.registrySecretName?
  dsimp only
  split
  · rfl
  · rfl

theorem KeepsSecrets.registrySecretName?_eq (kept : KeepsSecrets written ns depot final) :
    final.registrySecretName? ns = depot.registrySecretName? ns := by
  unfold Depot.registrySecretName?
  rw [kept.imageConfig, kept.builder]

/-- The source is not among the secrets that have changed. -/
theorem KeepsSecrets.registrySecret?_eq
    (kept : KeepsSecrets written ns depot final)
    (apart : ∀ name, depot.registrySecretName? ns = some name → ¬written ⟨ns, name⟩) :
    final.registrySecret? ns = depot.registrySecret? ns := by
  rw [Installation.registrySecret?_eq, Installation.registrySecret?_eq,
    kept.registrySecretName?_eq]
  cases named : depot.registrySecretName? ns with
  | none => rfl
  | some name => exact kept.secrets _ (apart name named)

/-- The distribution of the entitlement leaves the source as it is. -/
theorem WellSourced.distributed
    (sourced : WellSourced ns depot) (kept : Distributes ns depot final) :
    WellSourced ns final where
  source := by
    rw [kept.registrySecret?_eq fun name named => (sourced.apart name named).2]
    exact sourced.source
  apart := by
    rw [kept.registrySecretName?_eq]
    exact sourced.apart

/-- After success the credentials are up to date, if their source is well formed. -/
theorem ensures_createOrUpdateKMMResources_upToDate
    (decodeYAML : String → Except String Fields) :
    Fallible.Ensures anyRequest (createOrUpdateKMMResources decodeYAML (some ns))
      (fun result final => result = .ok () → WellSourced ns depot → UpToDate ns final)
      depot := by
  refine ((ensures_createOrUpdateKMMResources decodeYAML).and
    (ensures_createOrUpdateKMMResources_written depot)).mono ?_
  rintro result final ⟨⟨kept, -⟩, -, written⟩ succeeded sourced secret current registry
    credential listed
  rw [kept.registrySecret?_eq fun name named same =>
    (sourced.apart name named).1 (congrArg NamespacedName.name same)] at current
  exact credential?_of_written (written succeeded) current (sourced.source secret current) listed

end Credentials

end Installation
