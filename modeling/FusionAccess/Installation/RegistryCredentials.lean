import FusionAccess.Installation.KernelModule
import FusionAccess.Interaction.Run
import FusionAccess.Interaction.Safe

/-!
# Registry credentials accumulate

Every preparation of the kernel module reads the secret that an earlier one has
written, merges the current credentials into it and writes it back. Images of
earlier registries stay reachable because no merge drops a registry.
-/

namespace Installation

open Kubernetes Registry Interaction Fallible

/-! ## Single calls -/

@[simp] theorem Kind.metadata_withMetadata
    (kind : Kind) (object : kind.Object) (metadata : ObjectMeta) :
    kind.metadata (kind.withMetadata object metadata) = metadata := by
  cases kind <;> rfl

theorem Depot.find?_store
    (depot : Depot) (kind : Kind) (objects : List kind.Object) (key : NamespacedName) :
    (depot.store kind objects).find? kind key = Registry.find? kind.key key objects := by
  rw [Depot.find?, Depot.store]
  exact congrArg _ (Function.update_self _ _ _)

theorem Depot.find?_store_of_ne
    {kind other : Kind} (different : other ≠ kind)
    (depot : Depot) (objects : List kind.Object) (key : NamespacedName) :
    (depot.store kind objects).find? other key = depot.find? other key := by
  rw [Depot.find?, Depot.store]
  exact congrArg _ (Function.update_of_ne different _ _)

/-- The object is stored, up to its metadata. -/
def Depot.Stores (depot : Depot) (kind : Kind) (object : kind.Object) : Prop :=
  ∃ metadata, depot.find? kind (kind.key object) = some (kind.withMetadata object metadata)

/-- A creation is refused, or stores the object. -/
theorem create_cases (depot : Depot) (kind : Kind) (object : kind.Object) :
    (∃ err, depot.create kind object = (depot, .error err)) ∨
      (depot.create kind object).1.Stores kind object := by
  unfold Depot.create
  split
  · exact Or.inl ⟨_, rfl⟩
  · split
    · exact Or.inl ⟨_, rfl⟩
    next absent =>
      refine Or.inr ⟨kind.metadata (depot.created kind object), ?_⟩
      rw [Depot.find?_store, Registry.find?_append, ← Depot.find?, absent, Option.none_or,
        Registry.find?_cons, if_pos]
      · rw [Depot.created, Kind.metadata_withMetadata]
      · rw [Kind.key, Depot.created, Kind.metadata_withMetadata]
        rfl

/-- An update is refused, or stores the object. -/
theorem update_cases (depot : Depot) (kind : Kind) (object : kind.Object) :
    (∃ err, depot.update kind object = (depot, .error err)) ∨
      (depot.update kind object).1.Stores kind object := by
  unfold Depot.update
  split
  · exact Or.inl ⟨_, rfl⟩
  next stored present =>
    split
    · exact Or.inl ⟨_, rfl⟩
    · refine Or.inr ⟨kind.metadata (depot.updated kind object stored), ?_⟩
      rw [Depot.find?_store, Registry.find?_amend_self, ← Depot.find?, present]
      · rw [Option.map_some, Depot.updated, Kind.metadata_withMetadata]
      · intro record _
        rw [Kind.key, Depot.updated, Kind.metadata_withMetadata]
        rfl

/-- Calls about objects of one kind leave those of the others alone. -/
theorem find?_answer_of_ne
    {depot : Depot} {kind other : Kind} {key : NamespacedName} (different : other ≠ kind)
    (object : kind.Object) :
    (depot.create kind object).1.find? other key = depot.find? other key ∧
      (depot.update kind object).1.find? other key = depot.find? other key := by
  constructor
  · unfold Depot.create
    split
    · rfl
    · split
      · rfl
      · exact Depot.find?_store_of_ne different _ _ _
  · unfold Depot.update
    split
    · rfl
    · split
      · rfl
      · exact Depot.find?_store_of_ne different _ _ _

/-- Every call is admitted. -/
abbrev anyRequest : Contract depotServer := Contract.demand fun _ _ => True

section Calls

variable {depot : Depot} {kind : Kind} {key : NamespacedName} {object : kind.Object}

theorem ensures_get
    {post : Except Failure kind.Object → Depot → Prop}
    (found : ∀ object, depot.find? kind key = some object → post (.ok object) depot)
    (failed : ∀ err : Failure, (err.reason = .notFound → depot.find? kind key = none) →
      post (.error err) depot) :
    Fallible.Ensures anyRequest (send (.get kind key)) post depot := by
  refine Api.ensures_ask trivial (fun _ => ?_) fun failure transient _ final same => ?_
  · cases stored : depot.find? kind key with
    | none =>
        simp only [Depot.answer, stored]
        exact failed _ fun _ => stored
    | some object =>
        simp only [Depot.answer, stored]
        exact found object stored
  · obtain rfl : final = depot := same.elim id id
    exact failed failure fun absent => absurd absent transient.1

theorem ensures_list
    {ns : String} {post : Except Failure (List kind.Object) → Depot → Prop}
    (listed : post (.ok ((depot.objects kind).filter fun object =>
      (kind.metadata object).ns = ns)) depot)
    (failed : ∀ err : Failure, post (.error err) depot) :
    Fallible.Ensures anyRequest (send (.list kind ns)) post depot := by
  refine Api.ensures_ask trivial (fun _ => listed) fun failure _ _ final same => ?_
  obtain rfl : final = depot := same.elim id id
  exact failed failure

/-- A call that is refused, or stores an object. -/
theorem ensures_write
    {request : ModuleRequest} {post : Except Failure request.Yield → Depot → Prop}
    (cases : (∃ err, depot.answer request = (depot, .error err)) ∨
      (depot.answer request).1.Stores kind object)
    (written : ∀ result final, final.Stores kind object → post result final)
    (failed : ∀ err : Failure, post (.error err) depot) :
    Fallible.Ensures anyRequest (send request) post depot := by
  refine Api.ensures_ask trivial (fun _ => ?_) fun failure _ _ final same => ?_
  · rcases cases with ⟨err, refused⟩ | stores
    · rw [refused]
      exact failed err
    · exact written _ _ stores
  · rcases same with rfl | rfl
    · exact failed failure
    · rcases cases with ⟨err, refused⟩ | stores
      · rw [refused]
        exact failed failure
      · exact written _ _ stores

end Calls

/-! ## What a preparation reads -/

/-- The key of the secret that credentials are merged into. -/
def pushPullKey (ns : String) : NamespacedName := ⟨ns, kmmRegistryPushPullSecretName⟩

namespace Depot

/-- The secret that credentials are merged into. -/
def pushPullSecret (depot : Depot) (ns : String) : Secret :=
  (depot.find? .secret (pushPullKey ns)).getD
    { metadata := { name := kmmRegistryPushPullSecretName, ns } }

/-- The configuration of the image. -/
def imageConfig (depot : Depot) (ns : String) : KMMImageConfig :=
  match depot.find? .configMap ⟨ns, kmmImageConfigMapName⟩ with
  | some (cm : ConfigMap) => (KMMImageConfig.defaults ns).override cm.data
  | none => .defaults ns

/-- The name of the secret of the internal registry. -/
def builderSecretName? (depot : Depot) (ns : String) : Option String :=
  (((depot.objects .secret).filter fun (secret : Secret) =>
    secret.metadata.ns = ns).find? fun (secret : Secret) =>
      isDockercfgSecretName "builder" secret.metadata.name).map
        fun (secret : Secret) => secret.metadata.name

/-- The current registry secret. -/
def registrySecret? (depot : Depot) (ns : String) : Option Secret :=
  let config := depot.imageConfig ns
  if config.registrySecretName ≠ "" then
    depot.find? .secret ⟨ns, config.registrySecretName⟩
  else (depot.builderSecretName? ns).bind fun name => depot.find? .secret ⟨ns, name⟩

/-- The secret that a preparation writes. -/
def Merges (depot : Depot) (ns : String) (secret : Secret) : Prop :=
  ∃ entitlement registry withEntitlement, depot.registrySecret? ns = some registry ∧
    mergeDockerSecrets (some (depot.pushPullSecret ns)) (some entitlement) =
      .ok withEntitlement ∧
    mergeDockerSecrets (some withEntitlement) (some registry) = .ok secret

/-- The merged credentials are stored. -/
def Written (depot final : Depot) (ns : String) : Prop :=
  ∃ secret stored : Secret, depot.Merges ns secret ∧
    final.find? .secret (pushPullKey ns) = some stored ∧ stored.data = secret.data

end Depot

section Reading

variable {depot : Depot} {ns : String}

theorem ensures_getKMMImageConfig
    {post : Except Failure KMMImageConfig → Depot → Prop}
    (found : post (.ok (depot.imageConfig ns)) depot)
    (failed : ∀ err, post (.error err) depot) :
    Fallible.Ensures anyRequest (getKMMImageConfig ns) post depot := by
  unfold Depot.imageConfig at found
  rw [getKMMImageConfig, ensures_bind, ensures_attempt]
  refine ensures_get (fun cm stored => ?_) fun err absent => ?_
  · rw [stored] at found
    exact found
  · rw [onSuccess_ok, ensures_ite]
    refine ⟨fun missing => ?_, fun _ => failed _⟩
    rw [absent missing] at found
    exact found

theorem ensures_getServiceAccountDockercfgSecretName
    {post : Except Failure String → Depot → Prop}
    (found : ∀ name, depot.builderSecretName? ns = some name → post (.ok name) depot)
    (failed : ∀ err, post (.error err) depot) :
    Fallible.Ensures anyRequest (getServiceAccountDockercfgSecretName ns "builder") post
      depot := by
  rw [getServiceAccountDockercfgSecretName, ensures_bind, ensures_mapError]
  refine ensures_list ?_ fun err => failed _
  unfold Depot.builderSecretName? at found
  dsimp only [Except.mapError]
  rw [onSuccess_ok]
  split
  next secret listed =>
    exact found _ (congrArg (Option.map fun secret : Secret => secret.metadata.name) listed)
  · exact failed _

theorem ensures_getRegistrySecret
    {post : Except Failure Secret → Depot → Prop}
    (found : ∀ registry, depot.registrySecret? ns = some registry → post (.ok registry) depot)
    (failed : ∀ err, post (.error err) depot) :
    Fallible.Ensures anyRequest (getRegistrySecret ns (depot.imageConfig ns)) post depot := by
  unfold Depot.registrySecret? at found
  rw [getRegistrySecret, ensures_ite]
  constructor
  · intro configured
    simp only [if_pos configured] at found
    rw [ensures_mapError]
    exact ensures_get found fun err _ => failed _
  · intro unconfigured
    simp only [if_neg unconfigured] at found
    rw [ensures_bind, ensures_mapError]
    refine ensures_getServiceAccountDockercfgSecretName (fun name named => ?_)
      fun err => failed _
    rw [named] at found
    change Fallible.Ensures _ (Fallible.mapError _ _) _ _
    rw [ensures_mapError]
    exact ensures_get found fun err _ => failed _

theorem ensures_getPushPullSecret
    {post : Except Failure Secret → Depot → Prop}
    (found : post (.ok (depot.pushPullSecret ns)) depot)
    (failed : ∀ err, post (.error err) depot) :
    Fallible.Ensures anyRequest (getPushPullSecret ns) post depot := by
  unfold Depot.pushPullSecret pushPullKey at found
  rw [getPushPullSecret, ensures_bind, ensures_attempt]
  refine ensures_get (fun secret stored => ?_) fun err absent => ?_
  · rw [stored] at found
    exact found
  · rw [onSuccess_ok, ensures_ite]
    refine ⟨fun missing => ?_, fun _ => failed _⟩
    rw [absent missing] at found
    exact found

theorem ensures_orAbort
    {α : Type} {result : Except Abort α} {post : Except Failure α → Depot → Prop}
    (succeeded : ∀ value, result = .ok value → post (.ok value) depot)
    (failed : ∀ err, post (.error err) depot) :
    Fallible.Ensures anyRequest (orAbort result) post depot := by
  cases result with
  | ok value => exact succeeded value rfl
  | error abort => exact failed _

theorem ensures_getMergedRegistrySecret
    {post : Except Failure Secret → Depot → Prop}
    (merged : ∀ secret, depot.Merges ns secret → post (.ok secret) depot)
    (failed : ∀ err, post (.error err) depot) :
    Fallible.Ensures anyRequest (getMergedRegistrySecret ns (depot.imageConfig ns)) post
      depot := by
  rw [getMergedRegistrySecret, ensures_bind, ensures_mapError]
  refine ensures_get (fun entitlement _ => ?_) fun err _ => failed _
  change Fallible.Ensures _ (_ >>= _) _ _
  rw [ensures_bind]
  refine ensures_getRegistrySecret (fun registry current => ?_) failed
  rw [onSuccess_ok, ensures_bind]
  refine ensures_getPushPullSecret ?_ failed
  rw [onSuccess_ok, ensures_bind, ensures_mapError]
  refine ensures_orAbort (fun withEntitlement first => ?_) fun err => failed _
  change Fallible.Ensures _ (Fallible.mapError _ _) _ _
  rw [ensures_mapError]
  exact ensures_orAbort (fun secret second => merged secret
    ⟨entitlement, registry, withEntitlement, current, first, second⟩) fun err => failed _

end Reading

/-! ## What a preparation writes -/

/-- The data is stored in the secret that credentials are merged into. -/
def Depot.Holds (depot : Depot) (ns : String) (data : Entries String Payload) : Prop :=
  ∃ stored : Secret, depot.find? .secret (pushPullKey ns) = some stored ∧ stored.data = data

section Writing

variable {depot : Depot} {ns : String}

theorem ensures_getExisting
    {kind : Kind} {desired : kind.Object}
    {post : Except Failure kind.Object → Depot → Prop}
    (found : ∀ existing, kind.key existing = kind.key desired → post (.ok existing) depot)
    (failed : ∀ err, post (.error err) depot) :
    Fallible.Ensures anyRequest (getExisting kind desired) post depot := by
  rw [getExisting, ensures_bind, ensures_attempt]
  refine ensures_get (fun existing stored => ?_) fun err _ => ?_
  · exact found existing (Registry.find?_eq_some stored).2
  · rw [onSuccess_ok, ensures_ite]
    exact ⟨fun _ => found desired rfl, fun _ => failed _⟩

/-- The secret with the key has the data. -/
def Depot.HoldsAt (depot : Depot) (key : NamespacedName) (data : Entries String Payload) :
    Prop :=
  ∃ stored : Secret, depot.find? .secret key = some stored ∧ stored.data = data

/-- The secret is left as it was, or it holds the desired data; after success it
does. -/
theorem ensures_createOrUpdateSecret (secret : Secret) :
    Fallible.Ensures anyRequest (createOrUpdateResource .secret secret mutateSecret)
      (fun result final => (final = depot ∨ final.HoldsAt secret.metadata.key secret.data) ∧
        (result = .ok () → final.HoldsAt secret.metadata.key secret.data)) depot := by
  rw [createOrUpdateResource, ensures_bind]
  refine ensures_getExisting (fun existing same => ?_) fun err => ⟨Or.inl rfl, by simp⟩
  change Fallible.Ensures _ (Fallible.mapError _ _) _ _
  have here : Kind.secret.key existing = secret.metadata.key := same
  have written : ∀ (existing : Secret) (final : Depot),
      existing.metadata.key = secret.metadata.key →
        final.Stores .secret (mutateSecret existing secret) →
          final.HoldsAt secret.metadata.key secret.data := by
    rintro existing final key ⟨metadata, stored⟩
    have found : final.find? .secret existing.metadata.key = _ := stored
    rw [key] at found
    exact ⟨_, found, rfl⟩
  rw [ensures_mapError, createOrUpdate, ensures_bind, ensures_attempt]
  refine ensures_get (fun existing stored => ?_) fun err _ => ?_
  · have key : existing.metadata.key = secret.metadata.key :=
      (Registry.find?_eq_some stored).2.trans here
    rw [onSuccess_ok, ensures_ite]
    constructor
    · intro unchanged
      have holds : depot.HoldsAt secret.metadata.key secret.data := by
        rw [here] at stored
        exact ⟨existing, stored, (congrArg Secret.data unchanged).symm⟩
      exact ⟨Or.inl rfl, fun _ => holds⟩
    · intro _
      refine ensures_write (update_cases _ _ _) (fun result final stores => ?_)
        fun err => ⟨Or.inl rfl, by simp [Except.mapError]⟩
      have holds := written existing final key stores
      exact ⟨Or.inr holds, fun _ => holds⟩
  · rw [onSuccess_ok, ensures_ite]
    refine ⟨fun _ => ?_, fun _ => ⟨Or.inl rfl, by simp [Except.mapError]⟩⟩
    refine ensures_write (create_cases _ _ _) (fun result final stores => ?_)
      fun err => ⟨Or.inl rfl, by simp [Except.mapError]⟩
    have holds := written existing final here stores
    exact ⟨Or.inr holds, fun _ => holds⟩

/-- Calls about an object leave those with other keys alone. -/
theorem find?_answer_of_other_key
    {kind : Kind} {object : kind.Object} {key : NamespacedName}
    (different : key ≠ kind.key object) :
    (depot.create kind object).1.find? kind key = depot.find? kind key ∧
      (depot.update kind object).1.find? kind key = depot.find? kind key := by
  constructor
  · unfold Depot.create
    split
    · rfl
    · split
      · rfl
      · have created : kind.key (depot.created kind object) ≠ key := by
          rw [Kind.key, Depot.created, Kind.metadata_withMetadata]
          exact different.symm
        rw [Depot.find?_store, Registry.find?_append, Registry.find?_cons, if_neg created,
          Registry.find?_nil, Option.or_none]
        rfl
  · unfold Depot.update
    split
    · rfl
    · split
      · rfl
      · rw [Depot.find?_store, Registry.find?_amend_of_ne _ different]
        · rfl
        · intro record _
          rw [Kind.key, Depot.updated, Kind.metadata_withMetadata]
          rfl

/-- The stored secrets are the same but for the one with the key. -/
def Depot.SameBut (depot final : Depot) (key : NamespacedName) : Prop :=
  ∀ other, other ≠ key → final.find? .secret other = depot.find? .secret other

/-- All other secrets are left alone. -/
theorem ensures_createOrUpdateSecret_others (secret : Secret) :
    Fallible.Ensures anyRequest (createOrUpdateResource .secret secret mutateSecret)
      (fun _ final => depot.SameBut final secret.metadata.key) depot := by
  have unchanged : depot.SameBut depot secret.metadata.key := fun _ _ => rfl
  have writes : ∀ {request : ModuleRequest}
      {post : Except Failure request.Yield → Depot → Prop},
      depot.SameBut (depot.answer request).1 secret.metadata.key →
      (∀ result final, depot.SameBut final secret.metadata.key → post result final) →
      Fallible.Ensures anyRequest (send request) post depot := by
    intro request post same kept
    refine Api.ensures_ask trivial (fun _ => kept _ _ same) fun failure _ _ final isFinal => ?_
    rcases isFinal with rfl | rfl
    · exact kept _ _ unchanged
    · exact kept _ _ same
  rw [createOrUpdateResource, ensures_bind]
  refine ensures_getExisting (fun existing same => ?_) fun err => unchanged
  change Fallible.Ensures _ (Fallible.mapError _ _) _ _
  have here : Kind.secret.key existing = secret.metadata.key := same
  rw [ensures_mapError, createOrUpdate, ensures_bind, ensures_attempt]
  refine ensures_get (fun stored found => ?_) fun err _ => ?_
  · have isKey : Kind.secret.key (mutateSecret stored secret) = secret.metadata.key :=
      (Registry.find?_eq_some found).2.trans here
    have update : depot.SameBut (depot.update .secret (mutateSecret stored secret)).1
        secret.metadata.key := by
      intro other different
      rw [← isKey] at different
      exact (find?_answer_of_other_key different).2
    rw [onSuccess_ok, ensures_ite]
    exact ⟨fun _ => unchanged, fun _ => writes update fun _ _ kept => kept⟩
  · have isKey : Kind.secret.key (mutateSecret existing secret) = secret.metadata.key := here
    have create : depot.SameBut (depot.create .secret (mutateSecret existing secret)).1
        secret.metadata.key := by
      intro other different
      rw [← isKey] at different
      exact (find?_answer_of_other_key different).1
    rw [onSuccess_ok, ensures_ite]
    exact ⟨fun _ => writes create fun _ _ kept => kept, fun _ => unchanged⟩

theorem metadata_of_merges
    {secret : Secret} (merges : depot.Merges ns secret) :
    secret.metadata.key = pushPullKey ns := by
  obtain ⟨entitlement, registry, withEntitlement, -, first, second⟩ := merges
  rw [metadata_mergeDockerSecrets second, metadata_mergeDockerSecrets first,
    Depot.pushPullSecret]
  cases stored : depot.find? .secret (pushPullKey ns) with
  | none => rfl
  | some secret => exact (Registry.find?_eq_some stored).2

/-- The secret is left as it was, or it holds the merged credentials; after success
it does. -/
theorem ensures_createOrUpdateRegistrySecret :
    Fallible.Ensures anyRequest (createOrUpdateRegistrySecret ns (depot.imageConfig ns))
      (fun result final => (final = depot ∨ depot.Written final ns) ∧
        (result = .ok () → depot.Written final ns)) depot := by
  rw [createOrUpdateRegistrySecret, ensures_bind, ensures_mapError]
  refine ensures_getMergedRegistrySecret (fun secret merges => ?_)
    fun err => ⟨Or.inl rfl, by simp⟩
  change Fallible.Ensures _ (Fallible.mapError _ _) _ _
  rw [ensures_mapError]
  refine (ensures_createOrUpdateSecret secret).mono ?_
  rw [metadata_of_merges merges]
  have written : ∀ final : Depot, final.Holds ns secret.data → depot.Written final ns :=
    fun final ⟨stored, found, same⟩ => ⟨secret, stored, merges, found, same⟩
  rintro (err | _) final ⟨kept, succeeded⟩
  · exact ⟨kept.imp_right (written final), by simp [Except.mapError]⟩
  · exact ⟨kept.imp_right (written final), fun _ => written final (succeeded rfl)⟩

end Writing

section Module

variable {key : NamespacedName} {known : Option Secret}

/-- The secret under the key is the known one. -/
def KeepsSecret (key : NamespacedName) (known : Option Secret) (depot : Depot) : Prop :=
  depot.find? .secret key = known

/-- Reads, and writes of objects of other kinds, keep the secret. -/
theorem safe_send
    {request : ModuleRequest}
    (keeps : ∀ depot : Depot, (depot.answer request).1.find? .secret key =
      depot.find? .secret key) :
    Safe anyRequest (KeepsSecret key known) (send request) :=
  Api.safe_ask (fun _ _ => trivial) (fun _ _ _ => trivial)
    (fun depot holds => (keeps depot).trans holds) fun _ _ _ => trivial

theorem safe_createOrUpdateResource
    {kind : Kind} (other : Kind.secret ≠ kind) (desired : kind.Object)
    (mutateFn : kind.Object → kind.Object → kind.Object) :
    Safe anyRequest (KeepsSecret key known)
      (createOrUpdateResource kind desired mutateFn) := by
  have get : ∀ named, Safe anyRequest (KeepsSecret key known) (send (.get kind named)) :=
    fun _ => safe_send fun _ => rfl
  have writes : ∀ object : kind.Object,
      Safe anyRequest (KeepsSecret key known) (send (.create kind object)) ∧
        Safe anyRequest (KeepsSecret key known) (send (.update kind object)) := fun object =>
    ⟨safe_send fun _ => (find?_answer_of_ne other object).1,
      safe_send fun _ => (find?_answer_of_ne other object).2⟩
  have existing : Safe anyRequest (KeepsSecret key known) (getExisting kind desired) := by
    refine (get _).attempt ?_
    rintro (err | existing) -
    · exact safeThen_ite (fun _ => safe_pure _) fun _ => safe_throw _
    · exact safe_pure _
  refine existing.andThen fun existing _ => ?_
  refine SafeThen.mapError ?_ fun _ _ => trivial
  refine (get _).attempt ?_
  rintro (err | existing) -
  · exact safeThen_ite (fun _ => (writes _).1) fun _ => safe_throw _
  · exact safeThen_ite (fun _ => safe_pure _) fun _ => (writes _).2

theorem safe_doSigningSecretsExist (ns : String) (names : List String) :
    Safe anyRequest (KeepsSecret key known) (doSigningSecretsExist ns names) := by
  induction names with
  | nil => exact safe_pure true
  | cons name names inductionHypothesis =>
      refine SafeThen.attempt (safe_send fun _ => rfl) ?_
      rintro (err | secret) -
      · exact safe_pure false
      · exact inductionHypothesis

theorem safe_orAbort {α : Type} (result : Except Abort α) :
    Safe anyRequest (KeepsSecret key known) (orAbort result) := by
  cases result with
  | ok value => exact safe_pure value
  | error abort => exact safe_throw _

theorem safe_getIBMCoreImage (decodeYAML : String → Except String Fields) :
    Safe anyRequest (KeepsSecret key known) (getIBMCoreImage decodeYAML) := by
  refine SafeThen.andThen (safe_send fun _ => rfl) fun cm _ => ?_
  split
  · exact safe_throw _
  · exact safe_orAbort _

/-- The preparation of the build leaves all secrets alone. -/
theorem safe_createOrUpdateModule
    (decodeYAML : String → Except String Fields) (ns : String) (config : KMMImageConfig) :
    Safe anyRequest (KeepsSecret key known) (createOrUpdateModule decodeYAML ns config) := by
  refine SafeThen.andThen ((safe_createOrUpdateResource (by simp) _ _).mapError
    fun _ _ => trivial) fun _ _ => ?_
  refine SafeThen.andThen ((safe_getIBMCoreImage decodeYAML).mapError fun _ _ => trivial)
    fun ibmScaleImage _ => ?_
  refine SafeThen.andThen (safe_doSigningSecretsExist ns _) fun signModules _ => ?_
  exact (safe_createOrUpdateResource (by simp) _ _).mapError fun _ _ => trivial

end Module

/-! ## Passes -/

/-- The preparation of the kernel module in a namespace. -/
def preparation (decodeYAML : String → Except String Fields) (ns : String) :
    Unit → Program moduleApi.interface (Except Failure Unit) :=
  fun _ => (createOrUpdateKMMResources decodeYAML (some ns)).run

/-- Between the passes everything may change but the secret that credentials are
merged into. -/
def rotates (ns : String) (before after : Depot) : Prop :=
  after.find? .secret (pushPullKey ns) = before.find? .secret (pushPullKey ns)

/-- The stored entry of a registry. -/
def Depot.credential? (depot : Depot) (ns registry : String) : Option Value :=
  (depot.find? .secret (pushPullKey ns)).bind fun secret : Secret =>
    secret.credential? registry

/-- The entry of a registry in a source of credentials, by the type of the
source. -/
def Secret.listed? (secret : Secret) (registry : String) : Option Value :=
  secret.data.head?.bind fun entry => secret.type.credential? entry.2 registry

/-- The secret is of one of the two types, with its one key and a valid
payload. -/
def Secret.IsSource (secret : Secret) : Prop :=
  ∃ key fields, secret.type.dataKey = some key ∧
    secret.data = [(key, .json (.object fields))] ∧
    (secret.type = .dockerConfigJson → ∀ value, Entries.get? fields "auths" = some value →
      ∃ credentials, value = .object credentials)

/-- The format of the source is told by its payload: no dockercfg secret lists a
registry called `auths`. -/
def Secret.FormatTold (secret : Secret) : Prop :=
  secret.type = .dockercfg → secret.listed? "auths" = none

section Passes

variable {decodeYAML : String → Except String Fields} {ns : String}

/-- After a successful pass, the registries of the current registry secret have the
entries of this secret. -/
def IsCurrent (decodeYAML : String → Except String Fields) (ns : String)
    (pass : Pass depotServer Unit) : Prop :=
  (pass.outcome (preparation decodeYAML ns)).value = .ok () →
    ∀ secret, pass.start.registrySecret? ns = some secret →
      ∀ registry credential, secret.listed? registry = some credential →
        (pass.outcome (preparation decodeYAML ns)).state.credential? ns registry =
          some credential

/-- A preparation leaves the secret as it was, or writes the merged credentials; after
success it does. -/
theorem ensures_createOrUpdateKMMResources_written (depot : Depot) :
    Fallible.Ensures anyRequest (createOrUpdateKMMResources decodeYAML (some ns))
      (fun result final =>
        (final.find? .secret (pushPullKey ns) = depot.find? .secret (pushPullKey ns) ∨
          depot.Written final ns) ∧
        (result = .ok () → depot.Written final ns)) depot := by
  rw [createOrUpdateKMMResources, ensures_bind]
  change Fallible.Ensures _ (_ >>= _) _ _
  rw [ensures_bind, ensures_mapError]
  refine ensures_getKMMImageConfig ?_ fun err => ⟨Or.inl rfl, by simp⟩
  change Fallible.Ensures _ (_ >>= _) _ _
  rw [ensures_bind]
  refine ensures_createOrUpdateRegistrySecret.mono ?_
  rintro (err | _) between ⟨kept, succeeded⟩
  · exact ⟨kept.imp_left fun same => by rw [same], by simp⟩
  · obtain ⟨secret, stored, merges, found, same⟩ := succeeded rfl
    rw [onSuccess_ok]
    refine (safe_createOrUpdateModule decodeYAML ns _ between found).mono ?_
    rintro result final ⟨-, holds⟩
    have written : depot.Written final ns := ⟨secret, stored, merges, holds, same⟩
    exact ⟨Or.inr written, fun _ => written⟩

/-- A pass leaves the secret as it was, or writes the merged credentials; after
success it does. -/
theorem outcome_preparation (pass : Pass depotServer Unit) :
    let outcome := pass.outcome (preparation decodeYAML ns)
    (outcome.state.find? .secret (pushPullKey ns) =
        pass.start.find? .secret (pushPullKey ns) ∨
      pass.start.Written outcome.state ns) ∧
      (outcome.value = .ok () → pass.start.Written outcome.state ns) :=
  (Program.Ensures.sound (ensures_createOrUpdateKMMResources_written pass.start) pass.choices
    fun _ _ => trivial).2

/-- The credentials of a secret are those of its data. -/
theorem credential?_of_data
    {stored secret : Secret} (same : stored.data = secret.data) (registry : String) :
    stored.credential? registry = secret.credential? registry := by
  unfold Secret.credential? Secret.configuration
  rw [same]

/-- A pass keeps every registry. -/
theorem isSome_credential?_outcome
    {pass : Pass depotServer Unit} {registry : String}
    (listed : (pass.start.credential? ns registry).isSome) :
    ((pass.outcome (preparation decodeYAML ns)).state.credential? ns registry).isSome := by
  rcases (@outcome_preparation decodeYAML ns pass).1 with same | written
  · rw [Depot.credential?, same]
    exact listed
  · obtain ⟨secret, stored, ⟨entitlement, current, withEntitlement, -, first, second⟩,
      found, same⟩ := written
    rw [Depot.credential?, found, Option.bind_some, credential?_of_data same]
    refine isSome_credential?_mergeDockerSecrets second
      (isSome_credential?_mergeDockerSecrets first ?_)
    unfold Depot.credential? at listed
    cases before : pass.start.find? .secret (pushPullKey ns) with
    | none =>
        rw [before] at listed
        cases listed
    | some secret =>
        rw [before, Option.bind_some] at listed
        rw [Depot.pushPullSecret, before]
        exact listed

/-- Where the merged credentials are stored, a well-formed source has its entries. -/
theorem credential?_of_written
    {depot final : Depot} {secret : Secret} {registry : String} {credential : Value}
    (written : depot.Written final ns)
    (current : depot.registrySecret? ns = some secret)
    (source : secret.IsSource ∧ secret.FormatTold)
    (listed : secret.listed? registry = some credential) :
    final.credential? ns registry = some credential := by
  obtain ⟨merged, stored, ⟨entitlement, registrySecret, withEntitlement, found, -, second⟩,
    holds, same⟩ := written
  obtain rfl : registrySecret = secret := Option.some_inj.mp (found.symm.trans current)
  obtain ⟨⟨key, fields, -, data, -⟩, told⟩ := source
  rw [Depot.credential?, holds, Option.bind_some, credential?_of_data same]
  unfold Secret.FormatTold at told
  simp only [Secret.listed?, data, List.head?_cons, Option.bind_some] at told listed
  exact credential?_mergeDockerSecrets second data listed told

/-- A successful pass with a well-formed source leaves the entries of the source. -/
theorem isCurrent_of_source
    {pass : Pass depotServer Unit}
    (source : ∀ secret, pass.start.registrySecret? ns = some secret →
      secret.IsSource ∧ secret.FormatTold) :
    IsCurrent decodeYAML ns pass := by
  intro success secret current registry credential listed
  have written := (@outcome_preparation decodeYAML ns pass).2 success
  exact credential?_of_written written current (source secret current) listed

/-- Along a run no registry loses its entry. -/
theorem isSome_credential?_of_run
    {initial state : Depot} {passes : List (Pass depotServer Unit)} {registry : String}
    (run : Run (preparation decodeYAML ns) (rotates ns) initial passes state)
    (listed : (initial.credential? ns registry).isSome) :
    (state.credential? ns registry).isSome := by
  induction run with
  | start => exact listed
  | pass _ index choices inductionHypothesis =>
      exact isSome_credential?_outcome inductionHypothesis
  | move _ moved inductionHypothesis =>
      rw [Depot.credential?, show _ = _ from moved]
      exact inductionHypothesis

/-- In every run the registries that are listed after a pass stay listed, and after
each successful pass the registries of the current registry secret have its entries,
provided that no such dockercfg secret lists a registry called `auths`. -/
theorem credentials_accumulate
    {initial state : Depot} {passes : List (Pass depotServer Unit)}
    (run : Run (preparation decodeYAML ns) (rotates ns) initial passes state)
    (sources : ∀ pass ∈ passes, ∀ secret, pass.start.registrySecret? ns = some secret →
      secret.IsSource ∧ secret.FormatTold) :
    (∀ earlier pass later, passes = earlier ++ pass :: later → ∀ registry,
        ((pass.outcome (preparation decodeYAML ns)).state.credential? ns registry).isSome →
          (state.credential? ns registry).isSome) ∧
      ∀ pass ∈ passes, IsCurrent decodeYAML ns pass := by
  constructor
  · rintro earlier pass later rfl registry listed
    exact isSome_credential?_of_run run.split.2 listed
  · exact fun pass member => isCurrent_of_source (sources pass member)

end Passes

/-! ## A registry called auths -/

/-- The namespace of the deployment. -/
def deploymentNamespace : String := "ibm-fusion-access"

/-- The credentials of a user. -/
def basicAuth (text : String) : Value := .object [("auth", .string text)]

/-- The configuration that names the core image. -/
def managerConfig : String := "images:\n  coreInit: cp.icr.io/cp/gpfs/core-init:v5.2.3.1\n"

/-- A decoder that knows this configuration. -/
def decodeManagerConfig (content : String) : Except String Fields :=
  if content = managerConfig then
    .ok [("images", .object
      [("coreInit", .string "cp.icr.io/cp/gpfs/core-init:v5.2.3.1")])]
  else .ok []

/-- The entitlement to pull the core image. -/
def entitlementSecret : Secret where
  metadata := { name := ibmEntitlementName, ns := deploymentNamespace }
  type := .dockerConfigJson
  data := [(".dockerconfigjson",
    .json (.object [("auths", .object [("cp.icr.io", basicAuth "Y3A6a2V5")])]))]

/-- A secret of the internal registry with the given credentials. -/
def builderSecret (credentials : Fields) : Secret where
  metadata := { name := "builder-dockercfg-x7k2p", ns := deploymentNamespace }
  type := .dockercfg
  data := [(".dockercfg", .json (.object credentials))]

/-- What is stored before the first preparation. -/
def firstDepot (credentials : Fields) : Depot where
  objects
    | .secret => [entitlementSecret, builderSecret credentials]
    | .configMap =>
        [{ metadata :=
             { name := "ibm-spectrum-scale-manager-config", ns := "ibm-spectrum-scale-operator" }
           data := [("controller_manager_config.yaml", managerConfig)] }]
    | .module => []
  revision := 1

/-- The first preparation. -/
def firstPreparation (credentials : Fields) : Pass depotServer Unit :=
  ⟨(), fun _ => .none, firstDepot credentials⟩

theorem run_firstPreparation (credentials : Fields) :
    Run (preparation decodeManagerConfig deploymentNamespace) (rotates deploymentNamespace)
      (firstDepot credentials) [firstPreparation credentials]
      ((firstPreparation credentials).outcome
        (preparation decodeManagerConfig deploymentNamespace)).state :=
  (Run.start : Run (preparation decodeManagerConfig deploymentNamespace)
    (rotates deploymentNamespace) (firstDepot credentials) [] (firstDepot credentials)).pass
    () (firstPreparation credentials).choices

theorem imageConfig_firstDepot (credentials : Fields) :
    ((firstDepot credentials).imageConfig deploymentNamespace).registrySecretName = "" := by
  rfl

theorem builderSecretName?_firstDepot (credentials : Fields) :
    (firstDepot credentials).builderSecretName? deploymentNamespace =
      some "builder-dockercfg-x7k2p" := by
  have other : isDockercfgSecretName "builder" ibmEntitlementName = false := by decide
  have builder : isDockercfgSecretName "builder" "builder-dockercfg-x7k2p" = true := by
    decide
  simp [Depot.builderSecretName?, firstDepot, entitlementSecret, builderSecret, other, builder]

theorem registrySecret?_firstDepot (credentials : Fields) :
    (firstDepot credentials).registrySecret? deploymentNamespace =
      some (builderSecret credentials) := by
  rw [Depot.registrySecret?]
  simp only [imageConfig_firstDepot, builderSecretName?_firstDepot]
  rfl

theorem isSource_builderSecret (credentials : Fields) :
    (builderSecret credentials).IsSource :=
  ⟨_, _, rfl, rfl, fun typed => by cases typed⟩

/-- The credentials of a registry that is listed by its address are merged. -/
theorem credentials_accumulate_quay :
    IsCurrent decodeManagerConfig deploymentNamespace
      (firstPreparation [("quay.io", basicAuth "dXNlcjpwYXNz")]) := by
  refine (credentials_accumulate (run_firstPreparation _) ?_).2 _ (List.mem_singleton_self _)
  intro pass member secret current
  obtain rfl := List.mem_singleton.mp member
  obtain rfl : builderSecret _ = secret :=
    Option.some_inj.mp ((registrySecret?_firstDepot _).symm.trans current)
  exact ⟨isSource_builderSecret _, fun _ => rfl⟩

/-- The same credentials next to a registry called auths. -/
def withAuthsRegistry : Fields :=
  [("auths", basicAuth "dXNlcjpsb2NhbA=="), ("quay.io", basicAuth "dXNlcjpwYXNz")]

set_option maxRecDepth 8000 in
/-- Next to a registry called auths, the credentials are not merged. -/
theorem credentials_misread :
    (Run (preparation decodeManagerConfig deploymentNamespace) (rotates deploymentNamespace)
        (firstDepot withAuthsRegistry) [firstPreparation withAuthsRegistry]
        ((firstPreparation withAuthsRegistry).outcome
          (preparation decodeManagerConfig deploymentNamespace)).state) ∧
      entitlementSecret.IsSource ∧ (builderSecret withAuthsRegistry).IsSource ∧
      ¬IsCurrent decodeManagerConfig deploymentNamespace
        (firstPreparation withAuthsRegistry) := by
  refine ⟨run_firstPreparation _, ?_, isSource_builderSecret _, fun current => ?_⟩
  · refine ⟨_, _, rfl, rfl, fun _ value found => ?_⟩
    cases found
    exact ⟨_, rfl⟩
  · have merged := current rfl _ (registrySecret?_firstDepot _) "quay.io" _ rfl
    revert merged
    decide

end Installation
