import FusionAccess.Installation.HonestReady
import FusionAccess.Interaction.Watching

/-!
# The watches of the FusionAccess controller

The controller looks at the registry credentials only when it is told of a change. It
watches the ConfigMap of the image and, of all secrets, the pull secret and the one whose
credentials it merges, whatever this secret is called at the moment.
-/

namespace Installation

open Kubernetes Registry Interaction Fallible

/-! ## Changes -/

/-- What others do to a Secret or a ConfigMap. -/
inductive Change
  | create (kind : Kind) (object : kind.Object)
  | update (kind : Kind) (object : kind.Object)
  | delete (kind : Kind) (key : NamespacedName)

/-- Delete an object; it has no finalizers. -/
def Depot.delete (depot : Depot) (kind : Kind) (key : NamespacedName) :
    Depot × Except Failure Unit :=
  match depot.find? kind key with
  | none => (depot, .error (notFound kind.resource key.name))
  | some _ => (depot.store kind (Registry.remove kind.key key (depot.objects kind)), .ok ())

/-- Carry out a change. -/
def Depot.apply (depot : Depot) : Change → Depot × Except Failure Unit
  | .create kind object => depot.create kind object
  | .update kind object => depot.update kind object
  | .delete kind key => depot.delete kind key

/-- The kind and the key of the object that changes. -/
def Change.concerns : Change → Kind × NamespacedName
  | .create kind object => (kind, kind.key object)
  | .update kind object => (kind, kind.key object)
  | .delete kind key => (kind, key)

/-! ## Predicates -/

/-- `getCurrentRegistrySecretName`. -/
def getCurrentRegistrySecretName (ns : String) : Preparation String := do
  let config ← (getKMMImageConfig ns).mapError
    (Failure.wrap "failed to get KMMImageConfigmap in CreateOrUpdateKMMResources: ")
  if config.registrySecretName ≠ "" then return config.registrySecretName
  else getServiceAccountDockercfgSecretName ns "builder"

/-- `isOurSecret`, for the object with the given key. -/
def isOurSecret (ns : String) (obj : NamespacedName) : Preparation Bool :=
  if obj.ns ≠ ns then return false
  else do
    match ← (send (.get .secret ⟨ns, obj.name⟩)).attempt with
    | .error _ => return false
    | .ok (secret : Secret) =>
        if secret.type ≠ .dockerConfigJson ∧ secret.type ≠ .dockercfg then return false
        else do
          match ← (getCurrentRegistrySecretName ns).attempt with
          | .error _ => return false
          | .ok expectedName => return decide (secret.metadata.name = expectedName)

/-- `didTheRegistrySecretChange`. -/
def didTheRegistrySecretChange (ns : String) : Change → Preparation Bool
  | .create .secret (object : Secret) => isOurSecret ns (Kind.secret.key object)
  | .update .secret (object : Secret) => isOurSecret ns (Kind.secret.key object)
  | _ => return false

/-- `didTheKmmConfigMapChange`. -/
def didTheKmmConfigMapChange (ns : String) (change : Change) : Bool :=
  change.concerns = (.configMap, ⟨ns, kmmImageConfigMapName⟩)

/-- One of the predicates lets the change through; what it reads comes from a cache. -/
def Noticed (ns : String) (change : Change) (after : Depot) : Bool :=
  didTheKmmConfigMapChange ns change ||
    ((didTheRegistrySecretChange ns change).run.run depotServer (fun _ => .none) after).value
      matches .ok true

/-! ## The current registry secret -/

section Reading

variable {depot : Depot} {ns name : String}

theorem ensures_getKMMImageConfig_answered
    {post : Except Failure KMMImageConfig → Depot → Prop}
    (holds : post (.ok (depot.imageConfig ns)) depot) :
    Fallible.Ensures nothingFails (getKMMImageConfig ns) post depot := by
  rw [getKMMImageConfig, ensures_bind, ensures_attempt, ensures_send]
  dsimp only [Depot.answer]
  unfold Depot.imageConfig at holds
  cases found : depot.find? .configMap ⟨ns, kmmImageConfigMapName⟩ with
  | none =>
      rw [found] at holds
      exact holds
  | some cm =>
      rw [found] at holds
      exact holds

theorem ensures_getServiceAccountDockercfgSecretName_answered
    {post : Except Failure String → Depot → Prop}
    (named : depot.builderSecretName? ns = some name) (holds : post (.ok name) depot) :
    Fallible.Ensures nothingFails (getServiceAccountDockercfgSecretName ns "builder") post
      depot := by
  rw [getServiceAccountDockercfgSecretName, ensures_bind, ensures_mapError,
    ensures_send]
  unfold Depot.builderSecretName? at named
  obtain ⟨secret, listed, rfl⟩ := Option.map_eq_some_iff.mp named
  have isListed : ((depot.objects .secret).filter fun object =>
      decide ((Kind.secret.metadata object).ns = ns)).find? (fun secret : Secret =>
        isDockercfgSecretName "builder" secret.metadata.name) = some secret := listed
  dsimp only [Depot.answer, Except.mapError]
  rw [onSuccess_ok, isListed]
  exact holds

/-- While all reads are answered the name is found. -/
theorem ensures_getCurrentRegistrySecretName
    {post : Except Failure String → Depot → Prop}
    (named : depot.registrySecretName? ns = some name) (holds : post (.ok name) depot) :
    Fallible.Ensures nothingFails (getCurrentRegistrySecretName ns) post depot := by
  unfold Depot.registrySecretName? at named
  rw [getCurrentRegistrySecretName, ensures_bind, ensures_mapError]
  refine ensures_getKMMImageConfig_answered ?_
  change Fallible.Ensures _ (if _ then _ else _) _ _
  rw [ensures_ite]
  constructor
  · intro configured
    rw [if_pos configured, Option.some.injEq] at named
    rw [named]
    exact holds
  · intro unconfigured
    rw [if_neg unconfigured] at named
    exact ensures_getServiceAccountDockercfgSecretName_answered named holds

/-- A change of the current registry secret is let through. -/
theorem ensures_isOurSecret
    {secret : Secret} {key : NamespacedName}
    (stored : depot.find? .secret key = some secret)
    (docker : secret.type = .dockerConfigJson ∨ secret.type = .dockercfg)
    (named : depot.registrySecretName? ns = some key.name) (inNamespace : key.ns = ns) :
    Fallible.Ensures nothingFails (isOurSecret ns key) (fun result _ => result = .ok true)
      depot := by
  subst inNamespace
  rw [isOurSecret, if_neg (not_not.mpr rfl), ensures_bind, ensures_attempt,
    ensures_send]
  dsimp only [Depot.answer]
  rw [stored, onSuccess_ok]
  dsimp only
  rw [if_neg (by tauto), ensures_bind, ensures_attempt]
  refine ensures_getCurrentRegistrySecretName named ?_
  rw [onSuccess_ok]
  dsimp only
  have isKey : secret.metadata.name = key.name :=
    congrArg NamespacedName.name (Registry.find?_eq_some stored).2
  rw [isKey, decide_eq_true rfl]
  rfl

end Reading

/-! ## What a change leaves -/

section Changes

variable {depot after : Depot} {ns : String} {change : Change}

theorem noticed_of_registrySecret
    {secret : Secret} {key : NamespacedName}
    (changed : change.concerns = (.secret, key)) (remains : ∀ kind key, change ≠ .delete kind key)
    (stored : after.find? .secret key = some secret)
    (docker : secret.type = .dockerConfigJson ∨ secret.type = .dockercfg)
    (named : after.registrySecretName? ns = some key.name) (inNamespace : key.ns = ns) :
    Noticed ns change after = true := by
  have passes : (((isOurSecret ns key).run.run depotServer (fun _ => .none) after).value) =
      .ok true :=
    @Api.run_of_ensures_unfailing moduleApi Depot Depot.answer _ _ _ _
      (ensures_isOurSecret stored docker named inNamespace)
  rw [Noticed, Bool.or_eq_true]
  refine Or.inr ?_
  cases change with
  | create kind object =>
      obtain ⟨rfl, rfl⟩ := Prod.mk.inj changed
      change (match ((isOurSecret ns (Kind.secret.key object)).run.run depotServer _ after).value
        with | .ok true => true | _ => false) = true
      rw [passes]
  | update kind object =>
      obtain ⟨rfl, rfl⟩ := Prod.mk.inj changed
      change (match ((isOurSecret ns (Kind.secret.key object)).run.run depotServer _ after).value
        with | .ok true => true | _ => false) = true
      rw [passes]
  | delete kind key => exact absurd rfl (remains kind key)

/-- What an object is after it has been deleted, and what others are. -/
theorem find?_delete_self {kind : Kind} {key : NamespacedName}
    (carriedOut : depot.delete kind key = (after, .ok ())) :
    after.find? kind key = none := by
  unfold Depot.delete at carriedOut
  split at carriedOut
  · cases carriedOut
  · obtain ⟨rfl, -⟩ := Prod.mk.inj carriedOut
    rw [Depot.find?_store]
    exact Registry.find?_remove_self

theorem find?_delete_of_other
    {kind other : Kind} {key name : NamespacedName} (apart : other ≠ kind ∨ name ≠ key) :
    (depot.delete kind key).1.find? other name = depot.find? other name := by
  unfold Depot.delete
  split
  · rfl
  · by_cases same : other = kind
    · subst same
      rw [Depot.find?_store]
      exact Registry.find?_remove_of_ne (apart.resolve_left fun different => different rfl)
    · exact Depot.find?_store_of_ne same _ _ _

/-- Other objects than the one that changes stay as they are. -/
theorem find?_apply_of_other {kind : Kind} {name : NamespacedName}
    (apart : change.concerns ≠ (kind, name)) :
    (depot.apply change).1.find? kind name = depot.find? kind name := by
  have different : kind ≠ change.concerns.1 ∨ name ≠ change.concerns.2 := by
    by_contra same
    rw [not_or, not_not, not_not] at same
    exact apart (Prod.ext same.1.symm same.2.symm)
  cases change with
  | create kind object => exact onlyAt_create.others _ _ different
  | update kind object => exact onlyAt_update.others _ _ different
  | delete kind key => exact find?_delete_of_other different

/-- The configuration of the image changes with its ConfigMap only. -/
theorem imageConfig_apply
    (other : didTheKmmConfigMapChange ns change = false) :
    (depot.apply change).1.imageConfig ns = depot.imageConfig ns := by
  have apart : change.concerns ≠ (.configMap, ⟨ns, kmmImageConfigMapName⟩) := by
    rwa [didTheKmmConfigMapChange, decide_eq_false_iff_not] at other
  unfold Depot.imageConfig
  rw [find?_apply_of_other apart]

/-- The first match stays first when something else is taken out. -/
theorem find?_filter_of_ne
    {selects : NamespacedName → Bool} {keys : List NamespacedName}
    {key first : NamespacedName}
    (found : keys.find? selects = some first) (other : first ≠ key) :
    (keys.filter fun name => decide (name ≠ key)).find? selects = some first := by
  rw [List.find?_filter]
  induction keys with
  | nil => cases found
  | cons head tail inductionHypothesis =>
      rw [List.find?_cons] at found ⊢
      cases isSelected : selects head with
      | true =>
          rw [isSelected, Option.some.injEq] at found
          subst found
          rw [decide_eq_true other]
          rfl
      | false =>
          rw [isSelected] at found
          simpa using inductionHypothesis found

/-- A change that others may make: they leave the secret alone that the credentials are
merged into, and do not delete the one that they come from. -/
structure Change.Admitted (ns : String) (depot : Depot) (change : Change) : Prop where
  other : change.concerns ≠ (.secret, pushPullKey ns)
  remains : ∀ key, change = .delete .secret key →
    ∀ name, depot.registrySecretName? ns = some name → key ≠ ⟨ns, name⟩

/-- The keys of the secrets after a change. -/
theorem keys_apply (depot : Depot) (change : Change) :
    (depot.apply change).1.keys .secret = depot.keys .secret ∨
      (∃ key, change.concerns = (.secret, key) ∧
        (depot.apply change).1.keys .secret = depot.keys .secret ++ [key]) ∨
      ∃ key, change = .delete .secret key ∧
        (depot.apply change).1.keys .secret =
          (depot.keys .secret).filter fun name => decide (name ≠ key) := by
  cases change with
  | create kind object =>
      rcases (@onlyAt_create depot kind object).keys .secret with same | ⟨rfl, -, appended⟩
      · exact Or.inl same
      · exact Or.inr (Or.inl ⟨_, rfl, appended⟩)
  | update kind object =>
      rcases (@onlyAt_update depot kind object).keys .secret with same | ⟨rfl, -, appended⟩
      · exact Or.inl same
      · exact Or.inr (Or.inl ⟨_, rfl, appended⟩)
  | delete kind key =>
      simp only [Depot.apply, Depot.delete]
      split
      · exact Or.inl rfl
      · by_cases same : Kind.secret = kind
        · subst same
          refine Or.inr (Or.inr ⟨key, rfl, ?_⟩)
          rw [keys_store_self, Depot.keys, List.filter_map]
          rfl
        · exact Or.inl (keys_store_of_ne same _ _)

/-- The key that the controller picks is in its namespace. -/
theorem ns_of_find?_builder
    {keys : List NamespacedName} {key : NamespacedName}
    (found : (keys.find? fun key =>
      decide (key.ns = ns) && isDockercfgSecretName "builder" key.name) = some key) :
    key.ns = ns := by
  have selected := List.find?_some found
  simp only [Bool.and_eq_true, decide_eq_true_eq] at selected
  exact selected.1

/-- Unless it is the one that changes, the current registry secret was the current one
before. -/
theorem registrySecretName?_of_apply
    {name : String}
    (sameConfig : (depot.apply change).1.imageConfig ns = depot.imageConfig ns)
    (admitted : change.Admitted ns depot)
    (other : change.concerns ≠ (.secret, ⟨ns, name⟩))
    (named : (depot.apply change).1.registrySecretName? ns = some name) :
    depot.registrySecretName? ns = some name := by
  have remains := admitted.remains
  unfold Depot.registrySecretName? at named remains ⊢
  rw [sameConfig] at named
  dsimp only at named remains ⊢
  split at named
  next configured =>
    rw [if_pos configured]
    exact named
  next unconfigured =>
    rw [if_neg unconfigured] at remains ⊢
    rw [builderSecretName?_eq] at named remains ⊢
    obtain ⟨key, found, rfl⟩ := Option.map_eq_some_iff.mp named
    have isKey : key = ⟨ns, key.name⟩ := by rw [← ns_of_find?_builder found]
    rcases keys_apply depot change with same | ⟨new, concerned, appended⟩ |
        ⟨gone, isDeletion, filtered⟩
    · rw [same] at found
      rw [found]
      rfl
    · rw [appended, List.find?_append] at found
      cases before : (depot.keys .secret).find? fun key =>
          decide (key.ns = ns) && isDockercfgSecretName "builder" key.name with
      | some first =>
          rw [before, Option.some_or, Option.some.injEq] at found
          rw [found]
          rfl
      | none =>
          rw [before, Option.none_or, List.find?_singleton] at found
          split at found
          · cases found
            rw [isKey] at concerned
            exact absurd concerned other
          · cases found
    · cases before : (depot.keys .secret).find? fun key =>
          decide (key.ns = ns) && isDockercfgSecretName "builder" key.name with
      | some first =>
          have stays : first ≠ gone := by
            rintro rfl
            refine remains first isDeletion first.name (by rw [before]; rfl) ?_
            rw [← ns_of_find?_builder before]
          rw [filtered, find?_filter_of_ne before stays, Option.some.injEq] at found
          rw [found]
          rfl
      | none =>
          rw [filtered] at found
          have selected := List.find?_some found
          have member := List.mem_of_find?_eq_some found
          exact absurd selected
            (List.find?_eq_none.mp before key (List.mem_of_mem_filter member))

/-! ## Up to date -/

/-- Only secrets of the two types list registries. -/
theorem docker_of_listed
    {secret : Secret} {registry : String} {credential : Value}
    (listed : secret.listed? registry = some credential) :
    secret.type = .dockerConfigJson ∨ secret.type = .dockercfg := by
  unfold Secret.listed? at listed
  obtain ⟨entry, -, found⟩ := Option.bind_eq_some_iff.mp listed
  unfold SecretType.credential? at found
  split at found
  next isType => exact Or.inl isType
  next isType => exact Or.inr isType
  next => cases found

/-- A change that is not noticed leaves the credentials up to date. -/
theorem upToDate_of_unnoticed
    (carriedOut : depot.apply change = (after, .ok ()))
    (admitted : change.Admitted ns depot)
    (unnoticed : Noticed ns change after = false) (upToDate : UpToDate ns depot) :
    UpToDate ns after := by
  intro secret current registry credential listed
  have isAfter : after = (depot.apply change).1 := by rw [carriedOut]
  rw [registrySecret?_eq] at current
  obtain ⟨name, named, stored⟩ := Option.bind_eq_some_iff.mp current
  have docker := docker_of_listed listed
  have otherConfigMap : didTheKmmConfigMapChange ns change = false :=
    (Bool.or_eq_false_iff.mp unnoticed).1
  have other : change.concerns ≠ (.secret, ⟨ns, name⟩) := by
    intro concerned
    by_cases isDeletion : ∃ kind key, change = .delete kind key
    · obtain ⟨kind, key, rfl⟩ := isDeletion
      obtain ⟨rfl, rfl⟩ := Prod.mk.inj concerned
      rw [find?_delete_self carriedOut] at stored
      cases stored
    · have noticed := noticed_of_registrySecret concerned
        (fun kind key same => isDeletion ⟨kind, key, same⟩) stored docker named rfl
      rw [noticed] at unnoticed
      cases unnoticed
  rw [isAfter] at named stored ⊢
  have namedBefore := registrySecretName?_of_apply (imageConfig_apply otherConfigMap)
    admitted other named
  rw [find?_apply_of_other other] at stored
  rw [Depot.credential?, find?_apply_of_other admitted.other]
  refine upToDate secret ?_ registry credential listed
  rw [registrySecret?_eq, namedBefore]
  exact stored

end Changes

namespace Operator

/-! ## The pull secret -/

/-- What others do to the secrets that the entitlement may be in. -/
inductive PullSecretChange
  | create (secret : PullSecret)
  | update (secret : PullSecret)
  | delete (key : NamespacedName)

/-- The secret with the given key. -/
def pullSecret? (pullSecrets : List PullSecret) (key : NamespacedName) : Option PullSecret :=
  Registry.find? PullSecret.key key pullSecrets

/-- Carry out a change of a secret, whose type cannot be changed. -/
def applyPullSecret (pullSecrets : List PullSecret) :
    PullSecretChange → List PullSecret × Except Failure Unit
  | .create secret =>
      match pullSecret? pullSecrets secret.key with
      | some _ => (pullSecrets, .error (alreadyExists "secrets" secret.key.name))
      | none => (pullSecrets ++ [secret], .ok ())
  | .update secret =>
      match pullSecret? pullSecrets secret.key with
      | none => (pullSecrets, .error (notFound "secrets" secret.key.name))
      | some stored =>
          if stored.type ≠ secret.type then
            (pullSecrets, .error (errorf
              s!"Secret \"{secret.key.name}\" is invalid: type: field is immutable"))
          else
            (Registry.amend PullSecret.key secret.key (fun _ => secret) pullSecrets, .ok ())
  | .delete key =>
      match pullSecret? pullSecrets key with
      | none => (pullSecrets, .error (notFound "secrets" key.name))
      | some _ => (Registry.remove PullSecret.key key pullSecrets, .ok ())

/-- The key of the secret that changes. -/
def PullSecretChange.concerns : PullSecretChange → NamespacedName
  | .create secret => secret.key
  | .update secret => secret.key
  | .delete key => key

/-- What a change leaves under its key. -/
def PullSecretChange.leaves : PullSecretChange → Option PullSecret
  | .create secret => some secret
  | .update secret => some secret
  | .delete _ => none

/-- `checkPullSecret`. -/
def checkPullSecret (secret : PullSecret) (ns : String) : Bool :=
  if secret.type ≠ .other "Opaque" then false
  else if secret.key.name ≠ fusionPullSecretName then false
  else if secret.key.ns ≠ ns then false
  else true

/-- `isItOurPullSecret`, for a change of what is stored. -/
def isItOurPullSecret (env : Environment) (pullSecrets : List PullSecret) :
    PullSecretChange → Bool
  | .create newSecret =>
      match env.getDeploymentNamespace with
      | .error _ => false
      | .ok ns => checkPullSecret newSecret ns
  | .update newSecret =>
      match env.getDeploymentNamespace with
      | .error _ => false
      | .ok ns =>
          if checkPullSecret newSecret ns then
            decide ((pullSecret? pullSecrets newSecret.key).map PullSecret.data ≠
              some newSecret.data)
          else false
  | .delete _ => false

/-- `fusionAccessHandler`, with a cache that is up to date. -/
def fusionAccessHandler (env : Environment) (state : State) : List NamespacedName :=
  match env.getDeploymentNamespace with
  | .error _ => []
  | .ok ns =>
      match state.site.fusionAccesses.filter fun fusionaccess =>
          fusionaccess.metadata.ns = ns with
      | [] => []
      | fusionaccess :: _ => [fusionaccess.key]

/-- The FusionAccess objects of the namespace of the request are those with its key. -/
def OnlyFor (req : NamespacedName) (state : State) : Prop :=
  ∀ fusionaccess ∈ state.site.fusionAccesses, fusionaccess.metadata.ns = req.ns →
    fusionaccess.key = req

section Handling

variable {env : Environment} {req : NamespacedName} {state after : State}

theorem entitlement?_eq (ns : String) :
    state.entitlement? ns =
      (pullSecret? state.pullSecrets ⟨ns, fusionPullSecretName⟩).bind fun secret =>
        if secret.type = .other "Opaque" then
          secret.data.bind fun data => data.get? ibmEntitlementName
        else none := rfl

/-- The request of the only FusionAccess is issued. -/
theorem mem_fusionAccessHandler
    (isNamespace : env.deploymentNamespace = some req.ns) (only : OnlyFor req state)
    (stored : (state.fusionAccess? req).isSome) :
    req ∈ fusionAccessHandler env state := by
  rw [State.fusionAccess?, Option.isSome_map] at stored
  obtain ⟨fusionaccess, found⟩ := Option.isSome_iff_exists.mp stored
  obtain ⟨member, isKey⟩ := Registry.find?_eq_some found
  have inNamespace : fusionaccess.metadata.ns = req.ns := congrArg NamespacedName.ns isKey
  rw [fusionAccessHandler, Environment.getDeploymentNamespace, isNamespace]
  dsimp only
  split
  next none =>
    have listed : fusionaccess ∈ state.site.fusionAccesses.filter fun fusionaccess =>
        decide (fusionaccess.metadata.ns = req.ns) :=
      List.mem_filter.mpr ⟨member, decide_eq_true inNamespace⟩
    rw [none] at listed
    cases listed
  next first others first_others =>
    have listed : first ∈ state.site.fusionAccesses.filter fun fusionaccess =>
        decide (fusionaccess.metadata.ns = req.ns) := by
      rw [first_others]
      exact List.mem_cons_self
    obtain ⟨isStored, isIn⟩ := List.mem_filter.mp listed
    rw [only first isStored (of_decide_eq_true isIn)]
    exact List.mem_singleton_self req

theorem checkPullSecret_iff (secret : PullSecret) (ns : String) :
    checkPullSecret secret ns = true ↔
      secret.type = .other "Opaque" ∧ secret.key = ⟨ns, fusionPullSecretName⟩ := by
  obtain ⟨⟨keyNs, keyName⟩, type, data⟩ := secret
  simp only [checkPullSecret, NamespacedName.mk.injEq]
  split
  · simp_all
  · split
    · simp_all
    · split <;> simp_all

/-- The secret under the key of the pull secret is the same. -/
theorem entitlement?_of_same
    {ns : String}
    (same : pullSecret? after.pullSecrets ⟨ns, fusionPullSecretName⟩ =
      pullSecret? state.pullSecrets ⟨ns, fusionPullSecretName⟩) :
    after.entitlement? ns = state.entitlement? ns := by
  rw [entitlement?_eq, entitlement?_eq, same]

/-- Only a secret of the type that is checked has an entitlement. -/
theorem opaque_of_usable
    {ns : String} {secret : PullSecret}
    (found : pullSecret? state.pullSecrets ⟨ns, fusionPullSecretName⟩ = some secret)
    (usable : (state.entitlement? ns).isSome) :
    secret.type = .other "Opaque" := by
  rw [entitlement?_eq, found, Option.bind_some] at usable
  split at usable
  next isOpaque => exact isOpaque
  next => cases usable

/-- A change that is carried out concerns the secret with its key only. -/
theorem pullSecret?_of_applied
    {pullSecrets after : List PullSecret} {change : PullSecretChange}
    (carriedOut : applyPullSecret pullSecrets change = (after, .ok ()))
    (key : NamespacedName) :
    pullSecret? after key =
      if key = change.concerns then change.leaves else pullSecret? pullSecrets key := by
  cases change with
  | create secret =>
      rw [applyPullSecret] at carriedOut
      split at carriedOut
      · cases carriedOut
      next absent =>
        obtain ⟨rfl, -⟩ := Prod.mk.inj carriedOut
        have read : pullSecret? (pullSecrets ++ [secret]) key =
            (pullSecret? pullSecrets key).or
              (if secret.key = key then some secret else none) := by
          rw [pullSecret?, Registry.find?_append, Registry.find?_cons]
          rfl
        rw [read, PullSecretChange.concerns, PullSecretChange.leaves]
        by_cases same : key = secret.key
        · subst same
          rw [absent, Option.none_or]
        · rw [if_neg (Ne.symm same), if_neg same, Option.or_none]
  | update secret =>
      rw [applyPullSecret] at carriedOut
      split at carriedOut
      · cases carriedOut
      next stored present =>
        split at carriedOut
        · cases carriedOut
        · obtain ⟨rfl, -⟩ := Prod.mk.inj carriedOut
          rw [PullSecretChange.concerns, PullSecretChange.leaves]
          split
          next same =>
            rw [same, pullSecret?, Registry.find?_amend_self fun _ _ => rfl,
              ← pullSecret?, present, Option.map_some]
          next other => exact Registry.find?_amend_of_ne (fun _ _ => rfl) other
  | delete gone =>
      rw [applyPullSecret] at carriedOut
      split at carriedOut
      · cases carriedOut
      · obtain ⟨rfl, -⟩ := Prod.mk.inj carriedOut
        rw [PullSecretChange.concerns, PullSecretChange.leaves]
        split
        next same =>
          rw [same]
          exact Registry.find?_remove_self
        next other => exact Registry.find?_remove_of_ne other

/-- An update finds a secret of the same type. -/
theorem stored_of_updated
    {pullSecrets after : List PullSecret} {secret : PullSecret}
    (carriedOut : applyPullSecret pullSecrets (.update secret) = (after, .ok ())) :
    ∃ stored, pullSecret? pullSecrets secret.key = some stored ∧
      stored.type = secret.type := by
  rw [applyPullSecret] at carriedOut
  split at carriedOut
  · cases carriedOut
  next stored present =>
    split at carriedOut
    · cases carriedOut
    next sameType => exact ⟨stored, present, not_not.mp sameType⟩

/-- A change that is not noticed makes no entitlement usable. -/
theorem usable_of_unnoticed
    {change : PullSecretChange} {pullSecrets : List PullSecret}
    (isNamespace : env.deploymentNamespace = some req.ns)
    (carriedOut : applyPullSecret state.pullSecrets change = (pullSecrets, .ok ()))
    (unnoticed : isItOurPullSecret env state.pullSecrets change = false)
    (usable : (State.entitlement? { state with pullSecrets } req.ns).isSome) :
    (state.entitlement? req.ns).isSome := by
  have isOk : env.getDeploymentNamespace = .ok req.ns := by
    rw [Environment.getDeploymentNamespace, isNamespace]
  have read := pullSecret?_of_applied carriedOut ⟨req.ns, fusionPullSecretName⟩
  by_cases isOurs : (⟨req.ns, fusionPullSecretName⟩ : NamespacedName) = change.concerns
  · rw [if_pos isOurs] at read
    have checked : ∀ secret, change.leaves = some secret → secret.key = change.concerns →
        checkPullSecret secret req.ns = true := by
      intro secret left isKey
      exact (checkPullSecret_iff secret req.ns).mpr
        ⟨opaque_of_usable (read.trans left) usable, isKey.trans isOurs.symm⟩
    cases change with
    | create secret =>
        rw [isItOurPullSecret, isOk] at unnoticed
        exact absurd (checked secret rfl rfl) (Bool.eq_false_iff.mp unnoticed)
    | update secret =>
        obtain ⟨stored, present, sameType⟩ := stored_of_updated carriedOut
        have sameData : stored.data = secret.data := by
          rw [isItOurPullSecret, isOk] at unnoticed
          dsimp only at unnoticed
          rw [if_pos (checked secret rfl rfl), present, Option.map_some,
            decide_eq_false_iff_not, not_not, Option.some.injEq] at unnoticed
          exact unnoticed
        rw [entitlement?_eq, read, PullSecretChange.leaves] at usable
        rw [entitlement?_eq, isOurs, PullSecretChange.concerns, present, Option.bind_some,
          sameType, sameData]
        exact usable
    | delete key =>
        rw [entitlement?_eq, read] at usable
        cases usable
  · rw [if_neg isOurs] at read
    rwa [entitlement?_of_same read] at usable

/-! ## The watch -/

/-- What others do. Changes of secrets and of ConfigMaps are noticed if the watches let them
through, the pull secret is changed as such, and a FusionAccess is not created unnoticed. -/
inductive Disturbs (env : Environment) (req : NamespacedName) : State → Bool → State → Prop
  | depot {before : State} {change : Change} {depot : Depot}
      (only : OnlyFor req before)
      (admitted : change.Admitted req.ns before.depot)
      (carriedOut : before.depot.apply change = (depot, .ok ())) :
      Disturbs env req before
        (Noticed req.ns change depot && decide (req ∈ fusionAccessHandler env before))
        { before with depot }
  | pullSecret {before : State} {change : PullSecretChange} {pullSecrets : List PullSecret}
      (only : OnlyFor req before)
      (carriedOut : applyPullSecret before.pullSecrets change = (pullSecrets, .ok ())) :
      Disturbs env req before
        (isItOurPullSecret env before.pullSecrets change &&
          decide (req ∈ fusionAccessHandler env before))
        { before with pullSecrets }
  | other {before after : State} {noticed : Bool}
      (depot : after.depot = before.depot)
      (pullSecrets : after.pullSecrets = before.pullSecrets)
      (created : noticed = false → (after.fusionAccess? req).isSome →
        (before.fusionAccess? req).isSome) :
      Disturbs env req before noticed after

/-- The pass reads the pull secret without a fault, finds the PodDisruptionBudget marked if
there are Builds, and the source of the credentials well formed. -/
structure Undisturbed (env : Environment) (req : NamespacedName)
    (choices : Nat → ImageCheck.PodChoice) (state : State) : Prop where
  read : ∀ event ∈ ((reconcile env req).run.run operatorServer choices state).log,
    ∀ key, event.request = .own (.getPullSecret key) → event.choice.fault = .none
  labelled : Labelled state.site req.ns
  sourced : WellSourced req.ns state.depot

/-- The passes for a FusionAccess among the changes by others. A pass that fails, or that
asks for it, is repeated. -/
def fusionAccessWatch (env : Environment) (req : NamespacedName) : Watch State where
  change := Disturbs env req
  settle := fun before again after => ∃ choices,
    let outcome := (reconcile env req).run.run operatorServer choices before
    after = outcome.state ∧
      (again = false → Ends outcome.value ∧ Undisturbed env req choices before)

/-- If the FusionAccess is stored and its entitlement can be used, the credentials are up to
date. -/
def Settled (req : NamespacedName) (state : State) : Prop :=
  (state.fusionAccess? req).isSome → (state.entitlement? req.ns).isSome →
    UpToDate req.ns state.depot

/-- What is not noticed does no harm. -/
theorem settled_of_unnoticed
    (isNamespace : env.deploymentNamespace = some req.ns)
    (disturbs : Disturbs env req state false after) (settled : Settled req state) :
    Settled req after := by
  generalize silent : false = noticed at disturbs
  intro stored usable
  cases disturbs with
  | @depot change depot only admitted carriedOut =>
      have issued := mem_fusionAccessHandler isNamespace only stored
      rw [decide_eq_true issued, Bool.and_true] at silent
      exact upToDate_of_unnoticed carriedOut admitted silent.symm (settled stored usable)
  | @pullSecret change pullSecrets only carriedOut =>
      have issued := mem_fusionAccessHandler isNamespace only stored
      rw [decide_eq_true issued, Bool.and_true] at silent
      exact settled stored (usable_of_unnoticed isNamespace carriedOut silent.symm usable)
  | other depot pullSecrets created =>
      rw [depot]
      refine settled (created silent.symm stored) ?_
      rwa [entitlement?_of_same (congrArg (pullSecret? · _) pullSecrets)] at usable

/-- A pass that is not repeated settles the state. -/
theorem settled_of_pass
    {choices : Nat → ImageCheck.PodChoice}
    (isNamespace : env.deploymentNamespace = some req.ns)
    (undisturbed : Undisturbed env req choices state)
    (ends : Ends ((reconcile env req).run.run operatorServer choices state).value) :
    Settled req ((reconcile env req).run.run operatorServer choices state).state := by
  have sound := Program.Ensures.sound (ensures_reconcile env req state) choices ?_
  · intro stored usable
    rcases sound.2 ends with ⟨same, absent⟩ | ⟨ns, isOther, answered⟩
    · rw [same, absent] at stored
      cases stored
    · rw [isNamespace, Option.some.injEq] at isOther
      subst isOther
      refine answered.upToDate undisturbed.labelled undisturbed.sourced ?_
      rwa [entitlement?_of_same (congrArg (pullSecret? · _) answered.pullSecrets)] at usable
  · intro event member
    rw [Contract.Relied]
    dsimp only [honest]
    split
    next key isRead => exact undisturbed.read event member key isRead
    next => trivial

end Handling

/-- What the first pass leaves behind. -/
def settledState : State :=
  ((reconcile configured onlyKey).run.run operatorServer (fun _ => {}) entitledState).state

/-- New credentials of the internal registry, in a secret next to the old one. -/
def rotatedSecret : Secret where
  metadata := { name := "builder-dockercfg-y9q4m", ns := deploymentNamespace }
  type := .dockercfg
  data := [(".dockercfg", .json (.object [("quay.io", basicAuth "dXNlcjpuZXc=")]))]

/-- After the new secret is created. -/
def rotatedDepot : Depot := (settledState.depot.create .secret rotatedSecret).1

theorem wellSourced_firstDepot :
    WellSourced deploymentNamespace (firstDepot quayCredentials) where
  source := by
    intro secret current
    obtain rfl : builderSecret _ = secret :=
      Option.some_inj.mp ((registrySecret?_firstDepot _).symm.trans current)
    exact ⟨isSource_builderSecret _, fun _ => rfl⟩
  apart := by
    intro name named
    rw [Depot.registrySecretName?, imageConfig_firstDepot, builderSecretName?_firstDepot] at named
    cases named
    decide

theorem undisturbed_entitledState :
    Undisturbed configured onlyKey (fun _ => {}) entitledState where
  read := by
    intro event member _ _
    obtain ⟨index, chosen⟩ := Program.choice_of_mem_log member
    rw [chosen]
  labelled := by
    intro pdb impossible
    cases impossible
  sourced := wellSourced_firstDepot

theorem onlyFor_settledState : OnlyFor onlyKey settledState := by
  have keys : ∀ fusionaccess ∈ settledState.site.fusionAccesses,
      fusionaccess.key = onlyKey := by decide +kernel
  exact fun fusionaccess member _ => keys fusionaccess member

theorem admitted_rotatedSecret :
    (Change.create .secret rotatedSecret).Admitted deploymentNamespace settledState.depot where
  other := by decide
  remains := fun _ impossible => by cases impossible

/-- What can be seen after the first pass, and of the new secret. -/
theorem settledState_seen :
    ((reconcile configured onlyKey).run.run operatorServer (fun _ => {}) entitledState).value =
        .ok (some {}) ∧
      (settledState.depot.create .secret rotatedSecret).2 = .ok () ∧
      Noticed deploymentNamespace (.create .secret rotatedSecret) rotatedDepot = false ∧
      (settledState.fusionAccess? onlyKey).isSome ∧
      (settledState.entitlement? deploymentNamespace).isSome ∧
      rotatedDepot.credential? deploymentNamespace "quay.io" =
        some (basicAuth "dXNlcjpwYXNz") := by
  decide +kernel

/-- When the old secret is deleted the new one becomes current, and nobody notices. -/
theorem rotation_unnoticed :
    let key : NamespacedName := ⟨deploymentNamespace, "builder-dockercfg-x7k2p"⟩
    let deleted := rotatedDepot.apply (.delete .secret key)
    deleted.2 = .ok () ∧ Noticed deploymentNamespace (.delete .secret key) deleted.1 = false ∧
      ¬UpToDate deploymentNamespace deleted.1 := by
  intro key deleted
  have seen : deleted.2 = .ok () ∧
      Noticed deploymentNamespace (.delete .secret key) deleted.1 = false ∧
      deleted.1.registrySecret? deploymentNamespace =
        some (settledState.depot.created .secret rotatedSecret) ∧
      deleted.1.credential? deploymentNamespace "quay.io" ≠
        some (basicAuth "dXNlcjpuZXc=") := by
    decide +kernel
  obtain ⟨carriedOut, unnoticed, current, outdated⟩ := seen
  exact ⟨carriedOut, unnoticed, fun upToDate => outdated (upToDate _ current _ _ rfl)⟩

/-- A Build is under way, and the PodDisruptionBudget is not yet marked. -/
def buildingState : State :=
  { entitledState with
    site := { entitledState.site with
      podDisruptionBudgets :=
        [{ metadata :=
            { name := podDisruptionBudgetName, ns := deploymentNamespace
              resourceVersion := 1 } }]
      builds := [⟨deploymentNamespace, "gpfs-module-build"⟩] } }

/-- A pass that marks the PodDisruptionBudget ends before it comes to the credentials. -/
theorem credentials_left_by_marking :
    let outcome := (reconcile configured onlyKey).run.run operatorServer (fun _ => {})
      buildingState
    Ends outcome.value ∧ (outcome.state.entitlement? deploymentNamespace).isSome ∧
      ¬UpToDate deploymentNamespace outcome.state.depot := by
  intro outcome
  have seen : outcome.value = .ok (some {}) ∧
      (outcome.state.entitlement? deploymentNamespace).isSome ∧
      outcome.state.depot.registrySecret? deploymentNamespace =
        some (builderSecret quayCredentials) ∧
      outcome.state.depot.credential? deploymentNamespace "quay.io" ≠
        some (basicAuth "dXNlcjpwYXNz") := by
    decide +kernel
  obtain ⟨value, usable, current, missing⟩ := seen
  exact ⟨⟨some {}, value, by simp⟩, usable, fun upToDate =>
    missing (upToDate _ current _ _ rfl)⟩

end Operator
end Installation
