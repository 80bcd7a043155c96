import FusionAccess.Installation.ReadySteps

/-!
# When a FusionAccess is called ready

A pass goes through many calls, each of which may fail, and some of its steps are left out
or carry on after errors. Where the pull secret can be read, the status still becomes Ready
only when the steps that were due have done their work: the manifest is applied, the console
shows the plugin, and the discovery is asked for if it is wanted. The kernel module is
prepared only if the pull secret can be used, and the pull of images is checked only if a
version is asked for. A pass that ends has also brought the registry credentials up to date,
unless it has stopped at the PodDisruptionBudget.
-/

namespace Installation
namespace Operator

open Kubernetes Interaction Fallible

variable {env : Environment} {state : State}

/-! ## The kernel module -/

/-- The pull secret is read as it is stored; an error means that it cannot be used. -/
theorem ensures_getPullSecretContent (ns : String) :
    Fallible.Ensures (honest env) (getPullSecretContent fusionPullSecretName ns)
      (fun result final => final = state ∧
        ∀ err, result = .error err → state.entitlement? ns = none) state := by
  rw [getPullSecretContent, ensures_bind]
  refine ensures_own trivial ?_ fun _ _ blamed => absurd blamed.choose_spec.1
    blamed.choose_spec.2
  dsimp only [State.answer]
  unfold State.entitlement?
  cases found : Registry.find? PullSecret.key ⟨ns, fusionPullSecretName⟩
      state.pullSecrets with
  | none => exact ⟨rfl, fun _ _ => rfl⟩
  | some secret =>
      rw [onSuccess_ok, ensures_ite]
      constructor
      · intro otherType
        exact ⟨rfl, fun _ _ => if_neg otherType⟩
      · intro isOpaque
        rw [not_not] at isOpaque
        rw [Option.bind_eq_bind, Option.bind_some, if_pos isOpaque]
        cases secret.data with
        | none => exact ⟨rfl, fun _ _ => rfl⟩
        | some data =>
            dsimp only
            rw [Option.bind_eq_bind, Option.bind_some]
            cases data.get? ibmEntitlementName with
            | none => exact ⟨rfl, fun _ _ => rfl⟩
            | some secData => exact ⟨rfl, fun _ impossible => by cases impossible⟩

/-- After success the storage of the image registry lasts. -/
theorem ensures_checkImageRegistryStorage :
    Fallible.Ensures (honest env) checkImageRegistryStorage
      (fun result final => final = state ∧ (result = .ok () →
        ∀ config, state.registryConfig = some config →
          config.specEmptyDir = false ∧ config.statusEmptyDir = false)) state := by
  rw [checkImageRegistryStorage, ensures_bind, ensures_attempt]
  refine ensures_own trivial ?_ fun failure transient _ final isFinal => ?_
  · dsimp only [State.answer]
    cases state.registryConfig with
    | none =>
        exact ⟨rfl, fun _ _ impossible => by cases impossible⟩
    | some config =>
        rw [onSuccess_ok]
        dsimp only
        rw [ensures_ite, ensures_ite]
        refine ⟨fun _ => ⟨rfl, fun impossible => by cases impossible⟩, fun specOther =>
          ⟨fun _ => ⟨rfl, fun impossible => by cases impossible⟩, fun statusOther => ?_⟩⟩
        refine ⟨rfl, fun _ stored isStored => ?_⟩
        cases isStored
        exact ⟨Bool.eq_false_iff.mpr specOther, Bool.eq_false_iff.mpr statusOther⟩
  · have unchanged : final = state := isFinal.elim id id
    rw [onSuccess_ok]
    dsimp only
    rw [if_neg transient.1]
    exact ⟨unchanged, fun impossible => by cases impossible⟩

/-- The Module's configuration says which registry is used. -/
theorem ensures_isUsingInternalImageRegistry (depot : Depot) (ns : String) :
    Fallible.Ensures anyRequest (isUsingInternalImageRegistry ns)
      (fun result final => final = depot ∧ ∀ internal, result = .ok internal →
        internal = decide ((depot.imageConfig ns).registryURL ∈ internalRegistryURLs))
      depot := by
  rw [isUsingInternalImageRegistry, ensures_bind, ensures_mapError]
  refine ensures_getKMMImageConfig ?_ fun err => ⟨rfl, fun _ impossible => by
    cases impossible⟩
  refine ⟨rfl, fun internal isInternal => ?_⟩
  cases isInternal
  rfl

/-- The step that checks the image registry. -/
theorem ensures_checkRegistry
    {fusionaccess : FusionAccess} {ns : String} (holds : state.Holds fusionaccess) :
    Fallible.Ensures (honest env) (checkRegistry fusionaccess ns)
      (fun result final => ∀ reported, result = .ok reported →
        (∃ site details, final = { state with site, details }) ∧ final.Holds reported ∧
          Continues fusionaccess reported ∧ final.RegistryLasts ns) state := by
  rw [checkRegistry, ensures_bind]
  refine (ensures_onDepot (ensures_isUsingInternalImageRegistry state.depot ns)).mono ?_
  rintro (err | usingInternalRegistry) between ⟨depot, rfl, rfl, isInternal⟩
  · exact fun _ impossible => by cases impossible
  rw [onSuccess_ok, ensures_ite]
  refine ⟨fun internal => ?_, fun notInternal => ?_⟩
  · rw [ensures_bind, ensures_attempt]
    refine ensures_checkImageRegistryStorage.mono ?_
    rintro (err | _) same ⟨rfl, lasts⟩
    · exact ensures_reportError holds (by decide) fun _ _ _ impossible => by
        cases impossible
    · change Fallible.Ensures (honest env) (report fusionaccess fusionaccess.status.status
        (imageRegistryStorage .isTrue "ValidStorageBackend"
          "Image registry is using a supported storage backend")) _ _
      refine (ensures_report holds id).mono ?_
      intro result final ensured reported succeeded
      obtain ⟨⟨fusionAccesses, revision, details, rfl⟩, stored, isReported⟩ :=
        ensured reported succeeded
      exact ⟨⟨_, details, rfl⟩, stored, isReported.continues (by decide),
        fun _ => lasts rfl⟩
  · intro reported same
    cases same
    refine ⟨⟨_, _, rfl⟩, holds, Continues.refl _, fun listed => ?_⟩
    rw [isInternal _ rfl, decide_eq_true_eq] at notInternal
    exact absurd listed notInternal

/-- The step about the kernel module; without an entitlement it is left out. -/
theorem ensures_prepareKernelModule
    {fusionaccess : FusionAccess} {ns : String}
    (isNamespace : env.deploymentNamespace = some ns) (holds : state.Holds fusionaccess) :
    Fallible.Ensures (honest env) (prepareKernelModule env fusionaccess ns)
      (fun result final => ∀ reported, result = .ok reported →
        (∃ site details depot, final = { state with site, details, depot }) ∧
          final.Holds reported ∧ Continues fusionaccess reported ∧
          ((state.entitlement? ns).isSome → KernelModuleReady final ns ∧
            (WellSourced ns state.depot → UpToDate ns final.depot))) state := by
  rw [prepareKernelModule, ensures_bind, ensures_attempt]
  refine (ensures_getPullSecretContent ns).mono ?_
  rintro (err | secret) same ⟨rfl, unusable⟩
  · intro reported isReported
    cases isReported
    refine ⟨⟨_, _, _, rfl⟩, holds, Continues.refl _, fun usable => ?_⟩
    rw [unusable err rfl] at usable
    cases usable
  change Fallible.Ensures _ (_ >>= _) _ _
  rw [ensures_bind]
  refine (ensures_onDepot (ensures_updateEntitlementPullSecrets secret ns)).mono ?_
  rintro (err | _) between ⟨distributed, rfl, distributes, lists⟩
  · exact fun _ impossible => by cases impossible
  have stillHolds : State.Holds { same with depot := distributed } fusionaccess := holds
  rw [onSuccess_ok, ensures_bind]
  refine (ensures_checkRegistry stillHolds).mono ?_
  rintro (err | reported) between checked
  · exact fun _ impossible => by cases impossible
  obtain ⟨⟨site, details, rfl⟩, stored, continues, lasts⟩ := checked reported rfl
  rw [onSuccess_ok, ensures_bind, isNamespace]
  have prepares : Fallible.Ensures anyRequest
      (createOrUpdateKMMResources (CoreImage.decodeObjmap env.parse) (some ns))
      (fun result final => (KeepsEntitlements ns distributed final ∧
        (result = .ok () → DescribesBuild final ns)) ∧
        (result = .ok () → WellSourced ns distributed → UpToDate ns final)) distributed :=
    (ensures_createOrUpdateKMMResources _).and (ensures_createOrUpdateKMMResources_upToDate _)
  refine (ensures_onDepot prepares).mono ?_
  rintro (err | _) final ⟨depot, rfl, ⟨kept, builds⟩, upToDate⟩
  · exact fun _ impossible => by cases impossible
  intro last isLast
  cases isLast
  refine ⟨⟨site, details, depot, rfl⟩, stored, continues, fun _ => ⟨?_, fun sourced =>
    upToDate rfl (sourced.distributed distributes)⟩⟩
  refine ⟨fun destNamespace member => ?_, builds rfl, fun listed => ?_⟩
  · obtain ⟨secret, found, isListed⟩ := lists rfl destNamespace member
    refine ⟨secret, ?_, isListed⟩
    refine (kept.secrets _ fun same => ?_).trans found
    exact absurd (congrArg NamespacedName.name same)
      (show ibmEntitlementName ≠ kmmRegistryPushPullSecretName by decide)
  · refine lasts ?_
    change (depot.imageConfig ns).registryURL ∈ _ at listed
    rw [kept.imageConfig] at listed
    exact listed

/-! ## Images and discovery -/

/-- The step that checks whether images can be pulled. -/
theorem ensures_checkImagePull
    {fusionaccess : FusionAccess} {ns : String} (holds : state.Holds fusionaccess) :
    Fallible.Ensures (honest env) (checkImagePull env fusionaccess ns)
      (fun result final => ∀ checked, result = .ok checked →
        (∃ site details pods, final = { state with site, details, pods }) ∧
          ∀ reported, checked = some reported →
            final.Holds reported ∧ Continues fusionaccess reported ∧
            (reported.storageScaleVersion ≠ "" →
              statusOf? reported.status.conditions imagePullType = some .isTrue)) state := by
  have polls : Fallible.Ensures (honest env) (runPullImageCheck env ns)
      (fun _ final => ∃ pods, final = { state with pods }) state := by
    rw [runPullImageCheck, ensures_bind]
    cases env.getExternalTestImage with
    | error err => exact ⟨state.pods, rfl⟩
    | ok testImage =>
        change Fallible.Ensures _ (_ >>= _) _ _
        rw [ensures_bind]
        refine (ensures_onPods _).mono ?_
        rintro (err | (_ | _)) final unchanged
        · exact unchanged
        · exact unchanged
        · exact unchanged
  rw [checkImagePull, ensures_ite]
  refine ⟨fun versioned => ?_, fun unversioned => ?_⟩
  · rw [ensures_bind, ensures_attempt]
    refine polls.mono ?_
    rintro result between ⟨pods, rfl⟩
    have stillHolds : State.Holds { state with pods } fusionaccess := holds
    cases result with
    | error err =>
        exact ensures_reportError stillHolds (by decide) fun _ _ _ impossible => by
          cases impossible
    | ok checked =>
        cases checked with
        | none =>
            intro checked isChecked
            cases isChecked
            exact ⟨⟨_, _, pods, rfl⟩, fun _ impossible => by cases impossible⟩
        | some _ =>
            change Fallible.Ensures (honest env) (some <$> report fusionaccess ""
              (imagePull .isTrue "Protected images pulled successfully")) _ _
            rw [ensures_map]
            refine (ensures_report stillHolds fun impossible => absurd impossible
              (by decide)).mono ?_
            rintro (err | reported) final ensured
            · exact fun _ impossible => by cases impossible
            intro checked isChecked
            cases isChecked
            obtain ⟨⟨fusionAccesses, revision, details, rfl⟩, stored, isReported⟩ :=
              ensured reported rfl
            refine ⟨⟨_, details, pods, rfl⟩, fun last isLast => ?_⟩
            cases isLast
            exact ⟨stored, isReported.continues (by decide),
              fun _ => (isReported.conditions imagePullType).trans (if_pos rfl)⟩
  · intro checked isChecked
    cases isChecked
    refine ⟨⟨_, _, _, rfl⟩, fun last isLast => ?_⟩
    cases isLast
    exact ⟨holds, Continues.refl _, fun versioned => absurd versioned unversioned⟩

/-- What is left of a LocalVolumeDiscovery that is stored under a key. -/
def State.DiscoversAs (state : State) (lvd : Discovery.LocalVolumeDiscovery) : Prop :=
  ∃ stored, state.discovery? lvd.key = some stored ∧
    stored.nodeSelector = lvd.nodeSelector ∧ stored.tolerations = lvd.tolerations

theorem discoversAs_of_created
    {lvd : Discovery.LocalVolumeDiscovery} (succeeds : (state.createDiscovery lvd).2 = .ok ()) :
    (state.createDiscovery lvd).1.DiscoversAs lvd := by
  unfold State.createDiscovery at succeeds ⊢
  cases found : state.discovery? lvd.key with
  | some _ =>
      rw [found] at succeeds
      cases succeeds
  | none =>
      refine ⟨{ lvd with
        metadata := { lvd.metadata with
          uid := state.revision + 1, generation := 1, resourceVersion := state.revision + 1 }
        phase := .unset, conditions := [], observedGeneration := 0 }, ?_, rfl, rfl⟩
      change Registry.find? _ _ (state.discoveries ++ [_]) = _
      rw [Registry.find?_append, ← State.discovery?, found, Option.none_or,
        Registry.find?_cons]
      exact if_pos rfl

theorem discoversAs_of_updated
    {lvd : Discovery.LocalVolumeDiscovery} (succeeds : (state.updateDiscovery lvd).2 = .ok ()) :
    (state.updateDiscovery lvd).1.DiscoversAs lvd := by
  unfold State.updateDiscovery at succeeds ⊢
  cases found : state.discovery? lvd.key with
  | none =>
      rw [found] at succeeds
      cases succeeds
  | some stored =>
      rw [found] at succeeds
      dsimp only at succeeds ⊢
      split
      next outdated =>
        rw [if_pos outdated] at succeeds
        cases succeeds
      next current =>
        refine ⟨{ stored with
          metadata := { lvd.metadata with
            uid := stored.metadata.uid, resourceVersion := state.revision + 1 }
          nodeSelector := lvd.nodeSelector
          tolerations := lvd.tolerations }, ?_, rfl, rfl⟩
        change Registry.find? _ _ (Registry.amend _ _ _ _) = _
        rw [Registry.find?_amend_self (by exact fun _ _ => rfl), ← State.discovery?, found]
        rfl

/-- No write of a LocalVolumeDiscovery changes anything else. -/
theorem exists_of_writes (lvd : Discovery.LocalVolumeDiscovery) :
    (∃ discoveries revision,
      (state.createDiscovery lvd).1 = { state with discoveries, revision }) ∧
    ∃ discoveries revision,
      (state.updateDiscovery lvd).1 = { state with discoveries, revision } := by
  constructor
  · unfold State.createDiscovery
    split <;> exact ⟨_, _, rfl⟩
  · unfold State.updateDiscovery
    split
    · exact ⟨_, _, rfl⟩
    · split <;> exact ⟨_, _, rfl⟩

/-- After success the discovery of devices is asked for. -/
theorem ensures_createOrUpdateLocalVolumeDiscovery
    (devicefinder : Discovery.LocalVolumeDiscovery) :
    Fallible.Ensures (honest env) (createOrUpdateLocalVolumeDiscovery devicefinder)
      (fun result final => result = .ok () →
        (∃ discoveries revision, final = { state with discoveries, revision }) ∧
          final.DiscoversAs devicefinder) state := by
  rw [createOrUpdateLocalVolumeDiscovery, ensures_bind, ensures_attempt]
  refine ensures_own trivial ?_ fun failure transient _ final _ => ?_
  · dsimp only [State.answer]
    cases found : state.discovery? devicefinder.key with
    | none =>
        change Fallible.Ensures (honest env) (Fallible.mapError _
          (own (.createLocalVolumeDiscovery devicefinder))) _ _
        rw [ensures_mapError]
        refine ensures_own trivial (fun succeeds => ?_)
          fun _ _ _ _ _ impossible => by cases impossible
        exact ⟨(exists_of_writes devicefinder).1,
          discoversAs_of_created (Results.eq_ok_of_mapError succeeds)⟩
    | some oldCP =>
        have isKey : oldCP.key = devicefinder.key := (Registry.find?_eq_some found).2
        let updated : Discovery.LocalVolumeDiscovery := { oldCP with
          metadata := { oldCP.metadata with
            ownerReferences := devicefinder.metadata.ownerReferences }
          nodeSelector := devicefinder.nodeSelector
          tolerations := devicefinder.tolerations }
        change Fallible.Ensures (honest env) (Fallible.mapError _
          (own (.updateLocalVolumeDiscovery updated))) _ _
        rw [ensures_mapError]
        refine ensures_own trivial (fun succeeds => ⟨(exists_of_writes updated).2, ?_⟩)
          fun _ _ _ _ _ impossible => by cases impossible
        obtain ⟨stored, isStored, same⟩ :=
          discoversAs_of_updated (Results.eq_ok_of_mapError succeeds)
        rw [show updated.key = devicefinder.key from isKey] at isStored
        exact ⟨stored, isStored, same⟩
  · rw [onSuccess_ok]
    dsimp only
    rw [if_neg transient.1]
    exact fun impossible => by cases impossible

/-- The step that asks for the discovery, if it is wanted. -/
theorem ensures_createDiscovery (fusionaccess : FusionAccess) (ns : String) :
    Fallible.Ensures (honest env) (createDiscovery fusionaccess ns)
      (fun result final => result = .ok () →
        (∃ discoveries revision, final = { state with discoveries, revision }) ∧
          (fusionaccess.createDiscovery = true → final.Discovers ns)) state := by
  rw [createDiscovery, ensures_ite]
  refine ⟨fun _ => ?_, fun unwanted _ => ⟨⟨_, _, rfl⟩, fun wanted => absurd wanted unwanted⟩⟩
  refine (ensures_createOrUpdateLocalVolumeDiscovery _).mono ?_
  intro result final ensured succeeded
  exact ⟨(ensured succeeded).1, fun _ => (ensured succeeded).2⟩

/-! ## The pass -/

/-- The status Ready is written at the end, when nothing is left to do. -/
theorem ensures_finish
    {fusionaccess : FusionAccess} {ns : String}
    (holds : state.Holds fusionaccess)
    (isNamespace : env.deploymentNamespace = some ns)
    (applies : ∃ path, Suits env fusionaccess path ∧ state.Applies path)
    (reported : statusOf? fusionaccess.status.conditions manifestApplyType = some .isTrue)
    (module : (state.entitlement? ns).isSome → KernelModuleReady state ns)
    (plugin : PluginRegistered state.plugin ns ∧ PluginEnabled state.plugin)
    (pulls : fusionaccess.storageScaleVersion ≠ "" →
      statusOf? fusionaccess.status.conditions imagePullType = some .isTrue) :
    Fallible.Ensures (honest env) (finish fusionaccess ns)
      (fun result final => ∀ answer, result = .ok answer →
        final.depot = state.depot ∧ final.pullSecrets = state.pullSecrets) state := by
  rw [finish, ensures_bind]
  refine (ensures_createDiscovery fusionaccess ns).mono ?_
  rintro (err | _) between discovered
  · exact fun _ impossible => by cases impossible
  obtain ⟨⟨discoveries, revision, rfl⟩, discovers⟩ := discovered rfl
  rw [onSuccess_ok, ensures_bind]
  refine ensures_own (fun _ => Or.inr ?_) ?_ fun _ _ _ _ _ _ impossible => by
    cases impossible
  · exact
      { stored := ⟨fusionaccess, holds, ⟨rfl, rfl, rfl, rfl⟩⟩
        applies := applies
        reported := reported
        module := fun other isOther usable => by
          rw [isNamespace, Option.some.injEq] at isOther
          subst isOther
          obtain ⟨lists, build, registry⟩ := module usable
          exact ⟨lists, build, registry⟩
        plugin := ⟨ns, isNamespace, plugin⟩
        pulls := pulls
        discovers := fun wanted => ⟨ns, isNamespace, discovers wanted⟩ }
  · have kept : ∀ written : FusionAccess,
        (State.updateStatus { state with discoveries, revision } written).1.depot =
          state.depot ∧
        (State.updateStatus { state with discoveries, revision } written).1.pullSecrets =
          state.pullSecrets := by
      intro written
      unfold State.updateStatus
      split
      · exact ⟨rfl, rfl⟩
      · split <;> exact ⟨rfl, rfl⟩
    dsimp only [State.answer]
    generalize (State.updateStatus _ _).2 = result
    cases result with
    | error _ => exact fun _ impossible => by cases impossible
    | ok _ => exact fun _ _ => kept _

/-- What suits a FusionAccess suits what the pass goes on with. -/
theorem Suits.of_sameSpec
    {first second : FusionAccess} {path : String}
    (suits : Suits env first path) (same : SameSpec first second) :
    Suits env second path := by
  obtain ⟨version, isManifest, fits⟩ := suits
  refine ⟨version, ?_, by rwa [same.version]⟩
  rw [← isManifest, Environment.getIbmManifest, same.url]
  rfl

/-- What a pass leaves of the pull secrets, and of the credentials if it has come to them. -/
structure Answered (ns : String) (key : NamespacedName) (state final : State) : Prop where
  pullSecrets : final.pullSecrets = state.pullSecrets
  upToDate : Labelled state.site key.ns → WellSourced ns state.depot →
    (state.entitlement? ns).isSome → UpToDate ns final.depot

/-- The step about the PodDisruptionBudget lets the pass go on where the budget is marked,
and leaves the FusionAccess objects alone. -/
theorem ensures_managePodDisruptionBudget_apart
    {site : Site} {fusionaccess : Installation.FusionAccess} :
    Fallible.Ensures anyUpdate (managePodDisruptionBudget fusionaccess)
      (fun result final => (Labelled site fusionaccess.metadata.ns →
        ∀ pdbreq, result ≠ .ok (some pdbreq)) ∧
          final.fusionAccesses = site.fusionAccesses) site :=
  ensures_managePodDisruptionBudget_goesOn.and
    ((safe_managePodDisruptionBudget_stores site.fusionAccesses _ site rfl).mono
      fun _ _ kept => kept.2)

/-- The steps that follow the decision which manifest to apply. -/
theorem ensures_install
    {fusionaccess : FusionAccess} {ns path : String}
    (holds : state.Holds fusionaccess)
    (isNamespace : env.deploymentNamespace = some ns)
    (suits : Suits env fusionaccess path) :
    Fallible.Ensures (honest env) (install env fusionaccess ns path)
      (fun result final => ∀ answer, result = .ok answer →
        Answered ns fusionaccess.toFusionAccess.key state final) state := by
  rw [install, ensures_bind]
  refine (ensures_applyManifest holds).mono ?_
  rintro (err | applied) first ensured
  · exact fun _ impossible => by cases impossible
  obtain ⟨⟨fusionAccesses, revision, details, applies, rfl⟩, stored, sameSpec, isApplied,
    reported⟩ := ensured applied rfl
  generalize isFirst : ({ state with
    site := { state.site with fusionAccesses, revision }
    details
    applied := applies } : State) = first at *
  rw [onSuccess_ok, ensures_bind]
  refine (ensures_onSite ensures_managePodDisruptionBudget_apart).mono ?_
  have sameNamespace : applied.metadata.ns = fusionaccess.metadata.ns :=
    congrArg NamespacedName.ns sameSpec.key
  rw [sameNamespace]
  rintro (err | (_ | pdbreq)) second ⟨site, rfl, goesOn, same⟩
  · exact fun _ impossible => by cases impossible
  swap
  · intro _ _
    subst isFirst
    exact ⟨rfl, fun labelled => absurd rfl (goesOn labelled pdbreq)⟩
  have holdsNow : State.Holds { first with site } applied := by
    rw [State.Holds, ← stored, State.fusionAccess?, State.fusionAccess?, Site.fusionAccess?,
      same]
    rfl
  change Fallible.Ensures _ (_ >>= _) _ _
  rw [ensures_bind]
  refine (ensures_prepareKernelModule isNamespace holdsNow).mono ?_
  rintro (err | prepared) third ensured
  · exact fun _ impossible => by cases impossible
  obtain ⟨⟨site, details, depot, rfl⟩, stored, continues, prepares⟩ := ensured prepared rfl
  have answered : ∀ final : State, final.depot = depot →
      final.pullSecrets = first.pullSecrets →
        Answered ns fusionaccess.toFusionAccess.key state final := by
    intro final sameDepot samePullSecrets
    subst isFirst
    refine ⟨samePullSecrets, fun _ sourced usable => ?_⟩
    rw [sameDepot]
    exact (prepares usable).2 sourced
  rw [onSuccess_ok, ensures_bind]
  refine (ensures_enableConsolePlugin isNamespace).mono ?_
  rintro (err | _) fourth ensured
  · exact fun _ impossible => by cases impossible
  obtain ⟨plugin, rfl, registered, enabled⟩ := ensured rfl
  have holdsStill : State.Holds { first with site, details, depot, plugin } prepared := stored
  rw [onSuccess_ok, ensures_bind]
  refine (ensures_checkImagePull holdsStill).mono ?_
  rintro (err | checked) fifth ensured
  · exact fun _ impossible => by cases impossible
  obtain ⟨⟨site, details, pods, rfl⟩, goesOn⟩ := ensured checked rfl
  rcases checked with _ | checked
  · exact fun _ _ => answered _ rfl rfl
  obtain ⟨stored, continuesOn, pulls⟩ := goesOn checked rfl
  have all : Continues applied checked := continues.trans continuesOn
  refine (ensures_finish stored isNamespace ⟨path, ?_, isApplied⟩ ?_ ?_
    ⟨registered, enabled⟩ pulls).mono fun result final kept answer succeeded =>
      answered final (kept answer succeeded).1 (kept answer succeeded).2
  · exact suits.of_sameSpec (sameSpec.trans all.spec)
  · exact all.manifest.trans reported
  · intro usable
    obtain ⟨lists, build, registry⟩ := (prepares usable).1
    exact ⟨lists, build, registry⟩

/-- The pass ends, and is not repeated at once. -/
def Ends (result : Except Failure (Option Result)) : Prop :=
  ∃ answer, result = .ok answer ∧ ∀ res, answer = some res → res.requeue = false

/-- A pass that updates the version is repeated. -/
theorem ensures_updateStorageScaleVersion
    (fusionaccess : Installation.FusionAccess) (version : String) (site : Site) :
    Fallible.Ensures anyUpdate (updateStorageScaleVersion fusionaccess version)
      (fun result _ => ∀ res, result = .ok res → res.requeue = true) site := by
  rw [updateStorageScaleVersion]
  refine ensures_bind_of_free (fun _ _ => trivial) _ _ _ _
    (fun _ _ _ impossible => by cases impossible) fun _ _ => ?_
  refine ensures_bind_of_free (fun _ _ => trivial) _ _ _ _
    (fun _ _ _ impossible => by cases impossible) fun _ _ => ?_
  intro res isRes
  cases isRes
  rfl

/-- A pass that ends has found no FusionAccess, or has answered the request. -/
def Answers (env : Environment) (req : NamespacedName) (state : State)
    (result : Except Failure (Option Result)) (final : State) : Prop :=
  Ends result → final = state ∧ state.fusionAccess? req = none ∨
    ∃ ns, env.deploymentNamespace = some ns ∧ Answered ns req state final

theorem answers_error {req : NamespacedName} {err : Failure} {final : State} :
    Answers env req state (.error err) final := by
  rintro ⟨answer, impossible, -⟩
  cases impossible

/-- A pass as a whole. -/
theorem ensures_reconcile (env : Environment) (req : NamespacedName) (state : State) :
    Fallible.Ensures (honest env) (reconcile env req) (Answers env req state) state := by
  rw [reconcile, ensures_bind, ensures_attempt]
  refine ensures_own trivial ?_ fun failure transient _ final _ => ?_
  · dsimp only [State.answer]
    cases found : state.fusionAccess? req with
    | none => exact fun _ => Or.inl ⟨rfl, found⟩
    | some fusionaccess =>
        obtain ⟨base, isStored, isBase⟩ := Option.map_eq_some_iff.mp found
        have isKey : fusionaccess.toFusionAccess.key = req := by
          rw [← isBase]
          exact (Registry.find?_eq_some isStored).2
        have holds : state.Holds fusionaccess := by
          rw [State.Holds, isKey]
          exact found
        rw [onSuccess_ok]
        dsimp only
        rw [ensures_bind]
        cases isNamespace : env.deploymentNamespace with
        | none =>
            rw [Environment.getDeploymentNamespace, isNamespace]
            exact answers_error
        | some ns =>
            rw [Environment.getDeploymentNamespace, isNamespace]
            change Fallible.Ensures _ (_ >>= _) _ _
            rw [ensures_bind]
            cases isManifest : env.getIbmManifest fusionaccess with
            | error err => exact answers_error
            | ok manifest =>
                change Fallible.Ensures _ (if _ then _ else _) _ _
                rw [ensures_ite]
                refine ⟨fun _ => ?_, fun fits => ?_⟩
                · rw [ensures_map]
                  refine (ensures_onSite (ensures_updateStorageScaleVersion _ _ _)).mono ?_
                  rintro (err | res) final ⟨_, _, requeues⟩
                  · exact answers_error
                  · rintro ⟨answer, isAnswer, ends⟩
                    cases isAnswer
                    have requeued := requeues res rfl
                    rw [ends res rfl] at requeued
                    cases requeued
                · refine (ensures_install holds isNamespace
                    ⟨manifest.1, isManifest, by tauto⟩).mono ?_
                  rintro result final answered ⟨answer, isAnswer, -⟩
                  rw [isKey] at answered
                  exact Or.inr ⟨ns, isNamespace, answered answer isAnswer⟩
  · rw [onSuccess_ok]
    dsimp only
    rw [if_neg transient.1]
    exact answers_error

/-- Whatever is stored and whichever calls fail, except that the pull secret can be read:
a pass calls a FusionAccess ready that was not only when it is installed. -/
theorem ready_only_when_installed
    {env : Environment} {req : NamespacedName} {state : State}
    {choices : Nat → ImageCheck.PodChoice}
    (read : ∀ event ∈ ((reconcile env req).run.run operatorServer choices state).log,
      ∀ key, event.request = .own (.getPullSecret key) → event.choice.fault = .none) :
    ∀ event ∈ ((reconcile env req).run.run operatorServer choices state).log,
      ∀ fusionaccess, event.request = .own (.updateStatus fusionaccess) →
        fusionaccess.status.status = "Ready" →
          event.before.IsReady fusionaccess.toFusionAccess.key ∨
            Installed env event.before fusionaccess := by
  have sound := Program.Ensures.sound (ensures_reconcile env req state) choices ?_
  · intro event member fusionaccess isUpdate
    have kept := sound.1 event member
    rw [Contract.Kept, isUpdate] at kept
    exact kept
  · intro event member
    rw [Contract.Relied]
    dsimp only [honest]
    split
    next key isRead => exact read event member key isRead
    next => trivial

/-- The operator as it is deployed, without bundled manifests. -/
def deployed : Environment where
  deploymentNamespace := some "ibm-fusion-access"
  readDir := fun _ => .error "no such file or directory"
  readFile := fun _ => .error "no such file or directory"
  parse := fun _ => []
  toLower := Char.toLower
  rounds := 0

/-- The key of the only FusionAccess. -/
def onlyKey : NamespacedName := ⟨"ibm-fusion-access", "fusionaccess"⟩

/-- A new FusionAccess asks for a manifest from outside and for the discovery of devices. -/
def firstState : State where
  site :=
    { fusionAccesses := [{ metadata :=
        { name := "fusionaccess", ns := "ibm-fusion-access", resourceVersion := 1 } }]
      revision := 1 }
  details := fun _ =>
    { externalManifestURL :=
        "https://raw.githubusercontent.com/openshift-storage-scale/project1"
      createDiscovery := true }
  plugin := Plugin.otherPlugin
  manifests := fun _ => some [⟨"Namespace", ⟨"", "ibm-spectrum-scale"⟩⟩]

/-- The credentials of the internal registry. -/
def quayCredentials : Fields := [("quay.io", basicAuth "dXNlcjpwYXNz")]

/-- The operator with a parser that knows the configuration of the images. -/
def configured : Environment :=
  { deployed with parse := CoreImage.parserOf managerConfig CoreImage.releaseTree }

/-- A new FusionAccess, with an entitlement and credentials of the internal registry. -/
def entitledState : State :=
  { firstState with
    depot := firstDepot quayCredentials
    pullSecrets :=
      [{ key := ⟨deploymentNamespace, fusionPullSecretName⟩
         type := .other "Opaque"
         data := some [(ibmEntitlementName, [107, 101, 121])] }] }

/-- The first pass, which finds the entitlement, calls the FusionAccess ready. -/
theorem ready_only_when_installed_first :
    let outcome := (reconcile configured onlyKey).run.run operatorServer (fun _ => {})
      entitledState
    (outcome.state.IsReady onlyKey ∧ ¬entitledState.IsReady onlyKey ∧
      (outcome.state.entitlement? deploymentNamespace).isSome) ∧
      ∀ event ∈ outcome.log, ∀ fusionaccess,
        event.request = .own (.updateStatus fusionaccess) →
          fusionaccess.status.status = "Ready" →
            event.before.IsReady fusionaccess.toFusionAccess.key ∨
              Installed configured event.before fusionaccess := by
  refine ⟨?_, ready_only_when_installed fun event member _ _ => ?_⟩
  · unfold State.IsReady
    decide +kernel
  · obtain ⟨index, chosen⟩ := Program.choice_of_mem_log member
    rw [chosen]

end Operator
end Installation
