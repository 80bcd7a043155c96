import FusionAccess.Installation.Distribution
import FusionAccess.Installation.Operator

/-!
# The steps towards a ready FusionAccess

What a FusionAccess asks for, and what the first steps of a pass leave behind: a report is
stored as the pass has it, the resources of the manifest are applied, and the console shows
the plugin.
-/

namespace Installation
namespace Operator

open Kubernetes Interaction Fallible

/-! ## What a FusionAccess asks for -/

/-- All resources of the manifest are applied. -/
def State.Applies (state : State) (path : String) : Prop :=
  ∃ resources, state.manifests path = some resources ∧
    ∀ spec ∈ resources, (path, spec) ∈ state.applied

/-- The entitlement in the pull secret, if it can be used. -/
def State.entitlement? (state : State) (ns : String) : Option (List UInt8) := do
  let secret ← Registry.find? PullSecret.key ⟨ns, fusionPullSecretName⟩ state.pullSecrets
  if secret.type = .other "Opaque" then (← secret.data).get? ibmEntitlementName else none

/-- The internal image registry is not in use, or has a storage that lasts. -/
def State.RegistryLasts (state : State) (ns : String) : Prop :=
  (state.depot.imageConfig ns).registryURL ∈ internalRegistryURLs →
    ∀ config, state.registryConfig = some config →
      config.specEmptyDir = false ∧ config.statusEmptyDir = false

/-- The kernel module can be built, and everybody may pull what it takes. -/
structure KernelModuleReady (state : State) (ns : String) : Prop where
  lists : ∀ destNamespace ∈ ibmEntitlementSecrets ns,
    ListsEntitlement state.depot destNamespace
  build : DescribesBuild state.depot ns
  registry : state.RegistryLasts ns

/-- The console plugin is registered as the operator has it. -/
def PluginRegistered (plugin : Plugin.PluginSite) (ns : String) : Prop :=
  ∃ cp, plugin.consolePlugin? Plugin.pluginName = some cp ∧
    cp.spec = (Plugin.newConsolePlugin ns).spec

/-- The console shows the plugin. -/
def PluginEnabled (plugin : Plugin.PluginSite) : Prop :=
  ∃ consoleObj, plugin.console? "cluster" = some consoleObj ∧
    Plugin.pluginName ∈ consoleObj.plugins

/-- The discovery of devices is asked for on all nodes. -/
def State.Discovers (state : State) (ns : String) : Prop :=
  ∃ lvd, state.discovery? (newLocalVolumeDiscovery ns).key = some lvd ∧
    lvd.nodeSelector = none ∧ lvd.tolerations = []

/-- The type of the condition about the manifest. -/
def manifestApplyType : ConditionType := .other "ManifestApply"

/-- The type of the condition about the pull of protected images. -/
def imagePullType : ConditionType := .other "ImagePull"

/-- The manifest that the FusionAccess asks for, or that fits the version it asks for. -/
def Suits (env : Environment) (fusionaccess : FusionAccess) (path : String) : Prop :=
  ∃ version, env.getIbmManifest fusionaccess = .ok (version, path) ∧
    (version = "" ∨ version = fusionaccess.storageScaleVersion)

/-- Two FusionAccess objects ask for the same. -/
structure SameSpec (first second : FusionAccess) : Prop where
  key : second.toFusionAccess.key = first.toFusionAccess.key
  version : second.storageScaleVersion = first.storageScaleVersion
  url : second.externalManifestURL = first.externalManifestURL
  discovery : second.createDiscovery = first.createDiscovery

/-- The FusionAccess is stored, and the steps that are due have done their work. About the
kernel module nothing is said without an entitlement, and that images can be pulled is what
the condition says. -/
structure Installed (env : Environment) (state : State) (fusionaccess : FusionAccess) :
    Prop where
  stored : ∃ kept, state.fusionAccess? fusionaccess.toFusionAccess.key = some kept ∧
    SameSpec kept fusionaccess
  applies : ∃ path, Suits env fusionaccess path ∧ state.Applies path
  reported : statusOf? fusionaccess.status.conditions manifestApplyType = some .isTrue
  module : ∀ ns, env.deploymentNamespace = some ns → (state.entitlement? ns).isSome →
    KernelModuleReady state ns
  plugin : ∃ ns, env.deploymentNamespace = some ns ∧ PluginRegistered state.plugin ns ∧
    PluginEnabled state.plugin
  pulls : fusionaccess.storageScaleVersion ≠ "" →
    statusOf? fusionaccess.status.conditions imagePullType = some .isTrue
  discovers : fusionaccess.createDiscovery = true →
    ∃ ns, env.deploymentNamespace = some ns ∧ state.Discovers ns

/-- The FusionAccess with the given key is called ready. -/
def State.IsReady (state : State) (key : NamespacedName) : Prop :=
  (state.fusionAccess? key).map (fun fusionaccess => fusionaccess.status.status) =
    some "Ready"

/-- The contract of a pass: a FusionAccess that is not yet ready is called ready only when
it is installed. The pull secret is read without a fault, since what fails to be read
counts as absent. -/
def honest (env : Environment) : Contract operatorServer where
  rely := fun _ request choice =>
    match request with
    | .own (.getPullSecret _) => choice.fault = .none
    | _ => True
  guard := fun state request =>
    match request with
    | .own (.updateStatus fusionaccess) => fusionaccess.status.status = "Ready" →
        state.IsReady fusionaccess.toFusionAccess.key ∨ Installed env state fusionaccess
    | _ => True

/-! ## Calls and parts -/

variable {env : Environment} {state : State}

/-- What has to be shown about a call of the controller itself. -/
theorem ensures_own
    {request : OwnRequest} {post : Except Failure request.Yield → State → Prop}
    (guarded : (honest env).guard state (.own request))
    (success : post (state.answer request).2 (state.answer request).1)
    (failed : ∀ failure : Failure, failure.Transient →
      (∃ choice : ImageCheck.PodChoice,
        (honest env).rely state (.own request) choice ∧ choice.fault ≠ .none) →
      ∀ final, final = state ∨ final = (state.answer request).1 →
        post (.error failure) final) :
    Fallible.Ensures (honest env) (own request) post state := by
  refine ⟨guarded, fun choice relied => ?_⟩
  change post (ownServer.serve choice.fault state request).2
    (ownServer.serve choice.fault state request).1
  rcases @Api.serve_cases ownApi State State.answer choice.fault state request with
    ⟨_, served⟩ | ⟨faulty, _, failure, transient, served | served⟩
  · rw [served]
    exact success
  · rw [served]
    exact failed failure transient ⟨choice, relied, faulty⟩ _ (Or.inl rfl)
  · rw [served]
    exact failed failure transient ⟨choice, relied, faulty⟩ _ (Or.inr rfl)

/-- The clock can always be read. -/
theorem ensures_now
    {post : Except Failure Nat → State → Prop}
    (success : post (.ok state.site.clock) state) :
    Fallible.Ensures (honest env) (own .now) post state :=
  ⟨trivial, fun _ _ => success⟩

/-- What a program about the entitlement and the kernel module ensures. -/
theorem ensures_onDepot
    {α : Type} {program : Preparation α} {post : Except Failure α → Depot → Prop}
    (ensures : Fallible.Ensures anyRequest program post state.depot) :
    Fallible.Ensures (honest env) (onDepot program)
      (fun result final => ∃ depot, final = { state with depot } ∧ post result depot)
      state :=
  @Fallible.ensures_within _ _ _ _ _ _ depotPart anyRequest (honest env) program post state
    ⟨fun _ _ _ _ => trivial, fun _ _ _ => trivial⟩ ensures

/-- Every call about updates is admitted. -/
abbrev anyUpdate : Contract siteServer := Contract.demand fun _ _ => True

/-- Every call about the plugin is admitted. -/
abbrev anyPluginCall : Contract Plugin.pluginServer := Contract.demand fun _ _ => True

/-- Every call about pods is admitted. -/
abbrev anyPodCall : Contract ImageCheck.podServer := Contract.demand fun _ _ => True

/-- What a program about updates ensures. -/
theorem ensures_onSite
    {α : Type} {program : Update α} {post : Except Failure α → Site → Prop}
    (ensures : Fallible.Ensures anyUpdate program post state.site) :
    Fallible.Ensures (honest env) (onSite program)
      (fun result final => ∃ site, final = { state with site } ∧ post result site) state :=
  @Fallible.ensures_within _ _ _ _ _ _ sitePart anyUpdate (honest env) program post state
    ⟨fun _ _ _ _ => trivial, fun _ _ _ => trivial⟩ ensures

/-- What a program about the console plugin ensures. -/
theorem ensures_onPlugin
    {α : Type} {program : Plugin.Plugins α}
    {post : Except Failure α → Plugin.PluginSite → Prop}
    (ensures : Fallible.Ensures anyPluginCall program post state.plugin) :
    Fallible.Ensures (honest env) (onPlugin program)
      (fun result final => ∃ plugin, final = { state with plugin } ∧ post result plugin)
      state :=
  @Fallible.ensures_within _ _ _ _ _ _ pluginPart anyPluginCall (honest env) program post
    state ⟨fun _ _ _ _ => trivial, fun _ _ _ => trivial⟩ ensures

/-- The image check changes pods only. -/
theorem ensures_onPods {α : Type} (program : ImageCheck.Check α) :
    Fallible.Ensures (honest env) (onPods program)
      (fun _ final => ∃ pods, final = { state with pods }) state := by
  have free : Fallible.Ensures anyPodCall program (fun _ _ => True) state.pods :=
    @Program.ensures_true _ ImageCheck.podServer _ anyPodCall (fun _ _ => trivial)
      program.run state.pods
  refine Ensures.mono (@Fallible.ensures_within _ _ _ _ _ _ podsPart anyPodCall (honest env)
    program _ state ⟨fun _ _ _ _ => trivial, fun _ _ _ => trivial⟩ free) ?_
  rintro result final ⟨pods, same, -⟩
  exact ⟨pods, same⟩

/-! ## Reports -/

/-- What a report leaves of a FusionAccess. -/
structure Reported (status : String) (condition : Condition)
    (fusionaccess reported : FusionAccess) : Prop where
  spec : SameSpec fusionaccess reported
  status : reported.status.status = status
  conditions : ∀ conditionType, statusOf? reported.status.conditions conditionType =
    if condition.type = conditionType then some condition.status
    else statusOf? fusionaccess.status.conditions conditionType

/-- The FusionAccess is stored as the pass has it. -/
def State.Holds (state : State) (fusionaccess : FusionAccess) : Prop :=
  state.fusionAccess? fusionaccess.toFusionAccess.key = some fusionaccess

theorem State.Holds.isReady
    {fusionaccess : FusionAccess} (holds : state.Holds fusionaccess)
    (ready : fusionaccess.status.status = "Ready") :
    state.IsReady fusionaccess.toFusionAccess.key := by
  rw [State.IsReady, holds, ← ready]
  rfl

/-- The status of a stored FusionAccess is written, and nothing else. -/
theorem updateStatus_of_stored
    {base : Installation.FusionAccess} {fusionaccess : FusionAccess}
    (found : state.site.fusionAccess? fusionaccess.toFusionAccess.key = some base)
    (current : base.metadata.resourceVersion = fusionaccess.metadata.resourceVersion) :
    state.updateStatus fusionaccess = (state.withStatus fusionaccess,
      .ok { state.assemble base with
        metadata := { base.metadata with resourceVersion := state.site.revision + 1 }
        status := fusionaccess.status }) := by
  rw [State.updateStatus, found]
  exact if_neg (not_not.mpr current)

/-- What is read after the status has been written. -/
theorem fusionAccess?_withStatus
    {base : Installation.FusionAccess} {fusionaccess : FusionAccess}
    (found : state.site.fusionAccess? fusionaccess.toFusionAccess.key = some base) :
    (state.withStatus fusionaccess).fusionAccess? fusionaccess.toFusionAccess.key =
      some { state.assemble base with
        metadata := { base.metadata with resourceVersion := state.site.revision + 1 }
        status := fusionaccess.status } := by
  have isKey : base.key = fusionaccess.toFusionAccess.key :=
    (Registry.find?_eq_some found).2
  have read : (state.withStatus fusionaccess).site.fusionAccess?
      fusionaccess.toFusionAccess.key =
        some { base with
          metadata := { base.metadata with resourceVersion := state.site.revision + 1 } } := by
    change Registry.find? _ _ (Registry.amend _ _ _ _) = _
    rw [Registry.find?_amend_self (by exact fun _ named => named), ← Site.fusionAccess?, found]
    rfl
  have details : (state.withStatus fusionaccess).details base.key =
      { state.details base.key with status := fusionaccess.status } := by
    change Function.update state.details fusionaccess.toFusionAccess.key _ base.key = _
    rw [isKey, Function.update_self]
  rw [State.fusionAccess?, read, Option.map_some, State.assemble]
  change some ({ base with
    metadata := _
    externalManifestURL := ((state.withStatus fusionaccess).details base.key).externalManifestURL
    createDiscovery := ((state.withStatus fusionaccess).details base.key).createDiscovery
    status := ((state.withStatus fusionaccess).details base.key).status } : FusionAccess) = _
  rw [details]
  rfl

/-- What is stored of a FusionAccess that the pass has as it is. -/
theorem State.Holds.exists_base
    {fusionaccess : FusionAccess} (holds : state.Holds fusionaccess) :
    ∃ base, state.site.fusionAccess? fusionaccess.toFusionAccess.key = some base ∧
      state.assemble base = fusionaccess :=
  Option.map_eq_some_iff.mp holds

/-- Nothing has changed but what is stored of FusionAccess objects, and which resources are
applied. -/
def State.Progresses (state final : State) : Prop :=
  ∃ fusionAccesses revision details applied, final = { state with
    site := { state.site with fusionAccesses, revision }
    details
    applied }

/-- A report is written, or the pass fails. -/
theorem ensures_report
    {fusionaccess : FusionAccess} {status : String} {condition : Condition}
    (holds : state.Holds fusionaccess)
    (calm : status = "Ready" → fusionaccess.status.status = "Ready") :
    Fallible.Ensures (honest env) (report fusionaccess status condition)
      (fun result final => ∀ reported, result = .ok reported →
        (∃ fusionAccesses revision details, final = { state with
          site := { state.site with fusionAccesses, revision }, details }) ∧
          final.Holds reported ∧ Reported status condition fusionaccess reported) state := by
  rw [report, ensures_bind]
  refine ensures_now ?_
  rw [onSuccess_ok]
  obtain ⟨base, found, isBase⟩ := holds.exists_base
  refine ensures_own (fun ready => Or.inl (holds.isReady (calm ready))) ?_
    fun _ _ _ _ _ _ impossible => by cases impossible
  intro reported succeeds
  have current : base.metadata.resourceVersion = fusionaccess.metadata.resourceVersion := by
    rw [← isBase]
    rfl
  let written : FusionAccess := { fusionaccess with
    status :=
      { status
        conditions := setStatusCondition state.site.clock fusionaccess.status.conditions
          condition } }
  have answered := @updateStatus_of_stored state base written found current
  have read := @fusionAccess?_withStatus state base written found
  change (state.updateStatus written).2 = _ at succeeds
  rw [answered, Except.ok.injEq] at succeeds
  change (∃ fusionAccesses revision details, (state.updateStatus written).1 = _) ∧
    (state.updateStatus written).1.Holds reported ∧ _
  rw [answered, ← succeeds]
  have isKey : base.key = fusionaccess.toFusionAccess.key :=
    (Registry.find?_eq_some found).2
  refine ⟨⟨_, _, _, rfl⟩, ?_, ?_⟩
  · have sameKey : written.toFusionAccess.key = base.key := isKey.symm
    rw [sameKey] at read
    exact read
  · subst isBase
    exact ⟨⟨rfl, rfl, rfl, rfl⟩, rfl, fun _ => statusOf?_setStatusCondition _ _ _ _⟩

/-- A report of an error calls nothing ready. -/
theorem ensures_reportError
    {α : Type} {fusionaccess : FusionAccess} {status : String} {condition : Condition}
    {err : Failure} {post : Except Failure α → State → Prop}
    (holds : state.Holds fusionaccess)
    (notReady : status ≠ "Ready")
    (failed : ∀ err final, post (.error err) final) :
    Fallible.Ensures (honest env) (reportError fusionaccess status condition err) post
      state := by
  rw [reportError, ensures_bind, ensures_attempt]
  refine (ensures_report holds fun ready => absurd ready notReady).mono ?_
  rintro (serr | reported) final _
  · exact failed _ final
  · exact failed _ final

/-! ## The manifest -/

/-- Induction on the resources: after success all of them are applied. -/
theorem ensures_applyResources (path : String) (resources : List ManifestResource) :
    Fallible.Ensures (honest env) (applyResources path resources)
      (fun result final => (∃ applied, final = { state with applied }) ∧
        (∀ entry ∈ state.applied, entry ∈ final.applied) ∧
        (result = .ok () → ∀ spec ∈ resources, (path, spec) ∈ final.applied)) state := by
  induction resources generalizing state with
  | nil => exact ⟨⟨state.applied, rfl⟩, fun _ member => member, by simp⟩
  | cons spec resources inductionHypothesis =>
      rw [applyResources, ensures_bind]
      refine ensures_own trivial ?_ fun _ _ _ final isFinal => ?_
      · let between : State := { state with applied := (path, spec) :: state.applied }
        refine (@inductionHypothesis between).mono ?_
        rintro result final ⟨⟨applied, same⟩, kept, succeeds⟩
        refine ⟨⟨applied, same⟩, fun entry member => ?_, fun succeeded => ?_⟩
        · exact kept entry (List.mem_cons_of_mem _ member)
        · exact List.forall_mem_cons.mpr
            ⟨kept _ List.mem_cons_self, succeeds succeeded⟩
      · rcases isFinal with rfl | rfl
        · exact ⟨⟨_, rfl⟩, fun _ member => member, fun succeeded => by cases succeeded⟩
        · exact ⟨⟨_, rfl⟩, fun _ member => List.mem_cons_of_mem _ member,
            fun succeeded => by cases succeeded⟩

/-- The pass goes on with what is stored, and has reported on the manifest. -/
structure Continues (first second : FusionAccess) : Prop where
  spec : SameSpec first second
  manifest : statusOf? second.status.conditions manifestApplyType =
    statusOf? first.status.conditions manifestApplyType

theorem SameSpec.trans {first second third : FusionAccess}
    (before : SameSpec first second) (after : SameSpec second third) :
    SameSpec first third where
  key := after.key.trans before.key
  version := after.version.trans before.version
  url := after.url.trans before.url
  discovery := after.discovery.trans before.discovery

theorem Continues.trans {first second third : FusionAccess}
    (before : Continues first second) (after : Continues second third) :
    Continues first third where
  spec := before.spec.trans after.spec
  manifest := after.manifest.trans before.manifest

theorem Continues.refl (fusionaccess : FusionAccess) :
    Continues fusionaccess fusionaccess :=
  ⟨⟨rfl, rfl, rfl, rfl⟩, rfl⟩

/-- A report about something else leaves the report on the manifest. -/
theorem Reported.continues
    {status : String} {condition : Condition} {fusionaccess reported : FusionAccess}
    (isReported : Reported status condition fusionaccess reported)
    (other : condition.type ≠ manifestApplyType) :
    Continues fusionaccess reported :=
  ⟨isReported.spec, (isReported.conditions manifestApplyType).trans (if_neg other)⟩

/-- The step that applies the manifest. -/
theorem ensures_applyManifest
    {fusionaccess : FusionAccess} {path : String} (holds : state.Holds fusionaccess) :
    Fallible.Ensures (honest env) (applyManifest fusionaccess path)
      (fun result final => ∀ reported, result = .ok reported → state.Progresses final ∧
        final.Holds reported ∧ SameSpec fusionaccess reported ∧ final.Applies path ∧
        statusOf? reported.status.conditions manifestApplyType = some .isTrue) state := by
  rw [applyManifest, ensures_bind]
  refine ensures_own trivial ?_ fun _ _ _ _ _ _ impossible => by cases impossible
  dsimp only [State.answer]
  cases isManifest : state.manifests path with
  | none => exact fun _ impossible => by cases impossible
  | some resources =>
      rw [onSuccess_ok, ensures_bind, ensures_attempt]
      refine (ensures_applyResources path resources).mono ?_
      rintro (err | _) between ⟨⟨applied, rfl⟩, _, succeeds⟩
      · exact ensures_reportError holds (by decide) fun _ _ _ impossible => by
          cases impossible
      · have stillHolds : State.Holds { state with applied } fusionaccess := holds
        change Fallible.Ensures (honest env) (report fusionaccess fusionaccess.status.status
          (manifestApply .isTrue "Storage Scale manifest was applied")) _ _
        refine (ensures_report stillHolds id).mono ?_
        intro result final ensured reported succeeded
        obtain ⟨⟨fusionAccesses, revision, details, rfl⟩, stored, isReported⟩ :=
          ensured reported succeeded
        refine ⟨⟨_, _, _, _, rfl⟩, stored, isReported.spec,
          ⟨resources, isManifest, succeeds rfl⟩, ?_⟩
        exact (isReported.conditions manifestApplyType).trans (if_pos rfl)

/-! ## The PodDisruptionBudget -/

/-- No call but the update of a FusionAccess changes one. -/
theorem fusionAccesses_answer
    {site : Site} {request : UpdateRequest}
    (other : ∀ fusionaccess, request ≠ .updateFusionAccess fusionaccess) :
    (site.answer request).1.fusionAccesses = site.fusionAccesses := by
  cases request with
  | createPodDisruptionBudget pdb =>
      simp only [Site.answer, Site.createPodDisruptionBudget]
      split <;> rfl
  | updatePodDisruptionBudget pdb =>
      simp only [Site.answer, Site.updatePodDisruptionBudget]
      split
      · rfl
      · split <;> rfl
  | deletePodDisruptionBudget key =>
      simp only [Site.answer, Site.deletePodDisruptionBudget]
      split <;> rfl
  | updateFusionAccess fusionaccess => exact absurd rfl (other fusionaccess)
  | _ => rfl

/-- The FusionAccess objects are the given ones. -/
def StoresOnly (fusionAccesses : List Installation.FusionAccess) (site : Site) : Prop :=
  site.fusionAccesses = fusionAccesses

theorem safe_otherCall
    {fusionAccesses : List Installation.FusionAccess} {request : UpdateRequest}
    (other : ∀ fusionaccess, request ≠ .updateFusionAccess fusionaccess) :
    Safe anyUpdate (StoresOnly fusionAccesses) (call request) :=
  Api.safe_ask (fun _ _ => trivial) (fun _ _ _ => trivial)
    (fun _ stores => (fusionAccesses_answer other).trans stores) fun _ _ _ => trivial

/-- The management of the PodDisruptionBudget changes no FusionAccess. -/
theorem safe_managePodDisruptionBudget_stores
    (fusionAccesses : List Installation.FusionAccess)
    (fusionaccess : Installation.FusionAccess) :
    Safe anyUpdate (StoresOnly fusionAccesses) (managePodDisruptionBudget fusionaccess) := by
  have labels : ∀ pdb : PodDisruptionBudget,
      Safe anyUpdate (StoresOnly fusionAccesses) (labelPodDisruptionBudget pdb) := by
    intro pdb
    refine safeThen_ite (fun _ => safe_pure none) fun _ => ?_
    exact (safe_otherCall fun _ impossible => by cases impossible).andThen
      fun _ _ => safe_pure _
  have deletes : ∀ name ns,
      Safe anyUpdate (StoresOnly fusionAccesses) (deletePodDisruptionBudget name ns) := by
    intro name ns
    refine (safe_otherCall fun _ impossible => by cases impossible).attempt ?_
    rintro (err | _) -
    · exact safeThen_ite (fun _ => safe_pure ()) fun _ => safe_throw err
    · exact safe_pure ()
  have expires : ∀ pdb : PodDisruptionBudget,
      Safe anyUpdate (StoresOnly fusionAccesses) (isExpired pdb) := by
    intro pdb
    refine safeThen_ite (fun _ => safe_pure true) fun _ => ?_
    exact (safe_otherCall fun _ impossible => by cases impossible).andThen
      fun _ _ => safe_pure _
  refine (safe_otherCall fun _ impossible => by cases impossible).attempt ?_
  rintro (err | pdb) -
  · exact safeThen_ite (fun _ => safe_pure none) fun _ => safe_throw err
  · have lists : Safe anyUpdate (StoresOnly fusionAccesses) (haveBuilds fusionaccess) :=
      (safe_otherCall fun _ impossible => by cases impossible).andThen fun _ _ => safe_pure _
    refine lists.andThen fun built _ => ?_
    refine safeThen_ite (fun _ => labels pdb) fun _ => ?_
    refine (expires pdb).andThen fun expired _ => ?_
    refine safeThen_ite (fun _ => ?_) fun _ => safe_pure none
    exact (deletes _ _).andThen fun _ _ => safe_pure none

/-- While there are Builds the PodDisruptionBudget is marked as one that may go. -/
def Labelled (site : Site) (ns : String) : Prop :=
  ∀ pdb, site.podDisruptionBudget? ⟨ns, podDisruptionBudgetName⟩ = some pdb →
    site.buildsIn ns ≠ [] → pdb.deleteMe = true

/-- Where it is marked, the management of the PodDisruptionBudget lets the pass go on. -/
theorem ensures_managePodDisruptionBudget_goesOn
    {site : Site} {fusionaccess : Installation.FusionAccess} :
    Fallible.Ensures anyUpdate (managePodDisruptionBudget fusionaccess)
      (fun result _ => Labelled site fusionaccess.metadata.ns →
        ∀ pdbreq, result ≠ .ok (some pdbreq)) site := by
  rw [managePodDisruptionBudget, ensures_bind, ensures_attempt]
  refine Api.ensures_ask trivial (fun _ => ?_) fun failure transient _ final _ => ?_
  · dsimp only [Site.answer]
    cases found : site.podDisruptionBudget? ⟨fusionaccess.metadata.ns,
        podDisruptionBudgetName⟩ with
    | none => exact fun _ _ impossible => by cases impossible
    | some pdb =>
        rw [onSuccess_ok]
        dsimp only
        rw [haveBuilds, ensures_bind, ensures_bind]
        refine Api.ensures_ask trivial (fun _ => ?_) fun _ _ _ _ _ _ _ impossible => by
          cases impossible
        dsimp only [Site.answer]
        change Fallible.Ensures _ (if _ then _ else _) _ _
        rw [ensures_ite]
        constructor
        · intro built
          rw [labelPodDisruptionBudget, ensures_ite]
          refine ⟨fun _ _ _ impossible => (by cases impossible), fun unmarked => ?_⟩
          refine Program.Ensures.mono (Program.ensures_true (fun _ _ => trivial) _ _) ?_
          intro result final _ labelled
          exact absurd (labelled pdb found (by simpa using built)) unmarked
        · intro _
          rw [expirePodDisruptionBudget]
          refine ensures_bind_of_free (fun _ _ => trivial) _ _ _ _
            (fun _ _ _ _ impossible => by cases impossible) fun expired _ => ?_
          rw [ensures_ite]
          refine ⟨fun _ => ?_, fun _ _ _ impossible => by cases impossible⟩
          exact ensures_bind_of_free (fun _ _ => trivial) _ _ _ _
            (fun _ _ _ _ impossible => by cases impossible)
            fun _ _ _ _ impossible => by cases impossible
  · rw [onSuccess_ok]
    dsimp only
    rw [if_neg transient.1]
    exact fun _ _ impossible => by cases impossible

/-! ## The console plugin -/

section Plugin

variable {plugin : Plugin.PluginSite}

/-- A ConsolePlugin that has been created or updated is stored. -/
theorem consolePlugin?_of_created
    {cp : Plugin.ConsolePlugin} (succeeds : (plugin.createConsolePlugin cp).2 = .ok ()) :
    ∃ metadata, (plugin.createConsolePlugin cp).1.consolePlugin? cp.name =
      some { cp with metadata } := by
  unfold Plugin.PluginSite.createConsolePlugin at succeeds ⊢
  cases found : plugin.consolePlugin? cp.name with
  | some _ =>
      rw [found] at succeeds
      cases succeeds
  | none =>
      refine ⟨{ cp.metadata with
        uid := plugin.revision + 1, generation := 1
        resourceVersion := plugin.revision + 1 }, ?_⟩
      change Registry.find? _ _ (plugin.consolePlugins ++ [_]) = _
      rw [Registry.find?_append, ← Plugin.PluginSite.consolePlugin?, found, Option.none_or,
        Registry.find?_cons]
      exact if_pos rfl

theorem consolePlugin?_of_updated
    {cp : Plugin.ConsolePlugin} (succeeds : (plugin.updateConsolePlugin cp).2 = .ok ()) :
    ∃ metadata, (plugin.updateConsolePlugin cp).1.consolePlugin? cp.name =
      some { cp with metadata } := by
  unfold Plugin.PluginSite.updateConsolePlugin at succeeds ⊢
  cases found : plugin.consolePlugin? cp.name with
  | none =>
      rw [found] at succeeds
      cases succeeds
  | some stored =>
      rw [found] at succeeds
      dsimp only at succeeds ⊢
      split
      next outdated =>
        rw [if_pos outdated] at succeeds
        cases succeeds
      next current =>
        refine ⟨plugin.stamp cp.metadata stored.metadata, ?_⟩
        change Registry.find? _ _ (Registry.amend _ _ _ _) = _
        rw [Registry.find?_amend_self (by exact fun _ _ => rfl),
          ← Plugin.PluginSite.consolePlugin?, found]
        rfl

/-- After success the plugin is registered. -/
theorem ensures_createOrUpdatePlugin (ns : String) :
    Fallible.Ensures anyPluginCall (Plugin.createOrUpdatePlugin (some ns))
      (fun result final => result = .ok () → PluginRegistered final ns) plugin := by
  change Fallible.Ensures _ (Plugin.createOrUpdateConsolePlugin ns) _ _
  rw [Plugin.createOrUpdateConsolePlugin, ensures_bind, ensures_attempt]
  refine Api.ensures_ask trivial (fun _ => ?_) fun failure transient _ final _ => ?_
  · dsimp only [Plugin.PluginSite.answer]
    cases found : plugin.consolePlugin? (Plugin.newConsolePlugin ns).name with
    | none =>
        change Fallible.Ensures _ (Fallible.mapError _ _) _ _
        rw [ensures_mapError]
        refine Api.ensures_ask trivial (fun _ succeeds => ?_)
          fun _ _ _ _ _ impossible => by cases impossible
        obtain ⟨metadata, stored⟩ := consolePlugin?_of_created
          (Results.eq_ok_of_mapError succeeds)
        exact ⟨_, stored, rfl⟩
    | some oldCP =>
        have named : oldCP.name = Plugin.pluginName := (Registry.find?_eq_some found).2
        change Fallible.Ensures _ (Fallible.mapError _ _) _ _
        rw [ensures_mapError]
        refine Api.ensures_ask trivial (fun _ succeeds => ?_)
          fun _ _ _ _ _ impossible => by cases impossible
        obtain ⟨metadata, stored⟩ := consolePlugin?_of_updated
          (Results.eq_ok_of_mapError succeeds)
        exact ⟨_, (congrArg _ named.symm).trans stored, rfl⟩
  · change Fallible.Ensures _ (if _ then _ else _) _ _
    rw [if_neg transient.1]
    exact fun impossible => by cases impossible

/-- Nothing but the Consoles changes, and after success the plugin is enabled. -/
theorem ensures_enablePlugin :
    Fallible.Ensures anyPluginCall Plugin.enablePlugin
      (fun result final => final.consolePlugins = plugin.consolePlugins ∧
        (result = .ok () → PluginEnabled final)) plugin := by
  have updated : ∀ consoleObj : Plugin.Console,
      (plugin.updateConsole consoleObj).1.consolePlugins = plugin.consolePlugins := by
    intro consoleObj
    unfold Plugin.PluginSite.updateConsole
    split
    · rfl
    · split <;> rfl
  rw [Plugin.enablePlugin, ensures_bind, ensures_mapError]
  refine Api.ensures_ask trivial (fun _ => ?_) fun failure _ _ final same => ?_
  · dsimp only [Plugin.PluginSite.answer]
    cases found : plugin.console? "cluster" with
    | none => exact ⟨rfl, fun impossible => by cases impossible⟩
    | some consoleObj =>
        change Fallible.Ensures _ (if _ then _ else _) _ _
        rw [ensures_ite]
        refine ⟨fun listed => ⟨rfl, fun _ => ⟨consoleObj, found, listed⟩⟩, fun _ => ?_⟩
        rw [ensures_mapError]
        have named : consoleObj.name = "cluster" := (Registry.find?_eq_some found).2
        refine Api.ensures_ask trivial (fun _ => ⟨updated _, fun succeeds => ?_⟩) ?_
        · let written : Plugin.Console := consoleObj.withPlugin Plugin.pluginName
          rcases Plugin.updateConsole_cases plugin written with ⟨err, refused⟩ |
              ⟨stored, _, _, _, consoles⟩
          · have failed := congrArg Prod.snd refused
            have succeeded := Results.eq_ok_of_mapError succeeds
            rw [show (plugin.updateConsole written).2 = .ok () from succeeded] at failed
            cases failed
          · refine ⟨written.updated plugin stored, ?_, ?_⟩
            · rw [← named]
              exact (consoles consoleObj.name).trans (if_pos rfl)
            · exact List.mem_append_right _ (List.mem_singleton_self _)
        · rintro failure _ _ final (rfl | rfl)
          · exact ⟨rfl, fun impossible => by cases impossible⟩
          · exact ⟨updated _, fun impossible => by cases impossible⟩
  · rcases same with rfl | rfl
    · exact ⟨rfl, fun impossible => by cases impossible⟩
    · exact ⟨rfl, fun impossible => by cases impossible⟩

end Plugin

/-- The steps about the console plugin. -/
theorem ensures_enableConsolePlugin
    {ns : String} (isNamespace : env.deploymentNamespace = some ns) :
    Fallible.Ensures (honest env) (enableConsolePlugin env)
      (fun result final => result = .ok () → ∃ plugin, final = { state with plugin } ∧
        PluginRegistered plugin ns ∧ PluginEnabled plugin) state := by
  rw [enableConsolePlugin, ensures_bind, isNamespace]
  refine (ensures_onPlugin (ensures_createOrUpdatePlugin ns)).mono ?_
  rintro (err | _) between ⟨first, rfl, registers⟩
  · exact fun impossible => by cases impossible
  · rw [onSuccess_ok]
    refine (ensures_onPlugin ensures_enablePlugin).mono ?_
    rintro result final ⟨plugin, rfl, ⟨same, enables⟩⟩ succeeds
    refine ⟨plugin, rfl, ?_, enables succeeds⟩
    obtain ⟨cp, found, spec⟩ := registers rfl
    refine ⟨cp, ?_, spec⟩
    rw [Plugin.PluginSite.consolePlugin?, same]
    exact found

end Operator
end Installation
