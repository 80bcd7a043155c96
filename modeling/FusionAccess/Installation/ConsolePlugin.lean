import FusionAccess.Kubernetes.Turns
import FusionAccess.Registry.Snapshots

/-!
# The console plugin

The operator describes its plugin in a ConsolePlugin, and adds the name of the plugin to the
list of enabled plugins. The list belongs to the whole cluster, and others write to it at the
same time.
-/

namespace Installation
namespace Plugin

open Kubernetes Interaction Fallible Registry

/-! ## Objects -/

/-- `ConsolePluginService`. -/
structure ConsolePluginService where
  name : String
  ns : String
  port : Nat
  basePath : String
  deriving DecidableEq

/-- `ConsolePluginSpec`, with the type of its backend and the service of that. -/
structure ConsolePluginSpec where
  displayName : String
  backendType : String
  service : ConsolePluginService
  deriving DecidableEq

/-- `ConsolePlugin`, which is cluster scoped. -/
structure ConsolePlugin where
  metadata : ObjectMeta
  spec : ConsolePluginSpec
  deriving DecidableEq

/-- The name of a ConsolePlugin. -/
def ConsolePlugin.name (cp : ConsolePlugin) : String := cp.metadata.name

/-- `ConsoleSpec`: the enabled plugins, and what the operator does not look at. -/
structure ConsoleSpec where
  operatorSpec : Value := .object []
  customization : Value := .object []
  providers : Value := .object []
  route : Value := .object []
  plugins : List String
  ingress : Value := .object []
  deriving DecidableEq

/-- `Console`, whose status the operator does not look at. -/
structure Console where
  metadata : ObjectMeta
  spec : ConsoleSpec
  status : Value := .object []
  deriving DecidableEq

/-- The name of a Console. -/
def Console.name (consoleObj : Console) : String := consoleObj.metadata.name

/-- The enabled plugins of a Console. -/
def Console.plugins (consoleObj : Console) : List String := consoleObj.spec.plugins

/-- A Console with a plugin at the end of its list. -/
def Console.withPlugin (consoleObj : Console) (plugin : String) : Console :=
  { consoleObj with
    spec := { consoleObj.spec with plugins := consoleObj.spec.plugins ++ [plugin] } }

/-! ## The API server -/

/-- The calls about the plugin. -/
inductive PluginRequest
  | getConsolePlugin (name : String)
  | createConsolePlugin (cp : ConsolePlugin)
  | updateConsolePlugin (cp : ConsolePlugin)
  | getConsole (name : String)
  | updateConsole (consoleObj : Console)

/-- What a call yields when it succeeds. -/
@[reducible] def PluginRequest.Yield : PluginRequest → Type
  | .getConsolePlugin _ => ConsolePlugin
  | .getConsole _ => Console
  | _ => Unit

/-- The API of the plugin. -/
abbrev pluginApi : Api where
  Request := PluginRequest
  Yield := PluginRequest.Yield
  remote := fun _ => true

/-- What is stored. -/
structure PluginSite where
  consolePlugins : List ConsolePlugin := []
  consoles : List Console := []
  revision : Nat := 0

namespace PluginSite

/-- The stored ConsolePlugin with the given name. -/
def consolePlugin? (site : PluginSite) (name : String) : Option ConsolePlugin :=
  Registry.find? ConsolePlugin.name name site.consolePlugins

/-- The stored Console with the given name. -/
def console? (site : PluginSite) (name : String) : Option Console :=
  Registry.find? Console.name name site.consoles

/-- Metadata of an object as it is stored after an update. -/
def stamp (site : PluginSite) (metadata stored : ObjectMeta) : ObjectMeta :=
  { metadata with
    uid := stored.uid
    generation := stored.generation
    resourceVersion := site.revision + 1 }

/-- Store a new ConsolePlugin. -/
def createConsolePlugin (site : PluginSite) (cp : ConsolePlugin) :
    PluginSite × Except Failure Unit :=
  match site.consolePlugin? cp.name with
  | some _ => (site, .error (alreadyExists "consoleplugins.console.openshift.io" cp.name))
  | none =>
      ({ site with
        consolePlugins := site.consolePlugins ++ [{ cp with
          metadata := { cp.metadata with
            uid := site.revision + 1, generation := 1
            resourceVersion := site.revision + 1 } }]
        revision := site.revision + 1 }, .ok ())

/-- Replace a ConsolePlugin, unless the version is outdated. -/
def updateConsolePlugin (site : PluginSite) (cp : ConsolePlugin) :
    PluginSite × Except Failure Unit :=
  match site.consolePlugin? cp.name with
  | none => (site, .error (notFound "consoleplugins.console.openshift.io" cp.name))
  | some stored =>
      if stored.metadata.resourceVersion ≠ cp.metadata.resourceVersion then
        (site, .error (outdated "consoleplugins.console.openshift.io" cp.name))
      else
        ({ site with
          consolePlugins := Registry.amend ConsolePlugin.name cp.name
            (fun stored => { cp with metadata := site.stamp cp.metadata stored.metadata })
            site.consolePlugins
          revision := site.revision + 1 }, .ok ())

/-- Replace a Console apart from its status, unless the version is outdated. -/
def updateConsole (site : PluginSite) (consoleObj : Console) :
    PluginSite × Except Failure Unit :=
  match site.console? consoleObj.name with
  | none => (site, .error (notFound "consoles.operator.openshift.io" consoleObj.name))
  | some stored =>
      if stored.metadata.resourceVersion ≠ consoleObj.metadata.resourceVersion then
        (site, .error (outdated "consoles.operator.openshift.io" consoleObj.name))
      else
        ({ site with
          consoles := Registry.amend Console.name consoleObj.name
            (fun stored => { consoleObj with
              metadata := site.stamp consoleObj.metadata stored.metadata
              status := stored.status })
            site.consoles
          revision := site.revision + 1 }, .ok ())

/-- The answer to a call that nothing goes wrong with. -/
def answer (site : PluginSite) :
    (request : PluginRequest) → PluginSite × Except Failure request.Yield
  | .getConsolePlugin name =>
      (site, match site.consolePlugin? name with
        | some cp => .ok cp
        | none => .error (notFound "consoleplugins.console.openshift.io" name))
  | .createConsolePlugin cp => site.createConsolePlugin cp
  | .updateConsolePlugin cp => site.updateConsolePlugin cp
  | .getConsole name =>
      (site, match site.console? name with
        | some consoleObj => .ok consoleObj
        | none => .error (notFound "consoles.operator.openshift.io" name))
  | .updateConsole consoleObj => site.updateConsole consoleObj

end PluginSite

/-- The API server as the plugin sees it. -/
abbrev pluginServer : Server pluginApi.interface :=
  @Api.server pluginApi PluginSite PluginSite.answer

/-! ## Programs -/

/-- Programs about the plugin that may fail. -/
abbrev Plugins : Type → Type := Fallible pluginApi.interface Failure

/-- Issue one call. -/
abbrev ask (request : PluginRequest) : Plugins request.Yield := pluginApi.ask request

/-- `PluginName`. -/
def pluginName : String := "fusion-access-console"

/-- `ServiceName`. -/
def serviceName : String := "fusion-access-operator-console-plugin"

/-- `ServicePort`. -/
def servicePort : Nat := 9443

/-- `newConsolePlugin`. -/
def newConsolePlugin (ns : String) : ConsolePlugin where
  metadata := { name := pluginName }
  spec :=
    { displayName := "Fusion Access for SAN plugin"
      backendType := "Service"
      service := { name := serviceName, ns, port := servicePort, basePath := "/" } }

/-- `createOrUpdateConsolePlugin`. -/
def createOrUpdateConsolePlugin (ns : String) : Plugins Unit := do
  let cp := newConsolePlugin ns
  match ← (ask (.getConsolePlugin cp.name)).attempt with
  | .error err =>
      if err.reason = .notFound then
        (ask (.createConsolePlugin cp)).mapError
          (Failure.wrap "could not create console plugin: ")
      else throw (err.wrap "could not check for existing console plugin: ")
  | .ok (oldCP : ConsolePlugin) =>
      (ask (.updateConsolePlugin
        { metadata := { oldCP.metadata with ownerReferences := cp.metadata.ownerReferences }
          spec := cp.spec })).mapError (Failure.wrap "could not update console plugin: ")

/-- `CreateOrUpdatePlugin`, with the value of the environment variable. -/
def createOrUpdatePlugin (deploymentNamespace : Option String) : Plugins Unit :=
  match deploymentNamespace with
  | none => throw (errorf "DEPLOYMENT_NAMESPACE must be set")
  | some ns => createOrUpdateConsolePlugin ns

/-- `EnablePlugin`. An object that is not read has neither version nor name to report. -/
def enablePlugin : Plugins Unit := do
  let consoleObj : Console ← (ask (.getConsole "cluster")).mapError
    (Failure.wrap "could not find resource - APIVersion: , Kind: , Name: : ")
  if pluginName ∈ consoleObj.plugins then return ()
  else
    (ask (.updateConsole (consoleObj.withPlugin pluginName))).mapError
        (Failure.wrap ("could not update resource - APIVersion: operator.openshift.io/v1, " ++
          s!"Kind: Console, Name: {consoleObj.name}: "))

/-! ## Single calls -/

/-- The version of a Console. -/
def Console.version (consoleObj : Console) : Nat := consoleObj.metadata.resourceVersion

/-- The Consoles of the cluster. -/
def PluginSite.snapshot (site : PluginSite) : Snapshot Console String :=
  ⟨site.console?, site.revision⟩

/-- No Console is newer than the latest write. -/
def PluginSite.Bounded (site : PluginSite) : Prop := site.snapshot.Bounded Console.version

/-- Of the Consoles nothing changes, or those that change get a new version. -/
def WritesConsoles (before after : PluginSite) : Prop :=
  after = before ∨ Writes Console.version before.snapshot after.snapshot

section Calls

variable {site before after : PluginSite}

theorem WritesConsoles.since (writes : WritesConsoles before after) :
    Since Console.version before.snapshot after.snapshot := by
  rcases writes with rfl | writes
  · exact Since.refl _ _
  · exact writes.since

theorem WritesConsoles.bounded
    (writes : WritesConsoles before after) (bounded : before.Bounded) : after.Bounded := by
  rcases writes with rfl | writes
  · exact bounded
  · exact writes.bounded bounded

/-- A Console as an accepted update leaves it. -/
def Console.updated (consoleObj : Console) (site : PluginSite) (stored : Console) : Console :=
  { consoleObj with
    metadata := site.stamp consoleObj.metadata stored.metadata
    status := stored.status }

/-- An update is refused, or it replaces the Console of the same version. -/
theorem updateConsole_cases (site : PluginSite) (consoleObj : Console) :
    (∃ err, site.updateConsole consoleObj = (site, .error err)) ∨
      ∃ stored, site.console? consoleObj.name = some stored ∧
        stored.version = consoleObj.version ∧
        (site.updateConsole consoleObj).1.revision = site.revision + 1 ∧
        ∀ name, (site.updateConsole consoleObj).1.console? name =
          if name = consoleObj.name then some (consoleObj.updated site stored)
          else site.console? name := by
  unfold PluginSite.updateConsole
  cases found : site.console? consoleObj.name with
  | none => exact Or.inl ⟨_, rfl⟩
  | some stored =>
      dsimp only
      by_cases current : stored.metadata.resourceVersion = consoleObj.metadata.resourceVersion
      · rw [if_neg (not_not.mpr current)]
        refine Or.inr ⟨stored, rfl, current, rfl, fun name => ?_⟩
        dsimp only [PluginSite.console?]
        split
        next same =>
          subst same
          rw [Registry.find?_amend_self (by exact fun _ _ => rfl), ← PluginSite.console?,
            found]
          rfl
        next different =>
          exact Registry.find?_amend_of_ne (by exact fun _ _ => rfl) different
      · rw [if_pos current]
        exact Or.inl ⟨_, rfl⟩

theorem writesConsoles_updateConsole (site : PluginSite) (consoleObj : Console) :
    WritesConsoles site (site.updateConsole consoleObj).1 := by
  rcases updateConsole_cases site consoleObj with ⟨err, refused⟩ |
      ⟨stored, -, -, revision, consoles⟩
  · rw [refused]
    exact Or.inl rfl
  · refine Or.inr ⟨?_, fun name => ?_⟩
    · change site.revision < (site.updateConsole consoleObj).1.revision
      omega
    · by_cases same : name = consoleObj.name
      · refine Or.inr fun record isStored => ?_
        have written := (consoles name).symm.trans isStored
        rw [if_pos same, Option.some.injEq] at written
        rw [← written]
        exact revision.symm
      · exact Or.inl ((consoles name).trans (if_neg same))

end Calls

/-! ## Passes that enable the plugin at the same time -/

/-- The call leaves all Consoles as they are, or appends the plugin to the list of one that
does not have it, and changes nothing else of it. -/
def OnlyEnables (event : Event pluginServer) : Prop :=
  ∀ name, event.after.console? name = event.before.console? name ∨
    ∃ stored, event.before.console? name = some stored ∧ pluginName ∉ stored.plugins ∧
      event.after.console? name = some
        { stored with
          spec := { stored.spec with plugins := stored.spec.plugins ++ [pluginName] }
          metadata := { stored.metadata with
            resourceVersion := event.before.revision + 1 } }

/-- Everybody may write to the Consoles between any two calls. -/
def enabling : Discipline pluginServer Nat (Except Failure Unit) where
  invariant := PluginSite.Bounded
  rely := fun _ before after => Since Console.version before.snapshot after.snapshot
  peers := fun _ _ => True
  admitted := fun _ _ => True
  guarantee := fun _ => OnlyEnables
  ends := fun _ _ _ => True
  rely_refl := fun _ _ => Since.refl _ _
  rely_trans := fun _ _ _ _ => Since.trans
  ends_stable := fun _ _ _ _ _ _ => trivial

/-- A call leaves the state alone, or is carried out. -/
theorem after_cases (event : Event pluginServer) :
    event.after = event.before ∨ event.after = (event.before.answer event.request).1 :=
  @Api.after_cases pluginApi PluginSite PluginSite.answer event

theorem served_of_same
    {index : Nat} {event : Event pluginServer}
    (bounded : event.before.Bounded) (same : event.after = event.before) :
    enabling.Served index event where
  invariant := by
    rw [same]
    exact bounded
  rely := fun _ _ => by
    rw [same]
    exact Since.refl _ _
  guarantee := fun name => by
    rw [same]
    exact Or.inl rfl

/-- The update of a Console that was read, and has had the version ever since. -/
theorem served_updateConsole
    {index : Nat} {before : PluginSite} {consoleObj : Console} {fault : Fault}
    (bounded : before.Bounded)
    (current : ∀ stored, before.console? consoleObj.name = some stored →
      stored.version = consoleObj.version → stored = consoleObj)
    (disabled : pluginName ∉ consoleObj.plugins) :
    enabling.Served index
      ⟨before, .updateConsole (consoleObj.withPlugin pluginName), fault⟩ := by
  let request : Console := consoleObj.withPlugin pluginName
  rcases after_cases ⟨before, .updateConsole request, fault⟩ with same | carriedOut
  · exact served_of_same bounded same
  have writes := writesConsoles_updateConsole before request
  refine ⟨?_, fun _ _ => ?_, fun name => ?_⟩
  · rw [carriedOut]
    exact writes.bounded bounded
  · rw [carriedOut]
    exact writes.since
  · rw [carriedOut]
    rcases updateConsole_cases before request with ⟨err, refused⟩ |
        ⟨stored, found, version, -, consoles⟩
    · exact Or.inl (congrArg (fun answer : PluginSite × _ => answer.1.console? name) refused)
    · by_cases same : name = consoleObj.name
      · obtain rfl := current stored found version
        subst same
        refine Or.inr ⟨stored, found, disabled, ?_⟩
        exact (consoles stored.name).trans (if_pos rfl)
      · exact Or.inl ((consoles name).trans (if_neg same))

theorem follows_enablePlugin (index : Nat) (site : PluginSite) :
    enabling.Follows index enablePlugin.run site := by
  have reads : ∀ (before : PluginSite) fault, before.Bounded →
      enabling.Served index ⟨before, .getConsole "cluster", fault⟩ := fun before fault bounded =>
    served_of_same bounded ((after_cases ⟨before, .getConsole "cluster", fault⟩).elim id id)
  change Fallible.Ensures (enabling.contract index) enablePlugin (fun _ _ => True) site
  rw [enablePlugin, ensures_bind, ensures_mapError]
  refine Api.ensures_ask_among (fun before fault _ bounded => reads before fault bounded)
    (fun read _ bounded => ?_) fun _ _ _ _ _ _ _ => trivial
  dsimp only [PluginSite.answer]
  cases found : read.console? "cluster" with
  | none => trivial
  | some consoleObj =>
      change Fallible.Ensures _ (if _ then _ else _) _ _
      rw [ensures_ite]
      refine ⟨fun _ => trivial, fun disabled => ?_⟩
      rw [ensures_mapError]
      refine Api.ensures_ask_among (fun before fault since laterBounded => ?_)
        (fun _ _ _ => trivial) fun _ _ _ _ _ _ _ => trivial
      have named : consoleObj.name = "cluster" := (Registry.find?_eq_some found).2
      refine served_updateConsole laterBounded (fun stored isStored same => ?_) disabled
      rw [named] at isStored
      exact Since.eq_of_version_eq since bounded found isStored same

/-- However passes that enable the plugin and writes by others take turns, a call of the
operator changes the Consoles in one way only: it appends the plugin to a list that does
not have it. No plugin of others is dropped, and none is listed twice. -/
theorem enabling_keeps_other_plugins
    {initial : PluginSite} {current : Interleaving pluginServer Nat (Except Failure Unit)}
    (bounded : initial.Bounded)
    (reached : Interleaved (fun _ => enablePlugin.run) (fun _ _ => True) WritesConsoles
      initial current) :
    ∀ occurrence ∈ current.log, OnlyEnables occurrence.event := by
  have upheld := Discipline.sound (D := enabling)
    (fun index state _ _ => follows_enablePlugin index state)
    (fun _ _ writes isBounded => ⟨writes.bounded isBounded, fun _ => writes.since⟩)
    bounded reached (fun _ _ => trivial)
  exact fun occurrence member => (upheld.log occurrence member).2.1.guarantee

/-- Another plugin is enabled. -/
def otherPlugin : PluginSite where
  consoles :=
    [{ metadata := { name := "cluster", resourceVersion := 1 }
       spec :=
        { operatorSpec := .object [("managementState", .string "Managed")]
          plugins := ["kubevirt-plugin"] } }]
  revision := 1

theorem bounded_otherPlugin : otherPlugin.Bounded := by
  intro name consoleObj stored
  obtain ⟨member, -⟩ := Registry.find?_eq_some stored
  rw [List.mem_singleton.mp member]
  exact Nat.le_refl 1

/-- Two passes read the Console, and then both want to update it. -/
def atOnce : List (Turn pluginServer Nat) :=
  [.launch 0, .launch 1, .step 0 .none, .step 1 .none, .step 0 .none, .step 1 .none]

theorem enabling_keeps_other_plugins_at_once :
    (∀ occurrence ∈ (interleave (fun _ => enablePlugin.run) otherPlugin atOnce).log,
      OnlyEnables occurrence.event) ∧
    ((interleave (fun _ => enablePlugin.run) otherPlugin atOnce).state.console?
      "cluster").map Console.plugins = some ["kubevirt-plugin", pluginName] := by
  refine ⟨enabling_keeps_other_plugins bounded_otherPlugin
    (interleaved_interleave _ otherPlugin atOnce ?_), rfl⟩
  simp [atOnce]

end Plugin
end Installation
