import FusionAccess.Installation.PodDisruptionBudget

/-!
# The gap before the build

Between a version update and the start of the module build there is no Build,
so a pass in this gap has only the label and the age of the PodDisruptionBudget
to go by. Both tell about the update that created it.
-/

namespace Installation

open Kubernetes Interaction Fallible

/-- The key of the PodDisruptionBudget in a namespace. -/
def podDisruptionBudgetKey (ns : String) : NamespacedName :=
  ⟨ns, podDisruptionBudgetName⟩

/-! ## Single calls -/

/-- The PodDisruptionBudget is not labelled, and no more than a second older than
the given time. -/
def PodDisruptionBudget.Fresh (pdb : PodDisruptionBudget) (time : Nat) : Prop :=
  pdb.deleteMe = false ∧ time ≤ pdb.creationTimestamp + 1

/-- If there is a PodDisruptionBudget in the namespace, it is fresh. -/
def Site.FreshIn (site : Site) (ns : String) (time : Nat) : Prop :=
  ∀ pdb, site.podDisruptionBudget? (podDisruptionBudgetKey ns) = some pdb →
    pdb.Fresh time

/-- No call moves the clock or changes a Build. -/
theorem surroundings_answer (site : Site) (request : UpdateRequest) :
    (site.answer request).1.clock = site.clock ∧
      (site.answer request).1.builds = site.builds := by
  cases request with
  | createPodDisruptionBudget pdb =>
      simp only [Site.answer, Site.createPodDisruptionBudget]
      split <;> exact ⟨rfl, rfl⟩
  | updatePodDisruptionBudget pdb =>
      simp only [Site.answer, Site.updatePodDisruptionBudget]
      split
      · exact ⟨rfl, rfl⟩
      · split <;> exact ⟨rfl, rfl⟩
  | deletePodDisruptionBudget key =>
      simp only [Site.answer, Site.deletePodDisruptionBudget]
      split <;> exact ⟨rfl, rfl⟩
  | updateFusionAccess fusionaccess =>
      simp only [Site.answer, Site.updateFusionAccess]
      split
      · exact ⟨rfl, rfl⟩
      · split <;> exact ⟨rfl, rfl⟩
  | _ => exact ⟨rfl, rfl⟩

/-- The call leaves the PodDisruptionBudget of the namespace with the given label. -/
def UpdateRequest.keeps (ns : String) (labelled : Bool) : UpdateRequest → Prop
  | .createPodDisruptionBudget pdb | .updatePodDisruptionBudget pdb =>
      pdb.key = podDisruptionBudgetKey ns → pdb.deleteMe = labelled
  | .deletePodDisruptionBudget key => key ≠ podDisruptionBudgetKey ns
  | _ => True

/-- The PodDisruptionBudget of the namespace after such a call. -/
theorem podDisruptionBudget?_answer
    {site : Site} {ns : String} {labelled : Bool} {request : UpdateRequest}
    (keeps : request.keeps ns labelled) :
    let before := site.podDisruptionBudget? (podDisruptionBudgetKey ns)
    let after := (site.answer request).1.podDisruptionBudget? (podDisruptionBudgetKey ns)
    after = before ∨ ∃ pdb, after = some pdb ∧ pdb.deleteMe = labelled ∧
      pdb.creationTimestamp = (before.map (·.creationTimestamp)).getD site.clock := by
  intro before after
  cases request with
  | createPodDisruptionBudget pdb =>
      simp only [after, Site.answer, Site.createPodDisruptionBudget]
      split
      · exact Or.inl rfl
      next absent =>
        by_cases same : pdb.key = podDisruptionBudgetKey ns
        · rw [same] at absent
          refine Or.inr ⟨site.created pdb, ?_, keeps same, ?_⟩
          · rw [Site.podDisruptionBudget?, Registry.find?_append, ← Site.podDisruptionBudget?,
              absent, Option.none_or]
            exact (Registry.find?_cons _ _).trans (if_pos same)
          · simp only [before, absent]
            rfl
        · left
          rw [Site.podDisruptionBudget?, Registry.find?_append]
          refine Eq.trans (congrArg (Option.or _)
            ((Registry.find?_cons _ _).trans (if_neg same))) ?_
          rw [Registry.find?_nil, Option.or_none]
          rfl
  | updatePodDisruptionBudget pdb =>
      simp only [after, Site.answer, Site.updatePodDisruptionBudget]
      split
      · exact Or.inl rfl
      next previous present =>
        split
        · exact Or.inl rfl
        · dsimp only [Site.podDisruptionBudget?]
          by_cases same : pdb.key = podDisruptionBudgetKey ns
          · rw [same] at present ⊢
            refine Or.inr ⟨site.updated pdb previous, ?_, keeps same, ?_⟩
            · rw [Registry.find?_amend_self (by exact fun _ named => named),
                ← Site.podDisruptionBudget?, present]
              rfl
            · simp only [before, present]
              rfl
          · left
            exact Registry.find?_amend_of_ne (by exact fun _ named => named) (Ne.symm same)
  | deletePodDisruptionBudget key =>
      simp only [after, Site.answer, Site.deletePodDisruptionBudget]
      split
      · exact Or.inl rfl
      · exact Or.inl (Registry.find?_remove_of_ne (Ne.symm keeps))
  | updateFusionAccess fusionaccess =>
      simp only [after, Site.answer, Site.updateFusionAccess]
      split
      · exact Or.inl rfl
      · split <;> exact Or.inl rfl
  | _ => exact Or.inl rfl

/-! ## What updates and passes keep -/

/-- In the given second, the PodDisruptionBudget of the namespace is fresh with
regard to an earlier time. -/
def InGap (ns : String) (time now : Nat) (site : Site) : Prop :=
  site.clock = now ∧ site.FreshIn ns time

/-- The PodDisruptionBudget of the namespace has the given label and age. -/
def StoredWith (ns : String) (labelled : Bool) (created : Nat) (site : Site) : Prop :=
  ∃ pdb, site.podDisruptionBudget? (podDisruptionBudgetKey ns) = some pdb ∧
    pdb.deleteMe = labelled ∧ pdb.creationTimestamp = created

/-- The invariant determines the label, and calls that keep the label preserve
it. -/
structure FixesLabel (ns : String) (labelled : Bool) (invariant : Site → Prop) :
    Prop where
  preserved : ∀ site request, invariant site → UpdateRequest.keeps ns labelled request →
    invariant (site.answer request).1
  found : ∀ site pdb, invariant site →
    site.podDisruptionBudget? (podDisruptionBudgetKey ns) = some pdb →
      pdb.deleteMe = labelled
  missing : ∀ site, invariant site →
    site.podDisruptionBudget? (podDisruptionBudgetKey ns) = none → labelled = false

theorem fixesLabel_inGap
    {ns : String} {time now : Nat} (later : time ≤ now) :
    FixesLabel ns false (InGap ns time now) where
  preserved := by
    rintro site request ⟨rfl, fresh⟩ keeps
    refine ⟨(surroundings_answer site request).1, fun pdb stored => ?_⟩
    rcases podDisruptionBudget?_answer keeps with same | ⟨updated, found, label, created⟩
    · exact fresh pdb (same.symm.trans stored)
    · obtain rfl : updated = pdb := Option.some_inj.mp (found.symm.trans stored)
      refine ⟨label, ?_⟩
      rw [created]
      cases before : site.podDisruptionBudget? (podDisruptionBudgetKey ns) with
      | none => exact Nat.le_succ_of_le later
      | some previous => exact (fresh previous before).2
  found := fun _ pdb holds stored => (holds.2 pdb stored).1
  missing := fun _ _ _ => rfl

theorem fixesLabel_storedWith (ns : String) (labelled : Bool) (created : Nat) :
    FixesLabel ns labelled (StoredWith ns labelled created) where
  preserved := by
    rintro site request ⟨pdb, stored, label, time⟩ keeps
    rcases podDisruptionBudget?_answer keeps with same | ⟨updated, found, kept, age⟩
    · exact ⟨pdb, same.trans stored, label, time⟩
    · exact ⟨updated, found, kept, by simpa [stored, time] using age⟩
  found := by
    rintro site pdb ⟨stored, found, label, -⟩ present
    obtain rfl : stored = pdb := Option.some_inj.mp (found.symm.trans present)
    exact label
  missing := by
    rintro site ⟨stored, found, -⟩ absent
    rw [absent] at found
    cases found

/-- The contract admits everything but the deletion of the PodDisruptionBudget. -/
def AdmitsOthers (C : Contract siteServer) (ns : String) : Prop :=
  ∀ site request, request ≠ .deletePodDisruptionBudget (podDisruptionBudgetKey ns) →
    C.guard site request

/-- The PodDisruptionBudget is not deleted. -/
def keeping (ns : String) : Contract siteServer :=
  Contract.demand fun _ request =>
    request ≠ .deletePodDisruptionBudget (podDisruptionBudgetKey ns)

/-- The same as long as no Build is seen. -/
def gap (ns : String) : Contract siteServer where
  rely := fun site request fault =>
    request = .listBuilds ns → fault = .none → site.buildsIn ns = []
  guard := fun _ request => request ≠ .deletePodDisruptionBudget (podDisruptionBudgetKey ns)

theorem admitsOthers_keeping (ns : String) : AdmitsOthers (keeping ns) ns :=
  fun _ _ other => other

theorem admitsOthers_gap (ns : String) : AdmitsOthers (gap ns) ns :=
  fun _ _ other => other

section Passes

variable {ns : String} {time now : Nat} {labelled : Bool} {fusionaccess : FusionAccess}
  {C : Contract siteServer} {invariant : Site → Prop}

theorem safe_call
    {request : UpdateRequest}
    {known : Except Failure request.Yield → Prop}
    (admits : AdmitsOthers C ns)
    (fixes : FixesLabel ns labelled invariant)
    (keeps : request.keeps ns labelled)
    (success : ∀ site, invariant site → Api.MaySucceed C site request →
      known (site.answer request).2)
    (failed : request.remote = true → ∀ failure : Failure, failure.Transient →
      known (.error failure)) :
    SafeThen C invariant (call request) known := by
  refine Api.safe_ask (fun _ _ => admits _ _ ?_) success
    (fun site holds => fixes.preserved site request holds keeps) failed
  rintro rfl
  exact keeps rfl

/-- A call of which nothing has to be known. -/
theorem safe_write
    {request : UpdateRequest}
    (admits : AdmitsOthers C ns)
    (fixes : FixesLabel ns labelled invariant)
    (keeps : request.keeps ns labelled) :
    Safe C invariant (call request) :=
  safe_call admits fixes keeps (fun _ _ _ => trivial) fun _ _ _ => trivial

/-- A read of a PodDisruptionBudget tells what is stored. -/
theorem safe_getPodDisruptionBudget
    (admits : AdmitsOthers C ns) (fixes : FixesLabel ns labelled invariant)
    (key : NamespacedName) :
    SafeThen C invariant (call (.getPodDisruptionBudget key)) fun
      | .ok pdb => ∃ site, invariant site ∧ site.podDisruptionBudget? key = some pdb
      | .error err => err.reason = .notFound →
          ∃ site, invariant site ∧ site.podDisruptionBudget? key = none := by
  refine safe_call admits fixes True.intro (fun site holds _ => ?_)
    fun _ _ transient absent => absurd absent transient.1
  cases stored : site.podDisruptionBudget? key with
  | none =>
      simp only [Site.answer, stored]
      exact fun _ => ⟨site, holds, stored⟩
  | some pdb =>
      simp only [Site.answer, stored]
      exact ⟨site, holds, stored⟩

theorem safe_createPodDisruptionBudget
    (admits : AdmitsOthers C ns) (fixes : FixesLabel ns labelled invariant)
    (fusionaccess : FusionAccess) :
    Safe C invariant (createPodDisruptionBudget fusionaccess podDisruptionBudgetName) := by
  refine (safe_getPodDisruptionBudget admits fixes _).attempt ?_
  rintro (err | existing) known
  · refine safeThen_ite (fun absent => ?_) fun _ => safe_throw err
    obtain ⟨site, holds, absent⟩ := known absent
    refine safe_write admits fixes fun same => ?_
    rw [fixes.missing site holds (same ▸ absent)]
    rfl
  · refine safeThen_ite (fun _ => safe_pure ()) fun _ => ?_
    obtain ⟨site, holds, stored⟩ := known
    refine safe_write admits fixes fun same => ?_
    have named : existing.key = _ := (Registry.find?_eq_some stored).2
    rw [← named, show existing.key = _ from same] at stored
    exact fixes.found site existing holds stored

theorem safe_updateStorageScaleVersion
    (admits : AdmitsOthers C ns) (fixes : FixesLabel ns labelled invariant)
    (fusionaccess : FusionAccess) (version : String) :
    Safe C invariant (updateStorageScaleVersion fusionaccess version) := by
  refine (safe_createPodDisruptionBudget admits fixes fusionaccess).andThen fun _ _ => ?_
  have updates : Safe C invariant (call (.updateFusionAccess
      { fusionaccess with storageScaleVersion := version })) :=
    safe_write admits fixes True.intro
  exact updates.andThen fun _ _ => safe_pure _

/-- No Build is seen. -/
theorem safe_haveBuilds
    (later : time ≤ now) :
    SafeThen (gap ns) (InGap ns time now) (haveBuilds fusionaccess)
      fun result => fusionaccess.metadata.ns = ns → result ≠ .ok true := by
  have listed : SafeThen (gap ns) (InGap ns time now)
      (call (.listBuilds fusionaccess.metadata.ns))
      fun result => fusionaccess.metadata.ns = ns → ∀ builds, result = .ok builds →
        builds = [] := by
    refine safe_call (admitsOthers_gap ns) (fixesLabel_inGap later) True.intro ?_
      fun _ _ _ _ _ impossible => by cases impossible
    rintro site - ⟨fault, relied, calm | impossible⟩ same builds listed
    · simp only [Site.answer, same, relied (by rw [same]) calm] at listed
      cases listed
      rfl
    · cases impossible
  refine listed.bind (fun _ _ _ => by simp) fun builds none => safeThen_pure ?_
  intro same
  rw [none same builds rfl]
  simp

/-- A PodDisruptionBudget that is fresh, or of another namespace, is not
deleted. -/
theorem safe_expirePodDisruptionBudget
    {pdb : PodDisruptionBudget}
    (later : time ≤ now) (early : now < time + moduleBuildTimeLimit * minute)
    (fresh : fusionaccess.metadata.ns = ns → pdb.Fresh time) :
    Safe (gap ns) (InGap ns time now) (expirePodDisruptionBudget fusionaccess pdb) := by
  have read : SafeThen (gap ns) (InGap ns time now) (call .now)
      fun result => result = .ok now :=
    safe_call (admitsOthers_gap ns) (fixesLabel_inGap later) True.intro
      (fun site holds _ => by rw [Site.answer, holds.1]) fun remote => by cases remote
  have expiry : SafeThen (gap ns) (InGap ns time now) (isExpired pdb)
      fun result => fusionaccess.metadata.ns = ns → result ≠ .ok true := by
    refine safeThen_ite (fun labelled => safeThen_pure fun same => ?_) fun _ => ?_
    · rw [(fresh same).1] at labelled
      cases labelled
    · refine read.bind (fun _ impossible => by cases impossible) fun present same => ?_
      cases same
      refine safeThen_pure fun same => ?_
      have young := (fresh same).2
      simp only [ne_eq, Except.ok.injEq, decide_eq_true_eq, Nat.not_lt]
      omega
  refine expiry.andThen fun expired known => ?_
  refine safeThen_ite (fun expires => ?_) fun _ => safe_pure none
  have elsewhere : fusionaccess.metadata.ns ≠ ns := fun same =>
    known same (by rw [expires])
  have deletion : Safe (gap ns) (InGap ns time now) (call (.deletePodDisruptionBudget
      ⟨fusionaccess.metadata.ns, podDisruptionBudgetName⟩)) := by
    refine safe_write (admitsOthers_gap ns) (fixesLabel_inGap later) fun same => ?_
    exact elsewhere (congrArg NamespacedName.ns same)
  have deletes : Safe (gap ns) (InGap ns time now)
      (deletePodDisruptionBudget podDisruptionBudgetName fusionaccess.metadata.ns) := by
    refine deletion.attempt ?_
    rintro (err | _) -
    · exact safeThen_ite (fun _ => safe_pure ()) fun _ => safe_throw err
    · exact safe_pure ()
  exact deletes.andThen fun _ _ => safe_pure none

/-- In the gap a pass leaves the PodDisruptionBudget alone. -/
theorem safe_managePodDisruptionBudget
    (later : time ≤ now) (early : now < time + moduleBuildTimeLimit * minute)
    (fusionaccess : FusionAccess) :
    Safe (gap ns) (InGap ns time now) (managePodDisruptionBudget fusionaccess) := by
  refine (safe_getPodDisruptionBudget (admitsOthers_gap ns) (fixesLabel_inGap later)
    _).attempt ?_
  rintro (err | pdb) known
  · exact safeThen_ite (fun _ => safe_pure none) fun _ => safe_throw err
  obtain ⟨site, holds, stored⟩ := known
  have young : fusionaccess.metadata.ns = ns → pdb.Fresh time := by
    rintro rfl
    exact holds.2 pdb stored
  refine (safe_haveBuilds later).andThen fun haveBuilds unbuilt => ?_
  refine safeThen_ite (fun built => ?_) fun _ =>
    safe_expirePodDisruptionBudget later early young
  refine safeThen_ite (fun _ => safe_pure none) fun _ => ?_
  have labels : Safe (gap ns) (InGap ns time now)
      (call (.updatePodDisruptionBudget { pdb with
        metadata := { pdb.metadata with
          labels := pdb.metadata.labels.set podDisruptionDeleteLabel "" } })) := by
    refine safe_write (admitsOthers_gap ns) (fixesLabel_inGap later) fun same => ?_
    have named : pdb.key = _ := (Registry.find?_eq_some stored).2
    have here : fusionaccess.metadata.ns = ns :=
      congrArg NamespacedName.ns (named.symm.trans same)
    exact absurd (by rw [built]) (unbuilt here)
  exact labels.andThen fun _ _ => safe_pure _

end Passes
/-! ## Runs -/

/-- What the controller does about an update. -/
inductive SiteStep
  | updateStorageScaleVersion (fusionaccess : FusionAccess) (version : String)
  | managePodDisruptionBudget (fusionaccess : FusionAccess)

/-- The FusionAccess that a step is about. -/
def SiteStep.fusionaccess : SiteStep → FusionAccess
  | .updateStorageScaleVersion fusionaccess _ => fusionaccess
  | .managePodDisruptionBudget fusionaccess => fusionaccess

/-- The namespace in which a step takes place. -/
def SiteStep.ns (step : SiteStep) : String := step.fusionaccess.metadata.ns

/-- The step is a version update. -/
def SiteStep.isUpdate : SiteStep → Bool
  | .updateStorageScaleVersion _ _ => true
  | .managePodDisruptionBudget _ => false

/-- The programs of the steps. -/
def controller :
    SiteStep → Program updateApi.interface (Except Failure (Option Result))
  | .updateStorageScaleVersion fusionaccess version =>
      (some <$> updateStorageScaleVersion fusionaccess version).run
  | .managePodDisruptionBudget fusionaccess =>
      (managePodDisruptionBudget fusionaccess).run

/-- Time passes, Builds come and go, and FusionAccess objects are edited. -/
def elapses (before after : Site) : Prop :=
  after.podDisruptionBudgets = before.podDisruptionBudgets ∧ before.clock ≤ after.clock

section Runs

variable (ns : String) (pass : Pass siteServer SiteStep)

/-- The pass succeeds in updating the version. -/
def Updates : Prop :=
  pass.index.isUpdate = true ∧ ∃ result, (pass.outcome controller).value = .ok result

/-- The pass sees a Build of the namespace. -/
def ObservesBuild : Prop :=
  ∃ event ∈ (pass.outcome controller).log, event.request = .listBuilds ns ∧
    event.choice = .none ∧ event.before.buildsIn ns ≠ []

/-- The pass deletes the PodDisruptionBudget of the namespace. -/
def DeletesPodDisruptionBudget : Prop :=
  ∃ event ∈ (pass.outcome controller).log,
    event.request = .deletePodDisruptionBudget (podDisruptionBudgetKey ns)

/-- After an update, no pass deletes the PodDisruptionBudget before the time limit
for the build, unless it or a pass before it has seen a Build. -/
def BridgesGap (update : Pass siteServer SiteStep)
    (later : List (Pass siteServer SiteStep)) : Prop :=
  ∀ between pass rest, later = between ++ pass :: rest →
    pass.start.clock < update.start.clock + moduleBuildTimeLimit * minute →
    (∀ other ∈ between ++ [pass], ¬ObservesBuild update.index.ns other) →
    ¬DeletesPodDisruptionBudget update.index.ns pass

/-- The update finds no PodDisruptionBudget, or one that is not labelled and no more
than a second old. -/
def FindsFresh (update : Pass siteServer SiteStep) : Prop :=
  update.start.FreshIn update.index.ns update.start.clock

end Runs

section Bridging

variable {ns : String} {time : Nat} {pass : Pass siteServer SiteStep}

/-- Clock and Builds stay as they are during a pass. -/
theorem surroundings_of_event (event : Event siteServer) :
    event.after.clock = event.before.clock ∧ event.after.builds = event.before.builds := by
  unfold Event.after
  rcases Api.serve_cases event.choice event.before event.request with
    ⟨_, served⟩ | ⟨_, _, _, _, served | served⟩
  all_goals rw [served]
  · exact surroundings_answer _ _
  · exact ⟨rfl, rfl⟩
  · exact surroundings_answer _ _

theorem clock_outcome (pass : Pass siteServer SiteStep) :
    (pass.outcome controller).state.clock = pass.start.clock :=
  (@Program.run_preserves _ _ siteServer (fun site : Site => site.clock = pass.start.clock)
    _ _ _ fun event _ same => (surroundings_of_event event).1.trans same).1 rfl

/-- Where there is no Build, none is seen. -/
theorem not_observesBuild (unbuilt : pass.start.builds = []) :
    ¬ObservesBuild ns pass := by
  rintro ⟨event, member, -, -, built⟩
  refine built ?_
  rw [Site.buildsIn, @Program.holds_before_of_run _ _ siteServer
    (fun site : Site => site.builds = []) _ _ _
    (fun event _ same => (surroundings_of_event event).2.trans same) unbuilt event member]
  rfl

/-- What an update of its own namespace keeps. -/
theorem ensures_update
    {C : Contract siteServer} {step : SiteStep} {labelled : Bool}
    {invariant : Site → Prop} {site : Site}
    (isUpdate : step.isUpdate = true)
    (admits : AdmitsOthers C ns)
    (fixes : FixesLabel ns labelled invariant)
    (holds : invariant site) :
    (controller step).Ensures C (fun _ final => invariant final) site := by
  cases step with
  | managePodDisruptionBudget fusionaccess => cases isUpdate
  | updateStorageScaleVersion fusionaccess version =>
      refine (ensures_map some _ _ _).mpr (Fallible.Ensures.mono
        (safe_updateStorageScaleVersion admits fixes fusionaccess version site holds) ?_)
      rintro (_ | _) final ensured
      · exact ensured.2
      · exact ensured.2

/-- In the gap a step keeps the PodDisruptionBudget, and keeps it fresh. -/
theorem keeps_of_inGap
    (fresh : pass.start.FreshIn ns time)
    (later : time ≤ pass.start.clock)
    (early : pass.start.clock < time + moduleBuildTimeLimit * minute)
    (unobserved : ¬ObservesBuild ns pass) :
    ¬DeletesPodDisruptionBudget ns pass ∧
      (pass.outcome controller).state.FreshIn ns time := by
  have ensures : Program.Ensures (gap ns) (controller pass.index)
      (fun _ site => InGap ns time pass.start.clock site) pass.start := by
    cases pass.index with
    | updateStorageScaleVersion fusionaccess version =>
        exact ensures_update rfl (admitsOthers_gap ns) (fixesLabel_inGap later) ⟨rfl, fresh⟩
    | managePodDisruptionBudget fusionaccess =>
        exact Fallible.Ensures.mono
          (safe_managePodDisruptionBudget later early fusionaccess _ ⟨rfl, fresh⟩)
          fun _ _ ensured => ensured.2
  have sound := ensures.sound pass.choices fun event member listed calm => by
    by_contra built
    exact unobserved ⟨event, member, listed, calm, built⟩
  refine ⟨?_, sound.2.2⟩
  rintro ⟨event, member, deletes⟩
  exact sound.1 event member deletes

/-- As long as no Build is seen, the PodDisruptionBudget stays fresh. -/
theorem freshIn_of_run
    {initial state : Site} {passes : List (Pass siteServer SiteStep)}
    (run : Run controller elapses initial passes state)
    (fresh : initial.FreshIn ns time)
    (later : time ≤ initial.clock) :
    time ≤ state.clock ∧
      (state.clock < time + moduleBuildTimeLimit * minute →
        (∀ pass ∈ passes, ¬ObservesBuild ns pass) → state.FreshIn ns time) := by
  induction run with
  | start => exact ⟨later, fun _ _ => fresh⟩
  | @pass passes current before index choices inductionHypothesis =>
      rw [clock_outcome]
      refine ⟨inductionHypothesis.1, fun early unobserved => ?_⟩
      have earlier := inductionHypothesis.2 early fun pass member =>
        unobserved pass (List.mem_append_left _ member)
      exact (keeps_of_inGap earlier inductionHypothesis.1 early
        (unobserved _ (by simp))).2
  | move before moved inductionHypothesis =>
      obtain ⟨same, ticks⟩ := moved
      refine ⟨Nat.le_trans inductionHypothesis.1 ticks, fun early unobserved => ?_⟩
      have earlier := inductionHypothesis.2 (Nat.lt_of_le_of_lt ticks early) unobserved
      rw [Site.FreshIn, Site.podDisruptionBudget?, same]
      exact earlier

/-- A gap after an update that finds everything fresh is bridged. -/
theorem bridgesGap_of_fresh
    {update : Pass siteServer SiteStep} {later : List (Pass siteServer SiteStep)}
    {state : Site}
    (isUpdate : update.index.isUpdate = true)
    (fresh : FindsFresh update)
    (run : Run controller elapses (update.outcome controller).state later state) :
    BridgesGap update later := by
  rintro between pass rest rfl early unobserved
  have updated : (update.outcome controller).state.FreshIn update.index.ns
      update.start.clock :=
    ((ensures_update isUpdate (admitsOthers_keeping _) (fixesLabel_inGap (Nat.le_refl _))
      ⟨rfl, fresh⟩).sound update.choices fun _ _ => trivial).2.2
  have before := freshIn_of_run run.split.1 updated (Nat.le_of_eq (clock_outcome update).symm)
  refine (keeps_of_inGap (before.2 early ?_) before.1 early ?_).1
  · exact fun other member => unobserved other (List.mem_append_left _ member)
  · exact unobserved pass (by simp)

/-! ### An update that finds an old PodDisruptionBudget -/

/-- A PodDisruptionBudget that is labelled or too old does not outlive a pass that sees
no Build. -/
theorem deletes_of_storedWith
    {fusionaccess : FusionAccess} {site : Site} {labelled : Bool} {created : Nat}
    (stored : StoredWith fusionaccess.metadata.ns labelled created site)
    (expired : labelled = true ∨ created + moduleBuildTimeLimit * minute < site.clock)
    (unbuilt : site.builds = []) :
    DeletesPodDisruptionBudget fusionaccess.metadata.ns
      ⟨.managePodDisruptionBudget fusionaccess, fun _ => .none, site⟩ := by
  obtain ⟨pdb, found, label, age⟩ := stored
  let C : Contract siteServer := {
    rely := fun _ request fault => fault = .none ∧
      request ≠ .deletePodDisruptionBudget
        (podDisruptionBudgetKey fusionaccess.metadata.ns)
    guard := fun _ _ => True }
  have calm : ∀ {state : Site} {request : UpdateRequest}, ¬Api.MayFail C state request := by
    rintro state request ⟨fault, relied, faulty, -⟩
    exact faulty relied.1
  have ensures : Fallible.Ensures C (managePodDisruptionBudget fusionaccess)
      (fun _ _ => False) site := by
    unfold managePodDisruptionBudget
    rw [ensures_bind, ensures_attempt]
    refine Api.ensures_ask trivial (fun _ => ?_) fun _ _ mayFail => absurd mayFail calm
    rw [podDisruptionBudgetKey] at found
    simp only [Site.answer, found, onSuccess_ok]
    rw [ensures_bind, haveBuilds, ensures_bind]
    refine Api.ensures_ask trivial (fun _ => ?_) fun _ _ mayFail => absurd mayFail calm
    have none : site.buildsIn fusionaccess.metadata.ns = [] := by
      rw [Site.buildsIn, unbuilt]
      rfl
    simp only [Site.answer, none, onSuccess_ok, ensures_pure, List.isEmpty_nil,
      Bool.not_true, Bool.false_eq_true, if_false]
    rw [expirePodDisruptionBudget, ensures_bind]
    have expires : Fallible.Ensures C (isExpired pdb)
        (fun result final => result = .ok true ∧ final = site) site := by
      rw [isExpired, ensures_ite]
      refine ⟨fun _ => ⟨rfl, rfl⟩, fun unlabelled => ?_⟩
      rw [ensures_bind]
      refine Api.ensures_ask trivial (fun _ => ?_) fun _ _ mayFail => absurd mayFail calm
      have aged := expired.resolve_left fun labelled => unlabelled (label.trans labelled)
      simp [Site.answer, age, aged]
    refine expires.mono ?_
    rintro result final ⟨rfl, rfl⟩
    rw [onSuccess_ok, if_pos rfl, ensures_bind, deletePodDisruptionBudget, ensures_bind,
      ensures_attempt]
    refine ⟨trivial, fun fault relied => ?_⟩
    exact absurd rfl relied.2
  by_contra remains
  refine (Program.Ensures.sound ensures (fun _ => .none) fun event member => ?_).2
  obtain ⟨_, calm⟩ := Program.choice_of_mem_log member
  exact ⟨calm, fun deletes => remains ⟨event, member, deletes⟩⟩

/-- If every gap after an update is bridged, the update finds everything fresh. -/
theorem fresh_of_bridgesGap
    {update : Pass siteServer SiteStep}
    (isUpdate : update.index.isUpdate = true)
    (bridges : ∀ later state,
      Run controller elapses (update.outcome controller).state later state →
        BridgesGap update later) :
    FindsFresh update := by
  intro pdb stored
  by_contra old
  have stale : pdb.deleteMe = true ∨
      pdb.creationTimestamp + 1 < update.start.clock := by
    by_contra fresh
    rw [not_or, Bool.not_eq_true, Nat.not_lt] at fresh
    exact old fresh
  let updated := (update.outcome controller).state
  have clock : updated.clock = update.start.clock := clock_outcome update
  obtain ⟨later, foundLater, label, age⟩ :
      StoredWith update.index.ns pdb.deleteMe pdb.creationTimestamp updated :=
    ((ensures_update isUpdate (admitsOthers_keeping _)
      (fixesLabel_storedWith _ _ _) ⟨pdb, stored, rfl, rfl⟩).sound update.choices
      fun _ _ => trivial).2
  -- the last second before the time limit
  let last : Site :=
    { updated with
      builds := []
      clock := updated.clock + moduleBuildTimeLimit * minute - 1 }
  have run : Run controller elapses updated [] last :=
    .move .start ⟨rfl, by simp only [last, moduleBuildTimeLimit, minute]; omega⟩
  have deletes := @deletes_of_storedWith update.index.fusionaccess last pdb.deleteMe
    pdb.creationTimestamp ⟨later, foundLater, label, age⟩
    (stale.imp id fun aged => by
      simp only [last, moduleBuildTimeLimit, minute, clock]
      omega) rfl
  refine bridges _ _ (run.pass (.managePodDisruptionBudget update.index.fusionaccess)
    fun _ => .none) [] _ [] rfl ?_ ?_ deletes
  · simp only [last, moduleBuildTimeLimit, minute, clock]
    omega
  · intro other member
    obtain rfl := List.mem_singleton.mp member
    exact not_observesBuild rfl

/-- Whatever follows a version update of a run, the gap is bridged if and only if the
update finds no PodDisruptionBudget, or a fresh one. -/
theorem budget_outlives_gap
    {initial state : Site} {earlier : List (Pass siteServer SiteStep)}
    {update : Pass siteServer SiteStep}
    (run : Run controller elapses initial (earlier ++ [update]) state)
    (updates : Updates update) :
    (∀ later final, Run controller elapses initial (earlier ++ update :: later) final →
        BridgesGap update later) ↔
      FindsFresh update := by
  constructor
  · intro bridges
    refine fresh_of_bridgesGap updates.1 fun later final rest => ?_
    have before := run.split.1.pass update.index update.choices
    refine bridges later final ?_
    simpa using before.append rest
  · intro fresh later final whole
    exact bridgesGap_of_fresh updates.1 fresh whole.split.2

end Bridging

/-! ## A first and a second update -/

/-- No call fails. -/
def calmly : Nat → Fault := fun _ => .none

/-- The namespace of the operator. -/
def operatorNamespace : String := "ibm-fusion-access"

/-- A FusionAccess of an earlier version. -/
def earlierFusionAccess : FusionAccess where
  metadata := { name := "fusionaccess", ns := operatorNamespace, resourceVersion := 1 }
  storageScaleVersion := "v5.2.2.1"

/-- A site without a PodDisruptionBudget. -/
def firstSite : Site := { fusionAccesses := [earlierFusionAccess], revision := 1 }

/-- The first update. -/
def firstUpdate : Pass siteServer SiteStep :=
  ⟨.updateStorageScaleVersion earlierFusionAccess "v5.2.3.0", calmly, firstSite⟩

/-- The FusionAccess after the first update. -/
def updatedFusionAccess : FusionAccess :=
  ((firstUpdate.outcome controller).state.fusionAccess? earlierFusionAccess.key).getD
    earlierFusionAccess

/-- A pass while the module is built. -/
def passDuringBuild : Pass siteServer SiteStep :=
  ⟨.managePodDisruptionBudget updatedFusionAccess, calmly,
    { (firstUpdate.outcome controller).state with
      builds := [⟨operatorNamespace, "gpfs-module-build-1"⟩]
      clock := 60 }⟩

/-- The second update, an hour after the Build has gone. -/
def secondUpdate : Pass siteServer SiteStep :=
  ⟨.updateStorageScaleVersion updatedFusionAccess "v5.2.3.1", calmly,
    { (passDuringBuild.outcome controller).state with
      builds := []
      clock := 3600 }⟩

/-- The pass right after the second update. -/
def passAfterUpdate : Pass siteServer SiteStep :=
  ⟨.managePodDisruptionBudget updatedFusionAccess, calmly,
    (secondUpdate.outcome controller).state⟩

theorem run_firstUpdate :
    Run controller elapses firstSite [firstUpdate]
      (firstUpdate.outcome controller).state :=
  (Run.start : Run controller elapses firstSite [] firstSite).pass firstUpdate.index
    firstUpdate.choices

theorem run_passAfterUpdate :
    Run controller elapses firstSite
      [firstUpdate, passDuringBuild, secondUpdate, passAfterUpdate]
      (passAfterUpdate.outcome controller).state := by
  have building : Run controller elapses firstSite [firstUpdate] passDuringBuild.start :=
    run_firstUpdate.move ⟨rfl, by decide⟩
  have built : Run controller elapses firstSite [firstUpdate, passDuringBuild]
      secondUpdate.start :=
    (building.pass passDuringBuild.index passDuringBuild.choices).move ⟨rfl, by decide⟩
  have second : Run controller elapses firstSite
      [firstUpdate, passDuringBuild, secondUpdate] passAfterUpdate.start :=
    built.pass secondUpdate.index secondUpdate.choices
  exact second.pass passAfterUpdate.index passAfterUpdate.choices

/-- The gap after the first update is bridged. -/
theorem budget_outlives_gap_first :
    BridgesGap firstUpdate [passDuringBuild, secondUpdate, passAfterUpdate] :=
  (@budget_outlives_gap firstSite _ [] firstUpdate run_firstUpdate ⟨rfl, _, rfl⟩).mpr
    (fun _ stored => by cases stored) _ _ run_passAfterUpdate

/-- The gap after the second update is not. -/
theorem gap_not_bridged :
    (∃ final, Run controller elapses firstSite
        [firstUpdate, passDuringBuild, secondUpdate, passAfterUpdate] final) ∧
      Updates secondUpdate ∧ ¬BridgesGap secondUpdate [passAfterUpdate] := by
  refine ⟨⟨_, run_passAfterUpdate⟩, ⟨rfl, _, rfl⟩, fun bridges => ?_⟩
  refine bridges [] passAfterUpdate [] rfl (by decide) ?_ ?_
  · intro other member
    obtain rfl := List.mem_singleton.mp member
    exact not_observesBuild rfl
  · exact deletes_of_storedWith ⟨_, rfl, rfl, rfl⟩ (Or.inl rfl) rfl

end Installation
