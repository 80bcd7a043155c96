import FusionAccess.Installation.MergeLaws
import FusionAccess.Installation.RegistryCredentials

/-!
# The entitlement in all namespaces

The entitlement key becomes a pull secret in each of the namespaces of the product. If
there is an extra pull secret, it is merged into each of them; the secrets share one map
of data, so each merge starts from the result of the one before.
-/

namespace Installation

open Kubernetes Registry Interaction Fallible

/-! ## Merging a payload again -/

/-- The fields and the credentials of a configuration stand in the order of their
keys. -/
structure Ordered (cfg : Fields) : Prop where
  fields : Entries.Sorted cfg
  auths : Entries.Sorted (auths cfg)

theorem ordered_mergeFields
    {destCfg : Fields} (ordered : Ordered destCfg) (srcCfg : Fields) :
    Ordered (srcCfg.foldr mergeField destCfg) := by
  induction srcCfg with
  | nil => exact ordered
  | cons entry rest inductionHypothesis =>
      rw [List.foldr_cons]
      constructor
      · rw [mergeField]
        split
        · exact Entries.sorted_set inductionHypothesis.fields _ _
        · exact Entries.sorted_set inductionHypothesis.fields _ _
      · rw [auths_mergeField]
        split
        · exact Entries.sorted_overwrite inductionHypothesis.auths _
        · exact inductionHypothesis.auths

/-- What has been merged may be merged again without effect. -/
theorem mergeFields_idempotent
    {srcCfg destCfg : Fields} (ordered : Ordered destCfg)
    (present : (srcCfg.get? "auths").isSome) :
    srcCfg.foldr mergeField (srcCfg.foldr mergeField destCfg) =
      srcCfg.foldr mergeField destCfg := by
  have once := ordered_mergeFields ordered srcCfg
  have twice := ordered_mergeFields once srcCfg
  have places : ∀ place, configurationAt?
      (srcCfg.foldr mergeField (srcCfg.foldr mergeField destCfg)) place =
        configurationAt? (srcCfg.foldr mergeField destCfg) place := by
    intro place
    rw [configurationAt?_mergeFields, configurationAt?_mergeFields, ← Option.or_assoc,
      Option.or_self]
  have credentials : auths (srcCfg.foldr mergeField (srcCfg.foldr mergeField destCfg)) =
      auths (srcCfg.foldr mergeField destCfg) := by
    apply Entries.eq_of_sorted twice.auths once.auths
    intro registry
    exact places (.registry registry)
  apply Entries.eq_of_sorted twice.fields once.fields
  intro key
  by_cases isAuths : key = "auths"
  · -- both hold an object with the same credentials
    subst isAuths
    obtain ⟨second, foundSecond⟩ :=
      get?_auths_mergeFields_isObject present (srcCfg.foldr mergeField destCfg)
    obtain ⟨first, foundFirst⟩ := get?_auths_mergeFields_isObject present destCfg
    rw [auths, auths, foundSecond, foundFirst] at credentials
    rw [foundSecond, foundFirst]
    exact congrArg (fun fields => some (Value.object fields)) credentials
  · have beside := places (.topLevel key)
    rw [configurationAt?, configurationAt?, if_neg isAuths, if_neg isAuths] at beside
    exact beside

/-! ## The entitlement -/

/-- The digits of base64. -/
def base64Alphabet : List Char :=
  "ABCDEFGHIJKLMNOPQRSTUVWXYZabcdefghijklmnopqrstuvwxyz0123456789+/".toList

/-- The digit with the given value. -/
def base64Digit (value : Nat) : Char := base64Alphabet.getD value '='

/-- `EncodeToString` of the standard encoding. -/
def base64Encode : List UInt8 → List Char
  | [] => []
  | [first] =>
      [base64Digit (first.toNat / 4), base64Digit (first.toNat % 4 * 16), '=', '=']
  | [first, second] =>
      [base64Digit (first.toNat / 4),
        base64Digit (first.toNat % 4 * 16 + second.toNat / 16),
        base64Digit (second.toNat % 16 * 4), '=']
  | first :: second :: third :: rest =>
      base64Digit (first.toNat / 4) ::
        base64Digit (first.toNat % 4 * 16 + second.toNat / 16) ::
        base64Digit (second.toNat % 16 * 4 + third.toNat / 64) ::
        base64Digit (third.toNat % 64) :: base64Encode rest

/-- `IBMREGISTRY`. -/
def ibmRegistry : String := "cp.icr.io"

/-- `IBMREGISTRYUSER`. -/
def ibmRegistryUser : String := "cp"

/-- `EXTRAFUSIONPULLSECRETNAME`. -/
def extraFusionPullSecretName : String := "fusion-pullsecret-extra"

/-- The bytes of a text. -/
def bytesOf (text : String) : List UInt8 := text.toUTF8.toList

/-- `getDockerConfigSecretJSON`; encoding a map of texts does not fail. -/
def getDockerConfigSecretJSON (secret : List UInt8) : Payload :=
  .json (.object [("auths", .object [(ibmRegistry, .object
    [("auth", .string (String.ofList
        (base64Encode (bytesOf ibmRegistryUser ++ bytesOf ":" ++ secret)))),
      ("username", .string ibmRegistryUser)])])])

/-- `IbmEntitlementSecrets`. -/
def ibmEntitlementSecrets (ourNs : String) : List String :=
  [ourNs, "ibm-spectrum-scale", "ibm-spectrum-scale-dns", "ibm-spectrum-scale-csi",
    "ibm-spectrum-scale-operator"]

/-- `newSecret`, without labels. -/
def newSecret (name ns : String) (secret : Entries String Payload) (secretType : SecretType) :
    Secret where
  metadata := { name, ns }
  type := secretType
  data := secret

/-- The secret for a namespace, with the extra secret merged into it. -/
def ibmPullSecret (extraPullSecret : Option Secret) (secretData : Entries String Payload)
    (destNamespace : String) : Except Abort Secret :=
  let ibmPullSecret := newSecret ibmEntitlementName destNamespace secretData .dockerConfigJson
  match extraPullSecret with
  | none => .ok ibmPullSecret
  | some extraPullSecret => mergeDockerSecrets (some ibmPullSecret) (some extraPullSecret)

/-- The loop of `updateEntitlementPullSecrets`. -/
def updatePullSecrets (extraPullSecret : Option Secret) :
    Entries String Payload → List String → Preparation Unit
  | _, [] => return ()
  | secretData, destNamespace :: destNamespaces => do
      let secret ← (orAbort (ibmPullSecret extraPullSecret secretData destNamespace)).mapError
        (Failure.wrap "failed to merge secret in updateEntitlementPullSecrets: ")
      (createOrUpdateResource .secret secret mutateSecret).mapError
        (Failure.wrap "failed to update secret in updateEntitlementPullSecrets: ")
      -- the merge has written to the map that all secrets share
      updatePullSecrets extraPullSecret secret.data destNamespaces

/-- The extra pull secret; any error counts as its absence. -/
def getExtraPullSecret (ns : String) : Preparation (Option Secret) := do
  match ← (send (.get .secret ⟨ns, extraFusionPullSecretName⟩)).attempt with
  | .error _ => return none
  | .ok extraPullSecret => return some extraPullSecret

/-- The data of the secrets before anything is merged. -/
def entitlementData (secret : List UInt8) : Entries String Payload :=
  [(".dockerconfigjson", getDockerConfigSecretJSON secret)]

/-- `updateEntitlementPullSecrets`. -/
def updateEntitlementPullSecrets (secret : List UInt8) (ns : String) : Preparation Unit := do
  let extraPullSecret ← getExtraPullSecret ns
  updatePullSecrets extraPullSecret (entitlementData secret) (ibmEntitlementSecrets ns)

/-! ## The loop over the namespaces -/

/-- The payload of the data of a secret. -/
def payloadOf (data : Entries String Payload) : Payload :=
  (data.get? ".dockerconfigjson").getD .empty

/-- The pull secret of a namespace has the payload. -/
def Entitled (depot : Depot) (destNamespace : String) (payload : Payload) : Prop :=
  ∃ stored : Secret, depot.find? .secret ⟨destNamespace, ibmEntitlementName⟩ = some stored ∧
    stored.payload = payload

section Loop

variable {depot : Depot} {extraPullSecret : Option Secret}
  {secretData : Entries String Payload}

theorem metadata_ibmPullSecret
    {secret : Secret} {destNamespace : String}
    (merges : ibmPullSecret extraPullSecret secretData destNamespace = .ok secret) :
    secret.metadata.key = ⟨destNamespace, ibmEntitlementName⟩ := by
  cases extraPullSecret with
  | none =>
      cases merges
      rfl
  | some extraPullSecret =>
      rw [metadata_mergeDockerSecrets merges]
      rfl

/-- Induction on the namespaces: where every merge ends with the payload, all of them
have it after success. -/
theorem ensures_updatePullSecrets
    {destNamespaces : List String} {good : Entries String Payload → Prop} {payload : Payload}
    (initially : good secretData)
    (merged : ∀ secretData destNamespace secret, good secretData →
      ibmPullSecret extraPullSecret secretData destNamespace = .ok secret →
        good secret.data ∧ secret.payload = payload) :
    Fallible.Ensures anyRequest (updatePullSecrets extraPullSecret secretData destNamespaces)
      (fun result final => result = .ok () →
        (∀ destNamespace ∈ destNamespaces, Entitled final destNamespace payload) ∧
          ∀ other ∉ destNamespaces, final.find? .secret ⟨other, ibmEntitlementName⟩ =
            depot.find? .secret ⟨other, ibmEntitlementName⟩) depot := by
  induction destNamespaces generalizing secretData depot with
  | nil => exact fun _ => ⟨by simp, fun _ _ => rfl⟩
  | cons destNamespace rest inductionHypothesis =>
      rw [updatePullSecrets, ensures_bind, ensures_mapError]
      cases merges : ibmPullSecret extraPullSecret secretData destNamespace with
      | error abort => exact fun succeeded => by cases succeeded
      | ok secret =>
          obtain ⟨stillGood, hasPayload⟩ :=
            merged secretData destNamespace secret initially merges
          have key := metadata_ibmPullSecret merges
          change Fallible.Ensures _ (_ >>= _) _ _
          rw [ensures_bind, ensures_mapError]
          refine ((ensures_createOrUpdateSecret secret).and
            (ensures_createOrUpdateSecret_others secret)).mono ?_
          rintro (err | _) between ⟨⟨-, holds⟩, others⟩
          · exact fun succeeded => by cases succeeded
          · have written := holds rfl
            rw [key] at written others
            have later := @inductionHypothesis between secret.data stillGood
            refine later.mono fun result final ensured succeeded => ?_
            obtain ⟨entitled, untouched⟩ := ensured succeeded
            have here : Entitled final destNamespace payload := by
              by_cases again : destNamespace ∈ rest
              · exact entitled destNamespace again
              · obtain ⟨stored, found, hasData⟩ := written
                refine ⟨stored, (untouched destNamespace again).trans found, ?_⟩
                rw [← hasPayload, Secret.payload, Secret.payload, hasData]
            refine ⟨List.forall_mem_cons.mpr ⟨here, entitled⟩, fun other unlisted => ?_⟩
            rw [List.mem_cons, not_or] at unlisted
            refine (untouched other unlisted.2).trans (others _ fun same => unlisted.1 ?_)
            exact congrArg NamespacedName.ns same

end Loop

/-! ## Merges with the extra secret -/

section Merges

variable {extraPullSecret : Secret} {secretData : Entries String Payload}
  {dataKey destNamespace : String} {payload : Payload}

/-- A secret of a docker type whose payload is a map is merged into data that can be
written to. -/
theorem ibmPullSecret_of_isMap
    (docker : extraPullSecret.type.isDocker = true)
    (single : extraPullSecret.data = [(dataKey, payload)])
    (isMap : payload.isMap = true)
    (writable : (payloadOf secretData).isConfiguration = true) :
    ibmPullSecret (some extraPullSecret) secretData destNamespace =
      .ok ((newSecret ibmEntitlementName destNamespace secretData .dockerConfigJson).absorb
        payload) := by
  have absorbs := @foldlM_mergePayload
    (newSecret ibmEntitlementName destNamespace secretData .dockerConfigJson)
    [(dataKey, payload)] writable (by simpa using isMap)
  rw [ibmPullSecret, mergeDockerSecrets_of_isDocker docker, single]
  exact absorbs

/-- Only such secrets are accepted. -/
theorem isMap_of_accepted
    {merged : Secret}
    (single : extraPullSecret.data = [(dataKey, payload)])
    (writable : (payloadOf secretData).isConfiguration = true)
    (accepted : ibmPullSecret (some extraPullSecret) secretData destNamespace = .ok merged) :
    extraPullSecret.type.isDocker = true ∧ payload.isMap = true := by
  rw [ibmPullSecret] at accepted
  cases docker : extraPullSecret.type.isDocker with
  | false =>
      rw [mergeDockerSecrets_of_not_isDocker docker] at accepted
      cases accepted
  | true =>
      refine ⟨rfl, ?_⟩
      cases isMap : payload.isMap with
      | true => rfl
      | false =>
          obtain ⟨message, fails⟩ := @foldlM_mergePayload_fails
            (newSecret ibmEntitlementName destNamespace secretData .dockerConfigJson)
            [(dataKey, payload)] writable ⟨_, List.mem_singleton_self _, isMap⟩
          rw [mergeDockerSecrets_of_isDocker docker, single] at accepted
          cases fails.symm.trans accepted

/-- The data is as it was, or the payload has been merged into it: merging it once more
ends with the given payload. -/
structure MergesTo (payload merged : Payload) (secretData : Entries String Payload) :
    Prop where
  writable : (payloadOf secretData).isConfiguration = true
  ordered : Ordered (payloadOf secretData).fields
  merges : .json (.object ((normalizedFields payload.fields).foldr mergeField
    (payloadOf secretData).fields)) = merged

/-- A round keeps this. -/
theorem MergesTo.absorb
    {merged : Payload} (good : MergesTo payload merged secretData) :
    let secret := (newSecret ibmEntitlementName destNamespace secretData
      .dockerConfigJson).absorb payload
    MergesTo payload merged secret.data ∧ secret.payload = merged := by
  have absorbed := payload_absorb
    (newSecret ibmEntitlementName destNamespace secretData .dockerConfigJson) payload
  have data : payloadOf ((newSecret ibmEntitlementName destNamespace secretData
      .dockerConfigJson).absorb payload).data =
        .json (.object ((normalizedFields payload.fields).foldr mergeField
          (payloadOf secretData).fields)) := absorbed
  refine ⟨⟨?_, ?_, ?_⟩, absorbed.trans good.merges⟩
  · rw [data]
    rfl
  · rw [data]
    exact ordered_mergeFields good.ordered _
  · rw [data, ← good.merges]
    exact congrArg (fun fields => Payload.json (.object fields))
      (mergeFields_idempotent good.ordered (isSome_auths_normalizedFields _))

/-- The data of the entitlement can be merged into. -/
theorem mergesTo_entitlementData
    {secret : List UInt8} {merged : Secret}
    (single : extraPullSecret.data = [(dataKey, payload)])
    (accepted : ibmPullSecret (some extraPullSecret) (entitlementData secret) destNamespace =
      .ok merged) :
    MergesTo payload merged.payload (entitlementData secret) := by
  obtain ⟨docker, isMap⟩ := isMap_of_accepted single rfl accepted
  rw [ibmPullSecret_of_isMap docker single isMap rfl, Except.ok.injEq] at accepted
  refine ⟨rfl, ⟨List.pairwise_singleton _ _, List.pairwise_singleton _ _⟩, ?_⟩
  rw [← accepted]
  exact (payload_absorb (newSecret ibmEntitlementName destNamespace (entitlementData secret)
    .dockerConfigJson) payload).symm

end Merges

/-! ## Where nothing goes wrong -/

/-- The preparation, while no call goes wrong. -/
abbrev nothingFails : Contract depotServer := @Api.unfailing moduleApi Depot Depot.answer

theorem ensures_send
    {depot : Depot} (request : ModuleRequest)
    (post : Except Failure request.Yield → Depot → Prop) :
    Fallible.Ensures nothingFails (send request) post depot ↔
      post (depot.answer request).2 (depot.answer request).1 :=
  @Api.ensures_ask_unfailing moduleApi Depot Depot.answer request post depot

/-- A secret that was not read from the API server is written. -/
theorem ensures_createOrUpdateSecret_succeeds
    {secret : Secret} {depot : Depot} (unversioned : secret.metadata.resourceVersion = 0) :
    Fallible.Ensures nothingFails (createOrUpdateResource .secret secret mutateSecret)
      (fun result _ => result = .ok ()) depot := by
  rw [createOrUpdateResource, ensures_bind, getExisting, ensures_bind, ensures_attempt]
  refine (ensures_send (.get .secret secret.metadata.key) _).mpr ?_
  dsimp only [Depot.answer]
  cases found : depot.find? .secret secret.metadata.key with
  | none =>
      change Fallible.Ensures _ (Fallible.mapError _ _) _ _
      rw [ensures_mapError, createOrUpdate, ensures_bind, ensures_attempt]
      refine (ensures_send (.get .secret secret.metadata.key) _).mpr ?_
      dsimp only [Depot.answer]
      rw [found]
      refine (ensures_send (.create .secret (mutateSecret secret secret)) _).mpr ?_
      have created : (depot.create .secret (mutateSecret secret secret)).2 = .ok () := by
        have new : ¬(Kind.secret.metadata (mutateSecret secret secret)).resourceVersion ≠ 0 :=
          not_not.mpr unversioned
        have absent : depot.find? .secret (Kind.secret.key (mutateSecret secret secret)) =
            none := found
        rw [Depot.create, if_neg new, absent]
      change Except.mapError _ (depot.create .secret (mutateSecret secret secret)).2 = .ok ()
      rw [created]
      rfl
  | some existing =>
      have isKey : existing.metadata.key = secret.metadata.key :=
        (Registry.find?_eq_some found).2
      change Fallible.Ensures _ (Fallible.mapError _ _) _ _
      rw [ensures_mapError, createOrUpdate, ensures_bind, ensures_attempt]
      refine (ensures_send (.get .secret existing.metadata.key) _).mpr ?_
      dsimp only [Depot.answer]
      rw [isKey, found]
      change Fallible.Ensures _ (if _ then _ else _) _ _
      rw [ensures_ite]
      refine ⟨fun _ => rfl, fun _ => ?_⟩
      refine (ensures_send (.update .secret (mutateSecret existing secret)) _).mpr ?_
      have updated : (depot.update .secret (mutateSecret existing secret)).2 = .ok () := by
        have stored : depot.find? .secret (Kind.secret.key (mutateSecret existing secret)) =
            some existing := by
          rw [← isKey] at found
          exact found
        have current : ¬(Kind.secret.metadata existing).resourceVersion ≠
            (Kind.secret.metadata (mutateSecret existing secret)).resourceVersion :=
          not_not.mpr rfl
        rw [Depot.update, stored]
        dsimp only
        rw [if_neg current]
      change Except.mapError _ (depot.update .secret (mutateSecret existing secret)).2 = .ok ()
      rw [updated]
      rfl

/-- Without an extra secret, the secrets of all namespaces are written. -/
theorem ensures_updatePullSecrets_succeeds
    {secretData : Entries String Payload} {depot : Depot} (destNamespaces : List String) :
    Fallible.Ensures nothingFails (updatePullSecrets none secretData destNamespaces)
      (fun result _ => result = .ok ()) depot := by
  induction destNamespaces generalizing depot with
  | nil => rfl
  | cons destNamespace rest inductionHypothesis =>
      rw [updatePullSecrets, ensures_bind, ensures_mapError]
      change Fallible.Ensures _ (_ >>= _) _ _
      rw [ensures_bind, ensures_mapError]
      refine (ensures_createOrUpdateSecret_succeeds rfl).mono fun result final succeeded => ?_
      rw [succeeded]
      exact inductionHypothesis

/-! ## The same secret everywhere -/

/-- If the update succeeds, the secrets of all namespaces have the payload. -/
def SameEverywhere
    (secret : List UInt8) (ns : String) (choices : Nat → Fault) (depot : Depot)
    (payload : Payload) : Prop :=
  let outcome := (updateEntitlementPullSecrets secret ns).run.run depotServer choices depot
  outcome.value = .ok () →
    ∀ destNamespace ∈ ibmEntitlementSecrets ns, Entitled outcome.state destNamespace payload

section Runs

variable {depot : Depot} {choices : Nat → Fault} {ns : String} {secret : List UInt8}

/-- An update goes on with the extra secret that it finds. -/
theorem leadsTo_updateEntitlementPullSecrets
    (post : Except Failure Unit → Depot → (Nat → Fault) → Prop) :
    LeadsTo (S := depotServer) (updateEntitlementPullSecrets secret ns) choices post depot ↔
      LeadsTo (S := depotServer)
        (updatePullSecrets
          (if choices 0 = .none then depot.find? .secret ⟨ns, extraFusionPullSecretName⟩
            else none)
          (entitlementData secret) (ibmEntitlementSecrets ns))
        (rest choices) post depot := by
  rw [updateEntitlementPullSecrets, leadsTo_bind, getExtraPullSecret, leadsTo_bind,
    leadsTo_attempt]
  refine (Api.leadsTo_ask _ depot).trans ?_
  cases fault : choices 0 with
  | refused refusal message => exact Iff.rfl
  | lost message => exact Iff.rfl
  | none =>
      rw [if_pos rfl]
      have served : depotServer.serve .none depot
          (.get .secret ⟨ns, extraFusionPullSecretName⟩) =
            depot.answer (.get .secret ⟨ns, extraFusionPullSecretName⟩) := rfl
      rw [served]
      dsimp only [Depot.answer]
      cases depot.find? .secret ⟨ns, extraFusionPullSecretName⟩ <;> exact Iff.rfl

variable {extraPullSecret merged : Secret} {dataKey : String} {payload : Payload}

/-- If the extra secret is read, all secrets have the merged payload. -/
theorem sameEverywhere_of_read
    (stored : depot.find? .secret ⟨ns, extraFusionPullSecretName⟩ = some extraPullSecret)
    (single : extraPullSecret.data = [(dataKey, payload)])
    (accepted : ibmPullSecret (some extraPullSecret) (entitlementData secret) ns = .ok merged)
    (isRead : choices 0 = .none) :
    SameEverywhere secret ns choices depot merged.payload := by
  obtain ⟨docker, isMap⟩ := isMap_of_accepted single rfl accepted
  have rounds : ∀ secretData destNamespace secret,
      MergesTo payload merged.payload secretData →
        ibmPullSecret (some extraPullSecret) secretData destNamespace = .ok secret →
          MergesTo payload merged.payload secret.data ∧ secret.payload = merged.payload := by
    intro secretData destNamespace secret good merges
    rw [ibmPullSecret_of_isMap docker single isMap good.writable, Except.ok.injEq] at merges
    rw [← merges]
    exact good.absorb
  have all := @Program.LeadsTo.of_ensures _ depotServer _ (rest choices) _ _ _ _
    (@ensures_updatePullSecrets depot _ _ (ibmEntitlementSecrets ns) _ _
      (mergesTo_entitlementData single accepted) rounds)
  have run := (@leadsTo_updateEntitlementPullSecrets depot choices ns secret
    (fun result final _ => result = .ok () → ∀ destNamespace ∈ ibmEntitlementSecrets ns,
      Entitled final destNamespace merged.payload)).mpr
  rw [if_pos isRead, stored] at run
  exact run fun succeeded => (all succeeded).1

/-- If it is not read, they have the payload of the entitlement. -/
theorem sameEverywhere_of_unread (unread : choices 0 ≠ .none) :
    SameEverywhere secret ns choices depot (getDockerConfigSecretJSON secret) := by
  have rounds : ∀ (secretData : Entries String Payload) (destNamespace : String)
      (pullSecret : Secret), secretData = entitlementData secret →
        ibmPullSecret none secretData destNamespace = .ok pullSecret →
          pullSecret.data = entitlementData secret ∧
            pullSecret.payload = getDockerConfigSecretJSON secret := by
    rintro secretData destNamespace pullSecret rfl merges
    cases merges
    exact ⟨rfl, rfl⟩
  have all := @Program.LeadsTo.of_ensures _ depotServer _ (rest choices) _ _ _ _
    (@ensures_updatePullSecrets depot none _ (ibmEntitlementSecrets ns)
      (fun secretData => secretData = entitlementData secret) _ rfl rounds)
  have run := (@leadsTo_updateEntitlementPullSecrets depot choices ns secret
    (fun result final _ => result = .ok () → ∀ destNamespace ∈ ibmEntitlementSecrets ns,
      Entitled final destNamespace (getDockerConfigSecretJSON secret))).mpr
  rw [if_neg unread] at run
  exact run fun succeeded => (all succeeded).1

/-- The update succeeds although the extra secret is not read. -/
theorem succeeds_of_unread (unread : choices 0 ≠ .none) (calm : rest choices = fun _ => .none) :
    ((updateEntitlementPullSecrets secret ns).run.run depotServer choices depot).value =
      .ok () := by
  have written := @Api.run_of_ensures_unfailing moduleApi Depot Depot.answer _ _ _ _
    (@ensures_updatePullSecrets_succeeds (entitlementData secret) depot
      (ibmEntitlementSecrets ns))
  have run := (@leadsTo_updateEntitlementPullSecrets depot choices ns secret
    (fun result _ _ => result = .ok ())).mpr
  rw [if_neg unread, calm] at run
  exact run written

/-- With an extra secret that can be merged, all namespaces get the merged secret whatever
happens to the later calls, just if the extra secret is read or makes no difference. -/
theorem same_entitlement_everywhere_iff
    (stored : depot.find? .secret ⟨ns, extraFusionPullSecretName⟩ = some extraPullSecret)
    (single : extraPullSecret.data = [(dataKey, payload)])
    (accepted : mergeDockerSecrets (some (newSecret ibmEntitlementName ns
      (entitlementData secret) .dockerConfigJson)) (some extraPullSecret) = .ok merged)
    (fault : Fault) :
    (∀ choices : Nat → Fault, choices 0 = fault →
        SameEverywhere secret ns choices depot merged.payload) ↔
      fault = .none ∨ merged.payload = getDockerConfigSecretJSON secret := by
  constructor
  · intro same
    by_cases isRead : fault = .none
    · exact Or.inl isRead
    · right
      let choices : Nat → Fault := fun index => if index = 0 then fault else .none
      have unread : choices 0 ≠ .none := isRead
      have succeeded := @succeeds_of_unread depot choices ns secret unread rfl
      have here : ns ∈ ibmEntitlementSecrets ns := List.mem_cons_self
      obtain ⟨first, foundFirst, hasMerged⟩ := same choices rfl succeeded ns here
      obtain ⟨second, foundSecond, hasOwn⟩ :=
        @sameEverywhere_of_unread depot choices ns secret unread succeeded ns here
      rw [foundFirst, Option.some.injEq] at foundSecond
      rw [← hasMerged, foundSecond, hasOwn]
  · rintro condition choices rfl
    by_cases isRead : choices 0 = .none
    · exact sameEverywhere_of_read stored single accepted isRead
    · rw [condition.resolve_left isRead]
      exact sameEverywhere_of_unread isRead

end Runs

/-! ## An extra secret that cannot be read -/

/-- Credentials for a further registry. -/
def extraCredentials : Payload :=
  .json (.object [("auths", .object [("quay.io", basicAuth "dXNlcjpwYXNz")])])

/-- The extra secret with these credentials. -/
def extraSecret : Secret where
  metadata := { name := extraFusionPullSecretName, ns := deploymentNamespace }
  type := .dockerConfigJson
  data := [(".dockerconfigjson", extraCredentials)]

/-- The extra secret is all that is stored. -/
def depotWithExtra : Depot where
  objects
    | .secret => [extraSecret]
    | .configMap => []
    | .module => []

/-- The pull secret of an entitlement key with the extra credentials. -/
def mergedEntitlement (key : List UInt8) : Secret :=
  (newSecret ibmEntitlementName deploymentNamespace (entitlementData key)
    .dockerConfigJson).absorb extraCredentials

theorem mergeDockerSecrets_extraSecret (key : List UInt8) :
    mergeDockerSecrets (some (newSecret ibmEntitlementName deploymentNamespace
        (entitlementData key) .dockerConfigJson)) (some extraSecret) =
      .ok (mergedEntitlement key) :=
  @ibmPullSecret_of_isMap extraSecret (entitlementData key) ".dockerconfigjson"
    deploymentNamespace extraCredentials rfl rfl rfl rfl

theorem same_entitlement_everywhere_iff_quay :
    SameEverywhere [107, 101, 121] deploymentNamespace (fun _ => .none) depotWithExtra
      (mergedEntitlement [107, 101, 121]).payload :=
  (same_entitlement_everywhere_iff rfl rfl (mergeDockerSecrets_extraSecret _) .none).mpr
    (Or.inl rfl) _ rfl

/-- Only the first call goes wrong. -/
def firstReplyLost (index : Nat) : Fault :=
  if index = 0 then .lost "context deadline exceeded" else .none

/-- The extra secret is stored, but reading it times out: the update succeeds without the
extra credentials. -/
theorem extra_secret_dropped :
    mergeDockerSecrets (some (newSecret ibmEntitlementName deploymentNamespace
        (entitlementData [107, 101, 121]) .dockerConfigJson)) (some extraSecret) =
      .ok (mergedEntitlement [107, 101, 121]) ∧
    ¬SameEverywhere [107, 101, 121] deploymentNamespace firstReplyLost depotWithExtra
      (mergedEntitlement [107, 101, 121]).payload := by
  refine ⟨mergeDockerSecrets_extraSecret _, fun same => ?_⟩
  have unread : firstReplyLost 0 ≠ .none := by decide
  have succeeded := @succeeds_of_unread depotWithExtra firstReplyLost deploymentNamespace
    [107, 101, 121] unread rfl
  have here : deploymentNamespace ∈ ibmEntitlementSecrets deploymentNamespace :=
    List.mem_cons_self
  obtain ⟨first, foundFirst, hasMerged⟩ := same succeeded deploymentNamespace here
  obtain ⟨second, foundSecond, hasOwn⟩ := @sameEverywhere_of_unread depotWithExtra
    firstReplyLost deploymentNamespace [107, 101, 121] unread succeeded deploymentNamespace here
  rw [foundFirst, Option.some.injEq] at foundSecond
  rw [foundSecond, hasOwn] at hasMerged
  have listed := congrArg (fun payload : Payload => (auths payload.fields).get? "quay.io")
    hasMerged
  have own : (auths (getDockerConfigSecretJSON [107, 101, 121]).fields).get? "quay.io" =
      none := rfl
  have extra : (auths (mergedEntitlement [107, 101, 121]).payload.fields).get? "quay.io" =
      some (basicAuth "dXNlcjpwYXNz") := rfl
  cases own.symm.trans (listed.trans extra)

end Installation
