import KnativeMesh.Provider

/-!
# Providers from the configuration

Every section below catalog.providers.knativeEventMesh configures one provider,
and the key of the section becomes part of the provider's name. Configurations
and schedules belong to libraries and are known by what they return. A provider
runs on the task runner that it was given or on one made from its own schedule.
-/

namespace KnativeMesh.ProviderConfig

open Go (bind_eq_ok)
open Provider (KnativeEventMeshProvider)

/-- Config of the config library, as far as it is used. Texts and sections are
read by key, and an error comes with its message. -/
inductive Config where
  | mk (has : String → Bool) (keys : List String) (getString : String → Except String String)
    (getConfig : String → Except String Config)
    (getOptionalConfig : String → Except String (Option Config))

namespace Config

/-- config.has. -/
def has : Config → String → Bool
  | mk has _ _ _ _ => has

/-- config.keys. -/
def keys : Config → List String
  | mk _ keys _ _ _ => keys

/-- config.getString, which throws where the text is missing. -/
def getString : Config → String → Except String String
  | mk _ _ getString _ _ => getString

/-- config.getConfig. -/
def getConfig : Config → String → Except String Config
  | mk _ _ _ getConfig _ => getConfig

/-- config.getOptionalConfig. -/
def getOptionalConfig : Config → String → Except String (Option Config)
  | mk _ _ _ _ getOptionalConfig => getOptionalConfig

end Config

/-- KnativeEventMeshProviderConfig; the type of schedules is the library's. -/
structure KnativeEventMeshProviderConfig (S : Type) where
  id : String
  baseUrl : String
  schedule : Option S
  token : String

/-- Where the runs of a provider are scheduled. -/
inductive TaskRunner (S : Type) where
  /-- The runner of the options. -/
  | schedule
  /-- A runner that the scheduler of the options creates. -/
  | scheduled (schedule : S)
  deriving DecidableEq

/-- Which of the two optional schedulers fromConfig was called with. -/
structure Options where
  schedule : Bool
  scheduler : Bool

/-- A provider with the runner of its task. -/
structure ScheduledProvider (S : Type) where
  provider : KnativeEventMeshProvider
  taskRunner : TaskRunner S

/-- Where the sections of the providers are. -/
def providersPath : String := "catalog.providers.knativeEventMesh"

section Code

variable {S : Type} (readTaskScheduleDefinitionFromConfig : Config → Except String S)

/-- Read one provider section. -/
def readKnativeEventMeshProviderConfig (id : String) (config : Config) :
    Except String (KnativeEventMeshProviderConfig S) := do
  let baseUrl ← config.getString "baseUrl"
  let token ← config.getString "token"
  if config.has "schedule" then
    let section' ← config.getConfig "schedule"
    let schedule ← readTaskScheduleDefinitionFromConfig section'
    .ok ⟨id,baseUrl,some schedule,token⟩
  else .ok ⟨id,baseUrl,none,token⟩

/-- Read all provider sections; without any there are no providers. -/
def readKnativeEventMeshProviderConfigs (config : Config) :
    Except String (List (KnativeEventMeshProviderConfig S)) := do
  match ← config.getOptionalConfig providersPath with
  | none => .ok []
  | some providerConfigs =>
    providerConfigs.keys.mapM fun id => do
      let config ← providerConfigs.getConfig id
      readKnativeEventMeshProviderConfig readTaskScheduleDefinitionFromConfig id config

/-- The provider of one section, on the runner that is chosen for it. -/
def providerOf (options : Options) (providerConfig : KnativeEventMeshProviderConfig S) :
    Except String (ScheduledProvider S) :=
  let provider : KnativeEventMeshProvider :=
    ⟨providerConfig.id,providerConfig.baseUrl,some providerConfig.token⟩
  match providerConfig.schedule with
  | none =>
    if options.schedule then .ok ⟨provider,.schedule⟩
    else .error ("No schedule provided neither via code nor config for KnativeEventMesh entity provider:"++
      providerConfig.id++".")
  | some schedule =>
    if options.scheduler then .ok ⟨provider,.scheduled schedule⟩
    else if options.schedule then .ok ⟨provider,.schedule⟩
    else .error "Neither schedule nor scheduler is provided."

/-- KnativeEventMeshProvider.fromConfig. -/
def fromConfig (configRoot : Config) (options : Options) :
    Except String (List (ScheduledProvider S)) := do
  let providerConfigs ←
    readKnativeEventMeshProviderConfigs readTaskScheduleDefinitionFromConfig configRoot
  -- a config that is returned is not undefined, so only a throw has an effect
  let _ ← configRoot.getConfig "token"
  if options.schedule=false ∧ options.scheduler=false then
    .error "Either schedule or scheduler must be provided."
  else providerConfigs.mapM (providerOf options)

/-- The id of the task that a provider schedules. -/
def taskId (provider : KnativeEventMeshProvider) : String := provider.getProviderName++":run"

end Code

section Throwing

variable {ε α β : Type}

/-- A loop returns exactly when each of its steps does, with what these return. -/
theorem mapM_eq_ok_iff {f : α → Except ε β} {xs : List α} {ys : List β} :
    xs.mapM f=.ok ys ↔ List.Forall₂ (fun x y => f x=.ok y) xs ys := by
  induction xs generalizing ys with
  | nil =>
    rw [List.mapM_nil,List.forall₂_nil_left_iff]
    exact ⟨fun h => (Except.ok.inj h).symm,fun h => congrArg Except.ok h.symm⟩
  | cons x xs ih =>
    rw [List.mapM_cons,bind_eq_ok]
    constructor
    · intro hp
      rcases hp with ⟨y,hy,hrest⟩
      have hlater := bind_eq_ok.mp hrest
      rcases hlater with ⟨later,hlater,hvalue⟩
      cases hvalue
      exact .cons hy (ih.mp hlater)
    · intro hp
      cases hp with
      | cons hy hrest => exact ⟨_,hy,bind_eq_ok.mpr ⟨_,ih.mpr hrest,rfl⟩⟩

/-- Two relations one after the other, element by element. -/
theorem forall₂_comp_iff {γ : Type} {R : α → β → Prop} {S : β → γ → Prop} {xs : List α}
    {zs : List γ} : (∃ ys, List.Forall₂ R xs ys ∧ List.Forall₂ S ys zs) ↔
      List.Forall₂ (fun x z => ∃ y, R x y ∧ S y z) xs zs := by
  constructor
  · intro hp
    rcases hp with ⟨ys,hR,hS⟩
    induction hR generalizing zs with
    | nil =>
      cases hS
      exact .nil
    | cons hxy _ ih =>
      cases hS with
      | cons hyz hrest => exact .cons ⟨_,hxy,hyz⟩ (ih hrest)
  · intro h
    induction h with
    | nil => exact ⟨[],.nil,.nil⟩
    | cons hxz _ ih =>
      rcases hxz with ⟨y,hxy,hyz⟩
      rcases ih with ⟨ys,hR,hS⟩
      exact ⟨y::ys,.cons hxy hR,.cons hyz hS⟩

end Throwing

section Sections

variable {S : Type} {readTaskScheduleDefinitionFromConfig : Config → Except String S}

/-- A provider is the one that a section configures: it has the address and the
token of the section, and runs on its schedule if there is one and a scheduler
for it, or else on the runner of the options. -/
structure Configures (readTaskScheduleDefinitionFromConfig : Config → Except String S)
    (options : Options) (id : String) (config : Config) (scheduled : ScheduledProvider S) : Prop where
  env : scheduled.provider.env=id
  baseUrl : config.getString "baseUrl"=.ok scheduled.provider.baseUrl
  token : ∃ token, config.getString "token"=.ok token ∧ scheduled.provider.token=some token
  unscheduled : config.has "schedule"=false →
    options.schedule=true ∧ scheduled.taskRunner=.schedule
  scheduled : config.has "schedule"=true → ∃ section' schedule,
    config.getConfig "schedule"=.ok section' ∧
      readTaskScheduleDefinitionFromConfig section'=.ok schedule ∧
      scheduled.taskRunner=if options.scheduler then .scheduled schedule else .schedule

/-- The provider of a section that can be read, if a schedule or a scheduler is
given, is the one that the section configures. -/
theorem providerOf_eq_ok_iff {options : Options} (hoptions : options.schedule=true ∨ options.scheduler=true)
    (id : String) (config : Config) (scheduled : ScheduledProvider S) :
    (∃ providerConfig,
      readKnativeEventMeshProviderConfig readTaskScheduleDefinitionFromConfig id config=
        .ok providerConfig ∧ providerOf options providerConfig=.ok scheduled) ↔
      Configures readTaskScheduleDefinitionFromConfig options id config scheduled := by
  constructor
  · intro hp
    rcases hp with ⟨providerConfig,hread,hprovider⟩
    have hbaseUrl := bind_eq_ok.mp hread
    rcases hbaseUrl with ⟨baseUrl,hbaseUrl,hread⟩
    have htoken := bind_eq_ok.mp hread
    rcases htoken with ⟨token,htoken,hread⟩
    cases hhas : config.has "schedule" with
    | false =>
      rw [hhas] at hread
      cases hread
      dsimp only [providerOf] at hprovider
      split at hprovider
      · next hschedule =>
        cases hprovider
        exact ⟨rfl,hbaseUrl,⟨token,htoken,rfl⟩,fun _ => ⟨hschedule,rfl⟩,fun h => absurd (hhas.symm.trans h) nofun⟩
      · cases hprovider
    | true =>
      rw [hhas,if_pos rfl] at hread
      have hsection := bind_eq_ok.mp hread
      rcases hsection with ⟨section',hsection,hread⟩
      have hschedule := bind_eq_ok.mp hread
      rcases hschedule with ⟨schedule,hschedule,hread⟩
      cases hread
      have hnone : config.has "schedule"=false → options.schedule=true ∧ scheduled.taskRunner=.schedule :=
        fun h => absurd (hhas.symm.trans h) nofun
      dsimp only [providerOf] at hprovider
      by_cases hscheduler : options.scheduler=true
      · rw [if_pos hscheduler] at hprovider
        cases hprovider
        refine ⟨rfl,hbaseUrl,⟨token,htoken,rfl⟩,hnone,fun _ => ⟨section',schedule,hsection,hschedule,?_⟩⟩
        rw [if_pos hscheduler]
      · rw [if_neg hscheduler,if_pos (hoptions.resolve_right hscheduler)] at hprovider
        cases hprovider
        refine ⟨rfl,hbaseUrl,⟨token,htoken,rfl⟩,hnone,fun _ => ⟨section',schedule,hsection,hschedule,?_⟩⟩
        rw [if_neg hscheduler]
  · intro h
    rcases scheduled with ⟨⟨env,baseUrl,ownToken⟩,taskRunner⟩
    have henv : env=id := h.env
    have htoken := h.token
    rcases htoken with ⟨token,htoken,hown⟩
    dsimp only at hown
    subst henv hown
    cases hhas : config.has "schedule" with
    | false =>
      have hrunner := h.unscheduled hhas
      refine ⟨⟨env,baseUrl,none,token⟩,bind_eq_ok.mpr ⟨baseUrl,h.baseUrl,bind_eq_ok.mpr ⟨token,htoken,?_⟩⟩,?_⟩
      · rw [hhas]
        rfl
      · dsimp only [providerOf]
        rw [if_pos hrunner.1,←hrunner.2]
    | true =>
      have hsection := h.scheduled hhas
      rcases hsection with ⟨section',schedule,hsection,hschedule,hrunner⟩
      refine ⟨⟨env,baseUrl,some schedule,token⟩,bind_eq_ok.mpr ⟨baseUrl,h.baseUrl,bind_eq_ok.mpr ⟨token,htoken,?_⟩⟩,?_⟩
      · rw [hhas,if_pos rfl]
        exact bind_eq_ok.mpr ⟨section',hsection,bind_eq_ok.mpr ⟨schedule,hschedule,rfl⟩⟩
      · dsimp only at hrunner
        dsimp only [providerOf]
        rw [hrunner]
        by_cases hscheduler : options.scheduler=true
        · rw [if_pos hscheduler,if_pos hscheduler]
        · rw [if_neg hscheduler,if_neg hscheduler,if_pos (hoptions.resolve_right hscheduler)]

/-- The provider that a key of the providers' section configures. -/
def ConfiguresKey (readTaskScheduleDefinitionFromConfig : Config → Except String S)
    (options : Options) (providerConfigs : Config) (id : String) (scheduled : ScheduledProvider S) :
    Prop :=
  ∃ config, providerConfigs.getConfig id=.ok config ∧
    Configures readTaskScheduleDefinitionFromConfig options id config scheduled

/-- The providers that the root's section for them configures. -/
def ConfiguresAll (readTaskScheduleDefinitionFromConfig : Config → Except String S)
    (options : Options) (configRoot : Config) (providers : List (ScheduledProvider S)) : Prop :=
  configRoot.getOptionalConfig providersPath=.ok none ∧ providers=[] ∨
    ∃ providerConfigs, configRoot.getOptionalConfig providersPath=.ok (some providerConfigs) ∧
      List.Forall₂ (ConfiguresKey readTaskScheduleDefinitionFromConfig options providerConfigs)
        providerConfigs.keys providers

/-- The guard of fromConfig lets pass where a schedule or a scheduler is given. -/
theorem given_iff (options : Options) : ¬ (options.schedule=false ∧ options.scheduler=false) ↔
    options.schedule=true ∨ options.scheduler=true := by
  cases options.schedule <;> cases options.scheduler <;> decide

/-- Providers that fromConfig returns are configured. -/
theorem configures_of_fromConfig {configRoot : Config} {options : Options}
    {providers : List (ScheduledProvider S)}
    (h : fromConfig readTaskScheduleDefinitionFromConfig configRoot options=.ok providers) :
    (options.schedule=true ∨ options.scheduler=true) ∧
      (∃ token, configRoot.getConfig "token"=.ok token) ∧
      ConfiguresAll readTaskScheduleDefinitionFromConfig options configRoot providers := by
  dsimp only [fromConfig,readKnativeEventMeshProviderConfigs] at h
  have hconfigs := bind_eq_ok.mp h
  rcases hconfigs with ⟨configs,hread,hp⟩
  have htoken := bind_eq_ok.mp hp
  rcases htoken with ⟨token,htoken,hp⟩
  by_cases hnone : options.schedule=false ∧ options.scheduler=false
  · rw [if_pos hnone] at hp
    cases hp
  · rw [if_neg hnone] at hp
    have hgiven := (given_iff options).mp hnone
    have hproviders := mapM_eq_ok_iff.mp hp
    refine ⟨hgiven,⟨token,htoken⟩,?_⟩
    have hsection := bind_eq_ok.mp hread
    rcases hsection with ⟨providerConfigs,hsection,hread⟩
    cases providerConfigs with
    | none =>
      cases hread
      cases hproviders
      exact .inl ⟨hsection,rfl⟩
    | some providerConfigs =>
      have hconfigs := mapM_eq_ok_iff.mp hread
      have hboth := forall₂_comp_iff.mp ⟨configs,hconfigs,hproviders⟩
      refine .inr ⟨providerConfigs,hsection,hboth.imp fun id scheduled hid => ?_⟩
      rcases hid with ⟨providerConfig,hconfig,hprovider⟩
      have hfound := bind_eq_ok.mp hconfig
      rcases hfound with ⟨config,hconfig,hread⟩
      exact ⟨config,hconfig,(providerOf_eq_ok_iff hgiven id config scheduled).mp
        ⟨providerConfig,hread,hprovider⟩⟩

/-- Providers that are configured are returned by fromConfig. -/
theorem fromConfig_of_configures {configRoot : Config} {options : Options}
    {providers : List (ScheduledProvider S)}
    (hgiven : options.schedule=true ∨ options.scheduler=true)
    (htoken : ∃ token, configRoot.getConfig "token"=.ok token)
    (hall : ConfiguresAll readTaskScheduleDefinitionFromConfig options configRoot providers) :
    fromConfig readTaskScheduleDefinitionFromConfig configRoot options=.ok providers := by
  have hnone := (given_iff options).mpr hgiven
  rcases htoken with ⟨token,htoken⟩
  dsimp only [fromConfig,readKnativeEventMeshProviderConfigs]
  rw [bind_eq_ok]
  rcases hall with ⟨hsection,rfl⟩ | ⟨providerConfigs,hsection,hall⟩
  · refine ⟨[],bind_eq_ok.mpr ⟨none,hsection,rfl⟩,bind_eq_ok.mpr ⟨token,htoken,?_⟩⟩
    rw [if_neg hnone]
    rfl
  · have hboth : List.Forall₂ (fun id scheduled => ∃ providerConfig,
        (providerConfigs.getConfig id >>= fun config =>
          readKnativeEventMeshProviderConfig readTaskScheduleDefinitionFromConfig id config)=
            .ok providerConfig ∧ providerOf options providerConfig=.ok scheduled)
        providerConfigs.keys providers := by
      refine hall.imp fun id scheduled hid => ?_
      rcases hid with ⟨config,hconfig,hconfigures⟩
      have hread := (providerOf_eq_ok_iff hgiven id config scheduled).mpr hconfigures
      rcases hread with ⟨providerConfig,hread,hprovider⟩
      exact ⟨providerConfig,bind_eq_ok.mpr ⟨config,hconfig,hread⟩,hprovider⟩
    have hconfigs := forall₂_comp_iff.mpr hboth
    rcases hconfigs with ⟨configs,hconfigs,hproviders⟩
    refine ⟨configs,bind_eq_ok.mpr ⟨some providerConfigs,hsection,mapM_eq_ok_iff.mpr hconfigs⟩,
      bind_eq_ok.mpr ⟨token,htoken,?_⟩⟩
    rw [if_neg hnone]
    exact mapM_eq_ok_iff.mpr hproviders

/-- fromConfig returns providers exactly if it was given a schedule or a
scheduler and no section it reads throws, and then there is one provider for
each key of the providers' section, in the order of the keys. -/
theorem fromConfig_eq_ok_iff (configRoot : Config) (options : Options)
    (providers : List (ScheduledProvider S)) :
    fromConfig readTaskScheduleDefinitionFromConfig configRoot options=.ok providers ↔
      (options.schedule=true ∨ options.scheduler=true) ∧
      (∃ token, configRoot.getConfig "token"=.ok token) ∧
      (configRoot.getOptionalConfig providersPath=.ok none ∧ providers=[] ∨
        ∃ providerConfigs, configRoot.getOptionalConfig providersPath=.ok (some providerConfigs) ∧
          List.Forall₂ (ConfiguresKey readTaskScheduleDefinitionFromConfig options providerConfigs)
            providerConfigs.keys providers) := by
  constructor
  · exact configures_of_fromConfig
  · intro hp
    rcases hp with ⟨hgiven,htoken,hall⟩
    exact fromConfig_of_configures hgiven htoken hall

/-- The names of the providers, by their keys. -/
theorem providerNames {options : Options} {providerConfigs : Config} {keys : List String}
    {providers : List (ScheduledProvider S)} (h : List.Forall₂
      (ConfiguresKey readTaskScheduleDefinitionFromConfig options providerConfigs) keys providers) :
    providers.map (·.provider.getProviderName)=
      keys.map ("knative-event-mesh-provider-"++·) := by
  induction h with
  | nil => rfl
  | cons hid _ ih =>
    rcases hid with ⟨config,_,hconfigures⟩
    rw [List.map_cons,List.map_cons,ih]
    dsimp only [KnativeEventMeshProvider.getProviderName]
    rw [hconfigures.env]

/-- No two providers of a configuration have the same name, if the library
lists no key of a section twice. -/
theorem providerNames_nodup {configRoot : Config} {options : Options}
    {providers : List (ScheduledProvider S)}
    (h : fromConfig readTaskScheduleDefinitionFromConfig configRoot options=.ok providers)
    (hkeys : ∀ providerConfigs,
      configRoot.getOptionalConfig providersPath=.ok (some providerConfigs) →
        providerConfigs.keys.Nodup) :
    (providers.map (·.provider.getProviderName)).Nodup := by
  have hproviders := (configures_of_fromConfig h).2.2
  rcases hproviders with ⟨_,rfl⟩ | ⟨providerConfigs,hsection,hall⟩
  · exact List.nodup_nil
  · rw [providerNames hall]
    refine (hkeys providerConfigs hsection).map fun first second hsame => ?_
    rw [←String.toList_inj,String.toList_append,String.toList_append] at hsame
    exact String.toList_inj.mp (List.append_cancel_left hsame)

/-- So the scheduler keeps a task for each of them. -/
theorem taskIds_nodup {configRoot : Config} {options : Options}
    {providers : List (ScheduledProvider S)}
    (h : fromConfig readTaskScheduleDefinitionFromConfig configRoot options=.ok providers)
    (hkeys : ∀ providerConfigs,
      configRoot.getOptionalConfig providersPath=.ok (some providerConfigs) →
        providerConfigs.keys.Nodup) :
    (providers.map (taskId ·.provider)).Nodup := by
  have htasks : providers.map (taskId ·.provider)=
      (providers.map (·.provider.getProviderName)).map (·++":run") := by
    rw [List.map_map]
    rfl
  rw [htasks]
  refine (providerNames_nodup h hkeys).map fun first second hsame => ?_
  rw [←String.toList_inj,String.toList_append,String.toList_append] at hsame
  exact String.toList_inj.mp (List.append_cancel_right hsame)

end Sections

/-- A section of texts. -/
def textsConfig (texts : List (String×String)) : Config :=
  let missing := fun key => "Missing required config value at '"++key++"'"
  .mk (fun key => (texts.lookup key).isSome) (texts.map Prod.fst)
    (fun key => (texts.lookup key).elim (.error (missing key)) .ok)
    (fun key => .error (missing key)) fun _ => .ok none

/-- A section of sections. -/
def sectionsConfig (sections : List (String×Config)) : Config :=
  let missing := fun key => "Missing required config value at '"++key++"'"
  .mk (fun key => (sections.lookup key).isSome) (sections.map Prod.fst)
    (fun key => .error (missing key))
    (fun key => (sections.lookup key).elim (.error (missing key)) .ok)
    fun key => .ok (sections.lookup key)

/-- A configuration of two providers. -/
def twoProviders : Config :=
  sectionsConfig
    [(providersPath,sectionsConfig
      [("dev",textsConfig [("baseUrl","http://dev"),("token","token")]),
        ("prod",textsConfig [("baseUrl","http://prod"),("token","token")])]),
      ("token",textsConfig [])]

/-- The first provider of the configuration. -/
def firstProvider : KnativeEventMeshProvider := ⟨"dev","http://dev",some "token"⟩

/-- The second provider of the configuration. -/
def secondProvider : KnativeEventMeshProvider := ⟨"prod","http://prod",some "token"⟩

/-- What fromConfig returns for two providers that run on a given schedule. -/
def twoScheduled : List (ScheduledProvider String) :=
  [⟨firstProvider,.schedule⟩,⟨secondProvider,.schedule⟩]

/-- A config library without schedules. -/
def noSchedules (_ : Config) : Except String String := .error "Invalid schedule"

/-- Two sections are two providers. -/
theorem fromConfig_twoProviders :
    fromConfig noSchedules twoProviders ⟨true,false⟩=.ok twoScheduled := rfl

end KnativeMesh.ProviderConfig
