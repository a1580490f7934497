import KnativeMesh.ConsumerGraph
import KnativeMesh.Provenance

/-!
# From the clusters to the relations

Providers of several clusters publish to one catalog while its processor runs.
Each name in the catalog stands for one current run, the last one under the name
whose mutation took effect. The relations that come out are the consumers in the
clusters that the current runs saw, whatever runs came before, failed, or are
still waiting.
-/

namespace KnativeMesh.Pipeline

open Go Kubernetes Mesh Builder Runs Triggers Wire Endpoint Entities Sync Schedules Provenance
open Registration ClusterContents Specification Processor Consumers CatalogQueries ConsumerGraph
open Library.Register
open Provider (Entity KnativeEventMeshProvider typeKnativeEvent)

section Current

variable (lib : Libraries)

/-- The name under which a run publishes. -/
def nameOf (run : PendingRun) : String := run.provider.getProviderName

/-- A run whose mutation was the last one under its name to take effect. -/
def Current (events : List Event) (run : PendingRun) : Prop :=
  LastUnder nameOf (commits lib freshPlugin events) run

/-- The answers that the API server gives to the run of a provider. -/
def Answered (provider : KnativeEventMeshProvider) (tick : Tick) (answers : Answers) : Prop :=
  tick.server.buildAnswers (meshRequest (meshUrl provider) provider.token)=some answers

/-- A run whose mutation takes effect was started. -/
theorem started_of_mem_commits {started : List (KnativeEventMeshProvider×Tick)} {plugin : Plugin}
    (h : Traced lib started plugin) (events : List Event) :
    ∀ run ∈ commits lib plugin events, (run.provider,run.tick) ∈ started++startedRuns events := by
  induction events generalizing started plugin with
  | nil => exact fun run hrun => absurd hrun List.not_mem_nil
  | cons event events ih =>
    have hlater := ih (traced_step lib h event)
    have hsplit : startedRuns (event::events)=startedRuns [event]++startedRuns events :=
      @List.filterMap_append _ _ [event] events _
    have hhere : ∀ run ∈ (committed plugin event).toList.map Prod.fst,
        (run.provider,run.tick) ∈ started := by
      have houtcome := outcome_step lib plugin event
      generalize step lib plugin event=plugin' at houtcome
      generalize committed plugin event=commit at houtcome ⊢
      intro run hrun
      cases houtcome with
      | connected provider => exact absurd hrun List.not_mem_nil
      | ignored event => exact absurd hrun List.not_mem_nil
      | started provider tick => exact absurd hrun List.not_mem_nil
      | received hfound hpublished => exact absurd hrun List.not_mem_nil
      | dropped event hfound => exact absurd hrun List.not_mem_nil
      | resolved hfound hwaiting =>
        rw [List.mem_singleton.mp hrun]
        exact h.pending _ (List.mem_of_getElem? hfound)
    intro run hrun
    rw [hsplit,←List.append_assoc]
    rcases List.mem_append.mp hrun with hfirst | hrest
    · exact List.mem_append_left _ (List.mem_append_left _ (hhere run hfirst))
    · exact hlater run hrest

/-- A run whose mutation takes effect has published. -/
theorem published_of_mem_commits (events : List Event) :
    ∀ run ∈ commits lib freshPlugin events, published lib run.provider run.tick≠none := by
  intro run hrun
  exact (of_mem_commits lib (P := fun _ => True) (traced_freshPlugin lib).ready
    (fun pending hpending => absurd hpending List.not_mem_nil) (fun _ _ _ => trivial) run hrun).2

/-- A current run was started and has published. -/
theorem started_of_current {events : List Event} {run : PendingRun} (h : Current lib events run) :
    Event.start run.provider run.tick ∈ events ∧
      ∃ entities, published lib run.provider run.tick=some entities := by
  have hstarted := started_of_mem_commits lib (traced_freshPlugin lib) events run h.mem
  have hpublishes := published_of_mem_commits lib events run h.mem
  exact ⟨mem_startedRuns_iff.mp hstarted,Option.ne_none_iff_exists'.mp hpublishes⟩

/-- What a provider holds is the register of its name. -/
theorem held_eq_overwrite (events : List Event) (provider : KnativeEventMeshProvider) :
    held provider (runEvents lib freshPlugin events).state=
      overwrite (publishUnder nameOf (fun run => published lib run.provider run.tick)
        provider.getProviderName) [] (commits lib freshPlugin events) := by
  have hempty : held provider freshPlugin.state=[] := by
    unfold held freshPlugin
    rw [Std.ExtTreeMap.getElem?_empty,Option.getD_none]
  rw [held_runEvents lib (traced_freshPlugin lib).ready,hempty]
  rfl

/-- The catalog holds under the name of a current run what the run published. -/
theorem held_of_current {events : List Event} {run : PendingRun} (h : Current lib events run)
    {entities : List DeferredEntity} (hpublished : published lib run.provider run.tick=some entities) :
    held run.provider (runEvents lib freshPlugin events).state=entities := by
  rw [held_eq_overwrite]
  exact overwrite_of_lastUnder h hpublished []

/-- Every name under which the catalog holds an entity has a current run. -/
theorem exists_current {events : List Event} {provider : KnativeEventMeshProvider}
    {entity : DeferredEntity} (h : entity ∈ held provider (runEvents lib freshPlugin events).state) :
    ∃ run, Current lib events run ∧ run.provider.getProviderName=provider.getProviderName ∧
      ∃ entities, published lib run.provider run.tick=some entities ∧ entity ∈ entities := by
  rw [held_eq_overwrite] at h
  rcases overwrite_under_cases (published_of_mem_commits lib events) provider.getProviderName [] with
    hnone | hlast
  · rw [hnone] at h
    exact absurd h List.not_mem_nil
  · rcases hlast with ⟨run,entities,hcurrent,hname,hpublished,hheld⟩
    rw [hheld] at h
    exact ⟨run,hcurrent,hname,entities,hpublished,h⟩

end Current

/-- What a run publishes are the entities of a mesh of the cluster that it saw. -/
theorem exists_mesh_of_published {lib : Libraries} {provider : KnativeEventMeshProvider} {tick : Tick}
    {entities : List DeferredEntity} (h : published lib provider tick=some entities) :
    ∃ answers mesh decoded, Answered provider tick answers ∧ buildEventMesh lib answers=.ok mesh ∧
      decodeMesh (encodeMesh mesh)=some decoded ∧
        entities=deferred provider (provider.buildEntities decoded) := by
  have hmesh := (published_eq_some_iff lib provider tick entities).mp h
  rcases hmesh with ⟨mesh,decoded,hsucceeds,hdecoded,hentities⟩
  have hbuild := buildEventMesh_of_succeeds lib provider hsucceeds
  rcases hbuild with ⟨answers,hanswered,hbuild⟩
  exact ⟨answers,mesh,decoded,hanswered,hbuild,hdecoded,hentities⟩

/-- The event type APIs that a run publishes are those of the event types in the
cluster that it saw. -/
theorem mem_published_iff {lib : Libraries} {provider : KnativeEventMeshProvider} {tick : Tick}
    {answers : Answers} (hanswered : Answered provider tick answers) (f : Fetched lib answers)
    (ha : Admitted f) {entities : List DeferredEntity}
    (hpublished : published lib provider tick=some entities) {entity : Entity}
    {consumers : List String} (hlists : ListsConsumers entity consumers) :
    entity ∈ entities.map (·.entity) ↔
      ∃ et ∈ f.convertedEventTypes, entity=publishedApi f provider et := by
  have hmesh := exists_mesh_of_published hpublished
  rcases hmesh with ⟨answers',mesh,decoded,hanswered',hbuild,hdecoded,rfl⟩
  have hsame : answers'=answers := Option.some.inj (hanswered'.symm.trans hanswered)
  subst hsame
  have hbuilt : (deferred provider (provider.buildEntities decoded)).map (·.entity)=
      provider.buildEntities decoded := by
    unfold deferred
    rw [List.map_map]
    exact List.map_id _
  rw [hbuilt]
  exact mem_buildEntities_iff f provider ha hbuild hdecoded hlists

/-- A provider holds the API of an event type, with a list of consumers. -/
def HoldsApi (state : Sync.State) (provider : KnativeEventMeshProvider) (entity : Entity) : Prop :=
  (∃ consumers, ListsConsumers entity consumers) ∧ entity ∈ (held provider state).map (·.entity)

/-- A queue of entities as the catalog has it processed: the APIs of event types
in it are held by providers, and for each that a provider holds there is one with
the same triple of kind, namespace and name. -/
structure Queued (state : Sync.State) (queue : List Entity) : Prop where
  held : ∀ entity ∈ queue, ∀ consumers, ListsConsumers entity consumers →
    ∃ provider, HoldsApi state provider entity
  kept : ∀ provider entity, HoldsApi state provider entity →
    ∃ other ∈ queue, (∃ provider', HoldsApi state provider' other) ∧ entityKey other=entityKey entity

/-- No triple of kind, namespace and name stands for two different APIs of event
types. The provider does not see to that: the triples of two clusters may
coincide, and then the catalog keeps one of the two entities only. -/
def TriplesApart (state : Sync.State) : Prop :=
  ∀ provider provider' entity entity', HoldsApi state provider entity →
    HoldsApi state provider' entity' → entityKey entity=entityKey entity' → entity=entity'

/-- Where triples are apart, the queue is made of the APIs that are held. -/
theorem Queued.mem_iff {state : Sync.State} {queue : List Entity} (h : Queued state queue)
    (hapart : TriplesApart state) {entity : Entity} {consumers : List String}
    (hlists : ListsConsumers entity consumers) :
    entity ∈ queue ↔ ∃ provider, entity ∈ (Sync.held provider state).map (·.entity) := by
  constructor
  · intro hmem
    obtain ⟨provider,hholds⟩ := h.held entity hmem consumers hlists
    exact ⟨provider,hholds.2⟩
  · intro hp
    rcases hp with ⟨provider,hmem⟩
    have hholds : HoldsApi state provider entity := ⟨⟨consumers,hlists⟩,hmem⟩
    obtain ⟨other,hother,⟨provider',hholds'⟩,hkey⟩ := h.kept provider entity hholds
    have hsame : other=entity := hapart provider' provider other entity hholds' hholds hkey
    rwa [←hsame]

/-- At any moment, however the runs of providers are mixed, the processing of all
entities comes to an end. The relations that come out are those between an event
type of a cluster that a current run saw and a component of the catalog that
consumes it there. -/
theorem emitAll_current (lib : Libraries) (events : List Event)
    (hadmitted : ∀ provider tick answers, Event.start provider tick ∈ events →
      Answered provider tick answers → ∀ f : Fetched lib answers, Admitted f)
    {matching : List (String×String) → Entity → Prop} (hmatching : MatchesFields matching)
    {catalogAnswers : ℕ → CatalogApi} {limit : ℕ} {catalog : Processor.Catalog}
    (hserves : Serves matching catalogAnswers limit catalog) (number : ℕ) {queue : List Entity}
    (hqueue : Queued (runEvents lib freshPlugin events).state queue)
    (hapart : TriplesApart (runEvents lib freshPlugin events).state) :
    ∃ relations fuel, (∀ more, fuel ≤ more →
        emitAll catalogAnswers limit more number queue=some relations) ∧
      ∀ relation, relation ∈ relations ↔ ∃ run answers, ∃ f : Fetched lib answers,
        Current lib events run ∧ Answered run.provider run.tick answers ∧
        ∃ et ∈ f.convertedEventTypes, ∃ component ∈ catalog.entities,
          Consumes f component et ∧ relation ∈ consumption et component := by
  have hemits := emitAll_of_serves hserves number queue
  rcases hemits with ⟨relations,fuel,hemit,hmem⟩
  refine ⟨relations,fuel,hemit,fun relation => ?_⟩
  rw [hmem]
  constructor
  · intro hp
    rcases hp with ⟨entity,hentity,consumers,hlists,hconsumer⟩
    have hholds := (hqueue.mem_iff hapart hlists).mp hentity
    rcases hholds with ⟨provider,hholds⟩
    have hkept := List.mem_map.mp hholds
    rcases hkept with ⟨kept,hkept,rfl⟩
    have hcurrent := exists_current lib hkept
    rcases hcurrent with ⟨run,hcurrent,_,entities,hpublished,hmember⟩
    have hmesh := exists_mesh_of_published hpublished
    rcases hmesh with ⟨answers,_,_,hanswered,hbuild,_⟩
    have hfetched := exists_fetched hbuild
    rcases hfetched with ⟨f⟩
    have ha := hadmitted run.provider run.tick answers (started_of_current lib hcurrent).1 hanswered f
    have hapi := (mem_published_iff hanswered f ha hpublished hlists).mp (List.mem_map_of_mem hmember)
    rcases hapi with ⟨et,het,hapi⟩
    rw [hapi] at hlists hconsumer
    rw [(listsConsumers_publishedApi_iff f run.provider et consumers).mp hlists] at hconsumer
    exact ⟨run,answers,f,hcurrent,hanswered,et,het,
      (exists_consumer_iff f run.provider hmatching et relation).mp hconsumer⟩
  · intro hp
    rcases hp with ⟨run,answers,f,hcurrent,hanswered,et,het,hconsumer⟩
    have hstarted := started_of_current lib hcurrent
    rcases hstarted with ⟨hstarted,entities,hpublished⟩
    have ha := hadmitted run.provider run.tick answers hstarted hanswered f
    have hlists := (listsConsumers_publishedApi_iff f run.provider et _).mpr rfl
    have hmember := (mem_published_iff hanswered f ha hpublished hlists).mpr ⟨et,het,rfl⟩
    rw [←held_of_current lib hcurrent hpublished] at hmember
    have hentity := (hqueue.mem_iff hapart hlists).mpr ⟨run.provider,hmember⟩
    exact ⟨_,hentity,_,hlists,(exists_consumer_iff f run.provider hmatching et relation).mpr hconsumer⟩

/-- What a run fetches is determined by the answers that it gets. -/
theorem fetched_unique {lib : Libraries} {answers : Answers} (f g : Fetched lib answers) : f=g := by
  cases f with
  | mk brokers subscribables sources eventTypes triggers subscriptions hb hsub hsrc het htr hs =>
    cases g with
    | mk _ _ _ _ _ _ hb' hsub' hsrc' het' htr' hs' =>
      cases hb.symm.trans hb'
      cases hsub.symm.trans hsub'
      cases hsrc.symm.trans hsrc'
      cases het.symm.trans het'
      cases htr.symm.trans htr'
      cases hs.symm.trans hs'
      rfl

/-- A cluster before anything is applied to it. -/
def emptyContents : Contents :=
  {brokers := [], eventTypes := [], triggers := [], subscriptions := [], objects := []}

/-- What a run over the empty cluster fetches. -/
def emptyFetched : Fetched orderLibraries (snapshot emptyContents.cluster) :=
  @Contents.fetched emptyContents orderLibraries (.of []) (.of []) rfl rfl

/-- The empty cluster holds what Kubernetes admits. -/
theorem admitted_empty : Admitted emptyFetched :=
  { brokers := by decide, brokersFree := by decide, subscribables := by decide
    subscribablesFree := by decide, eventTypes := by decide, eventTypesFree := by decide }

/-- A tick over some contents of the cluster. -/
def tickOver (contents : Contents) : Tick :=
  ⟨serverOf (snapshot contents.cluster),fun _ => .delivered⟩

/-- The run of such a tick sees these contents. -/
theorem answered_tickOver {provider : KnativeEventMeshProvider} {contents : Contents}
    {answers : Answers} (h : Answered provider (tickOver contents) answers) :
    answers=snapshot contents.cluster := by
  unfold Answered Server.buildAnswers at h
  cases htoken : contextToken (meshRequest (meshUrl provider) provider.token).authorization with
  | none =>
    rw [htoken] at h
    cases h
  | some token =>
    rw [htoken] at h
    dsimp only at h
    split at h
    · exact (Option.some.inj h).symm
    · cases h

/-- Two runs of a provider that overlap. The second one sees the resources that
were applied after the first one had fetched. -/
def overlappingRuns : List Event :=
  [.connect devProvider,.start devProvider (tickOver emptyContents),
    .start devProvider (tickOver twoTenants),.receive 0,.receive 1,.resolve 0,.resolve 0]

/-- A run over contents that nothing stops publishes. -/
theorem exists_published_tickOver {contents : Contents}
    (f : Fetched orderLibraries (snapshot contents.cluster)) (ha : Admitted f)
    (hstop : Subscriptions.firstStop f=none) :
    ∃ entities, published orderLibraries devProvider (tickOver contents)=some entities := by
  have hbuild := buildEventMesh_of_unstopped f ha hstop
  have hread := exists_decoded hbuild
  rcases hread with ⟨decoded,hread⟩
  exact ⟨_,(published_eq_some_iff orderLibraries devProvider _ _).mpr
    ⟨_,decoded,⟨_,rfl,rfl,hbuild⟩,hread,rfl⟩⟩

/-- Both runs are committed, in the order in which they started. -/
theorem commits_overlappingRuns : ∃ entities entities',
    commits orderLibraries freshPlugin overlappingRuns=
      [⟨devProvider,tickOver emptyContents,.applyMutation entities⟩,
        ⟨devProvider,tickOver twoTenants,.applyMutation entities'⟩] := by
  have hempty := exists_published_tickOver emptyFetched admitted_empty (by decide)
  have htenants := exists_published_tickOver twoTenantsFetched admitted_twoTenants (by decide)
  rcases hempty with ⟨entities,hempty⟩
  rcases htenants with ⟨entities',htenants⟩
  refine ⟨entities,entities',?_⟩
  have hreceive := receive_eq orderLibraries ⟨devProvider,tickOver emptyContents,.eventMesh⟩
  have hreceive' := receive_eq orderLibraries ⟨devProvider,tickOver twoTenants,.eventMesh⟩
  rw [hempty,Option.map_some] at hreceive
  rw [htenants,Option.map_some] at hreceive'
  simp [overlappingRuns,commits,step,connect,freshPlugin,committed,hreceive,hreceive']

/-- Both runs see what Kubernetes admits. -/
theorem admitted_overlappingRuns {provider : KnativeEventMeshProvider} {tick : Tick} {answers : Answers}
    (hstart : Event.start provider tick ∈ overlappingRuns) (hanswered : Answered provider tick answers)
    (f : Fetched orderLibraries answers) : Admitted f := by
  simp only [overlappingRuns,List.mem_cons,reduceCtorEq,Event.start.injEq,List.not_mem_nil,
    false_or,or_false] at hstart
  rcases hstart with ⟨_,rfl⟩ | ⟨_,rfl⟩
  · have hsame := answered_tickOver hanswered
    subst hsame
    rw [fetched_unique f emptyFetched]
    exact admitted_empty
  · have hsame := answered_tickOver hanswered
    subst hsame
    rw [fetched_unique f twoTenantsFetched]
    exact admitted_twoTenants

/-- The second run is the only current one. -/
theorem current_overlappingRuns {run : PendingRun} :
    Current orderLibraries overlappingRuns run → run.provider=devProvider ∧ run.tick=tickOver twoTenants := by
  intro h
  rcases h with ⟨before,after,hcommits,hafter⟩
  have hboth := commits_overlappingRuns
  rcases hboth with ⟨entities,entities',hboth⟩
  rw [hboth] at hcommits
  match before with
  | [] =>
    cases hcommits
    have hlater := hafter ⟨devProvider,tickOver twoTenants,.applyMutation entities'⟩ List.mem_cons_self
    exact absurd rfl hlater
  | [_] =>
    cases hcommits
    exact ⟨rfl,rfl⟩
  | _::_::_ =>
    have hlength := congrArg List.length hcommits
    simp only [List.length_cons,List.length_append,List.length_nil] at hlength
    omega

/-- After both runs the APIs of the event types that the second one saw are held,
by whatever provider has the name of the run's. -/
theorem holdsApi_overlappingRuns {provider : KnativeEventMeshProvider} {entity : Entity}
    (h : HoldsApi (runEvents orderLibraries freshPlugin overlappingRuns).state provider entity) :
    HoldsApi (runEvents orderLibraries freshPlugin overlappingRuns).state devProvider entity ∧
      ∃ et ∈ twoTenantsFetched.convertedEventTypes,
        entity=publishedApi twoTenantsFetched devProvider et := by
  rcases h with ⟨hlists,hmem⟩
  have hkept := List.mem_map.mp hmem
  rcases hkept with ⟨kept,hkept,rfl⟩
  have hcurrent := exists_current orderLibraries hkept
  rcases hcurrent with ⟨run,hcurrent,hname,entities,hpublished,hmember⟩
  have hrun := current_overlappingRuns hcurrent
  rw [hrun.1] at hname hpublished
  rw [hrun.2] at hpublished
  refine ⟨⟨hlists,?_⟩,?_⟩
  · unfold held at hmem ⊢
    rw [hname]
    exact hmem
  · have hanswered : Answered devProvider (tickOver twoTenants) (snapshot twoTenants.cluster) := rfl
    rcases hlists with ⟨consumers,hlists⟩
    exact (mem_published_iff hanswered twoTenantsFetched admitted_twoTenants hpublished hlists).mp
      (List.mem_map_of_mem hmember)

/-- The two APIs that are held have triples of their own. -/
theorem triplesApart_overlappingRuns :
    TriplesApart (runEvents orderLibraries freshPlugin overlappingRuns).state := by
  intro provider provider' entity entity' h h' hkey
  obtain ⟨_,et,het,rfl⟩ := holdsApi_overlappingRuns h
  obtain ⟨_,et',het',rfl⟩ := holdsApi_overlappingRuns h'
  have hnames : (lowerCase et.nameSpace,lowerCase et.name)=(lowerCase et'.nameSpace,lowerCase et'.name) :=
    congrArg Prod.snd hkey
  have hdistinct : (twoTenantsFetched.convertedEventTypes.map fun et =>
      (lowerCase et.nameSpace,lowerCase et.name)).Nodup := by decide
  rw [List.inj_on_of_nodup_map hdistinct het het' hnames]

/-- The catalog processes what the provider holds. -/
theorem queued_overlappingRuns :
    Queued (runEvents orderLibraries freshPlugin overlappingRuns).state
      ((held devProvider (runEvents orderLibraries freshPlugin overlappingRuns).state).map
        (·.entity)) where
  held _ hmem consumers hlists := ⟨devProvider,⟨consumers,hlists⟩,hmem⟩
  kept _ entity h :=
    have hholds := (holdsApi_overlappingRuns h).1
    ⟨entity,hholds.2,⟨devProvider,hholds⟩,rfl⟩

/-- The component consumes the event type that the second run saw in its own
namespace, and not that of the other namespace. -/
theorem emitAll_current_overlappingRuns :
    ∃ relations fuel, emitAll (onePage tenantsCatalog) 10000 fuel 0
        ((held devProvider (runEvents orderLibraries freshPlugin overlappingRuns).state).map (·.entity))=
          some relations ∧
      ⟨"apiConsumedBy",⟨"API","shop","order"⟩,⟨"Component","shop","billing"⟩⟩ ∈ relations ∧
      ⟨"apiConsumedBy",⟨"API","bank","order"⟩,⟨"Component","shop","billing"⟩⟩ ∉ relations := by
  have hemits := emitAll_current orderLibraries overlappingRuns
    (fun _ _ _ => admitted_overlappingRuns) satisfies_matchesFields
    (serves_onePage tenantsCatalog 10000) 0 queued_overlappingRuns triplesApart_overlappingRuns
  rcases hemits with ⟨relations,fuel,hemit,hmem⟩
  refine ⟨relations,fuel,hemit fuel le_rfl,?_,?_⟩
  · have hboth := commits_overlappingRuns
    rcases hboth with ⟨entities,entities',hboth⟩
    rw [hmem]
    have hcurrent : Current orderLibraries overlappingRuns
        ⟨devProvider,tickOver twoTenants,.applyMutation entities'⟩ :=
      ⟨[_],[],hboth,fun _ hlater => absurd hlater List.not_mem_nil⟩
    have hanswered : Answered devProvider (tickOver twoTenants) (snapshot twoTenants.cluster) := rfl
    refine ⟨_,_,twoTenantsFetched,hcurrent,hanswered,?_⟩
    unfold Consumes
    decide
  · rw [hmem]
    intro hp
    rcases hp with ⟨run,answers,f,hcurrent,hanswered,hconsumer⟩
    have hrun := current_overlappingRuns hcurrent
    rw [hrun.1,hrun.2] at hanswered
    have hsame := answered_tickOver hanswered
    subst hsame
    rw [fetched_unique f twoTenantsFetched] at hconsumer
    revert hconsumer
    unfold Consumes
    decide

end KnativeMesh.Pipeline
