import KnativeMesh.Schedules

/-!
# Where entities come from

Several providers publish to one catalog, their runs overlap, and the resources
of their clusters may carry any annotations. Whatever happens, the entities under
a name are those of one run of a provider with this name. They are located at the
URL of the provider, also where a resource claims to be from elsewhere, and carry
no annotation that the backend withholds.
-/

namespace KnativeMesh.Provenance

open Go Kubernetes Mesh Converters Builder Runs Fetches ClusterContents Wire Entities Sync Schedules
open Provider (Entity KnativeEventMeshProvider)

/-- An entity of a provider: its location, and nothing that is withheld. -/
structure Authentic (provider : KnativeEventMeshProvider) (deferred : DeferredEntity) : Prop where
  locationKey : deferred.locationKey=provider.getProviderName
  located : ∀ key, key=Provider.annotationLocation ∨ key=Provider.annotationOriginLocation →
    deferred.entity.metadata.annotations[key]?=some ("url:"++provider.baseUrl)
  withheld : ∀ key ∈ excludedAnnotations, deferred.entity.metadata.annotations[key]?=none
  lifecycle : deferred.entity.spec.lifecycle=provider.env
  owner : deferred.entity.spec.system=Provider.systemKnative ∧
    deferred.entity.spec.owner=Provider.ownerKnative

section Entities

variable (provider : KnativeEventMeshProvider)

/-- Located annotations of a resource are authentic, whatever they were. -/
theorem authentic_of_annotations {entity : Entity} {annotations : StringMap}
    (h : entity.metadata.annotations=provider.locate (filterAnnotations annotations))
    (hlifecycle : entity.spec.lifecycle=provider.env)
    (howner : entity.spec.system=Provider.systemKnative ∧ entity.spec.owner=Provider.ownerKnative) :
    Authentic provider ⟨entity,provider.getProviderName⟩ := by
  have hlookup := getElem?_entityAnnotations provider annotations
  rw [←locate_filterAnnotations,←h] at hlookup
  refine ⟨rfl,fun key hkey => ?_,fun key hkey => ?_,hlifecycle,howner⟩
  · rw [hlookup,if_pos hkey]
  · have hother : ∀ excluded ∈ excludedAnnotations,
        ¬ (excluded=Provider.annotationLocation ∨ excluded=Provider.annotationOriginLocation) := by
      decide
    rw [hlookup,if_neg (hother key hkey),if_pos hkey]

/-- Every entity that is built from a mesh of the backend is authentic. -/
theorem authentic_of_buildEntities {lib : Libraries} {answers : Answers} {mesh : EventMesh}
    (hmesh : buildEventMesh lib answers=.ok mesh) {decoded : Provider.EventMesh}
    (hdecoded : decodeMesh (encodeMesh mesh)=some decoded) {entity : Entity}
    (hentity : entity ∈ provider.buildEntities decoded) :
    Authentic provider ⟨entity,provider.getProviderName⟩ := by
  have hfetched := exists_fetched hmesh
  rcases hfetched with ⟨f⟩
  have hstore := f.buildEventMesh_eq_ok_iff.mp hmesh
  rcases hstore with ⟨store,h,rfl⟩
  have hread : decoded=_ := Option.some.inj (hdecoded.symm.trans (decodeMesh_encodeMesh _ _ _ _))
  rw [hread] at hentity
  unfold KnativeEventMeshProvider.buildEntities at hentity
  simp only [List.mem_append,List.mem_map,exists_exists_and_eq_and] at hentity
  rcases hentity with ((hp | hp) | hp) | hp
  · rcases hp with ⟨et,het,rfl⟩
    have hresource := exists_of_forall₂_mem (eventTypes_forall₂ f h) het
    rcases hresource with ⟨resource,_,hfixed⟩
    have hannotations : filterAnnotations resource.objectMeta.annotations=et.annotations :=
      congrArg EventType.annotations hfixed
    exact authentic_of_annotations provider (congrArg provider.locate hannotations.symm) rfl ⟨rfl,rfl⟩
  · rcases hp with ⟨br,hbr,rfl⟩
    have hresource := exists_of_forall₂_mem (brokers_forall₂ f h) hbr
    rcases hresource with ⟨resource,_,hfixed⟩
    have hannotations : filterAnnotations resource.objectMeta.annotations=br.annotations :=
      congrArg Broker.annotations hfixed
    exact authentic_of_annotations provider (congrArg provider.locate hannotations.symm) rfl ⟨rfl,rfl⟩
  · rcases hp with ⟨s,hs,rfl⟩
    have hinstances := subscribables_forall₂ f h
    rcases hinstances with ⟨instances,_,hall⟩
    have hinstance := exists_of_forall₂_mem hall hs
    rcases hinstance with ⟨i,_,hfixed⟩
    have hannotations : filterAnnotations i.object.getAnnotations=s.annotations :=
      congrArg Subscribable.annotations hfixed
    exact authentic_of_annotations provider (congrArg provider.locate hannotations.symm) rfl ⟨rfl,rfl⟩
  · rcases hp with ⟨source,hsource,rfl⟩
    have hinstances := sources_forall₂ f h
    rcases hinstances with ⟨instances,_,hall⟩
    have hinstance := exists_of_forall₂_mem hall hsource
    rcases hinstance with ⟨i,_,hconverted⟩
    have hparts := bind_eq_ok.mp hconverted
    rcases hparts with ⟨announced,_,hfixed⟩
    have hannotations : filterAnnotations i.object.getAnnotations=source.annotations :=
      congrArg Source.annotations (Except.ok.inj hfixed)
    exact authentic_of_annotations provider (congrArg provider.locate hannotations.symm) rfl ⟨rfl,rfl⟩

end Entities

section Plugin

variable (lib : Libraries)

/-- The runs that some events start. -/
def startedRuns (events : List Event) : List (KnativeEventMeshProvider×Tick) :=
  events.filterMap fun
    | .start provider tick => some (provider,tick)
    | _ => none

/-- These are the runs of the start events. -/
theorem mem_startedRuns_iff {events : List Event} {provider : KnativeEventMeshProvider} {tick : Tick} :
    (provider,tick) ∈ startedRuns events ↔ Event.start provider tick ∈ events := by
  unfold startedRuns
  rw [List.mem_filterMap]
  constructor
  · intro hp
    rcases hp with ⟨event,hevent,hstarts⟩
    cases event with
    | start started tick' =>
      cases hstarts
      exact hevent
    | connect connecting => cases hstarts
    | receive i => cases hstarts
    | resolve i => cases hstarts
    | reject i => cases hstarts
  · intro h
    exact ⟨_,h,rfl⟩

/-- All that is pending or in the catalog is from one of some runs. -/
structure Traced (started : List (KnativeEventMeshProvider×Tick)) (plugin : Plugin) : Prop where
  pending : ∀ run ∈ plugin.pending, (run.provider,run.tick) ∈ started
  ready : Ready lib plugin
  catalog : ∀ name entities, plugin.state.catalog[name]?=some entities → ∃ run ∈ started,
    run.1.getProviderName=name ∧ published lib run.1 run.2=some entities

/-- More runs explain no less. -/
theorem Traced.mono {started started' : List (KnativeEventMeshProvider×Tick)} {plugin : Plugin}
    (h : Traced lib started plugin) (hsub : started ⊆ started') : Traced lib started' plugin := by
  refine ⟨fun run hrun => hsub (h.pending run hrun),h.ready,fun name entities hheld => ?_⟩
  have horigin := h.catalog name entities hheld
  rcases horigin with ⟨run,hrun,hpublished⟩
  exact ⟨run,hsub hrun,hpublished⟩

/-- Every event keeps that, with the run that it starts, if it starts one. -/
theorem traced_step {started : List (KnativeEventMeshProvider×Tick)} {plugin : Plugin}
    (h : Traced lib started plugin) (event : Event) :
    Traced lib (started++startedRuns [event]) (step lib plugin event) := by
  have hready := ready_step lib h.ready event
  have hold := h.mono lib (List.subset_append_left started (startedRuns [event]))
  have houtcome := outcome_step lib plugin event
  generalize step lib plugin event=plugin' at houtcome hready ⊢
  generalize committed plugin event=commit at houtcome
  cases houtcome with
  | connected provider => exact ⟨hold.pending,hready,hold.catalog⟩
  | ignored event => exact hold
  | started provider tick =>
    refine ⟨fun run hrun => ?_,hready,hold.catalog⟩
    rcases List.mem_append.mp hrun with hbefore | hnew
    · exact hold.pending run hbefore
    · rw [List.mem_singleton.mp hnew]
      exact List.mem_append_right _ List.mem_cons_self
  | @received i run entities hrun hpublished =>
    refine ⟨fun other hother => ?_,hready,hold.catalog⟩
    rcases List.mem_or_eq_of_mem_set hother with hbefore | hnew
    · exact hold.pending other hbefore
    · rw [hnew]
      exact hold.pending run (List.mem_of_getElem? hrun)
  | dropped event hrun =>
    exact ⟨fun other hother => hold.pending other (List.mem_of_mem_eraseIdx hother),hready,hold.catalog⟩
  | @resolved i run entities hrun hwaiting =>
    have hmem := List.mem_of_getElem? hrun
    refine ⟨fun other hother => hold.pending other (List.mem_of_mem_eraseIdx hother),hready,?_⟩
    intro name held hheld
    -- the mutation writes under the name of its provider and nowhere else
    by_cases hname : run.provider.getProviderName=name
    · unfold applyMutation at hheld
      rw [hname,Std.ExtTreeMap.getElem?_insert_self] at hheld
      exact ⟨_,hold.pending run hmem,hname,(h.ready run hmem entities hwaiting).trans hheld⟩
    · unfold applyMutation at hheld
      rw [Library.Index.getElem?_insert_of_ne _ hname] at hheld
      exact hold.catalog name held hheld

/-- So does every sequence of events. -/
theorem traced_runEvents {started : List (KnativeEventMeshProvider×Tick)} {plugin : Plugin}
    (h : Traced lib started plugin) (events : List Event) :
    Traced lib (started++startedRuns events) (runEvents lib plugin events) := by
  induction events generalizing started plugin with
  | nil =>
    rw [startedRuns,List.filterMap_nil,List.append_nil]
    exact h
  | cons event events ih =>
    have hrest := ih (traced_step lib h event)
    have hsplit : startedRuns (event::events)=startedRuns [event]++startedRuns events :=
      @List.filterMap_append _ _ [event] events _
    rw [hsplit,←List.append_assoc]
    exact hrest

/-- The plugin before it has done anything. -/
def freshPlugin : Plugin := ⟨⟨[],∅⟩,[]⟩

/-- Nothing of a fresh plugin needs an origin. -/
theorem traced_freshPlugin : Traced lib [] freshPlugin := by
  refine ⟨fun run hrun => absurd hrun List.not_mem_nil,fun run hrun => absurd hrun List.not_mem_nil,?_⟩
  intro name entities hheld
  have hnone : (∅ : Sync.Catalog)[name]?=none := Std.ExtTreeMap.getElem?_empty
  exact absurd (hnone.symm.trans hheld) nofun

end Plugin

/-- However the runs of providers are mixed, what the catalog holds under a name
was published as a whole by one run of a provider of this name, from a mesh that
its backend returned, and every entity is authentic. -/
theorem runEvents_provenance (lib : Libraries) (events : List Event) {name : String}
    {entities : List DeferredEntity}
    (h : (runEvents lib freshPlugin events).state.catalog[name]?=some entities) :
    ∃ provider tick mesh decoded, Event.start provider tick ∈ events ∧
      provider.getProviderName=name ∧ succeeds lib provider tick mesh ∧
        decodeMesh (encodeMesh mesh)=some decoded ∧
        entities=deferred provider (provider.buildEntities decoded) ∧
        ∀ entity ∈ entities, Authentic provider entity := by
  have htraced := traced_runEvents lib (traced_freshPlugin lib) events
  have horigin := htraced.catalog name entities h
  rcases horigin with ⟨run,hrun,hname,hpublished⟩
  have hmesh := (published_eq_some_iff lib run.1 run.2 entities).mp hpublished
  rcases hmesh with ⟨mesh,decoded,hsucceeds,hdecoded,rfl⟩
  have hbuild := buildEventMesh_of_succeeds lib run.1 hsucceeds
  rcases hbuild with ⟨answers,_,hbuild⟩
  refine ⟨run.1,run.2,mesh,decoded,mem_startedRuns_iff.mp hrun,hname,hsucceeds,hdecoded,rfl,
    fun entity hmem => ?_⟩
  have hbuilt := List.mem_map.mp hmem
  rcases hbuilt with ⟨built,hbuilt,rfl⟩
  exact authentic_of_buildEntities run.1 hbuild hdecoded hbuilt

/-- A broker that claims another location and was applied with kubectl. -/
def disguisedBroker : Contents :=
  { brokers := [⟨⟨"main","shop","1",none,some (.ofList
      [(Provider.annotationLocation,"url:http://elsewhere"),
       ("kubectl.kubernetes.io/last-applied-configuration","secret")])⟩⟩]
    eventTypes := [], triggers := [], subscriptions := [], objects := [] }

/-- What a run over the disguised broker fetches. -/
def disguisedFetched : Fetched (librariesWith []) (snapshot disguisedBroker.cluster) :=
  @Contents.fetched disguisedBroker (librariesWith []) (.of []) (.of []) rfl rfl

/-- A tick over the disguised broker. -/
def disguisedTick : Tick := ⟨serverOf (snapshot disguisedBroker.cluster),fun _ => .delivered⟩

/-- A single run from its start to its mutation. -/
theorem runEvents_alone (lib : Libraries) {provider : KnativeEventMeshProvider} {tick : Tick}
    {entities : List DeferredEntity} (h : published lib provider tick=some entities) :
    runEvents lib freshPlugin
        [.connect provider,.start provider tick,.receive 0,.resolve 0]=
      ⟨applyMutation provider entities (connect provider freshPlugin.state),[]⟩ := by
  have hreceive := receive_eq lib ⟨provider,tick,.eventMesh⟩
  rw [h,Option.map_some] at hreceive
  simp [runEvents,step,connect,freshPlugin,committed,hreceive]

/-- The disguised broker is published without its disguise. -/
theorem runEvents_provenance_disguisedBroker :
    ∃ entities, (runEvents (librariesWith []) freshPlugin [.connect devProvider,
        .start devProvider disguisedTick,.receive 0,.resolve 0]).state.catalog[
        devProvider.getProviderName]?=some entities ∧
      entities.map (·.entity.metadata.name)=["main"] ∧
      ∀ entity ∈ entities,
        entity.entity.metadata.annotations[Provider.annotationLocation]?=
          some ("url:"++devProvider.baseUrl) ∧
        entity.entity.metadata.annotations["kubectl.kubernetes.io/last-applied-configuration"]?=none := by
  have hsucceeds : succeeds (librariesWith []) devProvider disguisedTick
      (outputMesh disguisedFetched.triggered) := ⟨_,rfl,rfl,disguisedFetched.buildEventMesh_eq⟩
  have hread := decodeMesh_encodeMesh disguisedFetched.triggered.eventTypes
    disguisedFetched.triggered.brokers disguisedFetched.triggered.sources
    disguisedFetched.triggered.subscribables
  have hpublished := (published_eq_some_iff (librariesWith []) devProvider disguisedTick _).mpr
    ⟨_,_,hsucceeds,hread,rfl⟩
  have hrun := congrArg (fun plugin : Plugin => plugin.state.catalog[devProvider.getProviderName]?)
    (runEvents_alone (librariesWith []) hpublished)
  have hheld := hrun.trans Std.ExtTreeMap.getElem?_insert_self
  have horigin := runEvents_provenance (librariesWith []) _ hheld
  rcases horigin with ⟨provider,tick,_,_,hevent,_,_,_,_,hauthentic⟩
  have hprovider : provider=devProvider := by
    simp only [List.mem_cons,List.not_mem_nil,or_false,false_or,reduceCtorEq,
      Event.start.injEq] at hevent
    exact hevent.1
  rw [hprovider] at hauthentic
  refine ⟨_,hheld,by decide,fun entity hmem => ?_⟩
  have h := hauthentic entity hmem
  exact ⟨h.located _ (.inl rfl),h.withheld _ (by decide)⟩

end KnativeMesh.Provenance
