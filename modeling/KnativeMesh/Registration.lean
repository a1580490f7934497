import KnativeMesh.ClusterContents

/-!
# Registration of event types is a partition

Every event type has at most one home among brokers and subscribables, found
through flattened keys. On listed resources the keys identify their resources,
so the home is the resource that the reference names, brokers first. Names are
appended in the order of the sorted event types, and a reference always names
a resource of the event type's own namespace.
-/

namespace KnativeMesh.Registration

open Go UnstructuredObject Kubernetes Mesh Converters Builder Passes Runs Keys Listing Fetches
open ClusterContents
open Library.Index Library.Scatter

section Homes

variable {lib : Libraries} {answers : Answers} (f : Fetched lib answers)

/-- The home of an event type in a run. -/
abbrev home : EventType → Home := homeOf f.brokerMap f.subscribableMap

/-- The names that registration puts at a home in a run. -/
abbrev names (target : Home) : List String := namesAt (home f) target f.convertedEventTypes

/-- The broker map leads from a key to the broker with the fields of the key. -/
theorem brokerMap_eq_some_iff (hd : Distinct (f.brokers.map (·.objectMeta)))
    (hfree : SlashFreeObjects (f.brokers.map (·.objectMeta)))
    (reference : GroupKindNamespacedName) (i : ℕ) :
    f.brokerMap[reference.string]?=some i ↔
      ∃ br, f.convertedBrokers[i]?=some br ∧ brokerIdentity br=reference := by
  rw [Fetched.brokerMap,indexBy_eq_some_iff (brokerKeys_nodup f hd hfree)]
  constructor
  · intro hp
    rcases hp with ⟨br,hbr,hkey⟩
    have hbfree := slashFree_convertedBrokers f hfree (List.mem_of_getElem? hbr)
    exact ⟨br,hbr,(string_eq_iff hbfree reference).mp hkey⟩
  · intro hp
    rcases hp with ⟨br,hbr,rfl⟩
    exact ⟨br,hbr,rfl⟩

/-- The broker map misses a key exactly when no broker has its fields. -/
theorem brokerMap_eq_none_iff (hfree : SlashFreeObjects (f.brokers.map (·.objectMeta)))
    (reference : GroupKindNamespacedName) :
    f.brokerMap[reference.string]?=none ↔
      ∀ br ∈ f.convertedBrokers, brokerIdentity br≠reference := by
  rw [Fetched.brokerMap,indexBy_eq_none_iff]
  constructor
  · intro h br hbr he
    exact h br hbr (by rw [←key_brokerIdentity,he])
  · intro h br hbr hkey
    have hbfree := slashFree_convertedBrokers f hfree hbr
    exact h br hbr ((string_eq_iff hbfree reference).mp hkey)

/-- The subscribable map leads from a key to the subscribable with the fields
of the key. -/
theorem subscribableMap_eq_some_iff (hd : (f.subscribables.toList.map subscribableIdentity).Nodup)
    (hfree : ∀ s ∈ f.subscribables.toList, GKSlashFree (subscribableIdentity s))
    (reference : GroupKindNamespacedName) (i : ℕ) :
    f.subscribableMap[reference.string]?=some i ↔
      ∃ s, f.subscribables.toList[i]?=some s ∧ subscribableIdentity s=reference := by
  rw [Fetched.subscribableMap,indexBy_eq_some_iff (subscribableKeys_nodup f hd hfree)]
  constructor
  · intro hp
    rcases hp with ⟨s,hs,hkey⟩
    have hsfree := hfree s (List.mem_of_getElem? hs)
    exact ⟨s,hs,(string_eq_iff hsfree reference).mp hkey⟩
  · intro hp
    rcases hp with ⟨s,hs,rfl⟩
    exact ⟨s,hs,rfl⟩

/-- An event type is at home at a broker exactly when it refers to it. -/
theorem home_eq_broker_iff (hd : Distinct (f.brokers.map (·.objectMeta)))
    (hfree : SlashFreeObjects (f.brokers.map (·.objectMeta))) (et : EventType) (i : ℕ) :
    home f et=.broker i ↔
      ∃ br, f.convertedBrokers[i]?=some br ∧ et.reference=some (brokerIdentity br) := by
  rw [homeOf_eq_broker_iff]
  constructor
  · intro hp
    rcases hp with ⟨reference,hr,hb⟩
    obtain ⟨br,hbr,rfl⟩ := (brokerMap_eq_some_iff f hd hfree reference i).mp hb
    exact ⟨br,hbr,hr⟩
  · intro hp
    rcases hp with ⟨br,hbr,hr⟩
    exact ⟨_,hr,(brokerMap_eq_some_iff f hd hfree _ i).mpr ⟨br,hbr,rfl⟩⟩

/-- An event type is at home at a subscribable exactly when it refers to it
and to no broker. -/
theorem home_eq_subscribable_iff
    (hbfree : SlashFreeObjects (f.brokers.map (·.objectMeta)))
    (hd : (f.subscribables.toList.map subscribableIdentity).Nodup)
    (hfree : ∀ s ∈ f.subscribables.toList, GKSlashFree (subscribableIdentity s))
    (et : EventType) (i : ℕ) :
    home f et=.subscribable i ↔
      (∃ s, f.subscribables.toList[i]?=some s ∧ et.reference=some (subscribableIdentity s)) ∧
        ∀ br ∈ f.convertedBrokers, et.reference≠some (brokerIdentity br) := by
  rw [homeOf_eq_subscribable_iff]
  constructor
  · intro hp
    rcases hp with ⟨reference,hr,hb,hs⟩
    obtain ⟨s,hget,rfl⟩ := (subscribableMap_eq_some_iff f hd hfree reference i).mp hs
    refine ⟨⟨s,hget,hr⟩,fun br hbr he => ?_⟩
    rw [hr] at he
    exact (brokerMap_eq_none_iff f hbfree _).mp hb br hbr (Option.some.inj he).symm
  · intro hp
    rcases hp with ⟨⟨s,hs,hr⟩,hnone⟩
    refine ⟨_,hr,(brokerMap_eq_none_iff f hbfree _).mpr fun br hbr he => ?_,
      (subscribableMap_eq_some_iff f hd hfree _ i).mpr ⟨s,hs,rfl⟩⟩
    exact hnone br hbr (by rw [hr,he])

/-- Registered brokers are the converted ones with the names at home there. -/
theorem getElem?_registered_brokers (i : ℕ) :
    f.registered.brokers[i]?=f.convertedBrokers[i]?.map fun br =>
      {br with providedEventTypes := .of (names f (.broker i))} := by
  change (registerEventTypes f.brokerMap f.subscribableMap _).brokers[i]?=_
  rw [getElem?_registered_broker]
  dsimp only
  cases hbr : f.convertedBrokers[i]? with
  | none => rfl
  | some br =>
    obtain ⟨resource,_,rfl⟩ := mem_convertedBrokers f (List.mem_of_getElem? hbr)
    rw [Option.map_some,Option.map_some,foldl_broker_provide]
    dsimp only [convertBroker]
    rw [Slice.foldl_append_of,List.nil_append]

/-- Registered subscribables are the fetched ones with the names at home there. -/
theorem getElem?_registered_subscribables (i : ℕ) :
    f.registered.subscribables[i]?=f.subscribables.toList[i]?.map fun s =>
      {s with providedEventTypes := .of (names f (.subscribable i))} := by
  change (registerEventTypes f.brokerMap f.subscribableMap _).subscribables[i]?=_
  rw [getElem?_registered_subscribable]
  dsimp only
  cases hs : f.subscribables.toList[i]? with
  | none => rfl
  | some s =>
    have hprovides := fetchSubscribables_provides_nothing f.subscribables_ok
      (List.mem_of_getElem? hs)
    rw [Option.map_some,Option.map_some,foldl_subscribable_provide,hprovides,
      Slice.foldl_append_of,List.nil_append]

/-- Registration leaves the event types as they were converted. -/
theorem registered_eventTypes : f.registered.eventTypes=f.convertedEventTypes := by
  change (registerEventTypes f.brokerMap f.subscribableMap _).eventTypes=_
  exact (registerEventTypes_frame _ _ _).2

/-- Registered sources are the fetched ones with the names of the event types
of the types that they announce. -/
theorem registered_sources :
    f.registered.sources=f.sources.toList.map fun source =>
      {source with providedEventTypes := .of (announcedNames f.convertedEventTypes source)} := by
  have hsources := (registerEventTypes_frame f.brokerMap f.subscribableMap
    ⟨f.convertedBrokers,f.subscribables.toList,f.sources.toList,f.convertedEventTypes⟩).1
  have heventTypes := (registerEventTypes_frame f.brokerMap f.subscribableMap
    ⟨f.convertedBrokers,f.subscribables.toList,f.sources.toList,f.convertedEventTypes⟩).2
  dsimp only [Fetched.registered,registerSources]
  rw [hsources,heventTypes]
  apply List.map_congr_left
  intro source hmem
  have hprovides := fetchSources_provides_nothing f.sources_ok hmem
  rw [registerSource_eq,foldl_source_provide,hprovides,Slice.foldl_append_of,List.nil_append]

/-- The brokers of a run are the registered ones. -/
theorem getElem?_brokers {store : Store} (h : f.finished=.ok store) (i : ℕ) :
    store.brokers[i]?=f.convertedBrokers[i]?.map fun br =>
      {br with providedEventTypes := .of (names f (.broker i))} := by
  rw [(f.finished_frame h).brokers,getElem?_registered_brokers]

/-- The subscribables of a run are the registered ones. -/
theorem getElem?_subscribables {store : Store} (h : f.finished=.ok store) (i : ℕ) :
    store.subscribables[i]?=f.subscribables.toList[i]?.map fun s =>
      {s with providedEventTypes := .of (names f (.subscribable i))} := by
  rw [(f.finished_frame h).subscribables,getElem?_registered_subscribables]

/-- The event types of a run are the converted ones but for their consumers. -/
theorem map_fixed_eventTypes {store : Store} (h : f.finished=.ok store) :
    store.eventTypes.map fixed=f.convertedEventTypes.map fixed := by
  rw [(f.finished_frame h).eventTypes,registered_eventTypes]

/-- Names at a home are the same before and after the consumers are added. -/
theorem names_eq {store : Store} (h : f.finished=.ok store) (target : Home) :
    names f target=(store.eventTypes.filter (home f ·=target)).map (·.namespacedName) := by
  have hfixed : ∀ eventTypes : List EventType, namesAt (home f) target eventTypes=
      namesAt (home f) target (eventTypes.map fixed) := by
    intro eventTypes
    dsimp only [namesAt]
    rw [List.filter_map,List.map_map]
    rfl
  rw [names,hfixed,←map_fixed_eventTypes f h,←hfixed]
  rfl

/-- Namespaced names are the same before and after the consumers are added. -/
theorem map_namespacedName_eventTypes {store : Store} (h : f.finished=.ok store) :
    store.eventTypes.map EventType.namespacedName=
      f.convertedEventTypes.map EventType.namespacedName := by
  have hfixed : ∀ eventTypes : List EventType, eventTypes.map EventType.namespacedName=
      (eventTypes.map fixed).map EventType.namespacedName := by
    intro eventTypes
    rw [List.map_map]
    rfl
  rw [hfixed,map_fixed_eventTypes f h,←hfixed]

/-- Event types of a run that share a namespaced name are the same. -/
theorem eventTypes_nodup {store : Store} (h : f.finished=.ok store)
    (hd : Distinct (f.eventTypes.map (·.objectMeta)))
    (hfree : SlashFreeObjects (f.eventTypes.map (·.objectMeta))) :
    (store.eventTypes.map EventType.namespacedName).Nodup := by
  rw [map_namespacedName_eventTypes f h]
  exact namespacedNames_nodup f hd hfree

/-- Names at a home are names of event types. -/
theorem exists_of_mem_names {store : Store} (h : f.finished=.ok store) {target : Home} {name : String}
    (hname : name ∈ names f target) : ∃ et ∈ store.eventTypes, et.namespacedName=name := by
  rw [names_eq f h] at hname
  obtain ⟨et,het,rfl⟩ := List.mem_map.mp hname
  exact ⟨et,(List.mem_filter.mp het).1,rfl⟩

/-- Names that a source announces are names of event types. -/
theorem exists_of_mem_announcedNames {store : Store} (h : f.finished=.ok store) {source : Source}
    {name : String} (hname : name ∈ announcedNames f.convertedEventTypes source) :
    ∃ et ∈ store.eventTypes, et.namespacedName=name := by
  obtain ⟨type,_,hmem⟩ := List.mem_flatMap.mp hname
  obtain ⟨et,het,rfl⟩ := List.mem_map.mp hmem
  have hconverted : et.namespacedName ∈ f.convertedEventTypes.map EventType.namespacedName :=
    List.mem_map_of_mem (List.mem_filter.mp het).1
  rw [←map_namespacedName_eventTypes f h] at hconverted
  exact List.mem_map.mp hconverted

/-- A name stands at a home exactly when its event type is at home there. -/
theorem mem_names_iff {store : Store} (h : f.finished=.ok store)
    (hd : Distinct (f.eventTypes.map (·.objectMeta)))
    (hfree : SlashFreeObjects (f.eventTypes.map (·.objectMeta)))
    {et : EventType} (het : et ∈ store.eventTypes) (target : Home) :
    et.namespacedName ∈ names f target ↔ home f et=target := by
  rw [names_eq f h,List.mem_map]
  constructor
  · intro hp
    rcases hp with ⟨other,hother,hname⟩
    obtain ⟨hmem,hhome⟩ := List.mem_filter.mp hother
    have he := List.inj_on_of_nodup_map (eventTypes_nodup f h hd hfree) hmem het hname
    rw [←he]
    exact of_decide_eq_true hhome
  · intro hhome
    exact ⟨et,List.mem_filter.mpr ⟨het,decide_eq_true hhome⟩,rfl⟩

/-- Each home lists a name at most once. -/
theorem names_nodup (hd : Distinct (f.eventTypes.map (·.objectMeta)))
    (hfree : SlashFreeObjects (f.eventTypes.map (·.objectMeta))) (target : Home) :
    (names f target).Nodup :=
  (namespacedNames_nodup f hd hfree).sublist (List.filter_sublist.map _)

/-- Different homes list different names. -/
theorem names_disjoint (hd : Distinct (f.eventTypes.map (·.objectMeta)))
    (hfree : SlashFreeObjects (f.eventTypes.map (·.objectMeta))) {first second : Home}
    (hne : first≠second) : (names f first).Disjoint (names f second) := by
  intro name hfirst hsecond
  obtain ⟨et,het,rfl⟩ := List.mem_map.mp hfirst
  obtain ⟨other,hother,hname⟩ := List.mem_map.mp hsecond
  obtain ⟨hmem,hhome⟩ := List.mem_filter.mp het
  obtain ⟨hmem',hhome'⟩ := List.mem_filter.mp hother
  have he := List.inj_on_of_nodup_map (namespacedNames_nodup f hd hfree) hmem' hmem hname
  rw [he] at hhome'
  exact hne ((of_decide_eq_true hhome).symm.trans (of_decide_eq_true hhome'))

/-- Lists found at pairwise different homes hold no name twice when they are
put together. -/
theorem nodup_flatMap_names {α : Type} (hd : Distinct (f.eventTypes.map (·.objectMeta)))
    (hfree : SlashFreeObjects (f.eventTypes.map (·.objectMeta))) {target : ℕ → Home}
    (htarget : Function.Injective target) {xs : List α} {provided : α → List String}
    (hxs : ∀ i x, xs[i]?=some x → provided x=names f (target i)) :
    (xs.flatMap provided).Nodup := by
  rw [List.nodup_flatMap]
  constructor
  · intro x hx
    obtain ⟨i,hi⟩ := List.getElem?_of_mem hx
    rw [hxs i x hi]
    exact names_nodup f hd hfree _
  · rw [List.pairwise_iff_getElem]
    intro i j hi hj hij
    have hne : target i≠target j := fun he => hij.ne (htarget he)
    rw [Function.onFun,hxs i _ (List.getElem?_eq_getElem hi),hxs j _ (List.getElem?_eq_getElem hj)]
    exact names_disjoint f hd hfree hne

/-- An event type of a run is a listed one but for its consumers. -/
theorem fixed_of_mem {store : Store} (h : f.finished=.ok store) {et : EventType}
    (het : et ∈ store.eventTypes) : ∃ resource ∈ f.eventTypes, fixed (convertEventType resource)=fixed et := by
  have hfixed : fixed et ∈ f.convertedEventTypes.map fixed := by
    rw [←map_fixed_eventTypes f h]
    exact List.mem_map_of_mem het
  obtain ⟨converted,hconverted,he⟩ := List.mem_map.mp hfixed
  obtain ⟨resource,hmem,rfl⟩ := (mem_convertedEventTypes f).mp hconverted
  exact ⟨resource,hmem,he⟩

/-- A reference stays in the namespace of its event type. -/
theorem reference_nameSpace {store : Store} (h : f.finished=.ok store) {et : EventType}
    (het : et ∈ store.eventTypes) {reference : GroupKindNamespacedName}
    (hr : et.reference=some reference) : reference.nameSpace=et.nameSpace := by
  obtain ⟨resource,_,he⟩ := fixed_of_mem f h het
  have hreference : (convertEventType resource).reference=some reference :=
    (congrArg EventType.reference he).trans hr
  have hns : resource.objectMeta.nameSpace=et.nameSpace := congrArg EventType.nameSpace he
  dsimp only [convertEventType] at hreference
  obtain ⟨ref,_,rfl⟩ := Option.map_eq_some_iff.mp hreference
  exact hns

/-- The event types of a run are strictly increasing by namespace and name,
whatever the order in which they were listed. -/
theorem eventTypes_strict {store : Store} (h : f.finished=.ok store)
    (hd : Distinct (f.eventTypes.map (·.objectMeta))) :
    store.eventTypes.Pairwise fun a b => toLex (a.nameSpace,a.name) < toLex (b.nameSpace,b.name) := by
  have hs : (f.convertedEventTypes.map fixed).Pairwise fun a b =>
      toLex (a.nameSpace,a.name) < toLex (b.nameSpace,b.name) := by
    rw [Fetched.convertedEventTypes,List.pairwise_map,List.pairwise_map]
    exact sortEventTypes_strict hd
  rw [←map_fixed_eventTypes f h,List.pairwise_map] at hs
  exact hs

/-- Event types of one namespace that are in order have increasing names. -/
theorem names_strict {eventTypes : List EventType} {ns : String}
    (hs : eventTypes.Pairwise fun a b => toLex (a.nameSpace,a.name) < toLex (b.nameSpace,b.name))
    (hns : ∀ et ∈ eventTypes, et.nameSpace=ns) :
    (eventTypes.map (·.name)).Pairwise (· < ·) := by
  rw [List.pairwise_map]
  refine hs.imp_of_mem fun {a b} ha hb hlt => ?_
  rw [Prod.Lex.toLex_lt_toLex] at hlt
  rcases hlt with hlt | ⟨_,hlt⟩
  · rw [hns a ha,hns b hb] at hlt
    exact absurd hlt (lt_irrefl ns)
  · exact hlt

end Homes

/-- A list of names picks event types of the mesh, all of one namespace and
strictly increasing by name. -/
def PicksInOrder (mesh : EventMesh) (ns : String) (provided : List String) : Prop :=
  ∃ eventTypes : List EventType, eventTypes.Sublist mesh.eventTypes.toList ∧
    provided=eventTypes.map (·.namespacedName) ∧ (∀ et ∈ eventTypes, et.nameSpace=ns) ∧
      (eventTypes.map (·.name)).Pairwise (· < ·)

/-- All names that brokers and subscribables list, in one list. -/
def providedNames (mesh : EventMesh) : List String :=
  mesh.brokers.toList.flatMap (·.providedEventTypes.toList)++
    mesh.subscribables.toList.flatMap (·.providedEventTypes.toList)

/-- Registration distributes the event types over brokers and subscribables. -/
structure Partition (mesh : EventMesh) : Prop where
  /-- Event types are told apart by their names. -/
  named : (mesh.eventTypes.toList.map EventType.namespacedName).Nodup
  /-- No name is listed twice, be it at one place or at two. -/
  once : (providedNames mesh).Nodup
  /-- A broker lists the event types that refer to it. -/
  atBroker : ∀ et ∈ mesh.eventTypes.toList, ∀ br ∈ mesh.brokers.toList,
    (et.namespacedName ∈ br.providedEventTypes.toList ↔ et.reference=some (brokerIdentity br))
  /-- A subscribable lists those that refer to it and to no broker. -/
  atSubscribable : ∀ et ∈ mesh.eventTypes.toList, ∀ s ∈ mesh.subscribables.toList,
    (et.namespacedName ∈ s.providedEventTypes.toList ↔
      et.reference=some (subscribableIdentity s) ∧
        ∀ br ∈ mesh.brokers.toList, et.reference≠some (brokerIdentity br))
  brokerOrder : ∀ br ∈ mesh.brokers.toList,
    PicksInOrder mesh br.nameSpace br.providedEventTypes.toList
  subscribableOrder : ∀ s ∈ mesh.subscribables.toList,
    PicksInOrder mesh s.nameSpace s.providedEventTypes.toList

section Mesh

variable {lib : Libraries} {answers : Answers} (f : Fetched lib answers) {store : Store}
  (h : f.finished=.ok store)

include h

/-- A broker of the mesh stands at its position with the names at home there. -/
theorem getElem?_of_mem_brokers {br : Broker} (hbr : br ∈ store.brokers) :
    ∃ i, store.brokers[i]?=some br ∧ br.providedEventTypes=.of (names f (.broker i)) ∧
      ∃ converted, f.convertedBrokers[i]?=some converted ∧ brokerIdentity converted=brokerIdentity br := by
  obtain ⟨i,hi⟩ := List.getElem?_of_mem hbr
  have hget := getElem?_brokers f h i
  rw [hi] at hget
  obtain ⟨converted,hconverted,rfl⟩ := Option.map_eq_some_iff.mp hget.symm
  exact ⟨i,hi,rfl,converted,hconverted,rfl⟩

/-- A subscribable of the mesh stands at its position with the names at home there. -/
theorem getElem?_of_mem_subscribables {s : Subscribable} (hs : s ∈ store.subscribables) :
    ∃ i, store.subscribables[i]?=some s ∧ s.providedEventTypes=.of (names f (.subscribable i)) ∧
      ∃ fetched, f.subscribables.toList[i]?=some fetched ∧
        subscribableIdentity fetched=subscribableIdentity s := by
  obtain ⟨i,hi⟩ := List.getElem?_of_mem hs
  have hget := getElem?_subscribables f h i
  rw [hi] at hget
  obtain ⟨fetched,hfetched,rfl⟩ := Option.map_eq_some_iff.mp hget.symm
  exact ⟨i,hi,rfl,fetched,hfetched,rfl⟩

/-- The brokers of the mesh have the identities of the converted brokers. -/
theorem brokerIdentity_store : store.brokers.map brokerIdentity=f.convertedBrokers.map brokerIdentity := by
  apply List.ext_getElem?
  intro i
  rw [List.getElem?_map,List.getElem?_map,getElem?_brokers f h,Option.map_map]
  rfl

/-- Referring to no broker of the mesh is referring to no converted broker. -/
theorem forall_brokers_iff (reference : Option GroupKindNamespacedName) :
    (∀ br ∈ store.brokers, reference≠some (brokerIdentity br)) ↔
      ∀ br ∈ f.convertedBrokers, reference≠some (brokerIdentity br) := by
  have hmap := brokerIdentity_store f h
  have hiff : ∀ brokers : List Broker, (∀ br ∈ brokers, reference≠some (brokerIdentity br)) ↔
      ∀ identity ∈ brokers.map brokerIdentity, reference≠some identity := by
    intro brokers
    rw [List.forall_mem_map]
  rw [hiff,hiff,hmap]

/-- Names at a home whose event types share a namespace are in order. -/
theorem names_picksInOrder (hd : Distinct (f.eventTypes.map (·.objectMeta))) {target : Home}
    {ns : String} (hns : ∀ et ∈ store.eventTypes, home f et=target → et.nameSpace=ns) :
    PicksInOrder (outputMesh store) ns (names f target) := by
  have hsub : (store.eventTypes.filter (home f ·=target)).Sublist store.eventTypes :=
    List.filter_sublist
  have hsame : ∀ et ∈ store.eventTypes.filter (home f ·=target), et.nameSpace=ns := by
    intro et het
    obtain ⟨hmem,hhome⟩ := List.mem_filter.mp het
    exact hns et hmem (of_decide_eq_true hhome)
  exact ⟨_,hsub,names_eq f h target,hsame,names_strict ((eventTypes_strict f h hd).sublist hsub) hsame⟩

section Names

variable (heventTypes : Distinct (f.eventTypes.map (·.objectMeta)))
  (heventTypesFree : SlashFreeObjects (f.eventTypes.map (·.objectMeta)))

include heventTypes heventTypesFree

/-- Brokers and subscribables together list no name twice. -/
theorem providedNames_nodup : (providedNames (outputMesh store)).Nodup := by
  have hb : ∀ i br, store.brokers[i]?=some br → br.providedEventTypes.toList=names f (.broker i) := by
    intro i br hi
    rw [getElem?_brokers f h] at hi
    obtain ⟨_,_,rfl⟩ := Option.map_eq_some_iff.mp hi
    rfl
  have hs : ∀ i s, store.subscribables[i]?=some s →
      s.providedEventTypes.toList=names f (.subscribable i) := by
    intro i s hi
    rw [getElem?_subscribables f h] at hi
    obtain ⟨_,_,rfl⟩ := Option.map_eq_some_iff.mp hi
    rfl
  have hbrokerNames : (store.brokers.flatMap (·.providedEventTypes.toList)).Nodup :=
    nodup_flatMap_names f heventTypes heventTypesFree (fun _ _ he => Home.broker.inj he) hb
  have hsubscribableNames : (store.subscribables.flatMap (·.providedEventTypes.toList)).Nodup :=
    nodup_flatMap_names f heventTypes heventTypesFree (fun _ _ he => Home.subscribable.inj he) hs
  refine List.nodup_append'.mpr ⟨hbrokerNames,hsubscribableNames,fun name hname hname' => ?_⟩
  obtain ⟨br,hbr,hin⟩ := List.mem_flatMap.mp hname
  obtain ⟨s,hs',hin'⟩ := List.mem_flatMap.mp hname'
  obtain ⟨i,hi⟩ := List.getElem?_of_mem hbr
  obtain ⟨j,hj⟩ := List.getElem?_of_mem hs'
  rw [hb i br hi] at hin
  rw [hs j s hj] at hin'
  exact names_disjoint f heventTypes heventTypesFree Home.noConfusion hin hin'

end Names

section Order

variable (hbrokers : Distinct (f.brokers.map (·.objectMeta)))
  (hbrokersFree : SlashFreeObjects (f.brokers.map (·.objectMeta)))
  (heventTypes : Distinct (f.eventTypes.map (·.objectMeta)))
  (hsubscribables : (f.subscribables.toList.map subscribableIdentity).Nodup)
  (hsubscribablesFree : ∀ s ∈ f.subscribables.toList, GKSlashFree (subscribableIdentity s))

include heventTypes hbrokersFree

include hbrokers in
/-- A broker lists event types of its own namespace in the order of their names. -/
theorem broker_picksInOrder {br : Broker} (hbr : br ∈ store.brokers) :
    PicksInOrder (outputMesh store) br.nameSpace br.providedEventTypes.toList := by
  obtain ⟨i,_,hprovided,converted,hconverted,hid⟩ := getElem?_of_mem_brokers f h hbr
  rw [hprovided]
  refine names_picksInOrder f h heventTypes fun et het hhome => ?_
  obtain ⟨other,hother,hr⟩ := (home_eq_broker_iff f hbrokers hbrokersFree et i).mp hhome
  rw [hconverted] at hother
  cases hother
  rw [←reference_nameSpace f h het hr,hid]
  rfl

include hsubscribables hsubscribablesFree in
/-- A subscribable lists event types of its own namespace in the order of their
names. -/
theorem subscribable_picksInOrder {s : Subscribable} (hs : s ∈ store.subscribables) :
    PicksInOrder (outputMesh store) s.nameSpace s.providedEventTypes.toList := by
  obtain ⟨i,_,hprovided,fetched,hfetched,hid⟩ := getElem?_of_mem_subscribables f h hs
  rw [hprovided]
  refine names_picksInOrder f h heventTypes fun et het hhome => ?_
  obtain ⟨⟨other,hother,hr⟩,_⟩ :=
    (home_eq_subscribable_iff f hbrokersFree hsubscribables hsubscribablesFree et i).mp hhome
  rw [hfetched] at hother
  cases hother
  rw [←reference_nameSpace f h het hr,hid]
  rfl

end Order

section Places

variable (hbrokers : Distinct (f.brokers.map (·.objectMeta)))
  (hbrokersFree : SlashFreeObjects (f.brokers.map (·.objectMeta)))
  (heventTypes : Distinct (f.eventTypes.map (·.objectMeta)))
  (heventTypesFree : SlashFreeObjects (f.eventTypes.map (·.objectMeta)))
  (hsubscribables : (f.subscribables.toList.map subscribableIdentity).Nodup)
  (hsubscribablesFree : ∀ s ∈ f.subscribables.toList, GKSlashFree (subscribableIdentity s))
  {et : EventType} (het : et ∈ store.eventTypes)

include hbrokersFree heventTypes heventTypesFree het

include hbrokers in
/-- A broker lists exactly the event types that refer to it. -/
theorem mem_broker_iff {br : Broker} (hbr : br ∈ store.brokers) :
    et.namespacedName ∈ br.providedEventTypes.toList ↔ et.reference=some (brokerIdentity br) := by
  obtain ⟨i,_,hprovided,converted,hconverted,hid⟩ := getElem?_of_mem_brokers f h hbr
  rw [hprovided,Slice.toList_of,mem_names_iff f h heventTypes heventTypesFree het,
    home_eq_broker_iff f hbrokers hbrokersFree,hconverted,←hid]
  simp

include hsubscribables hsubscribablesFree in
/-- A subscribable lists exactly the event types that refer to it and to no broker. -/
theorem mem_subscribable_iff {s : Subscribable} (hs : s ∈ store.subscribables) :
    et.namespacedName ∈ s.providedEventTypes.toList ↔
      et.reference=some (subscribableIdentity s) ∧
        ∀ br ∈ store.brokers, et.reference≠some (brokerIdentity br) := by
  obtain ⟨i,_,hprovided,fetched,hfetched,hid⟩ := getElem?_of_mem_subscribables f h hs
  have hnone := forall_brokers_iff f h et.reference
  rw [hprovided,Slice.toList_of,mem_names_iff f h heventTypes heventTypesFree het,
    home_eq_subscribable_iff f hbrokersFree hsubscribables hsubscribablesFree,hfetched,←hid,hnone]
  simp

end Places

end Mesh

/-- Every name that a broker or a subscribable lists stands there once, at the
one place its event type refers to, and every list is in order. -/
theorem buildEventMesh_partition {lib : Libraries} {answers : Answers} (f : Fetched lib answers)
    {mesh : EventMesh} (hmesh : buildEventMesh lib answers=.ok mesh)
    (hbrokers : Distinct (f.brokers.map (·.objectMeta)))
    (hbrokersFree : SlashFreeObjects (f.brokers.map (·.objectMeta)))
    (heventTypes : Distinct (f.eventTypes.map (·.objectMeta)))
    (heventTypesFree : SlashFreeObjects (f.eventTypes.map (·.objectMeta)))
    (hsubscribables : (f.subscribables.toList.map subscribableIdentity).Nodup)
    (hsubscribablesFree : ∀ s ∈ f.subscribables.toList, GKSlashFree (subscribableIdentity s)) :
    Partition mesh := by
  obtain ⟨store,h,rfl⟩ := f.buildEventMesh_eq_ok_iff.mp hmesh
  constructor
  · exact eventTypes_nodup f h heventTypes heventTypesFree
  · exact providedNames_nodup f h heventTypes heventTypesFree
  · intro et het br hbr
    exact mem_broker_iff f h hbrokers hbrokersFree heventTypes heventTypesFree het hbr
  · intro et het s hs
    exact mem_subscribable_iff f h hbrokersFree heventTypes heventTypesFree hsubscribables
      hsubscribablesFree het hs
  · intro br hbr
    exact broker_picksInOrder f h hbrokers hbrokersFree heventTypes hbr
  · intro s hs
    exact subscribable_picksInOrder f h hbrokersFree heventTypes hsubscribables hsubscribablesFree hs

/-- One broker and one channel, listed with an event type of each. -/
def twoHomes : Contents :=
  { brokers := [⟨bareMeta "shop" "main"⟩]
    eventTypes :=
      [bareEventType "shop" "refund" "shop.refund"
        (some ⟨"InMemoryChannel","shop","audit","messaging.knative.dev/v1"⟩),
       bareEventType "shop" "order" "shop.order"
        (some ⟨"Broker","shop","main","eventing.knative.dev/v1"⟩)]
    triggers := []
    subscriptions := []
    objects := [(crdResource,inMemoryChannelCRD),
      (inMemoryChannels,manifest "InMemoryChannel" "shop" "audit" [])] }

/-- What a run over the two homes fetches. -/
def twoHomesFetched : Fetched (librariesWith []) (snapshot twoHomes.cluster) :=
  @Contents.fetched twoHomes (librariesWith [])
    (.of [⟨none,"messaging.knative.dev","InMemoryChannel",some ∅,"audit","shop",.of [],""⟩]) (.of [])
    rfl rfl

/-- A run with an event type at a broker and one at a channel. -/
theorem buildEventMesh_partition_twoHomes :
    ∃ mesh, buildEventMesh (librariesWith []) (snapshot twoHomes.cluster)=.ok mesh ∧
      providedNames mesh=["shop/order","shop/refund"] ∧ Partition mesh := by
  have hrun : buildEventMesh (librariesWith []) (snapshot twoHomes.cluster)=
      .ok (outputMesh twoHomesFetched.triggered) := twoHomesFetched.buildEventMesh_eq
  exact ⟨_,hrun,by decide,buildEventMesh_partition twoHomesFetched hrun (by decide) (by decide)
    (by decide) (by decide) (by decide) (by decide)⟩

end KnativeMesh.Registration
