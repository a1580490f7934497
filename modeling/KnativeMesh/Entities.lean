import KnativeMesh.Registration
import KnativeMesh.Wire

/-!
# The entities of a cluster

The entity of a resource is stated on the resource itself, given the relations
that the backend found for it. Converting, encoding, decoding and building
entities give exactly these entities, one for each resource and in order.
-/

namespace KnativeMesh.Entities

open Go UnstructuredObject Kubernetes Mesh Converters Builder Passes Runs Listing Fetches
open ClusterContents Registration Wire Library.Index
open Provider (Entity EntityLink StringRecord KnativeEventMeshProvider)

section Specification

variable (provider : KnativeEventMeshProvider)

/-- The annotations of a resource without the excluded ones, and with both
locations set to the provider's URL. -/
def entityAnnotations (annotations : StringMap) : StringRecord :=
  let url := "url:"++provider.baseUrl
  (((annotations.getD ∅).filter fun key _ => key ∉ excludedAnnotations).insert
    Provider.annotationLocation url).insert Provider.annotationOriginLocation url

/-- The API entity of an event type with some consumers. -/
def apiOf (et : EventTypeResource) (consumedBy : List String) : Entity :=
  { apiVersion := "backstage.io/v1alpha1", kind := "API"
    metadata :=
      { name := et.objectMeta.name, nameSpace := et.objectMeta.nameSpace
        description := if et.spec.description="" then none else some et.spec.description
        labels := et.objectMeta.labels.getD ∅
        annotations := entityAnnotations provider et.objectMeta.annotations
        tags := []
        links := some (if et.spec.schema.getD ""="" then []
          else [⟨"View external schema","scaffolder",et.spec.schema.getD ""⟩])
        title := some
          (et.spec.type++" - ("++et.objectMeta.nameSpace++"/"++et.objectMeta.name++")")
        consumedBy := some consumedBy }
    spec :=
      { type := "eventType", lifecycle := provider.env, system := "knative-event-mesh"
        owner := "knative"
        definition := some (if et.spec.schemaData="" then "{}" else et.spec.schemaData)
        providesApis := none } }

/-- The component entity of a resource that provides some event types. -/
def componentOf (ns name : String) (labels annotations : StringMap) (type : String)
    (provided : List String) : Entity :=
  { apiVersion := "backstage.io/v1alpha1", kind := "Component"
    metadata :=
      { name, nameSpace := ns, description := none, labels := labels.getD ∅
        annotations := entityAnnotations provider annotations
        tags := [], links := none, title := none, consumedBy := none }
    spec :=
      { type, lifecycle := provider.env, system := "knative-event-mesh", owner := "knative"
        definition := none, providesApis := some (provided.map ("api:"++·)) } }

/-- The component entity of a broker. -/
def brokerComponent (br : BrokerResource) (provided : List String) : Entity :=
  componentOf provider br.objectMeta.nameSpace br.objectMeta.name br.objectMeta.labels
    br.objectMeta.annotations "broker" provided

/-- The component entity of an instance of a subscribable or source CRD. -/
def instanceComponent (i : Instance) (provided : List String) : Entity :=
  componentOf provider i.object.getNamespace i.object.getName i.object.getLabels
    i.object.getAnnotations (i.gvr.group++":"++i.object.getKind) provided

end Specification

/-- Everything of a broker but the event types that it provides. -/
def brokerFixed (br : Broker) : Broker := {br with providedEventTypes := .of []}

/-- Everything of a subscribable but the event types that it provides. -/
def subscribableFixed (s : Subscribable) : Subscribable := {s with providedEventTypes := .of []}

/-- Everything of a source but the event types that it provides. -/
def sourceFixed (source : Source) : Source := {source with providedEventTypes := .of []}

/-- Lists with the same projections are related element by element. -/
theorem forall₂_of_map_eq {α β γ : Type} {first : α → γ} {second : β → γ} {xs : List α} {ys : List β}
    (h : xs.map first=ys.map second) : List.Forall₂ (fun x y => first x=second y) xs ys := by
  have hall : List.Forall₂ (· = ·) (xs.map first) (ys.map second) := by
    rw [List.forall₂_eq_eq_eq]
    exact h
  rwa [List.forall₂_map_left_iff,List.forall₂_map_right_iff] at hall

/-- What is built from the elements of a list is built from the elements that
they are related to, if it is so one by one. -/
theorem map_eq_zipWith {α β γ δ : Type} {R : α → β → Prop} {build : β → γ} {spec : α → δ → γ}
    {get : β → δ} (hR : ∀ x y, R x y → build y=spec x (get y)) {xs : List α} {ys : List β}
    (h : List.Forall₂ R xs ys) : ys.map build=List.zipWith spec xs (ys.map get) := by
  induction h with
  | nil => rfl
  | cons hxy _ ih => rw [List.map_cons,List.map_cons,List.zipWith_cons_cons,hR _ _ hxy,ih]

section Resources

variable {lib : Libraries} {answers : Answers} (f : Fetched lib answers) {store : Store}
  (h : f.finished=.ok store)

include h

/-- The event types of a run are the converted ones but for their consumers. -/
theorem eventTypes_forall₂ : List.Forall₂ (fun resource et => fixed (convertEventType resource)=fixed et)
    (sortEventTypes f.eventTypes) store.eventTypes := by
  have hmap := map_fixed_eventTypes f h
  rw [Fetched.convertedEventTypes,List.map_map] at hmap
  exact forall₂_of_map_eq hmap.symm

/-- The brokers of a run are the converted ones but for what they provide. -/
theorem brokers_forall₂ : List.Forall₂ (fun resource br => convertBroker resource=brokerFixed br)
    f.brokers store.brokers := by
  apply forall₂_of_map_eq
  apply List.ext_getElem?
  intro i
  rw [List.getElem?_map,List.getElem?_map,getElem?_brokers f h,Fetched.convertedBrokers,
    List.getElem?_map,Option.map_map,Option.map_map]
  rfl

/-- The subscribables of a run are the converted instances but for what they provide. -/
theorem subscribables_forall₂ : ∃ instances, listedSubscribables lib answers=.ok instances ∧
    List.Forall₂ (fun i s => convertSubscribable i.gvr i.object=subscribableFixed s)
      instances.toList store.subscribables := by
  obtain ⟨instances,hlisted,hmap⟩ := fetchSubscribables_map f.subscribables_ok
  refine ⟨instances,hlisted,forall₂_of_map_eq ?_⟩
  rw [hmap]
  apply List.ext_getElem?
  intro i
  rw [List.getElem?_map,getElem?_subscribables f h,Option.map_map]
  cases hs : f.subscribables.toList[i]? with
  | none => rfl
  | some s =>
    have hprovides := fetchSubscribables_provides_nothing f.subscribables_ok
      (List.mem_of_getElem? hs)
    change some s=some (subscribableFixed s)
    dsimp only [subscribableFixed]
    rw [←hprovides]

/-- The sources of a run are the converted instances but for what they provide. -/
theorem sources_forall₂ : ∃ instances, listedSources lib answers=.ok instances ∧
    List.Forall₂ (fun i source => convertSource lib i.gvr i.crd i.object=.ok (sourceFixed source))
      instances.toList store.sources := by
  obtain ⟨instances,hlisted,hall⟩ := fetchSources_forall₂ f.sources_ok
  refine ⟨instances,hlisted,?_⟩
  rw [(f.finished_frame h).sources,registered_sources,List.forall₂_map_right_iff]
  refine hall.imp fun i source hconvert => ?_
  obtain ⟨announced,_,hsource⟩ := bind_eq_ok.mp hconvert
  rw [hconvert]
  cases hsource
  rfl

end Resources

section Build

variable (provider : KnativeEventMeshProvider)

/-- The provider's defaults for nil annotations and the filter's nil for empty
ones lead to the same entity annotations. -/
theorem locate_filterAnnotations (annotations : StringMap) :
    provider.locate (filterAnnotations annotations)=entityAnnotations provider annotations := by
  cases annotations with
  | none => rfl
  | some annotations =>
    dsimp only [filterAnnotations]
    split
    · next hempty =>
      have hnil := Std.ExtTreeMap.isEmpty_iff.mp hempty
      dsimp only [entityAnnotations]
      rw [Option.getD_some,hnil]
      rfl
    · rfl

/-- What a key of entity annotations leads to: the URL at the two locations,
nothing at an excluded key, and else what the resource has. -/
theorem getElem?_entityAnnotations (annotations : StringMap) (key : String) :
    (entityAnnotations provider annotations)[key]?=
      if key=Provider.annotationLocation ∨ key=Provider.annotationOriginLocation then
        some ("url:"++provider.baseUrl)
      else if key ∈ excludedAnnotations then none else annotations.get key := by
  have hlocate : entityAnnotations provider annotations=provider.locate
      (some ((annotations.getD ∅).filter fun key _ => key ∉ excludedAnnotations)) := rfl
  rw [hlocate,KnativeEventMeshProvider.getElem?_locate,Option.getD_some,
    Std.ExtTreeMap.getElem?_filter']
  have hget : (annotations.getD ∅)[key]?=annotations.get key := by
    cases annotations with
    | none => exact Std.ExtTreeMap.getElem?_empty
    | some m => rfl
  rw [hget]
  congr 1
  by_cases hexcluded : key ∈ excludedAnnotations
  · cases annotations.get key <;> simp [hexcluded]
  · cases annotations.get key <;> simp [hexcluded]

/-- What the provider sees of a slice has the same elements, nil or not. -/
theorem receivedStrings_getD (slice : Slice String) :
    (receivedStrings slice).getD []=slice.toList := by
  cases slice <;> rfl

/-- Links are made of a URL that is not empty. -/
theorem schemaLinks_toStrPtrOrNil (url : String) :
    KnativeEventMeshProvider.schemaLinks (toStrPtrOrNil url)=
      if url="" then [] else [⟨"View external schema","scaffolder",url⟩] := by
  dsimp only [toStrPtrOrNil,KnativeEventMeshProvider.schemaLinks]
  by_cases hempty : url=""
  · simp only [hempty,if_true]
  · simp only [hempty,if_false]

/-- A definition is taken from data that is not empty. -/
theorem orDefault_toStrPtrOrNil (value default : String) :
    KnativeEventMeshProvider.orDefault (toStrPtrOrNil value) default=
      if value="" then default else value := by
  dsimp only [toStrPtrOrNil,KnativeEventMeshProvider.orDefault]
  by_cases hempty : value=""
  · simp only [hempty,if_true]
  · simp only [hempty,if_false]

/-- The API entity of a received event type is that of its resource. -/
theorem buildEventTypeEntity_received {resource : EventTypeResource} {et : EventType}
    (hfixed : fixed (convertEventType resource)=fixed et) :
    provider.buildEventTypeEntity (receivedEventType et)=apiOf provider resource et.consumedBy.toList := by
  have het : et={convertEventType resource with consumedBy := et.consumedBy} :=
    (congrArg (fun x : EventType => {x with consumedBy := et.consumedBy}) hfixed).symm
  generalize et.consumedBy=consumedBy at het ⊢
  subst het
  dsimp only [KnativeEventMeshProvider.buildEventTypeEntity,receivedEventType,convertEventType,apiOf]
  rw [locate_filterAnnotations,receivedStrings_getD,schemaLinks_toStrPtrOrNil,orDefault_toStrPtrOrNil]
  rfl

/-- References to provided APIs are made of what a resource provides. -/
theorem providedApis_received (slice : Slice String) :
    KnativeEventMeshProvider.providedApis (receivedStrings slice)=slice.toList.map ("api:"++·) := by
  dsimp only [KnativeEventMeshProvider.providedApis]
  rw [receivedStrings_getD]

/-- The component entity of a received broker is that of its resource. -/
theorem buildBrokerEntity_received {resource : BrokerResource} {br : Broker}
    (hfixed : convertBroker resource=brokerFixed br) :
    provider.buildBrokerEntity (receivedBroker br)=
      brokerComponent provider resource br.providedEventTypes.toList := by
  have hbr : br={convertBroker resource with providedEventTypes := br.providedEventTypes} :=
    (congrArg (fun x : Broker => {x with providedEventTypes := br.providedEventTypes}) hfixed).symm
  generalize br.providedEventTypes=provided at hbr ⊢
  subst hbr
  unfold KnativeEventMeshProvider.buildBrokerEntity receivedBroker convertBroker brokerComponent
    componentOf
  dsimp only
  rw [locate_filterAnnotations,providedApis_received]
  rfl

/-- The component entity of a received subscribable is that of its instance. -/
theorem buildSubscribableEntity_received {i : Instance} {s : Subscribable}
    (hfixed : convertSubscribable i.gvr i.object=subscribableFixed s) :
    provider.buildSubscribableEntity (receivedSubscribable s)=
      instanceComponent provider i s.providedEventTypes.toList := by
  have hs : s={convertSubscribable i.gvr i.object with providedEventTypes := s.providedEventTypes} :=
    (congrArg (fun x : Subscribable => {x with providedEventTypes := s.providedEventTypes}) hfixed).symm
  generalize s.providedEventTypes=provided at hs ⊢
  subst hs
  unfold KnativeEventMeshProvider.buildSubscribableEntity receivedSubscribable convertSubscribable
    instanceComponent componentOf
  dsimp only
  rw [locate_filterAnnotations,providedApis_received]
  rfl

/-- The component entity of a received source is that of its instance. -/
theorem buildSourceEntity_received {lib : Libraries} {i : Instance} {source : Source}
    (hfixed : convertSource lib i.gvr i.crd i.object=.ok (sourceFixed source)) :
    provider.buildSourceEntity (receivedSource source)=
      instanceComponent provider i source.providedEventTypes.toList := by
  obtain ⟨announced,_,hconverted⟩ := bind_eq_ok.mp hfixed
  have hsource := congrArg (fun x : Source => {x with providedEventTypes := source.providedEventTypes})
    (Except.ok.inj hconverted)
  dsimp only [sourceFixed] at hsource
  change _=source at hsource
  generalize source.providedEventTypes=provided at hsource ⊢
  subst hsource
  dsimp only [KnativeEventMeshProvider.buildSourceEntity,receivedSource,instanceComponent,componentOf]
  rw [locate_filterAnnotations,providedApis_received]
  rfl

end Build

/-- Encoding the mesh, reading it in the provider and building entities gives
one entity for each resource of the cluster, in order: APIs of the event types
by namespace and name, and components of brokers, subscribables and sources. -/
theorem buildEntities_decodeMesh {lib : Libraries} {answers : Answers} (f : Fetched lib answers)
    {mesh : EventMesh} (hmesh : buildEventMesh lib answers=.ok mesh)
    (provider : KnativeEventMeshProvider) :
    ∃ decoded eventTypes subscribables sources,
      decodeMesh (encodeMesh mesh)=some decoded ∧
      eventTypes.Perm f.eventTypes ∧
      eventTypes.Pairwise (fun a b => identity a.objectMeta ≤ identity b.objectMeta) ∧
      listedSubscribables lib answers=.ok subscribables ∧ listedSources lib answers=.ok sources ∧
      List.Forall₂ (fun resource et => fixed (convertEventType resource)=fixed et) eventTypes
        mesh.eventTypes.toList ∧
      List.Forall₂ (fun resource br => convertBroker resource=brokerFixed br) f.brokers
        mesh.brokers.toList ∧
      List.Forall₂ (fun i s => convertSubscribable i.gvr i.object=subscribableFixed s)
        subscribables.toList mesh.subscribables.toList ∧
      List.Forall₂ (fun i source => convertSource lib i.gvr i.crd i.object=.ok (sourceFixed source))
        sources.toList mesh.sources.toList ∧
      provider.buildEntities decoded=
        List.zipWith (apiOf provider) eventTypes
            (mesh.eventTypes.toList.map (·.consumedBy.toList))++
          List.zipWith (brokerComponent provider) f.brokers
            (mesh.brokers.toList.map (·.providedEventTypes.toList))++
          List.zipWith (instanceComponent provider) subscribables.toList
            (mesh.subscribables.toList.map (·.providedEventTypes.toList))++
          List.zipWith (instanceComponent provider) sources.toList
            (mesh.sources.toList.map (·.providedEventTypes.toList)) := by
  obtain ⟨store,h,rfl⟩ := f.buildEventMesh_eq_ok_iff.mp hmesh
  have heventTypes := eventTypes_forall₂ f h
  have hbrokers := brokers_forall₂ f h
  obtain ⟨subscribables,hlistedSubscribables,hsubscribables⟩ := subscribables_forall₂ f h
  obtain ⟨sources,hlistedSources,hsources⟩ := sources_forall₂ f h
  refine ⟨_,_,subscribables,sources,decodeMesh_encodeMesh _ _ _ _,sortEventTypes_perm f.eventTypes,
    sortEventTypes_sorted f.eventTypes,hlistedSubscribables,hlistedSources,heventTypes,hbrokers,
    hsubscribables,hsources,?_⟩
  dsimp only [KnativeEventMeshProvider.buildEntities]
  rw [List.map_map,List.map_map,List.map_map,List.map_map]
  have hapis := map_eq_zipWith (fun _ _ hx => buildEventTypeEntity_received provider hx) heventTypes
  have hbrokerEntities := map_eq_zipWith (fun _ _ hx => buildBrokerEntity_received provider hx) hbrokers
  have hsubscribableEntities :=
    map_eq_zipWith (fun _ _ hx => buildSubscribableEntity_received provider hx) hsubscribables
  have hsourceEntities := map_eq_zipWith (fun _ _ hx => buildSourceEntity_received provider hx) hsources
  exact congrArg₂ (·++·) (congrArg₂ (·++·) (congrArg₂ (·++·) hapis hbrokerEntities)
    hsubscribableEntities) hsourceEntities

/-- A provider of one cluster. -/
def devProvider : KnativeEventMeshProvider := ⟨"dev","http://localhost:8080",some "token"⟩

/-- Two event types, a broker and a channel become four entities. -/
theorem buildEntities_decodeMesh_twoHomes :
    ∃ mesh decoded, buildEventMesh (librariesWith []) (snapshot twoHomes.cluster)=.ok mesh ∧
      decodeMesh (encodeMesh mesh)=some decoded ∧ (devProvider.buildEntities decoded).length=4 := by
  have hrun : buildEventMesh (librariesWith []) (snapshot twoHomes.cluster)=
      .ok (outputMesh twoHomesFetched.triggered) := twoHomesFetched.buildEventMesh_eq
  obtain ⟨decoded,_,_,_,hdecoded,_,_,_,_,heventTypes,_,hsubscribables,hsources,hentities⟩ :=
    buildEntities_decodeMesh twoHomesFetched hrun devProvider
  refine ⟨_,decoded,hrun,hdecoded,?_⟩
  rw [hentities]
  simp only [List.length_append,List.length_zipWith,List.length_map]
  rw [heventTypes.length_eq,hsubscribables.length_eq,hsources.length_eq]
  decide

end KnativeMesh.Entities
