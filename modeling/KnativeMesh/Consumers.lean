import KnativeMesh.Triggers
import KnativeMesh.Entities
import KnativeMesh.Processor

/-!
# Consumers from the cluster to the catalog

The builder looks a subscriber up in the subscriber's own namespace and keeps
its label only; the processor looks the label up in the namespace of the event
type. What arrives in the catalog is stated on the subscribers of the matching
triggers and on the components of the catalog.
-/

namespace KnativeMesh.Consumers

open Go UnstructuredObject Kubernetes Mesh Converters Builder Runs Listing ClusterContents
open Registration Triggers Wire Entities Processor Library.Paging
open Provider (Entity KnativeEventMeshProvider)

/-- Namespace and label of the subscriber of a trigger, if it is an object with
the label. -/
def labelledSubscriber (lib : Libraries) (dynamicClient : DynamicClient) (trigger : TriggerResource) :
    Option (String×String) :=
  trigger.spec.subscriber.ref.bind fun ref =>
    (subscriberLabel lib dynamicClient ref).map (ref.nameSpace,·)

/-- A trigger contributes the label of its subscriber, unless it is empty. -/
theorem triggerConsumer_eq_some_iff (lib : Libraries) (dynamicClient : DynamicClient)
    (brokers : List BrokerResource) (trigger : TriggerResource) (et : EventType) (id : String) :
    triggerConsumer lib dynamicClient brokers trigger et=some id ↔
      id≠"" ∧ subscribedTo brokers trigger et ∧
        ∃ ns, labelledSubscriber lib dynamicClient trigger=some (ns,id) := by
  dsimp only [triggerConsumer,labelledSubscriber]
  cases trigger.spec.subscriber.ref with
  | none => simp
  | some ref =>
    rw [Option.bind_some,Option.bind_some]
    cases subscriberLabel lib dynamicClient ref with
    | none => simp
    | some label =>
      simp only [Option.map_some,Option.some.injEq,Prod.mk.injEq]
      constructor
      · intro h
        split at h
        · next hcontributes =>
          cases h
          exact ⟨hcontributes.1,hcontributes.2,_,rfl,rfl⟩
        · cases h
      · intro hp
        rcases hp with ⟨hne,hsubscribed,_,_,rfl⟩
        rw [if_pos ⟨hne,hsubscribed⟩]

section Run

variable {lib : Libraries} {answers : Answers} (f : Fetched lib answers)

/-- Namespaces and labels of the subscribers whose triggers match an event type. -/
def matchingSubscribers (et : EventType) : List (String×String) :=
  f.triggers.zipIdx.filterMap fun trigger =>
    if subscribedTo f.brokers trigger.1 et then
      labelledSubscriber lib (answers (.triggerSubscriber trigger.2)).dynamicClient trigger.1
    else none

/-- The consumers of an event type are the labels of the matching subscribers
that are not empty. -/
theorem mem_triggerConsumers_iff (et : EventType) (id : String) :
    id ∈ triggerConsumers f et ↔ id≠"" ∧ ∃ ns, (ns,id) ∈ matchingSubscribers f et := by
  dsimp only [triggerConsumers,matchingSubscribers]
  simp only [List.mem_filterMap,triggerConsumer_eq_some_iff]
  constructor
  · intro hp
    rcases hp with ⟨trigger,htrigger,hne,hsubscribed,ns,hlabelled⟩
    refine ⟨hne,ns,trigger,htrigger,?_⟩
    rw [if_pos hsubscribed,hlabelled]
  · intro hp
    rcases hp with ⟨hne,ns,trigger,htrigger,hmatch⟩
    split at hmatch
    · next hsubscribed => exact ⟨trigger,htrigger,hne,hsubscribed,ns,hmatch⟩
    · cases hmatch

/-- An event type of a mesh without subscriptions lists the consumers of its
triggers, and matches the same triggers as the converted one. -/
theorem consumedBy_of_mem (hsubscriptions : f.subscriptions=[])
    (hbrokers : Distinct (f.brokers.map (·.objectMeta)))
    (hbrokersFree : SlashFreeObjects (f.brokers.map (·.objectMeta)))
    (heventTypes : Distinct (f.eventTypes.map (·.objectMeta)))
    (heventTypesFree : SlashFreeObjects (f.eventTypes.map (·.objectMeta)))
    {mesh : EventMesh} (hmesh : buildEventMesh lib answers=.ok mesh) {et : EventType}
    (het : et ∈ mesh.eventTypes.toList) : et.consumedBy=.of (triggerConsumers f et) := by
  obtain ⟨store,hfinished,rfl⟩ := f.buildEventMesh_eq_ok_iff.mp hmesh
  have hstore : store=f.triggered := by
    dsimp only [Fetched.finished] at hfinished
    rw [hsubscriptions] at hfinished
    exact (Except.ok.inj hfinished).symm
  subst hstore
  obtain ⟨j,hj⟩ := List.getElem?_of_mem het
  change f.triggered.eventTypes[j]?=some et at hj
  rw [getElem?_triggered f hbrokers hbrokersFree heventTypes heventTypesFree] at hj
  obtain ⟨converted,_,rfl⟩ := Option.map_eq_some_iff.mp hj
  exact congrArg Slice.of (triggerConsumers_fixed f _)

end Run

/-- A component in a namespace with an id. -/
def componentAt (subscriber : String×String) (component : Entity) : Prop :=
  isComponent component ∧ component.metadata.nameSpace=subscriber.1 ∧
    kubernetesId component=some subscriber.2

instance (subscriber : String×String) (component : Entity) :
    Decidable (componentAt subscriber component) := inferInstanceAs (Decidable (_ ∧ _ ∧ _))

/-- Consumers keep their identity: every component at a matching subscriber is
related to the API, and every component related to it is at one. -/
structure ConsumersKept (subscribers : List (String×String)) (catalog : Catalog) (entity : Entity)
    (relations : List Relation) : Prop where
  related : ∀ subscriber ∈ subscribers, ∀ component ∈ catalog.entities,
    componentAt subscriber component →
      ⟨"apiConsumedBy",apiRef entity,componentRef component⟩ ∈ relations
  sound : ∀ relation ∈ relations, relation.type="apiConsumedBy" →
    ∃ component ∈ catalog.entities, relation.target=componentRef component ∧
      ∃ subscriber ∈ subscribers, componentAt subscriber component

/-- Subscribers that the processor can tell apart by their labels alone: a
component at a subscriber is in the namespace of the event type and has an id,
and a component in that namespace with the label of a subscriber is at one. -/
structure KnownByLabel (ns : String) (subscribers : List (String×String)) (catalog : Catalog) :
    Prop where
  home : ∀ subscriber ∈ subscribers, ∀ component ∈ catalog.entities,
    componentAt subscriber component → lowerCase subscriber.1=lowerCase ns ∧ subscriber.2≠""
  namesake : ∀ subscriber ∈ subscribers, subscriber.2≠"" → ∀ component ∈ catalog.entities,
    isComponent component → lowerCase component.metadata.nameSpace=lowerCase ns →
      (kubernetesId component).map lowerCase=some (lowerCase subscriber.2) →
        ∃ other ∈ subscribers, componentAt other component

/-- Components of a catalog are the same if relations refer to them alike. -/
theorem eq_of_componentRef (catalog : Catalog) {first second : Entity}
    (hfirst : first ∈ catalog.entities) (hsecond : second ∈ catalog.entities)
    (hcomponent : isComponent first) (hcomponent' : isComponent second)
    (h : componentRef first=componentRef second) : first=second := by
  apply List.inj_on_of_nodup_map catalog.distinct hfirst hsecond
  have hns : first.metadata.nameSpace=second.metadata.nameSpace := congrArg (·.nameSpace) h
  have hname : first.metadata.name=second.metadata.name := congrArg (·.name) h
  dsimp only [entityKey]
  rw [hcomponent,hcomponent',hns,hname]

/-- The only relation of its type between an API and a component. -/
theorem mem_relationsBetween_iff {entity component : Entity} {relation : Relation}
    (htype : relation.type="apiConsumedBy") : relation ∈ relationsBetween entity component ↔
      relation=⟨"apiConsumedBy",apiRef entity,componentRef component⟩ := by
  dsimp only [relationsBetween]
  rw [List.mem_cons,List.mem_singleton]
  constructor
  · rintro (h | h)
    · exact h
    · have hother : "consumesApi"="apiConsumedBy" := by
        rw [h] at htype
        exact htype
      exact absurd hother (by decide)
  · exact .inl

section Relations

variable {subscribers : List (String×String)} {catalog : Catalog} {entity : Entity}
  {consumers : List String} {relations : List Relation}
  {matching : List (String×String) → Entity → Prop} (hmatching : MatchesFields matching)
  (hconsumers : ∀ id, id ∈ consumers ↔ id≠"" ∧ ∃ ns, (ns,id) ∈ subscribers)
  (hrelations : ∀ relation, relation ∈ relations ↔
    ∃ consumer ∈ consumers, ∃ component ∈ catalog.entities,
      matching (componentFilter entity.metadata.nameSpace consumer) component ∧
        relation ∈ relationsBetween entity component)

include hmatching hconsumers hrelations

/-- The components that an API is said to be consumed by. -/
theorem mem_relations_iff {relation : Relation} (htype : relation.type="apiConsumedBy") :
    relation ∈ relations ↔ ∃ subscriber ∈ subscribers, subscriber.2≠"" ∧
      ∃ component ∈ catalog.entities,
        (isComponent component ∧
          lowerCase component.metadata.nameSpace=lowerCase entity.metadata.nameSpace ∧
          (kubernetesId component).map lowerCase=some (lowerCase subscriber.2)) ∧
        relation=⟨"apiConsumedBy",apiRef entity,componentRef component⟩ := by
  simp only [hrelations,hconsumers,matching_componentFilter_iff hmatching,
    mem_relationsBetween_iff htype]
  constructor
  · intro hp
    rcases hp with ⟨id,⟨hne,ns,hmem⟩,hcomponent⟩
    exact ⟨(ns,id),hmem,hne,hcomponent⟩
  · intro hp
    rcases hp with ⟨⟨ns,id⟩,hmem,hne,hcomponent⟩
    exact ⟨id,⟨hne,ns,hmem⟩,hcomponent⟩

/-- Consumers that keep their identity are known by their labels. -/
theorem knownByLabel_of_consumersKept
    (hkept : ConsumersKept subscribers catalog entity relations) :
    KnownByLabel entity.metadata.nameSpace subscribers catalog := by
  constructor
  · intro subscriber hsubscriber component hcomponent hat
    have hemitted := hkept.related subscriber hsubscriber component hcomponent hat
    obtain ⟨other,_,hne,found,hfound,⟨hisComponent,hns,hid⟩,hrelation⟩ :=
      (mem_relations_iff hmatching hconsumers hrelations rfl).mp hemitted
    have htarget : componentRef component=componentRef found := congrArg Relation.target hrelation
    have hsame : found=component :=
      eq_of_componentRef catalog hfound hcomponent hisComponent hat.1 htarget.symm
    subst hsame
    rw [hat.2.1] at hns
    rw [hat.2.2,Option.map_some] at hid
    have hlower : lowerCase subscriber.2=lowerCase other.2 := Option.some.inj hid
    refine ⟨hns,fun hempty => hne ?_⟩
    rw [hempty] at hlower
    exact (lowerCase_eq_empty_iff other.2).mp hlower.symm
  · intro subscriber hsubscriber hne component hcomponent hisComponent hns hid
    have hemitted := (mem_relations_iff hmatching hconsumers hrelations rfl).mpr
      ⟨subscriber,hsubscriber,hne,component,hcomponent,⟨hisComponent,hns,hid⟩,rfl⟩
    obtain ⟨target,htarget,href,other,hother,hat⟩ := hkept.sound _ hemitted rfl
    have hsame : component=target :=
      eq_of_componentRef catalog hcomponent htarget hisComponent hat.1 href
    rw [hsame]
    exact ⟨other,hother,hat⟩

/-- Consumers that are known by their labels keep their identity. -/
theorem consumersKept_of_knownByLabel
    (hknown : KnownByLabel entity.metadata.nameSpace subscribers catalog) :
    ConsumersKept subscribers catalog entity relations := by
  constructor
  · intro subscriber hsubscriber component hcomponent hat
    obtain ⟨hns,hne⟩ := hknown.home subscriber hsubscriber component hcomponent hat
    have hlower : lowerCase component.metadata.nameSpace=lowerCase entity.metadata.nameSpace := by
      rw [hat.2.1]
      exact hns
    have hid : (kubernetesId component).map lowerCase=some (lowerCase subscriber.2) := by
      rw [hat.2.2,Option.map_some]
    exact (mem_relations_iff hmatching hconsumers hrelations rfl).mpr
      ⟨subscriber,hsubscriber,hne,component,hcomponent,⟨hat.1,hlower,hid⟩,rfl⟩
  · intro relation hrelation htype
    obtain ⟨subscriber,hsubscriber,hne,component,hcomponent,⟨hisComponent,hns,hid⟩,rfl⟩ :=
      (mem_relations_iff hmatching hconsumers hrelations htype).mp hrelation
    obtain ⟨other,hother,hat⟩ :=
      hknown.namesake subscriber hsubscriber hne component hcomponent hisComponent hns hid
    exact ⟨component,hcomponent,rfl,other,hother,hat⟩

end Relations

/-- Subscribers are known by their labels where they are in the namespace of the
event type and have labels that are not empty, and the catalog has no component
whose namespace or id differs from theirs in the case of letters only. -/
theorem knownByLabel_of_home {ns : String} {subscribers : List (String×String)} {catalog : Catalog}
    (hhome : ∀ subscriber ∈ subscribers, subscriber.1=ns ∧ subscriber.2≠"")
    (hcase : ∀ subscriber ∈ subscribers, ∀ component ∈ catalog.entities, isComponent component →
      lowerCase component.metadata.nameSpace=lowerCase ns →
        (kubernetesId component).map lowerCase=some (lowerCase subscriber.2) →
          component.metadata.nameSpace=ns ∧ kubernetesId component=some subscriber.2) :
    KnownByLabel ns subscribers catalog where
  home subscriber hsubscriber component _ _ := by
    obtain ⟨hns,hne⟩ := hhome subscriber hsubscriber
    exact ⟨congrArg lowerCase hns,hne⟩
  namesake subscriber hsubscriber _ component hcomponent hisComponent hns hid := by
    obtain ⟨hsame,hlabel⟩ := hcase subscriber hsubscriber component hcomponent hisComponent hns hid
    refine ⟨subscriber,hsubscriber,hisComponent,?_,hlabel⟩
    rw [(hhome subscriber hsubscriber).1]
    exact hsame

section Trip

variable {lib : Libraries} {answers : Answers} (f : Fetched lib answers)
  (hsubscriptions : f.subscriptions=[])
  (hbrokers : Distinct (f.brokers.map (·.objectMeta)))
  (hbrokersFree : SlashFreeObjects (f.brokers.map (·.objectMeta)))
  (heventTypes : Distinct (f.eventTypes.map (·.objectMeta)))
  (heventTypesFree : SlashFreeObjects (f.eventTypes.map (·.objectMeta)))
  (provider : KnativeEventMeshProvider) {matching : List (String×String) → Entity → Prop}
  {catalogAnswers : ℕ → CatalogApi} {limit : ℕ} {catalog : Catalog}
  (hserves : Serves matching catalogAnswers limit catalog) (number : ℕ) {mesh : EventMesh}
  (hmesh : buildEventMesh lib answers=.ok mesh) {et : EventType} (het : et ∈ mesh.eventTypes.toList)

include hsubscriptions hbrokers hbrokersFree heventTypes heventTypesFree hserves hmesh het

/-- The provider builds an API for an event type of a mesh without
subscriptions, and the processor comes to an end on it, with the relations to the
components that match the consumers which triggers contribute. -/
theorem exists_processed :
    ∃ decoded entity requests relations fuel, decodeMesh (encodeMesh mesh)=some decoded ∧
      entity ∈ provider.buildEntities decoded ∧ entity.kind="API" ∧
      entity.metadata.nameSpace=et.nameSpace ∧ entity.metadata.name=et.name ∧
      (∀ more, fuel ≤ more → preProcessEntity catalogAnswers limit more number entity=
        some ⟨entity,requests,relations⟩) ∧
      ∀ relation, relation ∈ relations ↔ ∃ consumer ∈ triggerConsumers f et,
        ∃ component ∈ catalog.entities,
          matching (componentFilter entity.metadata.nameSpace consumer) component ∧
            relation ∈ relationsBetween entity component := by
  have hconsumedBy := consumedBy_of_mem f hsubscriptions hbrokers hbrokersFree heventTypes
    heventTypesFree hmesh het
  obtain ⟨store,_,rfl⟩ := f.buildEventMesh_eq_ok_iff.mp hmesh
  have hread := decodeMesh_encodeMesh store.eventTypes store.brokers store.sources store.subscribables
  have hlisted : (provider.buildEventTypeEntity (receivedEventType et)).metadata.consumedBy=
      some (triggerConsumers f et) := by
    change some ((receivedStrings et.consumedBy).getD [])=_
    rw [hconsumedBy]
    rfl
  obtain ⟨requests,relations,fuel,hprocess,hrelations⟩ :=
    preProcessEntity_of_serves hserves number rfl rfl hlisted
  have hbuilt : provider.buildEventTypeEntity (receivedEventType et) ∈
      store.eventTypes.map (fun et => provider.buildEventTypeEntity (receivedEventType et)) :=
    List.mem_map_of_mem het
  refine ⟨_,_,requests,relations,fuel,hread,?_,rfl,rfl,rfl,hprocess,hrelations⟩
  dsimp only [KnativeEventMeshProvider.buildEntities]
  simp only [List.map_map,List.mem_append]
  exact .inl (.inl (.inl hbuilt))

/-- In a mesh without subscriptions the provider builds an API for every event
type, the processor comes to an end on it, and the relations it emits keep the
identity of the consumers exactly where these are known by their labels. -/
theorem consumersKept_iff (hmatching : MatchesFields matching) :
    ∃ decoded entity requests relations fuel, decodeMesh (encodeMesh mesh)=some decoded ∧
      entity ∈ provider.buildEntities decoded ∧ entity.kind="API" ∧
      entity.metadata.nameSpace=et.nameSpace ∧ entity.metadata.name=et.name ∧
      (∀ more, fuel ≤ more → preProcessEntity catalogAnswers limit more number entity=
        some ⟨entity,requests,relations⟩) ∧
      (ConsumersKept (matchingSubscribers f et) catalog entity relations ↔
        KnownByLabel et.nameSpace (matchingSubscribers f et) catalog) := by
  obtain ⟨decoded,entity,requests,relations,fuel,hread,hbuilt,hkind,hns,hname,hprocess,hrelations⟩ :=
    exists_processed f hsubscriptions hbrokers hbrokersFree heventTypes heventTypesFree provider
      hserves number hmesh het
  have hconsumers := mem_triggerConsumers_iff f et
  refine ⟨decoded,entity,requests,relations,fuel,hread,hbuilt,hkind,hns,hname,hprocess,?_⟩
  rw [←hns]
  exact ⟨knownByLabel_of_consumersKept hmatching hconsumers hrelations,
    consumersKept_of_knownByLabel hmatching hconsumers hrelations⟩

/-- In particular the consumers keep their identity where the subscribers of all
matching triggers are at home in the namespace of the event type. -/
theorem consumersKept_of_home (hmatching : MatchesFields matching)
    (hhome : ∀ subscriber ∈ matchingSubscribers f et, subscriber.1=et.nameSpace ∧ subscriber.2≠"")
    (hcase : ∀ subscriber ∈ matchingSubscribers f et, ∀ component ∈ catalog.entities,
      isComponent component → lowerCase component.metadata.nameSpace=lowerCase et.nameSpace →
        (kubernetesId component).map lowerCase=some (lowerCase subscriber.2) →
          component.metadata.nameSpace=et.nameSpace ∧ kubernetesId component=some subscriber.2) :
    ∃ decoded entity requests relations fuel, decodeMesh (encodeMesh mesh)=some decoded ∧
      entity ∈ provider.buildEntities decoded ∧ entity.kind="API" ∧
      entity.metadata.nameSpace=et.nameSpace ∧ entity.metadata.name=et.name ∧
      (∀ more, fuel ≤ more → preProcessEntity catalogAnswers limit more number entity=
        some ⟨entity,requests,relations⟩) ∧
      ConsumersKept (matchingSubscribers f et) catalog entity relations := by
  obtain ⟨decoded,entity,requests,relations,fuel,hread,hbuilt,hkind,hns,hname,hprocess,hrelations⟩ :=
    exists_processed f hsubscriptions hbrokers hbrokersFree heventTypes heventTypesFree provider
      hserves number hmesh het
  refine ⟨decoded,entity,requests,relations,fuel,hread,hbuilt,hkind,hns,hname,hprocess,?_⟩
  apply consumersKept_of_knownByLabel hmatching (mem_triggerConsumers_iff f et) hrelations
  rw [hns]
  exact knownByLabel_of_home hhome hcase

end Trip

/-- A component of the catalog with an id. -/
def catalogComponent (ns name id : String) : Entity :=
  { apiVersion := "backstage.io/v1alpha1", kind := "Component"
    metadata :=
      { name, nameSpace := ns, description := none, labels := ∅
        annotations := .ofList [("backstage.io/kubernetes-id",id)]
        tags := [], links := none, title := none, consumedBy := none }
    spec :=
      { type := "service", lifecycle := "production", system := "shop", owner := "shop"
        definition := none, providesApis := none } }

/-- A filter that is met condition by condition. -/
def satisfies (filter : List (String×String)) (entity : Entity) : Prop :=
  ∀ condition ∈ filter,
    (searchValue entity condition.1).map lowerCase=some (lowerCase condition.2)

instance (filter : List (String×String)) (entity : Entity) : Decidable (satisfies filter entity) :=
  inferInstanceAs (Decidable (∀ condition ∈ filter, _))

/-- This is what the catalog promises of its filters. -/
theorem satisfies_matchesFields : MatchesFields satisfies := fun _ _ => Iff.rfl

/-- A catalog API that answers every request with all entities on one page. -/
def onePage (catalog : Catalog) : ℕ → CatalogApi := fun _ =>
  ⟨fun request => .ok ⟨catalog.entities.filter (satisfies request.filter ·),none⟩⟩

/-- One page serves the catalog. -/
theorem serves_onePage (catalog : Catalog) (limit : ℕ) :
    Serves satisfies (onePage catalog) limit catalog := by
  intro filter number
  refine ⟨[⟨catalog.entities.filter (satisfies filter ·),none⟩],.last rfl rfl,fun entity => ?_⟩
  rw [List.flatMap_cons,List.flatMap_nil,List.append_nil,List.mem_filter,decide_eq_true_eq]

/-- The two consumers of the four triggers, in the namespace of the event types. -/
def shopCatalog : Catalog :=
  ⟨[catalogComponent "shop" "billing" "billing",catalogComponent "shop" "auditing" "audit"],by decide⟩

/-- Consumers that are in the namespace of the event type keep their identity. -/
theorem consumersKept_iff_fourTriggers :
    ∃ et ∈ (outputMesh fourTriggersFetched.triggered).eventTypes.toList, ∃ entity requests relations fuel,
      et.name="order" ∧ entity.metadata.name="order" ∧
      (∀ more, fuel ≤ more →
        preProcessEntity (onePage shopCatalog) 10000 more 0 entity=some ⟨entity,requests,relations⟩) ∧
      matchingSubscribers fourTriggersFetched et=[("shop","billing"),("shop","audit")] ∧
      ConsumersKept (matchingSubscribers fourTriggersFetched et) shopCatalog entity relations := by
  have hlisted : ∃ et ∈ (outputMesh fourTriggersFetched.triggered).eventTypes.toList,
      et.nameSpace="shop" ∧ et.name="order" ∧
        matchingSubscribers fourTriggersFetched et=[("shop","billing"),("shop","audit")] := by decide
  obtain ⟨et,het,hns,hname,hmatch⟩ := hlisted
  obtain ⟨_,entity,requests,relations,fuel,_,_,_,_,hentity,hprocess,hkept⟩ :=
    consumersKept_iff fourTriggersFetched rfl (by decide) (by decide) (by decide) (by decide)
      devProvider (serves_onePage shopCatalog 10000) 0 fourTriggersFetched.buildEventMesh_eq het
      satisfies_matchesFields
  refine ⟨et,het,entity,requests,relations,fuel,hname,hentity.trans hname,hprocess,hmatch,hkept.mpr ?_⟩
  rw [hns,hmatch]
  exact ⟨by decide,by decide⟩

/-- One trigger with its subscriber in another namespace. -/
def foreignSubscriber : Contents :=
  { brokers := [⟨bareMeta "shop" "main"⟩]
    eventTypes :=
      [bareEventType "shop" "order" "shop.order"
        (some ⟨"Broker","shop","main","eventing.knative.dev/v1"⟩)]
    triggers := [⟨"shop",⟨"main",none,⟨some ⟨"Service","finance","ledger","v1"⟩⟩⟩⟩]
    subscriptions := []
    objects :=
      [(services,manifest "Service" "finance" "ledger" [("backstage.io/kubernetes-id","ledger")])] }

/-- What a run over the foreign subscriber fetches. -/
def foreignSubscriberFetched : Fetched (librariesWith []) (snapshot foreignSubscriber.cluster) :=
  @Contents.fetched foreignSubscriber (librariesWith []) (.of []) (.of []) rfl rfl

/-- The catalog with the component of the foreign subscriber. -/
def financeCatalog : Catalog := ⟨[catalogComponent "finance" "ledger" "ledger"],by decide⟩

/-- The component of a subscriber in another namespace is not related to the
API, although its trigger matches the event type. -/
theorem foreignSubscriber_lost :
    ∃ mesh decoded et entity requests,
      buildEventMesh (librariesWith []) (snapshot foreignSubscriber.cluster)=.ok mesh ∧
      MatchesFields satisfies ∧ Serves satisfies (onePage financeCatalog) 10000 financeCatalog ∧ et ∈ mesh.eventTypes.toList ∧
      decodeMesh (encodeMesh mesh)=some decoded ∧ entity ∈ devProvider.buildEntities decoded ∧
      entity.kind="API" ∧ entity.metadata.nameSpace=et.nameSpace ∧ entity.metadata.name=et.name ∧
      preProcessEntity (onePage financeCatalog) 10000 1 0 entity=some ⟨entity,requests,[]⟩ ∧
      matchingSubscribers foreignSubscriberFetched et=[("finance","ledger")] ∧
      ¬ ConsumersKept (matchingSubscribers foreignSubscriberFetched et) financeCatalog entity [] := by
  let et : EventType := {convertEventType (foreignSubscriber.eventTypes.head (by decide)) with
    consumedBy := .of ["ledger"]}
  have hmatch : matchingSubscribers foreignSubscriberFetched et=[("finance","ledger")] := by decide
  have hemit : emitRelations (onePage financeCatalog) 10000 1
      (devProvider.buildEventTypeEntity (receivedEventType et)) 0 ["ledger"]=
        some ([⟨componentFilter "shop" "ledger",none,10000⟩],[]) := by decide
  have hprocess : preProcessEntity (onePage financeCatalog) 10000 1 0
      (devProvider.buildEventTypeEntity (receivedEventType et))=
        some ⟨devProvider.buildEventTypeEntity (receivedEventType et),
          [⟨componentFilter "shop" "ledger",none,10000⟩],[]⟩ := by
    dsimp only [preProcessEntity]
    rw [if_pos ⟨rfl,rfl⟩]
    change (emitRelations (onePage financeCatalog) 10000 1 _ 0 ["ledger"]).map _=_
    rw [hemit,Option.map_some]
  have hread := decodeMesh_encodeMesh foreignSubscriberFetched.triggered.eventTypes
    foreignSubscriberFetched.triggered.brokers foreignSubscriberFetched.triggered.sources
    foreignSubscriberFetched.triggered.subscribables
  refine ⟨_,_,et,devProvider.buildEventTypeEntity (receivedEventType et),_,
    foreignSubscriberFetched.buildEventMesh_eq,satisfies_matchesFields,serves_onePage _ _,List.mem_cons_self,hread,
    List.mem_cons_self,rfl,rfl,rfl,hprocess,hmatch,fun hkept => ?_⟩
  rw [hmatch] at hkept
  have hrelated := hkept.related ("finance","ledger") List.mem_cons_self
    (catalogComponent "finance" "ledger" "ledger") List.mem_cons_self (by decide)
  exact absurd hrelated List.not_mem_nil

end KnativeMesh.Consumers
