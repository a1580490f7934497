import KnativeMesh.Consumers
import KnativeMesh.CatalogQueries
import KnativeMesh.Specification

/-!
# The graph of consumers

The catalog runs the processor on one entity after the other. Over all entities
the relations that come out are a join of the cluster with the catalog: an event
type, a trigger that is subscribed to it, and a component in the namespace of the
event type that has the id of the trigger's subscriber.
-/

namespace KnativeMesh.ConsumerGraph

open Go Kubernetes Mesh Builder Runs Registration Triggers Subscriptions Specification Wire Entities
open Processor Consumers CatalogQueries
open Provider (Entity KnativeEventMeshProvider typeKnativeEvent)

/-- The relations that the processor emits for a queue of entities, from a number
of earlier requests on. -/
def emitAll (catalogAnswers : ℕ → CatalogApi) (limit fuel : ℕ) :
    ℕ → List Entity → Option (List Relation)
  | _,[] => some []
  | number,entity::queue =>
    match preProcessEntity catalogAnswers limit fuel number entity with
    | none => none
    | some processed =>
      (emitAll catalogAnswers limit fuel (number+processed.requests.length) queue).map
        (processed.relations++·)

/-- A component consumes an event type: a trigger that is subscribed to the event
type has a subscriber with the id of the component, up to the case of letters,
and the component is in the namespace of the event type. -/
def Consumes {lib : Libraries} {answers : Answers} (f : Fetched lib answers) (component : Entity)
    (et : EventType) : Prop :=
  isComponent component ∧ lowerCase component.metadata.nameSpace=lowerCase et.nameSpace ∧
    ∃ subscriber ∈ matchingSubscribers f et, subscriber.2≠"" ∧
      (kubernetesId component).map lowerCase=some (lowerCase subscriber.2)

/-- The relation from an event type to a consumer, and the one back. -/
def consumption (et : EventType) (component : Entity) : List Relation :=
  [⟨"apiConsumedBy",⟨"API",et.nameSpace,et.name⟩,componentRef component⟩,
    ⟨"consumesApi",componentRef component,⟨"API",et.nameSpace,et.name⟩⟩]

section Queue

variable {matching : List (String×String) → Entity → Prop} {catalogAnswers : ℕ → CatalogApi}
  {limit : ℕ} {catalog : Catalog} (hserves : Serves matching catalogAnswers limit catalog)

include hserves

/-- The processor comes to an end on every entity. It emits relations for the
consumers that an API of an event type lists, and no others. -/
theorem preProcessEntity_terminates (number : ℕ) (entity : Entity) :
    ∃ requests relations fuel, (∀ more, fuel ≤ more →
        preProcessEntity catalogAnswers limit more number entity=some ⟨entity,requests,relations⟩) ∧
      ∀ relation, relation ∈ relations ↔ ∃ consumers, ListsConsumers entity consumers ∧
        ∃ consumer ∈ consumers, ∃ component ∈ catalog.entities,
          matching (componentFilter entity.metadata.nameSpace consumer) component ∧
            relation ∈ relationsBetween entity component := by
  by_cases hlists : ∃ consumers, ListsConsumers entity consumers
  · rcases hlists with ⟨consumers,hlists⟩
    have hemits := preProcessEntity_of_serves hserves number hlists.1 hlists.2.1 hlists.2.2
    rcases hemits with ⟨requests,relations,fuel,hprocess,hrelations⟩
    refine ⟨requests,relations,fuel,hprocess,fun relation => ?_⟩
    rw [hrelations]
    constructor
    · intro h
      exact ⟨consumers,hlists,h⟩
    · intro hp
      rcases hp with ⟨listed,hlisted,h⟩
      have hsame : listed=consumers := Option.some.inj (hlisted.2.2.symm.trans hlists.2.2)
      exact hsame ▸ h
  · have hpassed : ∀ fuel, preProcessEntity catalogAnswers limit fuel number entity=some ⟨entity,[],[]⟩ := by
      intro fuel
      unfold preProcessEntity
      by_cases hapi : entity.kind="API" ∧ entity.spec.type=typeKnativeEvent
      · rw [if_pos hapi]
        cases hconsumers : entity.metadata.consumedBy with
        | none => rfl
        | some consumers => exact absurd ⟨consumers,hapi.1,hapi.2,hconsumers⟩ hlists
      · rw [if_neg hapi]
    refine ⟨[],[],0,fun more _ => hpassed more,fun relation => ?_⟩
    constructor
    · intro h
      exact absurd h List.not_mem_nil
    · intro hp
      rcases hp with ⟨consumers,hconsumers,_⟩
      exact absurd ⟨consumers,hconsumers⟩ hlists

/-- The relations for a queue are those for each of its entities. -/
theorem emitAll_of_serves (number : ℕ) (queue : List Entity) :
    ∃ relations fuel, (∀ more, fuel ≤ more →
        emitAll catalogAnswers limit more number queue=some relations) ∧
      ∀ relation, relation ∈ relations ↔ ∃ entity ∈ queue, ∃ consumers,
        ListsConsumers entity consumers ∧ ∃ consumer ∈ consumers, ∃ component ∈ catalog.entities,
          matching (componentFilter entity.metadata.nameSpace consumer) component ∧
            relation ∈ relationsBetween entity component := by
  induction queue generalizing number with
  | nil => exact ⟨[],0,fun _ _ => rfl,fun relation => by simp⟩
  | cons entity queue ih =>
    have hfirst := preProcessEntity_terminates hserves number entity
    rcases hfirst with ⟨requests,relations,fuel,hprocess,hrelations⟩
    have hrest := ih (number+requests.length)
    rcases hrest with ⟨later,fuel',hlater,hmem⟩
    refine ⟨relations++later,max fuel fuel',fun more hmore => ?_,fun relation => ?_⟩
    · have hleft : fuel ≤ more := by omega
      have hright : fuel' ≤ more := by omega
      rw [emitAll,hprocess more hleft]
      dsimp only
      rw [hlater more hright,Option.map_some]
    · rw [List.mem_append,hrelations,hmem]
      simp only [List.mem_cons,exists_eq_or_imp]

end Queue

section Published

variable {lib : Libraries} {answers : Answers} (f : Fetched lib answers)
  (provider : KnativeEventMeshProvider)

/-- The entity that the provider builds for an event type. -/
def publishedApi (et : EventType) : Entity :=
  provider.buildEventTypeEntity (receivedEventType (specifyEventType f et))

/-- It lists the consumers that triggers contribute. -/
theorem listsConsumers_publishedApi_iff (et : EventType) (consumers : List String) :
    ListsConsumers (publishedApi f provider et) consumers ↔ consumers=triggerConsumers f et := by
  constructor
  · intro h
    exact (Option.some.inj h.2.2).symm
  · intro h
    exact ⟨rfl,rfl,congrArg some h.symm⟩

/-- The event type APIs of the provider are those of the listed event types. -/
theorem mem_buildEntities_iff (ha : Admitted f) {mesh : EventMesh}
    (hmesh : buildEventMesh lib answers=.ok mesh) {decoded : Provider.EventMesh}
    (hdecoded : decodeMesh (encodeMesh mesh)=some decoded) {entity : Entity}
    {consumers : List String} (hlists : ListsConsumers entity consumers) :
    entity ∈ provider.buildEntities decoded ↔
      ∃ et ∈ f.convertedEventTypes, entity=publishedApi f provider et := by
  have hspecified := (specified_of_buildEventMesh f ha hmesh).2
  have hread : decoded=_ :=
    Option.some.inj ((hspecified ▸ hdecoded).symm.trans (decodeMesh_encodeMesh _ _ _ _))
  have hcomponent : "Component"≠"API" := by decide
  rw [hread]
  unfold KnativeEventMeshProvider.buildEntities
  simp only [List.mem_append,List.mem_map,exists_exists_and_eq_and]
  constructor
  · intro hp
    rcases hp with ((hp | hp) | hp) | hp
    · rcases hp with ⟨et,het,rfl⟩
      exact ⟨et,het,rfl⟩
    · rcases hp with ⟨br,_,rfl⟩
      exact absurd hlists.1 hcomponent
    · rcases hp with ⟨s,_,rfl⟩
      exact absurd hlists.1 hcomponent
    · rcases hp with ⟨source,_,rfl⟩
      exact absurd hlists.1 hcomponent
  · intro hp
    rcases hp with ⟨et,het,rfl⟩
    exact .inl (.inl (.inl ⟨et,het,rfl⟩))

/-- The consumers of an API are components at the ids of subscribers. -/
theorem exists_consumer_iff {matching : List (String×String) → Entity → Prop}
    (hmatching : MatchesFields matching) {catalog : Catalog} (et : EventType) (relation : Relation) :
    (∃ consumer ∈ triggerConsumers f et, ∃ component ∈ catalog.entities,
      matching (componentFilter et.nameSpace consumer) component ∧
        relation ∈ relationsBetween (publishedApi f provider et) component) ↔
      ∃ component ∈ catalog.entities, Consumes f component et ∧ relation ∈ consumption et component := by
  simp only [mem_triggerConsumers_iff,matching_componentFilter_iff hmatching]
  constructor
  · intro hp
    rcases hp with ⟨id,⟨hne,ns,hmem⟩,component,hcomponent,⟨hkind,hns,hid⟩,hrelation⟩
    exact ⟨component,hcomponent,⟨hkind,hns,(ns,id),hmem,hne,hid⟩,hrelation⟩
  · intro hp
    rcases hp with ⟨component,hcomponent,⟨hkind,hns,subscriber,hmem,hne,hid⟩,hrelation⟩
    exact ⟨subscriber.2,⟨hne,subscriber.1,hmem⟩,component,hcomponent,⟨hkind,hns,hid⟩,hrelation⟩

end Published

/-- In whatever order and however often the catalog has its entities processed,
the provider's among others, the relations that come out are those between an
event type of the cluster and a component of the catalog that consumes it. -/
theorem emitAll_eq_consumes {lib : Libraries} {answers : Answers} (f : Fetched lib answers)
    (ha : Admitted f) {mesh : EventMesh} (hmesh : buildEventMesh lib answers=.ok mesh)
    {decoded : Provider.EventMesh} (hdecoded : decodeMesh (encodeMesh mesh)=some decoded)
    (provider : KnativeEventMeshProvider) {matching : List (String×String) → Entity → Prop}
    (hmatching : MatchesFields matching) {catalogAnswers : ℕ → CatalogApi} {limit : ℕ}
    {catalog : Catalog} (hserves : Serves matching catalogAnswers limit catalog) (number : ℕ)
    {queue : List Entity}
    (hqueue : ∀ entity, entity.kind="API" → entity.spec.type=typeKnativeEvent →
      (entity ∈ queue ↔ entity ∈ provider.buildEntities decoded)) :
    ∃ relations fuel, (∀ more, fuel ≤ more →
        emitAll catalogAnswers limit more number queue=some relations) ∧
      ∀ relation, relation ∈ relations ↔ ∃ et ∈ f.convertedEventTypes,
        ∃ component ∈ catalog.entities, Consumes f component et ∧ relation ∈ consumption et component := by
  have hemits := emitAll_of_serves hserves number queue
  rcases hemits with ⟨relations,fuel,hemit,hmem⟩
  refine ⟨relations,fuel,hemit,fun relation => ?_⟩
  rw [hmem]
  constructor
  · intro hp
    rcases hp with ⟨entity,hentity,consumers,hlists,hconsumer⟩
    have hbuilt := (hqueue entity hlists.1 hlists.2.1).mp hentity
    have hpublished := (mem_buildEntities_iff f provider ha hmesh hdecoded hlists).mp hbuilt
    rcases hpublished with ⟨et,het,rfl⟩
    rw [(listsConsumers_publishedApi_iff f provider et consumers).mp hlists] at hconsumer
    exact ⟨et,het,(exists_consumer_iff f provider hmatching et relation).mp hconsumer⟩
  · intro hp
    rcases hp with ⟨et,het,hconsumer⟩
    have hlists := (listsConsumers_publishedApi_iff f provider et _).mpr rfl
    have hbuilt := (mem_buildEntities_iff f provider ha hmesh hdecoded hlists).mpr ⟨et,het,rfl⟩
    have hentity := (hqueue _ hlists.1 hlists.2.1).mpr hbuilt
    exact ⟨_,hentity,_,hlists,(exists_consumer_iff f provider hmatching et relation).mpr hconsumer⟩

/-- The component of the subscriber that both namespaces share, next to another
one that nothing is subscribed to. -/
def tenantsCatalog : Catalog :=
  ⟨[catalogComponent "shop" "billing" "billing",catalogComponent "bank" "ledger" "ledger"],by decide⟩

/-- The component consumes the event type of its own namespace. It does not
consume that of the other, whose trigger has the same subscriber. -/
theorem emitAll_eq_consumes_twoTenants :
    ∃ decoded relations fuel, decodeMesh (encodeMesh (specification twoTenantsFetched))=some decoded ∧
      emitAll (onePage tenantsCatalog) 10000 fuel 0 (devProvider.buildEntities decoded).reverse=
        some relations ∧
      ⟨"apiConsumedBy",⟨"API","shop","order"⟩,⟨"Component","shop","billing"⟩⟩ ∈ relations ∧
      ⟨"apiConsumedBy",⟨"API","bank","order"⟩,⟨"Component","shop","billing"⟩⟩ ∉ relations := by
  have hstop : firstStop twoTenantsFetched=none := by decide
  have hmesh := buildEventMesh_of_unstopped twoTenantsFetched admitted_twoTenants hstop
  have hdecodes : ∃ decoded, decodeMesh (encodeMesh (specification twoTenantsFetched))=some decoded :=
    ⟨_,decodeMesh_encodeMesh _ _ _ _⟩
  rcases hdecodes with ⟨decoded,hdecoded⟩
  have hemits := emitAll_eq_consumes twoTenantsFetched admitted_twoTenants hmesh hdecoded devProvider
    satisfies_matchesFields (serves_onePage tenantsCatalog 10000) 0 fun _ _ _ => List.mem_reverse
  rcases hemits with ⟨relations,fuel,hemit,hmem⟩
  refine ⟨decoded,relations,fuel,hdecoded,hemit fuel le_rfl,?_,?_⟩
  · rw [hmem]
    unfold Consumes
    decide
  · rw [hmem]
    unfold Consumes
    decide

end KnativeMesh.ConsumerGraph
