import KnativeMesh.Passes

/-!
# Runs of the builder

A run whose fetches all succeed is given by what they returned; the rest of it
is one expression over these lists. Every successful run is of this form. The
trigger and subscription loops change nothing but the consumers of event types.
-/

namespace KnativeMesh.Runs

open Go UnstructuredObject Kubernetes Mesh Converters Builder Passes Library.Index Library.Scatter

/-- Everything of an event type but its consumers. -/
def fixed (et : EventType) : EventType := {et with consumedBy := .nil}

/-- A new consumer leaves everything else as it is. -/
theorem fixed_consume (et : EventType) (id : String) : fixed (et.consume id)=fixed et := rfl

/-- Two stores that differ in the consumers of event types only. -/
structure SameButConsumers (first second : Store) : Prop where
  brokers : first.brokers=second.brokers
  subscribables : first.subscribables=second.subscribables
  sources : first.sources=second.sources
  eventTypes : first.eventTypes.map fixed=second.eventTypes.map fixed

theorem SameButConsumers.refl (store : Store) : SameButConsumers store store := ⟨rfl,rfl,rfl,rfl⟩

theorem SameButConsumers.trans {first second third : Store} (h : SameButConsumers first second)
    (h' : SameButConsumers second third) : SameButConsumers first third :=
  ⟨h.brokers.trans h'.brokers,h.subscribables.trans h'.subscribables,
    h.sources.trans h'.sources,h.eventTypes.trans h'.eventTypes⟩

/-- A log of consumers changes consumers only. -/
theorem sameButConsumers_scatter (store : Store) (log : List (ℕ×String)) :
    SameButConsumers {store with eventTypes := scatter EventType.consume store.eventTypes log} store :=
  ⟨rfl,rfl,rfl,map_scatter fixed_consume store.eventTypes log⟩

/-- The trigger loop changes consumers only. -/
theorem processTriggers_frame (lib : Libraries) (answers : Answers)
    (brokerMap etByNamespacedName : GoMap ℕ) (triggers : List (TriggerResource×ℕ)) (store : Store) :
    SameButConsumers (processTriggers lib answers brokerMap etByNamespacedName triggers store) store := by
  rw [processTriggers_eq]
  exact sameButConsumers_scatter store _

section Subscriptions

variable (lib : Libraries) (subscribableMap etByNamespacedName : GoMap ℕ)

/-- A subscription that is processed changes consumers only. -/
theorem processSubscription_frame {dynamicClient : DynamicClient}
    {subscription : SubscriptionResource} {store store' : Store}
    (h : processSubscription lib dynamicClient subscribableMap etByNamespacedName subscription store=
      .ok store') : SameButConsumers store' store := by
  dsimp only [processSubscription] at h
  split at h
  · exact absurd h nofun
  · cases h
    exact .refl _
  · split at h
    · exact absurd h nofun
    · split at h
      · cases h
        exact .refl _
      · split at h
        · cases h
          exact .refl _
        · cases h
          rw [consumeAll_eq]
          exact sameButConsumers_scatter store _

/-- The subscription loop changes consumers only. -/
theorem processSubscriptions_frame {answers : Answers}
    {subscriptions : List (SubscriptionResource×ℕ)} {store store' : Store}
    (h : processSubscriptions lib answers subscribableMap etByNamespacedName subscriptions store=
      .ok store') : SameButConsumers store' store := by
  induction subscriptions generalizing store with
  | nil =>
    cases h
    exact .refl _
  | cons subscription subscriptions ih =>
    dsimp only [processSubscriptions] at h
    split at h
    · next hstep => exact (ih h).trans (processSubscription_frame lib _ _ hstep)
    · exact absurd h nofun
    · split at h
      · exact ih h
      · exact absurd h nofun

end Subscriptions

section SameLookups

variable {lib : Libraries} {answers answers' : Answers}

/-- A trigger reads nothing of the cluster but the lookup of its subscriber. -/
theorem processTrigger_congr {dynamicClient dynamicClient' : DynamicClient}
    (h : ∀ ref, getSubscriberBackstageId lib dynamicClient ref=
      getSubscriberBackstageId lib dynamicClient' ref) :
    processTrigger lib dynamicClient=processTrigger lib dynamicClient' := by
  funext brokerMap etByNamespacedName trigger store
  simp only [processTrigger,h]

/-- A subscription reads nothing of the cluster but the lookup of its subscriber. -/
theorem processSubscription_congr {dynamicClient dynamicClient' : DynamicClient}
    (h : ∀ ref, getSubscriberBackstageId lib dynamicClient ref=
      getSubscriberBackstageId lib dynamicClient' ref) :
    processSubscription lib dynamicClient=processSubscription lib dynamicClient' := by
  funext subscribableMap etByNamespacedName subscription store
  simp only [processSubscription,h]

/-- Equal lookups give equal trigger loops. -/
theorem processTriggers_congr
    (h : ∀ i ref, getSubscriberBackstageId lib (answers (.triggerSubscriber i)).dynamicClient ref=
      getSubscriberBackstageId lib (answers' (.triggerSubscriber i)).dynamicClient ref) :
    processTriggers lib answers=processTriggers lib answers' := by
  have hstep : ∀ i, processTrigger lib (answers (.triggerSubscriber i)).dynamicClient=
      processTrigger lib (answers' (.triggerSubscriber i)).dynamicClient :=
    fun i => processTrigger_congr (h i)
  funext brokerMap etByNamespacedName triggers store
  simp only [processTriggers,hstep]

/-- Equal lookups give equal subscription loops. -/
theorem processSubscriptions_congr
    (h : ∀ i ref, getSubscriberBackstageId lib (answers (.subscriptionSubscriber i)).dynamicClient ref=
      getSubscriberBackstageId lib (answers' (.subscriptionSubscriber i)).dynamicClient ref) :
    processSubscriptions lib answers=processSubscriptions lib answers' := by
  have hstep : ∀ i, processSubscription lib (answers (.subscriptionSubscriber i)).dynamicClient=
      processSubscription lib (answers' (.subscriptionSubscriber i)).dynamicClient :=
    fun i => processSubscription_congr (h i)
  funext subscribableMap etByNamespacedName subscriptions store
  induction subscriptions generalizing store with
  | nil => rfl
  | cons subscription subscriptions ih => simp only [processSubscriptions,hstep,ih]

end SameLookups

/-- What the fetches of a run returned, none of which failed. -/
structure Fetched (lib : Libraries) (answers : Answers) where
  brokers : List BrokerResource
  subscribables : Slice Subscribable
  sources : Slice Source
  eventTypes : List EventTypeResource
  triggers : List TriggerResource
  subscriptions : List SubscriptionResource
  /-- The brokers were listed. -/
  brokers_ok : (answers .brokers).clientset.brokers=.ok brokers
  /-- The subscribable CRDs and their instances were listed and decoded. -/
  subscribables_ok : fetchSubscribables lib answers=.ok subscribables
  /-- The source CRDs and their instances were listed and converted. -/
  sources_ok : fetchSources lib answers=.ok sources
  /-- The event types were listed. -/
  eventTypes_ok : (answers .eventTypes).clientset.eventTypes=.ok eventTypes
  /-- The triggers were listed. -/
  triggers_ok : (answers .triggers).clientset.triggers=.ok triggers
  /-- The subscriptions were listed. -/
  subscriptions_ok : (answers .subscriptions).clientset.subscriptions=.ok subscriptions

namespace Fetched

variable {lib : Libraries} {answers : Answers} (f : Fetched lib answers)

/-- The converted brokers, before any event type is registered. -/
def convertedBrokers : List Broker := f.brokers.map convertBroker

/-- The sorted and converted event types, before any consumer is added. -/
def convertedEventTypes : List EventType := (sortEventTypes f.eventTypes).map convertEventType

/-- The map from broker keys to converted brokers. -/
def brokerMap : GoMap ℕ := indexBy Broker.key f.convertedBrokers

/-- The map from subscribable keys to converted subscribables. -/
def subscribableMap : GoMap ℕ := indexBy Subscribable.key f.subscribables.toList

/-- The map from namespaced names to converted event types. -/
def etByNamespacedName : GoMap ℕ := indexBy EventType.namespacedName f.convertedEventTypes

/-- The store after all registrations. -/
def registered : Store :=
  registerSources (groupBy EventType.type f.convertedEventTypes)
    (registerEventTypes f.brokerMap f.subscribableMap
      ⟨f.convertedBrokers,f.subscribables.toList,f.sources.toList,f.convertedEventTypes⟩)

/-- The store after the trigger loop. -/
def triggered : Store :=
  processTriggers lib answers f.brokerMap f.etByNamespacedName f.triggers.zipIdx f.registered

/-- The outcome of the subscription loop. -/
def finished : Result Store :=
  processSubscriptions lib answers f.subscribableMap f.etByNamespacedName f.subscriptions.zipIdx
    f.triggered

/-- A run whose fetches succeed ends as its subscription loop does. -/
theorem buildEventMesh_eq : buildEventMesh lib answers=f.finished.map outputMesh := by
  dsimp only [buildEventMesh,fetchBrokers,fetchEventTypes,finished]
  rw [f.brokers_ok,f.subscribables_ok,f.sources_ok,f.eventTypes_ok,f.triggers_ok,f.subscriptions_ok]
  rfl

/-- A run whose fetches succeed returns the store of its subscription loop. -/
theorem buildEventMesh_eq_ok_iff {mesh : EventMesh} :
    buildEventMesh lib answers=.ok mesh ↔ ∃ store, f.finished=.ok store ∧ outputMesh store=mesh := by
  rw [f.buildEventMesh_eq]
  cases f.finished <;> simp [Except.map]

/-- The loops leave what registration built. -/
theorem finished_frame {store : Store} (h : f.finished=.ok store) :
    SameButConsumers store f.registered :=
  (processSubscriptions_frame lib _ _ h).trans (processTriggers_frame lib answers _ _ _ _)

end Fetched

/-- Every successful run has fetches that succeeded. -/
theorem exists_fetched {lib : Libraries} {answers : Answers} {mesh : EventMesh}
    (h : buildEventMesh lib answers=.ok mesh) : Nonempty (Fetched lib answers) := by
  dsimp only [buildEventMesh,fetchBrokers,fetchEventTypes] at h
  obtain ⟨_,hbrokers,h⟩ := bind_eq_ok.mp h
  obtain ⟨subscribables,hsubscribables,h⟩ := bind_eq_ok.mp h
  obtain ⟨sources,hsources,h⟩ := bind_eq_ok.mp h
  obtain ⟨_,heventTypes,h⟩ := bind_eq_ok.mp h
  obtain ⟨triggers,htriggers,h⟩ := bind_eq_ok.mp h
  obtain ⟨subscriptions,hsubscriptions,_⟩ := bind_eq_ok.mp h
  obtain ⟨brokers,hbrokers,_⟩ := bind_eq_ok.mp hbrokers
  obtain ⟨eventTypes,heventTypes,_⟩ := bind_eq_ok.mp heventTypes
  exact ⟨⟨brokers,subscribables,sources,eventTypes,triggers,subscriptions,
    ofCall_eq_ok.mp hbrokers,hsubscribables,hsources,ofCall_eq_ok.mp heventTypes,
    ofCall_eq_ok.mp htriggers,ofCall_eq_ok.mp hsubscriptions⟩⟩

end KnativeMesh.Runs
