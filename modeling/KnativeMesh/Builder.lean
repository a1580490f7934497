import KnativeMesh.Converters
import KnativeMesh.Library.Index

/-!
# The mesh builder

BuildEventMesh with its fetches and passes. Pointers to converted resources
are positions in the lists of a store, and every map leads to positions, so
that a write through any map is seen through all of them. The answers of the
API server are arbitrary and may differ between any two calls.
-/

namespace KnativeMesh.Builder

open Go GoJson Library.JsonTree UnstructuredObject Kubernetes Mesh Converters Library.Index

/-- The label that ties a Kubernetes resource to a Backstage entity. -/
def backstageKubernetesIDLabel : String := "backstage.io/kubernetes-id"

/-- List and convert the brokers. -/
def fetchBrokers (clientset : Clientset) : Result (Slice Broker) := do
  let brokers ← ofCall clientset.brokers
  .ok (.of (brokers.map convertBroker))

/-- List the instances of one CRD; a missing resource has none. -/
def listInstances (lib : Libraries) (dynamicClient : DynamicClient) (gvr : GroupVersionResource) :
    Result (List Unstructured) :=
  match dynamicClient.list gvr noSelector with
  | .ok resources => .ok resources
  | .error err => if lib.isNotFound err then .ok [] else .error (.error err)

/-- The subscribables of one CRD. -/
def subscribablesOf (lib : Libraries) (dynamicClient : DynamicClient) (crd : Unstructured) :
    Result (List Subscribable) := do
  let gvr ← gvrFromUnstructured crd
  let resources ← listInstances lib dynamicClient gvr
  .ok (resources.map (convertSubscribable gvr))

/-- The sources of one CRD. -/
def sourcesOf (lib : Libraries) (dynamicClient : DynamicClient) (crd : Unstructured) :
    Result (List Source) := do
  let gvr ← gvrFromUnstructured crd
  let resources ← listInstances lib dynamicClient gvr
  collect (fun resource => do
    let source ← convertSource lib gvr crd resource
    .ok [source]) resources

/-- The two steps of fetchSubscribables and fetchSources: the answer to the
list of CRDs, of which none exist where the list is not found, and a fetch of
the instances of each. -/
def fetchThroughCRDs {α : Type} (lib : Libraries) (crds : Except GoError (List Unstructured))
    (fetch : Unstructured×ℕ → Result (List α)) : Result (Slice α) :=
  match crds with
  | .error err => if lib.isNotFound err then .ok .nil else .error (.error err)
  | .ok crds => do
    let resources ← collect fetch crds.zipIdx
    .ok (.of resources)

/-- List the subscribable CRDs and convert the instances of each. -/
def fetchSubscribables (lib : Libraries) (answers : Answers) : Result (Slice Subscribable) :=
  fetchThroughCRDs lib ((answers .subscribableCRDs).dynamicClient.list crdResource subscribableSelector)
    fun crd => subscribablesOf lib (answers (.subscribables crd.2)).dynamicClient crd.1

/-- List the source CRDs and convert the instances of each. -/
def fetchSources (lib : Libraries) (answers : Answers) : Result (Slice Source) :=
  fetchThroughCRDs lib ((answers .sourceCRDs).dynamicClient.list crdResource sourceSelector)
    fun crd => sourcesOf lib (answers (.sources crd.2)).dynamicClient crd.1

/-- The order of fetchEventTypes: by namespace, then by name. -/
def eventTypeLess (a b : EventTypeResource) : Bool :=
  if a.objectMeta.nameSpace≠b.objectMeta.nameSpace then
    a.objectMeta.nameSpace<b.objectMeta.nameSpace
  else a.objectMeta.name<b.objectMeta.name

/-- sort.Slice by the order above. It is not stable, which matters for equal
namespace and name only, and no list answer holds an object twice. -/
def sortEventTypes (eventTypes : List EventTypeResource) : List EventTypeResource :=
  eventTypes.insertionSort fun a b => !eventTypeLess b a

/-- List, sort and convert the event types. -/
def fetchEventTypes (clientset : Clientset) : Result (Slice EventType) := do
  let eventTypes ← ofCall clientset.eventTypes
  .ok (.of ((sortEventTypes eventTypes).map convertEventType))

/-- The Backstage id of a subscriber: the value of its label, and the empty
string when the object or the label is missing. -/
def getSubscriberBackstageId (lib : Libraries) (client : DynamicClient) (subRef : KReference) :
    Except GoError String :=
  let refGvr := lib.unsafeGuessKindToResource (lib.fromAPIVersionAndKind subRef.apiVersion subRef.kind)
  match client.get refGvr subRef.nameSpace subRef.name with
  | .error err => if lib.isNotFound err then .ok "" else .error err
  | .ok resource => .ok ((resource.getLabels.get backstageKubernetesIDLabel).getD "")

/-- The converted resources; a pointer is a position in one of the lists. -/
structure Store where
  brokers : List Broker
  subscribables : List Subscribable
  sources : List Source
  eventTypes : List EventType

/-- Register one event type at the broker it refers to, or else at the
subscribable it refers to. -/
def registerEventType (brokerMap subscribableMap : GoMap ℕ) (store : Store) (et : EventType) : Store :=
  match et.reference with
  | none => store
  | some reference =>
    match brokerMap[reference.string]? with
    | some br => {store with brokers := store.brokers.modify br (·.provide et.namespacedName)}
    | none =>
      match subscribableMap[reference.string]? with
      | some s =>
        {store with subscribables := store.subscribables.modify s (·.provide et.namespacedName)}
      | none => store

/-- Register the event types in list order. -/
def registerEventTypes (brokerMap subscribableMap : GoMap ℕ) (store : Store) : Store :=
  store.eventTypes.foldl (registerEventType brokerMap subscribableMap) store

/-- Register, for every type a source announces, all event types of the type. -/
def registerSource (etsByType : GoMap (List ℕ)) (eventTypes : List EventType) (source : Source) :
    Source :=
  if source.providedEventTypeTypes=.nil then source
  else source.providedEventTypeTypes.toList.foldl (fun source providedType =>
    match etsByType[providedType]? with
    | none => source
    | some ets => (ets.filterMap (eventTypes[·]?)).foldl
        (fun source et => source.provide et.namespacedName) source) source

/-- Register the event types in all sources. -/
def registerSources (etsByType : GoMap (List ℕ)) (store : Store) : Store :=
  {store with sources := store.sources.map (registerSource etsByType store.eventTypes)}

/-- eventingv1.TriggerAnyFilter. -/
def triggerAnyFilter : String := ""

/-- The event type that a trigger's filter restricts it to. A missing filter, a
missing type attribute and an empty one do not restrict it. -/
def typeFilter (trigger : TriggerResource) : Option String :=
  match trigger.spec.filter with
  | none => none
  | some filter =>
    if filter.attributes.isEmpty then none
    else match filter.attributes["type"]? with
      | none => none
      | some subscribedEventType =>
        if subscribedEventType≠triggerAnyFilter then some subscribedEventType else none

/-- The event types of a broker that a trigger is subscribed to, as pointers
in the order in which the broker lists them. -/
def collectSubscribedEventTypes (trigger : TriggerResource) (broker : Broker)
    (etByNamespacedName : GoMap ℕ) (eventTypes : List EventType) : List ℕ :=
  let provided := broker.providedEventTypes.toList.filterMap (etByNamespacedName[·]?)
  match typeFilter trigger with
  | some subscribedEventType =>
    provided.filter fun et => eventTypes[et]?.map (·.type)=some subscribedEventType
  | none => provided

/-- The key under which a trigger looks its broker up. -/
def brokerRef (trigger : TriggerResource) : String :=
  gkNamespacedName brokerGroup brokerKind trigger.nameSpace trigger.spec.broker

/-- Add a consumer to the event types behind some pointers. -/
def consumeAll (id : String) (targets : List ℕ) (eventTypes : List EventType) : List EventType :=
  targets.foldl (fun eventTypes et => eventTypes.modify et (·.consume id)) eventTypes

/-- Add the subscriber of a trigger to the event types it is subscribed to.
Every exit with an error comes before the first write. -/
def processTrigger (lib : Libraries) (dynamicClient : DynamicClient)
    (brokerMap etByNamespacedName : GoMap ℕ) (trigger : TriggerResource) (store : Store) :
    Except GoError Store :=
  match trigger.spec.subscriber.ref with
  | none => .ok store
  | some ref =>
    match getSubscriberBackstageId lib dynamicClient ref with
    | .error err => .error (.wrap "error getting subscriber backstage id" err)
    | .ok subscriberBackstageId =>
      if subscriberBackstageId="" then .ok store
      else if trigger.spec.broker="" then .ok store
      else match brokerMap[brokerRef trigger]? with
        | none => .ok store
        | some br =>
          let eventTypes := match store.brokers[br]? with
            | some broker =>
              collectSubscribedEventTypes trigger broker etByNamespacedName store.eventTypes
            | none => []
          .ok {store with eventTypes := consumeAll subscriberBackstageId eventTypes store.eventTypes}

/-- The store after one iteration of the trigger loop: an error is logged and
the loop goes on. -/
def afterTrigger (store : Store) : Except GoError Store → Store
  | .ok store => store
  | .error _ => store

/-- The trigger loop. -/
def processTriggers (lib : Libraries) (answers : Answers) (brokerMap etByNamespacedName : GoMap ℕ)
    (triggers : List (TriggerResource×ℕ)) (store : Store) : Store :=
  triggers.foldl (fun store trigger => afterTrigger store
    (processTrigger lib (answers (.triggerSubscriber trigger.2)).dynamicClient brokerMap
      etByNamespacedName trigger.1 store)) store

/-- The key under which a subscription looks its channel up. -/
def channelRef (subscription : SubscriptionResource) : String :=
  gkNamespacedName (apiVersionToGroup subscription.spec.channel.apiVersion)
    subscription.spec.channel.kind subscription.nameSpace subscription.spec.channel.name

/-- The event types that a subscription looks up for the names its channel
lists. The names are namespaced already, and are namespaced once more here. -/
def subscribedEventTypes (etByNamespacedName : GoMap ℕ) (ns : String) (names : List String) : List ℕ :=
  names.filterMap fun eventType => etByNamespacedName[namespacedName ns eventType]?

/-- Add the subscriber of a subscription to the event types its channel
provides. A nil subscriber panics; every error comes before the first write. -/
def processSubscription (lib : Libraries) (dynamicClient : DynamicClient)
    (subscribableMap etByNamespacedName : GoMap ℕ) (subscription : SubscriptionResource)
    (store : Store) : Result Store :=
  match subscription.spec.subscriber with
  | none => .error .panic
  | some ⟨none⟩ => .ok store
  | some ⟨some ref⟩ =>
    match getSubscriberBackstageId lib dynamicClient ref with
    | .error err => .error (.error (.wrap "error getting subscriber backstage id" err))
    | .ok subscriberBackstageId =>
      if subscriberBackstageId="" then .ok store
      else match subscribableMap[channelRef subscription]? with
        | none => .ok store
        | some s =>
          let names := match store.subscribables[s]? with
            | some subscribable => subscribable.providedEventTypes.toList
            | none => []
          let eventTypes := subscribedEventTypes etByNamespacedName subscription.nameSpace names
          .ok {store with eventTypes := consumeAll subscriberBackstageId eventTypes store.eventTypes}

/-- The subscription loop; only an unauthorized lookup is passed over, every
other error ends the loop. -/
def processSubscriptions (lib : Libraries) (answers : Answers)
    (subscribableMap etByNamespacedName : GoMap ℕ) :
    List (SubscriptionResource×ℕ) → Store → Result Store
  | [],store => .ok store
  | subscription::rest,store =>
    match processSubscription lib (answers (.subscriptionSubscriber subscription.2)).dynamicClient
        subscribableMap etByNamespacedName subscription.1 store with
    | .ok store => processSubscriptions lib answers subscribableMap etByNamespacedName rest store
    | .error .panic => .error .panic
    | .error (.error err) =>
      if lib.isUnauthorized err then
        processSubscriptions lib answers subscribableMap etByNamespacedName rest store
      else .error (.error (.wrap "error processing subscription" err))

/-- Copy the objects behind the pointers into the response. -/
def outputMesh (store : Store) : EventMesh :=
  { eventTypes := .of store.eventTypes, brokers := .of store.brokers
    subscribables := .of store.subscribables, sources := .of store.sources }

/-- Build the mesh, or leave at the first exit of a fetch or of the
subscription loop. -/
def buildEventMesh (lib : Libraries) (answers : Answers) : Result EventMesh := do
  let convertedBrokers ← fetchBrokers (answers .brokers).clientset
  let convertedSubscribables ← fetchSubscribables lib answers
  let convertedSourceEntries ← fetchSources lib answers
  let brokerMap := indexBy Broker.key convertedBrokers.toList
  let subscribableMap := indexBy Subscribable.key convertedSubscribables.toList
  let convertedEventTypes ← fetchEventTypes (answers .eventTypes).clientset
  let store := registerEventTypes brokerMap subscribableMap
    ⟨convertedBrokers.toList,convertedSubscribables.toList,convertedSourceEntries.toList,
      convertedEventTypes.toList⟩
  let etByNamespacedName := indexBy EventType.namespacedName convertedEventTypes.toList
  let etsByType := groupBy EventType.type convertedEventTypes.toList
  let store := registerSources etsByType store
  let triggers ← ofCall (answers .triggers).clientset.triggers
  let store := processTriggers lib answers brokerMap etByNamespacedName triggers.zipIdx store
  let subscriptions ← ofCall (answers .subscriptions).clientset.subscriptions
  let store ← processSubscriptions lib answers subscribableMap etByNamespacedName
    subscriptions.zipIdx store
  .ok (outputMesh store)

end KnativeMesh.Builder
