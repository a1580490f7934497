import KnativeMesh.Builder
import KnativeMesh.Library.Scatter

/-!
# The builder's passes as logs of writes

Registration writes names to brokers and subscribables, triggers and
subscriptions write consumer ids to event types. Each pass reads only what it
does not write, so its writes form a log that the initial store determines.
A run of the builder is its fetches followed by these passes, and it can leave
early only in a fetch or in the subscription loop.
-/

namespace KnativeMesh.Passes

open Go UnstructuredObject Kubernetes Mesh Converters Builder Library.Index Library.Scatter

/-- Where registration puts an event type. -/
inductive Home where
  | broker (position : ℕ)
  | subscribable (position : ℕ)
  | nowhere
  deriving DecidableEq

/-- The home of an event type: the broker its reference leads to, or else the
subscribable it leads to. -/
def homeOf (brokerMap subscribableMap : GoMap ℕ) (et : EventType) : Home :=
  match et.reference with
  | none => .nowhere
  | some reference =>
    match brokerMap[reference.string]? with
    | some br => .broker br
    | none => (subscribableMap[reference.string]?).elim .nowhere .subscribable

/-- Being at home at a broker is a hit in the broker map. -/
theorem homeOf_eq_broker_iff {brokerMap subscribableMap : GoMap ℕ} {et : EventType} {i : ℕ} :
    homeOf brokerMap subscribableMap et=.broker i ↔
      ∃ reference, et.reference=some reference ∧ brokerMap[reference.string]?=some i := by
  dsimp only [homeOf]
  cases et.reference with
  | none => simp
  | some reference =>
    simp only [Option.some.injEq,exists_eq_left']
    generalize brokerMap[reference.string]?=br
    generalize subscribableMap[reference.string]?=s
    cases br <;> cases s <;> simp

/-- Being at home at a subscribable is a miss in the broker map and a hit in
the subscribable map. -/
theorem homeOf_eq_subscribable_iff {brokerMap subscribableMap : GoMap ℕ} {et : EventType} {i : ℕ} :
    homeOf brokerMap subscribableMap et=.subscribable i ↔
      ∃ reference, et.reference=some reference ∧ brokerMap[reference.string]?=none ∧
        subscribableMap[reference.string]?=some i := by
  dsimp only [homeOf]
  cases et.reference with
  | none => simp
  | some reference =>
    simp only [Option.some.injEq,exists_eq_left']
    generalize brokerMap[reference.string]?=br
    generalize subscribableMap[reference.string]?=s
    cases br <;> cases s <;> simp

/-- Positions of brokers in a home. -/
def Home.brokers : Home → List ℕ
  | broker position => [position]
  | _ => []

/-- Positions of subscribables in a home. -/
def Home.subscribables : Home → List ℕ
  | subscribable position => [position]
  | _ => []

/-- The event types whose home is a given one, by name and in list order. -/
def namesAt (home : EventType → Home) (target : Home) (eventTypes : List EventType) : List String :=
  (eventTypes.filter (home ·=target)).map (·.namespacedName)

section Registration

variable (brokerMap subscribableMap : GoMap ℕ)

/-- Registration appends every event type to its home, brokers and
subscribables apart. -/
theorem foldl_registerEventType (store : Store) (eventTypes : List EventType) :
    eventTypes.foldl (registerEventType brokerMap subscribableMap) store=
      { store with
        brokers := scatter Broker.provide store.brokers
          (logOf (fun et => (homeOf brokerMap subscribableMap et).brokers)
            EventType.namespacedName eventTypes)
        subscribables := scatter Subscribable.provide store.subscribables
          (logOf (fun et => (homeOf brokerMap subscribableMap et).subscribables)
            EventType.namespacedName eventTypes) } := by
  induction eventTypes generalizing store with
  | nil => rfl
  | cons et eventTypes ih =>
    rw [List.foldl_cons,ih]
    cases hr : et.reference with
    | none => simp [registerEventType,homeOf,hr,logOf,Home.brokers,Home.subscribables]
    | some reference =>
      cases hb : brokerMap[reference.string]? with
      | some br => simp [registerEventType,homeOf,hr,hb,logOf,Home.brokers,Home.subscribables]
      | none =>
        cases hs : subscribableMap[reference.string]? with
        | some s => simp [registerEventType,homeOf,hr,hb,hs,logOf,Home.brokers,Home.subscribables]
        | none => simp [registerEventType,homeOf,hr,hb,hs,logOf,Home.brokers,Home.subscribables]

/-- Selecting a broker position is having it as home. -/
theorem mem_brokers_iff (home : Home) (i : ℕ) : i ∈ home.brokers ↔ home=.broker i := by
  cases home <;> simp [Home.brokers,eq_comm]

/-- Selecting a subscribable position is having it as home. -/
theorem mem_subscribables_iff (home : Home) (i : ℕ) :
    i ∈ home.subscribables ↔ home=.subscribable i := by
  cases home <;> simp [Home.subscribables,eq_comm]

/-- The names a position receives are those of the event types at home there. -/
theorem logAt_home (home : EventType → Home) {select : Home → List ℕ} {target : ℕ → Home}
    (hmem : ∀ h i, i ∈ select h ↔ h=target i) (hd : ∀ h, (select h).Nodup)
    (eventTypes : List EventType) (i : ℕ) :
    logAt i (logOf (fun et => select (home et)) EventType.namespacedName eventTypes)=
      namesAt home (target i) eventTypes := by
  rw [logAt_logOf fun et _ => hd (home et),namesAt,←List.filterMap_eq_map,←List.filterMap_eq_filter,
    List.filterMap_filterMap]
  congr 1
  funext et
  by_cases hh : home et=target i
  · have hi := (hmem (home et) i).mpr hh
    rw [hh] at hi
    simp [hi,hh,Option.guard]
  · have hn : i ∉ select (home et) := fun hm => hh ((hmem (home et) i).mp hm)
    simp [hn,hh,Option.guard]

theorem Home.brokers_nodup (home : Home) : home.brokers.Nodup := by
  cases home <;> simp [Home.brokers]

theorem Home.subscribables_nodup (home : Home) : home.subscribables.Nodup := by
  cases home <;> simp [Home.subscribables]

/-- Registration gives the broker at a position the names at home there, and
leaves its other fields as they are. -/
theorem getElem?_registered_broker (store : Store) (i : ℕ) :
    (registerEventTypes brokerMap subscribableMap store).brokers[i]?=
      store.brokers[i]?.map fun br =>
        (namesAt (homeOf brokerMap subscribableMap) (.broker i) store.eventTypes).foldl
          Broker.provide br := by
  rw [registerEventTypes,foldl_registerEventType]
  dsimp only
  rw [getElem?_scatter,logAt_home _ mem_brokers_iff Home.brokers_nodup]

/-- Registration gives the subscribable at a position the names at home there,
and leaves its other fields as they are. -/
theorem getElem?_registered_subscribable (store : Store) (i : ℕ) :
    (registerEventTypes brokerMap subscribableMap store).subscribables[i]?=
      store.subscribables[i]?.map fun s =>
        (namesAt (homeOf brokerMap subscribableMap) (.subscribable i) store.eventTypes).foldl
          Subscribable.provide s := by
  rw [registerEventTypes,foldl_registerEventType]
  dsimp only
  rw [getElem?_scatter,logAt_home _ mem_subscribables_iff Home.subscribables_nodup]

/-- Registration changes neither sources nor event types. -/
theorem registerEventTypes_frame (store : Store) :
    (registerEventTypes brokerMap subscribableMap store).sources=store.sources ∧
      (registerEventTypes brokerMap subscribableMap store).eventTypes=store.eventTypes := by
  rw [registerEventTypes,foldl_registerEventType]
  exact ⟨rfl,rfl⟩

end Registration

/-- A broker after a registration: its list has grown, nothing else changed. -/
theorem foldl_broker_provide (br : Broker) (names : List String) :
    names.foldl Broker.provide br=
      {br with providedEventTypes := names.foldl Slice.append br.providedEventTypes} :=
  @foldl_field _ _ _ Broker.providedEventTypes (fun br list => {br with providedEventTypes := list})
    (fun _ _ => rfl) (fun _ _ _ => rfl) (fun _ => rfl) Slice.append br names

/-- A subscribable after a registration: its list has grown, nothing else changed. -/
theorem foldl_subscribable_provide (s : Subscribable) (names : List String) :
    names.foldl Subscribable.provide s=
      {s with providedEventTypes := names.foldl Slice.append s.providedEventTypes} :=
  @foldl_field _ _ _ Subscribable.providedEventTypes
    (fun s list => {s with providedEventTypes := list})
    (fun _ _ => rfl) (fun _ _ _ => rfl) (fun _ => rfl) Slice.append s names

/-- A source after a registration: its list has grown, nothing else changed. -/
theorem foldl_source_provide (source : Source) (names : List String) :
    names.foldl Source.provide source=
      {source with providedEventTypes := names.foldl Slice.append source.providedEventTypes} :=
  @foldl_field _ _ _ Source.providedEventTypes
    (fun source list => {source with providedEventTypes := list})
    (fun _ _ => rfl) (fun _ _ _ => rfl) (fun _ => rfl) Slice.append source names

/-- An event type after some consumers: its list has grown, nothing else changed. -/
theorem foldl_consume (et : EventType) (ids : List String) :
    ids.foldl EventType.consume et={et with consumedBy := ids.foldl Slice.append et.consumedBy} :=
  @foldl_field _ _ _ EventType.consumedBy (fun et list => {et with consumedBy := list})
    (fun _ _ => rfl) (fun _ _ _ => rfl) (fun _ => rfl) Slice.append et ids

/-- The names of the event types of the types a source announces, type by
type in announced order. -/
def announcedNames (eventTypes : List EventType) (source : Source) : List String :=
  source.providedEventTypeTypes.toList.flatMap fun providedType =>
    (eventTypes.filter (·.type=providedType)).map (·.namespacedName)

/-- Registration in a source appends the announced names. -/
theorem registerSource_eq (eventTypes : List EventType) (source : Source) :
    registerSource (groupBy EventType.type eventTypes) eventTypes source=
      (announcedNames eventTypes source).foldl Source.provide source := by
  dsimp only [registerSource,announcedNames]
  split
  · next hnil => rw [hnil]; rfl
  · rw [List.foldl_flatMap]
    congr 1
    funext source providedType
    -- the event types behind the pointers are those of the announced type
    rw [←groupBy_filterMap,List.foldl_map]
    cases (groupBy EventType.type eventTypes)[providedType]? <;> rfl

/-- The Backstage id a trigger's subscriber contributes; empty when there is
no reference, no label or no answer. -/
def triggerId (lib : Libraries) (dynamicClient : DynamicClient) (trigger : TriggerResource) : String :=
  match trigger.spec.subscriber.ref with
  | none => ""
  | some ref =>
    match getSubscriberBackstageId lib dynamicClient ref with
    | .ok id => id
    | .error _ => ""

/-- The event types that a trigger selects at its broker. -/
def triggerTargets (brokerMap etByNamespacedName : GoMap ℕ) (brokers : List Broker)
    (eventTypes : List EventType) (trigger : TriggerResource) : List ℕ :=
  if trigger.spec.broker="" then []
  else match brokerMap[brokerRef trigger]? with
    | none => []
    | some br =>
      match brokers[br]? with
      | none => []
      | some broker => collectSubscribedEventTypes trigger broker etByNamespacedName eventTypes

/-- A new consumer leaves the CloudEvents type as it is. -/
theorem consume_type (et : EventType) (id : String) : (et.consume id).type=et.type := rfl

section Triggers

variable (lib : Libraries) (brokerMap etByNamespacedName : GoMap ℕ)

/-- Adding one consumer to several event types is a log of writes. -/
theorem consumeAll_eq (id : String) (targets : List ℕ) (eventTypes : List EventType) :
    consumeAll id targets eventTypes=
      scatter EventType.consume eventTypes (targets.map fun target => (target,id)) := by
  rw [consumeAll,scatter,List.foldl_map]

/-- Selecting event types reads nothing of them but their CloudEvents type. -/
theorem triggerTargets_congr (brokers : List Broker) {first second : List EventType}
    (h : first.map (·.type)=second.map (·.type)) (trigger : TriggerResource) :
    triggerTargets brokerMap etByNamespacedName brokers first trigger=
      triggerTargets brokerMap etByNamespacedName brokers second trigger := by
  have htype : ∀ i : ℕ, first[i]?.map (·.type)=second[i]?.map (·.type) := by
    intro i
    rw [←List.getElem?_map,←List.getElem?_map,h]
  simp only [triggerTargets,collectSubscribedEventTypes,htype]

/-- The event types that one trigger writes its id to. -/
def triggerWrites (dynamicClient : DynamicClient) (store : Store) (trigger : TriggerResource) : List ℕ :=
  if triggerId lib dynamicClient trigger="" then []
  else triggerTargets brokerMap etByNamespacedName store.brokers store.eventTypes trigger

/-- Consumers added in between change no trigger's writes. -/
theorem triggerWrites_scatter (dynamicClient : DynamicClient) (store : Store)
    (log : List (ℕ×String)) (trigger : TriggerResource) :
    triggerWrites lib brokerMap etByNamespacedName dynamicClient
        {store with eventTypes := scatter EventType.consume store.eventTypes log} trigger=
      triggerWrites lib brokerMap etByNamespacedName dynamicClient store trigger := by
  have htype := map_scatter consume_type store.eventTypes log
  dsimp only [triggerWrites]
  rw [triggerTargets_congr brokerMap etByNamespacedName store.brokers htype]

/-- One iteration of the trigger loop is a log of the trigger's writes. -/
theorem afterTrigger_eq (dynamicClient : DynamicClient) (trigger : TriggerResource) (store : Store) :
    afterTrigger store
      (processTrigger lib dynamicClient brokerMap etByNamespacedName trigger store)=
    { store with
      eventTypes := scatter EventType.consume store.eventTypes
        ((triggerWrites lib brokerMap etByNamespacedName dynamicClient store trigger).map fun target =>
          (target,triggerId lib dynamicClient trigger)) } := by
  rw [←consumeAll_eq,triggerWrites]
  cases href : trigger.spec.subscriber.ref with
  | none =>
    have hid : triggerId lib dynamicClient trigger="" := by simp only [triggerId,href]
    simp only [processTrigger,afterTrigger,href,hid,if_true,consumeAll,List.foldl_nil]
  | some ref =>
    cases hl : getSubscriberBackstageId lib dynamicClient ref with
    | error err =>
      have hid : triggerId lib dynamicClient trigger="" := by simp only [triggerId,href,hl]
      simp only [processTrigger,afterTrigger,href,hl,hid,if_true,consumeAll,List.foldl_nil]
    | ok id =>
      have hid : triggerId lib dynamicClient trigger=id := by simp only [triggerId,href,hl]
      simp only [processTrigger,afterTrigger,href,hl,hid,triggerTargets]
      by_cases hempty : id=""
      · simp only [hempty,if_true,consumeAll,List.foldl_nil]
      · by_cases hbroker : trigger.spec.broker=""
        · simp only [hempty,hbroker,if_true,if_false,consumeAll,List.foldl_nil]
        · simp only [hempty,hbroker,if_false]
          cases brokerMap[brokerRef trigger]? with
          | none => rfl
          | some br =>
            dsimp only
            cases store.brokers[br]? <;> rfl

/-- The trigger loop is a log of writes that the store before the loop
determines. -/
theorem processTriggers_eq (answers : Answers) (triggers : List (TriggerResource×ℕ)) (store : Store) :
    processTriggers lib answers brokerMap etByNamespacedName triggers store=
      { store with
        eventTypes := scatter EventType.consume store.eventTypes
          (logOf (fun trigger => triggerWrites lib brokerMap etByNamespacedName
              (answers (.triggerSubscriber trigger.2)).dynamicClient store trigger.1)
            (fun trigger =>
              triggerId lib (answers (.triggerSubscriber trigger.2)).dynamicClient trigger.1)
            triggers) } := by
  dsimp only [processTriggers]
  induction triggers generalizing store with
  | nil => rfl
  | cons trigger triggers ih =>
    rw [List.foldl_cons,afterTrigger_eq,ih]
    simp only [triggerWrites_scatter]
    rw [←scatter_append]
    rfl

end Triggers

end KnativeMesh.Passes
