import KnativeMesh.Registration

/-!
# Consumers from triggers

What a trigger contributes is stated on the listed resources and on the answer
to the get of its subscriber: the label of the subscriber goes to the event types
that refer to the trigger's broker and pass its filter. The trigger loop computes
the same through its maps, once per trigger and in list order, whatever becomes
of the single lookups.
-/

namespace KnativeMesh.Triggers

open Go UnstructuredObject Kubernetes Mesh Converters Builder Passes Runs Keys Listing Fetches
open ClusterContents Registration Library.Index Library.Scatter

/-- A filter accepts a CloudEvents type unless its type attribute names another. -/
def filterAccepts (filter : Option TriggerFilter) (type : String) : Prop :=
  match filter.bind (·.attributes["type"]?) with
  | none => True
  | some wanted => wanted="" ∨ wanted=type

instance (filter : Option TriggerFilter) (type : String) : Decidable (filterAccepts filter type) := by
  dsimp only [filterAccepts]
  split <;> infer_instance

/-- The broker of a trigger is listed in the trigger's namespace. -/
def brokerListed (brokers : List BrokerResource) (trigger : TriggerResource) : Prop :=
  trigger.spec.broker≠"" ∧ ∃ br ∈ brokers, br.objectMeta.nameSpace=trigger.nameSpace ∧
    br.objectMeta.name=trigger.spec.broker

/-- A trigger is subscribed to an event type: its broker is listed, the event
type refers to this broker, and the filter accepts its type. -/
def subscribedTo (brokers : List BrokerResource) (trigger : TriggerResource) (et : EventType) : Prop :=
  brokerListed brokers trigger ∧
    et.reference=some ⟨brokerGroup,brokerKind,trigger.nameSpace,trigger.spec.broker⟩ ∧
      filterAccepts trigger.spec.filter et.type

instance (brokers : List BrokerResource) (trigger : TriggerResource) (et : EventType) :
    Decidable (subscribedTo brokers trigger et) := by
  dsimp only [subscribedTo,brokerListed]
  infer_instance

/-- The answer to the get of the object that a subscriber reference names. -/
def subscriberAnswer (lib : Libraries) (dynamicClient : DynamicClient) (ref : KReference) :
    Except GoError Unstructured :=
  dynamicClient.get
    (lib.unsafeGuessKindToResource (lib.fromAPIVersionAndKind ref.apiVersion ref.kind))
    ref.nameSpace ref.name

/-- The Backstage label of a subscriber, if the object is there and has it.
Without an answer, whatever the error, there is none. -/
def subscriberLabel (lib : Libraries) (dynamicClient : DynamicClient) (ref : KReference) :
    Option String :=
  match subscriberAnswer lib dynamicClient ref with
  | .ok resource => resource.getLabels.get "backstage.io/kubernetes-id"
  | .error _ => none

/-- The consumer that a trigger contributes to an event type, if any: the label
of its subscriber, which must not be empty. -/
def triggerConsumer (lib : Libraries) (dynamicClient : DynamicClient) (brokers : List BrokerResource)
    (trigger : TriggerResource) (et : EventType) : Option String :=
  match trigger.spec.subscriber.ref.bind (subscriberLabel lib dynamicClient) with
  | some id => if id≠"" ∧ subscribedTo brokers trigger et then some id else none
  | none => none

/-- The branches of the filter that restrict a trigger and those that do not. -/
theorem filterAccepts_iff (trigger : TriggerResource) (type : String) :
    filterAccepts trigger.spec.filter type ↔
      ∀ wanted, typeFilter trigger=some wanted → wanted=type := by
  dsimp only [filterAccepts,typeFilter,triggerAnyFilter]
  cases trigger.spec.filter with
  | none => simp
  | some filter =>
    cases ha : filter.attributes["type"]? with
    | none => simp [ha]
    | some wanted =>
      have hne : filter.attributes.isEmpty=false := by
        cases he : filter.attributes.isEmpty with
        | false => rfl
        | true =>
          rw [Std.ExtTreeMap.isEmpty_iff.mp he] at ha
          simp at ha
      by_cases hw : wanted="" <;> simp [ha,hne,hw]

/-- The lookup of the code finds the label, and it finds the empty id where the
object is not found or has no label. -/
theorem getSubscriberBackstageId_eq (lib : Libraries) (dynamicClient : DynamicClient)
    (ref : KReference) :
    getSubscriberBackstageId lib dynamicClient ref=
      match subscriberAnswer lib dynamicClient ref with
      | .ok _ => .ok ((subscriberLabel lib dynamicClient ref).getD "")
      | .error err => if lib.isNotFound err then .ok "" else .error err := by
  dsimp only [getSubscriberBackstageId,subscriberLabel,subscriberAnswer]
  cases dynamicClient.get
    (lib.unsafeGuessKindToResource (lib.fromAPIVersionAndKind ref.apiVersion ref.kind))
    ref.nameSpace ref.name <;> rfl

/-- What the loops take from a lookup is the label, or nothing. -/
theorem lookedUp_eq (lib : Libraries) (dynamicClient : DynamicClient) (ref : KReference) :
    (match getSubscriberBackstageId lib dynamicClient ref with
      | .ok id => id
      | .error _ => "")=(subscriberLabel lib dynamicClient ref).getD "" := by
  rw [getSubscriberBackstageId_eq]
  cases hanswer : subscriberAnswer lib dynamicClient ref with
  | ok resource => rfl
  | error err =>
    have hlabel : subscriberLabel lib dynamicClient ref=none := by
      dsimp only [subscriberLabel]
      rw [hanswer]
    rw [hlabel]
    by_cases hnotFound : lib.isNotFound err=true
    · simp only [hnotFound,if_true,Option.getD_none]
    · simp only [hnotFound,Option.getD_none]
      rfl

/-- The id that the trigger loop works with is the label of the subscriber. -/
theorem triggerId_eq (lib : Libraries) (dynamicClient : DynamicClient) (trigger : TriggerResource) :
    triggerId lib dynamicClient trigger=
      (trigger.spec.subscriber.ref.bind (subscriberLabel lib dynamicClient)).getD "" := by
  dsimp only [triggerId]
  cases trigger.spec.subscriber.ref with
  | none => rfl
  | some ref => exact lookedUp_eq lib dynamicClient ref

/-- A trigger contributes its id where it is subscribed, and an empty id is
no contribution. -/
theorem triggerConsumer_eq (lib : Libraries) (dynamicClient : DynamicClient)
    (brokers : List BrokerResource) (trigger : TriggerResource) (et : EventType) :
    triggerConsumer lib dynamicClient brokers trigger et=
      if triggerId lib dynamicClient trigger≠"" ∧ subscribedTo brokers trigger et then
        some (triggerId lib dynamicClient trigger) else none := by
  rw [triggerId_eq]
  dsimp only [triggerConsumer]
  cases trigger.spec.subscriber.ref.bind (subscriberLabel lib dynamicClient) with
  | none => simp
  | some id => simp only [Option.getD_some]

section Run

variable {lib : Libraries} {answers : Answers} (f : Fetched lib answers)

section Lookup

variable (hd : Distinct (f.eventTypes.map (·.objectMeta)))
  (hfree : SlashFreeObjects (f.eventTypes.map (·.objectMeta)))

include hd hfree

/-- A listed name leads back to the event type that was registered under it. -/
theorem etByNamespacedName_eq_some_iff (name : String) (j : ℕ) :
    f.etByNamespacedName[name]?=some j ↔
      ∃ et, f.convertedEventTypes[j]?=some et ∧ et.namespacedName=name := by
  rw [Fetched.etByNamespacedName,indexBy_eq_some_iff (namespacedNames_nodup f hd hfree)]

/-- The pointers behind the names at a home are the event types at home there. -/
theorem mem_filterMap_names_iff (target : Home) (j : ℕ) :
    j ∈ (names f target).filterMap (f.etByNamespacedName[·]?) ↔
      ∃ et, f.convertedEventTypes[j]?=some et ∧ home f et=target := by
  rw [List.mem_filterMap]
  constructor
  · intro hp
    rcases hp with ⟨name,hname,hj⟩
    obtain ⟨et,het,rfl⟩ := (etByNamespacedName_eq_some_iff f hd hfree name j).mp hj
    obtain ⟨other,hother,hsame⟩ := List.mem_map.mp hname
    obtain ⟨hmem,hhome⟩ := List.mem_filter.mp hother
    have he := List.inj_on_of_nodup_map (namespacedNames_nodup f hd hfree) hmem
      (List.mem_of_getElem? het) hsame
    rw [he] at hhome
    exact ⟨et,het,of_decide_eq_true hhome⟩
  · intro hp
    rcases hp with ⟨et,het,hhome⟩
    refine ⟨et.namespacedName,?_,(etByNamespacedName_eq_some_iff f hd hfree _ j).mpr ⟨et,het,rfl⟩⟩
    exact List.mem_map.mpr ⟨et,List.mem_filter.mpr ⟨List.mem_of_getElem? het,decide_eq_true hhome⟩,rfl⟩

/-- Different listed names lead to different event types. -/
theorem filterMap_names_nodup (target : Home) :
    ((names f target).filterMap (f.etByNamespacedName[·]?)).Nodup := by
  apply List.Nodup.filterMap _ (names_nodup f hd hfree target)
  intro first second j hfirst hsecond
  obtain ⟨et,het,rfl⟩ := (etByNamespacedName_eq_some_iff f hd hfree first j).mp hfirst
  obtain ⟨other,hother,rfl⟩ := (etByNamespacedName_eq_some_iff f hd hfree second j).mp hsecond
  rw [het] at hother
  rw [Option.some.inj hother]

end Lookup

section Targets

variable (hbrokers : Distinct (f.brokers.map (·.objectMeta)))
  (hbrokersFree : SlashFreeObjects (f.brokers.map (·.objectMeta)))
  (heventTypes : Distinct (f.eventTypes.map (·.objectMeta)))
  (heventTypesFree : SlashFreeObjects (f.eventTypes.map (·.objectMeta)))

/-- The event types that a trigger selects at its broker, given by the
position of the broker. -/
theorem triggerTargets_of_broker {trigger : TriggerResource} (hne : trigger.spec.broker≠"") {i : ℕ}
    {br : Broker} (hmap : f.brokerMap[brokerRef trigger]?=some i)
    (hbr : f.convertedBrokers[i]?=some br) :
    triggerTargets f.brokerMap f.etByNamespacedName f.registered.brokers f.convertedEventTypes trigger=
      ((names f (.broker i)).filterMap (f.etByNamespacedName[·]?)).filter fun j =>
        ∀ wanted, typeFilter trigger=some wanted → f.convertedEventTypes[j]?.map (·.type)=some wanted := by
  dsimp only [triggerTargets]
  rw [if_neg hne,hmap]
  dsimp only
  rw [getElem?_registered_brokers,hbr]
  dsimp only [Option.map_some]
  dsimp only [collectSubscribedEventTypes]
  cases typeFilter trigger with
  | none => simp
  | some wanted => simp

/-- The selection at a broker that is not in the map is empty. -/
theorem triggerTargets_of_none {trigger : TriggerResource}
    (hmap : f.brokerMap[brokerRef trigger]?=none) :
    triggerTargets f.brokerMap f.etByNamespacedName f.registered.brokers f.convertedEventTypes trigger=
      [] := by
  dsimp only [triggerTargets]
  split
  · rfl
  · rw [hmap]

include heventTypes heventTypesFree in
/-- No trigger selects an event type twice. -/
theorem triggerTargets_nodup (trigger : TriggerResource) :
    (triggerTargets f.brokerMap f.etByNamespacedName f.registered.brokers f.convertedEventTypes
      trigger).Nodup := by
  cases hmap : f.brokerMap[brokerRef trigger]? with
  | none =>
    rw [triggerTargets_of_none f hmap]
    exact List.nodup_nil
  | some i =>
    obtain ⟨br,hbr,_⟩ := indexBy_sound hmap
    by_cases hne : trigger.spec.broker=""
    · dsimp only [triggerTargets]
      rw [if_pos hne]
      exact List.nodup_nil
    · rw [triggerTargets_of_broker f hne hmap hbr]
      exact (filterMap_names_nodup f heventTypes heventTypesFree _).filter _

include hbrokers hbrokersFree in
/-- The broker map holds the broker of a trigger exactly when it is listed in
the trigger's namespace. -/
theorem exists_brokerMap_iff (trigger : TriggerResource) :
    (∃ br ∈ f.brokers, br.objectMeta.nameSpace=trigger.nameSpace ∧
      br.objectMeta.name=trigger.spec.broker) ↔ ∃ i, f.brokerMap[brokerRef trigger]?=some i := by
  have hlookup := brokerMap_eq_some_iff f hbrokers hbrokersFree
    ⟨brokerGroup,brokerKind,trigger.nameSpace,trigger.spec.broker⟩
  constructor
  · intro hp
    rcases hp with ⟨br,hbr,hns,hname⟩
    obtain ⟨i,hi⟩ := List.getElem?_of_mem hbr
    refine ⟨i,(hlookup i).mpr ⟨convertBroker br,?_,?_⟩⟩
    · rw [Fetched.convertedBrokers,List.getElem?_map,hi,Option.map_some]
    · rw [brokerIdentity,←hns,←hname]
      rfl
  · intro hp
    rcases hp with ⟨i,hi⟩
    obtain ⟨br,hbr,hid⟩ := (hlookup i).mp hi
    obtain ⟨resource,hmem,rfl⟩ := mem_convertedBrokers f (List.mem_of_getElem? hbr)
    injection hid with _ _ hns hname
    exact ⟨resource,hmem,hns,hname⟩

include hbrokers hbrokersFree heventTypes heventTypesFree in
/-- A trigger selects exactly the event types that it is subscribed to. -/
theorem mem_triggerTargets_iff (trigger : TriggerResource) (j : ℕ) :
    j ∈ triggerTargets f.brokerMap f.etByNamespacedName f.registered.brokers f.convertedEventTypes
        trigger ↔
      ∃ et, f.convertedEventTypes[j]?=some et ∧ subscribedTo f.brokers trigger et := by
  have hlisted := exists_brokerMap_iff f hbrokers hbrokersFree trigger
  by_cases hne : trigger.spec.broker=""
  · have hnil : triggerTargets f.brokerMap f.etByNamespacedName f.registered.brokers
        f.convertedEventTypes trigger=[] := by
      dsimp only [triggerTargets]
      rw [if_pos hne]
    rw [hnil]
    simp [subscribedTo,brokerListed,hne]
  · cases hmap : f.brokerMap[brokerRef trigger]? with
    | none =>
      rw [triggerTargets_of_none f hmap]
      have hnone : ¬ brokerListed f.brokers trigger := by
        intro hl
        obtain ⟨i,hi⟩ := hlisted.mp hl.2
        rw [hmap] at hi
        cases hi
      simp [subscribedTo,hnone]
    | some i =>
      have hl : brokerListed f.brokers trigger := ⟨hne,hlisted.mpr ⟨i,hmap⟩⟩
      obtain ⟨br,hbr,hkey⟩ := (brokerMap_eq_some_iff f hbrokers hbrokersFree
        ⟨brokerGroup,brokerKind,trigger.nameSpace,trigger.spec.broker⟩ i).mp hmap
      rw [triggerTargets_of_broker f hne hmap hbr,List.mem_filter,
        mem_filterMap_names_iff f heventTypes heventTypesFree]
      simp only [home_eq_broker_iff f hbrokers hbrokersFree,hbr,Option.some.injEq,exists_eq_left',
        hkey,decide_eq_true_eq,subscribedTo,hl,true_and,filterAccepts_iff]
      constructor
      · intro hp
        rcases hp with ⟨⟨et,het,hr⟩,hfilter⟩
        refine ⟨et,het,hr,fun wanted hw => ?_⟩
        have htype := hfilter wanted hw
        rw [het,Option.map_some] at htype
        exact (Option.some.inj htype).symm
      · intro hp
        rcases hp with ⟨et,het,hr,hfilter⟩
        refine ⟨⟨et,het,hr⟩,fun wanted hw => ?_⟩
        rw [het,Option.map_some,hfilter wanted hw]

/-- The consumers that the triggers of a run contribute to an event type. -/
def triggerConsumers (et : EventType) : List String :=
  f.triggers.zipIdx.filterMap fun trigger =>
    triggerConsumer lib (answers (.triggerSubscriber trigger.2)).dynamicClient f.brokers trigger.1 et

/-- What a trigger contributes depends on no consumer. -/
theorem triggerConsumers_fixed (et : EventType) :
    triggerConsumers f (fixed et)=triggerConsumers f et := rfl

include hbrokers hbrokersFree heventTypes heventTypesFree in
/-- The part of the trigger log that reaches an event type. -/
theorem logAt_triggers {j : ℕ} {et : EventType} (het : f.convertedEventTypes[j]?=some et) :
    logAt j (logOf (fun trigger => triggerWrites lib f.brokerMap f.etByNamespacedName
        (answers (.triggerSubscriber trigger.2)).dynamicClient f.registered trigger.1)
      (fun trigger => triggerId lib (answers (.triggerSubscriber trigger.2)).dynamicClient trigger.1)
      f.triggers.zipIdx)=triggerConsumers f et := by
  rw [logAt_logOf,triggerConsumers]
  · congr 1
    funext trigger
    have hmem := mem_triggerTargets_iff f hbrokers hbrokersFree heventTypes heventTypesFree trigger.1 j
    rw [het] at hmem
    rw [triggerConsumer_eq]
    unfold triggerWrites
    rw [registered_eventTypes]
    by_cases hid : triggerId lib (answers (.triggerSubscriber trigger.2)).dynamicClient trigger.1=""
    · simp [hid]
    · simp [hid,hmem]
  · intro trigger _
    dsimp only [triggerWrites]
    rw [registered_eventTypes]
    split
    · exact List.nodup_nil
    · exact triggerTargets_nodup f heventTypes heventTypesFree trigger.1

include hbrokers hbrokersFree heventTypes heventTypesFree in
/-- After the trigger loop every event type has the consumers that the
triggers contribute, and is otherwise as it was converted. -/
theorem getElem?_triggered (j : ℕ) :
    f.triggered.eventTypes[j]?=f.convertedEventTypes[j]?.map fun et =>
      {et with consumedBy := .of (triggerConsumers f et)} := by
  rw [Fetched.triggered,processTriggers_eq]
  dsimp only
  rw [getElem?_scatter,registered_eventTypes]
  cases het : f.convertedEventTypes[j]? with
  | none => rfl
  | some et =>
    obtain ⟨resource,_,rfl⟩ := (mem_convertedEventTypes f).mp (List.mem_of_getElem? het)
    have hlog := logAt_triggers f hbrokers hbrokersFree heventTypes heventTypesFree het
    rw [Option.map_some,Option.map_some,hlog,foldl_consume]
    dsimp only [convertEventType]
    rw [Slice.foldl_append_of,List.nil_append]

end Targets

end Run

/-- Without subscriptions the mesh holds every listed event type, and its
consumers are the ids of the triggers subscribed to it, in trigger order and
once per trigger. No lookup, whatever its outcome, stops the run. -/
theorem buildEventMesh_triggerConsumers {lib : Libraries} {answers : Answers}
    (f : Fetched lib answers) (hsubscriptions : f.subscriptions=[])
    (hbrokers : Distinct (f.brokers.map (·.objectMeta)))
    (hbrokersFree : SlashFreeObjects (f.brokers.map (·.objectMeta)))
    (heventTypes : Distinct (f.eventTypes.map (·.objectMeta)))
    (heventTypesFree : SlashFreeObjects (f.eventTypes.map (·.objectMeta))) :
    ∃ mesh, buildEventMesh lib answers=.ok mesh ∧
      mesh.eventTypes=.of (f.convertedEventTypes.map fun et =>
        {et with consumedBy := .of (triggerConsumers f et)}) := by
  have hfinished : f.finished=.ok f.triggered := by
    dsimp only [Fetched.finished]
    rw [hsubscriptions]
    rfl
  refine ⟨outputMesh f.triggered,f.buildEventMesh_eq_ok_iff.mpr ⟨_,hfinished,rfl⟩,?_⟩
  have hlist : f.triggered.eventTypes=f.convertedEventTypes.map fun et =>
      {et with consumedBy := .of (triggerConsumers f et)} := by
    apply List.ext_getElem?
    intro j
    rw [getElem?_triggered f hbrokers hbrokersFree heventTypes heventTypesFree,List.getElem?_map]
  exact congrArg Slice.of hlist

/-- The resource of services. -/
def services : GroupVersionResource := ⟨"","v1","services"⟩

/-- One broker with two event types and four triggers: one for a single type,
one for all types, one whose subscriber is missing and one of another broker. -/
def fourTriggers : Contents :=
  { brokers := [⟨bareMeta "shop" "main"⟩]
    eventTypes :=
      [bareEventType "shop" "order" "shop.order"
        (some ⟨"Broker","shop","main","eventing.knative.dev/v1"⟩),
       bareEventType "shop" "refund" "shop.refund"
        (some ⟨"Broker","shop","main","eventing.knative.dev/v1"⟩)]
    triggers :=
      [⟨"shop",⟨"main",some ⟨.ofList [("type","shop.order")]⟩,⟨some ⟨"Service","shop","charge","v1"⟩⟩⟩⟩,
       ⟨"shop",⟨"main",none,⟨some ⟨"Service","shop","recorder","v1"⟩⟩⟩⟩,
       ⟨"shop",⟨"main",none,⟨some ⟨"Service","shop","gone","v1"⟩⟩⟩⟩,
       ⟨"shop",⟨"other",none,⟨some ⟨"Service","shop","recorder","v1"⟩⟩⟩⟩]
    subscriptions := []
    objects :=
      [(services,manifest "Service" "shop" "charge" [("backstage.io/kubernetes-id","billing")]),
       (services,manifest "Service" "shop" "recorder" [("backstage.io/kubernetes-id","audit")])] }

/-- What a run over the four triggers fetches. -/
def fourTriggersFetched : Fetched (librariesWith []) (snapshot fourTriggers.cluster) :=
  @Contents.fetched fourTriggers (librariesWith []) (.of []) (.of []) rfl rfl

/-- Two more triggers for all types: the subscriber of one has no label, the
subscriber of the other may not be read. -/
def sixTriggers : Contents :=
  { fourTriggers with
    triggers := fourTriggers.triggers++
      [⟨"shop",⟨"main",none,⟨some ⟨"Service","shop","plain","v1"⟩⟩⟩⟩,
       ⟨"shop",⟨"main",none,⟨some ⟨"Service","shop","secret","v1"⟩⟩⟩⟩]
    objects := fourTriggers.objects++[(services,manifest "Service" "shop" "plain" [])] }

/-- The cluster of the six triggers, in which one get is refused. -/
def sixTriggersCluster : Cluster :=
  { sixTriggers.cluster with
    dynamicClient := { sixTriggers.cluster.dynamicClient with
      get := fun gvr ns name =>
        if name="secret" then .error (.status ⟨.forbidden,403,"services \"secret\" is forbidden"⟩)
        else sixTriggers.cluster.dynamicClient.get gvr ns name } }

/-- What a run over the six triggers fetches. -/
def sixTriggersFetched : Fetched (librariesWith []) (snapshot sixTriggersCluster) :=
  ⟨sixTriggers.brokers,.of [],.of [],sixTriggers.eventTypes,sixTriggers.triggers,[],
    rfl,rfl,rfl,rfl,rfl,rfl⟩

/-- A run in which the first two triggers contribute the labels of their
subscribers and the other four contribute nothing. -/
theorem buildEventMesh_triggerConsumers_sixTriggers :
    (∃ mesh, buildEventMesh (librariesWith []) (snapshot sixTriggersCluster)=.ok mesh ∧
      mesh.eventTypes=.of (sixTriggersFetched.convertedEventTypes.map fun et =>
        {et with consumedBy := .of (triggerConsumers sixTriggersFetched et)})) ∧
    sixTriggersFetched.convertedEventTypes.map (triggerConsumers sixTriggersFetched)=
      [["billing","audit"],["audit"]] :=
  ⟨buildEventMesh_triggerConsumers sixTriggersFetched rfl (by decide) (by decide) (by decide)
    (by decide),by decide⟩

end KnativeMesh.Triggers
