import KnativeMesh.Permissions

/-!
# The mesh that is built, as a join

What the code makes of a cluster, without keys, maps and positions: resources and
event types are joined where a reference names a resource, and event types and
consumers where a trigger is subscribed. Subscriptions add no consumers to the
join, because the builder looks their event types up under names that it
qualifies twice and loses them. For resources as Kubernetes admits them every run
ends with this mesh, or at the subscription that stops it.
-/

namespace KnativeMesh.Specification

open Go UnstructuredObject Kubernetes Mesh Converters Builder Passes Runs Keys Listing Fetches
open ClusterContents Registration Triggers Subscriptions

/-- The names of the event types that refer to a resource, in list order. -/
def referring (eventTypes : List EventType) (resource : GroupKindNamespacedName) : List String :=
  (eventTypes.filter (·.reference=some resource)).map (·.namespacedName)

/-- A broker with the event types that refer to it. -/
def specifyBroker (eventTypes : List EventType) (br : Broker) : Broker :=
  {br with providedEventTypes := .of (referring eventTypes (brokerIdentity br))}

/-- A subscribable with the event types that refer to it, unless it is one of
the brokers. -/
def specifySubscribable (eventTypes : List EventType) (brokers : List Broker) (s : Subscribable) :
    Subscribable :=
  { s with
    providedEventTypes := .of
      (if ∃ br ∈ brokers, brokerIdentity br=subscribableIdentity s then []
      else referring eventTypes (subscribableIdentity s)) }

/-- A source with the event types of the types that it announces. -/
def specifySource (eventTypes : List EventType) (source : Source) : Source :=
  {source with providedEventTypes := .of (announcedNames eventTypes source)}

section Run

variable {lib : Libraries} {answers : Answers} (f : Fetched lib answers)

/-- An event type with the consumers that triggers contribute. -/
def specifyEventType (et : EventType) : EventType :=
  {et with consumedBy := .of (triggerConsumers f et)}

/-- The mesh of the fetched resources. -/
def specification : EventMesh :=
  { brokers := .of (f.convertedBrokers.map (specifyBroker f.convertedEventTypes))
    subscribables := .of
      (f.subscribables.toList.map (specifySubscribable f.convertedEventTypes f.convertedBrokers))
    sources := .of (f.sources.toList.map (specifySource f.convertedEventTypes))
    eventTypes := .of (f.convertedEventTypes.map (specifyEventType f)) }

/-- The fetched resources are as Kubernetes admits them: no two brokers or event
types share namespace and name, no two subscribables group, kind, namespace and
name, and these fields hold no slash. References are arbitrary. -/
structure Admitted : Prop where
  brokers : Distinct (f.brokers.map (·.objectMeta))
  brokersFree : SlashFreeObjects (f.brokers.map (·.objectMeta))
  subscribables : (f.subscribables.toList.map subscribableIdentity).Nodup
  subscribablesFree : ∀ s ∈ f.subscribables.toList, GKSlashFree (subscribableIdentity s)
  eventTypes : Distinct (f.eventTypes.map (·.objectMeta))
  eventTypesFree : SlashFreeObjects (f.eventTypes.map (·.objectMeta))

variable (ha : Admitted f)

include ha

/-- Registration gives every broker the event types that refer to it. -/
theorem registered_brokers_specified :
    f.registered.brokers=f.convertedBrokers.map (specifyBroker f.convertedEventTypes) := by
  apply List.ext_getElem?
  intro i
  rw [getElem?_registered_brokers,List.getElem?_map]
  cases hbr : f.convertedBrokers[i]? with
  | none => rfl
  | some br =>
    have hhome : ∀ et, home f et=.broker i ↔ et.reference=some (brokerIdentity br) := by
      intro et
      rw [home_eq_broker_iff f ha.brokers ha.brokersFree,hbr]
      simp
    have hnames : names f (.broker i)=referring f.convertedEventTypes (brokerIdentity br) := by
      unfold names namesAt referring
      simp only [hhome]
    rw [Option.map_some,Option.map_some,hnames]
    rfl

/-- Registration gives every subscribable that is no broker the event types that
refer to it. -/
theorem registered_subscribables_specified :
    f.registered.subscribables=f.subscribables.toList.map
      (specifySubscribable f.convertedEventTypes f.convertedBrokers) := by
  apply List.ext_getElem?
  intro i
  rw [getElem?_registered_subscribables,List.getElem?_map]
  cases hs : f.subscribables.toList[i]? with
  | none => rfl
  | some s =>
    have hhome : ∀ et, home f et=.subscribable i ↔
        et.reference=some (subscribableIdentity s) ∧
          ¬ ∃ br ∈ f.convertedBrokers, brokerIdentity br=subscribableIdentity s := by
      intro et
      rw [home_eq_subscribable_iff f ha.brokersFree ha.subscribables ha.subscribablesFree,hs]
      simp only [Option.some.injEq,exists_eq_left',not_exists,not_and]
      refine and_congr_right fun hreference => forall₂_congr fun br _ => ?_
      rw [hreference,Ne,Option.some.injEq,eq_comm]
    have hnames : names f (.subscribable i)=
        if ∃ br ∈ f.convertedBrokers, brokerIdentity br=subscribableIdentity s then []
        else referring f.convertedEventTypes (subscribableIdentity s) := by
      unfold names namesAt referring
      simp only [hhome]
      by_cases hbroker : ∃ br ∈ f.convertedBrokers, brokerIdentity br=subscribableIdentity s
      · simp [hbroker]
      · simp [hbroker]
    rw [Option.map_some,Option.map_some,hnames]
    rfl

/-- The trigger loop gives every event type the consumers of its triggers. -/
theorem triggered_eventTypes_specified :
    f.triggered.eventTypes=f.convertedEventTypes.map (specifyEventType f) := by
  apply List.ext_getElem?
  intro j
  rw [getElem?_triggered f ha.brokers ha.brokersFree ha.eventTypes ha.eventTypesFree,
    List.getElem?_map]
  rfl

/-- The store after the trigger loop is the mesh of the fetched resources. -/
theorem outputMesh_triggered : outputMesh f.triggered=specification f := by
  have hframe : SameButConsumers f.triggered f.registered :=
    processTriggers_frame lib answers _ _ _ _
  unfold outputMesh specification
  rw [hframe.brokers,hframe.subscribables,hframe.sources,registered_brokers_specified f ha,
    registered_subscribables_specified f ha,registered_sources,triggered_eventTypes_specified f ha]
  rfl

/-- A run that nothing stops returns the mesh of the fetched resources. -/
theorem buildEventMesh_of_unstopped (h : firstStop f=none) :
    buildEventMesh lib answers=.ok (specification f) := by
  rw [f.buildEventMesh_eq,finished_eq,h,subscriptionLog_eq_nil f ha.eventTypesFree,
    ←outputMesh_triggered f ha]
  rfl

omit ha in
/-- A run that a subscription stops returns no mesh. -/
theorem buildEventMesh_of_stopped {stop : Stop} (h : firstStop f=some stop) :
    buildEventMesh lib answers=.error stop.exit := by
  rw [f.buildEventMesh_eq,finished_eq,h]
  rfl

/-- A mesh that a run returns is the mesh of the fetched resources. -/
theorem specified_of_buildEventMesh {mesh : EventMesh} (h : buildEventMesh lib answers=.ok mesh) :
    firstStop f=none ∧ mesh=specification f := by
  cases hstop : firstStop f with
  | none =>
    rw [buildEventMesh_of_unstopped f ha hstop] at h
    exact ⟨rfl,(Except.ok.inj h).symm⟩
  | some stop =>
    rw [buildEventMesh_of_stopped f hstop] at h
    cases h

/-- A run whose fetches succeed ends at the first subscription that stops it, or
else with exactly the mesh that the fetched resources specify. -/
theorem buildEventMesh_eq_specification : buildEventMesh lib answers=
    (firstStop f).elim (.ok (specification f)) fun stop => .error stop.exit := by
  cases hstop : firstStop f with
  | none => exact buildEventMesh_of_unstopped f ha hstop
  | some stop => exact buildEventMesh_of_stopped f hstop

end Run

/-- Two namespaces with a broker each, a channel in one of them, and a source
that announces a type of both. -/
def twoTenants : Contents :=
  { brokers := [⟨bareMeta "shop" "main"⟩,⟨bareMeta "bank" "main"⟩]
    eventTypes :=
      [bareEventType "shop" "order" "order"
        (some ⟨"Broker","shop","main","eventing.knative.dev/v1"⟩),
       bareEventType "bank" "order" "order"
        (some ⟨"Broker","bank","main","eventing.knative.dev/v1"⟩),
       bareEventType "shop" "refund" "refund"
        (some ⟨"InMemoryChannel","shop","audit","messaging.knative.dev/v1"⟩)]
    triggers :=
      [⟨"shop",⟨"main",none,⟨some ⟨"Service","shop","billing","v1"⟩⟩⟩⟩,
       ⟨"bank",⟨"main",none,⟨some ⟨"Service","shop","billing","v1"⟩⟩⟩⟩]
    subscriptions :=
      [⟨"shop",⟨⟨"InMemoryChannel","shop","audit","messaging.knative.dev/v1"⟩,
        some ⟨some ⟨"Service","shop","billing","v1"⟩⟩⟩⟩]
    objects :=
      [(crdResource,inMemoryChannelCRD),
       (inMemoryChannels,manifest "InMemoryChannel" "shop" "audit" []),
       (crdResource,crdManifest ⟨"sources.knative.dev","v1","pingsources"⟩ "duck.knative.dev/source"
        [(eventTypesAnnotationKey,"orders")]),
       (⟨"sources.knative.dev","v1","pingsources"⟩,manifest "PingSource" "shop" "tick" []),
       (⟨"","v1","services"⟩,manifest "Service" "shop" "billing" [(backstageKubernetesIDLabel,"billing")])] }

/-- A decoder of the annotation of the sources. -/
def orderLibraries : Libraries := librariesWith [("orders",[⟨"order","",""⟩])]

/-- What a run over both namespaces fetches. -/
def twoTenantsFetched : Fetched orderLibraries (snapshot twoTenants.cluster) :=
  @Contents.fetched twoTenants orderLibraries
    (.of [⟨none,"messaging.knative.dev","InMemoryChannel",some ∅,"audit","shop",.of [],""⟩])
    (.of [⟨none,"sources.knative.dev","PingSource",some ∅,"tick","shop",.of ["order"],.of [],none,""⟩])
    rfl rfl

/-- Both namespaces hold resources that Kubernetes admits. -/
theorem admitted_twoTenants : Admitted twoTenantsFetched :=
  { brokers := by decide, brokersFree := by decide, subscribables := by decide
    subscribablesFree := by decide, eventTypes := by decide, eventTypesFree := by decide }

/-- The run over both namespaces returns what they specify. -/
theorem buildEventMesh_eq_specification_twoTenants :
    buildEventMesh orderLibraries (snapshot twoTenants.cluster)=
      .ok (specification twoTenantsFetched) ∧
    (specification twoTenantsFetched).eventTypes.toList.map (·.consumedBy)=
      [.of ["billing"],.of ["billing"],.of []] ∧
    (specification twoTenantsFetched).sources.toList.map (·.providedEventTypes)=
      [.of ["bank/order","shop/order"]] := by
  have hstop : firstStop twoTenantsFetched=none := by decide
  have hrun := buildEventMesh_eq_specification twoTenantsFetched admitted_twoTenants
  rw [hstop] at hrun
  exact ⟨hrun,by decide,by decide⟩

end KnativeMesh.Specification
