import KnativeMesh.PositionFree

/-!
# Listing orders

Two API servers that store the same may list it in different orders. If the
keys of the builder are distinct, the order does not matter: both runs succeed
or none does, the event types come out in the same order, and everything else
is a reordering. Only consumers of one event type show in which order triggers
and subscriptions were listed.
-/

namespace KnativeMesh.ListingOrder

open Go UnstructuredObject Kubernetes Mesh Converters Builder Passes Runs Keys Listing Fetches
open ClusterContents Registration Triggers Subscriptions Permissions PositionFree Library.Index Library.Scatter

/-- Two answers to the same list call, up to the order of the listed objects. -/
def SameUpToOrder {α : Type} : Except GoError (List α) → Except GoError (List α) → Prop
  | .ok first,.ok second => first.Perm second
  | .error err,.error err' => err=err'
  | _,_ => False

/-- Two clusters whose list calls answer alike up to order, and whose
subscribers are looked up alike. -/
structure Permuted (lib : Libraries) (first second : Cluster) : Prop where
  brokers : SameUpToOrder first.clientset.brokers second.clientset.brokers
  eventTypes : SameUpToOrder first.clientset.eventTypes second.clientset.eventTypes
  triggers : SameUpToOrder first.clientset.triggers second.clientset.triggers
  subscriptions : SameUpToOrder first.clientset.subscriptions second.clientset.subscriptions
  /-- CRDs, and the instances of each. -/
  list : ∀ gvr labelSelector, SameUpToOrder (first.dynamicClient.list gvr labelSelector)
    (second.dynamicClient.list gvr labelSelector)
  lookups : ∀ ref, getSubscriberBackstageId lib first.dynamicClient ref=
    getSubscriberBackstageId lib second.dynamicClient ref

/-- The listed resources of a kind have pairwise distinct identities: brokers
and subscribables under the keys of the builder's maps, event types by
namespace and name. -/
structure DistinctIdentities (lib : Libraries) (cluster : Cluster) : Prop where
  brokers : ∀ brokers, cluster.clientset.brokers=.ok brokers →
    ((brokers.map convertBroker).map Broker.key).Nodup
  subscribables : ∀ subscribables, fetchSubscribables lib (snapshot cluster)=.ok subscribables →
    (subscribables.toList.map Subscribable.key).Nodup
  eventTypes : ∀ eventTypes, cluster.clientset.eventTypes=.ok eventTypes →
    Distinct (eventTypes.map (·.objectMeta))

section Answers

variable {α : Type}

/-- The relation does not prefer one of the answers. -/
theorem SameUpToOrder.symm {first second : Except GoError (List α)}
    (h : SameUpToOrder first second) : SameUpToOrder second first := by
  cases first with
  | error err =>
    cases second with
    | error err' => exact Eq.symm h
    | ok ys => exact h
  | ok xs =>
    cases second with
    | error err' => exact h
    | ok ys => exact List.Perm.symm h

/-- Where one answer is a list, the other is a reordering of it. -/
theorem SameUpToOrder.exists_perm {first second : Except GoError (List α)}
    (h : SameUpToOrder first second) {xs : List α} (hxs : first=.ok xs) :
    ∃ ys, second=.ok ys ∧ xs.Perm ys := by
  rw [hxs] at h
  cases second with
  | error err' => exact absurd h id
  | ok ys => exact ⟨ys,rfl,h⟩

/-- Where one answer is an error, the other is the same error. -/
theorem SameUpToOrder.eq_error {first second : Except GoError (List α)}
    (h : SameUpToOrder first second) {err : GoError} (herr : first=.error err) :
    second=.error err := by
  rw [herr] at h
  cases second with
  | error err' => exact congrArg Except.error (Eq.symm h)
  | ok ys => exact absurd h id

/-- The relation between clusters does not prefer one of them either. -/
theorem Permuted.symm {lib : Libraries} {first second : Cluster} (h : Permuted lib first second) :
    Permuted lib second first :=
  { brokers := h.brokers.symm, eventTypes := h.eventTypes.symm, triggers := h.triggers.symm
    subscriptions := h.subscriptions.symm, list := fun gvr selector => (h.list gvr selector).symm
    lookups := fun ref => (h.lookups ref).symm }

end Answers

section Instances

variable {lib : Libraries} {dynamicClient dynamicClient' : DynamicClient}
  (hlist : ∀ gvr selector, SameUpToOrder (dynamicClient.list gvr selector)
    (dynamicClient'.list gvr selector))

include hlist

/-- The instances of a CRD are listed in another order. -/
theorem listInstances_perm {gvr : GroupVersionResource} {resources : List Unstructured}
    (h : listInstances lib dynamicClient gvr=.ok resources) :
    ∃ resources', listInstances lib dynamicClient' gvr=.ok resources' ∧ resources.Perm resources' := by
  have hsame := hlist gvr noSelector
  rcases listInstances_eq_ok_iff.mp h with hlisted | hnone
  · have hsecond := hsame.exists_perm hlisted
    rcases hsecond with ⟨resources',hsecond,hperm⟩
    exact ⟨resources',listInstances_eq_ok_iff.mpr (.inl hsecond),hperm⟩
  · rcases hnone with ⟨err,herr,hnf,rfl⟩
    exact ⟨[],listInstances_eq_ok_iff.mpr (.inr ⟨err,hsame.eq_error herr,hnf,rfl⟩),.refl _⟩

/-- The subscribables of a CRD are found in another order. -/
theorem subscribablesOf_perm {crd : Unstructured} {found : List Subscribable}
    (h : subscribablesOf lib dynamicClient crd=.ok found) :
    ∃ found', subscribablesOf lib dynamicClient' crd=.ok found' ∧ found.Perm found' := by
  have hlisted := throughCRD_eq_ok_iff.mp h
  rcases hlisted with ⟨gvr,resources,hgvr,hresources,hvalue⟩
  cases hvalue
  have hresources' := listInstances_perm hlist hresources
  rcases hresources' with ⟨resources',hresources',hperm⟩
  exact ⟨resources'.map (convertSubscribable gvr),
    throughCRD_eq_ok_iff.mpr ⟨gvr,resources',hgvr,hresources',rfl⟩,hperm.map _⟩

/-- The sources of a CRD are found in another order. -/
theorem sourcesOf_perm {crd : Unstructured} {found : List Source}
    (h : sourcesOf lib dynamicClient crd=.ok found) :
    ∃ found', sourcesOf lib dynamicClient' crd=.ok found' ∧ found.Perm found' := by
  have hlisted := throughCRD_eq_ok_iff.mp h
  rcases hlisted with ⟨gvr,resources,hgvr,hresources,hcollect⟩
  have hresources' := listInstances_perm hlist hresources
  rcases hresources' with ⟨resources',hresources',hperm⟩
  -- the conversion of one instance does not depend on the client
  have hcollect' := collect_perm (fun _ values hvalues => ⟨values,hvalues,.refl values⟩) hperm hcollect
  rcases hcollect' with ⟨found',hcollect',hfound⟩
  exact ⟨found',throughCRD_eq_ok_iff.mpr ⟨gvr,resources',hgvr,hresources',hcollect'⟩,hfound⟩

end Instances

section Fetches

variable {lib : Libraries}

/-- A fetch through reordered CRDs, of which each yields reordered instances,
finds reordered instances. -/
theorem fetchThroughCRDs_perm {α : Type} {crds crds' : Except GoError (List Unstructured)}
    (hcrds : SameUpToOrder crds crds') {fetch fetch' : Unstructured → Result (List α)}
    (hfetch : ∀ crd found, fetch crd=.ok found → ∃ found', fetch' crd=.ok found' ∧ found.Perm found')
    {xs : Slice α} (h : fetchThroughCRDs lib crds (fun crd => fetch crd.1)=.ok xs) :
    ∃ ys, fetchThroughCRDs lib crds' (fun crd => fetch' crd.1)=.ok ys ∧ xs.toList.Perm ys.toList := by
  rcases fetchThroughCRDs_eq_ok_iff.mp h with hnone | hlisted
  · rcases hnone with ⟨err,herr,hnf,rfl⟩
    exact ⟨.nil,fetchThroughCRDs_eq_ok_iff.mpr (.inl ⟨err,hcrds.eq_error herr,hnf,rfl⟩),.refl _⟩
  · rcases hlisted with ⟨listed,elems,hlisted,helems,rfl⟩
    have hsecond := hcrds.exists_perm hlisted
    rcases hsecond with ⟨listed',hsecond,hperm⟩
    rw [collect_zipIdx] at helems
    have helems' := collect_perm hfetch hperm helems
    rcases helems' with ⟨elems',helems',hfound⟩
    rw [←collect_zipIdx] at helems'
    exact ⟨.of elems',fetchThroughCRDs_eq_ok_iff.mpr (.inr ⟨listed',elems',hsecond,helems',rfl⟩),hfound⟩

/-- The subscribables of permuted clusters are found in another order. -/
theorem fetchSubscribables_perm {first second : Cluster} (hp : Permuted lib first second)
    {found : Slice Subscribable} (h : fetchSubscribables lib (snapshot first)=.ok found) :
    ∃ found', fetchSubscribables lib (snapshot second)=.ok found' ∧ found.toList.Perm found'.toList :=
  @fetchThroughCRDs_perm lib _ _ _ (hp.list crdResource subscribableSelector)
    (subscribablesOf lib first.dynamicClient) (subscribablesOf lib second.dynamicClient)
    (fun _ _ hfound => subscribablesOf_perm hp.list hfound) _ h

/-- The sources of permuted clusters are found in another order. -/
theorem fetchSources_perm {first second : Cluster} (hp : Permuted lib first second)
    {found : Slice Source} (h : fetchSources lib (snapshot first)=.ok found) :
    ∃ found', fetchSources lib (snapshot second)=.ok found' ∧ found.toList.Perm found'.toList :=
  @fetchThroughCRDs_perm lib _ _ _ (hp.list crdResource sourceSelector)
    (sourcesOf lib first.dynamicClient) (sourcesOf lib second.dynamicClient)
    (fun _ _ hfound => sourcesOf_perm hp.list hfound) _ h

end Fetches

/-- What two runs fetched, up to the order of each list. -/
structure SameFetched {lib : Libraries} {first second : Answers} (f : Fetched lib first)
    (g : Fetched lib second) : Prop where
  brokers : f.brokers.Perm g.brokers
  subscribables : f.subscribables.toList.Perm g.subscribables.toList
  sources : f.sources.toList.Perm g.sources.toList
  eventTypes : f.eventTypes.Perm g.eventTypes
  triggers : f.triggers.Perm g.triggers
  subscriptions : f.subscriptions.Perm g.subscriptions

/-- Where the fetches of one run succeed, those of the other find the same. -/
theorem exists_sameFetched {lib : Libraries} {first second : Cluster} (hp : Permuted lib first second)
    (f : Fetched lib (snapshot first)) :
    ∃ g : Fetched lib (snapshot second), SameFetched f g := by
  have hbrokers := hp.brokers.exists_perm f.brokers_ok
  have heventTypes := hp.eventTypes.exists_perm f.eventTypes_ok
  have htriggers := hp.triggers.exists_perm f.triggers_ok
  have hsubscriptions := hp.subscriptions.exists_perm f.subscriptions_ok
  have hsubscribables := fetchSubscribables_perm hp f.subscribables_ok
  have hsources := fetchSources_perm hp f.sources_ok
  rcases hbrokers with ⟨brokers,hbrokers,hpb⟩
  rcases heventTypes with ⟨eventTypes,heventTypes,hpe⟩
  rcases htriggers with ⟨triggers,htriggers,hpt⟩
  rcases hsubscriptions with ⟨subscriptions,hsubscriptions,hps⟩
  rcases hsubscribables with ⟨subscribables,hsubscribables,hpu⟩
  rcases hsources with ⟨sources,hsources,hpo⟩
  exact ⟨⟨brokers,subscribables,sources,eventTypes,triggers,subscriptions,hbrokers,hsubscribables,
    hsources,heventTypes,htriggers,hsubscriptions⟩,⟨hpb,hpu,hpo,hpe,hpt,hps⟩⟩

/-- Distinct event types are sorted into one and the same list. -/
theorem sortEventTypes_eq_of_perm {eventTypes eventTypes' : List EventTypeResource}
    (hd : Distinct (eventTypes.map (·.objectMeta))) (hp : eventTypes.Perm eventTypes') :
    sortEventTypes eventTypes=sortEventTypes eventTypes' := by
  have hd' : Distinct (eventTypes'.map (·.objectMeta)) :=
    ((hp.map _).map identity).nodup_iff.mp hd
  have hsame : (sortEventTypes eventTypes).Perm (sortEventTypes eventTypes') :=
    (sortEventTypes_perm _).trans (hp.trans (sortEventTypes_perm _).symm)
  have hasymm : ∀ a b : EventTypeResource, a ∈ sortEventTypes eventTypes →
      b ∈ sortEventTypes eventTypes' → identity a.objectMeta < identity b.objectMeta →
      identity b.objectMeta < identity a.objectMeta → a=b :=
    fun _ _ _ _ hlt hgt => absurd hgt hlt.not_gt
  exact hsame.eq_of_pairwise hasymm (sortEventTypes_strict hd) (sortEventTypes_strict hd')

section Registered

variable {lib : Libraries} {first second : Cluster} {f : Fetched lib (snapshot first)}
  {g : Fetched lib (snapshot second)} (hd : DistinctIdentities lib first) (hs : SameFetched f g)

include hs

/-- The converted brokers are reordered like the listed ones. -/
theorem convertedBrokers_perm : f.convertedBrokers.Perm g.convertedBrokers := hs.brokers.map _

include hd

/-- Both runs have the same event types, in the same order. -/
theorem convertedEventTypes_eq : f.convertedEventTypes=g.convertedEventTypes := by
  dsimp only [Fetched.convertedEventTypes]
  rw [sortEventTypes_eq_of_perm (hd.eventTypes _ f.eventTypes_ok) hs.eventTypes]

/-- Both runs find event types under their names alike. -/
theorem etByNamespacedName_eq : f.etByNamespacedName=g.etByNamespacedName := by
  dsimp only [Fetched.etByNamespacedName]
  rw [convertedEventTypes_eq hd hs]

/-- Broker keys are distinct in both runs. -/
theorem brokerKeys_nodup_both : (f.convertedBrokers.map Broker.key).Nodup ∧
    (g.convertedBrokers.map Broker.key).Nodup := by
  have hfirst : (f.convertedBrokers.map Broker.key).Nodup := hd.brokers _ f.brokers_ok
  exact ⟨hfirst,((convertedBrokers_perm hs).map _).nodup_iff.mp hfirst⟩

/-- Subscribable keys are distinct in both runs. -/
theorem subscribableKeys_nodup_both : (f.subscribables.toList.map Subscribable.key).Nodup ∧
    (g.subscribables.toList.map Subscribable.key).Nodup := by
  have hfirst := hd.subscribables _ f.subscribables_ok
  exact ⟨hfirst,(hs.subscribables.map _).nodup_iff.mp hfirst⟩

/-- The registered brokers are reordered, and each keeps its event types. -/
theorem registered_brokers_perm : f.registered.brokers.Perm g.registered.brokers := by
  have hkeys := brokerKeys_nodup_both hd hs
  rw [registered_brokers_eq f hkeys.1,registered_brokers_eq g hkeys.2,convertedEventTypes_eq hd hs]
  exact (convertedBrokers_perm hs).map _

/-- The registered subscribables are reordered, and each keeps its event types. -/
theorem registered_subscribables_perm :
    f.registered.subscribables.Perm g.registered.subscribables := by
  have hkeys := subscribableKeys_nodup_both hd hs
  have hbrokerKeys : ∀ key, key ∈ f.convertedBrokers.map Broker.key ↔
      key ∈ g.convertedBrokers.map Broker.key :=
    fun _ => ((convertedBrokers_perm hs).map _).mem_iff
  have hremaining : withRemaining g.convertedEventTypes (f.convertedBrokers.map Broker.key)=
      withRemaining g.convertedEventTypes (g.convertedBrokers.map Broker.key) := by
    funext s
    simp only [withRemaining,hbrokerKeys]
  rw [registered_subscribables_eq f hkeys.1,registered_subscribables_eq g hkeys.2,
    convertedEventTypes_eq hd hs,hremaining]
  exact hs.subscribables.map _

/-- The registered sources are reordered, and each keeps its event types. -/
theorem registered_sources_perm : f.registered.sources.Perm g.registered.sources := by
  rw [registered_sources,registered_sources,convertedEventTypes_eq hd hs]
  exact hs.sources.map _

/-- A trigger finds the same broker in both runs. -/
theorem foundBroker_eq : foundBroker f=foundBroker g := by
  funext trigger
  have hkeys : (f.registered.brokers.map Broker.key).Nodup := by
    rw [registered_brokerKeys]
    exact (brokerKeys_nodup_both hd hs).1
  exact follow_indexBy_perm hkeys (registered_brokers_perm hd hs) (brokerRef trigger)

/-- A subscription finds the same subscribable in both runs. -/
theorem foundSubscribable_eq : foundSubscribable f=foundSubscribable g := by
  funext subscription
  have hkeys : (f.registered.subscribables.map Subscribable.key).Nodup := by
    rw [registered_subscribableKeys]
    exact (subscribableKeys_nodup_both hd hs).1
  exact follow_indexBy_perm hkeys (registered_subscribables_perm hd hs) (channelRef subscription)

end Registered

section SameLookups

variable {lib : Libraries} {dynamicClient dynamicClient' : DynamicClient}
  (h : ∀ ref, getSubscriberBackstageId lib dynamicClient ref=
    getSubscriberBackstageId lib dynamicClient' ref)

include h

/-- Equal lookups give triggers equal ids. -/
theorem triggerId_congr : triggerId lib dynamicClient=triggerId lib dynamicClient' := by
  funext trigger
  simp only [triggerId,h]

/-- Equal lookups give subscriptions equal ids. -/
theorem subscriptionId_congr : subscriptionId lib dynamicClient=subscriptionId lib dynamicClient' := by
  funext subscription
  simp only [subscriptionId,h]

/-- Equal lookups stop the loop at the same subscriptions. -/
theorem subscriptionStop_congr :
    subscriptionStop lib dynamicClient=subscriptionStop lib dynamicClient' := by
  funext subscription
  simp only [subscriptionStop,h]

end SameLookups

section Log

variable {lib : Libraries} {cluster : Cluster} (f : Fetched lib (snapshot cluster))

/-- The event types that a trigger of a run writes its id to. -/
def writesOfTrigger (trigger : TriggerResource) : List ℕ :=
  triggerWrites lib f.brokerMap f.etByNamespacedName cluster.dynamicClient f.registered trigger

/-- The event types that a subscription of a run writes its id to. -/
def writesOfSubscription (subscription : SubscriptionResource) : List ℕ :=
  subscriptionWrites lib cluster.dynamicClient f.subscribableMap f.etByNamespacedName f.registered
    subscription

/-- All consumers that a run writes, triggers before subscriptions. -/
def consumerLog : List (ℕ×String) :=
  logOf (writesOfTrigger f) (triggerId lib cluster.dynamicClient) f.triggers++
    logOf (writesOfSubscription f) (subscriptionId lib cluster.dynamicClient) f.subscriptions

/-- Consumers of triggers change no writes of subscriptions. -/
theorem subscriptionLog_eq_writes : subscriptionLog f=
    logOf (writesOfSubscription f) (subscriptionId lib cluster.dynamicClient) f.subscriptions := by
  have hsame : f.triggered.subscribables=f.registered.subscribables :=
    (processTriggers_frame lib (snapshot cluster) _ _ _ _).subscribables
  have hwrites : subscriptionWrites lib cluster.dynamicClient f.subscribableMap f.etByNamespacedName
      f.triggered=writesOfSubscription f := by
    funext subscription
    dsimp only [writesOfSubscription,subscriptionWrites]
    rw [hsame]
  rw [subscriptionLog_eq,hwrites]

/-- A run that is not stopped adds the consumers to what registration built. -/
theorem finished_ok_iff_consumers {store : Store} : f.finished=.ok store ↔
    stopAmong lib cluster f.subscriptions=none ∧
      {f.registered with
        eventTypes := scatter EventType.consume f.convertedEventTypes (consumerLog f)}=store := by
  have hlog : scatter EventType.consume f.convertedEventTypes (consumerLog f)=
      scatter EventType.consume f.triggered.eventTypes (subscriptionLog f) := by
    rw [triggered_eq,subscriptionLog_eq_writes,registered_eventTypes]
    exact scatter_append _ _ _ _
  have hrest : {f.triggered with
      eventTypes := scatter EventType.consume f.triggered.eventTypes (subscriptionLog f)}=
      {f.registered with
        eventTypes := scatter EventType.consume f.convertedEventTypes (consumerLog f)} := by
    rw [hlog,triggered_eq]
  rw [finished_eq_ok_iff,firstStop_eq,hrest]

end Log

/-- Whether some subscription stops the loop does not depend on their order. -/
theorem stopAmong_eq_none_iff {lib : Libraries} {first second : Cluster}
    (hp : Permuted lib first second) {subscriptions subscriptions' : List SubscriptionResource}
    (hperm : subscriptions.Perm subscriptions') :
    stopAmong lib first subscriptions=none ↔ stopAmong lib second subscriptions'=none := by
  dsimp only [stopAmong]
  rw [List.findSome?_eq_none_iff,List.findSome?_eq_none_iff,subscriptionStop_congr hp.lookups]
  simp only [hperm.mem_iff]

section Consumers

variable {lib : Libraries} {first second : Cluster} {f : Fetched lib (snapshot first)}
  {g : Fetched lib (snapshot second)} (hp : Permuted lib first second)
  (hd : DistinctIdentities lib first) (hs : SameFetched f g)

include hp hd hs

/-- A trigger writes its id to the same event types in both runs. -/
theorem writesOfTrigger_eq : writesOfTrigger f=writesOfTrigger g := by
  funext trigger
  dsimp only [writesOfTrigger,triggerWrites]
  rw [triggerTargets_eq_found,triggerTargets_eq_found,triggerId_congr hp.lookups,foundBroker_eq hd hs,
    etByNamespacedName_eq hd hs,registered_eventTypes,registered_eventTypes,
    convertedEventTypes_eq hd hs]

/-- A subscription writes its id to the same event types in both runs. -/
theorem writesOfSubscription_eq : writesOfSubscription f=writesOfSubscription g := by
  funext subscription
  dsimp only [writesOfSubscription,subscriptionWrites]
  rw [subscriptionTargets_eq_found,subscriptionTargets_eq_found,subscriptionId_congr hp.lookups,
    foundSubscribable_eq hd hs,etByNamespacedName_eq hd hs]

/-- Both runs write the same consumers, in an order of their own. -/
theorem consumerLog_perm : (consumerLog f).Perm (consumerLog g) := by
  dsimp only [consumerLog]
  rw [writesOfTrigger_eq hp hd hs,writesOfSubscription_eq hp hd hs,triggerId_congr hp.lookups,
    subscriptionId_congr hp.lookups]
  exact (logOf_perm hs.triggers).append (logOf_perm hs.subscriptions)

/-- Triggers and subscriptions that are listed alike write alike. -/
theorem consumerLog_eq (htriggers : f.triggers=g.triggers)
    (hsubscriptions : f.subscriptions=g.subscriptions) : consumerLog f=consumerLog g := by
  dsimp only [consumerLog]
  rw [writesOfTrigger_eq hp hd hs,writesOfSubscription_eq hp hd hs,triggerId_congr hp.lookups,
    subscriptionId_congr hp.lookups,htriggers,hsubscriptions]

end Consumers

/-- Two event types that differ in the order of their consumers at most. -/
def SameButConsumerOrder (et et' : EventType) : Prop :=
  fixed et=fixed et' ∧ et.consumedBy.toList.Perm et'.consumedBy.toList

/-- Reordered consumers of one event type. -/
theorem sameButConsumerOrder_foldl (et : EventType) (ids ids' : List String) (h : ids.Perm ids') :
    SameButConsumerOrder (ids.foldl EventType.consume et) (ids'.foldl EventType.consume et) := by
  rw [foldl_consume,foldl_consume]
  refine ⟨rfl,?_⟩
  dsimp only
  rw [Slice.toList_foldl_append,Slice.toList_foldl_append]
  exact h.append_left _

/-- What the mesh of one run and that of the other have in common. -/
structure SameMesh (mesh mesh' : EventMesh) : Prop where
  eventTypes : List.Forall₂ SameButConsumerOrder mesh.eventTypes.toList mesh'.eventTypes.toList
  brokers : mesh.brokers.toList.Perm mesh'.brokers.toList
  subscribables : mesh.subscribables.toList.Perm mesh'.subscribables.toList
  sources : mesh.sources.toList.Perm mesh'.sources.toList

section Meshes

variable {lib : Libraries} {first second : Cluster} {f : Fetched lib (snapshot first)}
  {g : Fetched lib (snapshot second)} (hp : Permuted lib first second)
  (hd : DistinctIdentities lib first) (hs : SameFetched f g)

include hp hs

/-- One run ends without a mesh exactly if the other does. -/
theorem finished_isOk_iff : (∃ store, f.finished=.ok store) ↔ ∃ store, g.finished=.ok store := by
  have hstop := stopAmong_eq_none_iff hp hs.subscriptions
  constructor
  · intro hf
    rcases hf with ⟨store,hf⟩
    have hfirst := ((finished_ok_iff_consumers f).mp hf).1
    exact ⟨_,(finished_ok_iff_consumers g).mpr ⟨hstop.mp hfirst,rfl⟩⟩
  · intro hg
    rcases hg with ⟨store,hg⟩
    have hsecond := ((finished_ok_iff_consumers g).mp hg).1
    exact ⟨_,(finished_ok_iff_consumers f).mpr ⟨hstop.mpr hsecond,rfl⟩⟩

include hd

/-- The stores of both runs give the same mesh. -/
theorem sameMesh_of_finished {store store' : Store} (hf : f.finished=.ok store)
    (hg : g.finished=.ok store') : SameMesh (outputMesh store) (outputMesh store') := by
  have hstore := ((finished_ok_iff_consumers f).mp hf).2
  have hstore' := ((finished_ok_iff_consumers g).mp hg).2
  rw [←hstore,←hstore',convertedEventTypes_eq hd hs]
  exact
    { eventTypes := forall₂_scatter_of_perm sameButConsumerOrder_foldl (consumerLog_perm hp hd hs) _
      brokers := registered_brokers_perm hd hs
      subscribables := registered_subscribables_perm hd hs
      sources := registered_sources_perm hd hs }

/-- With triggers and subscriptions in the same order, the event types of both
runs are equal. -/
theorem eventTypes_eq_of_finished {store store' : Store} (hf : f.finished=.ok store)
    (hg : g.finished=.ok store') (htriggers : f.triggers=g.triggers)
    (hsubscriptions : f.subscriptions=g.subscriptions) : store.eventTypes=store'.eventTypes := by
  have hstore := ((finished_ok_iff_consumers f).mp hf).2
  have hstore' := ((finished_ok_iff_consumers g).mp hg).2
  rw [←hstore,←hstore',convertedEventTypes_eq hd hs,
    consumerLog_eq hp hd hs htriggers hsubscriptions]

end Meshes

/-- A run with a mesh has a counterpart with a mesh. -/
theorem exists_mesh_of_permuted {lib : Libraries} {first second : Cluster}
    (hp : Permuted lib first second) {mesh : EventMesh}
    (h : buildEventMesh lib (snapshot first)=.ok mesh) :
    ∃ mesh', buildEventMesh lib (snapshot second)=.ok mesh' := by
  have hfetched := exists_fetched h
  rcases hfetched with ⟨f⟩
  have hcounterpart := exists_sameFetched hp f
  rcases hcounterpart with ⟨g,hs⟩
  have hstore := f.buildEventMesh_eq_ok_iff.mp h
  rcases hstore with ⟨store,hf,_⟩
  have hstore' := (finished_isOk_iff hp hs).mp ⟨store,hf⟩
  rcases hstore' with ⟨store',hg⟩
  exact ⟨_,g.buildEventMesh_eq_ok_iff.mpr ⟨store',hg,rfl⟩⟩

/-- A run that fails is one that returns no mesh. -/
theorem exists_error_iff {lib : Libraries} {answers : Answers} :
    (∃ exit, buildEventMesh lib answers=.error exit) ↔
      ¬ ∃ mesh, buildEventMesh lib answers=.ok mesh := by
  cases buildEventMesh lib answers <;> simp

/-- Resources as Kubernetes admits them have distinct identities: no two share
namespace and name, or group, kind, namespace and name, and no field of a
broker or subscribable holds a slash. -/
theorem distinctIdentities_of_slashFree {lib : Libraries} {cluster : Cluster}
    (f : Fetched lib (snapshot cluster)) (hbrokers : Distinct (f.brokers.map (·.objectMeta)))
    (hbrokersFree : SlashFreeObjects (f.brokers.map (·.objectMeta)))
    (hsubscribables : (f.subscribables.toList.map subscribableIdentity).Nodup)
    (hsubscribablesFree : ∀ s ∈ f.subscribables.toList, GKSlashFree (subscribableIdentity s))
    (heventTypes : Distinct (f.eventTypes.map (·.objectMeta))) : DistinctIdentities lib cluster where
  brokers := by
    intro brokers hlisted
    have hsame : brokers=f.brokers := Except.ok.inj (hlisted.symm.trans f.brokers_ok)
    rw [hsame]
    exact brokerKeys_nodup f hbrokers hbrokersFree
  subscribables := by
    intro subscribables hfetched
    have hsame : subscribables=f.subscribables :=
      Except.ok.inj (hfetched.symm.trans f.subscribables_ok)
    rw [hsame]
    exact subscribableKeys_nodup f hsubscribables hsubscribablesFree
  eventTypes := by
    intro eventTypes hlisted
    have hsame : eventTypes=f.eventTypes := Except.ok.inj (hlisted.symm.trans f.eventTypes_ok)
    rw [hsame]
    exact heventTypes

/-- The listing order decides neither whether the builder fails nor what it
returns, but for the order of brokers, subscribables, sources and consumers. -/
theorem buildEventMesh_permuted {lib : Libraries} {first second : Cluster}
    (hp : Permuted lib first second) (hd : DistinctIdentities lib first) :
    ((∃ exit, buildEventMesh lib (snapshot first)=.error exit) ↔
      ∃ exit, buildEventMesh lib (snapshot second)=.error exit) ∧
    ∀ mesh mesh', buildEventMesh lib (snapshot first)=.ok mesh →
      buildEventMesh lib (snapshot second)=.ok mesh' →
      SameMesh mesh mesh' ∧
        (first.clientset.triggers=second.clientset.triggers →
          first.clientset.subscriptions=second.clientset.subscriptions →
          mesh.eventTypes=mesh'.eventTypes) := by
  constructor
  · rw [exists_error_iff,exists_error_iff,not_iff_not]
    constructor
    · intro hmesh
      rcases hmesh with ⟨mesh,hmesh⟩
      exact exists_mesh_of_permuted hp hmesh
    · intro hmesh
      rcases hmesh with ⟨mesh,hmesh⟩
      exact exists_mesh_of_permuted hp.symm hmesh
  · intro mesh mesh' hmesh hmesh'
    have hfetched := exists_fetched hmesh
    rcases hfetched with ⟨f⟩
    have hcounterpart := exists_sameFetched hp f
    rcases hcounterpart with ⟨g,hs⟩
    have hstore := f.buildEventMesh_eq_ok_iff.mp hmesh
    have hstore' := g.buildEventMesh_eq_ok_iff.mp hmesh'
    rcases hstore with ⟨store,hf,rfl⟩
    rcases hstore' with ⟨store',hg,rfl⟩
    refine ⟨sameMesh_of_finished hp hd hs hf hg,fun htriggers hsubscriptions => ?_⟩
    have hsameTriggers : f.triggers=g.triggers :=
      Except.ok.inj ((f.triggers_ok.symm.trans htriggers).trans g.triggers_ok)
    have hsameSubscriptions : f.subscriptions=g.subscriptions :=
      Except.ok.inj ((f.subscriptions_ok.symm.trans hsubscriptions).trans g.subscriptions_ok)
    have hsame := eventTypes_eq_of_finished hp hd hs hf hg hsameTriggers hsameSubscriptions
    dsimp only [outputMesh]
    rw [hsame]

/-- A cluster that answers every list call in the reverse order. -/
def backwards (cluster : Cluster) : Cluster :=
  { clientset :=
      { brokers := cluster.clientset.brokers.map List.reverse
        eventTypes := cluster.clientset.eventTypes.map List.reverse
        triggers := cluster.clientset.triggers.map List.reverse
        subscriptions := cluster.clientset.subscriptions.map List.reverse }
    dynamicClient :=
      { cluster.dynamicClient with
        list := fun gvr selector => (cluster.dynamicClient.list gvr selector).map List.reverse } }

/-- A reversed answer is the same up to order. -/
theorem sameUpToOrder_reverse {α : Type} (answer : Except GoError (List α)) :
    SameUpToOrder answer (answer.map List.reverse) := by
  cases answer with
  | error err => exact Eq.refl err
  | ok listed => exact (List.reverse_perm listed).symm

/-- Listing everything backwards is a permutation of the cluster. -/
theorem permuted_backwards (lib : Libraries) (cluster : Cluster) :
    Permuted lib cluster (backwards cluster) :=
  { brokers := sameUpToOrder_reverse _, eventTypes := sameUpToOrder_reverse _
    triggers := sameUpToOrder_reverse _, subscriptions := sameUpToOrder_reverse _
    list := fun _ _ => sameUpToOrder_reverse _, lookups := fun _ => rfl }

/-- What a run over the four triggers fetches when it lists them backwards. -/
def backwardsFetched : Fetched (librariesWith []) (snapshot (backwards fourTriggers.cluster)) :=
  ⟨fourTriggers.brokers.reverse,.of [],.of [],fourTriggers.eventTypes.reverse,
    fourTriggers.triggers.reverse,[],rfl,rfl,rfl,rfl,rfl,rfl⟩

/-- The four triggers in both orders: the event types come out in one order,
and the two consumers of the first one are swapped. -/
theorem buildEventMesh_permuted_fourTriggers :
    ∃ mesh mesh', buildEventMesh (librariesWith []) (snapshot fourTriggers.cluster)=.ok mesh ∧
      buildEventMesh (librariesWith []) (snapshot (backwards fourTriggers.cluster))=.ok mesh' ∧
      SameMesh mesh mesh' ∧
      mesh.eventTypes.toList.map (·.consumedBy)=[.of ["billing","audit"],.of ["audit"]] ∧
      mesh'.eventTypes.toList.map (·.consumedBy)=[.of ["audit","billing"],.of ["audit"]] := by
  have hmesh : buildEventMesh (librariesWith []) (snapshot fourTriggers.cluster)=
      .ok (outputMesh fourTriggersFetched.triggered) := fourTriggersFetched.buildEventMesh_eq
  have hmesh' : buildEventMesh (librariesWith []) (snapshot (backwards fourTriggers.cluster))=
      .ok (outputMesh backwardsFetched.triggered) := backwardsFetched.buildEventMesh_eq
  have hd : DistinctIdentities (librariesWith []) fourTriggers.cluster :=
    distinctIdentities_of_slashFree fourTriggersFetched (by decide) (by decide) (by decide)
      (by decide) (by decide)
  have hsame := (buildEventMesh_permuted (permuted_backwards _ _) hd).2 _ _ hmesh hmesh'
  exact ⟨_,_,hmesh,hmesh',hsame.1,by decide,by decide⟩

end KnativeMesh.ListingOrder
