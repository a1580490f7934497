import KnativeMesh.Triggers

/-!
# Consumers from subscriptions

The subscription loop either stops at a subscription, and then the first one
that stops it decides the exit, or it performs a log of writes. The names that
a channel lists are namespaced already, and the loop namespaces them once more
before it looks them up, so the log is empty whenever names hold no slash.
-/

namespace KnativeMesh.Subscriptions

open Go UnstructuredObject Kubernetes Mesh Converters Builder Passes Runs Keys Listing Fetches
open ClusterContents Registration Triggers Library.Index Library.Scatter

/-- Why a subscription ends the loop. -/
inductive Stop where
  /-- The subscriber is a nil pointer. -/
  | nilSubscriber
  /-- The lookup of the subscriber failed, and not for want of credentials. -/
  | lookup (err : GoError)
  deriving DecidableEq

/-- A failed lookup as the loop sees it. -/
def lookupError (err : GoError) : GoError := .wrap "error getting subscriber backstage id" err

/-- The exit of the builder at a stop. -/
def Stop.exit : Stop → Exit
  | nilSubscriber => .panic
  | lookup err => .error (.wrap "error processing subscription" (lookupError err))

/-- Exits tell stops apart. -/
theorem Stop.exit_injective : Function.Injective Stop.exit := by
  intro first second h
  cases first with
  | nilSubscriber =>
    cases second with
    | nilSubscriber => rfl
    | lookup err => cases h
  | lookup err =>
    cases second with
    | nilSubscriber => cases h
    | lookup err' =>
      cases h
      rfl

section Single

variable (lib : Libraries) (dynamicClient : DynamicClient)

/-- Whether and why a subscription ends the loop. -/
def subscriptionStop (subscription : SubscriptionResource) : Option Stop :=
  match subscription.spec.subscriber with
  | none => some .nilSubscriber
  | some ⟨none⟩ => none
  | some ⟨some ref⟩ =>
    match getSubscriberBackstageId lib dynamicClient ref with
    | .ok _ => none
    | .error err => if lib.isUnauthorized (lookupError err) then none else some (.lookup err)

/-- The Backstage id a subscription's subscriber contributes; empty when there
is no reference, no label or no answer. -/
def subscriptionId (subscription : SubscriptionResource) : String :=
  match subscription.spec.subscriber.bind (·.ref) with
  | none => ""
  | some ref =>
    match getSubscriberBackstageId lib dynamicClient ref with
    | .ok id => id
    | .error _ => ""

variable (subscribableMap etByNamespacedName : GoMap ℕ)

/-- The event types that a subscription selects at its channel. -/
def subscriptionTargets (subscribables : List Subscribable) (subscription : SubscriptionResource) :
    List ℕ :=
  match subscribableMap[channelRef subscription]? with
  | none => []
  | some s =>
    match subscribables[s]? with
    | none => []
    | some subscribable =>
      subscribedEventTypes etByNamespacedName subscription.nameSpace
        subscribable.providedEventTypes.toList

/-- The event types that one subscription writes its id to. -/
def subscriptionWrites (store : Store) (subscription : SubscriptionResource) : List ℕ :=
  if subscriptionId lib dynamicClient subscription="" then []
  else subscriptionTargets subscribableMap etByNamespacedName store.subscribables subscription

/-- One iteration of the subscription loop. -/
def afterSubscription (store : Store) : Result Store → Result Store
  | .ok store => .ok store
  | .error .panic => .error .panic
  | .error (.error err) =>
    if lib.isUnauthorized err then .ok store
    else .error (.error (.wrap "error processing subscription" err))

/-- An iteration stops the loop, or it is a log of the subscription's writes. -/
theorem afterSubscription_eq (subscription : SubscriptionResource) (store : Store) :
    afterSubscription lib store
      (processSubscription lib dynamicClient subscribableMap etByNamespacedName subscription store)=
    match subscriptionStop lib dynamicClient subscription with
    | some stop => .error stop.exit
    | none => .ok { store with
        eventTypes := scatter EventType.consume store.eventTypes
          ((subscriptionWrites lib dynamicClient subscribableMap etByNamespacedName store
            subscription).map fun target => (target,subscriptionId lib dynamicClient subscription)) } := by
  rw [←consumeAll_eq,subscriptionWrites]
  cases hs : subscription.spec.subscriber with
  | none => simp only [processSubscription,subscriptionStop,hs,afterSubscription,Stop.exit]
  | some destination =>
    obtain ⟨ref⟩ := destination
    cases ref with
    | none =>
      have hid : subscriptionId lib dynamicClient subscription="" := by
        simp only [subscriptionId,hs,Option.bind_some]
      simp only [processSubscription,subscriptionStop,hs,afterSubscription,hid,if_true,consumeAll,
        List.foldl_nil]
    | some ref =>
      cases hl : getSubscriberBackstageId lib dynamicClient ref with
      | error err =>
        have hid : subscriptionId lib dynamicClient subscription="" := by
          simp only [subscriptionId,hs,Option.bind_some,hl]
        simp only [processSubscription,subscriptionStop,hs,hl,afterSubscription,hid,if_true,
          consumeAll,List.foldl_nil]
        change (if lib.isUnauthorized (lookupError err)=true then _ else _)=_
        by_cases hu : lib.isUnauthorized (lookupError err)=true
        · simp only [hu,if_true]
        · simp only [hu,Stop.exit]
          rfl
      | ok id =>
        have hid : subscriptionId lib dynamicClient subscription=id := by
          simp only [subscriptionId,hs,Option.bind_some,hl]
        simp only [processSubscription,subscriptionStop,hs,hl,hid,subscriptionTargets]
        by_cases hempty : id=""
        · simp only [hempty,if_true,consumeAll,List.foldl_nil,afterSubscription]
        · simp only [hempty,if_false]
          cases subscribableMap[channelRef subscription]? with
          | none => rfl
          | some s =>
            dsimp only
            cases store.subscribables[s]? <;> rfl

end Single

section Loop

variable (lib : Libraries) (answers : Answers) (subscribableMap etByNamespacedName : GoMap ℕ)

/-- The loop goes through its iterations one after the other. -/
theorem processSubscriptions_cons (subscription : SubscriptionResource×ℕ)
    (subscriptions : List (SubscriptionResource×ℕ)) (store : Store) :
    processSubscriptions lib answers subscribableMap etByNamespacedName (subscription::subscriptions)
        store=
      afterSubscription lib store (processSubscription lib
        (answers (.subscriptionSubscriber subscription.2)).dynamicClient subscribableMap
        etByNamespacedName subscription.1 store) >>=
      processSubscriptions lib answers subscribableMap etByNamespacedName subscriptions := by
  rw [processSubscriptions]
  generalize processSubscription lib _ subscribableMap etByNamespacedName subscription.1 store=outcome
  cases outcome with
  | ok store' => rfl
  | error exit =>
    cases exit with
    | panic => rfl
    | error err =>
      dsimp only [afterSubscription]
      cases lib.isUnauthorized err with
      | false => rfl
      | true => rfl

/-- The loop ends with the exit of the first subscription that stops it, or
else it is a log of writes that the store before the loop determines. -/
theorem processSubscriptions_eq (subscriptions : List (SubscriptionResource×ℕ)) (store : Store) :
    processSubscriptions lib answers subscribableMap etByNamespacedName subscriptions store=
      match subscriptions.findSome? fun subscription => subscriptionStop lib
          (answers (.subscriptionSubscriber subscription.2)).dynamicClient subscription.1 with
      | some stop => .error stop.exit
      | none => .ok { store with
          eventTypes := scatter EventType.consume store.eventTypes
            (logOf (fun subscription => subscriptionWrites lib
                (answers (.subscriptionSubscriber subscription.2)).dynamicClient subscribableMap
                etByNamespacedName store subscription.1)
              (fun subscription => subscriptionId lib
                (answers (.subscriptionSubscriber subscription.2)).dynamicClient subscription.1)
              subscriptions) } := by
  induction subscriptions generalizing store with
  | nil => rfl
  | cons subscription subscriptions ih =>
    rw [processSubscriptions_cons,afterSubscription_eq,List.findSome?_cons]
    cases subscriptionStop lib (answers (.subscriptionSubscriber subscription.2)).dynamicClient
        subscription.1 with
    | some stop => rfl
    | none =>
      change processSubscriptions lib answers subscribableMap etByNamespacedName subscriptions _=_
      rw [ih]
      dsimp only
      cases subscriptions.findSome? fun subscription => subscriptionStop lib
          (answers (.subscriptionSubscriber subscription.2)).dynamicClient subscription.1 with
      | some stop => rfl
      | none =>
        rw [←scatter_append]
        rfl

end Loop

/-- Group, kind, namespace and name of the channel of a subscription. -/
def channelIdentity (subscription : SubscriptionResource) : GroupKindNamespacedName :=
  ⟨apiVersionToGroup subscription.spec.channel.apiVersion,subscription.spec.channel.kind,
    subscription.nameSpace,subscription.spec.channel.name⟩

/-- The channel of a subscription is listed and provides an event type. -/
def channelProvides (mesh : EventMesh) (subscription : SubscriptionResource) (et : EventType) : Prop :=
  ∃ s ∈ mesh.subscribables.toList, subscribableIdentity s=channelIdentity subscription ∧
    et.namespacedName ∈ s.providedEventTypes.toList

instance (mesh : EventMesh) (subscription : SubscriptionResource) (et : EventType) :
    Decidable (channelProvides mesh subscription et) := by
  dsimp only [channelProvides]
  infer_instance

/-- The Backstage label of the subscriber of a subscription, if it has one. -/
def subscriptionLabel (lib : Libraries) (dynamicClient : DynamicClient)
    (subscription : SubscriptionResource) : Option String :=
  (subscription.spec.subscriber.bind (·.ref)).bind (subscriberLabel lib dynamicClient)

/-- The id that the subscription loop works with is the label of the subscriber. -/
theorem subscriptionId_eq (lib : Libraries) (dynamicClient : DynamicClient)
    (subscription : SubscriptionResource) :
    subscriptionId lib dynamicClient subscription=
      (subscriptionLabel lib dynamicClient subscription).getD "" := by
  dsimp only [subscriptionId,subscriptionLabel]
  cases subscription.spec.subscriber.bind (·.ref) with
  | none => rfl
  | some ref => exact lookedUp_eq lib dynamicClient ref

/-- There is an id to work with where there is a label that is not empty. -/
theorem subscriptionId_ne_empty_iff (lib : Libraries) (dynamicClient : DynamicClient)
    (subscription : SubscriptionResource) :
    subscriptionId lib dynamicClient subscription≠"" ↔
      ∃ id, subscriptionLabel lib dynamicClient subscription=some id ∧ id≠"" := by
  rw [subscriptionId_eq]
  cases subscriptionLabel lib dynamicClient subscription <;> simp

/-- The consumer that a subscription ought to contribute to an event type: the
label of its subscriber, which must not be empty. -/
def subscriptionConsumer (lib : Libraries) (dynamicClient : DynamicClient) (mesh : EventMesh)
    (subscription : SubscriptionResource) (et : EventType) : Option String :=
  match subscriptionLabel lib dynamicClient subscription with
  | some id => if id≠"" ∧ channelProvides mesh subscription et then some id else none
  | none => none

/-- A subscription ought to contribute its id where its channel provides. -/
theorem subscriptionConsumer_eq (lib : Libraries) (dynamicClient : DynamicClient) (mesh : EventMesh)
    (subscription : SubscriptionResource) (et : EventType) :
    subscriptionConsumer lib dynamicClient mesh subscription et=
      if subscriptionId lib dynamicClient subscription≠"" ∧ channelProvides mesh subscription et then
        some (subscriptionId lib dynamicClient subscription) else none := by
  rw [subscriptionId_eq]
  dsimp only [subscriptionConsumer]
  cases subscriptionLabel lib dynamicClient subscription with
  | none => simp
  | some id => simp only [Option.getD_some]

/-- A subscription does not stop the loop if it has a subscriber whose lookup is
answered, or fails in a way that is passed over. -/
theorem subscriptionStop_eq_none_iff {lib : Libraries} {dynamicClient : DynamicClient}
    {subscription : SubscriptionResource} :
    subscriptionStop lib dynamicClient subscription=none ↔ ∃ destination,
      subscription.spec.subscriber=some destination ∧ ∀ ref, destination.ref=some ref →
        ∀ err, subscriberAnswer lib dynamicClient ref=.error err →
          lib.isNotFound err=true ∨ lib.isUnauthorized (lookupError err)=true := by
  dsimp only [subscriptionStop]
  cases subscription.spec.subscriber with
  | none => simp
  | some destination =>
    obtain ⟨ref⟩ := destination
    cases ref with
    | none => simp
    | some ref =>
      dsimp only
      rw [getSubscriberBackstageId_eq]
      cases hanswer : subscriberAnswer lib dynamicClient ref with
      | ok resource => simp [hanswer]
      | error err =>
        by_cases hnotFound : lib.isNotFound err=true <;>
          by_cases hunauthorized : lib.isUnauthorized (lookupError err)=true <;>
            simp [hanswer,hnotFound,hunauthorized]

section Run

variable {lib : Libraries} {answers : Answers} (f : Fetched lib answers)

/-- The first stop of the subscription loop of a run. -/
def firstStop : Option Stop :=
  f.subscriptions.zipIdx.findSome? fun subscription => subscriptionStop lib
    (answers (.subscriptionSubscriber subscription.2)).dynamicClient subscription.1

/-- The writes of the subscription loop of a run, if it is not stopped. -/
def subscriptionLog : List (ℕ×String) :=
  logOf (fun subscription => subscriptionWrites lib
      (answers (.subscriptionSubscriber subscription.2)).dynamicClient f.subscribableMap
      f.etByNamespacedName f.triggered subscription.1)
    (fun subscription => subscriptionId lib
      (answers (.subscriptionSubscriber subscription.2)).dynamicClient subscription.1)
    f.subscriptions.zipIdx

/-- A run whose fetches succeed ends at its first stop, if there is one. -/
theorem finished_eq : f.finished=
    match firstStop f with
    | some stop => .error stop.exit
    | none => .ok {f.triggered with
        eventTypes := scatter EventType.consume f.triggered.eventTypes (subscriptionLog f)} :=
  processSubscriptions_eq lib answers _ _ _ _

/-- A run returns a store exactly if nothing stops its subscription loop, and
then it is the store after the loop's writes. -/
theorem finished_eq_ok_iff {store : Store} : f.finished=.ok store ↔
    firstStop f=none ∧ {f.triggered with
      eventTypes := scatter EventType.consume f.triggered.eventTypes (subscriptionLog f)}=store := by
  rw [finished_eq]
  cases firstStop f <;> simp

/-- The event types that a run returns are the converted ones after one log of
consumers. -/
theorem finished_eventTypes {store : Store} (h : f.finished=.ok store) :
    ∃ log, store.eventTypes=scatter EventType.consume f.convertedEventTypes log := by
  have hstore := ((finished_eq_ok_iff f).mp h).2
  rw [←hstore]
  dsimp only [Fetched.triggered]
  rw [processTriggers_eq]
  dsimp only
  rw [registered_eventTypes,←scatter_append]
  exact ⟨_,rfl⟩

/-- Consumers are never a nil slice, even where there are none. -/
theorem consumedBy_ne_nil {store : Store} (h : f.finished=.ok store) {et : EventType}
    (het : et ∈ store.eventTypes) : et.consumedBy≠.nil := by
  obtain ⟨log,hlog⟩ := finished_eventTypes f h
  obtain ⟨j,hj⟩ := List.getElem?_of_mem het
  rw [hlog,getElem?_scatter] at hj
  obtain ⟨converted,hconverted,rfl⟩ := Option.map_eq_some_iff.mp hj
  obtain ⟨resource,_,rfl⟩ := (mem_convertedEventTypes f).mp (List.mem_of_getElem? hconverted)
  rw [foldl_consume]
  dsimp only [convertEventType]
  rw [Slice.foldl_append_of]
  exact nofun

/-- The gets of all subscribers that are referred to are answered, if only by an
error that the object is not found. -/
def LookupsAnswered : Prop :=
  ∀ subscription ∈ f.subscriptions.zipIdx, ∀ ref,
    subscription.1.spec.subscriber.bind (·.ref)=some ref → ∀ err, subscriberAnswer lib
      (answers (.subscriptionSubscriber subscription.2)).dynamicClient ref=.error err →
        lib.isNotFound err=true

/-- No subscription stops the loop: each has a subscriber, and the get of an
object that it refers to is answered, or with an error that is passed over. -/
def Unstopped : Prop :=
  ∀ subscription ∈ f.subscriptions.zipIdx, ∃ destination,
    subscription.1.spec.subscriber=some destination ∧ ∀ ref, destination.ref=some ref →
      ∀ err, subscriberAnswer lib (answers (.subscriptionSubscriber subscription.2)).dynamicClient ref=
        .error err → lib.isNotFound err=true ∨ lib.isUnauthorized (lookupError err)=true

/-- The loop over subscriptions goes to its end. -/
theorem firstStop_eq_none_iff_unstopped : firstStop f=none ↔ Unstopped f := by
  dsimp only [firstStop,Unstopped]
  rw [List.findSome?_eq_none_iff]
  exact forall₂_congr fun _ _ => subscriptionStop_eq_none_iff

/-- With all lookups answered only a nil subscriber stops the loop. -/
theorem firstStop_eq_none_iff (hanswered : LookupsAnswered f) :
    firstStop f=none ↔ ∀ subscription ∈ f.subscriptions, subscription.spec.subscriber≠none := by
  rw [firstStop_eq_none_iff_unstopped]
  constructor
  · intro hunstopped subscription hmem hnone
    obtain ⟨i,hi⟩ := List.getElem?_of_mem hmem
    obtain ⟨destination,hsome,_⟩ :=
      hunstopped (subscription,i) (List.mk_mem_zipIdx_iff_getElem?.mpr hi)
    cases hnone.symm.trans hsome
  · intro hsome subscription hz
    obtain ⟨destination,hdestination⟩ :=
      Option.ne_none_iff_exists'.mp (hsome _ (List.fst_mem_of_mem_zipIdx hz))
    refine ⟨destination,hdestination,fun ref href err herr => .inl ?_⟩
    exact hanswered subscription hz ref (by rw [hdestination]; exact href) err herr

section Qualified

variable (hfree : SlashFreeObjects (f.eventTypes.map (·.objectMeta)))

include hfree

/-- No name that a channel lists is found once it is qualified again. -/
theorem subscribedEventTypes_names (ns : String) (target : Home) :
    subscribedEventTypes f.etByNamespacedName ns (names f target)=[] := by
  dsimp only [subscribedEventTypes]
  rw [List.filterMap_eq_nil_iff]
  intro name hname
  obtain ⟨listed,_,rfl⟩ := List.mem_map.mp hname
  rw [Fetched.etByNamespacedName,indexBy_eq_none_iff]
  intro et het
  obtain ⟨hns,hn⟩ := slashFree_convertedEventTypes f hfree het
  exact namespacedName_ne_twice hns hn ns listed.nameSpace listed.name

/-- No subscription selects anything. -/
theorem subscriptionTargets_eq_nil (subscription : SubscriptionResource) :
    subscriptionTargets f.subscribableMap f.etByNamespacedName f.triggered.subscribables subscription=
      [] := by
  have hframe : f.triggered.subscribables=f.registered.subscribables :=
    (processTriggers_frame lib answers _ _ _ _).subscribables
  dsimp only [subscriptionTargets]
  rw [hframe]
  cases f.subscribableMap[channelRef subscription]? with
  | none => rfl
  | some i =>
    dsimp only
    rw [getElem?_registered_subscribables]
    cases f.subscribables.toList[i]? with
    | none => rfl
    | some s => exact subscribedEventTypes_names f hfree subscription.nameSpace (.subscribable i)

/-- The subscription loop writes nothing at all. -/
theorem subscriptionLog_eq_nil : subscriptionLog f=[] := by
  unfold subscriptionLog logOf
  rw [List.flatMap_eq_nil_iff]
  intro subscription _
  have hwrites : subscriptionWrites lib
      (answers (.subscriptionSubscriber subscription.2)).dynamicClient f.subscribableMap
      f.etByNamespacedName f.triggered subscription.1=[] := by
    dsimp only [subscriptionWrites]
    rw [subscriptionTargets_eq_nil f hfree,ite_self]
  dsimp only
  rw [hwrites,List.map_nil]

/-- A run that is not stopped ends as its trigger loop did. -/
theorem finished_of_firstStop_none (hstop : firstStop f=none) : f.finished=.ok f.triggered := by
  rw [finished_eq,hstop,subscriptionLog_eq_nil f hfree,scatter_nil]

end Qualified

/-- An event type is registered at a subscribable: its reference has the key
of this subscribable, of none listed later and of no broker. -/
def RegistersAt (resource : EventTypeResource) (i : ℕ) : Prop :=
  ∃ reference, (convertEventType resource).reference=some reference ∧
    (∀ br ∈ f.brokers, (convertBroker br).key≠reference.string) ∧
      ∃ s, f.subscribables.toList[i]?=some s ∧ s.key=reference.string ∧
        ∀ j later, i<j → f.subscribables.toList[j]?=some later → later.key≠reference.string

/-- Being registered at a subscribable is having it as home. -/
theorem registersAt_iff (resource : EventTypeResource) (i : ℕ) :
    RegistersAt f resource i ↔ home f (convertEventType resource)=.subscribable i := by
  rw [homeOf_eq_subscribable_iff]
  dsimp only [RegistersAt,Fetched.brokerMap,Fetched.subscribableMap]
  simp only [indexBy_eq_none_iff,indexBy_eq_some_iff_last,Fetched.convertedBrokers,List.forall_mem_map]

/-- A subscription whose subscriber has a Backstage id and whose channel is a
listed subscribable with an event type. -/
def Matters (subscription : SubscriptionResource×ℕ) : Prop :=
  (∃ id, subscriptionLabel lib (answers (.subscriptionSubscriber subscription.2)).dynamicClient
      subscription.1=some id ∧ id≠"") ∧
    ∃ i s, f.subscribables.toList[i]?=some s ∧
      subscribableIdentity s=channelIdentity subscription.1 ∧
        ∃ resource ∈ f.eventTypes, RegistersAt f resource i

/-- The run returns a mesh in which the consumers of every event type are the
ids of the subscriptions whose channels provide it, in subscription order. -/
def SubscriptionsKept : Prop :=
  ∃ mesh, buildEventMesh lib answers=.ok mesh ∧ ∀ et ∈ mesh.eventTypes.toList, et.consumedBy=
    .of (f.subscriptions.zipIdx.filterMap fun subscription => subscriptionConsumer lib
      (answers (.subscriptionSubscriber subscription.2)).dynamicClient mesh subscription.1 et)

section Kept

variable (htriggers : f.triggers=[])

include htriggers

/-- Without triggers the trigger loop changes nothing. -/
theorem triggered_eq_registered : f.triggered=f.registered := by
  dsimp only [Fetched.triggered]
  rw [htriggers]
  rfl

/-- Without triggers the consumers of an event type stay empty, for all that
subscriptions add to them. -/
theorem consumedBy_eq_empty {store : Store} (h : f.finished=.ok store)
    (hfree : SlashFreeObjects (f.eventTypes.map (·.objectMeta))) :
    store=f.registered ∧ ∀ et ∈ store.eventTypes, et.consumedBy=.of [] := by
  have hstop := ((finished_eq_ok_iff f).mp h).1
  rw [finished_of_firstStop_none f hfree hstop,triggered_eq_registered f htriggers] at h
  cases h
  refine ⟨rfl,fun et het => ?_⟩
  rw [registered_eventTypes] at het
  obtain ⟨resource,_,rfl⟩ := (mem_convertedEventTypes f).mp het
  rfl

end Kept

/-- The channel of a subscription provides a listed event type exactly when it
is a subscribable at which the event type is registered. -/
theorem channelProvides_iff {store : Store} (h : f.finished=.ok store)
    (hd : Distinct (f.eventTypes.map (·.objectMeta)))
    (hfree : SlashFreeObjects (f.eventTypes.map (·.objectMeta)))
    {et : EventType} (het : et ∈ store.eventTypes) (subscription : SubscriptionResource) :
    channelProvides (outputMesh store) subscription et ↔
      ∃ i s, f.subscribables.toList[i]?=some s ∧
        subscribableIdentity s=channelIdentity subscription ∧ home f et=.subscribable i := by
  constructor
  · intro hp
    rcases hp with ⟨s,hs,hid,hname⟩
    obtain ⟨i,_,hprovided,fetched,hfetched,hsame⟩ := getElem?_of_mem_subscribables f h hs
    rw [hprovided,Slice.toList_of,mem_names_iff f h hd hfree het] at hname
    exact ⟨i,fetched,hfetched,hsame.trans hid,hname⟩
  · intro hp
    rcases hp with ⟨i,s,hs,hid,hhome⟩
    have hget := getElem?_subscribables f h i
    rw [hs,Option.map_some] at hget
    refine ⟨_,List.mem_of_getElem? hget,hid,?_⟩
    exact (mem_names_iff f h hd hfree het _).mpr hhome

/-- Some listed event type is provided by the channel exactly when the
subscription matters, given that its subscriber has an id. -/
theorem exists_channelProvides_iff {store : Store} (h : f.finished=.ok store)
    (htriggers : f.triggers=[]) (hd : Distinct (f.eventTypes.map (·.objectMeta)))
    (hfree : SlashFreeObjects (f.eventTypes.map (·.objectMeta)))
    (subscription : SubscriptionResource×ℕ) :
    Matters f subscription ↔
      subscriptionId lib (answers (.subscriptionSubscriber subscription.2)).dynamicClient
        subscription.1≠"" ∧
      ∃ et ∈ store.eventTypes, channelProvides (outputMesh store) subscription.1 et := by
  have hstore := (consumedBy_eq_empty f htriggers h hfree).1
  have hmem : ∀ et, et ∈ store.eventTypes ↔ ∃ resource ∈ f.eventTypes, convertEventType resource=et := by
    intro et
    rw [hstore,registered_eventTypes,mem_convertedEventTypes]
  dsimp only [Matters]
  rw [subscriptionId_ne_empty_iff]
  refine and_congr_right fun _ => ?_
  constructor
  · intro hp
    rcases hp with ⟨i,s,hs,hid,resource,hresource,hat⟩
    have het := (hmem _).mpr ⟨resource,hresource,rfl⟩
    exact ⟨_,het,(channelProvides_iff f h hd hfree het subscription.1).mpr
      ⟨i,s,hs,hid,(registersAt_iff f resource i).mp hat⟩⟩
  · intro hp
    rcases hp with ⟨et,het,hprovides⟩
    obtain ⟨i,s,hs,hid,hhome⟩ := (channelProvides_iff f h hd hfree het subscription.1).mp hprovides
    obtain ⟨resource,hresource,rfl⟩ := (hmem et).mp het
    exact ⟨i,s,hs,hid,resource,hresource,(registersAt_iff f resource i).mpr hhome⟩

end Run

/-- Subscriptions contribute what they ought to exactly when none of them
matters, and the run returns exactly when none has a nil subscriber. -/
theorem subscriptionsKept_iff {lib : Libraries} {answers : Answers} (f : Fetched lib answers)
    (htriggers : f.triggers=[]) (hanswered : LookupsAnswered f)
    (hd : Distinct (f.eventTypes.map (·.objectMeta)))
    (hfree : SlashFreeObjects (f.eventTypes.map (·.objectMeta))) :
    SubscriptionsKept f ↔
      (∀ subscription ∈ f.subscriptions, subscription.spec.subscriber≠none) ∧
        ∀ subscription ∈ f.subscriptions.zipIdx, ¬ Matters f subscription := by
  rw [←firstStop_eq_none_iff f hanswered]
  constructor
  · intro hp
    rcases hp with ⟨mesh,hmesh,hkept⟩
    obtain ⟨store,h,rfl⟩ := f.buildEventMesh_eq_ok_iff.mp hmesh
    have hempty := (consumedBy_eq_empty f htriggers h hfree).2
    refine ⟨((finished_eq_ok_iff f).mp h).1,fun subscription hmem hmatters => ?_⟩
    obtain ⟨hid,et,het,hprovides⟩ :=
      (exists_channelProvides_iff f h htriggers hd hfree subscription).mp hmatters
    have hlist := (hempty et het).symm.trans (hkept et het)
    have hnone := List.filterMap_eq_nil_iff.mp (Slice.of.inj hlist).symm subscription hmem
    rw [subscriptionConsumer_eq,if_pos ⟨hid,hprovides⟩] at hnone
    cases hnone
  · intro hp
    rcases hp with ⟨hstop,hnone⟩
    have h := finished_of_firstStop_none f hfree hstop
    refine ⟨_,f.buildEventMesh_eq_ok_iff.mpr ⟨_,h,rfl⟩,fun et het => ?_⟩
    rw [(consumedBy_eq_empty f htriggers h hfree).2 et het]
    congr 1
    symm
    rw [List.filterMap_eq_nil_iff]
    intro subscription hmem
    rw [subscriptionConsumer_eq,if_neg]
    intro hp
    rcases hp with ⟨hid,hprovides⟩
    exact hnone subscription hmem
      ((exists_channelProvides_iff f h htriggers hd hfree subscription).mpr ⟨hid,et,het,hprovides⟩)

/-- One channel with an event type and a subscription of a labelled service. -/
def oneSubscription : Contents :=
  { brokers := []
    eventTypes :=
      [bareEventType "shop" "refund" "shop.refund"
        (some ⟨"InMemoryChannel","shop","audit","messaging.knative.dev/v1"⟩)]
    triggers := []
    subscriptions :=
      [⟨"shop",⟨⟨"InMemoryChannel","shop","audit","messaging.knative.dev/v1"⟩,
        some ⟨some ⟨"Service","shop","ledger","v1"⟩⟩⟩⟩]
    objects := [(crdResource,inMemoryChannelCRD),
      (inMemoryChannels,manifest "InMemoryChannel" "shop" "audit" []),
      (services,manifest "Service" "shop" "ledger" [("backstage.io/kubernetes-id","bookkeeping")])] }

/-- What a run over the subscription fetches. -/
def oneSubscriptionFetched : Fetched (librariesWith []) (snapshot oneSubscription.cluster) :=
  @Contents.fetched oneSubscription (librariesWith [])
    (.of [⟨none,"messaging.knative.dev","InMemoryChannel",some ∅,"audit","shop",.of [],""⟩]) (.of [])
    rfl rfl

/-- All lookups of a run over a readable cluster are answered. -/
theorem lookupsAnswered_cluster {contents : Contents} {texts : List (String×List EventTypeEntry)}
    (f : Fetched (librariesWith texts) (snapshot contents.cluster)) : LookupsAnswered f := by
  intro subscription _ ref _ err herr
  rcases get_cluster contents _ ref.nameSpace ref.name with hanswered | hnotFound
  · obtain ⟨u,hu⟩ := hanswered
    cases hu.symm.trans herr
  · cases hnotFound.symm.trans herr
    exact ((librariesWith_statusLaws texts).isNotFound_iff _).mpr (.inl rfl)

/-- A channel with a labelled subscriber that provides nothing, and another
channel whose one subscriber has no label. -/
def twoSubscriptions : Contents :=
  { oneSubscription with
    subscriptions :=
      [⟨"shop",⟨⟨"InMemoryChannel","shop","idle","messaging.knative.dev/v1"⟩,
        some ⟨some ⟨"Service","shop","ledger","v1"⟩⟩⟩⟩,
       ⟨"shop",⟨⟨"InMemoryChannel","shop","audit","messaging.knative.dev/v1"⟩,
        some ⟨some ⟨"Service","shop","plain","v1"⟩⟩⟩⟩]
    objects := oneSubscription.objects++
      [(inMemoryChannels,manifest "InMemoryChannel" "shop" "idle" []),
       (services,manifest "Service" "shop" "plain" [])] }

/-- What a run over the two subscriptions fetches. -/
def twoSubscriptionsFetched : Fetched (librariesWith []) (snapshot twoSubscriptions.cluster) :=
  @Contents.fetched twoSubscriptions (librariesWith [])
    (.of [⟨none,"messaging.knative.dev","InMemoryChannel",some ∅,"audit","shop",.of [],""⟩,
      ⟨none,"messaging.knative.dev","InMemoryChannel",some ∅,"idle","shop",.of [],""⟩]) (.of [])
    rfl rfl

/-- Neither of the two subscriptions ought to contribute anything. -/
theorem subscriptionsKept_iff_twoSubscriptions : SubscriptionsKept twoSubscriptionsFetched := by
  refine (subscriptionsKept_iff twoSubscriptionsFetched rfl
    (lookupsAnswered_cluster twoSubscriptionsFetched) (by decide) (by decide)).mpr ?_
  refine ⟨by decide,fun subscription hmem hmatters => ?_⟩
  rcases hmatters with ⟨⟨id,hid,_⟩,i,s,hs,hchannel,resource,hresource,hat⟩
  rcases List.mem_cons.mp hmem with rfl | hmem
  · -- the only event type is registered at the other channel, which is listed first
    rw [List.mem_singleton.mp hresource] at hat
    cases (registersAt_iff twoSubscriptionsFetched _ i).mp hat
    cases hs
    exact absurd hchannel (by decide)
  · cases List.mem_singleton.mp hmem
    cases hid

/-- The subscription to a channel that provides an event type is lost. -/
theorem oneSubscription_lost :
    oneSubscriptionFetched.triggers=[] ∧ LookupsAnswered oneSubscriptionFetched ∧
      Distinct (oneSubscriptionFetched.eventTypes.map (·.objectMeta)) ∧
      SlashFreeObjects (oneSubscriptionFetched.eventTypes.map (·.objectMeta)) ∧
      (∀ s ∈ oneSubscriptionFetched.subscribables.toList, GKSlashFree (subscribableIdentity s)) ∧
      ¬ SubscriptionsKept oneSubscriptionFetched := by
  refine ⟨rfl,lookupsAnswered_cluster oneSubscriptionFetched,by decide,by decide,by decide,?_⟩
  intro hp
  rcases hp with ⟨mesh,hmesh,hkept⟩
  have hrun : buildEventMesh (librariesWith []) (snapshot oneSubscription.cluster)=
      .ok (outputMesh oneSubscriptionFetched.triggered) := oneSubscriptionFetched.buildEventMesh_eq
  rw [hrun] at hmesh
  cases hmesh
  exact absurd hkept (by decide)

end KnativeMesh.Subscriptions
