import KnativeMesh.Permissions

/-!
# The passes without positions

Pointers are positions in lists, so the maps of a run depend on the order in
which its resources were listed. What the passes do through them does not: with
distinct keys every lookup leads to the resource with the key, and registration
gives every resource a list that its key determines.
-/

namespace KnativeMesh.PositionFree

open Go UnstructuredObject Kubernetes Mesh Converters Builder Passes Runs Listing Registration
open Subscriptions Library.Index Library.Scatter

/-- The names of the event types that refer to a key, in list order. -/
def namesUnder (eventTypes : List EventType) (key : String) : List String :=
  (eventTypes.filter fun et => et.reference.map (·.string)=some key).map (·.namespacedName)

/-- A broker with the event types that refer to it. -/
def withReferring (eventTypes : List EventType) (br : Broker) : Broker :=
  {br with providedEventTypes := .of (namesUnder eventTypes br.key)}

/-- A subscribable with the event types that refer to it, unless a broker has
its key. -/
def withRemaining (eventTypes : List EventType) (brokerKeys : List String) (s : Subscribable) :
    Subscribable :=
  {s with providedEventTypes := .of (if s.key ∈ brokerKeys then [] else namesUnder eventTypes s.key)}

section Run

variable {lib : Libraries} {answers : Answers} (f : Fetched lib answers)

/-- The home of an event type is the broker at a position exactly if it refers
to the key of that broker. -/
theorem home_eq_broker_iff_key (hd : (f.convertedBrokers.map Broker.key).Nodup) {i : ℕ} {br : Broker}
    (hbr : f.convertedBrokers[i]?=some br) (et : EventType) :
    home f et=.broker i ↔ et.reference.map (·.string)=some br.key := by
  have hmap : ∀ key, f.brokerMap[key]?=some i ↔ br.key=key := by
    intro key
    rw [Fetched.brokerMap,indexBy_eq_some_iff hd,hbr]
    simp
  rw [homeOf_eq_broker_iff,Option.map_eq_some_iff]
  refine exists_congr fun reference => and_congr_right fun _ => ?_
  rw [hmap]
  exact eq_comm

/-- The home of an event type is the subscribable at a position exactly if it
refers to the key of that subscribable and no broker has this key. -/
theorem home_eq_subscribable_iff_key (hd : (f.subscribables.toList.map Subscribable.key).Nodup)
    {i : ℕ} {s : Subscribable} (hs : f.subscribables.toList[i]?=some s) (et : EventType) :
    home f et=.subscribable i ↔
      et.reference.map (·.string)=some s.key ∧ s.key ∉ f.convertedBrokers.map Broker.key := by
  have hmap : ∀ key, f.subscribableMap[key]?=some i ↔ s.key=key := by
    intro key
    rw [Fetched.subscribableMap,indexBy_eq_some_iff hd,hs]
    simp
  have hnone : ∀ key, f.brokerMap[key]?=none ↔ key ∉ f.convertedBrokers.map Broker.key := by
    intro key
    rw [Fetched.brokerMap,indexBy_eq_none_iff,List.mem_map]
    push Not
    rfl
  rw [homeOf_eq_subscribable_iff,Option.map_eq_some_iff]
  constructor
  · intro hp
    rcases hp with ⟨reference,hr,hb,hsub⟩
    have hkey := (hmap _).mp hsub
    rw [hkey]
    exact ⟨⟨reference,hr,rfl⟩,(hnone _).mp hb⟩
  · intro hp
    rcases hp with ⟨⟨reference,hr,hkey⟩,hfree⟩
    rw [←hkey] at hfree
    exact ⟨reference,hr,(hnone _).mpr hfree,(hmap _).mpr hkey.symm⟩

/-- The registered brokers, by their keys. -/
theorem registered_brokers_eq (hd : (f.convertedBrokers.map Broker.key).Nodup) :
    f.registered.brokers=f.convertedBrokers.map (withReferring f.convertedEventTypes) := by
  apply List.ext_getElem?
  intro i
  rw [getElem?_registered_brokers,List.getElem?_map]
  cases hbr : f.convertedBrokers[i]? with
  | none => rfl
  | some br =>
    have hnames : names f (.broker i)=namesUnder f.convertedEventTypes br.key := by
      dsimp only [names,namesAt,namesUnder]
      simp only [home_eq_broker_iff_key f hd hbr]
    rw [Option.map_some,Option.map_some,hnames]
    rfl

/-- The registered subscribables, by their keys. -/
theorem registered_subscribables_eq (hd : (f.subscribables.toList.map Subscribable.key).Nodup) :
    f.registered.subscribables=f.subscribables.toList.map
      (withRemaining f.convertedEventTypes (f.convertedBrokers.map Broker.key)) := by
  apply List.ext_getElem?
  intro i
  rw [getElem?_registered_subscribables,List.getElem?_map]
  cases hs : f.subscribables.toList[i]? with
  | none => rfl
  | some s =>
    have hnames : names f (.subscribable i)=
        if s.key ∈ f.convertedBrokers.map Broker.key then []
        else namesUnder f.convertedEventTypes s.key := by
      dsimp only [names,namesAt,namesUnder]
      simp only [home_eq_subscribable_iff_key f hd hs]
      by_cases hkey : s.key ∈ f.convertedBrokers.map Broker.key
      · simp [hkey]
      · simp [hkey]
    rw [Option.map_some,Option.map_some,hnames]
    rfl

/-- Registration keeps the keys of brokers, position by position. -/
theorem registered_brokerKeys :
    f.registered.brokers.map Broker.key=f.convertedBrokers.map Broker.key := by
  apply List.ext_getElem?
  intro i
  rw [List.getElem?_map,List.getElem?_map,getElem?_registered_brokers,Option.map_map]
  rfl

/-- Registration keeps the keys of subscribables, position by position. -/
theorem registered_subscribableKeys :
    f.registered.subscribables.map Subscribable.key=f.subscribables.toList.map Subscribable.key := by
  apply List.ext_getElem?
  intro i
  rw [List.getElem?_map,List.getElem?_map,getElem?_registered_subscribables,Option.map_map]
  rfl

/-- The broker that a trigger finds. -/
def foundBroker (trigger : TriggerResource) : Option Broker :=
  follow (indexBy Broker.key f.registered.brokers) f.registered.brokers (brokerRef trigger)

/-- The subscribable that a subscription finds. -/
def foundSubscribable (subscription : SubscriptionResource) : Option Subscribable :=
  follow (indexBy Subscribable.key f.registered.subscribables) f.registered.subscribables
    (channelRef subscription)

/-- The event types that a trigger selects are those of the broker that it finds. -/
theorem triggerTargets_eq_found (trigger : TriggerResource) (eventTypes : List EventType) :
    triggerTargets f.brokerMap f.etByNamespacedName f.registered.brokers eventTypes trigger=
      if trigger.spec.broker="" then []
      else (foundBroker f trigger).elim [] fun broker =>
        collectSubscribedEventTypes trigger broker f.etByNamespacedName eventTypes := by
  have hmap : f.brokerMap=indexBy Broker.key f.registered.brokers :=
    indexBy_congr (registered_brokerKeys f).symm
  dsimp only [triggerTargets,foundBroker,follow]
  rw [hmap]
  by_cases hempty : trigger.spec.broker=""
  · rw [if_pos hempty,if_pos hempty]
  · rw [if_neg hempty,if_neg hempty]
    cases (indexBy Broker.key f.registered.brokers)[brokerRef trigger]? with
    | none => rfl
    | some i =>
      dsimp only [Option.bind_some]
      cases f.registered.brokers[i]? <;> rfl

/-- The event types that a subscription selects are those of the subscribable
that it finds. -/
theorem subscriptionTargets_eq_found (subscription : SubscriptionResource) :
    subscriptionTargets f.subscribableMap f.etByNamespacedName f.registered.subscribables subscription=
      (foundSubscribable f subscription).elim [] fun s =>
        subscribedEventTypes f.etByNamespacedName subscription.nameSpace
          s.providedEventTypes.toList := by
  have hmap : f.subscribableMap=indexBy Subscribable.key f.registered.subscribables :=
    indexBy_congr (registered_subscribableKeys f).symm
  dsimp only [subscriptionTargets,foundSubscribable,follow]
  rw [hmap]
  cases (indexBy Subscribable.key f.registered.subscribables)[channelRef subscription]? with
  | none => rfl
  | some i =>
    dsimp only [Option.bind_some]
    cases f.registered.subscribables[i]? <;> rfl

end Run

end KnativeMesh.PositionFree
