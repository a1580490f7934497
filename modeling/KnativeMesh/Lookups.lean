import KnativeMesh.Subscriptions

/-!
# Lookups identify what they name

Every join of the builder is a lookup of a flattened key in a map that its
loops filled. The key may come from a crafted kind, broker or channel name.
Stored fields are free of slashes, so a stored key holds exactly as many
slashes as fields need, and a lookup hits only the resource that it names.
-/

namespace KnativeMesh.Lookups

open Go Kubernetes Mesh Converters Builder Keys Listing ClusterContents Subscriptions Library.Index

section Identities

variable {α : Type} {identityOf : α → GroupKindNamespacedName} {stored : List α}

/-- Distinct identities without slashes have distinct keys. -/
theorem keys_nodup (hd : (stored.map identityOf).Nodup)
    (hfree : ∀ x ∈ stored, GKSlashFree (identityOf x)) :
    (stored.map fun x => (identityOf x).string).Nodup := by
  have hinj : ∀ x ∈ stored, ∀ y ∈ stored,
      (identityOf x).string=(identityOf y).string → x=y := by
    intro x hx y hy hkey
    have hsame := (string_eq_iff (hfree x hx) (identityOf y)).mp hkey
    exact List.inj_on_of_nodup_map hd hx hy hsame
  exact List.Nodup.map_on hinj (List.Nodup.of_map _ hd)

/-- A lookup by four arbitrary strings hits exactly when a stored object has
these four fields, and then it returns that object. -/
theorem lookup_identifies (hd : (stored.map identityOf).Nodup)
    (hfree : ∀ x ∈ stored, GKSlashFree (identityOf x)) (looked : GroupKindNamespacedName) :
    (looked.string ∈ indexBy (fun x => (identityOf x).string) stored ↔
      ∃ x ∈ stored, identityOf x=looked) ∧
    ∀ x, follow (indexBy (fun x => (identityOf x).string) stored) stored looked.string=some x ↔
      x ∈ stored ∧ identityOf x=looked := by
  have hkey : ∀ x ∈ stored, (identityOf x).string=looked.string ↔ identityOf x=looked :=
    fun x hx => string_eq_iff (hfree x hx) looked
  constructor
  · rw [mem_indexBy_iff]
    exact exists_congr fun x => and_congr_right fun hx => hkey x hx
  · intro x
    rw [follow_indexBy_eq_some_iff (keys_nodup hd hfree)]
    exact and_congr_right fun hx => hkey x hx

end Identities

/-- Namespace and name of an event type. -/
def eventTypeIdentity (et : EventType) : String×String := (et.nameSpace,et.name)

/-- Where namespaces are free of slashes, a namespaced name belongs to the event
type with that namespace and name. -/
theorem namespacedName_eq_iff_identity {et : EventType} (het : SlashFree et.nameSpace) {ns : String}
    (hns : SlashFree ns) (name : String) :
    et.namespacedName=namespacedName ns name ↔ eventTypeIdentity et=(ns,name) := by
  dsimp only [EventType.namespacedName,eventTypeIdentity]
  rw [namespacedName_eq_iff_of_nameSpace het hns,Prod.mk.injEq]

/-- Distinct event types have distinct namespaced names, if only their
namespaces are free of slashes. -/
theorem namespacedNames_nodup_of_nameSpace {eventTypes : List EventType}
    (hd : (eventTypes.map eventTypeIdentity).Nodup)
    (hfree : ∀ et ∈ eventTypes, SlashFree et.nameSpace) :
    (eventTypes.map EventType.namespacedName).Nodup := by
  have hinj : ∀ et ∈ eventTypes, ∀ other ∈ eventTypes,
      et.namespacedName=other.namespacedName → et=other := by
    intro et het other hother hname
    have hsame := (namespacedName_eq_iff_identity (hfree et het) (hfree other hother) _).mp hname
    exact List.inj_on_of_nodup_map hd het hother hsame
  exact List.Nodup.map_on hinj (List.Nodup.of_map _ hd)

/-- A lookup by a namespace without slashes and an arbitrary name hits exactly
when a stored event type has both, and then it returns that event type. -/
theorem eventType_lookup_identifies {eventTypes : List EventType}
    (hd : (eventTypes.map eventTypeIdentity).Nodup)
    (hfree : ∀ et ∈ eventTypes, SlashFree et.nameSpace) {ns : String} (hns : SlashFree ns)
    (name : String) :
    (namespacedName ns name ∈ indexBy EventType.namespacedName eventTypes ↔
      ∃ et ∈ eventTypes, eventTypeIdentity et=(ns,name)) ∧
    ∀ et, follow (indexBy EventType.namespacedName eventTypes) eventTypes (namespacedName ns name)=
      some et ↔ et ∈ eventTypes ∧ eventTypeIdentity et=(ns,name) := by
  have hkey : ∀ et ∈ eventTypes,
      (et.namespacedName=namespacedName ns name ↔ eventTypeIdentity et=(ns,name)) :=
    fun et het => namespacedName_eq_iff_identity (hfree et het) hns name
  constructor
  · rw [mem_indexBy_iff]
    exact exists_congr fun et => and_congr_right fun het => hkey et het
  · intro et
    rw [follow_indexBy_eq_some_iff (namespacedNames_nodup_of_nameSpace hd hfree)]
    exact and_congr_right fun het => hkey et het

/-- The keys of the builder identify resources: in each of its three maps a
lookup hits exactly when a stored resource has the fields that were asked for,
and then it returns that resource. A trigger finds the broker and a
subscription the channel that it names, and no other. -/
theorem keys_identify {brokers : List Broker} {subscribables : List Subscribable}
    {eventTypes : List EventType}
    (hbrokers : (brokers.map brokerIdentity).Nodup)
    (hbrokersFree : ∀ br ∈ brokers, GKSlashFree (brokerIdentity br))
    (hsubscribables : (subscribables.map subscribableIdentity).Nodup)
    (hsubscribablesFree : ∀ s ∈ subscribables, GKSlashFree (subscribableIdentity s))
    (heventTypes : (eventTypes.map eventTypeIdentity).Nodup)
    (heventTypesFree : ∀ et ∈ eventTypes, SlashFree et.nameSpace) :
    (∀ group kind ns name,
      (gkNamespacedName group kind ns name ∈ indexBy Broker.key brokers ↔
        ∃ br ∈ brokers, brokerIdentity br=⟨group,kind,ns,name⟩) ∧
      ∀ br, follow (indexBy Broker.key brokers) brokers (gkNamespacedName group kind ns name)=
        some br ↔ br ∈ brokers ∧ brokerIdentity br=⟨group,kind,ns,name⟩) ∧
    (∀ group kind ns name,
      (gkNamespacedName group kind ns name ∈ indexBy Subscribable.key subscribables ↔
        ∃ s ∈ subscribables, subscribableIdentity s=⟨group,kind,ns,name⟩) ∧
      ∀ s, follow (indexBy Subscribable.key subscribables) subscribables
        (gkNamespacedName group kind ns name)=some s ↔
          s ∈ subscribables ∧ subscribableIdentity s=⟨group,kind,ns,name⟩) ∧
    (∀ ns name, SlashFree ns →
      (namespacedName ns name ∈ indexBy EventType.namespacedName eventTypes ↔
        ∃ et ∈ eventTypes, eventTypeIdentity et=(ns,name)) ∧
      ∀ et, follow (indexBy EventType.namespacedName eventTypes) eventTypes (namespacedName ns name)=
        some et ↔ et ∈ eventTypes ∧ eventTypeIdentity et=(ns,name)) ∧
    (∀ (trigger : TriggerResource) br,
      follow (indexBy Broker.key brokers) brokers (brokerRef trigger)=some br ↔
        br ∈ brokers ∧ br.nameSpace=trigger.nameSpace ∧ br.name=trigger.spec.broker) ∧
    ∀ (subscription : SubscriptionResource) s,
      follow (indexBy Subscribable.key subscribables) subscribables (channelRef subscription)=some s ↔
        s ∈ subscribables ∧ subscribableIdentity s=channelIdentity subscription := by
  have hbroker := lookup_identifies hbrokers hbrokersFree
  have hsubscribable := lookup_identifies hsubscribables hsubscribablesFree
  refine ⟨fun group kind ns name => hbroker ⟨group,kind,ns,name⟩,
    fun group kind ns name => hsubscribable ⟨group,kind,ns,name⟩,
    fun ns name hns => eventType_lookup_identifies heventTypes heventTypesFree hns name,
    fun trigger br => ?_,fun subscription => (hsubscribable (channelIdentity subscription)).2⟩
  have hfound := (hbroker ⟨brokerGroup,brokerKind,trigger.nameSpace,trigger.spec.broker⟩).2 br
  have hfields : brokerIdentity br=⟨brokerGroup,brokerKind,trigger.nameSpace,trigger.spec.broker⟩ ↔
      br.nameSpace=trigger.nameSpace ∧ br.name=trigger.spec.broker := by
    simp [brokerIdentity]
  rw [←hfields]
  exact hfound

/-- The broker shop/main. -/
def mainBroker : Broker := convertBroker ⟨bareMeta "shop" "main"⟩

/-- The event type shop/order, without a reference. -/
def orderEventType : EventType := convertEventType (bareEventType "shop" "order" "shop.order" none)

/-- A kind with a slash in it does not lead to the broker whose key it imitates
in part, while the plain fields lead to the broker and to the event type. -/
theorem keys_identify_craftedKind :
    gkNamespacedName "eventing.knative.dev" "Broker/shop" "main" "" ∉ indexBy Broker.key [mainBroker] ∧
    gkNamespacedName "eventing.knative.dev" "Broker" "shop" "main" ∈ indexBy Broker.key [mainBroker] ∧
    follow (indexBy EventType.namespacedName [orderEventType]) [orderEventType]
      (namespacedName "shop" "order")=some orderEventType := by
  have hall := @keys_identify [mainBroker] [] [orderEventType] (by decide) (by decide) (by decide)
    (by decide) (by decide) (by decide)
  refine ⟨fun hmem => ?_,(hall.1 _ _ _ _).1.mpr ⟨mainBroker,List.mem_cons_self,rfl⟩,
    ((hall.2.2.1 "shop" "order" (by decide)).2 _).mpr ⟨List.mem_cons_self,rfl⟩⟩
  have hstored := (hall.1 "eventing.knative.dev" "Broker/shop" "main" "").1.mp hmem
  rcases hstored with ⟨br,hbr,hid⟩
  rw [List.mem_singleton.mp hbr] at hid
  exact absurd hid (by decide)

end KnativeMesh.Lookups
