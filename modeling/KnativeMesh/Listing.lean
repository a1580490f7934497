import KnativeMesh.Runs
import KnativeMesh.Keys

/-!
# Listed resources: identities, order and keys

A list answer of the API server holds every object once, and the names of its
objects contain no slash. Under these two conditions the sorted event types
are strictly increasing by namespace and name, and every map of the builder
leads from a key to the one resource that has the fields of the key.
-/

namespace KnativeMesh.Listing

open Go UnstructuredObject Kubernetes Mesh Converters Builder Passes Runs Keys Library.Index

/-- Namespace and name of an object, ordered by namespace first. -/
def identity (m : ObjectMeta) : String×ₗString := toLex (m.nameSpace,m.name)

/-- No two objects of a list share namespace and name. -/
def Distinct (metas : List ObjectMeta) : Prop := (metas.map identity).Nodup

instance (metas : List ObjectMeta) : Decidable (Distinct metas) :=
  inferInstanceAs (Decidable (metas.map identity).Nodup)

/-- Namespaces and names of the objects of a list are free of slashes. -/
def SlashFreeObjects (metas : List ObjectMeta) : Prop :=
  ∀ m ∈ metas, SlashFree m.nameSpace ∧ SlashFree m.name

instance (metas : List ObjectMeta) : Decidable (SlashFreeObjects metas) :=
  inferInstanceAs (Decidable (∀ m ∈ metas, SlashFree m.nameSpace ∧ SlashFree m.name))

/-- The comparison of fetchEventTypes is the order of identities. -/
theorem eventTypeLess_iff (a b : EventTypeResource) :
    eventTypeLess a b=true ↔ identity a.objectMeta < identity b.objectMeta := by
  dsimp only [eventTypeLess,identity]
  rw [Prod.Lex.toLex_lt_toLex]
  by_cases hns : a.objectMeta.nameSpace=b.objectMeta.nameSpace
  · simp [hns]
  · simp [hns]

/-- What the sort keeps in order is that no later element is less. -/
theorem not_eventTypeLess_iff (a b : EventTypeResource) :
    (!eventTypeLess b a)=true ↔ identity a.objectMeta ≤ identity b.objectMeta := by
  rw [Bool.not_eq_true',Bool.eq_false_iff,ne_eq,eventTypeLess_iff,not_lt]

/-- Sorting keeps the listed event types. -/
theorem sortEventTypes_perm (eventTypes : List EventTypeResource) :
    (sortEventTypes eventTypes).Perm eventTypes := List.perm_insertionSort _ _

/-- Sorting orders the event types by namespace and name. -/
theorem sortEventTypes_sorted (eventTypes : List EventTypeResource) :
    (sortEventTypes eventTypes).Pairwise fun a b =>
      identity a.objectMeta ≤ identity b.objectMeta := by
  have htotal : Std.Total fun a b : EventTypeResource => (!eventTypeLess b a)=true :=
    ⟨fun a b => by
      rw [not_eventTypeLess_iff,not_eventTypeLess_iff]
      exact le_total _ _⟩
  have htrans : IsTrans EventTypeResource fun a b => (!eventTypeLess b a)=true :=
    ⟨fun a b c hab hbc => by
      rw [not_eventTypeLess_iff] at hab hbc ⊢
      exact hab.trans hbc⟩
  have hs := List.pairwise_insertionSort
    (fun a b : EventTypeResource => (!eventTypeLess b a)=true) eventTypes
  exact hs.imp fun {a b} h => (not_eventTypeLess_iff a b).mp h

/-- Distinct event types are strictly increasing after the sort, whatever the
order in which they were listed. -/
theorem sortEventTypes_strict {eventTypes : List EventTypeResource}
    (hd : Distinct (eventTypes.map (·.objectMeta))) :
    (sortEventTypes eventTypes).Pairwise fun a b =>
      identity a.objectMeta < identity b.objectMeta := by
  have hperm := ((sortEventTypes_perm eventTypes).map (·.objectMeta)).map identity
  have hnodup : ((sortEventTypes eventTypes).map fun et => identity et.objectMeta).Nodup := by
    have hn := hperm.nodup_iff.mpr hd
    rwa [List.map_map] at hn
  have hne := List.pairwise_map.mp hnodup
  exact (sortEventTypes_sorted eventTypes).imp₂ (fun _ _ hle hne => lt_of_le_of_ne hle hne) hne

/-- Group, kind, namespace and name of a broker of the mesh. -/
def brokerIdentity (br : Broker) : GroupKindNamespacedName :=
  ⟨brokerGroup,brokerKind,br.nameSpace,br.name⟩

/-- The key of a broker is the key of its identity. -/
theorem key_brokerIdentity (br : Broker) : (brokerIdentity br).string=br.key := rfl

/-- Group, kind, namespace and name of a subscribable of the mesh. -/
def subscribableIdentity (s : Subscribable) : GroupKindNamespacedName :=
  ⟨s.group,s.kind,s.nameSpace,s.name⟩

section Maps

variable {lib : Libraries} {answers : Answers} (f : Fetched lib answers)

/-- Converted brokers are listed brokers, with the same namespace and name. -/
theorem mem_convertedBrokers {br : Broker} (h : br ∈ f.convertedBrokers) :
    ∃ resource ∈ f.brokers, br=convertBroker resource := by
  obtain ⟨resource,hmem,rfl⟩ := List.mem_map.mp h
  exact ⟨resource,hmem,rfl⟩

/-- Converted event types are the listed ones. -/
theorem mem_convertedEventTypes {et : EventType} :
    et ∈ f.convertedEventTypes ↔ ∃ resource ∈ f.eventTypes, convertEventType resource=et := by
  rw [Fetched.convertedEventTypes,List.mem_map]
  simp only [(sortEventTypes_perm f.eventTypes).mem_iff]

/-- Converted event types keep namespaces and names free of slashes. -/
theorem slashFree_convertedEventTypes (hfree : SlashFreeObjects (f.eventTypes.map (·.objectMeta)))
    {et : EventType} (h : et ∈ f.convertedEventTypes) : SlashFree et.nameSpace ∧ SlashFree et.name := by
  obtain ⟨resource,hmem,rfl⟩ := (mem_convertedEventTypes f).mp h
  exact hfree resource.objectMeta (List.mem_map_of_mem hmem)

/-- Converted brokers keep namespaces and names free of slashes. -/
theorem slashFree_convertedBrokers (hfree : SlashFreeObjects (f.brokers.map (·.objectMeta)))
    {br : Broker} (h : br ∈ f.convertedBrokers) : GKSlashFree (brokerIdentity br) := by
  obtain ⟨resource,hmem,rfl⟩ := mem_convertedBrokers f h
  obtain ⟨hns,hname⟩ := hfree resource.objectMeta (List.mem_map_of_mem hmem)
  exact broker_slashFree hns hname

/-- Broker keys are distinct. -/
theorem brokerKeys_nodup (hd : Distinct (f.brokers.map (·.objectMeta)))
    (hfree : SlashFreeObjects (f.brokers.map (·.objectMeta))) :
    (f.convertedBrokers.map Broker.key).Nodup := by
  rw [Distinct,List.map_map] at hd
  rw [Fetched.convertedBrokers,List.map_map]
  apply List.Nodup.map_on _ (List.Nodup.of_map _ hd)
  intro a ha b hb hkey
  have hfa := hfree a.objectMeta (List.mem_map_of_mem ha)
  have hid := (string_eq_iff (broker_slashFree hfa.1 hfa.2) (brokerIdentity (convertBroker b))).mp hkey
  injection hid with _ _ hns hname
  have hsame : identity a.objectMeta=identity b.objectMeta :=
    congrArg₂ (fun ns name => toLex (ns,name)) hns hname
  exact List.inj_on_of_nodup_map hd ha hb hsame

/-- Namespaced names of event types are distinct. -/
theorem namespacedNames_nodup (hd : Distinct (f.eventTypes.map (·.objectMeta)))
    (hfree : SlashFreeObjects (f.eventTypes.map (·.objectMeta))) :
    (f.convertedEventTypes.map EventType.namespacedName).Nodup := by
  rw [Distinct,List.map_map] at hd
  have hperm := sortEventTypes_perm f.eventTypes
  rw [Fetched.convertedEventTypes,List.map_map]
  apply (hperm.map _).nodup_iff.mpr
  apply List.Nodup.map_on _ (List.Nodup.of_map _ hd)
  intro a ha b hb hkey
  have hfa := hfree a.objectMeta (List.mem_map_of_mem ha)
  obtain ⟨hns,hname⟩ := (namespacedName_eq_iff hfa.1 hfa.2 _ _).mp hkey
  have hsame : identity a.objectMeta=identity b.objectMeta :=
    congrArg₂ (fun ns name => toLex (ns,name)) hns hname
  exact List.inj_on_of_nodup_map hd ha hb hsame

/-- Subscribable keys are distinct where all four fields are free of slashes. -/
theorem subscribableKeys_nodup (hd : (f.subscribables.toList.map subscribableIdentity).Nodup)
    (hfree : ∀ s ∈ f.subscribables.toList, GKSlashFree (subscribableIdentity s)) :
    (f.subscribables.toList.map Subscribable.key).Nodup := by
  apply List.Nodup.map_on _ (List.Nodup.of_map _ hd)
  intro a ha b hb hkey
  have hid := (string_eq_iff (hfree a ha) (subscribableIdentity b)).mp hkey
  exact List.inj_on_of_nodup_map hd ha hb hid

end Maps

end KnativeMesh.Listing
