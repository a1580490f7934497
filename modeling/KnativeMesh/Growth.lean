import KnativeMesh.Entities
import KnativeMesh.Namespaces

/-!
# Growing clusters

Resources that are added to a cluster take nothing from what the mesh says about
those that are there: every resource stays, with the event types and consumers
that it had, in their order. The one exception is a broker that is added where a
subscribable of the same group, kind, namespace and name takes its event types.
-/

namespace KnativeMesh.Growth

open Go UnstructuredObject Kubernetes Mesh Converters Builder Runs Keys Listing Fetches Entities
open ClusterContents Registration Triggers Subscriptions Passes Specification Namespaces

/-- Of two runs, the second sees everything that the first sees. Triggers may be
listed in another order, and subscribers that had an id keep it. What is fetched
through CRDs grows where the lists of CRDs and instances do. -/
structure Grows {lib : Libraries} {small large : Cluster} (f : Fetched lib (snapshot small))
    (g : Fetched lib (snapshot large)) : Prop where
  brokers : f.brokers ⊆ g.brokers
  subscribables : f.subscribables.toList ⊆ g.subscribables.toList
  sources : f.sources.toList ⊆ g.sources.toList
  eventTypes : f.eventTypes ⊆ g.eventTypes
  triggers : f.triggers.Subperm g.triggers
  subscribers : ∀ trigger ∈ f.triggers, triggerId lib small.dynamicClient trigger≠"" →
    triggerId lib large.dynamicClient trigger=triggerId lib small.dynamicClient trigger
  /-- No broker is added in the place of a subscribable. -/
  places : ∀ br ∈ g.brokers, ∀ s ∈ f.subscribables.toList,
    brokerIdentity (convertBroker br)=subscribableIdentity s → br ∈ f.brokers

/-- Every list call for CRDs or for instances finds in the large cluster what it
finds in the small one. -/
def ListsGrow (small large : Cluster) : Prop :=
  ∀ gvr labelSelector objects, small.dynamicClient.list gvr labelSelector=.ok objects →
    ∃ objects', large.dynamicClient.list gvr labelSelector=.ok objects' ∧ objects ⊆ objects'

section Lists

variable {lib : Libraries} {small large : Cluster} (hlists : ListsGrow small large)

include hlists

/-- Instances that a run over the small cluster lists are listed in the large one. -/
theorem listInstances_subset {gvr : GroupVersionResource} {resources resources' : List Unstructured}
    (h : listInstances lib small.dynamicClient gvr=.ok resources)
    (h' : listInstances lib large.dynamicClient gvr=.ok resources') : resources ⊆ resources' := by
  rcases listInstances_eq_ok_iff.mp h with hlisted | ⟨_,_,_,rfl⟩
  · have hgrown := hlists gvr noSelector resources hlisted
    rcases hgrown with ⟨objects,hobjects,hsubset⟩
    cases h'.symm.trans (listInstances_eq_ok_iff.mpr (.inl hobjects))
    exact hsubset
  · exact List.nil_subset _

/-- Subscribables of a CRD in the small cluster are there in the large one. -/
theorem subscribablesOf_subset {crd : Unstructured} {xs ys : List Subscribable}
    (h : subscribablesOf lib small.dynamicClient crd=.ok xs)
    (h' : subscribablesOf lib large.dynamicClient crd=.ok ys) : xs ⊆ ys := by
  have hsmall := throughCRD_eq_ok_iff.mp h
  have hlarge := throughCRD_eq_ok_iff.mp h'
  rcases hsmall with ⟨gvr,resources,hgvr,hresources,hvalue⟩
  rcases hlarge with ⟨gvr',resources',hgvr',hresources',hvalue'⟩
  cases hgvr.symm.trans hgvr'
  cases hvalue
  cases hvalue'
  exact List.map_subset _ (listInstances_subset hlists hresources hresources')

/-- Sources of a CRD in the small cluster are there in the large one. -/
theorem sourcesOf_subset {crd : Unstructured} {xs ys : List Source}
    (h : sourcesOf lib small.dynamicClient crd=.ok xs)
    (h' : sourcesOf lib large.dynamicClient crd=.ok ys) : xs ⊆ ys := by
  have hsmall := throughCRD_eq_ok_iff.mp h
  have hlarge := throughCRD_eq_ok_iff.mp h'
  rcases hsmall with ⟨gvr,resources,hgvr,hresources,hcollect⟩
  rcases hlarge with ⟨gvr',resources',hgvr',hresources',hcollect'⟩
  cases hgvr.symm.trans hgvr'
  have hsubset := listInstances_subset hlists hresources hresources'
  rw [←(collect_eq_ok_iff.mp hcollect).2,←(collect_eq_ok_iff.mp hcollect').2]
  intro source hsource
  have hconverted := List.mem_flatMap.mp hsource
  rcases hconverted with ⟨resource,hresource,hyielded⟩
  exact List.mem_flatMap.mpr ⟨resource,hsubset hresource,hyielded⟩

/-- A fetch through CRDs finds in the large cluster what it finds in the small
one, if it does so at each CRD. -/
theorem fetchThroughCRDs_subset {α : Type} {labelSelector : String}
    {fetch fetch' : Unstructured → Result (List α)}
    (hfetch : ∀ crd xs ys, fetch crd=.ok xs → fetch' crd=.ok ys → xs ⊆ ys) {xs ys : Slice α}
    (h : fetchThroughCRDs lib (small.dynamicClient.list crdResource labelSelector)
      (fun crd => fetch crd.1)=.ok xs)
    (h' : fetchThroughCRDs lib (large.dynamicClient.list crdResource labelSelector)
      (fun crd => fetch' crd.1)=.ok ys) : xs.toList ⊆ ys.toList := by
  rcases fetchThroughCRDs_eq_ok_iff.mp h with ⟨_,_,_,rfl⟩ | ⟨crds,elems,hcrds,helems,rfl⟩
  · exact List.nil_subset _
  · have hgrown := hlists crdResource labelSelector crds hcrds
    rcases hgrown with ⟨crds',hcrds',hsubset⟩
    rcases fetchThroughCRDs_eq_ok_iff.mp h' with
      ⟨_,hnone,_⟩ | ⟨listed,elems',hlisted,helems',rfl⟩
    · cases hcrds'.symm.trans hnone
    · cases hcrds'.symm.trans hlisted
      rw [collect_zipIdx] at helems helems'
      have hsteps := collect_eq_ok_iff.mp helems
      have hsteps' := collect_eq_ok_iff.mp helems'
      intro x hx
      rw [Slice.toList_of,←hsteps.2] at hx
      rw [Slice.toList_of,←hsteps'.2]
      have hfound := List.mem_flatMap.mp hx
      rcases hfound with ⟨crd,hcrd,hyielded⟩
      have hhere := hsteps.1 crd hcrd
      have hthere := hsteps'.1 crd (hsubset hcrd)
      rcases hhere with ⟨here,hhere⟩
      rcases hthere with ⟨there,hthere⟩
      rw [yielded_of_eq_ok hhere] at hyielded
      refine List.mem_flatMap.mpr ⟨crd,hsubset hcrd,?_⟩
      rw [yielded_of_eq_ok hthere]
      exact hfetch crd here there hhere hthere hyielded

variable (f : Fetched lib (snapshot small)) (g : Fetched lib (snapshot large))

/-- Subscribables that a run fetches from the small cluster are fetched from the
large one. -/
theorem subscribables_subset : f.subscribables.toList ⊆ g.subscribables.toList := by
  have hstep : ∀ crd xs ys, subscribablesOf lib small.dynamicClient crd=.ok xs →
      subscribablesOf lib large.dynamicClient crd=.ok ys → xs ⊆ ys :=
    fun _ _ _ => subscribablesOf_subset hlists
  exact fetchThroughCRDs_subset hlists hstep f.subscribables_ok g.subscribables_ok

/-- Sources that a run fetches from the small cluster are fetched from the large
one. -/
theorem sources_subset : f.sources.toList ⊆ g.sources.toList := by
  have hstep : ∀ crd xs ys, sourcesOf lib small.dynamicClient crd=.ok xs →
      sourcesOf lib large.dynamicClient crd=.ok ys → xs ⊆ ys := fun _ _ _ => sourcesOf_subset hlists
  exact fetchThroughCRDs_subset hlists hstep f.sources_ok g.sources_ok

/-- A run sees more where every list is longer: the lists of CRDs and instances,
and those of the resources of a fixed kind. -/
theorem grows_of_lists {f : Fetched lib (snapshot small)} {g : Fetched lib (snapshot large)}
    (hbrokers : f.brokers ⊆ g.brokers) (heventTypes : f.eventTypes ⊆ g.eventTypes)
    (htriggers : f.triggers.Subperm g.triggers)
    (hsubscribers : ∀ trigger ∈ f.triggers, triggerId lib small.dynamicClient trigger≠"" →
      triggerId lib large.dynamicClient trigger=triggerId lib small.dynamicClient trigger)
    (hplaces : ∀ br ∈ g.brokers, ∀ s ∈ f.subscribables.toList,
      brokerIdentity (convertBroker br)=subscribableIdentity s → br ∈ f.brokers) : Grows f g :=
  ⟨hbrokers,subscribables_subset hlists f g,sources_subset hlists f g,heventTypes,htriggers,
    hsubscribers,hplaces⟩

end Lists

/-- One mesh says everything that another one says. -/
structure Extends (mesh mesh' : EventMesh) : Prop where
  brokers : ∀ br ∈ mesh.brokers.toList, ∃ br' ∈ mesh'.brokers.toList, brokerFixed br'=brokerFixed br ∧
    br.providedEventTypes.toList.Sublist br'.providedEventTypes.toList
  subscribables : ∀ s ∈ mesh.subscribables.toList, ∃ s' ∈ mesh'.subscribables.toList,
    subscribableFixed s'=subscribableFixed s ∧
      s.providedEventTypes.toList.Sublist s'.providedEventTypes.toList
  sources : ∀ source ∈ mesh.sources.toList, ∃ source' ∈ mesh'.sources.toList,
    sourceFixed source'=sourceFixed source ∧
      source.providedEventTypes.toList.Sublist source'.providedEventTypes.toList
  eventTypes : ∀ et ∈ mesh.eventTypes.toList, ∃ et' ∈ mesh'.eventTypes.toList, fixed et'=fixed et ∧
    et.consumedBy.toList.Subperm et'.consumedBy.toList

/-- What one function selects from a list another one selects too, if it agrees
with the first wherever that selects something. -/
theorem filterMap_sublist {α β : Type} {p q : α → Option β} {xs : List α}
    (h : ∀ x ∈ xs, ∀ y, p x=some y → q x=some y) : (xs.filterMap p).Sublist (xs.filterMap q) := by
  induction xs with
  | nil => exact .slnil
  | cons x xs ih =>
    rw [List.forall_mem_cons] at h
    have hrest := ih h.2
    cases hp : p x with
    | some y =>
      rw [List.filterMap_cons_some hp,List.filterMap_cons_some (h.1 y hp)]
      exact hrest.cons_cons y
    | none =>
      rw [List.filterMap_cons_none hp]
      cases hq : q x with
      | none =>
        rw [List.filterMap_cons_none hq]
        exact hrest
      | some y =>
        rw [List.filterMap_cons_some hq]
        exact hrest.cons y

section Grown

variable {lib : Libraries} {small large : Cluster} {f : Fetched lib (snapshot small)}
  {g : Fetched lib (snapshot large)} (hg : Grows f g)

include hg

/-- The event types keep their order. -/
theorem convertedEventTypes_sublist (ha : Admitted f) (hb : Admitted g) :
    f.convertedEventTypes.Sublist g.convertedEventTypes := by
  have hsmall := sortEventTypes_strict ha.eventTypes
  have hlarge := sortEventTypes_strict hb.eventTypes
  have hnodup : (sortEventTypes f.eventTypes).Nodup := by
    refine hsmall.imp ?_
    intro first second hlt he
    rw [he] at hlt
    exact lt_irrefl _ hlt
  have hsubset : sortEventTypes f.eventTypes ⊆ sortEventTypes g.eventTypes := by
    intro resource hmem
    have hlisted := (sortEventTypes_perm f.eventTypes).mem_iff.mp hmem
    exact (sortEventTypes_perm g.eventTypes).mem_iff.mpr (hg.eventTypes hlisted)
  have hasymm : Std.Antisymm fun a b : EventTypeResource =>
      identity a.objectMeta < identity b.objectMeta := ⟨fun _ _ hlt hgt => absurd hgt hlt.not_gt⟩
  have hsub := List.sublist_of_subperm_of_pairwise (List.subperm_of_subset hnodup hsubset) hsmall hlarge
  exact hsub.map convertEventType

/-- The event types that refer to a resource still do. -/
theorem referring_sublist (ha : Admitted f) (hb : Admitted g) (resource : GroupKindNamespacedName) :
    (referring f.convertedEventTypes resource).Sublist (referring g.convertedEventTypes resource) :=
  ((convertedEventTypes_sublist hg ha hb).filter _).map _

/-- A source still announces what it announced. -/
theorem announcedNames_sublist (ha : Admitted f) (hb : Admitted g) (source : Source) :
    (announcedNames f.convertedEventTypes source).Sublist
      (announcedNames g.convertedEventTypes source) :=
  List.Sublist.flatMap_right _ fun _ _ => ((convertedEventTypes_sublist hg ha hb).filter _).map _

/-- A trigger that is subscribed to an event type still is, with the same id. -/
theorem triggerConsumer_grown {trigger : TriggerResource} (htrigger : trigger ∈ f.triggers)
    {et : EventType} {id : String}
    (h : triggerConsumer lib small.dynamicClient f.brokers trigger et=some id) :
    triggerConsumer lib large.dynamicClient g.brokers trigger et=some id := by
  rw [triggerConsumer_eq] at h ⊢
  by_cases hc : triggerId lib small.dynamicClient trigger≠"" ∧ subscribedTo f.brokers trigger et
  · have hid := hg.subscribers trigger htrigger hc.1
    have hlisted : brokerListed g.brokers trigger := by
      have hbroker := hc.2.1.2
      rcases hbroker with ⟨br,hbr,hnamed⟩
      exact ⟨hc.2.1.1,br,hg.brokers hbr,hnamed⟩
    rw [if_pos hc] at h
    rw [hid,if_pos ⟨hc.1,hlisted,hc.2.2⟩]
    exact h
  · rw [if_neg hc] at h
    cases h

/-- An event type keeps its consumers. -/
theorem triggerConsumers_subperm (et : EventType) :
    (triggerConsumers f et).Subperm (triggerConsumers g et) := by
  have hkept : (triggerConsumers f et).Sublist (f.triggers.filterMap fun trigger =>
      triggerConsumer lib large.dynamicClient g.brokers trigger et) := by
    rw [triggerConsumers_snapshot]
    exact filterMap_sublist fun trigger htrigger id h => triggerConsumer_grown hg htrigger h
  have htriggers := hg.triggers
  rcases htriggers with ⟨listed,hperm,hsub⟩
  have hlisted := (hperm.filterMap fun trigger =>
    triggerConsumer lib large.dynamicClient g.brokers trigger et).symm
  rw [triggerConsumers_snapshot g]
  exact hkept.subperm.trans (hlisted.subperm.trans (hsub.filterMap _).subperm)

/-- A subscribable is a broker of the large cluster only if it was one of the
small cluster. -/
theorem broker_of_grown {s : Subscribable} (hs : s ∈ f.subscribables.toList) :
    (∃ br ∈ g.convertedBrokers, brokerIdentity br=subscribableIdentity s) ↔
      ∃ br ∈ f.convertedBrokers, brokerIdentity br=subscribableIdentity s := by
  constructor
  · intro hp
    rcases hp with ⟨_,hmem,hsame⟩
    have hlisted := List.mem_map.mp hmem
    rcases hlisted with ⟨br,hbr,rfl⟩
    exact ⟨_,List.mem_map_of_mem (hg.places br hbr s hs hsame),hsame⟩
  · intro hp
    rcases hp with ⟨_,hmem,hsame⟩
    have hlisted := List.mem_map.mp hmem
    rcases hlisted with ⟨br,hbr,rfl⟩
    exact ⟨_,List.mem_map_of_mem (hg.brokers hbr),hsame⟩

/-- The mesh of the large cluster extends that of the small one. -/
theorem specification_extends (ha : Admitted f) (hb : Admitted g) :
    Extends (specification f) (specification g) := by
  constructor
  · intro _ hmem
    have hlisted := List.mem_map.mp hmem
    rcases hlisted with ⟨br,hbr,rfl⟩
    have hkept : br ∈ g.convertedBrokers := List.map_subset _ hg.brokers hbr
    exact ⟨_,List.mem_map_of_mem hkept,rfl,referring_sublist hg ha hb _⟩
  · intro _ hmem
    have hlisted := List.mem_map.mp hmem
    rcases hlisted with ⟨s,hs,rfl⟩
    refine ⟨_,List.mem_map_of_mem (hg.subscribables hs),rfl,?_⟩
    unfold specifySubscribable
    simp only [broker_of_grown hg hs,Slice.toList]
    split
    · exact .slnil
    · exact referring_sublist hg ha hb _
  · intro _ hmem
    have hlisted := List.mem_map.mp hmem
    rcases hlisted with ⟨source,hsource,rfl⟩
    exact ⟨_,List.mem_map_of_mem (hg.sources hsource),rfl,announcedNames_sublist hg ha hb _⟩
  · intro _ hmem
    have hlisted := List.mem_map.mp hmem
    rcases hlisted with ⟨et,het,rfl⟩
    have hkept := (convertedEventTypes_sublist hg ha hb).subset het
    exact ⟨_,List.mem_map_of_mem hkept,rfl,triggerConsumers_subperm hg et⟩

end Grown

/-- If a cluster grows, and runs over both its states succeed, the later mesh
says everything that the earlier one says. -/
theorem buildEventMesh_extends {lib : Libraries} {small large : Cluster}
    {f : Fetched lib (snapshot small)} {g : Fetched lib (snapshot large)} (hg : Grows f g)
    (ha : Admitted f) (hb : Admitted g) {mesh mesh' : EventMesh}
    (h : buildEventMesh lib (snapshot small)=.ok mesh)
    (h' : buildEventMesh lib (snapshot large)=.ok mesh') : Extends mesh mesh' := by
  rw [(specified_of_buildEventMesh f ha h).2,(specified_of_buildEventMesh g hb h').2]
  exact specification_extends hg ha hb

/-- The two namespaces before the bank came. -/
def oneTenant : Contents :=
  {twoTenants with
    brokers := twoTenants.brokers.take 1
    eventTypes := twoTenants.eventTypes.drop 2++twoTenants.eventTypes.take 1
    triggers := twoTenants.triggers.take 1}

/-- What a run over the one namespace fetches. -/
def oneTenantFetched : Fetched orderLibraries (snapshot oneTenant.cluster) :=
  @Contents.fetched oneTenant orderLibraries twoTenantsFetched.subscribables twoTenantsFetched.sources
    rfl rfl

/-- The bank takes nothing from the shop. -/
theorem buildEventMesh_extends_twoTenants :
    Extends (specification oneTenantFetched) (specification twoTenantsFetched) := by
  have ha : Admitted oneTenantFetched :=
    { brokers := by decide, brokersFree := by decide, subscribables := by decide
      subscribablesFree := by decide, eventTypes := by decide, eventTypesFree := by decide }
  have hplaces : ∀ br ∈ twoTenantsFetched.brokers, ∀ s ∈ oneTenantFetched.subscribables.toList,
      brokerIdentity (convertBroker br)≠subscribableIdentity s := by decide
  have hlists : ListsGrow oneTenant.cluster twoTenants.cluster :=
    fun _ _ objects hobjects => ⟨objects,hobjects,List.Subset.refl _⟩
  have hg : Grows oneTenantFetched twoTenantsFetched :=
    grows_of_lists hlists (List.take_subset _ _)
      (List.append_subset.mpr ⟨List.drop_subset _ _,List.take_subset _ _⟩)
      (List.take_sublist _ _).subperm (fun _ _ _ => rfl)
      fun br hbr s hs he => absurd he (hplaces br hbr s hs)
  exact buildEventMesh_extends hg ha admitted_twoTenants (buildEventMesh_of_unstopped _ ha (by decide))
    (buildEventMesh_of_unstopped _ admitted_twoTenants (by decide))

end KnativeMesh.Growth
