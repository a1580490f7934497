import KnativeMesh.Specification

/-!
# Namespaces

The backend lists every resource over all namespaces. A run that lists one
namespace only would return what the run over all of them says about this
namespace: no broker, trigger or channel of another namespace takes part in it.
Sources are the exception, as they provide the event types of their types in all
namespaces, so that of these only the names in the namespace remain.
-/

namespace KnativeMesh.Namespaces

open Go UnstructuredObject Kubernetes Mesh Converters Builder Passes Runs Keys Listing Fetches
open ClusterContents Registration Triggers Subscriptions Permissions Specification

/-- A cluster of which the resources of one namespace are listed only. CRDs are
in no namespace, and gets go to the namespaces that they name. -/
def inNamespace (ns : String) (cluster : Cluster) : Cluster :=
  { clientset :=
      { brokers := cluster.clientset.brokers.map (·.filter (·.objectMeta.nameSpace=ns))
        eventTypes := cluster.clientset.eventTypes.map (·.filter (·.objectMeta.nameSpace=ns))
        triggers := cluster.clientset.triggers.map (·.filter (·.nameSpace=ns))
        subscriptions := cluster.clientset.subscriptions.map (·.filter (·.nameSpace=ns)) }
    dynamicClient :=
      { cluster.dynamicClient with
        list := fun gvr selector =>
          if selector=noSelector then
            (cluster.dynamicClient.list gvr selector).map (·.filter (·.getNamespace=ns))
          else cluster.dynamicClient.list gvr selector } }

/-- The elements of a slice that satisfy a predicate; nil stays nil. -/
def keep {α : Type} (p : α → Bool) : Slice α → Slice α
  | .nil => .nil
  | .of elems => .of (elems.filter p)

/-- Ranging over what is kept visits what satisfies the predicate. -/
theorem toList_keep {α : Type} (p : α → Bool) (slice : Slice α) :
    (keep p slice).toList=slice.toList.filter p := by
  cases slice <;> rfl

/-- A source with those of its names that event types of the namespace have. -/
def keepNames (ns : String) (eventTypes : List EventType) (source : Source) : Source :=
  { source with
    providedEventTypes := keep
      (fun name => ∃ et ∈ eventTypes, et.nameSpace=ns ∧ et.namespacedName=name)
      source.providedEventTypes }

/-- What a mesh says about one namespace. -/
def onlyNamespace (ns : String) (mesh : EventMesh) : EventMesh :=
  { brokers := keep (·.nameSpace=ns) mesh.brokers
    eventTypes := keep (·.nameSpace=ns) mesh.eventTypes
    subscribables := keep (·.nameSpace=ns) mesh.subscribables
    sources := .of ((keep (·.nameSpace=ns) mesh.sources).toList.map
      (keepNames ns mesh.eventTypes.toList)) }

section Lists

variable {α β : Type}

/-- Keeping and then mapping is mapping and then keeping, if the predicates agree
and the maps do on what is kept. -/
theorem map_filter_eq {p : α → Bool} {q : β → Bool} {g g' : α → β} {xs : List α}
    (hq : ∀ x, q (g x)=p x) (hg : ∀ x ∈ xs, p x=true → g' x=g x) :
    (xs.filter p).map g'=(xs.map g).filter q := by
  have hp : q ∘ g=p := funext hq
  rw [List.filter_map,hp]
  refine List.map_congr_left fun x hx => ?_
  have hkept := List.mem_filter.mp hx
  exact hg x hkept.1 hkept.2

/-- A loop whose steps keep what satisfies a predicate keeps it as a whole. -/
theorem collect_filter {ι : Type} {p : α → Bool} {step step' : ι → Result (List α)}
    (hstep : ∀ item values, step item=.ok values → step' item=.ok (values.filter p))
    {items : List ι} {values : List α} (h : collect step items=.ok values) :
    collect step' items=.ok (values.filter p) := by
  have hsteps := collect_eq_ok_iff.mp h
  refine collect_eq_ok_iff.mpr ⟨fun item hitem => ?_,?_⟩
  · have hreturned := hsteps.1 item hitem
    rcases hreturned with ⟨here,hhere⟩
    exact ⟨_,hstep item here hhere⟩
  · rw [←hsteps.2,List.filter_flatMap]
    refine List.flatMap_congr fun item hitem => ?_
    have hreturned := hsteps.1 item hitem
    rcases hreturned with ⟨here,hhere⟩
    rw [yielded_of_eq_ok hhere,yielded_of_eq_ok (hstep item here hhere)]

/-- A fetch through CRDs each of which yields what satisfies a predicate. -/
theorem fetchThroughCRDs_filter {lib : Libraries} {p : α → Bool}
    {crds : Except GoError (List Unstructured)}
    {fetch fetch' : Unstructured×ℕ → Result (List α)}
    (hfetch : ∀ crd values, fetch crd=.ok values → fetch' crd=.ok (values.filter p))
    {found : Slice α} (h : fetchThroughCRDs lib crds fetch=.ok found) :
    fetchThroughCRDs lib crds fetch'=.ok (keep p found) := by
  rcases fetchThroughCRDs_eq_ok_iff.mp h with ⟨err,herr,hnf,rfl⟩ | ⟨listed,elems,hlisted,helems,rfl⟩
  · exact fetchThroughCRDs_eq_ok_iff.mpr (.inl ⟨err,herr,hnf,rfl⟩)
  · have hkept := collect_filter hfetch helems
    exact fetchThroughCRDs_eq_ok_iff.mpr (.inr ⟨listed,_,hlisted,hkept,rfl⟩)

end Lists

section Fetches

variable (ns : String) {lib : Libraries} {cluster : Cluster}

/-- The instances of a CRD in the namespace. -/
theorem listInstances_inNamespace {gvr : GroupVersionResource} {resources : List Unstructured}
    (h : listInstances lib cluster.dynamicClient gvr=.ok resources) :
    listInstances lib (inNamespace ns cluster).dynamicClient gvr=
      .ok (resources.filter (·.getNamespace=ns)) := by
  have hlist : (inNamespace ns cluster).dynamicClient.list gvr noSelector=
      (cluster.dynamicClient.list gvr noSelector).map (·.filter (·.getNamespace=ns)) := by
    dsimp only [inNamespace]
    rw [if_pos rfl]
  rcases listInstances_eq_ok_iff.mp h with hlisted | ⟨err,herr,hnf,rfl⟩
  · rw [hlisted] at hlist
    exact listInstances_eq_ok_iff.mpr (.inl hlist)
  · rw [herr] at hlist
    exact listInstances_eq_ok_iff.mpr (.inr ⟨err,hlist,hnf,rfl⟩)

/-- The subscribables of a CRD in the namespace. -/
theorem subscribablesOf_inNamespace {crd : Unstructured} {found : List Subscribable}
    (h : subscribablesOf lib cluster.dynamicClient crd=.ok found) :
    subscribablesOf lib (inNamespace ns cluster).dynamicClient crd=
      .ok (found.filter (·.nameSpace=ns)) := by
  have hlisted := throughCRD_eq_ok_iff.mp h
  rcases hlisted with ⟨gvr,resources,hgvr,hresources,hvalue⟩
  cases hvalue
  refine throughCRD_eq_ok_iff.mpr ⟨gvr,_,hgvr,listInstances_inNamespace ns hresources,?_⟩
  have hfiltered : (resources.filter (·.getNamespace=ns)).map (convertSubscribable gvr)=
      (resources.map (convertSubscribable gvr)).filter (·.nameSpace=ns) := by
    rw [List.filter_map]
    rfl
  exact congrArg Except.ok hfiltered

/-- The sources of a CRD in the namespace. -/
theorem sourcesOf_inNamespace {crd : Unstructured} {found : List Source}
    (h : sourcesOf lib cluster.dynamicClient crd=.ok found) :
    sourcesOf lib (inNamespace ns cluster).dynamicClient crd=
      .ok (found.filter (·.nameSpace=ns)) := by
  have hlisted := throughCRD_eq_ok_iff.mp h
  rcases hlisted with ⟨gvr,resources,hgvr,hresources,hcollect⟩
  refine throughCRD_eq_ok_iff.mpr ⟨gvr,_,hgvr,listInstances_inNamespace ns hresources,?_⟩
  have hsteps := collect_singletons hcollect
  clear hresources h hcollect
  induction hsteps with
  | nil => rfl
  | @cons resource source resources found hsource _ ih =>
    have hns : source.nameSpace=resource.getNamespace := by
      have hparts := bind_eq_ok.mp hsource
      rcases hparts with ⟨announced,_,hsource⟩
      cases hsource
      rfl
    by_cases hkept : resource.getNamespace=ns
    · have hkept' : source.nameSpace=ns := hns.trans hkept
      rw [List.filter_cons_of_pos (by simp [hkept]),List.filter_cons_of_pos (by simp [hkept']),
        collect,hsource,ih]
      rfl
    · have hkept' : source.nameSpace≠ns := fun he => hkept (hns.symm.trans he)
      rw [List.filter_cons_of_neg (by simp [hkept]),List.filter_cons_of_neg (by simp [hkept'])]
      exact ih

/-- Lists of CRDs are the same in every namespace. -/
theorem list_inNamespace {selector : String} (h : selector≠noSelector) (gvr : GroupVersionResource) :
    (inNamespace ns cluster).dynamicClient.list gvr selector=
      cluster.dynamicClient.list gvr selector := if_neg h

/-- The fetched subscribables of the namespace. -/
theorem fetchSubscribables_inNamespace {found : Slice Subscribable}
    (h : fetchSubscribables lib (snapshot cluster)=.ok found) :
    fetchSubscribables lib (snapshot (inNamespace ns cluster))=.ok (keep (·.nameSpace=ns) found) := by
  have hcrds := @list_inNamespace ns cluster subscribableSelector (by decide) crdResource
  unfold fetchSubscribables snapshot
  rw [hcrds]
  exact fetchThroughCRDs_filter (fun _ _ hcrd => subscribablesOf_inNamespace ns hcrd) h

/-- The fetched sources of the namespace. -/
theorem fetchSources_inNamespace {found : Slice Source}
    (h : fetchSources lib (snapshot cluster)=.ok found) :
    fetchSources lib (snapshot (inNamespace ns cluster))=.ok (keep (·.nameSpace=ns) found) := by
  have hcrds := @list_inNamespace ns cluster sourceSelector (by decide) crdResource
  unfold fetchSources snapshot
  rw [hcrds]
  exact fetchThroughCRDs_filter (fun _ _ hcrd => sourcesOf_inNamespace ns hcrd) h

/-- What a run over the namespace fetches. -/
def fetchedIn (f : Fetched lib (snapshot cluster)) :
    Fetched lib (snapshot (inNamespace ns cluster)) :=
  { brokers := f.brokers.filter (·.objectMeta.nameSpace=ns)
    subscribables := keep (·.nameSpace=ns) f.subscribables
    sources := keep (·.nameSpace=ns) f.sources
    eventTypes := f.eventTypes.filter (·.objectMeta.nameSpace=ns)
    triggers := f.triggers.filter (·.nameSpace=ns)
    subscriptions := f.subscriptions.filter (·.nameSpace=ns)
    brokers_ok := congrArg (Except.map _) f.brokers_ok
    subscribables_ok := fetchSubscribables_inNamespace ns f.subscribables_ok
    sources_ok := fetchSources_inNamespace ns f.sources_ok
    eventTypes_ok := congrArg (Except.map _) f.eventTypes_ok
    triggers_ok := congrArg (Except.map _) f.triggers_ok
    subscriptions_ok := congrArg (Except.map _) f.subscriptions_ok }

end Fetches

/-- Distinct event types that are filtered before they are sorted. -/
theorem sortEventTypes_filter {eventTypes : List EventTypeResource} {p : EventTypeResource → Bool}
    (hd : Distinct (eventTypes.map (·.objectMeta))) :
    sortEventTypes (eventTypes.filter p)=(sortEventTypes eventTypes).filter p := by
  have hsub : ((eventTypes.filter p).map (·.objectMeta)).Sublist (eventTypes.map (·.objectMeta)) :=
    List.filter_sublist.map _
  have hkept : Distinct ((eventTypes.filter p).map (·.objectMeta)) := (hsub.map identity).nodup hd
  have hsame : (sortEventTypes (eventTypes.filter p)).Perm ((sortEventTypes eventTypes).filter p) :=
    (sortEventTypes_perm _).trans ((sortEventTypes_perm _).symm.filter p)
  have hasymm : ∀ a b : EventTypeResource, a ∈ sortEventTypes (eventTypes.filter p) →
      b ∈ (sortEventTypes eventTypes).filter p → identity a.objectMeta < identity b.objectMeta →
      identity b.objectMeta < identity a.objectMeta → a=b :=
    fun _ _ _ _ hlt hgt => absurd hgt hlt.not_gt
  exact hsame.eq_of_pairwise hasymm (sortEventTypes_strict hkept)
    ((sortEventTypes_strict hd).sublist List.filter_sublist)

section Run

variable (ns : String) {lib : Libraries} {cluster : Cluster} (f : Fetched lib (snapshot cluster))

/-- The converted brokers of the namespace. -/
theorem convertedBrokers_fetchedIn :
    (fetchedIn ns f).convertedBrokers=f.convertedBrokers.filter (·.nameSpace=ns) := by
  unfold Fetched.convertedBrokers
  rw [List.filter_map]
  rfl

/-- No subscription of the namespace stops the run if none of all does. -/
theorem firstStop_fetchedIn (h : firstStop f=none) : firstStop (fetchedIn ns f)=none := by
  have hall : ∀ subscription ∈ f.subscriptions,
      subscriptionStop lib cluster.dynamicClient subscription=none := by
    intro subscription hmem
    have hindex := List.getElem?_of_mem hmem
    rcases hindex with ⟨i,hi⟩
    exact List.findSome?_eq_none_iff.mp h (subscription,i) (List.mem_zipIdx_iff_getElem?.mpr hi)
  refine List.findSome?_eq_none_iff.mpr fun subscription hmem => ?_
  have hkept : subscription.1 ∈ f.subscriptions.filter (·.nameSpace=ns) :=
    List.fst_mem_of_mem_zipIdx hmem
  exact hall subscription.1 (List.mem_filter.mp hkept).1

/-- An event type refers to its own namespace. -/
theorem nameSpace_of_reference {et : EventType} (het : et ∈ f.convertedEventTypes)
    {reference : GroupKindNamespacedName} (hr : et.reference=some reference) :
    reference.nameSpace=et.nameSpace := by
  have hconverted := (mem_convertedEventTypes f).mp het
  rcases hconverted with ⟨resource,_,rfl⟩
  have href := Option.map_eq_some_iff.mp hr
  rcases href with ⟨ref,_,rfl⟩
  rfl

/-- The event types that refer to a resource are in its namespace. -/
theorem referring_filter {resource : GroupKindNamespacedName} (h : resource.nameSpace=ns) :
    referring (f.convertedEventTypes.filter (·.nameSpace=ns)) resource=
      referring f.convertedEventTypes resource := by
  unfold referring
  rw [List.filter_filter]
  congr 1
  refine List.filter_congr fun et het => ?_
  by_cases hr : et.reference=some resource
  · have hns : et.nameSpace=ns := (nameSpace_of_reference f het hr).symm.trans h
    simp [hr,hns]
  · simp [hr]

/-- A trigger in another namespace contributes no consumer, and one in the same
namespace the same as in the whole cluster. -/
theorem triggerConsumer_inNamespace {et : EventType} (het : et ∈ f.convertedEventTypes)
    (hns : et.nameSpace=ns) (trigger : TriggerResource) :
    triggerConsumer lib cluster.dynamicClient f.brokers trigger et=
      if trigger.nameSpace=ns then
        triggerConsumer lib cluster.dynamicClient (fetchedIn ns f).brokers trigger et
      else none := by
  rw [triggerConsumer_eq,triggerConsumer_eq]
  by_cases hsame : trigger.nameSpace=ns
  · have hlisted : brokerListed f.brokers trigger ↔ brokerListed (fetchedIn ns f).brokers trigger := by
      unfold brokerListed fetchedIn
      simp only [List.mem_filter,decide_eq_true_eq]
      refine and_congr_right fun _ => exists_congr fun br => ?_
      constructor
      · intro hbr
        exact ⟨⟨hbr.1,hbr.2.1.trans hsame⟩,hbr.2⟩
      · intro hbr
        exact ⟨hbr.1.1,hbr.2⟩
    have hsubscribed : subscribedTo f.brokers trigger et ↔
        subscribedTo (fetchedIn ns f).brokers trigger et := and_congr_left fun _ => hlisted
    rw [if_pos hsame]
    exact if_congr (and_congr_right fun _ => hsubscribed) rfl rfl
  · have hnone : ¬ subscribedTo f.brokers trigger et := by
      intro hsubscribed
      have hreference := nameSpace_of_reference f het hsubscribed.2.1
      exact hsame (hreference.trans hns)
    simp [hnone,hsame]

/-- One snapshot answers alike for all triggers. -/
theorem triggerConsumers_snapshot (et : EventType) : triggerConsumers f et=
    f.triggers.filterMap fun trigger =>
      triggerConsumer lib cluster.dynamicClient f.brokers trigger et := by
  have hmap := congrArg (List.filterMap fun trigger =>
    triggerConsumer lib cluster.dynamicClient f.brokers trigger et) (List.zipIdx_map_fst 0 f.triggers)
  rw [List.filterMap_map] at hmap
  exact hmap

/-- The triggers of the namespace contribute all consumers of its event types. -/
theorem triggerConsumers_fetchedIn {et : EventType} (het : et ∈ f.convertedEventTypes)
    (hns : et.nameSpace=ns) : triggerConsumers (fetchedIn ns f) et=triggerConsumers f et := by
  have hone := triggerConsumer_inNamespace ns f het hns
  have hpart := triggerConsumers_snapshot (fetchedIn ns f) et
  rw [triggerConsumers_snapshot f et,hpart]
  dsimp only [fetchedIn]
  rw [List.filterMap_filter]
  refine List.filterMap_congr fun trigger _ => ?_
  rw [hone]
  simp only [decide_eq_true_eq]
  rfl

variable (ha : Admitted f)

include ha

/-- The converted event types of the namespace. -/
theorem convertedEventTypes_fetchedIn :
    (fetchedIn ns f).convertedEventTypes=f.convertedEventTypes.filter (·.nameSpace=ns) := by
  have hsorted : sortEventTypes (fetchedIn ns f).eventTypes=
      (sortEventTypes f.eventTypes).filter (·.objectMeta.nameSpace=ns) :=
    sortEventTypes_filter ha.eventTypes
  unfold Fetched.convertedEventTypes
  rw [hsorted,List.filter_map]
  rfl

/-- The resources of one namespace are admitted like those of all. -/
theorem admitted_fetchedIn : Admitted (fetchedIn ns f) := by
  have hbrokers : ((fetchedIn ns f).brokers.map (·.objectMeta)).Sublist
      (f.brokers.map (·.objectMeta)) := List.filter_sublist.map _
  have heventTypes : ((fetchedIn ns f).eventTypes.map (·.objectMeta)).Sublist
      (f.eventTypes.map (·.objectMeta)) := List.filter_sublist.map _
  have hsubscribables : (fetchedIn ns f).subscribables.toList.Sublist f.subscribables.toList := by
    have hkept : (fetchedIn ns f).subscribables.toList=_ := toList_keep _ f.subscribables
    rw [hkept]
    exact List.filter_sublist
  exact
    { brokers := (hbrokers.map identity).nodup ha.brokers
      brokersFree := fun m hm => ha.brokersFree m (hbrokers.subset hm)
      subscribables := (hsubscribables.map subscribableIdentity).nodup ha.subscribables
      subscribablesFree := fun s hs => ha.subscribablesFree s (hsubscribables.subset hs)
      eventTypes := (heventTypes.map identity).nodup ha.eventTypes
      eventTypesFree := fun m hm => ha.eventTypesFree m (heventTypes.subset hm) }

/-- The specified brokers of the namespace. -/
theorem specifyBroker_fetchedIn :
    ((fetchedIn ns f).convertedBrokers.map (specifyBroker (fetchedIn ns f).convertedEventTypes))=
      (f.convertedBrokers.map (specifyBroker f.convertedEventTypes)).filter (·.nameSpace=ns) := by
  rw [convertedBrokers_fetchedIn,convertedEventTypes_fetchedIn ns f ha]
  refine map_filter_eq ?_ ?_
  · exact fun _ => rfl
  intro br _ hbr
  have hns : (brokerIdentity br).nameSpace=ns := of_decide_eq_true hbr
  unfold specifyBroker
  rw [referring_filter ns f hns]

/-- The specified subscribables of the namespace. -/
theorem specifySubscribable_fetchedIn :
    ((fetchedIn ns f).subscribables.toList.map (specifySubscribable
        (fetchedIn ns f).convertedEventTypes (fetchedIn ns f).convertedBrokers))=
      (f.subscribables.toList.map (specifySubscribable f.convertedEventTypes
        f.convertedBrokers)).filter (·.nameSpace=ns) := by
  have hkept : (fetchedIn ns f).subscribables.toList=
      f.subscribables.toList.filter (·.nameSpace=ns) := toList_keep _ _
  rw [hkept,convertedBrokers_fetchedIn,convertedEventTypes_fetchedIn ns f ha]
  refine map_filter_eq ?_ ?_
  · exact fun _ => rfl
  intro s _ hs
  have hns : (subscribableIdentity s).nameSpace=ns := of_decide_eq_true hs
  have hbroker : (∃ br ∈ f.convertedBrokers.filter (·.nameSpace=ns),
      brokerIdentity br=subscribableIdentity s) ↔
      ∃ br ∈ f.convertedBrokers, brokerIdentity br=subscribableIdentity s := by
    refine exists_congr fun br => ?_
    rw [List.mem_filter,decide_eq_true_eq]
    constructor
    · intro hbr
      exact ⟨hbr.1.1,hbr.2⟩
    · intro hbr
      have hbrNs : br.nameSpace=(subscribableIdentity s).nameSpace :=
        congrArg GroupKindNamespacedName.nameSpace hbr.2
      exact ⟨⟨hbr.1,hbrNs.trans hns⟩,hbr.2⟩
  unfold specifySubscribable
  simp only [hbroker,referring_filter ns f hns]

/-- The specified event types of the namespace. -/
theorem specifyEventType_fetchedIn :
    (fetchedIn ns f).convertedEventTypes.map (specifyEventType (fetchedIn ns f))=
      (f.convertedEventTypes.map (specifyEventType f)).filter (·.nameSpace=ns) := by
  rw [convertedEventTypes_fetchedIn ns f ha]
  refine map_filter_eq ?_ ?_
  · exact fun _ => rfl
  intro et het hns
  have hns' : et.nameSpace=ns := of_decide_eq_true hns
  unfold specifyEventType
  rw [triggerConsumers_fetchedIn ns f het hns']

/-- The names that a source of any namespace announces in the namespace. -/
theorem announcedNames_filter (source : Source) :
    announcedNames (f.convertedEventTypes.filter (·.nameSpace=ns)) source=
      (announcedNames f.convertedEventTypes source).filter fun name =>
        ∃ et ∈ f.convertedEventTypes.map (specifyEventType f),
          et.nameSpace=ns ∧ et.namespacedName=name := by
  have hnames := namespacedNames_nodup f ha.eventTypes ha.eventTypesFree
  unfold announcedNames
  rw [List.filter_flatMap]
  refine List.flatMap_congr fun providedType _ => ?_
  rw [List.filter_map,List.filter_filter,List.filter_filter]
  congr 1
  refine List.filter_congr fun et het => ?_
  -- names are distinct, so that a name stands for one event type
  have hown : (∃ other ∈ f.convertedEventTypes.map (specifyEventType f),
      other.nameSpace=ns ∧ other.namespacedName=et.namespacedName) ↔ et.nameSpace=ns := by
    constructor
    · intro hother
      rcases hother with ⟨_,hmem,hns,hname⟩
      have hspecified := List.mem_map.mp hmem
      rcases hspecified with ⟨other,hother,rfl⟩
      have hsame : other=et := List.inj_on_of_nodup_map hnames hother het hname
      exact hsame ▸ hns
    · intro hns
      exact ⟨_,List.mem_map_of_mem het,hns,rfl⟩
  simp only [Function.comp_def,hown]
  exact Bool.and_comm _ _

/-- The specified sources of the namespace, which list the event types of the
namespace only. -/
theorem specifySource_fetchedIn :
    (fetchedIn ns f).sources.toList.map (specifySource (fetchedIn ns f).convertedEventTypes)=
      ((f.sources.toList.map (specifySource f.convertedEventTypes)).filter (·.nameSpace=ns)).map
        (keepNames ns (f.convertedEventTypes.map (specifyEventType f))) := by
  have hkept : (fetchedIn ns f).sources.toList=f.sources.toList.filter (·.nameSpace=ns) :=
    toList_keep _ _
  rw [hkept,convertedEventTypes_fetchedIn ns f ha,List.filter_map,List.map_map]
  refine List.map_congr_left fun source _ => ?_
  have hannounced := announcedNames_filter ns f ha source
  unfold specifySource
  rw [hannounced]
  rfl

/-- The mesh that one namespace specifies is what the mesh of all says about it. -/
theorem specification_fetchedIn :
    specification (fetchedIn ns f)=onlyNamespace ns (specification f) := by
  have hbrokers := specifyBroker_fetchedIn ns f ha
  have hsubscribables := specifySubscribable_fetchedIn ns f ha
  have hsources := specifySource_fetchedIn ns f ha
  have heventTypes := specifyEventType_fetchedIn ns f ha
  unfold specification
  rw [hbrokers,hsubscribables,hsources,heventTypes]
  rfl

end Run

/-- If a run over all namespaces succeeds, a run that lists one namespace only
succeeds as well, and returns what the whole mesh says about this namespace. -/
theorem buildEventMesh_inNamespace (ns : String) {lib : Libraries} {cluster : Cluster}
    (f : Fetched lib (snapshot cluster)) (ha : Admitted f) {mesh : EventMesh}
    (h : buildEventMesh lib (snapshot cluster)=.ok mesh) :
    buildEventMesh lib (snapshot (inNamespace ns cluster))=.ok (onlyNamespace ns mesh) := by
  have hwhole := specified_of_buildEventMesh f ha h
  have hpart := firstStop_fetchedIn ns f hwhole.1
  rw [buildEventMesh_of_unstopped (fetchedIn ns f) (admitted_fetchedIn ns f ha) hpart,hwhole.2,
    specification_fetchedIn ns f ha]

/-- The shop alone has its own broker, channel and consumers, and its source
no longer lists the event type of the bank. -/
theorem buildEventMesh_inNamespace_shop :
    buildEventMesh orderLibraries (snapshot (inNamespace "shop" twoTenants.cluster))=
      .ok (onlyNamespace "shop" (specification twoTenantsFetched)) ∧
    (onlyNamespace "shop" (specification twoTenantsFetched)).sources.toList.map
      (·.providedEventTypes)=[.of ["shop/order"]] :=
  ⟨buildEventMesh_inNamespace "shop" twoTenantsFetched admitted_twoTenants
    (buildEventMesh_of_unstopped _ admitted_twoTenants (by decide)),by decide⟩

end KnativeMesh.Namespaces
