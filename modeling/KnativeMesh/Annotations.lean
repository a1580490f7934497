import KnativeMesh.Failures

/-!
# Annotations that are not read, and annotations that end a run

On a cluster where every list call succeeds the fetches of a run end at a CRD
only: at one that the decoder does not accept, or at a source CRD that has an
instance and an annotation that does not decode. The first of them in listing
order decides how the run ends, and at a CRD that crashes the decoder it is a
panic in place of an error. The annotation of a CRD without instances is never
read.
-/

namespace KnativeMesh.Annotations

open Go Library.JsonTree UnstructuredObject Kubernetes Apimachinery Converters Builder Mesh Runs
open Keys Listing Fetches ClusterContents Decoding SourceTypes Failures

/-- The decoder accepts the CRD. -/
def Decodes (crd : Unstructured) : Prop := ∃ gvr, DecodesAs (stringAt crd) (versionList crd) gvr

/-- What the list calls of a run return on a cluster where all of them succeed:
those for objects of a fixed kind, and that for the instances of each CRD. -/
structure Lists (cluster : Cluster) where
  brokers : List BrokerResource
  subscribableCRDs : List Unstructured
  sourceCRDs : List Unstructured
  eventTypes : List EventTypeResource
  triggers : List TriggerResource
  subscriptions : List SubscriptionResource
  brokers_ok : cluster.clientset.brokers=.ok brokers
  subscribableCRDs_ok :
    cluster.dynamicClient.list crdResource subscribableSelector=.ok subscribableCRDs
  sourceCRDs_ok : cluster.dynamicClient.list crdResource sourceSelector=.ok sourceCRDs
  eventTypes_ok : cluster.clientset.eventTypes=.ok eventTypes
  triggers_ok : cluster.clientset.triggers=.ok triggers
  subscriptions_ok : cluster.clientset.subscriptions=.ok subscriptions
  instances_ok : ∀ crd ∈ subscribableCRDs++sourceCRDs, ∀ gvr,
    DecodesAs (stringAt crd) (versionList crd) gvr →
      ∃ resources, cluster.dynamicClient.list gvr noSelector=.ok resources

/-- An instance of the resource that the CRD defines is listed. -/
def HasInstance (cluster : Cluster) (crd : Unstructured) : Prop :=
  ∃ gvr resources, DecodesAs (stringAt crd) (versionList crd) gvr ∧
    cluster.dynamicClient.list gvr noSelector=.ok resources ∧ resources≠[]

/-- The annotation of the CRD does not decode, and there is an instance. -/
def RejectedInUse (lib : Libraries) (cluster : Cluster) (crd : Unstructured) : Prop :=
  HasInstance cluster crd ∧ Rejected lib crd

/-- A CRD of the list crashes the decoder, and the loop gets past all before it. -/
def CrashesIn (crds : List Unstructured) (passes : Unstructured → Prop) : Prop :=
  ∃ before crd after, crds=before++crd::after ∧ (∀ earlier ∈ before, passes earlier) ∧ Crashing crd

/-- The first CRD at which a run ends crashes the decoder. Subscribable CRDs
come before source CRDs. -/
def CrashesFirst (lib : Libraries) {cluster : Cluster} (lists : Lists cluster) : Prop :=
  CrashesIn lists.subscribableCRDs Decodes ∨
    (∀ crd ∈ lists.subscribableCRDs, Decodes crd) ∧
      CrashesIn lists.sourceCRDs fun crd => Decodes crd ∧ ¬ RejectedInUse lib cluster crd

/-- A cluster with other source CRDs; every other call answers as before. -/
def withSourceCRDs (cluster : Cluster) (crds : List Unstructured) : Cluster :=
  { cluster with
    dynamicClient := { cluster.dynamicClient with
      list := fun gvr labelSelector =>
        if gvr=crdResource ∧ labelSelector=sourceSelector then .ok crds
        else cluster.dynamicClient.list gvr labelSelector } }

/-- Sources provide what the annotations of their CRDs list. A rejected
annotation of a CRD with an instance makes the run return an error. Without an
instance the annotation might be any other, and the CRD, if it decodes, might be
missing. -/
structure SourcesAnnotated (lib : Libraries) {cluster : Cluster} (lists : Lists cluster) : Prop where
  provide : ∀ mesh, buildEventMesh lib (snapshot cluster)=.ok mesh →
    SourcesProvide lib (snapshot cluster) mesh
  rejected : ∀ crd ∈ lists.sourceCRDs, HasInstance cluster crd → Rejected lib crd →
    ∃ err, buildEventMesh lib (snapshot cluster)=.error (.error err)
  unread : ∀ before crd after annotations, lists.sourceCRDs=before++crd::after →
    ¬ HasInstance cluster crd →
    buildEventMesh lib (snapshot cluster)=buildEventMesh lib (snapshot
      (withSourceCRDs cluster (before++{crd with getAnnotations := annotations}::after)))
  empty : ∀ before crd after, lists.sourceCRDs=before++crd::after → Decodes crd →
    ¬ HasInstance cluster crd →
    buildEventMesh lib (snapshot cluster)=
      buildEventMesh lib (snapshot (withSourceCRDs cluster (before++after)))

section Failing

variable {lib : Libraries} {cluster : Cluster} {crd : Unstructured}

/-- An annotation fails a run exactly if it is rejected. -/
theorem annotationFailure_eq_none_iff : annotationFailure lib crd=none ↔ ¬ Rejected lib crd := by
  unfold annotationFailure Rejected
  cases crd.getAnnotations.get eventTypesAnnotationKey with
  | none => simp
  | some text => by_cases hdecodes : lib.unmarshalEventTypes text=none <;> simp [hdecodes]

/-- A CRD that does not decode is left with the exit of its decoder. -/
theorem not_decodes_iff : ¬ Decodes crd ↔ ∃ exit, gvrFromUnstructured crd=.error exit := by
  have hdecoder := gvrFromUnstructured_eq_ok_iff crd
  unfold Decodes
  cases hgvr : gvrFromUnstructured crd with
  | ok gvr => simpa using ⟨gvr,(hdecoder gvr).mp hgvr⟩
  | error exit =>
    rw [not_exists]
    refine ⟨fun _ => ⟨exit,rfl⟩,fun _ gvr hgvr' => ?_⟩
    cases hgvr.symm.trans ((hdecoder gvr).mpr hgvr')

/-- A CRD has an instance if one of the resource that its decoder returns is
listed. -/
theorem hasInstance_iff {gvr : GroupVersionResource} {resources : List Unstructured}
    (hgvr : gvrFromUnstructured crd=.ok gvr)
    (hlist : cluster.dynamicClient.list gvr noSelector=.ok resources) :
    HasInstance cluster crd ↔ resources≠[] := by
  have hdecoder := gvrFromUnstructured_eq_ok_iff crd
  constructor
  · rintro ⟨gvr',resources',hgvr',hlist',hne⟩
    cases hgvr.symm.trans ((hdecoder gvr').mpr hgvr')
    cases hlist.symm.trans hlist'
    exact hne
  · exact fun hne => ⟨gvr,resources,(hdecoder gvr).mp hgvr,hlist,hne⟩

variable (hinstances : ∀ gvr, DecodesAs (stringAt crd) (versionList crd) gvr →
  ∃ resources, cluster.dynamicClient.list gvr noSelector=.ok resources)
include hinstances

/-- A run gets past a subscribable CRD exactly if it decodes. -/
theorem subscribablesFailure_eq_none_iff :
    subscribablesFailure lib cluster.dynamicClient crd=none ↔ Decodes crd := by
  have hdecodes := @not_decodes_iff crd
  unfold subscribablesFailure
  cases hgvr : gvrFromUnstructured crd with
  | error exit =>
    rw [hgvr] at hdecodes
    simpa using hdecodes.mpr ⟨exit,rfl⟩
  | ok gvr =>
    have hgvr' := (gvrFromUnstructured_eq_ok_iff crd gvr).mp hgvr
    rcases hinstances gvr hgvr' with ⟨resources,hlist⟩
    dsimp only
    rw [hlist]
    exact ⟨fun _ => ⟨gvr,hgvr'⟩,fun _ => rfl⟩

/-- A run gets past a source CRD exactly if it decodes and its annotation does,
as far as it is read. -/
theorem sourcesFailure_eq_none_iff :
    sourcesFailure lib cluster.dynamicClient crd=none ↔
      Decodes crd ∧ ¬ RejectedInUse lib cluster crd := by
  have hdecodes := @not_decodes_iff crd
  unfold sourcesFailure RejectedInUse
  cases hgvr : gvrFromUnstructured crd with
  | error exit =>
    rw [hgvr] at hdecodes
    simpa using fun h => absurd h (hdecodes.mpr ⟨exit,rfl⟩)
  | ok gvr =>
    have hgvr' := (gvrFromUnstructured_eq_ok_iff crd gvr).mp hgvr
    have hdec : Decodes crd := ⟨gvr,hgvr'⟩
    rcases hinstances gvr hgvr' with ⟨resources,hlist⟩
    rw [hasInstance_iff hgvr hlist]
    dsimp only
    rw [hlist]
    by_cases hempty : resources=[] <;>
      simp [toleratedFailure,listed,hempty,hdec,annotationFailure_eq_none_iff]

end Failing

section Ending

variable {lib : Libraries} {cluster : Cluster} (lists : Lists cluster)

/-- On a snapshot the CRDs of a fetch are looked at one after the other. -/
theorem crdsFailure_snapshot (crds : List Unstructured) (each : Unstructured → Option Exit) :
    crdsFailure lib (.ok crds) (fun crd => each crd.1)=crds.findSome? each := by
  have hnumbered : crds.zipIdx.findSome? (each ∘ Prod.fst)=crds.findSome? each := by
    rw [←List.findSome?_map,List.zipIdx_map_fst]
  exact hnumbered

/-- Where all lists succeed a run fails at a subscribable CRD, or else at a
source CRD, or else later. -/
theorem failure_of_lists (lib : Libraries) : ∃ later, failure (buildEventMesh lib (snapshot cluster))=
    (lists.subscribableCRDs.findSome? (subscribablesFailure lib cluster.dynamicClient)).or
      ((lists.sourceCRDs.findSome? (sourcesFailure lib cluster.dynamicClient)).or later) := by
  rw [failure_eq_firstFailure]
  unfold firstFailure subscribableFailure sourceFailure subscribableCRDs sourceCRDs snapshot
  rw [lists.brokers_ok,lists.subscribableCRDs_ok,lists.sourceCRDs_ok,crdsFailure_snapshot,
    crdsFailure_snapshot]
  simp only [first_cons,callFailure,failure_ok,Option.map_none,Option.none_or]
  exact ⟨_,rfl⟩

/-- A loop over CRDs panics at one that crashes the decoder, once it has passed
those before it. -/
theorem findSome?_eq_panic_iff_crashesIn {crds : List Unstructured}
    {each : Unstructured → Option Exit} {passes : Unstructured → Prop}
    (hcrash : ∀ crd, each crd=some .panic ↔ Crashing crd)
    (hpass : ∀ crd ∈ crds, each crd=none ↔ passes crd) :
    crds.findSome? each=some .panic ↔ CrashesIn crds passes := by
  rw [findSome?_eq_panic_iff hcrash]
  unfold Reaches CrashesIn
  refine exists_congr fun before => exists_congr fun crd => exists_congr fun after =>
    and_congr_right fun hsplit => and_congr_left fun _ => forall₂_congr fun earlier hearlier => ?_
  rw [hsplit] at hpass
  exact hpass earlier (List.mem_append_left _ hearlier)

/-- The loops over subscribable and source CRDs know which of these they pass. -/
theorem passes_iff (lib : Libraries) :
    (∀ crd ∈ lists.subscribableCRDs,
      subscribablesFailure lib cluster.dynamicClient crd=none ↔ Decodes crd) ∧
    ∀ crd ∈ lists.sourceCRDs, sourcesFailure lib cluster.dynamicClient crd=none ↔
      Decodes crd ∧ ¬ RejectedInUse lib cluster crd := by
  refine ⟨fun crd hcrd => ?_,fun crd hcrd => ?_⟩
  · exact subscribablesFailure_eq_none_iff
      (lists.instances_ok crd (List.mem_append_left _ hcrd))
  · exact sourcesFailure_eq_none_iff (lists.instances_ok crd (List.mem_append_right _ hcrd))

variable (hrejected : ∃ crd ∈ lists.sourceCRDs, RejectedInUse lib cluster crd)
include hrejected

/-- A rejected annotation in use ends the loop over source CRDs, there or before. -/
theorem sources_findSome?_ne_none :
    lists.sourceCRDs.findSome? (sourcesFailure lib cluster.dynamicClient)≠none := by
  rcases hrejected with ⟨crd,hcrd,hinuse⟩
  intro hnone
  have hpassed := List.findSome?_eq_none_iff.mp hnone crd hcrd
  exact (((passes_iff lists lib).2 crd hcrd).mp hpassed).2 hinuse

/-- A rejected annotation in use keeps a run from returning a mesh. -/
theorem not_ok_of_rejectedInUse (mesh : EventMesh) :
    buildEventMesh lib (snapshot cluster)≠.ok mesh := by
  intro hmesh
  rcases failure_of_lists lists lib with ⟨later,hfailure⟩
  rw [hmesh,failure_ok,eq_comm,Option.or_eq_none_iff,Option.or_eq_none_iff] at hfailure
  exact sources_findSome?_ne_none lists hrejected hfailure.2.1

/-- The run then ends with a panic exactly if the first CRD to end it crashes the
decoder. -/
theorem panics_iff_crashesFirst :
    buildEventMesh lib (snapshot cluster)=.error .panic ↔ CrashesFirst lib lists := by
  have hpasses := passes_iff lists lib
  have hends := sources_findSome?_ne_none lists hrejected
  have hnone : lists.subscribableCRDs.findSome? (subscribablesFailure lib cluster.dynamicClient)=
      none ↔ ∀ crd ∈ lists.subscribableCRDs, Decodes crd := by
    rw [List.findSome?_eq_none_iff]
    exact forall₂_congr hpasses.1
  rcases failure_of_lists lists lib with ⟨later,hfailure⟩
  unfold CrashesFirst
  rw [←failure_eq_some_iff,hfailure,Option.or_eq_some_iff,Option.or_eq_some_iff,hnone,
    or_iff_left (fun hlater => hends hlater.1 : ¬ (_ ∧ later=some .panic))]
  rw [findSome?_eq_panic_iff_crashesIn
      (fun crd => subscribablesFailure_eq_panic_iff lib cluster.dynamicClient crd) hpasses.1,
    findSome?_eq_panic_iff_crashesIn
      (fun crd => sourcesFailure_eq_panic_iff lib cluster.dynamicClient crd) hpasses.2]

end Ending

section Unread

variable {lib : Libraries} {cluster : Cluster} {before after : List Unstructured}
  {crd : Unstructured} {annotations : StringMap}

/-- The changed list call of such a cluster. -/
theorem list_withSourceCRDs_self (crds : List Unstructured) :
    (withSourceCRDs cluster crds).dynamicClient.list crdResource sourceSelector=.ok crds := by
  dsimp only [withSourceCRDs]
  rw [if_pos ⟨rfl,rfl⟩]

/-- List calls under another selector are unchanged. -/
theorem list_withSourceCRDs_of_ne (crds : List Unstructured) (gvr : GroupVersionResource)
    {labelSelector : String} (h : labelSelector≠sourceSelector) :
    (withSourceCRDs cluster crds).dynamicClient.list gvr labelSelector=
      cluster.dynamicClient.list gvr labelSelector := by
  dsimp only [withSourceCRDs]
  rw [if_neg fun hp => h hp.2]

/-- Other source CRDs leave the list of instances of every resource. -/
theorem listInstances_withSourceCRDs (crds : List Unstructured) (gvr : GroupVersionResource) :
    listInstances lib (withSourceCRDs cluster crds).dynamicClient gvr=
      listInstances lib cluster.dynamicClient gvr := by
  have hlist : (withSourceCRDs cluster crds).dynamicClient.list gvr noSelector=
      cluster.dynamicClient.list gvr noSelector :=
    list_withSourceCRDs_of_ne crds gvr (by decide)
  dsimp only [listInstances]
  rw [hlist]

/-- Other source CRDs leave the fetch of subscribables. -/
theorem fetchSubscribables_withSourceCRDs (crds : List Unstructured) :
    fetchSubscribables lib (snapshot (withSourceCRDs cluster crds))=
      fetchSubscribables lib (snapshot cluster) := by
  have hlist : (withSourceCRDs cluster crds).dynamicClient.list crdResource subscribableSelector=
      cluster.dynamicClient.list crdResource subscribableSelector :=
    list_withSourceCRDs_of_ne crds crdResource (by decide)
  have hstep : subscribablesOf lib (withSourceCRDs cluster crds).dynamicClient=
      subscribablesOf lib cluster.dynamicClient := by
    funext other
    dsimp only [subscribablesOf]
    simp only [listInstances_withSourceCRDs]
  dsimp only [fetchSubscribables,snapshot]
  rw [hlist,hstep]

/-- A run over other source CRDs that give the same sources ends alike. -/
theorem buildEventMesh_withSourceCRDs {crds crds' : List Unstructured}
    (hlist : cluster.dynamicClient.list crdResource sourceSelector=.ok crds)
    (hsources : collect (sourcesOf lib cluster.dynamicClient) crds=
      collect (sourcesOf lib cluster.dynamicClient) crds') :
    buildEventMesh lib (snapshot cluster)=
      buildEventMesh lib (snapshot (withSourceCRDs cluster crds')) := by
  have hlist' : (withSourceCRDs cluster crds').dynamicClient.list crdResource sourceSelector=
      .ok crds' := list_withSourceCRDs_self crds'
  have hstep : sourcesOf lib (withSourceCRDs cluster crds').dynamicClient=
      sourcesOf lib cluster.dynamicClient := by
    funext other
    dsimp only [sourcesOf]
    simp only [listInstances_withSourceCRDs]
  have hfetched : fetchSources lib (snapshot cluster)=
      fetchSources lib (snapshot (withSourceCRDs cluster crds')) := by
    dsimp only [fetchSources,snapshot]
    rw [hlist,hlist']
    dsimp only [fetchThroughCRDs]
    rw [collect_zipIdx,collect_zipIdx,hstep,hsources]
  have htriggers : processTriggers lib (snapshot (withSourceCRDs cluster crds'))=
      processTriggers lib (snapshot cluster) := processTriggers_congr fun _ _ => rfl
  have hsubscriptions : processSubscriptions lib (snapshot (withSourceCRDs cluster crds'))=
      processSubscriptions lib (snapshot cluster) := processSubscriptions_congr fun _ _ => rfl
  dsimp only [buildEventMesh]
  rw [fetchSubscribables_withSourceCRDs,hfetched,htriggers,hsubscriptions]
  rfl

/-- The sources of a CRD without instances: none, or the exit of its decoder. -/
theorem sourcesOf_of_not_hasInstance
    (hinstances : ∀ gvr, DecodesAs (stringAt crd) (versionList crd) gvr →
      ∃ resources, cluster.dynamicClient.list gvr noSelector=.ok resources)
    (hempty : ¬ HasInstance cluster crd) :
    sourcesOf lib cluster.dynamicClient crd=gvrFromUnstructured crd >>= fun _ => .ok [] := by
  dsimp only [sourcesOf]
  cases hgvr : gvrFromUnstructured crd with
  | error exit => rfl
  | ok gvr =>
    rcases hinstances gvr ((gvrFromUnstructured_eq_ok_iff crd gvr).mp hgvr) with ⟨resources,hlist⟩
    rw [hasInstance_iff hgvr hlist,not_ne_iff] at hempty
    have hresources : listInstances lib cluster.dynamicClient gvr=.ok [] :=
      listInstances_eq_ok_iff.mpr (.inl (hempty ▸ hlist))
    change (listInstances lib cluster.dynamicClient gvr >>= fun resources => _)=_
    rw [hresources]
    rfl

end Unread

section Parts

variable {lib : Libraries} {cluster : Cluster} (lists : Lists cluster)

/-- A mesh that a run returns has the sources as their CRDs are annotated. -/
theorem sourcesProvide_of_lists (hd : Distinct (lists.eventTypes.map (·.objectMeta)))
    (hfree : ∀ resource ∈ lists.eventTypes, SlashFree resource.objectMeta.nameSpace)
    {mesh : EventMesh} (hmesh : buildEventMesh lib (snapshot cluster)=.ok mesh) :
    SourcesProvide lib (snapshot cluster) mesh := by
  rcases exists_fetched hmesh with ⟨f⟩
  have hsame : f.eventTypes=lists.eventTypes :=
    Except.ok.inj (f.eventTypes_ok.symm.trans lists.eventTypes_ok)
  rw [←hsame] at hd hfree
  rcases f.buildEventMesh_eq_ok_iff.mp hmesh with ⟨store,hstore,rfl⟩
  exact sourcesProvide f hd hfree hstore

/-- A rejected annotation in use makes the run return an error, if none of the
CRDs that the run comes to crashes the decoder. -/
theorem exists_error_of_rejectedInUse
    (hrejected : ∃ crd ∈ lists.sourceCRDs, RejectedInUse lib cluster crd)
    (hcrash : ¬ CrashesFirst lib lists) :
    ∃ err, buildEventMesh lib (snapshot cluster)=.error (.error err) := by
  rw [←panics_iff_crashesFirst lists hrejected] at hcrash
  cases hrun : buildEventMesh lib (snapshot cluster) with
  | ok mesh => exact absurd hrun (not_ok_of_rejectedInUse lists hrejected mesh)
  | error exit =>
    cases exit with
    | error err => exact ⟨err,rfl⟩
    | panic => exact absurd hrun hcrash

variable {before after : List Unstructured} {crd : Unstructured}
  (hsplit : lists.sourceCRDs=before++crd::after) (hempty : ¬ HasInstance cluster crd)

include hsplit in
/-- The instances of a source CRD were listed, if it decodes. -/
theorem instances_ok_of_split : ∀ gvr, DecodesAs (stringAt crd) (versionList crd) gvr →
    ∃ resources, cluster.dynamicClient.list gvr noSelector=.ok resources := by
  apply lists.instances_ok crd
  rw [hsplit]
  exact List.mem_append_right _ (List.mem_append_right _ List.mem_cons_self)

include hsplit hempty

/-- Without an instance a CRD may have any other annotation. -/
theorem buildEventMesh_of_unread (annotations : StringMap) :
    buildEventMesh lib (snapshot cluster)=buildEventMesh lib (snapshot
      (withSourceCRDs cluster (before++{crd with getAnnotations := annotations}::after))) := by
  have hinstances := instances_ok_of_split lists hsplit
  have hsame := @sourcesOf_of_not_hasInstance lib cluster crd hinstances hempty
  -- neither the decoder nor the list looks at annotations
  have hother := @sourcesOf_of_not_hasInstance lib cluster {crd with getAnnotations := annotations}
    hinstances hempty
  exact buildEventMesh_withSourceCRDs (hsplit ▸ lists.sourceCRDs_ok)
    (collect_replace (hsame.trans hother.symm) before after)

/-- Without an instance a CRD that decodes may be missing. -/
theorem buildEventMesh_of_empty (hdecodes : Decodes crd) :
    buildEventMesh lib (snapshot cluster)=
      buildEventMesh lib (snapshot (withSourceCRDs cluster (before++after))) := by
  rcases hdecodes with ⟨gvr,hgvr⟩
  have hsources : sourcesOf lib cluster.dynamicClient crd=.ok [] := by
    rw [sourcesOf_of_not_hasInstance (instances_ok_of_split lists hsplit) hempty,
      (gvrFromUnstructured_eq_ok_iff crd gvr).mpr hgvr]
    rfl
  exact buildEventMesh_withSourceCRDs (hsplit ▸ lists.sourceCRDs_ok)
    (collect_append_cons hsources before after)

end Parts

/-- Sources provide what the annotations of their CRDs list, and a rejected
annotation in use is answered with an error, exactly if no CRD that crashes the
decoder ends the run before the annotation is read. -/
theorem sourcesAnnotated_iff {lib : Libraries} {cluster : Cluster} (lists : Lists cluster)
    (hd : Distinct (lists.eventTypes.map (·.objectMeta)))
    (hfree : ∀ resource ∈ lists.eventTypes, SlashFree resource.objectMeta.nameSpace) :
    SourcesAnnotated lib lists ↔
      ((∃ crd ∈ lists.sourceCRDs, RejectedInUse lib cluster crd) → ¬ CrashesFirst lib lists) := by
  constructor
  · intro h hrejected hcrash
    have hpanic := (panics_iff_crashesFirst lists hrejected).mpr hcrash
    rcases hrejected with ⟨crd,hcrd,hinstance,htext⟩
    rcases h.rejected crd hcrd hinstance htext with ⟨err,herr⟩
    cases hpanic.symm.trans herr
  · intro h
    constructor
    · exact fun mesh hmesh => sourcesProvide_of_lists lists hd hfree hmesh
    · intro crd hcrd hinstance htext
      have hrejected : ∃ crd ∈ lists.sourceCRDs, RejectedInUse lib cluster crd :=
        ⟨crd,hcrd,hinstance,htext⟩
      exact exists_error_of_rejectedInUse lists hrejected (h hrejected)
    · exact fun before crd after annotations hsplit hempty =>
        buildEventMesh_of_unread lists hsplit hempty annotations
    · exact fun before crd after hsplit hdecodes hempty =>
        buildEventMesh_of_empty lists hsplit hempty hdecodes

/-- What a cluster that denies nothing lists. -/
def listsOf (contents : Contents) : Lists contents.cluster where
  brokers := contents.brokers
  subscribableCRDs := (contents.objectsOf crdResource).filter (selects subscribableSelector)
  sourceCRDs := (contents.objectsOf crdResource).filter (selects sourceSelector)
  eventTypes := contents.eventTypes
  triggers := contents.triggers
  subscriptions := contents.subscriptions
  brokers_ok := rfl
  subscribableCRDs_ok := rfl
  sourceCRDs_ok := rfl
  eventTypes_ok := rfl
  triggers_ok := rfl
  subscriptions_ok := rfl
  instances_ok := fun _ _ _ _ => ⟨_,rfl⟩

/-- A source CRD with an annotation. -/
def annotatedCRD (resource text : String) : Unstructured :=
  crdManifest ⟨"sources.knative.dev","v1",resource⟩ "duck.knative.dev/source"
    [(eventTypesAnnotationKey,text)]

/-- Its served version has a name. -/
theorem not_crashing_annotatedCRD (resource text : String) : ¬ Crashing (annotatedCRD resource text) := by
  rintro ⟨_,version,hfound,hname⟩
  cases hfound
  cases hname

/-- A source CRD whose annotation lists one type twice, and one without
instances whose annotation does not decode. Two namespaces have an event type
of the listed type. -/
def twiceAnnotated : Contents :=
  { brokers := []
    eventTypes :=
      [bareEventType "shop" "order" "shop.order" none,
       bareEventType "finance" "booking" "shop.order" none,
       bareEventType "shop" "refund" "shop.refund" none]
    triggers := []
    subscriptions := []
    objects :=
      [(crdResource,annotatedCRD "pingsources" "twice"),
       (crdResource,annotatedCRD "kafkasources" "broken"),
       (⟨"sources.knative.dev","v1","pingsources"⟩,manifest "PingSource" "shop" "tick" [])] }

/-- A decoder that knows the text with the repeated type, and not the broken one. -/
def twiceLibraries : Libraries :=
  librariesWith [("twice",[⟨"shop.order","",""⟩,⟨"shop.order","",""⟩])]

/-- What a run over the two CRDs fetches. -/
def twiceAnnotatedFetched : Fetched twiceLibraries (snapshot twiceAnnotated.cluster) :=
  @Contents.fetched twiceAnnotated twiceLibraries (.of [])
    (.of [⟨none,"sources.knative.dev","PingSource",some ∅,"tick","shop",
      .of ["shop.order","shop.order"],.of [],none,""⟩]) rfl rfl

/-- The source provides both event types of the type, twice, and the broken
annotation does no harm. Under a decoder that knows neither text the run ends
with an error. -/
theorem sourcesAnnotated_iff_twiceAnnotated :
    (∃ mesh, buildEventMesh twiceLibraries (snapshot twiceAnnotated.cluster)=.ok mesh ∧
      SourcesProvide twiceLibraries (snapshot twiceAnnotated.cluster) mesh ∧
      mesh.sources.toList.map (·.providedEventTypes)=
        [.of ["finance/booking","shop/order","finance/booking","shop/order"]]) ∧
    ∃ err, buildEventMesh (librariesWith []) (snapshot twiceAnnotated.cluster)=.error (.error err) := by
  have hd : Distinct (twiceAnnotated.eventTypes.map (·.objectMeta)) := by decide
  have hfree : ∀ resource ∈ twiceAnnotated.eventTypes, SlashFree resource.objectMeta.nameSpace := by
    decide
  have hcrash : ∀ lib, ¬ CrashesFirst lib (listsOf twiceAnnotated) := by
    rintro lib (⟨before,crd,after,hsplit,_,hcrashing⟩ | ⟨_,before,crd,after,hsplit,_,hcrashing⟩)
    · exact absurd hsplit (List.append_ne_nil_of_right_ne_nil before (List.cons_ne_nil crd after)).symm
    · have hmem : crd ∈ (listsOf twiceAnnotated).sourceCRDs := by
        rw [hsplit]
        exact List.mem_append_right before List.mem_cons_self
      change crd ∈ [annotatedCRD "pingsources" "twice",annotatedCRD "kafkasources" "broken"] at hmem
      have hcrd : crd=annotatedCRD "pingsources" "twice" ∨ crd=annotatedCRD "kafkasources" "broken" := by
        simpa using hmem
      rcases hcrd with rfl | rfl <;> exact not_crashing_annotatedCRD _ _ hcrashing
  have hannotated : ∀ lib, SourcesAnnotated lib (listsOf twiceAnnotated) := fun lib =>
    (sourcesAnnotated_iff (listsOf twiceAnnotated) hd hfree).mpr fun _ => hcrash lib
  have hmesh := twiceAnnotatedFetched.buildEventMesh_eq
  refine ⟨⟨_,hmesh,(hannotated twiceLibraries).provide _ hmesh,by decide⟩,?_⟩
  refine (hannotated (librariesWith [])).rejected _ List.mem_cons_self
    ⟨⟨"sources.knative.dev","v1","pingsources"⟩,_,?_,rfl,List.cons_ne_nil _ _⟩ ⟨"twice",?_,rfl⟩
  · exact (gvrFromUnstructured_eq_ok_iff _ _).mp rfl
  · decide

/-- A subscribable CRD whose served version has no name, and a ping source whose
CRD has an annotation that does not decode. -/
def namelessAndBroken : Contents :=
  { brokers := []
    eventTypes := []
    triggers := []
    subscriptions := []
    objects :=
      [(crdResource,unstructured (.obj
        [("kind",.str "CustomResourceDefinition"),
         ("metadata",.obj [("labels",.obj [("messaging.knative.dev/subscribable",.str "true")])]),
         ("spec",.obj [("group",.str "messaging.knative.dev"),
           ("versions",.arr [.obj [("served",.bool true)]]),
           ("names",.obj [("plural",.str "inmemorychannels")])])])),
       (crdResource,annotatedCRD "pingsources" "broken"),
       (⟨"sources.knative.dev","v1","pingsources"⟩,manifest "PingSource" "shop" "tick" [])] }

/-- All lists of this cluster succeed, and the run panics before it comes to
the annotation. -/
theorem namelessAndBroken_panics :
    buildEventMesh (librariesWith []) (snapshot namelessAndBroken.cluster)=.error .panic ∧
      ¬ SourcesAnnotated (librariesWith []) (listsOf namelessAndBroken) := by
  have hpanic : buildEventMesh (librariesWith []) (snapshot namelessAndBroken.cluster)=
      .error .panic := rfl
  refine ⟨hpanic,fun h => ?_⟩
  have hinstance : HasInstance namelessAndBroken.cluster (annotatedCRD "pingsources" "broken") :=
    ⟨⟨"sources.knative.dev","v1","pingsources"⟩,_,(gvrFromUnstructured_eq_ok_iff _ _).mp rfl,rfl,
      List.cons_ne_nil _ _⟩
  rcases h.rejected _ List.mem_cons_self hinstance ⟨"broken",by decide,rfl⟩ with ⟨err,herr⟩
  cases hpanic.symm.trans herr

end KnativeMesh.Annotations
