import KnativeMesh.Listing

/-!
# The instances that the fetches convert

Subscribables and sources are found in two steps, CRDs first and the instances
of each CRD next. The instances that a run lists are computed here without any
conversion, so that the converted lists can be compared with them one by one.
-/

namespace KnativeMesh.Fetches

open Go UnstructuredObject Kubernetes Mesh Converters Builder Runs

/-- One listed object with the CRD and the resource it was listed through. -/
structure Instance where
  gvr : GroupVersionResource
  crd : Unstructured
  object : Unstructured

/-- The instances of one CRD. -/
def instancesOf (lib : Libraries) (dynamicClient : DynamicClient) (crd : Unstructured) :
    Result (List Instance) := do
  let gvr ← gvrFromUnstructured crd
  let resources ← listInstances lib dynamicClient gvr
  .ok (resources.map (⟨gvr,crd,·⟩))

/-- The subscribables of the cluster in the order in which a run lists them. -/
def listedSubscribables (lib : Libraries) (answers : Answers) : Result (Slice Instance) :=
  fetchThroughCRDs lib ((answers .subscribableCRDs).dynamicClient.list crdResource subscribableSelector)
    fun crd => instancesOf lib (answers (.subscribables crd.2)).dynamicClient crd.1

/-- The sources of the cluster in the order in which a run lists them. -/
def listedSources (lib : Libraries) (answers : Answers) : Result (Slice Instance) :=
  fetchThroughCRDs lib ((answers .sourceCRDs).dynamicClient.list crdResource sourceSelector)
    fun crd => instancesOf lib (answers (.sources crd.2)).dynamicClient crd.1

/-- A loop whose steps agree with those of another loop, element by element,
agrees with it as a whole. -/
theorem collect_forall₂ {ι α β : Type} {R : β → α → Prop} {step : ι → Result (List α)}
    {step' : ι → Result (List β)}
    (hstep : ∀ item xs, step item=.ok xs → ∃ ys, step' item=.ok ys ∧ List.Forall₂ R ys xs)
    {items : List ι} {xs : List α} (h : collect step items=.ok xs) :
    ∃ ys, collect step' items=.ok ys ∧ List.Forall₂ R ys xs := by
  induction items generalizing xs with
  | nil =>
    cases h
    exact ⟨[],rfl,.nil⟩
  | cons item items ih =>
    obtain ⟨here,hhere,h⟩ := bind_eq_ok.mp h
    obtain ⟨later,hlater,h⟩ := bind_eq_ok.mp h
    cases h
    obtain ⟨ys,hys,hR⟩ := hstep item here hhere
    obtain ⟨zs,hzs,hR'⟩ := ih hlater
    refine ⟨ys++zs,?_,List.rel_append hR hR'⟩
    rw [collect,hys,hzs]
    rfl

/-- A loop over single results visits all items and keeps their results. -/
theorem collect_singletons {ι α : Type} {step : ι → Result α} {items : List ι} {xs : List α}
    (h : collect (fun item => do let x ← step item; .ok [x]) items=.ok xs) :
    List.Forall₂ (fun item x => step item=.ok x) items xs := by
  induction items generalizing xs with
  | nil =>
    cases h
    exact .nil
  | cons item items ih =>
    obtain ⟨here,hhere,h⟩ := bind_eq_ok.mp h
    obtain ⟨later,hlater,h⟩ := bind_eq_ok.mp h
    obtain ⟨x,hx,hhere⟩ := bind_eq_ok.mp hhere
    cases hhere
    cases h
    exact .cons hx (ih hlater)

/-- Instances are listed, or the resource is not found and has none. -/
theorem listInstances_eq_ok_iff {lib : Libraries} {dynamicClient : DynamicClient} {gvr : GroupVersionResource}
    {resources : List Unstructured} :
    listInstances lib dynamicClient gvr=.ok resources ↔
      dynamicClient.list gvr noSelector=.ok resources ∨
        ∃ err, dynamicClient.list gvr noSelector=.error err ∧ lib.isNotFound err=true ∧ resources=[] := by
  dsimp only [listInstances]
  cases dynamicClient.list gvr noSelector with
  | ok listed => simp
  | error err =>
    dsimp only
    by_cases hnf : lib.isNotFound err=true
    · rw [if_pos hnf]
      constructor
      · intro h
        cases h
        exact .inr ⟨err,rfl,hnf,rfl⟩
      · intro hp
        rcases hp with hlisted | ⟨_,_,_,rfl⟩
        · cases hlisted
        · rfl
    · simp [hnf]

/-- A fetch of the instances of one CRD decodes the CRD, lists the instances of
the resource that it defines, and goes on with them. -/
theorem throughCRD_eq_ok_iff {α : Type} {lib : Libraries} {dynamicClient : DynamicClient} {crd : Unstructured}
    {rest : GroupVersionResource → List Unstructured → Result α} {value : α} :
    (gvrFromUnstructured crd >>= fun gvr => listInstances lib dynamicClient gvr >>= rest gvr)=.ok value ↔
      ∃ gvr resources, gvrFromUnstructured crd=.ok gvr ∧
        listInstances lib dynamicClient gvr=.ok resources ∧ rest gvr resources=.ok value := by
  rw [bind_eq_ok]
  refine exists_congr fun gvr => ?_
  rw [bind_eq_ok,exists_and_left]

/-- A fetch through CRDs goes through each listed CRD; where the list is not
found there are none. -/
theorem fetchThroughCRDs_eq_ok_iff {α : Type} {lib : Libraries} {crds : Except GoError (List Unstructured)}
    {fetch : Unstructured×ℕ → Result (List α)} {found : Slice α} :
    fetchThroughCRDs lib crds fetch=.ok found ↔
      (∃ err, crds=.error err ∧ lib.isNotFound err=true ∧ found=.nil) ∨
        ∃ listed elems, crds=.ok listed ∧ collect fetch listed.zipIdx=.ok elems ∧ found=.of elems := by
  cases crds with
  | error err =>
    dsimp only [fetchThroughCRDs]
    by_cases hnf : lib.isNotFound err=true
    · rw [if_pos hnf]
      constructor
      · intro h
        cases h
        exact .inl ⟨err,rfl,hnf,rfl⟩
      · intro hp
        rcases hp with ⟨_,_,_,rfl⟩ | ⟨_,_,hlisted,_⟩
        · rfl
        · cases hlisted
    · simp [hnf]
  | ok crds =>
    dsimp only [fetchThroughCRDs]
    rw [bind_eq_ok]
    constructor
    · intro hp
      rcases hp with ⟨elems,helems,hvalue⟩
      cases hvalue
      exact .inr ⟨crds,elems,rfl,helems,rfl⟩
    · intro hp
      rcases hp with ⟨_,hnone,_⟩ | ⟨listed,elems,hlisted,helems,rfl⟩
      · cases hnone
      · cases hlisted
        exact ⟨elems,helems,rfl⟩

/-- The subscribables of one CRD are its converted instances. -/
theorem subscribablesOf_forall₂ {lib : Libraries} {dynamicClient : DynamicClient} {crd : Unstructured}
    {xs : List Subscribable} (h : subscribablesOf lib dynamicClient crd=.ok xs) :
    ∃ ys, instancesOf lib dynamicClient crd=.ok ys ∧
      List.Forall₂ (fun i s => convertSubscribable i.gvr i.object=s) ys xs := by
  have hlisted := throughCRD_eq_ok_iff.mp h
  rcases hlisted with ⟨gvr,resources,hgvr,hresources,hvalue⟩
  cases hvalue
  refine ⟨resources.map (⟨gvr,crd,·⟩),throughCRD_eq_ok_iff.mpr ⟨gvr,resources,hgvr,hresources,rfl⟩,?_⟩
  rw [List.forall₂_map_left_iff,List.forall₂_map_right_iff,List.forall₂_same]
  exact fun _ _ => rfl

/-- The sources of one CRD are its converted instances. -/
theorem sourcesOf_forall₂ {lib : Libraries} {dynamicClient : DynamicClient} {crd : Unstructured}
    {xs : List Source} (h : sourcesOf lib dynamicClient crd=.ok xs) :
    ∃ ys, instancesOf lib dynamicClient crd=.ok ys ∧
      List.Forall₂ (fun i s => convertSource lib i.gvr i.crd i.object=.ok s) ys xs := by
  have hlisted := throughCRD_eq_ok_iff.mp h
  rcases hlisted with ⟨gvr,resources,hgvr,hresources,hcollect⟩
  refine ⟨resources.map (⟨gvr,crd,·⟩),throughCRD_eq_ok_iff.mpr ⟨gvr,resources,hgvr,hresources,rfl⟩,?_⟩
  rw [List.forall₂_map_left_iff]
  exact collect_singletons hcollect

/-- Two fetches through the same CRDs agree as a whole if they agree on the
instances of every CRD. -/
theorem fetchThroughCRDs_forall₂ {α β : Type} {R : β → α → Prop} {lib : Libraries}
    {crds : Except GoError (List Unstructured)} {fetch : Unstructured×ℕ → Result (List α)}
    {fetch' : Unstructured×ℕ → Result (List β)}
    (hfetch : ∀ crd xs, fetch crd=.ok xs → ∃ ys, fetch' crd=.ok ys ∧ List.Forall₂ R ys xs)
    {xs : Slice α} (h : fetchThroughCRDs lib crds fetch=.ok xs) :
    ∃ ys, fetchThroughCRDs lib crds fetch'=.ok ys ∧ List.Forall₂ R ys.toList xs.toList := by
  rcases fetchThroughCRDs_eq_ok_iff.mp h with hnone | hlisted
  · rcases hnone with ⟨err,herr,hnf,rfl⟩
    exact ⟨.nil,fetchThroughCRDs_eq_ok_iff.mpr (.inl ⟨err,herr,hnf,rfl⟩),.nil⟩
  · rcases hlisted with ⟨listed,elems,hlisted,helems,rfl⟩
    have hfound := collect_forall₂ hfetch helems
    rcases hfound with ⟨ys,hys,hall⟩
    exact ⟨.of ys,fetchThroughCRDs_eq_ok_iff.mpr (.inr ⟨listed,ys,hlisted,hys,rfl⟩),hall⟩

/-- The fetched subscribables are the converted instances, one for one and in
listing order. -/
theorem fetchSubscribables_map {lib : Libraries} {answers : Answers} {subscribables : Slice Subscribable}
    (h : fetchSubscribables lib answers=.ok subscribables) :
    ∃ instances, listedSubscribables lib answers=.ok instances ∧
      instances.toList.map (fun i => convertSubscribable i.gvr i.object)=subscribables.toList := by
  obtain ⟨instances,hlisted,hall⟩ :=
    fetchThroughCRDs_forall₂ (fun _ _ hstep => subscribablesOf_forall₂ hstep) h
  refine ⟨instances,hlisted,?_⟩
  rwa [←List.forall₂_eq_eq_eq,List.forall₂_map_left_iff]

/-- The fetched sources are the converted instances, one for one and in
listing order. -/
theorem fetchSources_forall₂ {lib : Libraries} {answers : Answers} {sources : Slice Source}
    (h : fetchSources lib answers=.ok sources) :
    ∃ instances, listedSources lib answers=.ok instances ∧
      List.Forall₂ (fun i s => convertSource lib i.gvr i.crd i.object=.ok s) instances.toList
        sources.toList :=
  fetchThroughCRDs_forall₂ (fun _ _ hstep => sourcesOf_forall₂ hstep) h

/-- Fetched subscribables provide nothing yet. -/
theorem fetchSubscribables_provides_nothing {lib : Libraries} {answers : Answers}
    {subscribables : Slice Subscribable}
    (h : fetchSubscribables lib answers=.ok subscribables) {s : Subscribable}
    (hs : s ∈ subscribables.toList) : s.providedEventTypes=.of [] := by
  obtain ⟨instances,_,hmap⟩ := fetchSubscribables_map h
  rw [←hmap] at hs
  obtain ⟨i,_,rfl⟩ := List.mem_map.mp hs
  rfl

/-- Every element on the right of a relation has a partner on the left. -/
theorem exists_of_forall₂_mem {α β : Type} {R : α → β → Prop} {xs : List α} {ys : List β}
    (h : List.Forall₂ R xs ys) {y : β} (hy : y ∈ ys) : ∃ x ∈ xs, R x y := by
  induction h with
  | nil => exact absurd hy List.not_mem_nil
  | cons hR _ ih =>
    rcases List.mem_cons.mp hy with rfl | hy
    · exact ⟨_,List.mem_cons_self,hR⟩
    · obtain ⟨x,hx,hR⟩ := ih hy
      exact ⟨x,List.mem_cons_of_mem _ hx,hR⟩

/-- Fetched sources provide nothing yet. -/
theorem fetchSources_provides_nothing {lib : Libraries} {answers : Answers} {sources : Slice Source}
    (h : fetchSources lib answers=.ok sources) {source : Source} (hs : source ∈ sources.toList) :
    source.providedEventTypes=.of [] := by
  obtain ⟨instances,_,hall⟩ := fetchSources_forall₂ h
  obtain ⟨found,_,hconvert⟩ := exists_of_forall₂_mem hall hs
  obtain ⟨announced,_,hsource⟩ := bind_eq_ok.mp hconvert
  cases hsource
  rfl

end KnativeMesh.Fetches
