import KnativeMesh.Lookups

/-!
# Event types of sources

A source has no references. Its CRD carries an annotation with CloudEvents
types, and the source provides every event type of an annotated type, in any
namespace. Entries are taken one by one and may repeat, and the event types of
an entry come in the order of the sort.
-/

namespace KnativeMesh.SourceTypes

open Go UnstructuredObject Kubernetes Mesh Converters Builder Passes Runs Keys Listing Fetches
open ClusterContents Registration Lookups Library.Index

section Annotation

variable {lib : Libraries}

/-- The CRD has the annotation, and its text does not decode. -/
def Rejected (lib : Libraries) (crd : Unstructured) : Prop :=
  ∃ text, crd.getAnnotations.get eventTypesAnnotationKey=some text ∧ lib.unmarshalEventTypes text=none

/-- The types of the annotation, entry by entry; none where there is no
annotation. An entry without a type has the empty one. -/
def annotatedTypes (lib : Libraries) (crd : Unstructured) : List String :=
  match crd.getAnnotations.get eventTypesAnnotationKey with
  | none => []
  | some text => ((lib.unmarshalEventTypes text).getD []).map (·.type)

/-- The exit at an annotation that does not decode. -/
def unmarshalExit : Exit := .error (.plain "failed to unmarshal event types")

/-- A rejected annotation announces nothing, and the attempt ends the run. -/
theorem announcedTypes_of_rejected {crd : Unstructured} (h : Rejected lib crd) :
    announcedTypes lib crd=.error unmarshalExit := by
  rcases h with ⟨text,htext,hdecode⟩
  dsimp only [announcedTypes]
  rw [htext]
  dsimp only
  rw [hdecode]
  rfl

/-- An annotation that is missing or decodes announces its types. -/
theorem announcedTypes_of_not_rejected {crd : Unstructured} (h : ¬ Rejected lib crd) :
    announcedTypes lib crd=.ok (annotatedTypes lib crd) := by
  dsimp only [announcedTypes,annotatedTypes]
  cases htext : crd.getAnnotations.get eventTypesAnnotationKey with
  | none => rfl
  | some text =>
    dsimp only
    cases hdecode : lib.unmarshalEventTypes text with
    | none => exact absurd ⟨text,htext,hdecode⟩ h
    | some entries => rfl

/-- A converted source has the types of the annotation of its CRD, and the
namespace and name of its object. -/
theorem convertSource_eq_ok {gvr : GroupVersionResource} {crd object : Unstructured} {source : Source}
    (h : convertSource lib gvr crd object=.ok source) :
    source.providedEventTypeTypes=.of (annotatedTypes lib crd) ∧
      source.nameSpace=object.getNamespace ∧ source.name=object.getName := by
  have hparts := bind_eq_ok.mp h
  rcases hparts with ⟨types,htypes,hsource⟩
  cases hsource
  by_cases hrejected : Rejected lib crd
  · rw [announcedTypes_of_rejected hrejected] at htypes
    cases htypes
  · rw [announcedTypes_of_not_rejected hrejected] at htypes
    cases htypes
    exact ⟨rfl,rfl,rfl⟩

end Annotation

/-- The namespaced names of the event types of some CloudEvents types, type by
type and as often as a type is listed. -/
def namesOfTypes (eventTypes : List EventType) (types : List String) : List String :=
  types.flatMap fun type => (eventTypes.filter (·.type=type)).map (·.namespacedName)

section Names

variable {lib : Libraries} {answers : Answers} (f : Fetched lib answers) {store : Store}

/-- Names of types are the same before and after the consumers are added. -/
theorem namesOfTypes_eq (h : f.finished=.ok store) (types : List String) :
    namesOfTypes f.convertedEventTypes types=namesOfTypes store.eventTypes types := by
  have hfixed : ∀ eventTypes : List EventType,
      namesOfTypes eventTypes types=namesOfTypes (eventTypes.map fixed) types := by
    intro eventTypes
    dsimp only [namesOfTypes]
    congr 1
    funext type
    rw [List.filter_map,List.map_map]
    rfl
  rw [hfixed,←map_fixed_eventTypes f h,←hfixed]

/-- The event types of a run have distinct identities. -/
theorem eventTypeIdentities_nodup (h : f.finished=.ok store)
    (hd : Distinct (f.eventTypes.map (·.objectMeta))) :
    (store.eventTypes.map eventTypeIdentity).Nodup := by
  have hstrict := eventTypes_strict f h hd
  dsimp only [List.Nodup]
  rw [List.pairwise_map]
  refine hstrict.imp fun {a b} hlt he => ?_
  have hsame : toLex (a.nameSpace,a.name)=toLex (b.nameSpace,b.name) := congrArg toLex he
  exact hlt.ne hsame

/-- The event types of a run keep namespaces free of slashes. -/
theorem nameSpace_slashFree (h : f.finished=.ok store)
    (hfree : ∀ resource ∈ f.eventTypes, SlashFree resource.objectMeta.nameSpace) :
    ∀ et ∈ store.eventTypes, SlashFree et.nameSpace := by
  intro et het
  have hlisted := fixed_of_mem f h het
  rcases hlisted with ⟨resource,hresource,he⟩
  have hns : resource.objectMeta.nameSpace=et.nameSpace := congrArg EventType.nameSpace he
  rw [←hns]
  exact hfree resource hresource

end Names

/-- The names that the sources of a CRD provide: each event type as often as the
annotation lists its type, whatever its namespace, and entry by entry in the
order of the event types. -/
structure AnnotatedNames (lib : Libraries) (mesh : EventMesh) (crd : Unstructured)
    (names : List String) : Prop where
  count : ∀ et ∈ mesh.eventTypes.toList,
    names.count et.namespacedName=(annotatedTypes lib crd).count et.type
  only : ∀ name ∈ names, ∃ et ∈ mesh.eventTypes.toList,
    et.type ∈ annotatedTypes lib crd ∧ et.namespacedName=name
  groups : ∃ groups : List (List EventType), names=groups.flatMap (·.map (·.namespacedName)) ∧
    List.Forall₂ (fun type group => (∀ et ∈ group, et ∈ mesh.eventTypes.toList ∧ et.type=type) ∧
      group.Pairwise fun a b => toLex (a.nameSpace,a.name) < toLex (b.nameSpace,b.name))
      (annotatedTypes lib crd) groups

/-- Every source of the mesh is a listed instance, in listing order, and it
provides the names that belong to its CRD. -/
def SourcesProvide (lib : Libraries) (answers : Answers) (mesh : EventMesh) : Prop :=
  ∃ instances, listedSources lib answers=.ok instances ∧ ∃ provided : Unstructured → List String,
    (∀ crd, AnnotatedNames lib mesh crd (provided crd)) ∧
    List.Forall₂ (fun i source => source.nameSpace=i.object.getNamespace ∧
      source.name=i.object.getName ∧ source.providedEventTypes=.of (provided i.crd))
      instances.toList mesh.sources.toList

/-- Event types in order with distinct names give every CRD the names that
belong to it. -/
theorem annotatedNames_namesOfTypes (lib : Libraries) {mesh : EventMesh} (crd : Unstructured)
    (hnames : (mesh.eventTypes.toList.map EventType.namespacedName).Nodup)
    (hstrict : mesh.eventTypes.toList.Pairwise fun a b =>
      toLex (a.nameSpace,a.name) < toLex (b.nameSpace,b.name)) :
    AnnotatedNames lib mesh crd (namesOfTypes mesh.eventTypes.toList (annotatedTypes lib crd)) := by
  refine ⟨fun et het => count_join hnames het _,fun name hname => ?_,?_⟩
  · have htype := List.mem_flatMap.mp hname
    rcases htype with ⟨type,htype,hmem⟩
    have hlisted := List.mem_map.mp hmem
    rcases hlisted with ⟨et,het,rfl⟩
    have hfilter := List.mem_filter.mp het
    have hsame : et.type=type := of_decide_eq_true hfilter.2
    refine ⟨et,hfilter.1,?_,rfl⟩
    rw [hsame]
    exact htype
  · refine ⟨(annotatedTypes lib crd).map fun type => mesh.eventTypes.toList.filter (·.type=type),?_,?_⟩
    · rw [List.flatMap_map]
      rfl
    · rw [List.forall₂_map_right_iff,List.forall₂_same]
      intro type _
      refine ⟨fun et het => ?_,hstrict.filter _⟩
      have hfilter := List.mem_filter.mp het
      exact ⟨hfilter.1,of_decide_eq_true hfilter.2⟩

/-- In a run that returns a mesh the sources provide what belongs to their CRDs. -/
theorem sourcesProvide {lib : Libraries} {answers : Answers} (f : Fetched lib answers)
    (hd : Distinct (f.eventTypes.map (·.objectMeta)))
    (hfree : ∀ resource ∈ f.eventTypes, SlashFree resource.objectMeta.nameSpace) {store : Store}
    (h : f.finished=.ok store) : SourcesProvide lib answers (outputMesh store) := by
  have hlisted := fetchSources_forall₂ f.sources_ok
  rcases hlisted with ⟨instances,hlisted,hall⟩
  have hnames := namespacedNames_nodup_of_nameSpace (eventTypeIdentities_nodup f h hd)
    (nameSpace_slashFree f h hfree)
  refine ⟨instances,hlisted,fun crd => namesOfTypes store.eventTypes (annotatedTypes lib crd),
    fun crd => annotatedNames_namesOfTypes lib crd hnames (eventTypes_strict f h hd),?_⟩
  have hsources : (outputMesh store).sources.toList=f.sources.toList.map fun source =>
      {source with providedEventTypes := .of (announcedNames f.convertedEventTypes source)} :=
    (f.finished_frame h).sources.trans (registered_sources f)
  rw [hsources,List.forall₂_map_right_iff]
  refine hall.imp fun i source hconvert => ?_
  have hfields := convertSource_eq_ok hconvert
  refine ⟨hfields.2.1,hfields.2.2,congrArg Slice.of ?_⟩
  have hannounced : announcedNames f.convertedEventTypes source=
      namesOfTypes f.convertedEventTypes (annotatedTypes lib i.crd) := by
    dsimp only [announcedNames]
    rw [hfields.1]
    rfl
  rw [hannounced,namesOfTypes_eq f h]

end KnativeMesh.SourceTypes
