import KnativeMesh.Entities
import KnativeMesh.Library.Joined

/-!
# Entity references

The catalog knows an entity by its kind, namespace and name. References in
entity specifications are texts of an optional kind, an optional namespace and
a name. Every reference to a provided API leads to one API entity of the same
mesh. Components of all families share one kind, so their references clash
where two of them share namespace and name.
-/

namespace KnativeMesh.EntityRefs

open Go UnstructuredObject Kubernetes Mesh Converters Builder Passes Runs Listing Fetches
open ClusterContents Registration Wire Entities Library.Joined
open Provider (Entity KnativeEventMeshProvider)

/-- A reference as it is parsed. -/
structure CompoundRef where
  kind : Option String
  nameSpace : Option String
  name : String
  deriving DecidableEq

/-- A part of a reference is not empty and holds none of the separators. -/
def RefPart (part : List Char) : Prop := part≠[] ∧ ':' ∉ part ∧ '/' ∉ part

instance (part : List Char) : Decidable (RefPart part) := by
  dsimp only [RefPart]
  infer_instance

/-- What is known of a parser of references by the grammar [kind:][namespace/]name:
a reference with all three parts is parsed into them. -/
def ParsesFullRefs (parseEntityRef : String → Option CompoundRef) : Prop :=
  ∀ kind ns name, RefPart kind.toList → RefPart ns.toList → RefPart name.toList →
    parseEntityRef (kind++":"++(ns++"/"++name))=some ⟨some kind,some ns,name⟩

/-- A reference to a provided API parses to its kind, namespace and name. -/
theorem parseEntityRef_api {parseEntityRef : String → Option CompoundRef}
    (hparse : ParsesFullRefs parseEntityRef) {ns name : String} (hns : RefPart ns.toList)
    (hname : RefPart name.toList) :
    parseEntityRef ("api:"++namespacedName ns name)=some ⟨some "api",some ns,name⟩ := by
  have htext : "api:"++namespacedName ns name="api"++":"++(ns++"/"++name) := by
    have hstart : "api:"="api"++":" := rfl
    dsimp only [namespacedName]
    rw [hstart,@String.append_assoc ns "/" name]
  rw [htext]
  exact hparse "api" ns name (by decide) hns hname

/-- The API entities of a list that have some namespace and name. -/
def apisNamed (entities : List Entity) (ns name : String) : List Entity :=
  entities.filter fun e => e.kind="API" ∧ e.metadata.nameSpace=ns ∧ e.metadata.name=name

section Mesh

variable (provider : KnativeEventMeshProvider) (mesh : Provider.EventMesh)

/-- API entities come from event types only. -/
theorem apisNamed_buildEntities (ns name : String) :
    apisNamed (provider.buildEntities mesh) ns name=
      (mesh.eventTypes.filter fun et => et.nameSpace=ns ∧ et.name=name).map
        provider.buildEventTypeEntity := by
  have hcomponents : ∀ {α : Type} (build : α → Entity) (xs : List α),
      (∀ x, (build x).kind="Component") → apisNamed (xs.map build) ns name=[] := by
    intro α build xs hkind
    dsimp only [apisNamed]
    rw [List.filter_eq_nil_iff]
    intro e he
    obtain ⟨x,_,rfl⟩ := List.mem_map.mp he
    simp [hkind x]
  have happend : ∀ xs ys : List Entity,
      apisNamed (xs++ys) ns name=apisNamed xs ns name++apisNamed ys ns name :=
    fun _ _ => List.filter_append ..
  dsimp only [KnativeEventMeshProvider.buildEntities]
  rw [happend,happend,happend,hcomponents provider.buildBrokerEntity _ fun _ => rfl,
    hcomponents provider.buildSubscribableEntity _ fun _ => rfl,
    hcomponents provider.buildSourceEntity _ fun _ => rfl,List.append_nil,List.append_nil,
    List.append_nil]
  dsimp only [apisNamed]
  rw [List.filter_map]
  congr 1
  apply List.filter_congr
  intro et _
  rw [Bool.eq_iff_iff,Function.comp_apply,decide_eq_true_iff,decide_eq_true_iff]
  exact ⟨fun h => h.2,fun h => ⟨rfl,h⟩⟩

/-- A reference to a provided API names what some component provides. -/
theorem exists_provided {e : Entity} (he : e ∈ provider.buildEntities mesh) {ref : String}
    (href : ref ∈ e.spec.providesApis.getD []) :
    ∃ name, ref="api:"++name ∧
      ((∃ br ∈ mesh.brokers, name ∈ br.providedEventTypes.getD []) ∨
        (∃ s ∈ mesh.subscribables, name ∈ s.providedEventTypes.getD []) ∨
          ∃ source ∈ mesh.sources, name ∈ source.providedEventTypes.getD []) := by
  dsimp only [KnativeEventMeshProvider.buildEntities] at he
  rw [List.mem_append,List.mem_append,List.mem_append] at he
  rcases he with ((he | he) | he) | he
  · obtain ⟨et,_,rfl⟩ := List.mem_map.mp he
    exact absurd href List.not_mem_nil
  · obtain ⟨br,hbr,rfl⟩ := List.mem_map.mp he
    obtain ⟨name,hname,rfl⟩ := List.mem_map.mp href
    exact ⟨name,rfl,.inl ⟨br,hbr,hname⟩⟩
  · obtain ⟨s,hs,rfl⟩ := List.mem_map.mp he
    obtain ⟨name,hname,rfl⟩ := List.mem_map.mp href
    exact ⟨name,rfl,.inr (.inl ⟨s,hs,hname⟩)⟩
  · obtain ⟨source,hsource,rfl⟩ := List.mem_map.mp he
    obtain ⟨name,hname,rfl⟩ := List.mem_map.mp href
    exact ⟨name,rfl,.inr (.inr ⟨source,hsource,hname⟩)⟩

end Mesh

section Run

variable {lib : Libraries} {answers : Answers} (f : Fetched lib answers) {store : Store}
  (h : f.finished=.ok store)

include h

/-- What a component of a run provides is an event type of the run. -/
theorem exists_eventType_of_provided {decoded : Provider.EventMesh}
    (hdecoded : decodeMesh (encodeMesh (outputMesh store))=some decoded) {name : String}
    (hname : (∃ br ∈ decoded.brokers, name ∈ br.providedEventTypes.getD []) ∨
      (∃ s ∈ decoded.subscribables, name ∈ s.providedEventTypes.getD []) ∨
        ∃ source ∈ decoded.sources, name ∈ source.providedEventTypes.getD []) :
    ∃ et ∈ store.eventTypes, et.namespacedName=name := by
  have hmesh : decodeMesh (encodeMesh (outputMesh store))=_ := decodeMesh_encodeMesh _ _ _ _
  rw [hmesh] at hdecoded
  cases hdecoded
  rcases hname with ⟨br,hbr,hname⟩ | ⟨s,hs,hname⟩ | ⟨source,hsource,hname⟩
  · obtain ⟨sent,hsent,rfl⟩ := List.mem_map.mp hbr
    obtain ⟨i,_,hprovided,_⟩ := getElem?_of_mem_brokers f h hsent
    dsimp only [receivedBroker] at hname
    rw [receivedStrings_getD,hprovided] at hname
    exact exists_of_mem_names f h hname
  · obtain ⟨sent,hsent,rfl⟩ := List.mem_map.mp hs
    obtain ⟨i,_,hprovided,_⟩ := getElem?_of_mem_subscribables f h hsent
    dsimp only [receivedSubscribable] at hname
    rw [receivedStrings_getD,hprovided] at hname
    exact exists_of_mem_names f h hname
  · obtain ⟨sent,hsent,rfl⟩ := List.mem_map.mp hsource
    rw [(f.finished_frame h).sources,registered_sources] at hsent
    obtain ⟨fetched,_,rfl⟩ := List.mem_map.mp hsent
    dsimp only [receivedSource] at hname
    rw [receivedStrings_getD] at hname
    exact exists_of_mem_announcedNames f h hname

/-- An event type of a run is the only one of its namespace and name. -/
theorem filter_identity_length (hd : Distinct (f.eventTypes.map (·.objectMeta))) {et : EventType}
    (het : et ∈ store.eventTypes) :
    (store.eventTypes.filter fun other =>
      other.nameSpace=et.nameSpace ∧ other.name=et.name).length=1 := by
  have hstrict := eventTypes_strict f h hd
  have hnodup : (store.eventTypes.map fun other => (other.nameSpace,other.name)).Nodup := by
    dsimp only [List.Nodup]
    rw [List.pairwise_map]
    exact hstrict.imp fun hlt he => hlt.ne (congrArg toLex he)
  have hcount := List.count_eq_one_of_mem hnodup (List.mem_map_of_mem het)
  rw [List.count,List.countP_map,List.countP_eq_length_filter] at hcount
  have hsame : (store.eventTypes.filter fun other =>
      other.nameSpace=et.nameSpace ∧ other.name=et.name)=store.eventTypes.filter
        ((fun key => key==(et.nameSpace,et.name)) ∘ fun other => (other.nameSpace,other.name)) := by
    apply List.filter_congr
    intro other _
    rw [Bool.eq_iff_iff,decide_eq_true_iff,Function.comp_apply,beq_iff_eq,Prod.mk.injEq]
  rw [hsame,hcount]

end Run

/-- Every reference to a provided API parses, and leads to exactly one API
entity of the same mesh, however the answers changed during the run. -/
theorem providesApis_resolve {parseEntityRef : String → Option CompoundRef}
    (hparse : ParsesFullRefs parseEntityRef) {lib : Libraries} {answers : Answers}
    (f : Fetched lib answers)
    {mesh : EventMesh} (hmesh : buildEventMesh lib answers=.ok mesh)
    (hd : Distinct (f.eventTypes.map (·.objectMeta)))
    (hparts : ∀ m ∈ f.eventTypes.map (·.objectMeta),
      RefPart m.nameSpace.toList ∧ RefPart m.name.toList)
    (provider : KnativeEventMeshProvider) :
    ∃ decoded, decodeMesh (encodeMesh mesh)=some decoded ∧
      ∀ e ∈ provider.buildEntities decoded, ∀ ref ∈ e.spec.providesApis.getD [],
        ∃ ns name, parseEntityRef ref=some ⟨some "api",some ns,name⟩ ∧
          (apisNamed (provider.buildEntities decoded) ns name).length=1 := by
  obtain ⟨store,h,rfl⟩ := f.buildEventMesh_eq_ok_iff.mp hmesh
  have hdecoded : decodeMesh (encodeMesh (outputMesh store))=_ := decodeMesh_encodeMesh _ _ _ _
  refine ⟨_,hdecoded,fun e he ref href => ?_⟩
  obtain ⟨name,rfl,hprovided⟩ := exists_provided provider _ he href
  obtain ⟨et,het,rfl⟩ := exists_eventType_of_provided f h hdecoded hprovided
  obtain ⟨resource,hresource,hfixed⟩ := fixed_of_mem f h het
  have hns : resource.objectMeta.nameSpace=et.nameSpace := congrArg EventType.nameSpace hfixed
  have hname : resource.objectMeta.name=et.name := congrArg EventType.name hfixed
  obtain ⟨hnsPart,hnamePart⟩ := hparts resource.objectMeta (List.mem_map_of_mem hresource)
  rw [hns] at hnsPart
  rw [hname] at hnamePart
  refine ⟨et.nameSpace,et.name,parseEntityRef_api hparse hnsPart hnamePart,?_⟩
  rw [apisNamed_buildEntities,List.length_map,List.filter_map,List.length_map]
  exact filter_identity_length f h hd het

/-- A parser by the grammar [kind:][namespace/]name. -/
def parseEntityRef (ref : String) : Option CompoundRef :=
  let (kind,rest) := match splitFirst ':' ref.toList with
    | some (kind,rest) => (some kind,rest)
    | none => (none,ref.toList)
  let (ns,name) := match splitFirst '/' rest with
    | some (ns,name) => (some ns,name)
    | none => (none,rest)
  if (∀ part ∈ kind, RefPart part) ∧ (∀ part ∈ ns, RefPart part) ∧ RefPart name then
    some ⟨kind.map String.ofList,ns.map String.ofList,String.ofList name⟩
  else none

/-- It parses a reference with all three parts into them. -/
theorem parsesFullRefs_parseEntityRef : ParsesFullRefs parseEntityRef := by
  intro kind ns name hkind hns hname
  have hlist : (kind++":"++(ns++"/"++name)).toList=
      kind.toList++ ':'::(ns.toList++ '/'::name.toList) := by simp
  have hfirst : splitFirst ':' (kind++":"++(ns++"/"++name)).toList=
      some (kind.toList,ns.toList++ '/'::name.toList) := by
    rw [hlist,splitFirst_append hkind.2.1]
  have hrest := splitFirst_append hns.2.2 name.toList
  dsimp only [parseEntityRef]
  rw [hfirst]
  dsimp only
  rw [hrest]
  dsimp only
  rw [if_pos]
  · simp
  · simp [hkind,hns,hname]

/-- In this run the component of the channel refers to the API of an event type. -/
theorem providesApis_resolve_twoHomes :
    ∃ decoded, decodeMesh (encodeMesh (outputMesh twoHomesFetched.triggered))=some decoded ∧
      (∃ e ∈ devProvider.buildEntities decoded, e.kind="Component" ∧ e.metadata.name="audit" ∧
        e.spec.providesApis=some ["api:shop/refund"]) ∧
      parseEntityRef "api:shop/refund"=some ⟨some "api",some "shop","refund"⟩ ∧
      (apisNamed (devProvider.buildEntities decoded) "shop" "refund").length=1 := by
  obtain ⟨decoded,hdecoded,hall⟩ := providesApis_resolve parsesFullRefs_parseEntityRef twoHomesFetched
    twoHomesFetched.buildEventMesh_eq (by decide) (by decide) devProvider
  have hread : decoded=_ := Option.some.inj (hdecoded.symm.trans (decodeMesh_encodeMesh _ _ _ _))
  have hcomponent : ∃ e ∈ devProvider.buildEntities decoded, e.kind="Component" ∧
      e.metadata.name="audit" ∧ e.spec.providesApis=some ["api:shop/refund"] := by
    rw [hread]
    decide
  have hparse : parseEntityRef "api:shop/refund"=some ⟨some "api",some "shop","refund"⟩ := by decide
  refine ⟨decoded,hdecoded,hcomponent,hparse,?_⟩
  obtain ⟨e,he,_,_,hprovides⟩ := hcomponent
  have href : "api:shop/refund" ∈ e.spec.providesApis.getD [] := by
    rw [hprovides]
    exact List.mem_cons_self
  obtain ⟨ns,name,hparsed,hone⟩ := hall e he _ href
  rw [hparse] at hparsed
  cases hparsed
  exact hone

/-- The reference under which the catalog keeps an entity. -/
def entityRef (e : Entity) : String×String×String :=
  (String.ofList (e.kind.toList.map Char.toLower),e.metadata.nameSpace,e.metadata.name)

/-- Namespaces and names of the resources that become API entities. -/
def apiKeys (mesh : Provider.EventMesh) : List (String×String) :=
  mesh.eventTypes.map fun et => (et.nameSpace,et.name)

/-- Namespaces and names of the resources that become components. -/
def componentKeys (mesh : Provider.EventMesh) : List (String×String) :=
  mesh.brokers.map (fun br => (br.nameSpace,br.name))++
    mesh.subscribables.map (fun s => (s.nameSpace,s.name))++
    mesh.sources.map fun source => (source.nameSpace,source.name)

/-- The references of all entities that a provider builds from a mesh. -/
def entityRefs (provider : KnativeEventMeshProvider) (mesh : Provider.EventMesh) :
    List (String×String×String) := (provider.buildEntities mesh).map entityRef

/-- References consist of a kind and the key of a resource; neither the
provider nor the resource's own kind is part of them. -/
theorem entityRefs_eq (provider : KnativeEventMeshProvider) (mesh : Provider.EventMesh) :
    entityRefs provider mesh=
      (apiKeys mesh).map (("api",·))++(componentKeys mesh).map (("component",·)) := by
  have hapi : String.ofList ("API".toList.map Char.toLower)="api" := by decide
  have hcomponent : String.ofList ("Component".toList.map Char.toLower)="component" := by decide
  dsimp only [entityRefs,KnativeEventMeshProvider.buildEntities,apiKeys,componentKeys]
  simp only [List.map_append,List.map_map,List.append_assoc]
  refine congrArg₂ (·++·) ?_ (congrArg₂ (·++·) ?_ (congrArg₂ (·++·) ?_ ?_))
  · apply List.map_congr_left
    intro et _
    exact congrArg (·,et.nameSpace,et.name) hapi
  · apply List.map_congr_left
    intro br _
    exact congrArg (·,br.nameSpace,br.name) hcomponent
  · apply List.map_congr_left
    intro s _
    exact congrArg (·,s.nameSpace,s.name) hcomponent
  · apply List.map_congr_left
    intro source _
    exact congrArg (·,source.nameSpace,source.name) hcomponent

/-- Resources of a mesh that are different objects of the cluster. -/
structure DistinctResources (mesh : Provider.EventMesh) : Prop where
  eventTypes : (mesh.eventTypes.map fun et => (et.nameSpace,et.name)).Nodup
  brokers : (mesh.brokers.map fun br => (br.nameSpace,br.name)).Nodup
  subscribables : (mesh.subscribables.map fun s => (s.group,s.kind,s.nameSpace,s.name)).Nodup
  sources : (mesh.sources.map fun source =>
    (source.group,source.kind,source.nameSpace,source.name)).Nodup

/-- References of one kind are told apart by their keys. -/
theorem kindRef_injective (kind : String) :
    Function.Injective (fun key : String×String => (kind,key)) := fun _ _ he => (Prod.mk.inj he).2

/-- References of APIs and of components are never the same. -/
theorem apiRefs_disjoint_componentRefs (first second : List (String×String)) :
    (first.map (("api",·))).Disjoint (second.map (("component",·))) := by
  intro ref hfirst hsecond
  obtain ⟨key,_,rfl⟩ := List.mem_map.mp hfirst
  obtain ⟨other,_,he⟩ := List.mem_map.mp hsecond
  have hkind : "component"="api" := congrArg Prod.fst he
  exact absurd hkind (by decide)

/-- Within one mesh references are distinct exactly when no two event types and
no two components, whatever their families, groups and kinds, share namespace and
name. Between two providers they overlap exactly where the keys do, and the
ids of the providers make no difference. -/
theorem entityRefs_distinct :
    (∀ (provider : KnativeEventMeshProvider) (mesh : Provider.EventMesh),
      (entityRefs provider mesh).Nodup ↔ (apiKeys mesh).Nodup ∧ (componentKeys mesh).Nodup) ∧
    ∀ (first second : KnativeEventMeshProvider) (mesh mesh' : Provider.EventMesh),
      (entityRefs first mesh).Disjoint (entityRefs second mesh') ↔
        (apiKeys mesh).Disjoint (apiKeys mesh') ∧
          (componentKeys mesh).Disjoint (componentKeys mesh') := by
  constructor
  · intro provider mesh
    rw [entityRefs_eq,List.nodup_append']
    rw [List.nodup_map_iff (kindRef_injective "api"),
      List.nodup_map_iff (kindRef_injective "component")]
    have hdisjoint := apiRefs_disjoint_componentRefs (apiKeys mesh) (componentKeys mesh)
    exact ⟨fun h => ⟨h.1,h.2.1⟩,fun h => ⟨h.1,h.2,hdisjoint⟩⟩
  · intro first second mesh mesh'
    rw [entityRefs_eq,entityRefs_eq,List.disjoint_append_left,List.disjoint_append_right,
      List.disjoint_append_right]
    have hac := apiRefs_disjoint_componentRefs (apiKeys mesh) (componentKeys mesh')
    have hca := (apiRefs_disjoint_componentRefs (apiKeys mesh') (componentKeys mesh)).symm
    constructor
    · intro hp
      rcases hp with ⟨⟨haa,_⟩,_,hcc⟩
      exact ⟨List.Disjoint.of_map haa,List.Disjoint.of_map hcc⟩
    · intro hp
      rcases hp with ⟨haa,hcc⟩
      exact ⟨⟨haa.map (kindRef_injective "api"),hac⟩,hca,hcc.map (kindRef_injective "component")⟩

/-- A broker and a channel of the same name in one namespace. -/
def brokerAndChannel : Provider.EventMesh :=
  { eventTypes := []
    brokers := [⟨"main","shop","uid-1",none,none,some []⟩]
    subscribables := [⟨"main","shop","uid-2",none,none,"messaging.knative.dev","InMemoryChannel",some []⟩]
    sources := [] }

/-- A provider of another cluster. -/
def prodProvider : KnativeEventMeshProvider := ⟨"prod","http://example.com",some "token"⟩

/-- Different resources of one cluster, and equal ones of two clusters, clash. -/
theorem brokerAndChannel_clash :
    DistinctResources brokerAndChannel ∧ ¬ (entityRefs devProvider brokerAndChannel).Nodup ∧
      devProvider.env≠prodProvider.env ∧
      ¬ (entityRefs devProvider brokerAndChannel).Disjoint (entityRefs prodProvider brokerAndChannel) := by
  refine ⟨⟨by decide,by decide,by decide,by decide⟩,by decide,by decide,fun hdisjoint => ?_⟩
  have hmem : ("component","shop","main") ∈ entityRefs devProvider brokerAndChannel := by decide
  have hmem' : ("component","shop","main") ∈ entityRefs prodProvider brokerAndChannel := by decide
  exact hdisjoint hmem hmem'

end KnativeMesh.EntityRefs
