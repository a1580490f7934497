import KnativeMesh.Entities
import KnativeMesh.Subscriptions
import KnativeMesh.Library.JsonSchema

/-!
# The published schema of the mesh

The schemas of the API document are compared with what the backend writes.
Slices are never nil when the mesh is returned. Labels and annotations are
nil for resources without any, and are then written as null, which the
schemas do not allow.
-/

namespace KnativeMesh.MeshSchema

open Go GoJson UnstructuredObject Kubernetes Mesh Converters Builder Passes Runs Listing Fetches
open ClusterContents Registration Subscriptions Wire Entities
open Library.JsonTree Library.JsonSchema

/-- Schema of a list of strings. -/
def stringList : Schema := .array .string

/-- Schema of a map of strings. -/
def stringRecord : Schema := .record .string

/-- components.schemas.GroupKindNamespacedName. -/
def groupKindNamespacedNameSchema : Schema :=
  .object [("group",.string),("kind",.string),("namespace",.string),("name",.string)]
    ["group","kind","namespace","name"]

/-- components.schemas.Broker. -/
def brokerSchema : Schema :=
  .object
    [("namespace",.string),("name",.string),("uid",.string),("labels",stringRecord),
      ("annotations",stringRecord),("providedEventTypes",stringList)]
    ["namespace","name","uid","labels","annotations","providedEventTypes"]

/-- components.schemas.Subscribable. -/
def subscribableSchema : Schema :=
  .object
    [("namespace",.string),("name",.string),("uid",.string),("labels",stringRecord),
      ("annotations",stringRecord),("group",.string),("kind",.string),
      ("providedEventTypes",stringList)]
    ["namespace","name","uid","labels","annotations","group","kind","providedEventTypes"]

/-- components.schemas.Source. -/
def sourceSchema : Schema :=
  .object
    [("namespace",.string),("name",.string),("uid",.string),("labels",stringRecord),
      ("annotations",stringRecord),("providedEventTypeTypes",stringList),
      ("providedEventTypes",stringList),("group",.string),("kind",.string),
      ("sink",groupKindNamespacedNameSchema)]
    ["namespace","name","uid","labels","annotations","providedEventTypeTypes",
      "providedEventTypes","group","kind"]

/-- Properties of components.schemas.EventType. -/
def eventTypeProperties : List (String×Schema) :=
  [("namespace",.string),("name",.string),("type",.string),("uid",.string),
    ("description",.string),("schemaData",.string),("schemaURL",.string),
    ("labels",stringRecord),("annotations",stringRecord),
    ("reference",groupKindNamespacedNameSchema),("consumedBy",stringList)]

/-- Required properties of components.schemas.EventType. -/
def eventTypeRequired : List String :=
  ["namespace","name","type","uid","labels","annotations","consumedBy"]

/-- components.schemas.EventType. -/
def eventTypeSchema : Schema := .object eventTypeProperties eventTypeRequired

/-- components.schemas.EventMesh. -/
def eventMeshSchema : Schema :=
  .object
    [("eventTypes",.array eventTypeSchema),("brokers",.array brokerSchema),
      ("subscribables",.array subscribableSchema),("sources",.array sourceSchema)]
    ["eventTypes","brokers","subscribables","sources"]

/-- A written map is a map of strings exactly when it is not nil. -/
theorem validates_encodeStringMap (m : StringMap) :
    validates stringRecord (encodeStringMap m)=true ↔ m≠none := by
  cases m with
  | none => exact ⟨nofun,fun h => absurd rfl h⟩
  | some m => exact ⟨fun _ => nofun,fun _ => validates_record_map _ _ m.toList⟩

/-- A written slice is a list of strings exactly when it is not nil. -/
theorem validates_encodeStrings (slice : Slice String) :
    validates stringList (encodeStrings slice)=true ↔ slice≠.nil := by
  cases slice with
  | nil => exact ⟨nofun,fun h => absurd rfl h⟩
  | of elems => exact ⟨fun _ => nofun,fun _ => validates_strings elems⟩

/-- A written reference has its four fields. -/
theorem validates_encodeReference (gknn : GroupKindNamespacedName) :
    validates groupKindNamespacedNameSchema (encodeReference gknn)=true := rfl

/-- What a broker needs to be written as its schema says. -/
theorem validates_encodeBroker (br : Broker) : validates brokerSchema (encodeBroker br)=true ↔
    br.labels≠none ∧ br.annotations≠none ∧ br.providedEventTypes≠.nil := by
  rw [←validates_encodeStringMap,←validates_encodeStringMap,←validates_encodeStrings]
  dsimp only [brokerSchema,encodeBroker]
  rw [validates_object_iff]
  simp [lookup_field,validates]

/-- What a subscribable needs to be written as its schema says. -/
theorem validates_encodeSubscribable (s : Subscribable) :
    validates subscribableSchema (encodeSubscribable s)=true ↔
      s.labels≠none ∧ s.annotations≠none ∧ s.providedEventTypes≠.nil := by
  rw [←validates_encodeStringMap,←validates_encodeStringMap,←validates_encodeStrings]
  dsimp only [subscribableSchema,encodeSubscribable]
  rw [validates_object_iff]
  simp [lookup_field,validates]

/-- What a source needs to be written as its schema says, with a sink or without. -/
theorem validates_encodeSource (source : Source) :
    validates sourceSchema (encodeSource source)=true ↔
      source.labels≠none ∧ source.annotations≠none ∧
        source.providedEventTypeTypes≠.nil ∧ source.providedEventTypes≠.nil := by
  rw [←validates_encodeStringMap,←validates_encodeStringMap,←validates_encodeStrings,
    ←validates_encodeStrings]
  dsimp only [sourceSchema,encodeSource]
  rw [validates_object_iff]
  -- one property after the other; only the sink may be absent
  simp only [List.forall_mem_cons,List.cons_append,List.nil_append]
  cases source.sink <;> simp [lookup_field,lookup_omitEmpty,validates,validates_encodeReference]

/-- What an event type needs to be written as its schema says, whichever of its
pointers are nil. -/
theorem validates_encodeEventType (et : EventType) :
    validates eventTypeSchema (encodeEventType et)=true ↔
      et.labels≠none ∧ et.annotations≠none ∧ et.consumedBy≠.nil := by
  rw [←validates_encodeStringMap,←validates_encodeStringMap,←validates_encodeStrings]
  have hobject : validates eventTypeSchema (encodeEventType et)=true ↔
      (∀ property ∈ eventTypeProperties, ∀ value,
        (encodeEventType et).field property.1=some value → validates property.2 value=true) ∧
      ∀ name ∈ eventTypeRequired, ((encodeEventType et).field name).isSome=true :=
    validates_object_iff _ _ _
  have hrequired : ∀ name ∈ eventTypeRequired, ((encodeEventType et).field name).isSome=true := by
    simp only [eventTypeRequired,List.forall_mem_cons]
    simp [field_encodeEventType]
  rw [hobject,and_iff_left hrequired]
  -- one property after the other; strings and references are always as their schemas say
  simp only [eventTypeProperties,List.forall_mem_cons]
  simp [field_encodeEventType,validates,validates_encodeReference]

/-- A mesh whose lists are not nil is written as its schema says exactly when
all its resources are. -/
theorem validates_encodeMesh (eventTypes : List EventType) (brokers : List Broker)
    (sources : List Source) (subscribables : List Subscribable) :
    validates eventMeshSchema
        (encodeMesh ⟨.of brokers,.of eventTypes,.of sources,.of subscribables⟩)=true ↔
      (∀ et ∈ eventTypes, validates eventTypeSchema (encodeEventType et)=true) ∧
      (∀ br ∈ brokers, validates brokerSchema (encodeBroker br)=true) ∧
      (∀ s ∈ subscribables, validates subscribableSchema (encodeSubscribable s)=true) ∧
      ∀ source ∈ sources, validates sourceSchema (encodeSource source)=true := by
  dsimp only [eventMeshSchema,encodeMesh]
  rw [validates_object_iff]
  simp [lookup_field,encodeSlice,validates_array_map_iff]

/-- A resource has labels, and an annotation that is not excluded. -/
def Described (labels annotations : StringMap) : Prop :=
  labels≠none ∧ ∃ key value, annotations.get key=some value ∧ key ∉ excludedAnnotations

/-- The filter returns nil when it leaves nothing. -/
theorem filterAnnotations_some_eq_none_iff (m : GoMap String) :
    filterAnnotations (some m)=none ↔ (m.filter fun key _ => key ∉ excludedAnnotations)=∅ := by
  dsimp only [filterAnnotations]
  rw [←Std.ExtTreeMap.isEmpty_iff]
  split
  · next hempty => exact ⟨fun _ => hempty,fun _ => rfl⟩
  · next hempty => exact ⟨nofun,fun h => absurd h hempty⟩

/-- The filter leaves annotations exactly where there is one that is not excluded. -/
theorem filterAnnotations_ne_none_iff (annotations : StringMap) :
    filterAnnotations annotations≠none ↔
      ∃ key value, annotations.get key=some value ∧ key ∉ excludedAnnotations := by
  cases annotations with
  | none => exact ⟨fun h => absurd rfl h,fun ⟨_,_,h,_⟩ => nomatch h⟩
  | some m =>
    have hkept : ∀ key value, (m.filter fun key _ => key ∉ excludedAnnotations)[key]?=some value ↔
        m[key]?=some value ∧ key ∉ excludedAnnotations := by
      intro key value
      rw [Std.ExtTreeMap.getElem?_filter',Option.filter_eq_some_iff,decide_eq_true_iff]
    rw [ne_eq,filterAnnotations_some_eq_none_iff,Std.ExtTreeMap.eq_empty_iff_forall_not_mem,not_forall]
    constructor
    · intro hp
      rcases hp with ⟨key,hmem⟩
      have hsome := Std.ExtTreeMap.mem_iff_isSome_getElem?.mp (not_not.mp hmem)
      obtain ⟨value,hvalue⟩ := Option.isSome_iff_exists.mp hsome
      exact ⟨key,value,(hkept key value).mp hvalue⟩
    · intro hp
      rcases hp with ⟨key,value,hget⟩
      have hvalue := (hkept key value).mpr hget
      exact ⟨key,not_not.mpr (Std.ExtTreeMap.mem_iff_isSome_getElem?.mpr
        (Option.isSome_of_eq_some hvalue))⟩

/-- Being described is what the two maps of a resource need. -/
theorem described_iff (labels annotations : StringMap) :
    Described labels annotations ↔ labels≠none ∧ filterAnnotations annotations≠none := by
  rw [Described,filterAnnotations_ne_none_iff]

/-- A property of all elements of a list is one of all elements that they are
related to, if it is so one by one. -/
theorem forall_iff_of_forall₂ {α β : Type} {R : α → β → Prop} {P : α → Prop} {Q : β → Prop}
    {xs : List α} {ys : List β} (h : List.Forall₂ R xs ys)
    (hone : ∀ x, ∀ y ∈ ys, R x y → (Q y ↔ P x)) : (∀ y ∈ ys, Q y) ↔ ∀ x ∈ xs, P x := by
  induction h with
  | nil => exact ⟨fun _ _ hx => absurd hx List.not_mem_nil,fun _ _ hy => absurd hy List.not_mem_nil⟩
  | cons hxy _ ih =>
    have hrest := ih fun x y hy => hone x y (List.mem_cons_of_mem _ hy)
    rw [List.forall_mem_cons,List.forall_mem_cons,hone _ _ List.mem_cons_self hxy,hrest]

section Run

variable {lib : Libraries} {answers : Answers} (f : Fetched lib answers) {store : Store}
  (h : f.finished=.ok store)

include h

/-- Event types are written as their schema says where they are described. -/
theorem eventTypes_validate_iff :
    (∀ et ∈ store.eventTypes, validates eventTypeSchema (encodeEventType et)=true) ↔
      ∀ et ∈ f.eventTypes, Described et.objectMeta.labels et.objectMeta.annotations := by
  have hone : ∀ resource : EventTypeResource, ∀ et ∈ store.eventTypes,
      fixed (convertEventType resource)=fixed et →
        (validates eventTypeSchema (encodeEventType et)=true ↔
          Described resource.objectMeta.labels resource.objectMeta.annotations) := by
    intro resource et het hfixed
    have hlabels : resource.objectMeta.labels=et.labels := congrArg EventType.labels hfixed
    have hannotations : filterAnnotations resource.objectMeta.annotations=et.annotations :=
      congrArg EventType.annotations hfixed
    have hconsumers := consumedBy_ne_nil f h het
    rw [validates_encodeEventType,described_iff,hlabels,hannotations]
    exact ⟨fun hv => ⟨hv.1,hv.2.1⟩,fun hv => ⟨hv.1,hv.2,hconsumers⟩⟩
  have hiff := forall_iff_of_forall₂ (eventTypes_forall₂ f h) hone
  simpa only [(sortEventTypes_perm f.eventTypes).mem_iff] using hiff

/-- Brokers are written as their schema says where they are described. -/
theorem brokers_validate_iff :
    (∀ br ∈ store.brokers, validates brokerSchema (encodeBroker br)=true) ↔
      ∀ br ∈ f.brokers, Described br.objectMeta.labels br.objectMeta.annotations := by
  apply forall_iff_of_forall₂ (brokers_forall₂ f h)
  intro resource br hbr hfixed
  have hlabels : resource.objectMeta.labels=br.labels := congrArg Broker.labels hfixed
  have hannotations : filterAnnotations resource.objectMeta.annotations=br.annotations :=
    congrArg Broker.annotations hfixed
  obtain ⟨_,_,hprovided,_⟩ := getElem?_of_mem_brokers f h hbr
  rw [validates_encodeBroker,described_iff,hlabels,hannotations,hprovided]
  exact ⟨fun hv => ⟨hv.1,hv.2.1⟩,fun hv => ⟨hv.1,hv.2,nofun⟩⟩

/-- Subscribables are written as their schema says where they are described. -/
theorem subscribables_validate_iff {instances : Slice Instance}
    (hlisted : listedSubscribables lib answers=.ok instances) :
    (∀ s ∈ store.subscribables, validates subscribableSchema (encodeSubscribable s)=true) ↔
      ∀ i ∈ instances.toList, Described i.object.getLabels i.object.getAnnotations := by
  obtain ⟨found,hfound,hall⟩ := subscribables_forall₂ f h
  have hsame : found=instances := Except.ok.inj (hfound.symm.trans hlisted)
  subst hsame
  apply forall_iff_of_forall₂ hall
  intro i s hs hfixed
  have hlabels : i.object.getLabels=s.labels := congrArg Subscribable.labels hfixed
  have hannotations : filterAnnotations i.object.getAnnotations=s.annotations :=
    congrArg Subscribable.annotations hfixed
  obtain ⟨_,_,hprovided,_⟩ := getElem?_of_mem_subscribables f h hs
  rw [validates_encodeSubscribable,described_iff,hlabels,hannotations,hprovided]
  exact ⟨fun hv => ⟨hv.1,hv.2.1⟩,fun hv => ⟨hv.1,hv.2,nofun⟩⟩

/-- Sources are written as their schema says where they are described. -/
theorem sources_validate_iff {instances : Slice Instance}
    (hlisted : listedSources lib answers=.ok instances) :
    (∀ source ∈ store.sources, validates sourceSchema (encodeSource source)=true) ↔
      ∀ i ∈ instances.toList, Described i.object.getLabels i.object.getAnnotations := by
  obtain ⟨found,hfound,hall⟩ := sources_forall₂ f h
  have hsame : found=instances := Except.ok.inj (hfound.symm.trans hlisted)
  subst hsame
  apply forall_iff_of_forall₂ hall
  intro i source hmem hconvert
  obtain ⟨announced,_,hconverted⟩ := bind_eq_ok.mp hconvert
  have hfixed := Except.ok.inj hconverted
  have hlabels : i.object.getLabels=source.labels := congrArg Source.labels hfixed
  have hannotations : filterAnnotations i.object.getAnnotations=source.annotations :=
    congrArg Source.annotations hfixed
  have htypes : .of announced=source.providedEventTypeTypes :=
    congrArg Source.providedEventTypeTypes hfixed
  have hprovided : source.providedEventTypes≠.nil := by
    rw [(f.finished_frame h).sources,registered_sources] at hmem
    obtain ⟨fetched,_,rfl⟩ := List.mem_map.mp hmem
    exact nofun
  rw [validates_encodeSource,described_iff,hlabels,hannotations,←htypes]
  exact ⟨fun hv => ⟨hv.1,hv.2.1⟩,fun hv => ⟨hv.1,hv.2,nofun,hprovided⟩⟩

end Run

/-- The response is what its schema says exactly when every listed resource has
labels and an annotation that is not excluded. All slices are never null. -/
theorem response_validates_iff {lib : Libraries} {answers : Answers} (f : Fetched lib answers)
    {mesh : EventMesh} (hmesh : buildEventMesh lib answers=.ok mesh) :
    validates eventMeshSchema (encodeMesh mesh)=true ↔
      (∀ et ∈ f.eventTypes, Described et.objectMeta.labels et.objectMeta.annotations) ∧
      (∀ br ∈ f.brokers, Described br.objectMeta.labels br.objectMeta.annotations) ∧
      (∀ instances, listedSubscribables lib answers=.ok instances →
        ∀ i ∈ instances.toList, Described i.object.getLabels i.object.getAnnotations) ∧
      ∀ instances, listedSources lib answers=.ok instances →
        ∀ i ∈ instances.toList, Described i.object.getLabels i.object.getAnnotations := by
  obtain ⟨store,h,rfl⟩ := f.buildEventMesh_eq_ok_iff.mp hmesh
  obtain ⟨subscribables,hsubscribables,_⟩ := subscribables_forall₂ f h
  obtain ⟨sources,hsources,_⟩ := sources_forall₂ f h
  have hmeshIff : validates eventMeshSchema (encodeMesh (outputMesh store))=true ↔ _ :=
    validates_encodeMesh store.eventTypes store.brokers store.sources store.subscribables
  rw [hmeshIff,eventTypes_validate_iff f h,brokers_validate_iff f h,
    subscribables_validate_iff f h hsubscribables,sources_validate_iff f h hsources,
    hsubscribables,hsources]
  simp only [Except.ok.injEq,forall_eq']

/-- One broker, with some labels and annotations. -/
def oneBroker (labels annotations : StringMap) : Contents :=
  { brokers := [⟨⟨"main","shop","uid-1",labels,annotations⟩⟩]
    eventTypes := [], triggers := [], subscriptions := [], objects := [] }

/-- What a run over the broker fetches. -/
def oneBrokerFetched (labels annotations : StringMap) :
    Fetched (librariesWith []) (snapshot (oneBroker labels annotations).cluster) :=
  @Contents.fetched (oneBroker labels annotations) (librariesWith []) (.of []) (.of []) rfl rfl

/-- A broker with a label and an annotation is written as the schema says. -/
theorem response_validates_iff_described :
    ∃ mesh, buildEventMesh (librariesWith []) (snapshot (oneBroker (some (.ofList [("team","shop")]))
        (some (.ofList [("note","a")]))).cluster)=.ok mesh ∧
      validates eventMeshSchema (encodeMesh mesh)=true := by
  have hmesh := (oneBrokerFetched (some (.ofList [("team","shop")]))
    (some (.ofList [("note","a")]))).buildEventMesh_eq
  refine ⟨_,hmesh,(response_validates_iff (oneBrokerFetched _ _) hmesh).mpr
    ⟨fun _ het => absurd het List.not_mem_nil,fun br hbr => ?_,fun instances hlisted => ?_,
      fun instances hlisted => ?_⟩⟩
  · rw [List.mem_singleton.mp hbr]
    exact ⟨nofun,"note","a",by decide,by decide⟩
  · cases hlisted
    exact fun i hi => absurd hi List.not_mem_nil
  · cases hlisted
    exact fun i hi => absurd hi List.not_mem_nil

/-- A broker without labels and annotations is written with two nulls. -/
theorem bareBroker_not_validated :
    ∃ mesh, buildEventMesh (librariesWith []) (snapshot (oneBroker none none).cluster)=.ok mesh ∧
      validates eventMeshSchema (encodeMesh mesh)=false :=
  ⟨_,(oneBrokerFetched none none).buildEventMesh_eq,by decide⟩

end KnativeMesh.MeshSchema
