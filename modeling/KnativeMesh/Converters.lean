import KnativeMesh.Mesh

/-!
# Converters from Kubernetes resources to the mesh

Every converter copies name, namespace, identifier and labels, filters the
annotations and leaves the relations to other resources empty. Only the
converter of sources can fail, on an annotation of the CRD that does not decode.
-/

namespace KnativeMesh.Converters

open Go GoJson Library.JsonTree UnstructuredObject Kubernetes Mesh

/-- Annotations that are not passed on. -/
def excludedAnnotations : List String := ["kubectl.kubernetes.io/last-applied-configuration"]

/-- Drop the excluded annotations; nil when nothing is left. -/
def filterAnnotations : StringMap → StringMap
  | none => none
  | some annotations =>
    let ret := annotations.filter fun k _ => k ∉ excludedAnnotations
    if ret.isEmpty then none else some ret

/-- Convert a broker; its event types are registered later. -/
def convertBroker (br : BrokerResource) : Broker :=
  { name := br.objectMeta.name, nameSpace := br.objectMeta.nameSpace, uid := br.objectMeta.uid
    labels := br.objectMeta.labels, annotations := filterAnnotations br.objectMeta.annotations
    providedEventTypes := .of [] }

/-- Convert an event type; its consumers are added later. The reference is
taken to name a resource in the event type's own namespace. -/
def convertEventType (et : EventTypeResource) : EventType :=
  { name := et.objectMeta.name, nameSpace := et.objectMeta.nameSpace, type := et.spec.type, uid := et.objectMeta.uid
    description := toStrPtrOrNil et.spec.description
    schemaData := toStrPtrOrNil et.spec.schemaData
    schemaURL := toStrPtrOrNil (et.spec.schema.getD "")
    labels := et.objectMeta.labels, annotations := filterAnnotations et.objectMeta.annotations
    reference := et.spec.reference.map fun ref =>
      { group := apiVersionToGroup ref.apiVersion, kind := ref.kind
        nameSpace := et.objectMeta.nameSpace, name := ref.name }
    consumedBy := .of [] }

/-- Convert an instance of a subscribable CRD. -/
def convertSubscribable (gvr : GroupVersionResource) (u : Unstructured) : Subscribable :=
  { nameSpace := u.getNamespace, name := u.getName, uid := u.getUID
    annotations := filterAnnotations u.getAnnotations, labels := u.getLabels
    group := gvr.group, kind := u.getKind
    providedEventTypes := .of [] }

/-- The annotation of a source CRD that lists its event types. -/
def eventTypesAnnotationKey : String := "registry.knative.dev/eventTypes"

/-- The sink of a source, if spec.sink.ref is a map of strings with API
version, kind and name. It is taken to be in the source's own namespace. -/
def getSinkRef (u : Unstructured) : Option GroupKindNamespacedName :=
  match u.nestedStringMap ["spec","sink","ref"] with
  | .ok (some stringMap) => do
    let apiVersion ← stringMap["apiVersion"]?
    let kind ← stringMap["kind"]?
    let name ← stringMap["name"]?
    some ⟨apiVersionToGroup apiVersion,kind,u.getNamespace,name⟩
  | _ => none

/-- The types that a source CRD announces; none without the annotation. -/
def announcedTypes (lib : Libraries) (crd : Unstructured) : Result (List String) :=
  match crd.getAnnotations.get eventTypesAnnotationKey with
  | none => .ok []
  | some eventTypesJson =>
    match lib.unmarshalEventTypes eventTypesJson with
    | some entries => .ok (entries.map (·.type))
    | none => .error (.error (.plain "failed to unmarshal event types"))

/-- Convert an instance of a source CRD. -/
def convertSource (lib : Libraries) (gvr : GroupVersionResource) (crd source : Unstructured) :
    Result Source := do
  let providedEventTypeTypes ← announcedTypes lib crd
  .ok
    { nameSpace := source.getNamespace, name := source.getName, uid := source.getUID
      annotations := filterAnnotations source.getAnnotations, labels := source.getLabels
      providedEventTypeTypes := .of providedEventTypeTypes
      providedEventTypes := .of []
      group := gvr.group, kind := source.getKind
      sink := getSinkRef source }

end KnativeMesh.Converters
