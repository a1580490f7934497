import KnativeMesh.Apimachinery
import KnativeMesh.Fetches

/-!
# Clusters given by their contents

An API server that lets its caller read everything is given by the objects it
stores: lists answer with the stored objects, a get answers with the object or
with a NotFound status. On such a cluster no lookup of a subscriber fails.
-/

namespace KnativeMesh.ClusterContents

open Go Library.JsonTree UnstructuredObject Kubernetes Apimachinery Mesh Converters Builder Runs

/-- What an API server stores, of the kinds that the backend reads. -/
structure Contents where
  brokers : List BrokerResource
  eventTypes : List EventTypeResource
  triggers : List TriggerResource
  subscriptions : List SubscriptionResource
  /-- All other objects, CRDs included, with the resource they are stored under. -/
  objects : List (GroupVersionResource×Unstructured)

/-- An equality-based label selector of one label; the empty one selects all. -/
def selects (labelSelector : String) (u : Unstructured) : Bool :=
  labelSelector="" || ((u.getLabels.getD ∅).toList.any fun label => label.1++"="++label.2=labelSelector)

/-- The stored objects of a resource. -/
def Contents.objectsOf (contents : Contents) (gvr : GroupVersionResource) : List Unstructured :=
  (contents.objects.filter (·.1=gvr)).map (·.2)

/-- The status of a get that finds no object. -/
def notFoundStatus (gvr : GroupVersionResource) (name : String) : GoError :=
  .status ⟨.notFound,404,gvr.resource++"."++gvr.group++" \""++name++"\" not found"⟩

/-- The answers of an API server that stores the contents and denies nothing. -/
def Contents.cluster (contents : Contents) : Cluster :=
  { clientset :=
      { brokers := .ok contents.brokers, eventTypes := .ok contents.eventTypes
        triggers := .ok contents.triggers, subscriptions := .ok contents.subscriptions }
    dynamicClient :=
      { list := fun gvr labelSelector => .ok ((contents.objectsOf gvr).filter (selects labelSelector))
        get := fun gvr ns name =>
          match (contents.objectsOf gvr).find? fun u => u.getNamespace=ns && u.getName=name with
          | some u => .ok u
          | none => .error (notFoundStatus gvr name) } }

/-- An object with some labels and nothing else than its identity. -/
def manifest (kind ns name : String) (labels : List (String×String)) : Unstructured :=
  unstructured (.obj [("kind",.str kind),
    ("metadata",.obj [("namespace",.str ns),("name",.str name),
      ("labels",.obj (labels.map fun label => (label.1,.str label.2)))])])

/-- A CRD that defines one served version of a resource. -/
def crdManifest (gvr : GroupVersionResource) (label : String) (annotations : List (String×String)) :
    Unstructured :=
  unstructured (.obj [("kind",.str "CustomResourceDefinition"),
    ("metadata",.obj [("name",.str (gvr.resource++"."++gvr.group)),
      ("labels",.obj [(label,.str "true")]),
      ("annotations",.obj (annotations.map fun entry => (entry.1,.str entry.2)))]),
    ("spec",.obj [("group",.str gvr.group),
      ("versions",.arr [.obj [("name",.str gvr.version),("served",.bool true)]]),
      ("names",.obj [("plural",.str gvr.resource)])])])

/-- Metadata without labels and annotations. -/
def bareMeta (ns name : String) : ObjectMeta := ⟨name,ns,ns++"."++name,none,none⟩

/-- An event type with nothing optional but its reference. -/
def bareEventType (ns name type : String) (reference : Option KReference) : EventTypeResource :=
  ⟨bareMeta ns name,⟨type,none,"",reference,""⟩⟩

/-- The resource of in-memory channels. -/
def inMemoryChannels : GroupVersionResource := ⟨"messaging.knative.dev","v1","inmemorychannels"⟩

/-- The CRD of in-memory channels. -/
def inMemoryChannelCRD : Unstructured :=
  crdManifest inMemoryChannels "messaging.knative.dev/subscribable" []

/-- A get is answered, if only by a status that the object is not found. -/
theorem get_cluster (contents : Contents) (gvr : GroupVersionResource) (ns name : String) :
    (∃ u, contents.cluster.dynamicClient.get gvr ns name=.ok u) ∨
      contents.cluster.dynamicClient.get gvr ns name=.error (notFoundStatus gvr name) := by
  dsimp only [Contents.cluster]
  cases (contents.objectsOf gvr).find? fun u => u.getNamespace=ns && u.getName=name with
  | some u => exact .inl ⟨u,rfl⟩
  | none => exact .inr rfl

/-- What a run over a readable cluster fetches. -/
def Contents.fetched (contents : Contents) (lib : Libraries) {subscribables : Slice Subscribable}
    {sources : Slice Source}
    (hsubscribables : fetchSubscribables lib (snapshot contents.cluster)=.ok subscribables)
    (hsources : fetchSources lib (snapshot contents.cluster)=.ok sources) :
    Fetched lib (snapshot contents.cluster) :=
  ⟨contents.brokers,subscribables,sources,contents.eventTypes,contents.triggers,
    contents.subscriptions,rfl,hsubscribables,hsources,rfl,rfl,rfl⟩

/-- Libraries whose decoder knows the given annotation texts. -/
def librariesWith (texts : List (String×List EventTypeEntry)) : Libraries :=
  { fromAPIVersionAndKind := fromAPIVersionAndKind
    unsafeGuessKindToResource := guessKindToResource
    isNotFound := isNotFound
    isUnauthorized := isUnauthorized
    unmarshalEventTypes := fun text => texts.lookup text }

/-- Their predicates have the documented meaning. -/
theorem librariesWith_statusLaws (texts : List (String×List EventTypeEntry)) :
    (librariesWith texts).StatusLaws := statusLaws rfl rfl

/-- Their parser of API versions has the documented meaning. -/
theorem librariesWith_groupLaws (texts : List (String×List EventTypeEntry)) :
    (librariesWith texts).GroupLaws := groupLaws rfl

end KnativeMesh.ClusterContents
