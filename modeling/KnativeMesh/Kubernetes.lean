import KnativeMesh.UnstructuredObject

/-!
# Kubernetes resources and the API server's answers

The typed resources carry the fields that the backend reads. The API server is
known by its answers only: each call of a run is made at a moment of its own,
and at every moment the answers may be different ones, errors included. A
consistent snapshot of a cluster is the special case of equal answers at all
moments. Client libraries outside the repository are parameters.
-/

namespace KnativeMesh.Kubernetes

open Go GoJson Library.JsonTree UnstructuredObject

/-- The metadata that the converters pass on. -/
structure ObjectMeta where
  name : String
  nameSpace : String
  uid : String
  /-- Labels, nil when the object has none. -/
  labels : StringMap
  /-- Annotations, nil when the object has none. -/
  annotations : StringMap

/-- duckv1.KReference. -/
structure KReference where
  kind : String
  nameSpace : String
  name : String
  apiVersion : String
  deriving DecidableEq

/-- duckv1.Destination; only its optional reference is read. -/
structure Destination where
  ref : Option KReference

/-- eventingv1.Broker. -/
structure BrokerResource where
  objectMeta : ObjectMeta

/-- v1beta2.EventTypeSpec. -/
structure EventTypeSpec where
  type : String
  /-- The schema URL as apis.URL renders it; nil renders as the empty string. -/
  schema : Option String
  schemaData : String
  reference : Option KReference
  description : String

/-- v1beta2.EventType. -/
structure EventTypeResource where
  objectMeta : ObjectMeta
  spec : EventTypeSpec

/-- eventingv1.TriggerFilter; a nil attribute map reads like an empty one. -/
structure TriggerFilter where
  attributes : GoMap String

/-- eventingv1.TriggerSpec. -/
structure TriggerSpec where
  /-- Name of the broker, in the namespace of the trigger. -/
  broker : String
  filter : Option TriggerFilter
  subscriber : Destination

/-- eventingv1.Trigger. -/
structure TriggerResource where
  nameSpace : String
  spec : TriggerSpec

/-- messagingv1.SubscriptionSpec. -/
structure SubscriptionSpec where
  /-- The channel subscribed to, in the namespace of the subscription. -/
  channel : KReference
  /-- Receiver of the events; a pointer, which the API server's validation
  keeps from being nil. -/
  subscriber : Option Destination

/-- messagingv1.Subscription. -/
structure SubscriptionResource where
  nameSpace : String
  spec : SubscriptionSpec

/-- A kind of the API: group, version and kind. -/
structure GroupVersionKind where
  group : String
  version : String
  kind : String
  deriving DecidableEq

/-- The list calls of the typed client, over all namespaces. -/
structure Clientset where
  brokers : Except GoError (List BrokerResource)
  eventTypes : Except GoError (List EventTypeResource)
  triggers : Except GoError (List TriggerResource)
  subscriptions : Except GoError (List SubscriptionResource)

/-- The calls of the dynamic client. -/
structure DynamicClient where
  /-- List a resource over all namespaces under a label selector. -/
  list : GroupVersionResource → (labelSelector : String) → Except GoError (List Unstructured)
  /-- Get one object of a resource by namespace and name. -/
  get : GroupVersionResource → (ns name : String) → Except GoError Unstructured

/-- What the API server answers at one moment. -/
structure Cluster where
  clientset : Clientset
  dynamicClient : DynamicClient

/-- The calls of one run, in program order; indices count loop iterations. -/
inductive Moment where
  | brokers
  | subscribableCRDs
  | subscribables (crd : ℕ)
  | sourceCRDs
  | sources (crd : ℕ)
  | eventTypes
  | triggers
  | triggerSubscriber (trigger : ℕ)
  | subscriptions
  | subscriptionSubscriber (subscription : ℕ)
  deriving DecidableEq

/-- The answers that the calls of one run meet. -/
abbrev Answers := Moment → Cluster

/-- A cluster that does not change while a run reads it. -/
def snapshot (cluster : Cluster) : Answers := fun _ => cluster

/-- An entry of the annotation that lists the event types of a source. -/
structure EventTypeEntry where
  type : String
  schema : String
  description : String

/-- Functions of the libraries that the backend calls and the repository does
not contain. -/
structure Libraries where
  /-- schema.FromAPIVersionAndKind. -/
  fromAPIVersionAndKind : (apiVersion kind : String) → GroupVersionKind
  /-- meta.UnsafeGuessKindToResource, its plural result. -/
  unsafeGuessKindToResource : GroupVersionKind → GroupVersionResource
  /-- apierrors.IsNotFound. -/
  isNotFound : GoError → Bool
  /-- apierrors.IsUnauthorized. -/
  isUnauthorized : GoError → Bool
  /-- json.Unmarshal of an annotation text into a list of entries. -/
  unmarshalEventTypes : String → Option (List EventTypeEntry)

/-- What is known of the predicates on API errors: they look at the reason in
the chain of an error, and IsNotFound also at the code where the reason is
unknown. -/
structure Libraries.StatusLaws (lib : Libraries) : Prop where
  isNotFound_iff : ∀ err, lib.isNotFound err=true ↔
    reasonForError err=.notFound ∨ (reasonForError err=.unknown ∧ codeForError err=404)
  isUnauthorized_iff : ∀ err, lib.isUnauthorized err=true ↔ reasonForError err=.unauthorized

/-- What is known of schema.FromAPIVersionAndKind: the group stands before the
only slash, and without exactly one slash it is the core group. -/
structure Libraries.GroupLaws (lib : Libraries) : Prop where
  group_slash : ∀ group version kind, '/' ∉ group.toList → '/' ∉ version.toList →
    (lib.fromAPIVersionAndKind (group++"/"++version) kind).group=group
  core_group : ∀ apiVersion kind, apiVersion.toList.count '/'≠1 →
    (lib.fromAPIVersionAndKind apiVersion kind).group=""

/-- The resource of CRDs themselves. -/
def crdResource : GroupVersionResource :=
  ⟨"apiextensions.k8s.io","v1","customresourcedefinitions"⟩

/-- Label selector of the CRDs of subscribables. -/
def subscribableSelector : String := "messaging.knative.dev/subscribable=true"

/-- Label selector of the CRDs of sources. -/
def sourceSelector : String := "duck.knative.dev/source=true"

/-- Selector of a list call without options. -/
def noSelector : String := ""

end KnativeMesh.Kubernetes
