import KnativeMesh.Kubernetes

/-!
# The event mesh of the backend

The structures that the backend fills and sends, and the string keys under
which it joins them. A key joins namespace and name, or group, kind, namespace
and name, with an unescaped slash.
-/

namespace KnativeMesh.Mesh

open Go Kubernetes

/-- Namespaced name: "namespace/name". -/
def namespacedName (ns name : String) : String := ns++"/"++name

/-- Full key: "group/kind/namespace/name". -/
def gkNamespacedName (group kind ns name : String) : String :=
  group++"/"++kind++"/"++ns++"/"++name

/-- The group part of an API version: what stands before the first slash, or
the whole string when there is none. -/
def apiVersionToGroup (apiVersion : String) : String :=
  if '/' ∉ apiVersion.toList then apiVersion
  else String.ofList (apiVersion.toList.take (apiVersion.toList.idxOf '/'))

/-- A pointer to the string, nil for the empty string. -/
def toStrPtrOrNil (s : String) : Option String := if s="" then none else some s

/-- Group, kind, namespace and name of a Kubernetes resource. -/
structure GroupKindNamespacedName where
  group : String
  kind : String
  nameSpace : String
  name : String
  deriving DecidableEq

/-- The key of the resource in the builder's maps. -/
def GroupKindNamespacedName.string (gknn : GroupKindNamespacedName) : String :=
  gkNamespacedName gknn.group gknn.kind gknn.nameSpace gknn.name

/-- A broker of the mesh; annotations come without the excluded ones. -/
structure Broker where
  annotations : StringMap
  labels : StringMap
  name : String
  nameSpace : String
  /-- Namespaced names of the event types it provides. -/
  providedEventTypes : Slice String
  uid : String

/-- An event type of the mesh. -/
structure EventType where
  annotations : StringMap
  /-- Backstage ids of the consumers. -/
  consumedBy : Slice String
  description : Option String
  labels : StringMap
  name : String
  nameSpace : String
  reference : Option GroupKindNamespacedName
  schemaData : Option String
  schemaURL : Option String
  type : String
  uid : String

/-- A source of the mesh. -/
structure Source where
  annotations : StringMap
  group : String
  kind : String
  labels : StringMap
  name : String
  nameSpace : String
  /-- CloudEvents types that the CRD's annotation lists. -/
  providedEventTypeTypes : Slice String
  /-- Namespaced names of the event types of those types. -/
  providedEventTypes : Slice String
  sink : Option GroupKindNamespacedName
  uid : String

/-- A subscribable of the mesh, such as a channel. -/
structure Subscribable where
  annotations : StringMap
  group : String
  kind : String
  labels : StringMap
  name : String
  nameSpace : String
  /-- Namespaced names of the event types it provides. -/
  providedEventTypes : Slice String
  uid : String

/-- The whole mesh, as the backend serialises it. -/
structure EventMesh where
  brokers : Slice Broker
  eventTypes : Slice EventType
  sources : Slice Source
  subscribables : Slice Subscribable

/-- The namespaced name under which providers list an event type. -/
def EventType.namespacedName (et : EventType) : String := Mesh.namespacedName et.nameSpace et.name

/-- API group of brokers. -/
def brokerGroup : String := "eventing.knative.dev"

/-- Kind of brokers. -/
def brokerKind : String := "Broker"

/-- The key of a broker in the broker map. -/
def Broker.key (br : Broker) : String := gkNamespacedName brokerGroup brokerKind br.nameSpace br.name

/-- The key of a subscribable in the subscribable map. -/
def Subscribable.key (s : Subscribable) : String := gkNamespacedName s.group s.kind s.nameSpace s.name

/-- br.ProvidedEventTypes = append(br.ProvidedEventTypes, name). -/
def Broker.provide (br : Broker) (name : String) : Broker :=
  {br with providedEventTypes := br.providedEventTypes.append name}

/-- subscribable.ProvidedEventTypes = append(subscribable.ProvidedEventTypes, name). -/
def Subscribable.provide (s : Subscribable) (name : String) : Subscribable :=
  {s with providedEventTypes := s.providedEventTypes.append name}

/-- source.ProvidedEventTypes = append(source.ProvidedEventTypes, name). -/
def Source.provide (s : Source) (name : String) : Source :=
  {s with providedEventTypes := s.providedEventTypes.append name}

/-- et.ConsumedBy = append(et.ConsumedBy, id). -/
def EventType.consume (et : EventType) (id : String) : EventType :=
  {et with consumedBy := et.consumedBy.append id}

end KnativeMesh.Mesh
