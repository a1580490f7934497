import KnativeMesh.Go
import KnativeMesh.Library.Index

/-!
# The entity provider

The mesh as the provider declares it, with its optional fields, and the
entities that it builds from it. The four entity builders share the metadata
that they compute and differ in kind, type and relations.
-/

namespace KnativeMesh.Provider

open Go Library.Index

/-- A Record<string, string>. -/
abbrev StringRecord := GoMap String

/-- An event type as the provider receives it. -/
structure EventType where
  name : String
  nameSpace : String
  type : String
  uid : String
  description : Option String
  schemaData : Option String
  schemaURL : Option String
  labels : Option StringRecord
  annotations : Option StringRecord
  consumedBy : Option (List String)

/-- A broker as the provider receives it. -/
structure Broker where
  name : String
  nameSpace : String
  uid : String
  labels : Option StringRecord
  annotations : Option StringRecord
  providedEventTypes : Option (List String)

/-- A subscribable as the provider receives it. -/
structure Subscribable where
  name : String
  nameSpace : String
  uid : String
  labels : Option StringRecord
  annotations : Option StringRecord
  group : String
  kind : String
  providedEventTypes : Option (List String)

/-- A source as the provider receives it. -/
structure Source where
  name : String
  nameSpace : String
  uid : String
  labels : Option StringRecord
  annotations : Option StringRecord
  group : String
  kind : String
  providedEventTypes : Option (List String)

/-- The mesh as the provider receives it. -/
structure EventMesh where
  eventTypes : List EventType
  brokers : List Broker
  subscribables : List Subscribable
  sources : List Source

/-- A link of an entity. -/
structure EntityLink where
  title : String
  icon : String
  url : String
  deriving DecidableEq

/-- Entity metadata; fields that only API entities have are optional. A namespace
is optional in the catalog, but all that is built here have one, and the
processor casts it to a string. -/
structure EntityMetadata where
  name : String
  nameSpace : String
  description : Option String
  labels : StringRecord
  annotations : StringRecord
  tags : List String
  links : Option (List EntityLink)
  title : Option String
  /-- Custom field that the processor reads. -/
  consumedBy : Option (List String)

/-- Entity specification; definition belongs to APIs, providesApis to components. -/
structure EntitySpec where
  type : String
  lifecycle : String
  system : String
  owner : String
  definition : Option String
  providesApis : Option (List String)
  deriving DecidableEq

/-- A catalog entity. -/
structure Entity where
  apiVersion : String
  kind : String
  metadata : EntityMetadata
  spec : EntitySpec

/-- TypeKnativeEvent. -/
def typeKnativeEvent : String := "eventType"

/-- TypeKnativeBroker. -/
def typeKnativeBroker : String := "broker"

/-- SystemKnative. -/
def systemKnative : String := "knative-event-mesh"

/-- OwnerKnative. -/
def ownerKnative : String := "knative"

/-- ANNOTATION_LOCATION. -/
def annotationLocation : String := "backstage.io/managed-by-location"

/-- ANNOTATION_ORIGIN_LOCATION. -/
def annotationOriginLocation : String := "backstage.io/managed-by-origin-location"

/-- A configured provider; env is the id of its configuration. -/
structure KnativeEventMeshProvider where
  env : String
  baseUrl : String
  token : Option String

namespace KnativeEventMeshProvider

variable (provider : KnativeEventMeshProvider)

/-- The name under which the provider's entities are kept. -/
def getProviderName : String := "knative-event-mesh-provider-"++provider.env

/-- Annotations with the two locations set, whatever they were before. -/
def locate (annotations : Option StringRecord) : StringRecord :=
  let url := "url:"++provider.baseUrl
  ((annotations.getD ∅).insert annotationLocation url).insert annotationOriginLocation url

/-- The links of an API: its external schema, unless the URL is empty. -/
def schemaLinks (schemaURL : Option String) : List EntityLink :=
  match schemaURL with
  | none => []
  | some url => if url="" then [] else [⟨"View external schema","scaffolder",url⟩]

/-- A string, or a default where it is missing or empty. -/
def orDefault (value : Option String) (default : String) : String :=
  match value with
  | none => default
  | some value => if value="" then default else value

/-- Build the API entity of an event type. -/
def buildEventTypeEntity (eventType : EventType) : Entity :=
  { apiVersion := "backstage.io/v1alpha1", kind := "API"
    metadata :=
      { name := eventType.name, nameSpace := eventType.nameSpace
        description := eventType.description
        labels := eventType.labels.getD ∅
        annotations := provider.locate eventType.annotations
        tags := []
        links := some (schemaLinks eventType.schemaURL)
        title := some (eventType.type++" - ("++eventType.nameSpace++"/"++eventType.name++")")
        consumedBy := some (eventType.consumedBy.getD []) }
    spec :=
      { type := typeKnativeEvent, lifecycle := provider.env, system := systemKnative
        owner := ownerKnative
        definition := some (orDefault eventType.schemaData "{}"), providesApis := none } }

/-- References to the APIs that a component provides. -/
def providedApis (providedEventTypes : Option (List String)) : List String :=
  (providedEventTypes.getD []).map ("api:"++·)

/-- Build the component entity of a broker. -/
def buildBrokerEntity (broker : Broker) : Entity :=
  { apiVersion := "backstage.io/v1alpha1", kind := "Component"
    metadata :=
      { name := broker.name, nameSpace := broker.nameSpace, description := none
        labels := broker.labels.getD ∅, annotations := provider.locate broker.annotations
        tags := [], links := none, title := none, consumedBy := none }
    spec :=
      { type := typeKnativeBroker, lifecycle := provider.env, system := systemKnative
        owner := ownerKnative, definition := none
        providesApis := some (providedApis broker.providedEventTypes) } }

/-- Build the component entity of a subscribable. -/
def buildSubscribableEntity (subscribable : Subscribable) : Entity :=
  { apiVersion := "backstage.io/v1alpha1", kind := "Component"
    metadata :=
      { name := subscribable.name, nameSpace := subscribable.nameSpace, description := none
        labels := subscribable.labels.getD ∅
        annotations := provider.locate subscribable.annotations
        tags := [], links := none, title := none, consumedBy := none }
    spec :=
      { type := subscribable.group++":"++subscribable.kind, lifecycle := provider.env
        system := systemKnative, owner := ownerKnative, definition := none
        providesApis := some (providedApis subscribable.providedEventTypes) } }

/-- Build the component entity of a source. -/
def buildSourceEntity (source : Source) : Entity :=
  { apiVersion := "backstage.io/v1alpha1", kind := "Component"
    metadata :=
      { name := source.name, nameSpace := source.nameSpace, description := none
        labels := source.labels.getD ∅, annotations := provider.locate source.annotations
        tags := [], links := none, title := none, consumedBy := none }
    spec :=
      { type := source.group++":"++source.kind, lifecycle := provider.env
        system := systemKnative, owner := ownerKnative, definition := none
        providesApis := some (providedApis source.providedEventTypes) } }

/-- One entity per resource: event types, brokers, subscribables, sources. -/
def buildEntities (eventMesh : EventMesh) : List Entity :=
  eventMesh.eventTypes.map provider.buildEventTypeEntity++
    eventMesh.brokers.map provider.buildBrokerEntity++
    eventMesh.subscribables.map provider.buildSubscribableEntity++
    eventMesh.sources.map provider.buildSourceEntity

/-- What a key of the located annotations leads to. -/
theorem getElem?_locate (annotations : Option StringRecord) (key : String) :
    (provider.locate annotations)[key]?=
      if key=annotationLocation ∨ key=annotationOriginLocation then some ("url:"++provider.baseUrl)
      else (annotations.getD ∅)[key]? := by
  dsimp only [locate]
  by_cases horigin : key=annotationOriginLocation
  · subst horigin
    simp
  · rw [getElem?_insert_of_ne _ (Ne.symm horigin)]
    by_cases hlocation : key=annotationLocation
    · subst hlocation
      simp
    · rw [getElem?_insert_of_ne _ (Ne.symm hlocation)]
      simp [horigin,hlocation]

end KnativeEventMeshProvider

end KnativeMesh.Provider
