import KnativeMesh.Provider
import KnativeMesh.Library.Paging

/-!
# The entity processor

For every API of an event type the processor looks the listed consumers up in
the catalog and emits relations between the API and the components it finds. The
catalog is a service known by its answers: requests are numbered, and each meets
the answers of its own number, so two equal requests may get different answers.
The answers serve a catalog if every query gets the entities that match its
filter, on finitely many pages and without an error.
-/

namespace KnativeMesh.Processor

open Go Library.Paging
open Provider (Entity typeKnativeEvent)

/-- A request of CatalogApi.queryEntities. -/
structure QueryEntitiesRequest where
  /-- Conditions on fields, given by their paths. -/
  filter : List (String×String)
  cursor : Option String
  limit : ℕ
  deriving DecidableEq

/-- The part of CatalogApi that the processor uses; errors come with a message. -/
structure CatalogApi where
  queryEntities : QueryEntitiesRequest → Except String (Page Entity String)

/-- An end of a relation. -/
structure CompoundEntityRef where
  kind : String
  nameSpace : String
  name : String
  deriving DecidableEq

/-- A relation that the processor emits. -/
structure Relation where
  type : String
  source : CompoundEntityRef
  target : CompoundEntityRef
  deriving DecidableEq

/-- What processing an entity comes to: the entity returned, the requests sent
to the catalog and the relations emitted, each in order. -/
structure Processed where
  entity : Entity
  requests : List QueryEntitiesRequest
  relations : List Relation

/-- Path of the annotation that ties a component to a Kubernetes resource. -/
def kubernetesIdPath : String := "metadata.annotations.backstage.io/kubernetes-id"

/-- The filter for the components of a namespace with a Backstage id. -/
def componentFilter (ns componentId : String) : List (String×String) :=
  [("kind","component"),("metadata.namespace",ns),(kubernetesIdPath,componentId)]

/-- Whether a cursor keeps the loop going; the empty string does not. -/
def cursorGoesOn : Option String → Bool
  | none => false
  | some cursor => cursor≠""

section Code

variable (answers : ℕ → CatalogApi) (queryEntityPageLimit : ℕ)

/-- The request for a page of the components of a namespace with an id. -/
def pageRequest (ns componentId : String) (cursor : Option String) : QueryEntitiesRequest :=
  ⟨componentFilter ns componentId,cursor,queryEntityPageLimit⟩

/-- The answers to the requests for one consumer, by number and cursor. -/
def pageQuery (ns componentId : String) (number : ℕ) (cursor : Option String) :
    Except String (Page Entity String) :=
  (answers number).queryEntities (pageRequest queryEntityPageLimit ns componentId cursor)

/-- findComponentsByBackstageId, from a number of earlier requests on: the
requests sent and the components found. A query that fails leaves no components. -/
def findComponentsByBackstageId (fuel number : ℕ) (ns componentId : String) :
    Option (List QueryEntitiesRequest×List Entity) :=
  match readPages (pageQuery answers queryEntityPageLimit ns componentId) cursorGoesOn fuel number
      none [] with
  | none => none
  | some ⟨requested,.ok entities⟩ =>
    some (requested.map (pageRequest queryEntityPageLimit ns componentId),entities)
  | some ⟨requested,.error _⟩ =>
    some (requested.map (pageRequest queryEntityPageLimit ns componentId),[])

/-- The API's end of a relation. -/
def apiRef (entity : Entity) : CompoundEntityRef :=
  ⟨"API",entity.metadata.nameSpace,entity.metadata.name⟩

/-- A component's end of a relation. -/
def componentRef (component : Entity) : CompoundEntityRef :=
  ⟨"Component",component.metadata.nameSpace,component.metadata.name⟩

/-- The two relations between an API and a component that consumes it. -/
def relationsBetween (entity component : Entity) : List Relation :=
  [⟨"apiConsumedBy",apiRef entity,componentRef component⟩,
    ⟨"consumesApi",componentRef component,apiRef entity⟩]

/-- The loop over the consumers of an API, from a number of earlier requests on. -/
def emitRelations (fuel : ℕ) (entity : Entity) :
    ℕ → List String → Option (List QueryEntitiesRequest×List Relation)
  | _,[] => some ([],[])
  | number,consumedBy::consumers =>
    match findComponentsByBackstageId answers queryEntityPageLimit fuel number
        entity.metadata.nameSpace consumedBy with
    | none => none
    | some (requests,consumerComponents) =>
      (emitRelations fuel entity (number+requests.length) consumers).map fun later =>
        (requests++later.1,consumerComponents.flatMap (relationsBetween entity)++later.2)

/-- preProcessEntity, from a number of earlier requests on; an entity that is no
API of an event type, or has no consumers, is passed through. -/
def preProcessEntity (fuel number : ℕ) (entity : Entity) : Option Processed :=
  if entity.kind="API" ∧ entity.spec.type=typeKnativeEvent then
    match entity.metadata.consumedBy with
    | none => some ⟨entity,[],[]⟩
    | some consumers =>
      (emitRelations answers queryEntityPageLimit fuel entity number consumers).map fun emitted =>
        ⟨entity,emitted.1,emitted.2⟩
  else some ⟨entity,[],[]⟩

end Code

section Catalog

/-- The catalog compares texts without regard to case. -/
def lowerCase (s : String) : String := String.ofList (s.toList.map Char.toLower)

/-- The triple that identifies an entity. -/
def entityKey (entity : Entity) : String×String×String :=
  (lowerCase entity.kind,lowerCase entity.metadata.nameSpace,lowerCase entity.metadata.name)

/-- The contents of a catalog, in which no two entities have the same triple. -/
structure Catalog where
  entities : List Entity
  distinct : (entities.map entityKey).Nodup

/-- The value of an entity under a path, as far as filters ask for it. -/
def searchValue (entity : Entity) (path : String) : Option String :=
  let annotations := "metadata.annotations."
  if path="kind" then some entity.kind
  else if path="metadata.namespace" then some entity.metadata.nameSpace
  else if path="metadata.name" then some entity.metadata.name
  else if annotations.toList.isPrefixOf path.toList then
    entity.metadata.annotations[String.ofList (path.toList.drop annotations.length)]?
  else none

/-- What the catalog promises of its filters: an entity matches if it meets
every condition, and values are compared without regard to case. -/
def MatchesFields (matching : List (String×String) → Entity → Prop) : Prop :=
  ∀ filter entity, matching filter entity ↔ ∀ condition ∈ filter,
    (searchValue entity condition.1).map lowerCase=some (lowerCase condition.2)

/-- The answers serve a catalog: whenever a query is started, it ends without an
error after some pages, on which there are exactly the entities of the catalog
that match the filter. -/
def Serves (matching : List (String×String) → Entity → Prop) (answers : ℕ → CatalogApi) (limit : ℕ)
    (catalog : Catalog) : Prop :=
  ∀ filter number, ∃ pages,
    Walk (fun number cursor => (answers number).queryEntities ⟨filter,cursor,limit⟩) cursorGoesOn
        number none pages none ∧
      ∀ entity, entity ∈ pages.flatMap (·.items) ↔ entity ∈ catalog.entities ∧ matching filter entity

/-- The id of a component in Kubernetes. -/
def kubernetesId (entity : Entity) : Option String :=
  entity.metadata.annotations["backstage.io/kubernetes-id"]?

/-- Components, by the kind of the entity. -/
def isComponent (entity : Entity) : Prop := lowerCase entity.kind="component"

instance (entity : Entity) : Decidable (isComponent entity) := inferInstanceAs (Decidable (_=_))

section Served

variable {matching : List (String×String) → Entity → Prop} {answers : ℕ → CatalogApi} {limit : ℕ}
  {catalog : Catalog}

/-- The components that the processor asks for. -/
theorem matching_componentFilter_iff (hmatching : MatchesFields matching) (ns componentId : String)
    (entity : Entity) :
    matching (componentFilter ns componentId) entity ↔
      isComponent entity ∧ lowerCase entity.metadata.nameSpace=lowerCase ns ∧
        (kubernetesId entity).map lowerCase=some (lowerCase componentId) := by
  have hid : searchValue entity kubernetesIdPath=kubernetesId entity := rfl
  have hkind : lowerCase "component"="component" := rfl
  rw [hmatching]
  dsimp only [componentFilter,isComponent]
  simp only [List.forall_mem_cons,List.not_mem_nil,false_implies,implies_true,and_true,hid,hkind]
  simp [searchValue]

/-- A served lookup finds the components with the namespace and id. -/
theorem findComponentsByBackstageId_of_serves (hserves : Serves matching answers limit catalog)
    (number : ℕ) (ns componentId : String) :
    ∃ requests components fuel, (∀ more, fuel ≤ more →
        findComponentsByBackstageId answers limit more number ns componentId=
          some (requests,components)) ∧
      ∀ component, component ∈ components ↔
        component ∈ catalog.entities ∧ matching (componentFilter ns componentId) component := by
  obtain ⟨pages,hwalk,hitems⟩ := hserves (componentFilter ns componentId) number
  obtain ⟨fuel,hfuel⟩ := readPages_of_walk hwalk
  have hread : ∀ more, fuel ≤ more →
      readPages (pageQuery answers limit ns componentId) cursorGoesOn more number none []=
        some ⟨requestedCursors none pages (none : Option String),.ok (pages.flatMap (·.items))⟩ :=
    fun more hmore => hfuel more hmore []
  refine ⟨(requestedCursors none pages (none : Option String)).map (pageRequest limit ns componentId),
    pages.flatMap (·.items),fuel,fun more hmore => ?_,hitems⟩
  dsimp only [findComponentsByBackstageId]
  rw [hread more hmore]

/-- The relations emitted for a list of consumers are those between the API
and the components found for one of them. -/
theorem emitRelations_of_serves (hserves : Serves matching answers limit catalog) (entity : Entity)
    (number : ℕ) (consumers : List String) :
    ∃ requests relations fuel, (∀ more, fuel ≤ more →
        emitRelations answers limit more entity number consumers=some (requests,relations)) ∧
      ∀ relation, relation ∈ relations ↔ ∃ consumer ∈ consumers, ∃ component ∈ catalog.entities,
        matching (componentFilter entity.metadata.nameSpace consumer) component ∧
          relation ∈ relationsBetween entity component := by
  induction consumers generalizing number with
  | nil => exact ⟨[],[],0,fun _ _ => rfl,fun relation => by simp⟩
  | cons consumer consumers ih =>
    obtain ⟨requests,components,fuel,hfind,hcomponents⟩ :=
      findComponentsByBackstageId_of_serves hserves number entity.metadata.nameSpace consumer
    obtain ⟨requests',relations,fuel',hemit,hrelations⟩ := ih (number+requests.length)
    refine ⟨requests++requests',components.flatMap (relationsBetween entity)++relations,
      max fuel fuel',fun more hmore => ?_,fun relation => ?_⟩
    · have hleft : fuel ≤ more := by omega
      have hright : fuel' ≤ more := by omega
      rw [emitRelations,hfind more hleft]
      dsimp only
      rw [hemit more hright,Option.map_some]
    · rw [List.mem_append,List.mem_flatMap,hrelations]
      simp only [List.mem_cons,exists_eq_or_imp,hcomponents,and_assoc]

/-- The relations emitted for the API of an event type. -/
theorem preProcessEntity_of_serves (hserves : Serves matching answers limit catalog) (number : ℕ)
    {entity : Entity} {consumers : List String}
    (hkind : entity.kind="API") (htype : entity.spec.type=typeKnativeEvent)
    (hconsumers : entity.metadata.consumedBy=some consumers) :
    ∃ requests relations fuel, (∀ more, fuel ≤ more →
        preProcessEntity answers limit more number entity=some ⟨entity,requests,relations⟩) ∧
      ∀ relation, relation ∈ relations ↔ ∃ consumer ∈ consumers, ∃ component ∈ catalog.entities,
        matching (componentFilter entity.metadata.nameSpace consumer) component ∧
          relation ∈ relationsBetween entity component := by
  obtain ⟨requests,relations,fuel,hemit,hrelations⟩ :=
    emitRelations_of_serves hserves entity number consumers
  refine ⟨requests,relations,fuel,fun more hmore => ?_,hrelations⟩
  dsimp only [preProcessEntity]
  rw [if_pos ⟨hkind,htype⟩,hconsumers]
  dsimp only
  rw [hemit more hmore,Option.map_some]

end Served

/-- Only the empty text is empty in lower case. -/
theorem lowerCase_eq_empty_iff (s : String) : lowerCase s="" ↔ s="" := by
  dsimp only [lowerCase]
  rw [String.ofList_eq_empty_iff,List.map_eq_nil_iff,String.toList_eq_nil_iff]

end Catalog

end KnativeMesh.Processor
