import KnativeMesh.Consumers

/-!
# The processor against a catalog that may fail

The catalog may answer one request and fail the next. Every consumer of an API
has its own walk through the pages of a query, from the first request on up to
the last page or to a request that fails, and a walk that fails leaves nothing.
-/

namespace KnativeMesh.CatalogQueries

open Library.Paging Processor Consumers
open Provider (Entity typeKnativeEvent)

/-- What the processor meets when it looks one consumer up: the pages that it
reads, and the error of the request that failed, if one did. -/
structure Reading where
  consumer : String
  pages : List (Page Entity String)
  thrown : Option String

/-- The requests of a reading: no cursor at first, then the cursor of each page
read before, and none after the last page. -/
def Reading.requests (limit : ℕ) (ns : String) (reading : Reading) : List QueryEntitiesRequest :=
  (requestedCursors none reading.pages reading.thrown).map (pageRequest limit ns reading.consumer)

/-- The components of a reading in page order; a failed one has none. -/
def Reading.components (reading : Reading) : List Entity :=
  match reading.thrown with
  | some _ => []
  | none => reading.pages.flatMap (·.items)

section Readings

variable (answers : ℕ → CatalogApi) (limit : ℕ)

/-- The readings of a list of consumers, one after the other: each is a walk
through the answers that follow the requests made before it. -/
inductive Readings (ns : String) : ℕ → List String → List Reading → Prop where
  | nil {number : ℕ} : Readings ns number [] []
  | cons {number : ℕ} {consumers : List String} {reading : Reading} {readings : List Reading}
      (hwalk : Walk (pageQuery answers limit ns reading.consumer) cursorGoesOn number none
        reading.pages reading.thrown)
      (hrest : Readings ns (number+(reading.requests limit ns).length) consumers readings) :
      Readings ns number (reading.consumer::consumers) (reading::readings)

/-- Whenever a query is started, its answers form a finite chain of pages, in
which any request may fail. -/
def FiniteChains : Prop :=
  ∀ ns componentId number, ∃ pages thrown,
    Walk (pageQuery answers limit ns componentId) cursorGoesOn number none pages thrown

variable {answers limit}

/-- Finite chains give every list of consumers its readings. -/
theorem FiniteChains.exists_readings (h : FiniteChains answers limit) (ns : String) (number : ℕ)
    (consumers : List String) : ∃ readings, Readings answers limit ns number consumers readings := by
  induction consumers generalizing number with
  | nil => exact ⟨[],.nil⟩
  | cons consumer consumers ih =>
    have hfirst := h ns consumer number
    rcases hfirst with ⟨pages,thrown,hwalk⟩
    let reading : Reading := ⟨consumer,pages,thrown⟩
    have hlater := ih (number+(reading.requests limit ns).length)
    rcases hlater with ⟨readings,hrest⟩
    exact ⟨reading::readings,@Readings.cons answers limit ns number consumers reading readings hwalk hrest⟩

/-- Every reading is a walk of its own. -/
theorem Readings.exists_walk {ns : String} {number : ℕ} {consumers : List String}
    {readings : List Reading} (h : Readings answers limit ns number consumers readings) :
    ∀ reading ∈ readings, ∃ start, Walk (pageQuery answers limit ns reading.consumer) cursorGoesOn
      start none reading.pages reading.thrown := by
  induction h with
  | nil => exact fun reading hmem => absurd hmem List.not_mem_nil
  | cons hwalk _ ih =>
    intro reading hmem
    rcases List.mem_cons.mp hmem with rfl | hmem
    · exact ⟨_,hwalk⟩
    · exact ih reading hmem

/-- The first request of a reading has no cursor, and every later one has a
cursor to go on with. -/
theorem Reading.requests_eq_cons {ns : String} {number : ℕ} {reading : Reading}
    (h : Walk (pageQuery answers limit ns reading.consumer) cursorGoesOn number none reading.pages
      reading.thrown) :
    ∃ later, reading.requests limit ns=pageRequest limit ns reading.consumer none::later ∧
      ∀ request ∈ later, cursorGoesOn request.cursor=true := by
  refine ⟨(requestedCursors none reading.pages reading.thrown).tail.map
    (pageRequest limit ns reading.consumer),?_,fun request hmem => ?_⟩
  · dsimp only [Reading.requests]
    rw [h.requestedCursors_eq_cons,List.map_cons,List.tail_cons]
  · have hcursor := List.mem_map.mp hmem
    rcases hcursor with ⟨cursor,hcursor,rfl⟩
    exact h.goOn_of_mem_tail cursor hcursor

/-- A lookup sends the requests of its reading and finds its components. -/
theorem findComponentsByBackstageId_of_walk {ns : String} {number : ℕ} {reading : Reading}
    (h : Walk (pageQuery answers limit ns reading.consumer) cursorGoesOn number none reading.pages
      reading.thrown) :
    ∃ fuel, ∀ more, fuel ≤ more → findComponentsByBackstageId answers limit more number ns reading.consumer=
      some (reading.requests limit ns,reading.components) := by
  have hread := readPages_of_walk h
  rcases hread with ⟨fuel,hfuel⟩
  refine ⟨fuel,fun more hmore => ?_⟩
  dsimp only [findComponentsByBackstageId]
  rw [hfuel more hmore]
  dsimp only [Reading.requests,Reading.components]
  cases reading.thrown with
  | some err => rfl
  | none => rfl

/-- The relations of some readings: for every component found, in order, the
two relations between the API and the component. -/
def relationsOf (entity : Entity) (readings : List Reading) : List Relation :=
  readings.flatMap fun reading => reading.components.flatMap (relationsBetween entity)

/-- The loop over consumers sends the requests of the readings and emits their
relations, each reading apart from the others. -/
theorem emitRelations_of_readings {entity : Entity} {number : ℕ} {consumers : List String}
    {readings : List Reading}
    (h : Readings answers limit entity.metadata.nameSpace number consumers readings) :
    ∃ fuel, ∀ more, fuel ≤ more → emitRelations answers limit more entity number consumers=
      some (readings.flatMap (·.requests limit entity.metadata.nameSpace),
        relationsOf entity readings) := by
  induction h with
  | nil => exact ⟨0,fun _ _ => rfl⟩
  | cons hwalk _ ih =>
    have hfind := findComponentsByBackstageId_of_walk hwalk
    rcases hfind with ⟨fuel,hfuel⟩
    rcases ih with ⟨fuel',hfuel'⟩
    refine ⟨max fuel fuel',fun more hmore => ?_⟩
    have hleft : fuel ≤ more := by omega
    have hright : fuel' ≤ more := by omega
    rw [emitRelations,hfuel more hleft]
    dsimp only
    rw [hfuel' more hright]
    rfl

end Readings

/-- The entity is an API of an event type with a list of consumers. -/
def ListsConsumers (entity : Entity) (consumers : List String) : Prop :=
  entity.kind="API" ∧ entity.spec.type=typeKnativeEvent ∧ entity.metadata.consumedBy=some consumers

/-- A relation and the one that says the same from the other end. -/
def Mirrors (relation other : Relation) : Prop :=
  relation.type="apiConsumedBy" ∧ other.type="consumesApi" ∧ other.source=relation.target ∧
    other.target=relation.source

/-- Each component gives two relations, from the API to the component and back. -/
theorem relationsBetween_mirrors (entity component : Entity) :
    ∃ relation other, relationsBetween entity component=[relation,other] ∧
      relation.source=apiRef entity ∧ relation.target=componentRef component ∧
      Mirrors relation other :=
  ⟨_,_,rfl,rfl,rfl,rfl,rfl,rfl,rfl⟩

/-- Against every catalog whose queries end, be it with a failed request, the
processor terminates and returns the entity unchanged. For an API with
consumers it sends the requests of one reading per consumer and emits exactly
the relations of the components that were read completely, in order; for every
other entity it sends and emits nothing. -/
theorem preProcessEntity_emits {answers : ℕ → CatalogApi} {limit : ℕ}
    (hchains : FiniteChains answers limit) (number : ℕ) (entity : Entity) :
    (∀ consumers, ListsConsumers entity consumers →
      ∃ readings, Readings answers limit entity.metadata.nameSpace number consumers readings ∧
        (∀ reading ∈ readings, ∃ later,
          reading.requests limit entity.metadata.nameSpace=
            pageRequest limit entity.metadata.nameSpace reading.consumer none::later ∧
          ∀ request ∈ later, cursorGoesOn request.cursor=true) ∧
        ∃ fuel, ∀ more, fuel ≤ more → preProcessEntity answers limit more number entity=
          some ⟨entity,readings.flatMap (·.requests limit entity.metadata.nameSpace),
            relationsOf entity readings⟩) ∧
    ((∀ consumers, ¬ ListsConsumers entity consumers) →
      ∀ fuel, preProcessEntity answers limit fuel number entity=some ⟨entity,[],[]⟩) ∧
    ∀ component, ∃ relation other, relationsBetween entity component=[relation,other] ∧
      relation.source=apiRef entity ∧ relation.target=componentRef component ∧
      Mirrors relation other := by
  refine ⟨?_,?_,relationsBetween_mirrors entity⟩
  · intro consumers hp
    rcases hp with ⟨hkind,htype,hconsumers⟩
    have hreadings := hchains.exists_readings entity.metadata.nameSpace number consumers
    rcases hreadings with ⟨readings,hreadings⟩
    have hemit := emitRelations_of_readings hreadings
    rcases hemit with ⟨fuel,hfuel⟩
    refine ⟨readings,hreadings,?_,fuel,fun more hmore => ?_⟩
    · intro reading hmem
      have hwalk := hreadings.exists_walk reading hmem
      rcases hwalk with ⟨_,hwalk⟩
      exact Reading.requests_eq_cons hwalk
    · dsimp only [preProcessEntity]
      rw [if_pos ⟨hkind,htype⟩,hconsumers]
      dsimp only
      rw [hfuel more hmore]
      rfl
  · intro hnone fuel
    dsimp only [preProcessEntity]
    by_cases hapi : entity.kind="API" ∧ entity.spec.type=typeKnativeEvent
    · rw [if_pos hapi]
      cases hconsumers : entity.metadata.consumedBy with
      | none => rfl
      | some consumers => exact absurd ⟨hapi.1,hapi.2,hconsumers⟩ (hnone consumers)
    · rw [if_neg hapi]

/-- A catalog of two pages, one component on each, that fails at the second
request it gets. -/
def flakyCatalog (number : ℕ) : CatalogApi :=
  ⟨fun request =>
    if number=1 then .error "timeout"
    else match request.cursor with
      | none => .ok ⟨[catalogComponent "shop" "ledger" "ledger"],some "next"⟩
      | some _ => .ok ⟨[catalogComponent "shop" "audit" "ledger"],none⟩⟩

/-- Every query of this catalog ends, after two pages or at the failure. -/
theorem flakyCatalog_finiteChains (limit : ℕ) : FiniteChains flakyCatalog limit := by
  intro ns componentId number
  by_cases hfirst : number=1
  · have hthrows : pageQuery flakyCatalog limit ns componentId number none=.error "timeout" :=
      if_pos hfirst
    exact ⟨[],some "timeout",.throws hthrows⟩
  · have hpage : pageQuery flakyCatalog limit ns componentId number none=
        .ok ⟨[catalogComponent "shop" "ledger" "ledger"],some "next"⟩ := if_neg hfirst
    by_cases hsecond : number+1=1
    · have hthrows : pageQuery flakyCatalog limit ns componentId (number+1) (some "next")=
          .error "timeout" := if_pos hsecond
      exact ⟨_,_,.more hpage rfl (.throws hthrows)⟩
    · have hlast : pageQuery flakyCatalog limit ns componentId (number+1) (some "next")=
          .ok ⟨[catalogComponent "shop" "audit" "ledger"],none⟩ := if_neg hsecond
      exact ⟨_,_,.more hpage rfl (.last hlast rfl)⟩

/-- The API of an event type that lists one consumer twice. -/
def orderApi : Entity :=
  { apiVersion := "backstage.io/v1alpha1", kind := "API"
    metadata :=
      { name := "order", nameSpace := "shop", description := none, labels := ∅, annotations := ∅
        tags := [], links := none, title := none, consumedBy := some ["ledger","ledger"] }
    spec :=
      { type := typeKnativeEvent, lifecycle := "production", system := "shop", owner := "shop"
        definition := none, providesApis := none } }

/-- The first of two equal consumers fails after a page and contributes nothing,
the second contributes the components of both pages. -/
theorem preProcessEntity_emits_flakyCatalog :
    (∃ readings, Readings flakyCatalog 10 "shop" 0 ["ledger","ledger"] readings ∧
      ∃ fuel, ∀ more, fuel ≤ more → preProcessEntity flakyCatalog 10 more 0 orderApi=
        some ⟨orderApi,readings.flatMap (·.requests 10 "shop"),relationsOf orderApi readings⟩) ∧
    (emitRelations flakyCatalog 10 5 orderApi 0 ["ledger","ledger"]).map (·.1.map (·.cursor))=
      some [none,some "next",none,some "next"] ∧
    (emitRelations flakyCatalog 10 5 orderApi 0 ["ledger","ledger"]).map (·.2.map (·.target.name))=
      some ["ledger","order","audit","order"] := by
  have hall := preProcessEntity_emits (flakyCatalog_finiteChains 10) 0 orderApi
  have hemits := hall.1 ["ledger","ledger"] ⟨rfl,rfl,rfl⟩
  rcases hemits with ⟨readings,hreadings,_,hrun⟩
  exact ⟨⟨readings,hreadings,hrun⟩,rfl,rfl⟩

end KnativeMesh.CatalogQueries
