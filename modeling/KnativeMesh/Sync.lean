import KnativeMesh.Endpoint
import KnativeMesh.Entities
import KnativeMesh.Completeness
import KnativeMesh.Library.Register

/-!
# Synchronisation of the catalog

A provider fetches the mesh in scheduled ticks and replaces its entities by
those of the fetched mesh. The cluster, the backend and the network may behave
differently in every tick. What the provider holds in the catalog is a
register that successful ticks overwrite as a whole.
-/

namespace KnativeMesh.Sync

open Go Kubernetes Mesh Converters Builder Runs Listing Fetches ClusterContents Registration
open Triggers Completeness Wire Endpoint Entities Library.Index Library.Register
open Provider (Entity KnativeEventMeshProvider)

/-- An entity with the location key under which it is kept. -/
structure DeferredEntity where
  entity : Entity
  locationKey : String

/-- The entities that each provider handed over last, by its name. Where two
providers hand over entities of one ref, the catalog processes only one of them. -/
abbrev Catalog := GoMap (List DeferredEntity)

/-- response.ok. -/
def responseOk (status : ℕ) : Prop := 200 ≤ status ∧ status ≤ 299

instance (status : ℕ) : Decidable (responseOk status) := inferInstanceAs (Decidable (_ ∧ _))

theorem responseOk_200 : responseOk 200 := ⟨by omega,by omega⟩

/-- What becomes of a request on the network. -/
inductive Delivery where
  /-- The backend gets the request, and its response, if any, arrives. -/
  | delivered
  /-- No complete response arrives. -/
  | failed
  /-- Something else than the endpoint answers, with a status that is not ok. -/
  | replaced (status : ℕ) (text : String) (notOk : ¬ responseOk status)

/-- The surroundings of one tick. -/
structure Tick where
  server : Server
  delivery : HttpRequest → Delivery

/-- Why a tick throws. -/
inductive SyncError where
  | notInitialized
  | network
  | status (status : ℕ)
  | body

/-- Whitespace that is stripped from both ends of a header value. -/
def httpWhitespace (c : Char) : Bool := c ∈ [' ','\t','\n','\r']

/-- The value of a header as it is sent. -/
def headerValue (value : String) : String :=
  String.ofList ((value.toList.dropWhile httpWhitespace).reverse.dropWhile httpWhitespace).reverse

/-- baseUrl.replace(/\/$/, ''). -/
def withoutTrailingSlash (baseUrl : String) : String :=
  if baseUrl.toList.getLast?=some '/' then String.ofList baseUrl.toList.dropLast else baseUrl

/-- The request of getEventMesh; a token that is undefined is sent as such. -/
def meshRequest (url : String) (token : Option String) : HttpRequest :=
  ⟨url,headerValue ("Bearer "++token.getD "undefined")⟩

/-- What fetch resolves to, if it does not reject. -/
def fetch (lib : Libraries) (tick : Tick) (request : HttpRequest) : Option HttpResponse :=
  match tick.delivery request with
  | .delivered => serve lib tick.server request
  | .failed => none
  | .replaced status text _ => some ⟨status,.text text⟩

/-- getEventMesh: a mesh that cannot be read throws here or in the loops over
its lists, in any case before the catalog is written. -/
def getEventMesh (lib : Libraries) (tick : Tick) (url : String) (token : Option String) :
    Except SyncError Provider.EventMesh :=
  match fetch lib tick (meshRequest url token) with
  | none => .error .network
  | some response =>
    if ¬ responseOk response.status then .error (.status response.status)
    else match response.body with
      | .text _ => .error .body
      | .json json =>
        match decodeMesh json with
        | none => .error .body
        | some mesh => .ok mesh

/-- What the provider's plugin and the catalog hold between ticks. -/
structure State where
  /-- The providers that are connected. -/
  connected : List String
  catalog : Catalog

section Provider

variable (lib : Libraries) (provider : KnativeEventMeshProvider)

/-- A catalog provider's entities as they are kept under its name. -/
def deferred (entities : List Entity) : List DeferredEntity :=
  entities.map fun entity => ⟨entity,provider.getProviderName⟩

/-- connect. -/
def connect (state : State) : State :=
  {state with connected := provider.getProviderName::state.connected}

/-- applyMutation with type full: the provider's entities are replaced. -/
def applyMutation (entities : List DeferredEntity) (state : State) : State :=
  {state with catalog := state.catalog.insert provider.getProviderName entities}

/-- The URL that the provider fetches. -/
def meshUrl : String := withoutTrailingSlash provider.baseUrl++"/v1/getEventMesh"

/-- run. -/
def run (tick : Tick) (state : State) : Except SyncError State :=
  if provider.getProviderName ∉ state.connected then .error .notInitialized
  else match getEventMesh lib tick (meshUrl provider) provider.token with
    | .error err => .error err
    | .ok eventMesh =>
      .ok (applyMutation provider (deferred provider (provider.buildEntities eventMesh)) state)

/-- The scheduled function: an error of run is logged. -/
def scheduled (state : State) (tick : Tick) : State :=
  match run lib provider tick state with
  | .ok state => state
  | .error _ => state

/-- A sequence of ticks. -/
def runTicks (state : State) (ticks : List Tick) : State :=
  ticks.foldl (scheduled lib provider) state

/-- The entities that the provider holds in the catalog. -/
def held (state : State) : List DeferredEntity :=
  (state.catalog[provider.getProviderName]?).getD []

/-- A tick in which BuildEventMesh runs, returns a mesh and no error, and the
response arrives. -/
def succeeds (tick : Tick) (mesh : EventMesh) : Prop :=
  ∃ answers,
    tick.delivery (meshRequest (meshUrl provider) provider.token)=.delivered ∧
    tick.server.buildAnswers (meshRequest (meshUrl provider) provider.token)=some answers ∧
    buildEventMesh lib answers=.ok mesh

end Provider

/-- The lists of a mesh that BuildEventMesh returns are allocated, so that the
provider reads what was written. -/
theorem exists_decoded {lib : Libraries} {answers : Answers} {mesh : EventMesh}
    (h : buildEventMesh lib answers=.ok mesh) : ∃ decoded, decodeMesh (encodeMesh mesh)=some decoded := by
  obtain ⟨f⟩ := exists_fetched h
  obtain ⟨store,_,rfl⟩ := f.buildEventMesh_eq_ok_iff.mp h
  exact ⟨_,decodeMesh_encodeMesh _ _ _ _⟩

section Ticks

variable (lib : Libraries) (provider : KnativeEventMeshProvider)

/-- getEventMesh returns a mesh exactly where BuildEventMesh succeeded and its
response arrived. -/
theorem getEventMesh_eq_ok_iff (tick : Tick) (decoded : Provider.EventMesh) :
    getEventMesh lib tick (meshUrl provider) provider.token=.ok decoded ↔
      ∃ mesh, succeeds lib provider tick mesh ∧ decodeMesh (encodeMesh mesh)=some decoded := by
  dsimp only [getEventMesh,fetch,succeeds]
  cases hdelivery : tick.delivery (meshRequest (meshUrl provider) provider.token) with
  | failed => simp
  | replaced status text notOk => simp [notOk]
  | delivered =>
    dsimp only
    constructor
    · intro h
      cases hserve : serve lib tick.server (meshRequest (meshUrl provider) provider.token) with
      | none => simp [hserve] at h
      | some response =>
        rw [hserve] at h
        dsimp only at h
        rcases serve_cases lib hserve with ⟨answers,mesh,hanswers,hmesh,rfl⟩ | hstatus | hstatus
        · obtain ⟨read,hread⟩ := exists_decoded hmesh
          rw [if_neg (not_not.mpr responseOk_200)] at h
          dsimp only at h
          rw [hread] at h
          exact ⟨mesh,⟨answers,rfl,hanswers,hmesh⟩,hread.trans (congrArg some (Except.ok.inj h))⟩
        · rw [hstatus,if_pos (by decide)] at h
          cases h
        · rw [hstatus,if_pos (by decide)] at h
          cases h
    · intro hp
      rcases hp with ⟨mesh,⟨answers,_,hanswers,hmesh⟩,hread⟩
      rw [serve_of_buildAnswers lib hanswers,hmesh]
      dsimp only
      rw [if_neg (not_not.mpr responseOk_200),hread]

/-- What a tick publishes: the entities of the mesh that it fetched. -/
def published (tick : Tick) : Option (List DeferredEntity) :=
  match getEventMesh lib tick (meshUrl provider) provider.token with
  | .error _ => none
  | .ok eventMesh => some (deferred provider (provider.buildEntities eventMesh))

/-- Some run of BuildEventMesh returned the mesh of a tick that succeeds. -/
theorem buildEventMesh_of_succeeds {tick : Tick} {mesh : EventMesh}
    (h : succeeds lib provider tick mesh) : ∃ answers,
      tick.server.buildAnswers (meshRequest (meshUrl provider) provider.token)=some answers ∧
        buildEventMesh lib answers=.ok mesh := by
  obtain ⟨answers,_,hanswers,hbuild⟩ := h
  exact ⟨answers,hanswers,hbuild⟩

/-- A tick publishes exactly where it succeeds, and then the entities of its mesh. -/
theorem published_eq_some_iff (tick : Tick) (entities : List DeferredEntity) :
    published lib provider tick=some entities ↔ ∃ mesh decoded,
      succeeds lib provider tick mesh ∧ decodeMesh (encodeMesh mesh)=some decoded ∧
        entities=deferred provider (provider.buildEntities decoded) := by
  dsimp only [published]
  constructor
  · intro h
    cases hget : getEventMesh lib tick (meshUrl provider) provider.token with
    | error err => simp [hget] at h
    | ok decoded =>
      obtain ⟨mesh,hmesh,hread⟩ := (getEventMesh_eq_ok_iff lib provider tick decoded).mp hget
      rw [hget] at h
      exact ⟨mesh,decoded,hmesh,hread,(Option.some.inj h).symm⟩
  · intro hp
    rcases hp with ⟨mesh,decoded,hmesh,hread,rfl⟩
    rw [(getEventMesh_eq_ok_iff lib provider tick decoded).mpr ⟨mesh,hmesh,hread⟩]

/-- A tick publishes nothing exactly where it does not succeed. -/
theorem published_eq_none_iff (tick : Tick) :
    published lib provider tick=none ↔ ∀ mesh, ¬ succeeds lib provider tick mesh := by
  constructor
  · intro hnone mesh hmesh
    obtain ⟨answers,hanswers,hbuild⟩ := buildEventMesh_of_succeeds lib provider hmesh
    obtain ⟨decoded,hread⟩ := exists_decoded hbuild
    have hsome := (published_eq_some_iff lib provider tick _).mpr ⟨mesh,decoded,hmesh,hread,rfl⟩
    rw [hnone] at hsome
    cases hsome
  · intro h
    cases hpublished : published lib provider tick with
    | none => rfl
    | some entities =>
      obtain ⟨mesh,decoded,hmesh,_⟩ := (published_eq_some_iff lib provider tick entities).mp hpublished
      exact absurd hmesh (h mesh)

/-- A tick of a connected provider replaces its entities by what the tick
publishes, and leaves the state where it publishes nothing. -/
theorem scheduled_eq {state : State} (hconnected : provider.getProviderName ∈ state.connected)
    (tick : Tick) : scheduled lib provider state tick=
      match published lib provider tick with
      | none => state
      | some entities => applyMutation provider entities state := by
  dsimp only [scheduled,run,published]
  simp only [hconnected,not_true_eq_false,if_false]
  cases getEventMesh lib tick (meshUrl provider) provider.token <;> rfl

/-- A tick is without effect where the provider is not connected. -/
theorem scheduled_of_not_connected {state : State}
    (hconnected : provider.getProviderName ∉ state.connected) (tick : Tick) :
    scheduled lib provider state tick=state := by
  dsimp only [scheduled,run]
  rw [if_pos hconnected]

/-- No tick disconnects a provider. -/
theorem connected_scheduled (state : State) (tick : Tick) :
    (scheduled lib provider state tick).connected=state.connected := by
  by_cases hconnected : provider.getProviderName ∈ state.connected
  · rw [scheduled_eq lib provider hconnected]
    cases published lib provider tick <;> rfl
  · rw [scheduled_of_not_connected lib provider hconnected]

/-- No sequence of ticks disconnects a provider. -/
theorem connected_runTicks (state : State) (ticks : List Tick) :
    (runTicks lib provider state ticks).connected=state.connected := by
  have hkeep : ∀ (s : State) (tick : Tick), s.connected=state.connected →
      (scheduled lib provider s tick).connected=state.connected :=
    fun s tick hs => (connected_scheduled lib provider s tick).trans hs
  exact invariant_foldl hkeep ticks rfl

/-- The last tick of a sequence acts on what the others left. -/
theorem runTicks_append_singleton (state : State) (before : List Tick) (tick : Tick) :
    runTicks lib provider state (before++[tick])=
      scheduled lib provider (runTicks lib provider state before) tick := by
  dsimp only [runTicks]
  rw [List.foldl_append,List.foldl_cons,List.foldl_nil]

/-- A tick acts on the provider's entities like an item on a register. -/
theorem held_scheduled {state : State} (hconnected : provider.getProviderName ∈ state.connected)
    (tick : Tick) : held provider (scheduled lib provider state tick)=
      (published lib provider tick).getD (held provider state) := by
  rw [scheduled_eq lib provider hconnected]
  cases published lib provider tick with
  | none => rfl
  | some entities => simp [held,applyMutation]

/-- What a connected provider holds after a sequence of ticks is what the ticks
leave in a register. -/
theorem held_runTicks {state : State} (hconnected : provider.getProviderName ∈ state.connected)
    (ticks : List Tick) : held provider (runTicks lib provider state ticks)=
      overwrite (published lib provider) (held provider state) ticks :=
  shown_foldl
    (fun s tick hs => by rw [connected_scheduled]; exact hs)
    (fun s tick hs => held_scheduled lib provider hs tick) ticks hconnected

/-- A mutation leaves the entities of every other provider alone. -/
theorem held_applyMutation_other {other : KnativeEventMeshProvider}
    (hother : other.getProviderName≠provider.getProviderName) (entities : List DeferredEntity)
    (state : State) : held other (applyMutation provider entities state)=held other state := by
  dsimp only [held,applyMutation]
  rw [getElem?_insert_of_ne _ hother.symm]

/-- The ticks of a provider leave the entities of every other provider alone. -/
theorem held_runTicks_other {other : KnativeEventMeshProvider}
    (hother : other.getProviderName≠provider.getProviderName) (state : State) (ticks : List Tick) :
    held other (runTicks lib provider state ticks)=held other state := by
  have hstep : ∀ (s : State) (tick : Tick),
      held other (scheduled lib provider s tick)=held other s := by
    intro s tick
    by_cases hconnected : provider.getProviderName ∈ s.connected
    · rw [scheduled_eq lib provider hconnected]
      cases published lib provider tick with
      | none => rfl
      | some entities => exact held_applyMutation_other provider hother entities s
    · rw [scheduled_of_not_connected lib provider hconnected]
  have hkeep : ∀ (s : State) (tick : Tick), held other s=held other state →
      held other (scheduled lib provider s tick)=held other state :=
    fun s tick hs => (hstep s tick).trans hs
  exact invariant_foldl hkeep ticks rfl

end Ticks

/-- A backend that reaches an API server with some answers. -/
def serverOf (answers : Answers) : Server :=
  ⟨⟨"kubernetes",[],"","","","","","","","",none,none,none⟩,fun _ => none,
    fun _ => none,fun _ => answers⟩

/-- A tick whose run loses the list of subscriptions, after its triggers have
added consumers to event types. -/
def deniedTick : Tick :=
  let denied : Cluster := {fourTriggers.cluster with
    clientset := {fourTriggers.cluster.clientset with
      subscriptions := .error (.status ⟨.forbidden,403,"subscriptions is forbidden"⟩)}}
  ⟨serverOf (snapshot denied),fun _ => .delivered⟩

/-- A tick on a readable cluster. -/
def readableTick : Tick := ⟨serverOf (snapshot fourTriggers.cluster),fun _ => .delivered⟩

/-- A tick whose response does not arrive. -/
def lostTick : Tick := ⟨serverOf (snapshot fourTriggers.cluster),fun _ => .failed⟩

/-- The state in which a provider has been connected and has not run yet. -/
def connectedState : State := connect devProvider ⟨[],∅⟩

/-- The denied tick does not succeed. -/
theorem deniedTick_fails (mesh : EventMesh) :
    ¬ succeeds (librariesWith []) devProvider deniedTick mesh := by
  intro hp
  rcases hp with ⟨answers,_,hanswers,hbuild⟩
  have hdenied : deniedTick.server.answers (deniedTick.server.configFor "token")=answers :=
    Option.some.inj hanswers
  have herror : buildEventMesh (librariesWith []) answers=
      .error (.error (.status ⟨.forbidden,403,"subscriptions is forbidden"⟩)) := by
    rw [←hdenied]
    rfl
  rw [herror] at hbuild
  cases hbuild

/-- The readable tick succeeds. -/
theorem readableTick_succeeds : succeeds (librariesWith []) devProvider readableTick
    (outputMesh fourTriggersFetched.triggered) :=
  ⟨_,rfl,rfl,fourTriggersFetched.buildEventMesh_eq⟩

end KnativeMesh.Sync
