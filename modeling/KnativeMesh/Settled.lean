import KnativeMesh.ListingOrder
import KnativeMesh.Sync

/-!
# Synchronisation of a cluster that stays as it is

As long as a cluster stays as it is, further ticks leave the catalog as it is,
whichever of them fail, and in whatever order the API server lists its resources
in each of them. Only the order of entities and of consumers may change.
-/

namespace KnativeMesh.Settled

open Go Kubernetes Mesh Builder Runs ClusterContents Triggers Wire ListingOrder Endpoint Entities Sync
open Library.Register
open Provider (Entity KnativeEventMeshProvider)

/-- Two entities that differ in the order of their consumers at most. -/
structure SameEntity (first second : DeferredEntity) : Prop where
  locationKey : first.locationKey=second.locationKey
  rest : {first.entity with metadata := {first.entity.metadata with consumedBy := none}}=
    {second.entity with metadata := {second.entity.metadata with consumedBy := none}}
  consumedBy : (first.entity.metadata.consumedBy.getD []).Perm
    (second.entity.metadata.consumedBy.getD [])

theorem SameEntity.refl (entity : DeferredEntity) : SameEntity entity entity := ⟨rfl,rfl,.refl _⟩

/-- Two lists of entities that differ in their order, and in the order of the
consumers of an entity, at most. -/
def SameEntities (first second : List DeferredEntity) : Prop :=
  ∃ reordered, List.Forall₂ SameEntity first reordered ∧ reordered.Perm second

theorem SameEntities.refl (entities : List DeferredEntity) : SameEntities entities entities :=
  ⟨entities,List.forall₂_same.mpr fun entity _ => .refl entity,.refl _⟩

/-- Entities that are the same list by list are the same as a whole. -/
theorem SameEntities.append {first second first' second' : List DeferredEntity}
    (h : SameEntities first second) (h' : SameEntities first' second') :
    SameEntities (first++first') (second++second') := by
  rcases h with ⟨reordered,hsame,hperm⟩
  rcases h' with ⟨reordered',hsame',hperm'⟩
  exact ⟨reordered++reordered',List.rel_append hsame hsame',hperm.append hperm'⟩

/-- Reordered resources give reordered entities. -/
theorem sameEntities_of_perm {α : Type} (build : α → DeferredEntity) {xs ys : List α}
    (h : xs.Perm ys) : SameEntities (xs.map build) (ys.map build) :=
  ⟨xs.map build,List.forall₂_same.mpr fun entity _ => .refl entity,h.map build⟩

section Meshes

variable (provider : KnativeEventMeshProvider)

/-- The API entities of event types that differ in the order of consumers. -/
theorem sameEntity_buildEventTypeEntity {et et' : EventType} (h : SameButConsumerOrder et et') :
    SameEntity ⟨provider.buildEventTypeEntity (receivedEventType et),provider.getProviderName⟩
      ⟨provider.buildEventTypeEntity (receivedEventType et'),provider.getProviderName⟩ := by
  have hconsumers : ∀ x : EventType, (receivedStrings x.consumedBy).getD []=x.consumedBy.toList := by
    intro x
    cases x.consumedBy <;> rfl
  refine ⟨rfl,?_,?_⟩
  · -- without its consumers the entity is built of the fixed part of the event type
    have hbuild : ∀ x : EventType,
        ({provider.buildEventTypeEntity (receivedEventType x) with
          metadata := {(provider.buildEventTypeEntity (receivedEventType x)).metadata with
            consumedBy := none}} : Entity)=
        {provider.buildEventTypeEntity (receivedEventType (fixed x)) with
          metadata := {(provider.buildEventTypeEntity (receivedEventType (fixed x))).metadata with
            consumedBy := none}} := fun _ => rfl
    dsimp only
    rw [hbuild et,hbuild et',h.1]
  · have hperm := h.2
    rw [←hconsumers et,←hconsumers et'] at hperm
    exact hperm

/-- Meshes that are the same up to order give entities that are. -/
theorem sameEntities_of_sameMesh {store store' : Store}
    (h : SameMesh (outputMesh store) (outputMesh store')) {decoded decoded' : Provider.EventMesh}
    (hread : decodeMesh (encodeMesh (outputMesh store))=some decoded)
    (hread' : decodeMesh (encodeMesh (outputMesh store'))=some decoded') :
    SameEntities (deferred provider (provider.buildEntities decoded))
      (deferred provider (provider.buildEntities decoded')) := by
  have hdecoded : decoded=_ := Option.some.inj (hread.symm.trans (decodeMesh_encodeMesh _ _ _ _))
  have hdecoded' : decoded'=_ := Option.some.inj (hread'.symm.trans (decodeMesh_encodeMesh _ _ _ _))
  have heventTypes : SameEntities
      (store.eventTypes.map fun et =>
        ⟨provider.buildEventTypeEntity (receivedEventType et),provider.getProviderName⟩)
      (store'.eventTypes.map fun et =>
        ⟨provider.buildEventTypeEntity (receivedEventType et),provider.getProviderName⟩) := by
    refine ⟨_,?_,.refl _⟩
    rw [List.forall₂_map_left_iff,List.forall₂_map_right_iff]
    exact h.eventTypes.imp fun _ _ hsame => sameEntity_buildEventTypeEntity provider hsame
  have hbrokers := sameEntities_of_perm (fun br => (⟨provider.buildBrokerEntity (receivedBroker br),
    provider.getProviderName⟩ : DeferredEntity)) h.brokers
  have hsubscribables := sameEntities_of_perm (fun s =>
    (⟨provider.buildSubscribableEntity (receivedSubscribable s),provider.getProviderName⟩ :
      DeferredEntity)) h.subscribables
  have hsources := sameEntities_of_perm (fun source =>
    (⟨provider.buildSourceEntity (receivedSource source),provider.getProviderName⟩ :
      DeferredEntity)) h.sources
  rw [hdecoded,hdecoded']
  unfold deferred KnativeEventMeshProvider.buildEntities
  simp only [List.map_append,List.map_map]
  exact ((heventTypes.append hbrokers).append hsubscribables).append hsources

end Meshes

/-- The request of a tick reaches an API server that answers with a cluster. -/
def Sees (provider : KnativeEventMeshProvider) (tick : Tick) (cluster : Cluster) : Prop :=
  tick.server.buildAnswers (meshRequest (meshUrl provider) provider.token)=some (snapshot cluster)

/-- A tick that sees a cluster and succeeds does so with a mesh of the cluster. -/
theorem buildEventMesh_of_sees {lib : Libraries} {provider : KnativeEventMeshProvider} {tick : Tick}
    {cluster : Cluster} (hsees : Sees provider tick cluster) {mesh : EventMesh}
    (h : succeeds lib provider tick mesh) : buildEventMesh lib (snapshot cluster)=.ok mesh := by
  have hbuild := buildEventMesh_of_succeeds lib provider h
  rcases hbuild with ⟨answers,hanswers,hbuild⟩
  have hsame : answers=snapshot cluster := Option.some.inj (hanswers.symm.trans hsees)
  exact hsame ▸ hbuild

/-- Runs over permuted clusters build the same entities up to order. -/
theorem sameEntities_of_permuted {lib : Libraries} (provider : KnativeEventMeshProvider)
    {first second : Cluster} (hp : Permuted lib first second) (hd : DistinctIdentities lib first)
    {mesh mesh' : EventMesh} (h : buildEventMesh lib (snapshot first)=.ok mesh)
    (h' : buildEventMesh lib (snapshot second)=.ok mesh') {decoded decoded' : Provider.EventMesh}
    (hread : decodeMesh (encodeMesh mesh)=some decoded)
    (hread' : decodeMesh (encodeMesh mesh')=some decoded') :
    SameEntities (deferred provider (provider.buildEntities decoded))
      (deferred provider (provider.buildEntities decoded')) := by
  have hfetched := exists_fetched h
  rcases hfetched with ⟨f⟩
  have hcounterpart := exists_sameFetched hp f
  rcases hcounterpart with ⟨g,hs⟩
  have hstore := f.buildEventMesh_eq_ok_iff.mp h
  have hstore' := g.buildEventMesh_eq_ok_iff.mp h'
  rcases hstore with ⟨store,hf,rfl⟩
  rcases hstore' with ⟨store',hg,rfl⟩
  exact sameEntities_of_sameMesh provider (sameMesh_of_finished hp hd hs hf hg) hread hread'

/-- Once a tick has published a cluster, the provider holds the same entities
after any further ticks, each of which fails or sees the cluster again, listed in
any order. -/
theorem runTicks_settled (lib : Libraries) (provider : KnativeEventMeshProvider) {start : State}
    (hconnected : provider.getProviderName ∈ start.connected) {cluster : Cluster}
    (hd : DistinctIdentities lib cluster) (before : List Tick) {tick : Tick} {mesh : EventMesh}
    (hsees : Sees provider tick cluster) (hsucceeds : succeeds lib provider tick mesh)
    {after : List Tick}
    (hafter : ∀ later ∈ after, (∀ mesh, ¬ succeeds lib provider later mesh) ∨
      ∃ listed, Sees provider later listed ∧ Permuted lib cluster listed) :
    SameEntities (held provider (runTicks lib provider start (before++[tick])))
      (held provider (runTicks lib provider start (before++tick::after))) := by
  have hbuild := buildEventMesh_of_sees hsees hsucceeds
  have hread := exists_decoded hbuild
  rcases hread with ⟨decoded,hread⟩
  have hpublished := (published_eq_some_iff lib provider tick _).mpr ⟨mesh,decoded,hsucceeds,hread,rfl⟩
  have hnow : held provider (runTicks lib provider start (before++[tick]))=
      deferred provider (provider.buildEntities decoded) := by
    rw [held_runTicks lib provider hconnected]
    exact overwrite_append_cons hpublished (fun _ hlater => absurd hlater List.not_mem_nil) _ before
  have hlater : held provider (runTicks lib provider start (before++tick::after))=
      overwrite (published lib provider) (deferred provider (provider.buildEntities decoded)) after := by
    have hsplit : before++tick::after=(before++[tick])++after := by
      rw [List.append_assoc,List.singleton_append]
    rw [←hnow,held_runTicks lib provider hconnected,held_runTicks lib provider hconnected,hsplit]
    exact List.foldl_append
  rw [hnow,hlater]
  rcases overwrite_cases (published lib provider)
    (deferred provider (provider.buildEntities decoded)) after with hnone | hlast
  · rw [hnone.2]
    exact .refl _
  · -- the last tick that published saw the same cluster
    rcases hlast with ⟨earlier,last,entities,rest,rfl,hentities,_,hheld⟩
    rw [hheld]
    have hmesh := (published_eq_some_iff lib provider last entities).mp hentities
    rcases hmesh with ⟨mesh',decoded',hsucceeds',hread',rfl⟩
    rcases hafter last (List.mem_append_right _ List.mem_cons_self) with hfails | hsame
    · exact absurd hsucceeds' (hfails mesh')
    · rcases hsame with ⟨listed,hsees',hp⟩
      have hbuild' := buildEventMesh_of_sees hsees' hsucceeds'
      exact sameEntities_of_permuted provider hp hd hbuild hbuild' hread hread'

/-- A tick over the four triggers, listed backwards. -/
def backwardsTick : Tick := ⟨serverOf (snapshot (backwards fourTriggers.cluster)),fun _ => .delivered⟩

/-- Neither a lost response nor another listing order changes the entities. -/
theorem runTicks_settled_backwards :
    SameEntities
      (held devProvider (runTicks (librariesWith []) devProvider connectedState [readableTick]))
      (held devProvider (runTicks (librariesWith []) devProvider connectedState
        [readableTick,lostTick,backwardsTick])) := by
  have hd : DistinctIdentities (librariesWith []) fourTriggers.cluster :=
    distinctIdentities_of_slashFree fourTriggersFetched (by decide) (by decide) (by decide)
      (by decide) (by decide)
  have hsees : Sees devProvider readableTick fourTriggers.cluster := rfl
  refine runTicks_settled (librariesWith []) devProvider List.mem_cons_self hd [] hsees
    readableTick_succeeds fun later hlater => ?_
  rcases List.mem_cons.mp hlater with rfl | hlater
  · refine .inl fun mesh hsucceeds => ?_
    rcases hsucceeds with ⟨_,hdelivered,_⟩
    cases hdelivered
  · rw [List.mem_singleton.mp hlater]
    exact .inr ⟨_,rfl,permuted_backwards _ _⟩

end KnativeMesh.Settled
