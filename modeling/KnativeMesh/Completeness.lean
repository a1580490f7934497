import KnativeMesh.Subscriptions

/-!
# When a mesh is complete

A mesh is half-built as long as a pass of the run is still to come. What a
complete one holds is written down here without the passes: each list entry with
all names that are registered at it, each event type with the labels of all
triggers and then of all subscriptions that select it, and no subscription at
which the loop would have had to stop. A run returns a mesh exactly if it is
complete.
-/

namespace KnativeMesh.Completeness

open Go UnstructuredObject Kubernetes Mesh Converters Builder Passes Runs Listing Fetches
open ClusterContents Registration Triggers Subscriptions Library.Scatter

/-- A subscriber contributes its label, unless that is empty, to an event type
as often as the event type is selected. -/
def contribution (label : Option String) (selected : List ℕ) (eventType : ℕ) : List String :=
  if label.getD ""="" then [] else List.replicate (selected.count eventType) (label.getD "")

section Contents

variable {lib : Libraries} {answers : Answers} (f : Fetched lib answers)

/-- The brokers with the names that are registered at each. -/
def providedBrokers : List Broker :=
  f.convertedBrokers.zipIdx.map fun br => {br.1 with providedEventTypes := .of (names f (.broker br.2))}

/-- The subscribables with the names that are registered at each. -/
def providedSubscribables : List Subscribable :=
  f.subscribables.toList.zipIdx.map fun s =>
    {s.1 with providedEventTypes := .of (names f (.subscribable s.2))}

/-- The sources with the names of the event types of the types they announce. -/
def providedSources : List Source :=
  f.sources.toList.map fun source =>
    {source with providedEventTypes := .of (announcedNames f.convertedEventTypes source)}

/-- The consumers of the event type at a position: those of all triggers and
then those of all subscriptions, in listing order. -/
def consumers (eventType : ℕ) : List String :=
  (f.triggers.zipIdx.flatMap fun trigger =>
    contribution (trigger.1.spec.subscriber.ref.bind
        (subscriberLabel lib (answers (.triggerSubscriber trigger.2)).dynamicClient))
      (triggerTargets f.brokerMap f.etByNamespacedName (providedBrokers f) f.convertedEventTypes
        trigger.1) eventType)++
  f.subscriptions.zipIdx.flatMap fun subscription =>
    contribution (subscriptionLabel lib
        (answers (.subscriptionSubscriber subscription.2)).dynamicClient subscription.1)
      (subscriptionTargets f.subscribableMap f.etByNamespacedName (providedSubscribables f)
        subscription.1) eventType

/-- The event types with all of their consumers. -/
def consumedEventTypes : List EventType :=
  f.convertedEventTypes.zipIdx.map fun et => {et.1 with consumedBy := .of (consumers f et.2)}

end Contents

/-- A mesh is that of a run whose fetches succeeded: with an entry for each
listed resource, all names and all consumers, and nothing that stops the run. -/
structure CompleteFor {lib : Libraries} {answers : Answers} (f : Fetched lib answers)
    (mesh : EventMesh) : Prop where
  subscribablesListed : ∃ instances, listedSubscribables lib answers=.ok instances ∧
    instances.toList.map (fun i => convertSubscribable i.gvr i.object)=f.subscribables.toList
  sourcesListed : ∃ instances, listedSources lib answers=.ok instances ∧
    List.Forall₂ (fun i source => convertSource lib i.gvr i.crd i.object=.ok source)
      instances.toList f.sources.toList
  unstopped : Unstopped f
  brokers : mesh.brokers=.of (providedBrokers f)
  subscribables : mesh.subscribables=.of (providedSubscribables f)
  sources : mesh.sources=.of (providedSources f)
  eventTypes : mesh.eventTypes=.of (consumedEventTypes f)

/-- A mesh is complete for the answers of a run. -/
def Complete (lib : Libraries) (answers : Answers) (mesh : EventMesh) : Prop :=
  ∃ f : Fetched lib answers, CompleteFor f mesh

section Run

variable {lib : Libraries} {answers : Answers} (f : Fetched lib answers)

/-- The registered brokers have all names. -/
theorem registered_brokers_eq : f.registered.brokers=providedBrokers f := by
  apply List.ext_getElem?
  intro i
  rw [getElem?_registered_brokers,providedBrokers,List.getElem?_map,List.getElem?_zipIdx,
    Option.map_map,Nat.zero_add]
  rfl

/-- The registered subscribables have all names. -/
theorem registered_subscribables_eq : f.registered.subscribables=providedSubscribables f := by
  apply List.ext_getElem?
  intro i
  rw [getElem?_registered_subscribables,providedSubscribables,List.getElem?_map,
    List.getElem?_zipIdx,Option.map_map,Nat.zero_add]
  rfl

/-- What a loop writes to an event type is what its items contribute. -/
theorem logAt_contributions {ι : Type} (label : ι → Option String) (selected : ι → List ℕ)
    (items : List ι) (eventType : ℕ) :
    logAt eventType (logOf (fun item => if (label item).getD ""="" then [] else selected item)
        (fun item => (label item).getD "") items)=
      items.flatMap fun item => contribution (label item) (selected item) eventType := by
  rw [logAt_logOf_eq_flatMap]
  congr 1
  funext item
  dsimp only [contribution]
  split <;> rfl

/-- The trigger loop writes the labels of the triggers to the event types that
they select. -/
theorem logAt_triggerLog (eventType : ℕ) :
    logAt eventType (logOf (fun trigger => triggerWrites lib f.brokerMap f.etByNamespacedName
        (answers (.triggerSubscriber trigger.2)).dynamicClient f.registered trigger.1)
      (fun trigger => triggerId lib (answers (.triggerSubscriber trigger.2)).dynamicClient trigger.1)
      f.triggers.zipIdx)=
    f.triggers.zipIdx.flatMap fun trigger =>
      contribution (trigger.1.spec.subscriber.ref.bind
          (subscriberLabel lib (answers (.triggerSubscriber trigger.2)).dynamicClient))
        (triggerTargets f.brokerMap f.etByNamespacedName (providedBrokers f) f.convertedEventTypes
          trigger.1) eventType := by
  dsimp only [triggerWrites]
  simp only [triggerId_eq,registered_brokers_eq,registered_eventTypes]
  exact logAt_contributions _ _ _ eventType

/-- The subscription loop writes the labels of the subscriptions. -/
theorem logAt_subscriptionLog (eventType : ℕ) : logAt eventType (subscriptionLog f)=
    f.subscriptions.zipIdx.flatMap fun subscription =>
      contribution (subscriptionLabel lib
          (answers (.subscriptionSubscriber subscription.2)).dynamicClient subscription.1)
        (subscriptionTargets f.subscribableMap f.etByNamespacedName (providedSubscribables f)
          subscription.1) eventType := by
  have hframe : SameButConsumers f.triggered f.registered :=
    processTriggers_frame lib answers _ _ _ _
  dsimp only [subscriptionLog,subscriptionWrites]
  simp only [subscriptionId_eq,hframe.subscribables,registered_subscribables_eq]
  exact logAt_contributions _ _ _ eventType

/-- Without a stop the loops leave every event type with all of its consumers. -/
theorem eventTypes_eq : scatter EventType.consume f.triggered.eventTypes (subscriptionLog f)=
    consumedEventTypes f := by
  dsimp only [Fetched.triggered]
  rw [processTriggers_eq]
  dsimp only
  rw [registered_eventTypes,←scatter_append,scatter_eq_map]
  apply List.map_congr_left
  intro et het
  obtain ⟨resource,_,hresource⟩ := (mem_convertedEventTypes f).mp (List.fst_mem_of_mem_zipIdx het)
  rw [logAt_append,logAt_triggerLog,logAt_subscriptionLog,foldl_consume,←hresource]
  dsimp only [convertEventType]
  rw [Slice.foldl_append_of,List.nil_append]
  rfl

/-- The mesh of a run that nothing stops. -/
theorem outputMesh_eq : outputMesh {f.triggered with
    eventTypes := scatter EventType.consume f.triggered.eventTypes (subscriptionLog f)}=
    ⟨.of (providedBrokers f),.of (consumedEventTypes f),.of (providedSources f),
      .of (providedSubscribables f)⟩ := by
  have hframe : SameButConsumers f.triggered f.registered :=
    processTriggers_frame lib answers _ _ _ _
  dsimp only [outputMesh]
  rw [eventTypes_eq,hframe.brokers,hframe.subscribables,hframe.sources,registered_brokers_eq,
    registered_subscribables_eq,registered_sources]
  rfl

end Run

/-- A run returns a mesh exactly if the mesh is complete for what the run was
answered. -/
theorem buildEventMesh_eq_ok_iff_complete {lib : Libraries} {answers : Answers} {mesh : EventMesh} :
    buildEventMesh lib answers=.ok mesh ↔ Complete lib answers mesh := by
  constructor
  · intro hmesh
    obtain ⟨f⟩ := exists_fetched hmesh
    obtain ⟨store,hfinished,rfl⟩ := f.buildEventMesh_eq_ok_iff.mp hmesh
    obtain ⟨hstop,rfl⟩ := (finished_eq_ok_iff f).mp hfinished
    rw [outputMesh_eq]
    exact ⟨f,fetchSubscribables_map f.subscribables_ok,fetchSources_forall₂ f.sources_ok,
      (firstStop_eq_none_iff_unstopped f).mp hstop,rfl,rfl,rfl,rfl⟩
  · rintro ⟨f,h⟩
    have hstop := (firstStop_eq_none_iff_unstopped f).mpr h.unstopped
    refine f.buildEventMesh_eq_ok_iff.mpr ⟨_,(finished_eq_ok_iff f).mpr ⟨hstop,rfl⟩,?_⟩
    rw [outputMesh_eq,←h.brokers,←h.subscribables,←h.sources,←h.eventTypes]

/-- The mesh from before the trigger loop is half-built. -/
example : ¬ Complete (librariesWith []) (snapshot fourTriggers.cluster)
    (outputMesh fourTriggersFetched.registered) := by
  rw [←buildEventMesh_eq_ok_iff_complete,fourTriggersFetched.buildEventMesh_eq]
  intro h
  have hconsumers := congrArg (fun mesh => mesh.eventTypes.toList.map (·.consumedBy)) (Except.ok.inj h)
  exact absurd hconsumers (by decide)

end KnativeMesh.Completeness
