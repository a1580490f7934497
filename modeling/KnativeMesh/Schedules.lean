import KnativeMesh.ProviderConfig
import KnativeMesh.Sync

/-!
# Runs of several providers at the same time

A run of a provider waits twice: for the mesh, and for the catalog to take the
mutation. In between, other runs of the same or another provider may start, wait
and end. However they are mixed, every provider holds what its own runs would
leave if they ran one after the other, in the order in which their mutations
take effect. If no two runs of a provider overlap this is the order in which
they started.
-/

namespace KnativeMesh.Schedules

open Go Kubernetes Mesh ClusterContents Wire Entities Sync ProviderConfig Library.Register
open Provider (Entity KnativeEventMeshProvider)

/-- What a run waits for: the mesh, or the mutation with its entities. -/
inductive Waiting where
  | eventMesh
  | applyMutation (entities : List DeferredEntity)

/-- A run that has started and not ended, with its surroundings. -/
structure PendingRun where
  provider : KnativeEventMeshProvider
  tick : Tick
  waiting : Waiting

/-- The plugin and the catalog, with the runs that have not ended. -/
structure Plugin where
  state : State
  pending : List PendingRun

/-- What happens next; runs are given by their position among the pending ones. -/
inductive Event where
  | connect (provider : KnativeEventMeshProvider)
  | start (provider : KnativeEventMeshProvider) (tick : Tick)
  /-- getEventMesh settles. -/
  | receive (run : ℕ)
  /-- applyMutation takes effect. -/
  | resolve (run : ℕ)
  /-- applyMutation throws. -/
  | reject (run : ℕ)

section Code

variable (lib : Libraries)

/-- A run that has received its mesh builds the entities and calls
applyMutation; a run that did not get one logs the error and ends. -/
def receive (run : PendingRun) : Option PendingRun :=
  match getEventMesh lib run.tick (meshUrl run.provider) run.provider.token with
  | .error _ => none
  | .ok eventMesh => some {run with
      waiting := .applyMutation (deferred run.provider (run.provider.buildEntities eventMesh))}

/-- The run whose mutation an event lets take effect. -/
def committed (plugin : Plugin) : Event → Option (PendingRun×List DeferredEntity)
  | .resolve i =>
    match plugin.pending[i]? with
    | some ⟨provider,tick,.applyMutation entities⟩ =>
      some (⟨provider,tick,.applyMutation entities⟩,entities)
    | _ => none
  | _ => none

/-- One event; an event that cannot happen changes nothing. -/
def step (plugin : Plugin) : Event → Plugin
  | .connect provider => {plugin with state := connect provider plugin.state}
  | .start provider tick =>
    if provider.getProviderName ∉ plugin.state.connected then plugin
    else {plugin with pending := plugin.pending++[⟨provider,tick,.eventMesh⟩]}
  | .receive i =>
    match plugin.pending[i]? with
    | some ⟨provider,tick,.eventMesh⟩ =>
      match receive lib ⟨provider,tick,.eventMesh⟩ with
      | none => {plugin with pending := plugin.pending.eraseIdx i}
      | some run => {plugin with pending := plugin.pending.set i run}
    | _ => plugin
  | .resolve i =>
    match committed plugin (.resolve i) with
    | none => plugin
    | some (run,entities) =>
      ⟨applyMutation run.provider entities plugin.state,plugin.pending.eraseIdx i⟩
  | .reject i =>
    match plugin.pending[i]? with
    | some ⟨_,_,.applyMutation _⟩ => {plugin with pending := plugin.pending.eraseIdx i}
    | _ => plugin

/-- A sequence of events. -/
def runEvents (plugin : Plugin) (events : List Event) : Plugin := events.foldl (step lib) plugin

/-- The runs whose mutations take effect in a sequence of events, in the order
in which they do. -/
def commits (plugin : Plugin) : List Event → List PendingRun
  | [] => []
  | event::events =>
    (committed plugin event).toList.map Prod.fst++commits (step lib plugin event) events

end Code

section Steps

variable (lib : Libraries)

/-- What one event comes to: the plugin after it, and the run whose mutation
has taken effect. -/
inductive Outcome (plugin : Plugin) :
    Event → Plugin → Option (PendingRun×List DeferredEntity) → Prop where
  | connected (provider : KnativeEventMeshProvider) :
    Outcome plugin (.connect provider) {plugin with state := connect provider plugin.state} none
  | ignored (event : Event) : Outcome plugin event plugin none
  | started (provider : KnativeEventMeshProvider) (tick : Tick) :
    Outcome plugin (.start provider tick)
      {plugin with pending := plugin.pending++[⟨provider,tick,.eventMesh⟩]} none
  | received {i : ℕ} {run : PendingRun} {entities : List DeferredEntity}
    (hrun : plugin.pending[i]?=some run)
    (hpublished : published lib run.provider run.tick=some entities) :
    Outcome plugin (.receive i)
      {plugin with pending := plugin.pending.set i {run with waiting := .applyMutation entities}} none
  | dropped {i : ℕ} {run : PendingRun} (event : Event) (hrun : plugin.pending[i]?=some run) :
    Outcome plugin event {plugin with pending := plugin.pending.eraseIdx i} none
  | resolved {i : ℕ} {run : PendingRun} {entities : List DeferredEntity}
    (hrun : plugin.pending[i]?=some run) (hwaiting : run.waiting=.applyMutation entities) :
    Outcome plugin (.resolve i)
      ⟨applyMutation run.provider entities plugin.state,plugin.pending.eraseIdx i⟩
      (some (run,entities))

/-- A run receives its mesh exactly where its tick publishes, and then waits for
the mutation with what the tick publishes. -/
theorem receive_eq (run : PendingRun) : receive lib run=
    (published lib run.provider run.tick).map fun entities =>
      {run with waiting := .applyMutation entities} := by
  unfold receive published
  cases getEventMesh lib run.tick (meshUrl run.provider) run.provider.token <;> rfl

/-- Every event comes to one of the outcomes. -/
theorem outcome_step (plugin : Plugin) (event : Event) :
    Outcome lib plugin event (step lib plugin event) (committed plugin event) := by
  cases event with
  | connect provider => exact .connected provider
  | start provider tick =>
    dsimp only [step,committed]
    by_cases hconnected : provider.getProviderName ∈ plugin.state.connected
    · rw [if_neg (not_not.mpr hconnected)]
      exact .started provider tick
    · rw [if_pos hconnected]
      exact .ignored _
  | receive i =>
    dsimp only [step,committed]
    cases hrun : plugin.pending[i]? with
    | none => exact .ignored _
    | some run =>
      rcases run with ⟨provider,tick,waiting⟩
      cases waiting with
      | applyMutation entities => exact .ignored _
      | eventMesh =>
        dsimp only
        rw [receive_eq]
        cases hpublished : published lib provider tick with
        | none => exact .dropped _ hrun
        | some entities => exact .received hrun hpublished
  | resolve i =>
    dsimp only [step,committed]
    cases hrun : plugin.pending[i]? with
    | none => exact .ignored _
    | some run =>
      rcases run with ⟨provider,tick,waiting⟩
      cases waiting with
      | eventMesh => exact .ignored _
      | applyMutation entities => exact .resolved hrun rfl
  | reject i =>
    dsimp only [step,committed]
    cases hrun : plugin.pending[i]? with
    | none => exact .ignored _
    | some run =>
      rcases run with ⟨provider,tick,waiting⟩
      cases waiting with
      | eventMesh => exact .ignored _
      | applyMutation entities => exact .dropped _ hrun

/-- Every run that waits for a mutation waits with what its tick publishes. -/
def Ready (plugin : Plugin) : Prop :=
  ∀ run ∈ plugin.pending, ∀ entities, run.waiting=.applyMutation entities →
    published lib run.provider run.tick=some entities

/-- No event changes that. -/
theorem ready_step {plugin : Plugin} (h : Ready lib plugin) (event : Event) :
    Ready lib (step lib plugin event) := by
  have houtcome := outcome_step lib plugin event
  generalize step lib plugin event=plugin' at houtcome ⊢
  generalize committed plugin event=commit at houtcome
  cases houtcome with
  | connected provider => exact h
  | ignored event => exact h
  | started provider tick =>
    intro run hrun
    rcases List.mem_append.mp hrun with hold | hnew
    · exact h run hold
    · rw [List.mem_singleton.mp hnew]
      exact nofun
  | received hrun hpublished =>
    intro run hmem
    rcases List.mem_or_eq_of_mem_set hmem with hold | hnew
    · exact h run hold
    · rw [hnew]
      intro entities hwaiting
      cases hwaiting
      exact hpublished
  | dropped event hrun => exact fun run hmem => h run (List.mem_of_mem_eraseIdx hmem)
  | resolved hrun hwaiting => exact fun run hmem => h run (List.mem_of_mem_eraseIdx hmem)

/-- What a run publishes under the name of a provider. -/
def publishedUnder (provider : KnativeEventMeshProvider) (run : PendingRun) :
    Option (List DeferredEntity) :=
  if run.provider.getProviderName=provider.getProviderName then published lib run.provider run.tick
  else none

/-- An event acts on what a provider holds by the run whose mutation takes
effect, if it is one under the provider's name. -/
theorem held_step {plugin : Plugin} (h : Ready lib plugin) (provider : KnativeEventMeshProvider)
    (event : Event) : held provider (step lib plugin event).state=
      overwrite (publishedUnder lib provider) (held provider plugin.state)
        ((committed plugin event).toList.map Prod.fst) := by
  have houtcome := outcome_step lib plugin event
  generalize step lib plugin event=plugin' at houtcome ⊢
  generalize committed plugin event=commit at houtcome ⊢
  cases houtcome with
  | connected provider => rfl
  | ignored event => rfl
  | started provider tick => rfl
  | received hrun hpublished => rfl
  | dropped event hrun => rfl
  | @resolved i run entities hrun hwaiting =>
    have hpublished := h run (List.mem_of_getElem? hrun) entities hwaiting
    change held provider (applyMutation run.provider entities plugin.state)=
      (publishedUnder lib provider run).getD (held provider plugin.state)
    unfold publishedUnder
    by_cases hname : run.provider.getProviderName=provider.getProviderName
    · rw [if_pos hname,hpublished,Option.getD_some]
      dsimp only [held,applyMutation]
      rw [hname,Std.ExtTreeMap.getElem?_insert_self,Option.getD_some]
    · rw [if_neg hname,Option.getD_none]
      exact held_applyMutation_other run.provider (Ne.symm hname) entities plugin.state

/-- What a provider holds after any events is what the committed runs under its
name leave in a register. -/
theorem held_runEvents {plugin : Plugin} (h : Ready lib plugin)
    (provider : KnativeEventMeshProvider) (events : List Event) :
    held provider (runEvents lib plugin events).state=
      overwrite (publishedUnder lib provider) (held provider plugin.state)
        (commits lib plugin events) := by
  induction events generalizing plugin with
  | nil => rfl
  | cons event events ih =>
    have hrest := ih (ready_step lib h event)
    rw [held_step lib h] at hrest
    dsimp only [commits,overwrite]
    rw [List.foldl_append]
    exact hrest

end Steps

section Own

variable (lib : Libraries) (provider : KnativeEventMeshProvider)

/-- The ticks of the runs under the name of a provider. -/
def ownTicks (runs : List PendingRun) : List Tick :=
  runs.filterMap fun run =>
    if run.provider.getProviderName=provider.getProviderName then some run.tick else none

/-- The ticks with which the runs of a provider start. -/
def startedTicks (events : List Event) : List Tick :=
  events.filterMap fun
    | .start started tick =>
      if started.getProviderName=provider.getProviderName then some tick else none
    | _ => none

/-- No run of a provider starts before the one before it has ended. -/
def NoOverlap (plugin : Plugin) : List Event → Prop
  | [] => True
  | event::events =>
    (startedTicks provider [event]≠[] → ownTicks provider plugin.pending=[]) ∧
      NoOverlap (step lib plugin event) events

/-- A run that goes on waiting keeps its tick. -/
theorem ownTicks_set {pending : List PendingRun} {i : ℕ} {run : PendingRun}
    (hrun : pending[i]?=some run) (waiting : Waiting) :
    ownTicks provider (pending.set i {run with waiting := waiting})=ownTicks provider pending := by
  have hkey : ∀ runs : List PendingRun, ownTicks provider runs=
      (runs.map fun run => (run.provider,run.tick)).filterMap fun key =>
        if key.1.getProviderName=provider.getProviderName then some key.2 else none := by
    intro runs
    rw [List.filterMap_map]
    rfl
  have hfound := List.getElem?_eq_some_iff.mp hrun
  rcases hfound with ⟨hi,rfl⟩
  have hi' : i < (pending.map fun run => (run.provider,run.tick)).length := by
    rw [List.length_map]
    exact hi
  have hself := List.set_getElem_self hi'
  rw [List.getElem_map] at hself
  rw [hkey,hkey,List.map_set]
  exact congrArg _ hself

/-- A run that ends takes its own tick out of the pending ones. -/
theorem ownTicks_eraseIdx {pending : List PendingRun} {i : ℕ} {run : PendingRun}
    (hrun : pending[i]?=some run) :
    (ownTicks provider [run]++ownTicks provider (pending.eraseIdx i)).Perm
      (ownTicks provider pending) := by
  have hfound := List.getElem?_eq_some_iff.mp hrun
  rcases hfound with ⟨hi,rfl⟩
  have hperm := (List.getElem_cons_eraseIdx_perm hi).filterMap fun run =>
    if run.provider.getProviderName=provider.getProviderName then some run.tick else none
  unfold ownTicks
  rw [←List.filterMap_append]
  exact hperm

/-- The ticks of a run that starts are appended to the pending ones. -/
theorem ownTicks_append (pending : List PendingRun) (started : KnativeEventMeshProvider) (tick : Tick) :
    ownTicks provider (pending++[⟨started,tick,.eventMesh⟩])=
      ownTicks provider pending++startedTicks provider [.start started tick] := by
  unfold ownTicks startedTicks
  rw [List.filterMap_append]
  rfl

/-- The ticks of some events are those of the first and those of the others. -/
theorem startedTicks_cons (event : Event) (events : List Event) :
    startedTicks provider (event::events)=
      startedTicks provider [event]++startedTicks provider events := by
  unfold startedTicks
  rw [←List.filterMap_append]
  rfl

/-- The ticks of all runs of a provider that are pending or start later: what
an event commits or drops leaves them, and nothing else does. -/
theorem ownTicks_step (plugin : Plugin) (event : Event) :
    (ownTicks provider ((committed plugin event).toList.map Prod.fst)++
      ownTicks provider (step lib plugin event).pending).Subperm
        (ownTicks provider plugin.pending++startedTicks provider [event]) := by
  have houtcome := outcome_step lib plugin event
  generalize step lib plugin event=plugin' at houtcome ⊢
  generalize committed plugin event=commit at houtcome ⊢
  cases houtcome with
  | connected connecting => exact (List.sublist_append_left _ _).subperm
  | ignored event => exact (List.sublist_append_left _ _).subperm
  | started started tick =>
    dsimp only
    rw [ownTicks_append]
    exact (List.Sublist.refl _).subperm
  | received hrun hpublished =>
    dsimp only
    rw [ownTicks_set provider hrun]
    exact (List.sublist_append_left _ _).subperm
  | dropped event hrun =>
    have hperm := ownTicks_eraseIdx provider hrun
    have hsub := (List.sublist_append_right _ _).subperm.trans hperm.subperm
    exact hsub.trans (List.sublist_append_left _ _).subperm
  | resolved hrun hwaiting =>
    have hperm := ownTicks_eraseIdx provider hrun
    exact hperm.subperm.trans (List.sublist_append_left _ _).subperm

/-- Every tick whose mutation takes effect is that of a run of its own which
was pending or has started. -/
theorem ownTicks_commits (plugin : Plugin) (events : List Event) :
    (ownTicks provider (commits lib plugin events)).Subperm
      (ownTicks provider plugin.pending++startedTicks provider events) := by
  induction events generalizing plugin with
  | nil => exact List.nil_subperm
  | cons event events ih =>
    have hfirst := ownTicks_step lib provider plugin event
    have hrest := ih (step lib plugin event)
    have happend : ownTicks provider (commits lib plugin (event::events))=
        ownTicks provider ((committed plugin event).toList.map Prod.fst)++
          ownTicks provider (commits lib (step lib plugin event) events) :=
      List.filterMap_append
    rw [happend,startedTicks_cons,←List.append_assoc]
    refine ((List.subperm_append_left _).mpr hrest).trans ?_
    rw [←List.append_assoc]
    exact (List.subperm_append_right _).mpr hfirst

/-- Without overlaps, mutations take effect in the order in which the runs
start. -/
theorem ownTicks_commits_of_noOverlap {plugin : Plugin} {events : List Event}
    (hone : (ownTicks provider plugin.pending).length ≤ 1)
    (h : NoOverlap lib provider plugin events) :
    (ownTicks provider (commits lib plugin events)).Sublist
      (ownTicks provider plugin.pending++startedTicks provider events) := by
  induction events generalizing plugin with
  | nil => exact List.nil_sublist _
  | cons event events ih =>
    have hsub := ownTicks_step lib provider plugin event
    have hfree := h.1
    -- pending and started ticks together are at most one
    have hlength : (ownTicks provider plugin.pending++startedTicks provider [event]).length ≤ 1 := by
      cases hstarted : startedTicks provider [event] with
      | nil =>
        rw [List.append_nil]
        exact hone
      | cons tick rest =>
        have hnone := hfree (by rw [hstarted]; exact List.cons_ne_nil _ _)
        have hle : (startedTicks provider [event]).length ≤ 1 := List.length_filterMap_le _ _
        rw [hnone,←hstarted]
        exact hle
    have hsublist : (ownTicks provider ((committed plugin event).toList.map Prod.fst)++
        ownTicks provider (step lib plugin event).pending).Sublist
          (ownTicks provider plugin.pending++startedTicks provider [event]) := by
      rcases hsub with ⟨ticks,hperm,hticks⟩
      have hshort := hticks.length_le.trans hlength
      have hsame : ticks=ownTicks provider ((committed plugin event).toList.map Prod.fst)++
          ownTicks provider (step lib plugin event).pending := by
        cases ticks with
        | nil => exact hperm.nil_eq
        | cons tick rest =>
          have hnil : rest=[] := by
            rw [List.length_cons] at hshort
            exact List.eq_nil_of_length_eq_zero (by omega)
          subst hnil
          exact (List.perm_singleton.mp hperm.symm).symm
      rw [←hsame]
      exact hticks
    have hpending : (ownTicks provider (step lib plugin event).pending).length ≤ 1 := by
      have hle := hsublist.length_le
      rw [List.length_append] at hle
      omega
    have hrest := ih hpending h.2
    have happend : ownTicks provider (commits lib plugin (event::events))=
        ownTicks provider ((committed plugin event).toList.map Prod.fst)++
          ownTicks provider (commits lib (step lib plugin event) events) :=
      List.filterMap_append
    rw [happend,startedTicks_cons,←List.append_assoc]
    refine (hrest.append_left _).trans ?_
    rw [←List.append_assoc]
    exact hsublist.append_right _

end Own

section Providers

variable (lib : Libraries)

/-- Only providers of which runs are pending or start are committed, and only
with ticks that publish. -/
theorem of_mem_commits {P : KnativeEventMeshProvider → Prop} {plugin : Plugin} {events : List Event}
    (hready : Ready lib plugin) (hpending : ∀ run ∈ plugin.pending, P run.provider)
    (hstarted : ∀ provider tick, Event.start provider tick ∈ events → P provider) :
    ∀ run ∈ commits lib plugin events,
      P run.provider ∧ published lib run.provider run.tick≠none := by
  induction events generalizing plugin with
  | nil => exact fun run hrun => absurd hrun List.not_mem_nil
  | cons event events ih =>
    have hnext : (∀ run ∈ (step lib plugin event).pending, P run.provider) ∧
        ∀ run ∈ (committed plugin event).toList.map Prod.fst,
          P run.provider ∧ published lib run.provider run.tick≠none := by
      have hhere : ∀ provider tick, event=.start provider tick → P provider :=
        fun provider tick he => hstarted provider tick (by rw [he]; exact List.mem_cons_self)
      have houtcome := outcome_step lib plugin event
      generalize step lib plugin event=plugin' at houtcome ⊢
      generalize committed plugin event=commit at houtcome ⊢
      cases houtcome with
      | connected connecting => exact ⟨hpending,fun run hrun => absurd hrun List.not_mem_nil⟩
      | ignored event => exact ⟨hpending,fun run hrun => absurd hrun List.not_mem_nil⟩
      | started started tick =>
        refine ⟨fun run hrun => ?_,fun run hrun => absurd hrun List.not_mem_nil⟩
        rcases List.mem_append.mp hrun with hold | hnew
        · exact hpending run hold
        · rw [List.mem_singleton.mp hnew]
          exact hhere started tick rfl
      | @received i run entities hrun hpublished =>
        have hwaited := hpending run (List.mem_of_getElem? hrun)
        refine ⟨fun other hother => ?_,fun run hrun => absurd hrun List.not_mem_nil⟩
        rcases List.mem_or_eq_of_mem_set hother with hold | hnew
        · exact hpending other hold
        · rw [hnew]
          exact hwaited
      | dropped event hrun =>
        exact ⟨fun run hmem => hpending run (List.mem_of_mem_eraseIdx hmem),
          fun run hrun => absurd hrun List.not_mem_nil⟩
      | @resolved i run entities hrun hwaiting =>
        have hmem := List.mem_of_getElem? hrun
        refine ⟨fun run hmem => hpending run (List.mem_of_mem_eraseIdx hmem),fun other hother => ?_⟩
        rw [List.mem_singleton.mp hother]
        exact ⟨hpending run hmem,ne_of_eq_of_ne (hready run hmem entities hwaiting) nofun⟩
    have hlater := ih (ready_step lib hready event) hnext.1
      fun provider tick hmem => hstarted provider tick (List.mem_cons_of_mem event hmem)
    intro run hrun
    rcases List.mem_append.mp hrun with hfirst | hrest
    · exact hnext.2 run hfirst
    · exact hlater run hrest

/-- The first run adds its tick if it is one of the provider. -/
theorem ownTicks_cons (provider : KnativeEventMeshProvider) (run : PendingRun)
    (runs : List PendingRun) : ownTicks provider (run::runs)=
      if run.provider.getProviderName=provider.getProviderName then
        run.tick::ownTicks provider runs
      else ownTicks provider runs := by
  unfold ownTicks
  rw [List.filterMap_cons]
  by_cases hname : run.provider.getProviderName=provider.getProviderName
  · rw [if_pos hname,if_pos hname]
  · rw [if_neg hname,if_neg hname]

/-- Runs that are all a provider's own, as far as they have its name, leave
what their ticks leave. -/
theorem overwrite_ownTicks {provider : KnativeEventMeshProvider} {runs : List PendingRun}
    (hown : ∀ run ∈ runs, run.provider.getProviderName=provider.getProviderName →
      run.provider=provider) (entities : List DeferredEntity) :
    overwrite (publishedUnder lib provider) entities runs=
      overwrite (published lib provider) entities (ownTicks provider runs) := by
  induction runs generalizing entities with
  | nil => rfl
  | cons run runs ih =>
    have hrest := ih fun other hother => hown other (List.mem_cons_of_mem run hother)
    dsimp only [overwrite] at hrest ⊢
    rw [List.foldl_cons,hrest,ownTicks_cons,publishedUnder]
    by_cases hname : run.provider.getProviderName=provider.getProviderName
    · have hsame := hown run List.mem_cons_self hname
      rw [if_pos hname,if_pos hname,List.foldl_cons,hsame]
    · rw [if_neg hname,if_neg hname,Option.getD_none]

/-- However the runs of configured providers are mixed, every provider holds
what the ticks of its own committed runs leave one after the other. Each of
these ticks succeeded and belongs to a run of its own that was started, and
without overlapping runs of the provider they come in the order of the starts. -/
theorem interleaved_eq_runTicks {S : Type} {readTaskScheduleDefinitionFromConfig : Config → Except String S}
    {configRoot : Config} {options : Options} {scheduled : List (ScheduledProvider S)}
    (hconfig : fromConfig readTaskScheduleDefinitionFromConfig configRoot options=.ok scheduled)
    (hkeys : ∀ providerConfigs,
      configRoot.getOptionalConfig providersPath=.ok (some providerConfigs) →
        providerConfigs.keys.Nodup)
    {provider : KnativeEventMeshProvider} (hprovider : provider ∈ scheduled.map (·.provider))
    (state : State) {events : List Event}
    (hevents : ∀ started tick, Event.start started tick ∈ events →
      started ∈ scheduled.map (·.provider)) :
    held provider (runEvents lib ⟨state,[]⟩ events).state=
        held provider (runTicks lib provider (connect provider state)
          (ownTicks provider (commits lib ⟨state,[]⟩ events))) ∧
      (∀ tick ∈ ownTicks provider (commits lib ⟨state,[]⟩ events),
        ∃ mesh, succeeds lib provider tick mesh) ∧
      (ownTicks provider (commits lib ⟨state,[]⟩ events)).Subperm (startedTicks provider events) ∧
      (NoOverlap lib provider ⟨state,[]⟩ events →
        (ownTicks provider (commits lib ⟨state,[]⟩ events)).Sublist (startedTicks provider events)) := by
  have hnames : ((scheduled.map (·.provider)).map (·.getProviderName)).Nodup := by
    rw [List.map_map]
    exact providerNames_nodup hconfig hkeys
  have hready : Ready lib ⟨state,[]⟩ := fun run hrun => absurd hrun List.not_mem_nil
  have hcommits := of_mem_commits lib (P := (· ∈ scheduled.map (·.provider))) hready
    (fun run hrun => absurd hrun List.not_mem_nil) hevents
  have hown : ∀ run ∈ commits lib ⟨state,[]⟩ events,
      run.provider.getProviderName=provider.getProviderName → run.provider=provider := by
    intro run hrun hname
    exact List.inj_on_of_nodup_map hnames (hcommits run hrun).1 hprovider hname
  refine ⟨?_,fun tick htick => ?_,ownTicks_commits lib provider _ events,
    fun h => ownTicks_commits_of_noOverlap lib provider (Nat.zero_le 1) h⟩
  · have hconnected : provider.getProviderName ∈ (connect provider state).connected :=
      List.mem_cons_self
    rw [held_runEvents lib hready,overwrite_ownTicks lib hown,held_runTicks lib provider hconnected]
    rfl
  · have hrun := List.mem_filterMap.mp htick
    rcases hrun with ⟨run,hrun,htick⟩
    by_cases hname : run.provider.getProviderName=provider.getProviderName
    · rw [if_pos hname] at htick
      have hpublished := (hcommits run hrun).2
      rw [hown run hrun hname,Option.some.inj htick] at hpublished
      by_contra hnone
      exact hpublished ((published_eq_none_iff lib provider tick).mpr (not_exists.mp hnone))
    · rw [if_neg hname] at htick
      cases htick

end Providers

/-- A run of the second provider starts and ends while a run of the first one
waits for its mesh, and the next run of the second one fails. -/
def mixedEvents : List Event :=
  [.connect firstProvider,.connect secondProvider,.start firstProvider readableTick,
    .start secondProvider readableTick,.receive 1,.resolve 1,.start secondProvider deniedTick,
    .receive 0,.receive 1,.resolve 0]

/-- Runs of two providers that are mixed leave each provider what its own run
leaves. -/
theorem interleaved_eq_runTicks_twoProviders :
    held firstProvider (runEvents (librariesWith []) ⟨⟨[],∅⟩,[]⟩ mixedEvents).state=
        held firstProvider (runTicks (librariesWith []) firstProvider
          (connect firstProvider ⟨[],∅⟩) [readableTick]) ∧
      held secondProvider (runEvents (librariesWith []) ⟨⟨[],∅⟩,[]⟩ mixedEvents).state=
        held secondProvider (runTicks (librariesWith []) secondProvider
          (connect secondProvider ⟨[],∅⟩) [readableTick]) := by
  have hkeys : ∀ providerConfigs,
      twoProviders.getOptionalConfig providersPath=.ok (some providerConfigs) →
        providerConfigs.keys.Nodup := by
    intro providerConfigs h
    cases h
    decide
  have hevents : ∀ started tick, Event.start started tick ∈ mixedEvents →
      started ∈ twoScheduled.map (·.provider) := by
    intro started tick hmem
    simp only [mixedEvents,List.mem_cons,reduceCtorEq,Event.start.injEq,List.not_mem_nil,
      false_or,or_false] at hmem
    rcases hmem with ⟨rfl,_⟩ | ⟨rfl,_⟩ | ⟨rfl,_⟩
    · exact List.mem_cons_self
    · exact List.mem_cons_of_mem _ List.mem_cons_self
    · exact List.mem_cons_of_mem _ List.mem_cons_self
  exact ⟨(interleaved_eq_runTicks (librariesWith []) fromConfig_twoProviders hkeys
      List.mem_cons_self ⟨[],∅⟩ hevents).1,
    (interleaved_eq_runTicks (librariesWith []) fromConfig_twoProviders hkeys
      (List.mem_cons_of_mem _ List.mem_cons_self) ⟨[],∅⟩ hevents).1⟩

end KnativeMesh.Schedules
