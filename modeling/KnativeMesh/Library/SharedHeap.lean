import Mathlib.Data.List.Induction

/-!
# Threads that share a heap

Threads are started at any time and are advanced in any order. Each step of a
thread accesses the heap once or not at all, and a step may end the process. If
every thread stores only into objects that it allocated itself, no two threads
race, what stood in the heap at the beginning never changes, and a statement
about one thread may be proved from the steps of that thread alone.
-/

namespace KnativeMesh.Library.SharedHeap

/-- What a thread does next, and what it is afterwards. -/
inductive Command (T V : Type) where
  | done
  /-- The process ends, with all of its threads. -/
  | exit
  | tau (next : T)
  | load (address : ℕ) (next : V → T)
  | alloc (value : V) (next : ℕ → T)
  | store (address : ℕ) (update : V → V) (next : T)

/-- Threads by the inputs that start them, and what they do. -/
structure System (I T V : Type) where
  spawn : I → T
  command : T → Command T V

/-- A process between two steps. -/
structure Process (T V : Type) where
  threads : List T
  heap : List V
  running : Bool

/-- What a scheduler decides: to start a thread or to advance one. -/
inductive Event (I : Type) where
  | start (input : I)
  | advance (thread : ℕ)

variable {I T V : Type}

/-- The thread and the heap after a command, unless the command ends the
thread or the process or accesses an object that does not exist. -/
def execute (heap : List V) : Command T V → Option (T×List V)
  | .done => none
  | .exit => none
  | .tau next => some (next,heap)
  | .load address next => heap[address]?.map fun value => (next value,heap)
  | .alloc value next => some (next heap.length,heap++[value])
  | .store address update next =>
    heap[address]?.map fun value => (next,heap.set address (update value))

/-- The address that a command stores to. -/
def Command.stores : Command T V → Option ℕ
  | .store address _ _ => some address
  | _ => none

/-- The address that a command loads from or stores to. -/
def Command.accesses : Command T V → Option ℕ
  | .load address _ => some address
  | .store address _ _ => some address
  | _ => none

/-- Loads leave the heap, an allocation extends it, and a store changes one
object of it. -/
theorem getElem?_of_execute {heap heap' : List V} {command : Command T V} {next : T}
    (h : execute heap command=some (next,heap')) {address : ℕ} (hbound : address < heap.length)
    (hne : command.stores≠some address) : heap'[address]?=heap[address]? := by
  cases command with
  | done => cases h
  | exit => cases h
  | tau after =>
    cases h
    rfl
  | load loaded after =>
    have hvalue := Option.map_eq_some_iff.mp h
    rcases hvalue with ⟨value,_,hresult⟩
    cases hresult
    rfl
  | alloc value after =>
    cases h
    exact List.getElem?_append_left hbound
  | store stored update after =>
    have hvalue := Option.map_eq_some_iff.mp h
    rcases hvalue with ⟨value,_,hresult⟩
    cases hresult
    have hother : stored≠address := fun he => hne (congrArg some he)
    exact List.getElem?_set_ne hother

/-- No command shortens the heap. -/
theorem length_le_of_execute {heap heap' : List V} {command : Command T V} {next : T}
    (h : execute heap command=some (next,heap')) : heap.length ≤ heap'.length := by
  cases command with
  | done => cases h
  | exit => cases h
  | tau after =>
    cases h
    exact Nat.le_refl _
  | load loaded after =>
    have hvalue := Option.map_eq_some_iff.mp h
    rcases hvalue with ⟨value,_,hresult⟩
    cases hresult
    exact Nat.le_refl _
  | alloc value after =>
    cases h
    rw [List.length_append]
    omega
  | store stored update after =>
    have hvalue := Option.map_eq_some_iff.mp h
    rcases hvalue with ⟨value,_,hresult⟩
    cases hresult
    exact Nat.le_of_eq List.length_set.symm

namespace System

variable (system : System I T V)

/-- One event, if it is possible. -/
def perform (process : Process T V) (event : Event I) : Option (Process T V) :=
  if process.running then
    match event with
    | .start input => some {process with threads := process.threads++[system.spawn input]}
    | .advance i =>
      match process.threads[i]? with
      | none => none
      | some thread =>
        match system.command thread with
        | .exit => some {process with running := false}
        | command => (execute process.heap command).map fun result =>
          {process with threads := process.threads.set i result.1, heap := result.2}
  else none

/-- A run of events, each of them possible where it occurs. -/
def runEvents (process : Process T V) : List (Event I) → Option (Process T V)
  | [] => some process
  | event::events => (system.perform process event).bind fun process =>
    runEvents process events

/-- A process with a heap and no threads yet. -/
def initial (heap : List V) : Process T V := ⟨[],heap,true⟩

/-- The processes that some run of events leads to. -/
def Reachable (heap : List V) (process : Process T V) : Prop :=
  ∃ events, system.runEvents (initial heap) events=some process

/-- What one event can do: start a thread, end the process, or let one thread
execute its command. -/
theorem perform_cases {process process' : Process T V} {event : Event I}
    (h : system.perform process event=some process') :
    process.running=true ∧
      ((∃ input, event=.start input ∧
          process'={process with threads := process.threads++[system.spawn input]}) ∨
        ∃ i thread, event=.advance i ∧ process.threads[i]?=some thread ∧
          (system.command thread=.exit ∧ process'={process with running := false} ∨
            ∃ next heap, execute process.heap (system.command thread)=some (next,heap) ∧
              process'={process with threads := process.threads.set i next, heap := heap})) := by
  dsimp only [perform] at h
  by_cases hrunning : process.running=true
  · refine ⟨hrunning,?_⟩
    rw [if_pos hrunning] at h
    cases event with
    | start input => exact .inl ⟨input,rfl,(Option.some.inj h).symm⟩
    | advance i =>
      dsimp only at h
      cases hthread : process.threads[i]? with
      | none => simp [hthread] at h
      | some thread =>
        rw [hthread] at h
        dsimp only at h
        refine .inr ⟨i,thread,rfl,hthread,?_⟩
        by_cases hexit : system.command thread=.exit
        · rw [hexit] at h
          exact .inl ⟨hexit,(Option.some.inj h).symm⟩
        · have hresult : (execute process.heap (system.command thread)).map (fun result =>
              {process with threads := process.threads.set i result.1, heap := result.2})=
              some process' := by
            rw [←h]
            cases hc : system.command thread with
            | exit => exact absurd hc hexit
            | _ => rfl
          have hexecuted := Option.map_eq_some_iff.mp hresult
          rcases hexecuted with ⟨result,hexecuted,hprocess⟩
          exact .inr ⟨result.1,result.2,hexecuted,hprocess.symm⟩
  · rw [if_neg hrunning] at h
    cases h

/-- The last event of a run acts on what the events before it led to. -/
theorem runEvents_append (process : Process T V) (before after : List (Event I)) :
    system.runEvents process (before++after)=
      (system.runEvents process before).bind fun process => system.runEvents process after := by
  induction before generalizing process with
  | nil => rfl
  | cons event before ih =>
    rw [List.cons_append,runEvents,runEvents,Option.bind_assoc]
    refine congrArg (Option.bind _) (funext fun process => ?_)
    exact ih process

/-- What holds of the processes without threads and is kept by every event
holds of every process that is reached. -/
theorem reachable_induction {heap : List V} {Inv : Process T V → Prop} (hinitial : Inv (initial heap))
    (hkeep : ∀ process event process', Inv process → system.perform process event=some process' →
      Inv process') {process : Process T V} (h : system.Reachable heap process) : Inv process := by
  rcases h with ⟨events,hevents⟩
  induction events using List.reverseRecOn generalizing process with
  | nil =>
    cases hevents
    exact hinitial
  | append_singleton before event ih =>
    rw [runEvents_append] at hevents
    have hlast := Option.bind_eq_some_iff.mp hevents
    rcases hlast with ⟨middle,hbefore,hevent⟩
    have hperform := Option.bind_eq_some_iff.mp hevent
    rcases hperform with ⟨result,hperform,hresult⟩
    cases hresult
    exact hkeep middle event _ (ih hbefore) hperform

/-- A process that has ended was ended by one of its threads. -/
theorem exists_exit_of_reachable {heap : List V} {process : Process T V}
    (h : system.Reachable heap process) (hended : process.running=false) :
    ∃ thread ∈ process.threads, system.command thread=.exit := by
  let Inv : Process T V → Prop := fun process =>
    process.running=false → ∃ thread ∈ process.threads, system.command thread=.exit
  have hkeep : ∀ process event process', Inv process →
      system.perform process event=some process' → Inv process' := by
    intro process event process' _ hperform hended'
    have hcases := system.perform_cases hperform
    rcases hcases with ⟨hrunning,⟨_,_,rfl⟩ | ⟨i,thread,_,hthread,⟨hexit,rfl⟩ | ⟨_,_,_,rfl⟩⟩⟩
    · cases hrunning.symm.trans hended'
    · exact ⟨thread,List.mem_of_getElem? hthread,hexit⟩
    · cases hrunning.symm.trans hended'
  exact system.reachable_induction (fun hended' => absurd hended' nofun) hkeep h hended

end System

/-- What a command may do in a thread that owns some objects: store into these,
load these and the objects below a boundary, and own nothing new afterwards but
what it allocates. -/
def Command.Allowed (owned : T → List ℕ) (boundary : ℕ) (thread : T) : Command T V → Prop
  | .done => True
  | .exit => True
  | .tau next => owned next ⊆ owned thread
  | .load address next =>
    (address < boundary ∨ address ∈ owned thread) ∧ ∀ value, owned (next value) ⊆ owned thread
  | .alloc _ next => ∀ address, owned (next address) ⊆ address::owned thread
  | .store address _ next => address ∈ owned thread ∧ owned next ⊆ owned thread

/-- Threads that start without objects and do only what they may do. -/
structure Disciplined (system : System I T V) (owned : T → List ℕ) (boundary : ℕ) : Prop where
  spawn : ∀ input, owned (system.spawn input)=[]
  allowed : ∀ thread, (system.command thread).Allowed owned boundary thread

/-- What the threads of a process own lies above the boundary and inside the
heap, and no two threads own the same object. -/
structure Separated (owned : T → List ℕ) (boundary : ℕ) (process : Process T V) : Prop where
  boundary_le : boundary ≤ process.heap.length
  inside : ∀ thread ∈ process.threads, ∀ address ∈ owned thread,
    boundary ≤ address ∧ address < process.heap.length
  disjoint : ∀ (i j : ℕ) (first second : T), process.threads[i]?=some first → process.threads[j]?=some second →
    i≠j → ∀ address ∈ owned first, address ∉ owned second

/-- Two threads of a process are about to access the same object, and one of
them is about to store into it. -/
def Race (system : System I T V) (process : Process T V) : Prop :=
  ∃ (i j : ℕ) (first second : T) (address : ℕ), i≠j ∧ process.threads[i]?=some first ∧
    process.threads[j]?=some second ∧ (system.command first).stores=some address ∧
      (system.command second).accesses=some address

section Discipline

variable {system : System I T V} {owned : T → List ℕ} {heap : List V}
  (hd : Disciplined system owned heap.length)

include hd

/-- A thread that executes its command owns nothing new but what it allocates. -/
theorem owned_of_execute {thread next : T} {before after : List V}
    (h : execute before (system.command thread)=some (next,after)) {address : ℕ}
    (haddress : address ∈ owned next) :
    address ∈ owned thread ∨ address=before.length ∧ after.length=before.length+1 := by
  have hallowed := hd.allowed thread
  cases hc : system.command thread with
  | done => simp [hc,execute] at h
  | exit => simp [hc,execute] at h
  | tau next =>
    rw [hc] at h hallowed
    cases h
    exact .inl (hallowed haddress)
  | load loaded next =>
    rw [hc] at h hallowed
    have hvalue := Option.map_eq_some_iff.mp h
    rcases hvalue with ⟨value,_,hresult⟩
    cases hresult
    exact .inl (hallowed.2 value haddress)
  | alloc value next =>
    rw [hc] at h hallowed
    cases h
    rcases List.mem_cons.mp (hallowed _ haddress) with hnew | hold
    · refine .inr ⟨hnew,?_⟩
      rw [List.length_append,List.length_singleton]
    · exact .inl hold
  | store stored update next =>
    rw [hc] at h hallowed
    have hvalue := Option.map_eq_some_iff.mp h
    rcases hvalue with ⟨value,_,hresult⟩
    cases hresult
    exact .inl (hallowed.2 haddress)

/-- A thread stores only to what it owns. -/
theorem owned_of_stores {thread : T} {address : ℕ}
    (h : (system.command thread).stores=some address) : address ∈ owned thread := by
  have hallowed := hd.allowed thread
  cases hc : system.command thread with
  | store stored update next =>
    rw [hc] at h hallowed
    cases h
    exact hallowed.1
  | _ => simp [hc,Command.stores] at h

/-- A thread accesses only what it owns and what lies below the boundary. -/
theorem owned_of_accesses {thread : T} {address : ℕ}
    (h : (system.command thread).accesses=some address) :
    address < heap.length ∨ address ∈ owned thread := by
  have hallowed := hd.allowed thread
  cases hc : system.command thread with
  | load loaded next =>
    rw [hc] at h hallowed
    cases h
    exact hallowed.1
  | store stored update next =>
    rw [hc] at h hallowed
    cases h
    exact .inr hallowed.1
  | _ => simp [hc,Command.accesses] at h

/-- Every event keeps the threads apart. -/
theorem separated_perform {process process' : Process T V} {event : Event I}
    (hs : Separated owned heap.length process)
    (h : system.perform process event=some process') : Separated owned heap.length process' := by
  have hcases := (system.perform_cases h).2
  rcases hcases with ⟨input,_,rfl⟩ | ⟨i,thread,_,hthread,⟨_,rfl⟩ | ⟨next,after,hexecute,rfl⟩⟩
  · have hnone := hd.spawn input
    refine ⟨hs.boundary_le,fun started hstarted address haddress => ?_,
      fun j k first second hfirst hsecond hne address haddress => ?_⟩
    · rcases List.mem_append.mp hstarted with hold | hnew
      · exact hs.inside started hold address haddress
      · rw [List.mem_singleton.mp hnew,hnone] at haddress
        exact absurd haddress List.not_mem_nil
    · have hold : ∀ {l : ℕ} {t : T}, (process.threads++[system.spawn input])[l]?=some t →
          ∀ a ∈ owned t, process.threads[l]?=some t := by
        intro l t ht a ha
        rw [List.getElem?_append] at ht
        split at ht
        · exact ht
        · have hmem := List.mem_of_getElem? ht
          rw [List.mem_singleton.mp hmem,hnone] at ha
          exact absurd ha List.not_mem_nil
      intro hother
      exact hs.disjoint j k first second (hold hfirst address haddress)
        (hold hsecond address hother) hne address haddress hother
  · exact ⟨hs.boundary_le,hs.inside,hs.disjoint⟩
  · have hgrows := length_le_of_execute hexecute
    have hmem : thread ∈ process.threads := List.mem_of_getElem? hthread
    -- what a thread owns afterwards it owned before, or it is the new object
    have hfrom : ∀ j t, (process.threads.set i next)[j]?=some t → ∀ a ∈ owned t,
        (∃ old, process.threads[j]?=some old ∧ a ∈ owned old) ∨
          j=i ∧ a=process.heap.length ∧ after.length=process.heap.length+1 := by
      intro j t ht a ha
      by_cases hj : i=j
      · subst hj
        rw [List.getElem?_set_self (List.getElem?_eq_some_iff.mp hthread).1] at ht
        cases ht
        rcases owned_of_execute hd hexecute ha with hold | hnew
        · exact .inl ⟨thread,hthread,hold⟩
        · exact .inr ⟨rfl,hnew⟩
      · rw [List.getElem?_set_ne hj] at ht
        exact .inl ⟨t,ht,ha⟩
    refine ⟨Nat.le_trans hs.boundary_le hgrows,fun t ht a ha => ?_,fun j k first second hfirst hsecond hne a ha => ?_⟩
    · have hpos := List.getElem?_of_mem ht
      rcases hpos with ⟨j,hj⟩
      have hbound := hs.boundary_le
      rcases hfrom j t hj a ha with ⟨old,hold,ha⟩ | ⟨_,hnew,hlength⟩
      · have hin := hs.inside old (List.mem_of_getElem? hold) a ha
        exact ⟨hin.1,Nat.lt_of_lt_of_le hin.2 hgrows⟩
      · dsimp only
        omega
    · intro hother
      rcases hfrom j first hfirst a ha with ⟨old,hold,ha⟩ | ⟨hji,hnew,_⟩
      · rcases hfrom k second hsecond a hother with ⟨old',hold',hother⟩ | ⟨_,hnew,_⟩
        · exact hs.disjoint j k old old' hold hold' hne a ha hother
        · have hin := (hs.inside old (List.mem_of_getElem? hold) a ha).2
          omega
      · rcases hfrom k second hsecond a hother with ⟨old',hold',hother⟩ | ⟨hki,_,_⟩
        · have hin := (hs.inside old' (List.mem_of_getElem? hold') a hother).2
          omega
        · exact hne (hji.trans hki.symm)

/-- The threads of every process that is reached are apart. -/
theorem separated_of_reachable {process : Process T V} (h : system.Reachable heap process) :
    Separated owned heap.length process := by
  refine system.reachable_induction ⟨Nat.le_refl _,?_,?_⟩
    (fun _ _ _ hs hperform => separated_perform hd hs hperform) h
  · exact fun thread hthread => absurd hthread List.not_mem_nil
  · exact fun i j first second hfirst => absurd hfirst nofun

/-- Disciplined threads never race. -/
theorem not_race_of_reachable {process : Process T V} (h : system.Reachable heap process) :
    ¬ Race system process := by
  intro hrace
  rcases hrace with ⟨i,j,first,second,address,hne,hfirst,hsecond,hstores,haccesses⟩
  have hs := separated_of_reachable hd h
  have howned := owned_of_stores hd hstores
  have hin := hs.inside first (List.mem_of_getElem? hfirst) address howned
  rcases owned_of_accesses hd haccesses with hbelow | hother
  · omega
  · exact hs.disjoint i j first second hfirst hsecond hne address howned hother

/-- One event leaves every object that the threads do not own as it is. -/
theorem unchanged_of_perform {process process' : Process T V} {event : Event I}
    (h : system.perform process event=some process') {address : ℕ}
    (hbound : address < process.heap.length)
    (hfree : ∀ i thread, event=.advance i → process.threads[i]?=some thread →
      address ∉ owned thread) : process'.heap[address]?=process.heap[address]? := by
  have hcases := (system.perform_cases h).2
  rcases hcases with ⟨input,_,rfl⟩ | ⟨i,thread,hevent,hthread,⟨_,rfl⟩ | ⟨next,after,hexecute,rfl⟩⟩
  · rfl
  · rfl
  · refine getElem?_of_execute hexecute hbound fun hstores => ?_
    exact hfree i thread hevent hthread (owned_of_stores hd hstores)

/-- What stood in the heap at the beginning stands there at every time. -/
theorem published_of_reachable {process : Process T V} (h : system.Reachable heap process)
    {address : ℕ} (hbelow : address < heap.length) : process.heap[address]?=heap[address]? := by
  let Inv : Process T V → Prop := fun process =>
    Separated owned heap.length process ∧ process.heap[address]?=heap[address]?
  have hinitial : Inv (System.initial heap) := ⟨separated_of_reachable hd ⟨[],rfl⟩,rfl⟩
  have hkeep : ∀ process event process', Inv process →
      system.perform process event=some process' → Inv process' := by
    intro process event process' hp hperform
    have hbound := hp.1.boundary_le
    have hsame : process'.heap[address]?=process.heap[address]? := by
      refine unchanged_of_perform hd hperform (by omega) fun i thread _ hthread howned => ?_
      have hin := hp.1.inside thread (List.mem_of_getElem? hthread) address howned
      omega
    exact ⟨separated_perform hd hp.1 hperform,hsame.trans hp.2⟩
  exact (system.reachable_induction hinitial hkeep h).2

/-- A statement about each thread and the objects it may load holds of every
thread at every time, if it holds of a thread that starts and the thread's own
steps keep it. -/
theorem local_of_reachable {Local : T → List V → Prop}
    (hspawn : ∀ input now, (∀ address, address < heap.length → now[address]?=heap[address]?) →
      Local (system.spawn input) now)
    (hframe : ∀ thread now later,
      (∀ address, address < heap.length ∨ address ∈ owned thread → later[address]?=now[address]?) →
      Local thread now → Local thread later)
    (hown : ∀ thread now next later,
      (∀ address, address < heap.length → now[address]?=heap[address]?) → Local thread now →
      execute now (system.command thread)=some (next,later) → Local next later)
    {process : Process T V} (h : system.Reachable heap process) :
    ∀ thread ∈ process.threads, Local thread process.heap := by
  let Inv : Process T V → Prop := fun process =>
    system.Reachable heap process ∧ ∀ thread ∈ process.threads, Local thread process.heap
  have hinitial : Inv (System.initial heap) :=
    ⟨⟨[],rfl⟩,fun thread hthread => absurd hthread List.not_mem_nil⟩
  have hkeep : ∀ process event process', Inv process →
      system.perform process event=some process' → Inv process' := by
    intro process event process' hp hperform
    have hs := separated_of_reachable hd hp.1
    have hpublished : ∀ address, address < heap.length → process.heap[address]?=heap[address]? :=
      fun address hbelow => published_of_reachable hd hp.1 hbelow
    have hreached : system.Reachable heap process' := by
      rcases hp.1 with ⟨events,hevents⟩
      refine ⟨events++[event],?_⟩
      rw [system.runEvents_append,hevents,Option.bind_some,System.runEvents,hperform]
      rfl
    refine ⟨hreached,?_⟩
    have hcases := (system.perform_cases hperform).2
    rcases hcases with
      ⟨input,_,rfl⟩ | ⟨i,thread,hevent,hthread,⟨_,rfl⟩ | ⟨next,after,hexecute,rfl⟩⟩
    · intro thread hthread
      rcases List.mem_append.mp hthread with hold | hnew
      · exact hp.2 thread hold
      · rw [List.mem_singleton.mp hnew]
        exact hspawn input _ hpublished
    · exact hp.2
    · intro other hother
      have hpos := List.getElem?_of_mem hother
      rcases hpos with ⟨j,hj⟩
      by_cases hij : i=j
      · subst hij
        dsimp only at hj
        rw [List.getElem?_set_self (List.getElem?_eq_some_iff.mp hthread).1] at hj
        cases hj
        exact hown thread _ next _ hpublished (hp.2 thread (List.mem_of_getElem? hthread)) hexecute
      · dsimp only at hj
        rw [List.getElem?_set_ne hij] at hj
        have hmem := List.mem_of_getElem? hj
        refine hframe other _ _ (fun address haddress => ?_) (hp.2 other hmem)
        have hbound : address < process.heap.length := by
          have hle := hs.boundary_le
          rcases haddress with hbelow | howned
          · omega
          · exact (hs.inside other hmem address howned).2
        refine getElem?_of_execute hexecute hbound fun hstores => ?_
        have howned := owned_of_stores hd hstores
        rcases haddress with hbelow | hother
        · have hin := (hs.inside thread (List.mem_of_getElem? hthread) address howned).1
          omega
        · exact hs.disjoint i j thread other hthread hj hij address howned hother
  exact (system.reachable_induction hinitial hkeep h).2

end Discipline

end KnativeMesh.Library.SharedHeap
