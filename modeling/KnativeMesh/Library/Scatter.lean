import Mathlib.Data.List.Forall2

/-!
# Appending through positions of a list of objects

A pass that mutates objects through pointers is a log of writes, each to the
object at one position. Every object of the result depends on its own part of
the log only, in log order. A projection that no write changes is the same
before and after any log, so a pass may read it at any time.
-/

namespace KnativeMesh.Library.Scatter

variable {α β γ ι φ : Type*}

/-- Perform the writes of a log in order, each at its own position. -/
def scatter (put : α → β → α) (objects : List α) (log : List (ℕ×β)) : List α :=
  log.foldl (fun objects write => objects.modify write.1 (put · write.2)) objects

/-- The part of a log written to one position. -/
def logAt (i : ℕ) (log : List (ℕ×β)) : List β :=
  log.filterMap fun write => if write.1=i then some write.2 else none

@[simp] theorem scatter_nil (put : α → β → α) (objects : List α) :
    scatter put objects []=objects := rfl

@[simp] theorem scatter_cons (put : α → β → α) (objects : List α) (write : ℕ×β)
    (log : List (ℕ×β)) :
    scatter put objects (write::log)=scatter put (objects.modify write.1 (put · write.2)) log := rfl

/-- Two logs performed one after the other are their concatenation. -/
theorem scatter_append (put : α → β → α) (objects : List α) (first second : List (ℕ×β)) :
    scatter put objects (first++second)=scatter put (scatter put objects first) second :=
  List.foldl_append

theorem logAt_cons (i : ℕ) (write : ℕ×β) (log : List (ℕ×β)) :
    logAt i (write::log)=if write.1=i then write.2::logAt i log else logAt i log := by
  by_cases hi : write.1=i <;> simp [logAt,hi]

theorem logAt_append (i : ℕ) (first second : List (ℕ×β)) :
    logAt i (first++second)=logAt i first++logAt i second := List.filterMap_append

/-- Writes reach no position but their own, and keep their order there. -/
theorem getElem?_scatter (put : α → β → α) (objects : List α) (log : List (ℕ×β)) (i : ℕ) :
    (scatter put objects log)[i]?=objects[i]?.map fun object => (logAt i log).foldl put object := by
  induction log generalizing objects with
  | nil => simp [logAt]
  | cons write log ih =>
    rw [scatter_cons,ih,List.getElem?_modify]
    by_cases hi : write.1=i <;> simp [logAt_cons,hi,Function.comp_def]

/-- A projection that no write changes is preserved by every log. -/
theorem map_scatter {put : α → β → α} {f : α → γ} (hf : ∀ object value, f (put object value)=f object)
    (objects : List α) (log : List (ℕ×β)) : (scatter put objects log).map f=objects.map f := by
  induction log generalizing objects with
  | nil => rfl
  | cons write log ih =>
    rw [scatter_cons,ih]
    apply List.ext_getElem?
    intro i
    rw [List.getElem?_map,List.getElem?_map,List.getElem?_modify]
    cases objects[i]? with
    | none => rfl
    | some object =>
      by_cases hi : write.1=i
      · simp [hi,hf]
      · simp [hi]

/-- Writes that only change one field add up in that field. -/
theorem foldl_field {get : α → φ} {set : α → φ → α} (hget : ∀ object value, get (set object value)=value)
    (hset : ∀ object value value', set (set object value) value'=set object value')
    (hself : ∀ object, set object (get object)=object) (step : φ → β → φ) (object : α)
    (values : List β) :
    values.foldl (fun object value => set object (step (get object) value)) object=
      set object (values.foldl step (get object)) := by
  induction values generalizing object with
  | nil => exact (hself object).symm
  | cons value values ih => rw [List.foldl_cons,ih,hget,hset,List.foldl_cons]

/-- The log of a pass over items, each of which writes one value to the
positions it selects. -/
def logOf (targets : ι → List ℕ) (value : ι → β) (items : List ι) : List (ℕ×β) :=
  items.flatMap fun item => (targets item).map fun target => (target,value item)

/-- One item writes its value to a position once if it selects it. -/
theorem logAt_targets {targets : List ℕ} (hd : targets.Nodup) (value : β) (i : ℕ) :
    logAt i (targets.map fun target => (target,value))=if i ∈ targets then [value] else [] := by
  induction targets with
  | nil => rfl
  | cons target targets ih =>
    obtain ⟨hnotin,hrest⟩ := List.nodup_cons.mp hd
    rw [List.map_cons,logAt_cons,ih hrest]
    by_cases hi : target=i
    · subst hi
      simp [hnotin]
    · simp [hi,Ne.symm hi]

/-- If every item selects a position at most once, the position receives the
values of exactly the items that select it, once each and in item order. -/
theorem logAt_logOf {targets : ι → List ℕ} {value : ι → β} {items : List ι}
    (hd : ∀ item ∈ items, (targets item).Nodup) (i : ℕ) :
    logAt i (logOf targets value items)=
      items.filterMap fun item => if i ∈ targets item then some (value item) else none := by
  induction items with
  | nil => rfl
  | cons item items ih =>
    have hrest := ih fun other ho => hd other (List.mem_cons_of_mem _ ho)
    rw [logOf,List.flatMap_cons,logAt_append,logAt_targets (hd item List.mem_cons_self),←logOf,hrest]
    by_cases hi : i ∈ targets item <;> simp [hi]

/-- In any case a position receives the value of an item as often as the item
selects it. -/
theorem logAt_logOf_eq_flatMap (targets : ι → List ℕ) (value : ι → β) (items : List ι) (i : ℕ) :
    logAt i (logOf targets value items)=
      items.flatMap fun item => List.replicate ((targets item).count i) (value item) := by
  have hitem : ∀ (selected : List ℕ) (x : β),
      logAt i (selected.map fun target => (target,x))=List.replicate (selected.count i) x := by
    intro selected x
    induction selected with
    | nil => rfl
    | cons target selected ih =>
      rw [List.map_cons,logAt_cons,ih,List.count_cons]
      by_cases hi : target=i <;> simp [hi,List.replicate_succ]
  induction items with
  | nil => rfl
  | cons item items ih =>
    rw [logOf,List.flatMap_cons,logAt_append,hitem,←logOf,ih,List.flatMap_cons]

/-- Items that select no position may be left out of a pass. -/
theorem logOf_filter {targets : ι → List ℕ} {value : ι → β} {keep : ι → Bool} {items : List ι}
    (hskip : ∀ item ∈ items, keep item=false → targets item=[]) :
    logOf targets value (items.filter keep)=logOf targets value items := by
  induction items with
  | nil => rfl
  | cons item items ih =>
    have hrest := ih fun other ho => hskip other (List.mem_cons_of_mem _ ho)
    cases hk : keep item with
    | true =>
      rw [List.filter_cons_of_pos hk,logOf,List.flatMap_cons,←logOf,hrest]
      rfl
    | false =>
      have hnil := hskip item List.mem_cons_self hk
      rw [List.filter_cons_of_neg (by rw [hk]; exact Bool.false_ne_true),hrest,logOf,logOf,
        List.flatMap_cons,hnil]
      rfl

/-- A pass over numbered items that does not look at the numbers. -/
theorem logOf_zipIdx (targets : ι → List ℕ) (value : ι → β) (items : List ι) :
    logOf (fun item => targets item.1) (fun item => value item.1) items.zipIdx=
      logOf targets value items := by
  have hfst : items.zipIdx.map Prod.fst=items := List.zipIdx_map_fst 0 items
  calc logOf (fun item => targets item.1) (fun item => value item.1) items.zipIdx
      =logOf targets value (items.zipIdx.map Prod.fst) := by rw [logOf,logOf,List.flatMap_map]
    _=logOf targets value items := by rw [hfst]

/-- Reordered items write a reordered log. -/
theorem logOf_perm {targets : ι → List ℕ} {value : ι → β} {items items' : List ι}
    (h : items.Perm items') : (logOf targets value items).Perm (logOf targets value items') :=
  h.flatMap_right _

/-- A reordered log writes reordered values to each position. -/
theorem logAt_perm {log log' : List (ℕ×β)} (h : log.Perm log') (i : ℕ) :
    (logAt i log).Perm (logAt i log') := h.filterMap _

/-- Every object of the result is its original after its own part of the log. -/
theorem scatter_eq_map (put : α → β → α) (objects : List α) (log : List (ℕ×β)) :
    scatter put objects log=
      objects.zipIdx.map fun entry => (logAt entry.2 log).foldl put entry.1 := by
  apply List.ext_getElem?
  intro i
  rw [getElem?_scatter,List.getElem?_map,List.getElem?_zipIdx,Option.map_map,Nat.zero_add]
  rfl

/-- Reordered logs give the same objects, up to what the order of the values
written to one object decides. -/
theorem forall₂_scatter_of_perm {R : α → α → Prop} {put : α → β → α}
    (hR : ∀ object, ∀ values values' : List β, values.Perm values' →
      R (values.foldl put object) (values'.foldl put object))
    {log log' : List (ℕ×β)} (h : log.Perm log') (objects : List α) :
    List.Forall₂ R (scatter put objects log) (scatter put objects log') := by
  rw [scatter_eq_map,scatter_eq_map,List.forall₂_map_left_iff,List.forall₂_map_right_iff,
    List.forall₂_same]
  intro entry _
  exact hR entry.1 _ _ (logAt_perm h entry.2)

end KnativeMesh.Library.Scatter
