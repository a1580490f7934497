import Mathlib.Data.List.Induction

/-!
# Registers that are overwritten as a whole

A register holds one value. Every item of a run either overwrites the value or
leaves it, so a run leaves the value of the last item that overwrites. A system
shows a register if each of its steps, in states that keep an invariant, either
overwrites what it shows or leaves it. Items with keys share a run among the
registers of their keys.
-/

namespace KnativeMesh.Library.Register

variable {ι α σ : Type}

/-- The value that a run of items leaves in a register. -/
def overwrite (publish : ι → Option α) (held : α) (items : List ι) : α :=
  items.foldl (fun held item => (publish item).getD held) held

/-- Items that publish nothing leave the register as it is. -/
theorem overwrite_eq_self {publish : ι → Option α} {items : List ι}
    (h : ∀ item ∈ items, publish item=none) (held : α) : overwrite publish held items=held := by
  induction items with
  | nil => rfl
  | cons item items ih =>
    have hitem : publish item=none := h item List.mem_cons_self
    have hrest : ∀ later ∈ items, publish later=none :=
      fun later hlater => h later (List.mem_cons_of_mem item hlater)
    dsimp only [overwrite]
    rw [List.foldl_cons,hitem,Option.getD_none]
    exact ih hrest

/-- A run leaves the value of the last item that publishes one, whatever came
before it. -/
theorem overwrite_append_cons {publish : ι → Option α} {item : ι} {value : α} {after : List ι}
    (hitem : publish item=some value) (hafter : ∀ later ∈ after, publish later=none) (held : α)
    (before : List ι) : overwrite publish held (before++item::after)=value := by
  have hsplit : overwrite publish held (before++item::after)=
      overwrite publish ((publish item).getD (overwrite publish held before)) after := by
    dsimp only [overwrite]
    rw [List.foldl_append,List.foldl_cons]
  rw [hsplit,hitem,Option.getD_some,overwrite_eq_self hafter]

/-- A register holds its first value, if no item published, or else the value
of the last item that did. -/
theorem overwrite_cases (publish : ι → Option α) (held : α) (items : List ι) :
    ((∀ item ∈ items, publish item=none) ∧ overwrite publish held items=held) ∨
    ∃ before item value after, items=before++item::after ∧ publish item=some value ∧
      (∀ later ∈ after, publish later=none) ∧ overwrite publish held items=value := by
  induction items using List.reverseRecOn with
  | nil => exact .inl ⟨fun item hitem => absurd hitem List.not_mem_nil,rfl⟩
  | append_singleton items item ih =>
    cases hitem : publish item with
    | some value =>
      have hnone : ∀ later ∈ ([] : List ι), publish later=none :=
        fun later hlater => absurd hlater List.not_mem_nil
      exact .inr ⟨items,item,value,[],rfl,hitem,hnone,overwrite_append_cons hitem hnone held items⟩
    | none =>
      have hlast : overwrite publish held (items++[item])=overwrite publish held items := by
        dsimp only [overwrite]
        rw [List.foldl_append,List.foldl_cons,List.foldl_nil,hitem,Option.getD_none]
      rw [hlast]
      rcases ih with ⟨hnone,hheld⟩ | ⟨before,earlier,value,after,hitems,hvalue,hafter,hheld⟩
      · refine .inl ⟨fun other hother => ?_,hheld⟩
        rcases List.mem_append.mp hother with hmem | hmem
        · exact hnone other hmem
        · rw [List.mem_singleton.mp hmem]
          exact hitem
      · refine .inr ⟨before,earlier,value,after++[item],?_,hvalue,fun later hlater => ?_,hheld⟩
        · rw [hitems,List.append_assoc,List.cons_append]
        · rcases List.mem_append.mp hlater with hmem | hmem
          · exact hafter later hmem
          · rw [List.mem_singleton.mp hmem]
            exact hitem

section Keys

variable {κ : Type} {key : ι → κ}

/-- The last item of a run under its key. -/
def LastUnder (key : ι → κ) (items : List ι) (item : ι) : Prop :=
  ∃ before after, items=before++item::after ∧ ∀ later ∈ after, key later≠key item

/-- Such an item is one of the run. -/
theorem LastUnder.mem {items : List ι} {item : ι} (h : LastUnder key items item) : item ∈ items := by
  rcases h with ⟨before,after,hitems,_⟩
  rw [hitems]
  exact List.mem_append_right _ List.mem_cons_self

variable [DecidableEq κ]

/-- What an item publishes to the register of a key. -/
def publishUnder (key : ι → κ) (publish : ι → Option α) (k : κ) (item : ι) : Option α :=
  if key item=k then publish item else none

/-- The register of a key holds what the last item under the key published. -/
theorem overwrite_of_lastUnder {publish : ι → Option α} {items : List ι} {item : ι}
    (h : LastUnder key items item) {value : α} (hitem : publish item=some value) (held : α) :
    overwrite (publishUnder key publish (key item)) held items=value := by
  rcases h with ⟨before,after,hitems,hafter⟩
  have hown : publishUnder key publish (key item) item=some value := by
    unfold publishUnder
    rw [if_pos rfl,hitem]
  have hlater : ∀ later ∈ after, publishUnder key publish (key item) later=none := by
    intro later hmem
    unfold publishUnder
    rw [if_neg (hafter later hmem)]
  rw [hitems]
  exact overwrite_append_cons hown hlater held before

/-- If every item of a run publishes, the register of a key holds its first
value, or else what the last item under the key published. -/
theorem overwrite_under_cases {publish : ι → Option α} {items : List ι}
    (hall : ∀ item ∈ items, publish item≠none) (k : κ) (held : α) :
    overwrite (publishUnder key publish k) held items=held ∨
      ∃ item value, LastUnder key items item ∧ key item=k ∧ publish item=some value ∧
        overwrite (publishUnder key publish k) held items=value := by
  rcases overwrite_cases (publishUnder key publish k) held items with hnone | hlast
  · exact .inl hnone.2
  · rcases hlast with ⟨before,item,value,after,hitems,hunder,hafter,hheld⟩
    have hkey : key item=k := by
      by_contra hne
      unfold publishUnder at hunder
      rw [if_neg hne] at hunder
      cases hunder
    have hvalue := hunder
    unfold publishUnder at hvalue
    rw [if_pos hkey] at hvalue
    refine .inr ⟨item,value,⟨before,after,hitems,fun later hmem hsame => ?_⟩,hkey,hvalue,hheld⟩
    -- a later item under the key would have published
    have hsilent := hafter later hmem
    unfold publishUnder at hsilent
    rw [if_pos (hsame.trans hkey)] at hsilent
    refine hall later ?_ hsilent
    rw [hitems]
    exact List.mem_append_right _ (List.mem_cons_of_mem item hmem)

end Keys

section System

variable {step : σ → ι → σ} {shown : σ → α} {publish : ι → Option α} {Inv : σ → Prop}

/-- An invariant that every step keeps holds after every run. -/
theorem invariant_foldl (hkeep : ∀ s item, Inv s → Inv (step s item)) (items : List ι) {s : σ}
    (hs : Inv s) : Inv (items.foldl step s) := by
  induction items generalizing s with
  | nil => exact hs
  | cons item items ih => exact ih (hkeep s item hs)

/-- A system each of whose steps acts on what it shows like an item on a
register shows the register after every run. -/
theorem shown_foldl (hkeep : ∀ s item, Inv s → Inv (step s item))
    (hstep : ∀ s item, Inv s → shown (step s item)=(publish item).getD (shown s)) (items : List ι)
    {s : σ} (hs : Inv s) : shown (items.foldl step s)=overwrite publish (shown s) items := by
  induction items generalizing s with
  | nil => rfl
  | cons item items ih =>
    have hnext := ih (hkeep s item hs)
    rw [hstep s item hs] at hnext
    exact hnext

end System

end KnativeMesh.Library.Register
