import Mathlib

/-!
# Go values the backend computes with

Maps of Go strings are extensional: two maps are equal exactly when their
lookups agree. Nil maps and nil slices are kept apart from empty ones, because
encoding/json writes them differently. Errors keep the chain that fmt.Errorf
builds with %w. Logging has no effect on a result and is left out.
-/

namespace KnativeMesh.Go

/-- A non-nil Go map with string keys. -/
abbrev GoMap (V : Type) := Std.ExtTreeMap String V

/-- A map[string]string variable; nil is distinct from the empty map. -/
abbrev StringMap := Option (GoMap String)

/-- Indexing a map[string]string, which is also defined on the nil map. -/
def StringMap.get (m : StringMap) (key : String) : Option String := m.bind (·[key]?)

/-- A Go slice variable: nil, or a sequence that may be empty. -/
inductive Slice (α : Type) where
  | nil
  | of (elems : List α)
  deriving DecidableEq

namespace Slice

variable {α : Type}

/-- The elements that ranging over a slice visits; nil has none. -/
def toList : Slice α → List α
  | nil => []
  | of elems => elems

/-- Go's append of one element; appending to nil allocates. -/
def append (slice : Slice α) (value : α) : Slice α := of (slice.toList++[value])

@[simp] theorem toList_of (elems : List α) : (of elems).toList=elems := rfl

/-- Appending in a loop adds the values in loop order. -/
theorem foldl_append_of (elems values : List α) : values.foldl append (of elems)=of (elems++values) := by
  induction values generalizing elems with
  | nil => simp
  | cons value values ih => rw [List.foldl_cons,append,ih,toList_of,List.append_assoc,List.singleton_append]

/-- Whatever the slice, appending in a loop adds to the elements it has. -/
theorem toList_foldl_append (slice : Slice α) (values : List α) :
    (values.foldl append slice).toList=slice.toList++values := by
  induction values generalizing slice with
  | nil => simp
  | cons value values ih =>
    rw [List.foldl_cons,ih,append,toList_of,List.append_assoc,List.singleton_append]

end Slice

/-- Reasons of Kubernetes API errors; every reason apimachinery knows besides
the three that the backend asks for is an other one. -/
inductive StatusReason where
  | unknown
  | unauthorized
  | forbidden
  | notFound
  | other (reason : String)
  deriving DecidableEq

/-- The status of an API error: its reason, HTTP code and message. -/
structure ApiStatus where
  reason : StatusReason
  /-- HTTP status code, used where the reason is unknown. -/
  code : ℕ
  message : String
  deriving DecidableEq

/-- Go errors: API errors, plain texts, and wrapped errors. -/
inductive GoError where
  | status (status : ApiStatus)
  | plain (message : String)
  | wrap (message : String) (cause : GoError)
  deriving DecidableEq

/-- fmt.Errorf with a final %w verb; a nil error is formatted, not wrapped. -/
def errorf (message : String) : Option GoError → GoError
  | some cause => .wrap message cause
  | none => .plain (message++": %!w(<nil>)")

/-- The reason of the API error in a chain, unknown if it has none. -/
def reasonForError : GoError → StatusReason
  | .status status => status.reason
  | .plain _ => .unknown
  | .wrap _ cause => reasonForError cause

/-- The HTTP code of the API error in a chain, zero if it has none. -/
def codeForError : GoError → ℕ
  | .status status => status.code
  | .plain _ => 0
  | .wrap _ cause => codeForError cause

/-- How a Go function leaves without a value: an error return or a panic. -/
inductive Exit where
  | error (err : GoError)
  | panic
  deriving DecidableEq

/-- The result of a Go function that returns a value and an error. -/
abbrev Result (α : Type) := Except Exit α

/-- Pass the outcome of a client call on as the outcome of its caller. -/
def ofCall {α : Type} : Except GoError α → Result α
  | .ok value => .ok value
  | .error err => .error (.error err)

@[simp] theorem ofCall_eq_ok {α : Type} {call : Except GoError α} {value : α} :
    ofCall call=.ok value ↔ call=.ok value := by
  cases call <;> simp [ofCall]

/-- A loop that appends what each item yields and returns on the first exit. -/
def collect {ι α : Type} (step : ι → Result (List α)) : List ι → Result (List α)
  | [] => .ok []
  | item::rest => do
    let here ← step item
    let later ← collect step rest
    .ok (here++later)

/-- A chained call returns a value exactly when both of its parts do. -/
theorem bind_eq_ok {ε α β : Type} {x : Except ε α} {f : α → Except ε β} {b : β} :
    x >>= f=.ok b ↔ ∃ a, x=.ok a ∧ f a=.ok b := by
  cases x <;> simp [bind,Except.bind]

/-- What a step yields where it returns. -/
def yielded {ι α : Type} (step : ι → Result (List α)) (item : ι) : List α :=
  match step item with
  | .ok values => values
  | .error _ => []

/-- Where a step returns it yields the value returned. -/
theorem yielded_of_eq_ok {ι α : Type} {step : ι → Result (List α)} {item : ι} {values : List α}
    (h : step item=.ok values) : yielded step item=values := by
  dsimp only [yielded]
  rw [h]

/-- A loop returns exactly when each of its steps does, and then it returns
what they yield, in loop order. -/
theorem collect_eq_ok_iff {ι α : Type} {step : ι → Result (List α)} {items : List ι}
    {values : List α} :
    collect step items=.ok values ↔
      (∀ item ∈ items, ∃ here, step item=.ok here) ∧ items.flatMap (yielded step)=values := by
  induction items generalizing values with
  | nil => simp [collect]
  | cons item items ih =>
    rw [collect,bind_eq_ok,List.forall_mem_cons,List.flatMap_cons]
    constructor
    · intro hp
      rcases hp with ⟨here,hhere,hrest⟩
      have hrest := bind_eq_ok.mp hrest
      rcases hrest with ⟨later,hlater,hvalue⟩
      cases hvalue
      have hsteps := ih.mp hlater
      exact ⟨⟨⟨here,hhere⟩,hsteps.1⟩,by rw [yielded_of_eq_ok hhere,hsteps.2]⟩
    · intro hp
      rcases hp with ⟨⟨⟨here,hhere⟩,hsteps⟩,hvalues⟩
      rw [yielded_of_eq_ok hhere] at hvalues
      refine ⟨here,hhere,bind_eq_ok.mpr ⟨_,ih.mpr ⟨hsteps,rfl⟩,?_⟩⟩
      rw [hvalues]

/-- A loop over reordered items, whose steps return reordered values, returns
reordered values. -/
theorem collect_perm {ι α : Type} {step step' : ι → Result (List α)}
    (hstep : ∀ item values, step item=.ok values →
      ∃ values', step' item=.ok values' ∧ values.Perm values')
    {items items' : List ι} (hp : items.Perm items') {values : List α}
    (h : collect step items=.ok values) :
    ∃ values', collect step' items'=.ok values' ∧ values.Perm values' := by
  have hsteps := collect_eq_ok_iff.mp h
  refine ⟨items'.flatMap (yielded step'),collect_eq_ok_iff.mpr ⟨fun item hitem => ?_,rfl⟩,?_⟩
  · have hreturned := hsteps.1 item (hp.mem_iff.mpr hitem)
    rcases hreturned with ⟨here,hhere⟩
    have hreturned' := hstep item here hhere
    exact ⟨hreturned'.choose,hreturned'.choose_spec.1⟩
  · rw [←hsteps.2]
    refine hp.flatMap fun item hitem => ?_
    have hreturned := hsteps.1 item hitem
    rcases hreturned with ⟨here,hhere⟩
    have hreturned' := hstep item here hhere
    rcases hreturned' with ⟨here',hhere',hperm⟩
    rw [yielded_of_eq_ok hhere,yielded_of_eq_ok hhere']
    exact hperm

/-- A loop over numbered items that does not look at the numbers. -/
theorem collect_zipIdx {ι α : Type} (step : ι → Result (List α)) (items : List ι) :
    collect (fun item => step item.1) items.zipIdx=collect step items := by
  have hmap : ∀ numbered : List (ι×ℕ),
      collect (fun item => step item.1) numbered=collect step (numbered.map Prod.fst) := by
    intro numbered
    induction numbered with
    | nil => rfl
    | cons item numbered ih => rw [collect,ih,List.map_cons,collect]
  rw [hmap,List.zipIdx_map_fst]

/-- An item may be replaced by one whose step ends in the same way. -/
theorem collect_replace {ι α : Type} {step : ι → Result (List α)} {item item' : ι}
    (h : step item=step item') (before after : List ι) :
    collect step (before++item::after)=collect step (before++item'::after) := by
  induction before with
  | nil => rw [List.nil_append,List.nil_append,collect,collect,h]
  | cons first before ih => rw [List.cons_append,List.cons_append,collect,collect,ih]

/-- A step that yields nothing may be left out of a loop. -/
theorem collect_append_cons {ι α : Type} {step : ι → Result (List α)} {item : ι}
    (h : step item=.ok []) (before after : List ι) :
    collect step (before++item::after)=collect step (before++after) := by
  induction before with
  | nil =>
    rw [List.nil_append,List.nil_append,collect,h]
    cases collect step after <;> rfl
  | cons first before ih => rw [List.cons_append,List.cons_append,collect,collect,ih]

end KnativeMesh.Go
