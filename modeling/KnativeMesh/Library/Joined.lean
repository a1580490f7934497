import Mathlib.Data.List.Basic
import Mathlib.Data.List.Count

/-!
# Fields joined with an unescaped separator

Joining free-text fields with a separator that is not escaped is not
injective: a separator inside a field is read back as a field border. Counting
separators decides when it is. A joined list with separator-free fields has
exactly one separator between neighbours, so no other list of equally many
fields joins to it, whatever its fields hold. A first field is split off again
where it is free of the separator.
-/

namespace KnativeMesh.Library.Joined

variable {α : Type*}

/-- Every field is free of the separator. -/
def SeparatorFree (sep : α) (fields : List (List α)) : Prop := ∀ field ∈ fields, sep ∉ field

instance [DecidableEq α] (sep : α) (fields : List (List α)) : Decidable (SeparatorFree sep fields) :=
  inferInstanceAs (Decidable (∀ field ∈ fields, sep ∉ field))

/-- Separators inside the fields of a list, before any joining. -/
def innerCount [BEq α] (sep : α) : List (List α) → ℕ
  | [] => 0
  | field::rest => field.count sep+innerCount sep rest

section Count

variable [BEq α] [LawfulBEq α]

/-- Separator-free fields are those with no inner separator at all. -/
theorem innerCount_eq_zero_iff (sep : α) (fields : List (List α)) :
    innerCount sep fields=0 ↔ SeparatorFree sep fields := by
  induction fields with
  | nil => simp [innerCount,SeparatorFree]
  | cons field rest ih =>
    rw [innerCount,Nat.add_eq_zero_iff,ih,List.count_eq_zero,SeparatorFree,SeparatorFree,
      List.forall_mem_cons]

/-- Joining adds one separator between neighbours and keeps the inner ones. -/
theorem count_intercalate (sep : α) {fields : List (List α)} (hne : fields≠[]) :
    ([sep].intercalate fields).count sep+1=innerCount sep fields+fields.length := by
  induction fields with
  | nil => exact absurd rfl hne
  | cons field rest ih =>
    cases rest with
    | nil => simp [List.intercalate,innerCount]
    | cons next rest =>
      have hr := ih (List.cons_ne_nil next rest)
      have hc : [sep].intercalate (field::next::rest)=
          field++[sep]++[sep].intercalate (next::rest) := by
        simp [List.intercalate,List.intersperse]
      rw [hc,innerCount,List.count_append,List.count_append,List.count_singleton_self]
      simp only [List.length_cons] at hr ⊢
      omega

/-- Equally many fields with the same join hold equally many separators. -/
theorem innerCount_eq_of_intercalate_eq {sep : α} {xs ys : List (List α)}
    (hlen : xs.length=ys.length) (h : [sep].intercalate xs=[sep].intercalate ys) :
    innerCount sep xs=innerCount sep ys := by
  cases xs with
  | nil =>
    have hy : ys=[] := List.length_eq_zero_iff.mp hlen.symm
    rw [hy]
  | cons x xs =>
    have hy : ys≠[] := by
      intro he
      simp [he] at hlen
    have hcx := count_intercalate sep (List.cons_ne_nil x xs)
    have hcy := count_intercalate sep hy
    rw [h] at hcx
    omega

/-- Separator-free fields are determined by their join among all lists of as
many fields, including lists whose own fields contain separators. -/
theorem eq_of_intercalate_eq {sep : α} {stored crafted : List (List α)}
    (hfree : SeparatorFree sep stored) (hlen : stored.length=crafted.length)
    (h : [sep].intercalate stored=[sep].intercalate crafted) : stored=crafted := by
  have hcrafted : SeparatorFree sep crafted := by
    rw [←innerCount_eq_zero_iff,←innerCount_eq_of_intercalate_eq hlen h]
    exact (innerCount_eq_zero_iff sep stored).mpr hfree
  by_cases hs : stored=[]
  · subst hs
    exact (List.length_eq_zero_iff.mp hlen.symm).symm
  · have hc : crafted≠[] := by
      intro he
      exact hs (List.length_eq_zero_iff.mp (by rw [hlen,he,List.length_nil]))
    calc stored=([sep].intercalate stored).splitOn sep :=
          (List.splitOn_intercalate sep hfree hs).symm
      _=([sep].intercalate crafted).splitOn sep := by rw [h]
      _=crafted := List.splitOn_intercalate sep hcrafted hc

end Count

/-- Split at the first separator, if there is one. -/
def splitFirst [DecidableEq α] (sep : α) : List α → Option (List α×List α)
  | [] => none
  | x::rest =>
    if x=sep then some ([],rest)
    else (splitFirst sep rest).map fun parts => (x::parts.1,parts.2)

/-- Splitting undoes a join whose first field is free of the separator. -/
theorem splitFirst_append [DecidableEq α] {sep : α} {field : List α} (h : sep ∉ field)
    (rest : List α) : splitFirst sep (field++sep::rest)=some (field,rest) := by
  induction field with
  | nil => rw [List.nil_append,splitFirst,if_pos rfl]
  | cons x field ih =>
    rw [List.mem_cons,not_or] at h
    obtain ⟨hx,hfield⟩ := h
    rw [List.cons_append,splitFirst,if_neg (Ne.symm hx),ih hfield,Option.map_some]

end KnativeMesh.Library.Joined
