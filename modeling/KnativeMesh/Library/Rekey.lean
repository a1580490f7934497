import Mathlib.Data.List.Basic
import Mathlib.Logic.Function.Basic

/-!
# Renaming the keys of a map in place

A loop over the keys of a map moves every value to a new key of its map, one key
after the other. Moving is not renaming where a new key is an old one as well: a
key has to be vacated before the value that goes there is moved, or else the
later move takes the value away again.
-/

namespace KnativeMesh.Library.Rekey

variable {κ α : Type*} [DecidableEq κ]

/-- Move the value of a key to the renamed key. -/
def move (rename : κ → κ) (content : κ → Option α) (key : κ) : κ → Option α :=
  Function.update (Function.update content (rename key) (content key)) key none

/-- Move the values of some keys, one key after the other. -/
def moveAll (rename : κ → κ) (keys : List κ) (content : κ → Option α) : κ → Option α :=
  keys.foldl (move rename) content

/-- Every key is vacated before a value is moved there. -/
def VacatedFirst (rename : κ → κ) (keys : List κ) : Prop :=
  (∀ key ∈ keys, rename key≠key) ∧ keys.Pairwise fun earlier later => later≠rename earlier

/-- The result holds every value under its renamed key, and nothing else. -/
def Renamed (rename : κ → κ) (content renamed : κ → Option α) : Prop :=
  (∀ key, renamed (rename key)=content key) ∧ ∀ key, (∀ old, rename old≠key) → renamed key=none

theorem moveAll_cons (rename : κ → κ) (key : κ) (keys : List κ) (content : κ → Option α) :
    moveAll rename (key::keys) content=moveAll rename keys (move rename content key) := rfl

theorem moveAll_append (rename : κ → κ) (first second : List κ) (content : κ → Option α) :
    moveAll rename (first++second) content=moveAll rename second (moveAll rename first content) :=
  List.foldl_append

section Move

variable {rename : κ → κ} {content : κ → Option α} {key other : κ}

/-- A moved key is vacated. -/
@[simp] theorem move_self : move rename content key key=none := Function.update_self _ _ _

/-- A move to another key puts the value there. -/
theorem move_rename (h : rename key≠key) : move rename content key (rename key)=content key := by
  unfold move
  rw [Function.update_of_ne h,Function.update_self]

/-- A move touches no other key. -/
theorem move_of_ne (h : other≠key) (hr : rename key≠other) :
    move rename content key other=content other := by
  unfold move
  rw [Function.update_of_ne h,Function.update_of_ne hr.symm]

end Move

section Loop

variable {rename : κ → κ}

/-- Keys that are neither moved nor moved to keep what they hold. -/
theorem moveAll_of_untouched {keys : List κ} {other : κ} (h : other ∉ keys)
    (hr : ∀ key ∈ keys, rename key≠other) (content : κ → Option α) :
    moveAll rename keys content other=content other := by
  induction keys generalizing content with
  | nil => rfl
  | cons key keys ih =>
    rw [List.mem_cons,not_or] at h
    rw [List.forall_mem_cons] at hr
    rw [moveAll_cons,ih h.2 hr.2,move_of_ne h.1 hr.1]

/-- A key is empty at the end if no value is moved there after it was moved. -/
theorem moveAll_of_last {before after : List κ} {key : κ} (h : key ∉ after)
    (hr : ∀ later ∈ after, rename later≠key) (content : κ → Option α) :
    moveAll rename (before++key::after) content key=none := by
  rw [moveAll_append,moveAll_cons,moveAll_of_untouched h hr,move_self]

/-- Where keys are vacated first, every moved value arrives, and a moved key to
which no value is moved is empty. -/
theorem moveAll_of_vacatedFirst (hinj : Function.Injective rename) {keys : List κ} (hd : keys.Nodup)
    (hv : VacatedFirst rename keys) (content : κ → Option α) :
    (∀ key ∈ keys, moveAll rename keys content (rename key)=content key) ∧
      ∀ key ∈ keys, (∀ old ∈ keys, rename old≠key) → moveAll rename keys content key=none := by
  induction keys generalizing content with
  | nil => exact ⟨fun _ hkey => absurd hkey List.not_mem_nil,fun _ hkey => absurd hkey List.not_mem_nil⟩
  | cons first keys ih =>
    rw [List.nodup_cons] at hd
    have hne := List.forall_mem_cons.mp hv.1
    have hlater := List.pairwise_cons.mp hv.2
    have hrest := ih hd.2 ⟨hne.2,hlater.2⟩ (move rename content first)
    rw [moveAll_cons]
    constructor
    · intro key hkey
      rcases List.mem_cons.mp hkey with rfl | hkey
      · -- later moves leave the place of the first value alone
        have hplace : rename key ∉ keys := fun hmem => hlater.1 _ hmem rfl
        have hsource : ∀ later ∈ keys, rename later≠rename key :=
          fun later hmem he => hd.1 (hinj he ▸ hmem)
        rw [moveAll_of_untouched hplace hsource,move_rename hne.1]
      · have hkeep : move rename content first key=content key :=
          move_of_ne (fun he => hd.1 (he ▸ hkey)) (hlater.1 key hkey).symm
        rw [hrest.1 key hkey,hkeep]
    · intro key hkey hold
      have hold := List.forall_mem_cons.mp hold
      rcases List.mem_cons.mp hkey with rfl | hkey
      · rw [moveAll_of_untouched hd.1 hold.2,move_self]
      · exact hrest.2 key hkey hold.2

/-- A loop over all keys of a map renames them exactly if every key is vacated
before a value is moved there. -/
theorem renamed_moveAll_iff (hinj : Function.Injective rename) {keys : List κ} (hd : keys.Nodup)
    {content : κ → Option α} (hkeys : ∀ key, key ∈ keys ↔ content key≠none) :
    Renamed rename content (moveAll rename keys content) ↔ VacatedFirst rename keys := by
  constructor
  · intro h
    -- a key that is moved after its new value came is empty at the end
    have hlast : ∀ before key after, keys=before++rename key::after → key ∈ keys → key ∉ after →
        False := by
      intro before key after hsplit hkey hafter
      have hplace : rename key ∉ after := by
        rw [hsplit] at hd
        exact (List.nodup_cons.mp (List.nodup_append.mp hd).2.1).1
      have hempty : moveAll rename keys content (rename key)=none := by
        rw [hsplit]
        exact moveAll_of_last hplace (fun later hmem he => hafter (hinj he ▸ hmem)) content
      exact (hkeys key).mp hkey ((h.1 key).symm.trans hempty)
    constructor
    · intro key hkey he
      have hsplit := List.append_of_mem hkey
      rcases hsplit with ⟨before,after,hsplit⟩
      have hafter : key ∉ after := by
        rw [hsplit] at hd
        exact (List.nodup_cons.mp (List.nodup_append.mp hd).2.1).1
      exact hlast before key after (by rw [he]; exact hsplit) hkey hafter
    · rw [List.pairwise_iff_forall_sublist]
      intro earlier later hsub he
      have hparts := List.cons_sublist_iff.mp hsub
      rcases hparts with ⟨first,second,hsplit,hearlier,hlater⟩
      have hlater := List.append_of_mem (List.singleton_sublist.mp hlater)
      rcases hlater with ⟨before,after,rfl⟩
      have hkey : earlier ∈ keys := hsplit ▸ List.mem_append_left _ hearlier
      have hafter : earlier ∉ after := by
        intro hmem
        rw [hsplit] at hd
        exact (List.nodup_append.mp hd).2.2 earlier hearlier earlier
          (List.mem_append_right _ (List.mem_cons_of_mem _ hmem)) rfl
      refine hlast (first++before) earlier after ?_ hkey hafter
      rw [hsplit,List.append_assoc,he]
  · intro hv
    have hmoved := moveAll_of_vacatedFirst hinj hd hv content
    constructor
    · intro key
      by_cases hkey : key ∈ keys
      · exact hmoved.1 key hkey
      · have hnone : content key=none := by
          by_contra hsome
          exact hkey ((hkeys key).mpr hsome)
        have hsource : ∀ old ∈ keys, rename old≠rename key := fun old hold he => hkey (hinj he ▸ hold)
        by_cases hplace : rename key ∈ keys
        · rw [hmoved.2 _ hplace hsource,hnone]
        · rw [moveAll_of_untouched hplace hsource,hnone]
          by_contra hsome
          exact hplace ((hkeys _).mpr hsome)
    · intro key hold
      by_cases hkey : key ∈ keys
      · exact hmoved.2 key hkey fun old _ => hold old
      · rw [moveAll_of_untouched hkey fun old _ => hold old]
        by_contra hsome
        exact hkey ((hkeys key).mpr hsome)

end Loop

end KnativeMesh.Library.Rekey
