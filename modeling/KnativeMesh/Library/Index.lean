import Mathlib

/-!
# Maps filled by one pass over a list of allocated objects

A loop over a list of pointers stores each pointer in a map under a key of
its object. Pointers are positions in the list. Storing overwrites, so the
last object of a key wins; grouping appends, so a key keeps all its objects in
list order. Lookups are characterised by the list alone.
-/

namespace KnativeMesh.Library.Index

variable {α K : Type*} [Ord K] [Std.TransOrd K]

/-- Positions by key, where a later object overwrites an earlier one. -/
def indexBy (key : α → K) (xs : List α) : Std.ExtTreeMap K ℕ :=
  xs.zipIdx.foldl (fun index entry => index.insert (key entry.1) entry.2) ∅

/-- The last object of the list is stored last, at the last position. -/
theorem indexBy_concat (key : α → K) (xs : List α) (x : α) :
    indexBy key (xs++[x])=(indexBy key xs).insert (key x) xs.length := by
  simp [indexBy,List.zipIdx_append]

/-- Positions by key, where every object of a key is kept, in list order. -/
def groupBy (key : α → K) (xs : List α) : Std.ExtTreeMap K (List ℕ) :=
  xs.zipIdx.foldl (fun groups entry =>
    groups.insert (key entry.1) (groups[key entry.1]?.getD []++[entry.2])) ∅

/-- The last object of the list is appended to the group of its key. -/
theorem groupBy_concat (key : α → K) (xs : List α) (x : α) :
    groupBy key (xs++[x])=
      (groupBy key xs).insert (key x) ((groupBy key xs)[key x]?.getD []++[xs.length]) := by
  simp [groupBy,List.zipIdx_append]

/-- The pass reads nothing of the objects but their keys. -/
theorem indexBy_eq_foldl (key : α → K) (xs : List α) :
    indexBy key xs=
      (xs.map key).zipIdx.foldl (fun index entry => index.insert entry.1 entry.2) ∅ := by
  rw [List.zipIdx_map,List.foldl_map]
  rfl

/-- Objects with equal keys are stored under equal positions. -/
theorem indexBy_congr {β : Type*} {key : α → K} {key' : β → K} {xs : List α} {ys : List β}
    (h : xs.map key=ys.map key') : indexBy key xs=indexBy key' ys := by
  rw [indexBy_eq_foldl,indexBy_eq_foldl,h]

variable [Std.LawfulEqOrd K]

/-- Storing under one key leaves what the other keys lead to. -/
theorem getElem?_insert_of_ne {V : Type*} (m : Std.ExtTreeMap K V) {stored key : K}
    (h : stored≠key) (value : V) : (m.insert stored value)[key]?=m[key]? := by
  have hc : compare stored key≠.eq := fun he => h (Std.LawfulEqOrd.eq_of_compare he)
  rw [Std.ExtTreeMap.getElem?_insert,if_neg hc]

/-- Reading a list with one more object at its end. -/
theorem getElem?_concat_eq_some_iff {xs : List α} {x y : α} {i : ℕ} :
    (xs++[x])[i]?=some y ↔ xs[i]?=some y ∨ i=xs.length ∧ x=y := by
  rw [List.getElem?_append]
  split
  · next hi => simp [hi.ne]
  · next hi =>
    have hnone : xs[i]?=none := List.getElem?_eq_none (by omega)
    rw [hnone,List.getElem?_singleton]
    split
    · have hlast : i=xs.length := by omega
      simp [hlast]
    · have hbeyond : i≠xs.length := by omega
      simp [hbeyond]

/-- A hit is the last position at which an object with the key stands. -/
theorem indexBy_eq_some_iff_last {key : α → K} {xs : List α} {k : K} {i : ℕ} :
    (indexBy key xs)[k]?=some i ↔
      ∃ x, xs[i]?=some x ∧ key x=k ∧ ∀ j y, i<j → xs[j]?=some y → key y≠k := by
  induction xs using List.reverseRecOn generalizing i with
  | nil => simp [indexBy]
  | append_singleton xs x ih =>
    rw [indexBy_concat]
    have hlt : ∀ {j : ℕ} {y : α}, xs[j]?=some y → j<xs.length :=
      fun h => (List.getElem?_eq_some_iff.mp h).1
    by_cases hk : key x=k
    · subst hk
      rw [Std.ExtTreeMap.getElem?_insert_self,Option.some.injEq]
      constructor
      · rintro rfl
        refine ⟨x,getElem?_concat_eq_some_iff.mpr (.inr ⟨rfl,rfl⟩),rfl,fun j y hj hy => ?_⟩
        rcases getElem?_concat_eq_some_iff.mp hy with hy | ⟨hend,_⟩
        · have hjl := hlt hy
          omega
        · omega
      · intro hp
        rcases hp with ⟨y,hy,_,hlater⟩
        rcases getElem?_concat_eq_some_iff.mp hy with hy | ⟨hend,_⟩
        · have hlast : (xs++[x])[xs.length]?=some x :=
            getElem?_concat_eq_some_iff.mpr (.inr ⟨rfl,rfl⟩)
          exact absurd rfl (hlater xs.length x (hlt hy) hlast)
        · exact hend.symm
    · rw [getElem?_insert_of_ne _ hk,ih]
      constructor
      · intro hp
        rcases hp with ⟨y,hy,hkey,hlater⟩
        refine ⟨y,getElem?_concat_eq_some_iff.mpr (.inl hy),hkey,fun j z hj hz => ?_⟩
        rcases getElem?_concat_eq_some_iff.mp hz with hz | ⟨_,rfl⟩
        · exact hlater j z hj hz
        · exact hk
      · intro hp
        rcases hp with ⟨y,hy,hkey,hlater⟩
        rcases getElem?_concat_eq_some_iff.mp hy with hy | ⟨_,rfl⟩
        · exact ⟨y,hy,hkey,fun j z hj hz =>
            hlater j z hj (getElem?_concat_eq_some_iff.mpr (.inl hz))⟩
        · exact absurd hkey hk

/-- A hit returns the position of an object with the key asked for. -/
theorem indexBy_sound {key : α → K} {xs : List α} {k : K} {i : ℕ}
    (h : (indexBy key xs)[k]?=some i) : ∃ x, xs[i]?=some x ∧ key x=k := by
  obtain ⟨x,hx,hkey,_⟩ := indexBy_eq_some_iff_last.mp h
  exact ⟨x,hx,hkey⟩

/-- A miss means that no object of the list has the key. -/
theorem indexBy_eq_none_iff {key : α → K} {xs : List α} {k : K} :
    (indexBy key xs)[k]?=none ↔ ∀ x ∈ xs, key x≠k := by
  induction xs using List.reverseRecOn with
  | nil => simp [indexBy]
  | append_singleton xs x ih =>
    rw [indexBy_concat]
    by_cases hk : key x=k
    · subst hk
      simp
    · rw [getElem?_insert_of_ne _ hk,ih,List.forall_mem_append,List.forall_mem_singleton]
      exact ⟨fun h => ⟨h,hk⟩,fun h => h.1⟩

/-- With distinct keys nothing is overwritten: a key leads to position i
exactly when the object there has that key. -/
theorem indexBy_eq_some_iff {key : α → K} {xs : List α} (hd : (xs.map key).Nodup) {k : K} {i : ℕ} :
    (indexBy key xs)[k]?=some i ↔ ∃ x, xs[i]?=some x ∧ key x=k := by
  constructor
  · exact indexBy_sound
  · intro hp
    rcases hp with ⟨x,hx,hkey⟩
    refine indexBy_eq_some_iff_last.mpr ⟨x,hx,hkey,fun j y hj hy he => ?_⟩
    have hi : (xs.map key)[i]?=some k := by rw [List.getElem?_map,hx,Option.map_some,hkey]
    have hj' : (xs.map key)[j]?=some k := by rw [List.getElem?_map,hy,Option.map_some,he]
    obtain ⟨hil,hie⟩ := List.getElem?_eq_some_iff.mp hi
    obtain ⟨hjl,hje⟩ := List.getElem?_eq_some_iff.mp hj'
    have hsame := (List.Nodup.getElem_inj_iff hd).mp (hie.trans hje.symm)
    omega

/-- The object that a key leads to. -/
def follow (index : Std.ExtTreeMap K ℕ) (xs : List α) (k : K) : Option α := index[k]?.bind (xs[·]?)

/-- With distinct keys a lookup returns the one object with the key asked for. -/
theorem follow_indexBy_eq_some_iff {key : α → K} {xs : List α} (hd : (xs.map key).Nodup) {k : K}
    {x : α} : follow (indexBy key xs) xs k=some x ↔ x ∈ xs ∧ key x=k := by
  dsimp only [follow]
  rw [Option.bind_eq_some_iff]
  constructor
  · intro hp
    rcases hp with ⟨i,hi,hx⟩
    have hsound := indexBy_sound hi
    rcases hsound with ⟨y,hy,hkey⟩
    have he : y=x := Option.some.inj (hy.symm.trans hx)
    rw [he] at hkey
    exact ⟨List.mem_of_getElem? hx,hkey⟩
  · intro hp
    rcases hp with ⟨hmem,hkey⟩
    have hpos := List.getElem?_of_mem hmem
    rcases hpos with ⟨i,hi⟩
    exact ⟨i,(indexBy_eq_some_iff hd).mpr ⟨x,hi,hkey⟩,hi⟩

/-- What a key leads to does not depend on the order of the objects, if their
keys are distinct. -/
theorem follow_indexBy_perm {key : α → K} {xs ys : List α} (hd : (xs.map key).Nodup)
    (hp : xs.Perm ys) (k : K) : follow (indexBy key xs) xs k=follow (indexBy key ys) ys k := by
  have hd' : (ys.map key).Nodup := (hp.map key).nodup_iff.mp hd
  apply Option.ext
  intro x
  rw [follow_indexBy_eq_some_iff hd,follow_indexBy_eq_some_iff hd',hp.mem_iff]

/-- A key is in the map exactly when some object has it. -/
theorem mem_indexBy_iff {key : α → K} {xs : List α} {k : K} :
    k ∈ indexBy key xs ↔ ∃ x ∈ xs, key x=k := by
  constructor
  · intro hmem
    have hsome := Std.ExtTreeMap.mem_iff_isSome_getElem?.mp hmem
    have hhit := Option.isSome_iff_exists.mp hsome
    rcases hhit with ⟨i,hi⟩
    have hsound := indexBy_sound hi
    rcases hsound with ⟨x,hx,hkey⟩
    exact ⟨x,List.mem_of_getElem? hx,hkey⟩
  · intro hp
    rcases hp with ⟨x,hx,hkey⟩
    by_contra hmiss
    have hnone : (indexBy key xs)[k]?=none := by simpa using hmiss
    exact indexBy_eq_none_iff.mp hnone x hx hkey

/-- Reading a group through its positions gives exactly the objects of the
key, in list order and each as often as the list holds it. -/
theorem groupBy_filterMap [DecidableEq K] (key : α → K) (xs : List α) (k : K) :
    ((groupBy key xs)[k]?.getD []).filterMap (xs[·]?)=xs.filter (key ·=k) := by
  suffices h : ∀ suffix, ((groupBy key xs)[k]?.getD []).filterMap ((xs++suffix)[·]?)=
      xs.filter (key ·=k) by simpa using h []
  induction xs using List.reverseRecOn with
  | nil => simp [groupBy]
  | append_singleton xs x ih =>
    intro suffix
    rw [groupBy_concat,List.append_assoc]
    by_cases hk : key x=k
    · subst hk
      simp [ih]
    · rw [getElem?_insert_of_ne _ hk,ih]
      simp [hk]

section Join

variable {α κ ν : Type} [DecidableEq κ] [DecidableEq ν]

/-- A join that lists, for each of some keys, the names of the objects with the
key names an object as often as its key is listed. -/
theorem count_join {key : α → κ} {name : α → ν} {xs : List α} (hd : (xs.map name).Nodup) {x : α}
    (hx : x ∈ xs) (keys : List κ) :
    (keys.flatMap fun k => (xs.filter (key ·=k)).map name).count (name x)=keys.count (key x) := by
  induction keys with
  | nil => rfl
  | cons k keys ih =>
    have hgroup : ((xs.filter (key ·=k)).map name).Nodup := hd.sublist (List.filter_sublist.map name)
    rw [List.flatMap_cons,List.count_append,ih]
    by_cases hk : key x=k
    · have hmem : name x ∈ (xs.filter (key ·=k)).map name :=
        List.mem_map_of_mem (List.mem_filter.mpr ⟨hx,decide_eq_true hk⟩)
      have hone := List.count_eq_one_of_mem hgroup hmem
      have hkeys : (k::keys).count (key x)=keys.count (key x)+1 := by rw [hk,List.count_cons_self]
      omega
    · have hnot : name x ∉ (xs.filter (key ·=k)).map name := by
        intro hmem
        have hother := List.mem_map.mp hmem
        rcases hother with ⟨other,hother,hname⟩
        have hfilter := List.mem_filter.mp hother
        have hsame := List.inj_on_of_nodup_map hd hfilter.1 hx hname
        rw [hsame] at hfilter
        exact hk (of_decide_eq_true hfilter.2)
      have hzero := List.count_eq_zero.mpr hnot
      have hkeys : (k::keys).count (key x)=keys.count (key x) :=
        List.count_cons_of_ne (Ne.symm hk)
      omega

end Join

end KnativeMesh.Library.Index
