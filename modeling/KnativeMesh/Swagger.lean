import KnativeMesh.Go
import KnativeMesh.Library.Index
import KnativeMesh.Library.Rekey

/-!
# The paths of the served specification

The paths of the OpenAPI document have no version, and the web server serves
them under /v1. Before the request validator gets the document, a loop over its
paths moves every path item to the prefixed path, in the map that it goes over.
-/

namespace KnativeMesh.Swagger

open Go Library.Index Library.Rekey

variable {PathItem : Type}

/-- openapi3.Paths: the path items by path. They are pointers, and may be nil. -/
abbrev Paths (PathItem : Type) := GoMap (Option PathItem)

/-- Paths.Value: the path item, nil where there is no such path. -/
def Paths.value (paths : Paths PathItem) (key : String) : Option PathItem := (paths[key]?).getD none

/-- The body of the loop: set the prefixed path and delete the other one. -/
def prefixPath (affix : String) (paths : Paths PathItem) (pathKey : String) : Paths PathItem :=
  (paths.insert (affix++pathKey) (paths.value pathKey)).erase pathKey

/-- The loop over the paths, in the order in which they were listed before it. -/
def prefixSwaggerPaths (inMatchingOrder : List String) (affix : String) (paths : Paths PathItem) :
    Paths PathItem :=
  inMatchingOrder.foldl (prefixPath affix) paths

/-- What a map holds under each key. -/
def content (paths : Paths PathItem) (key : String) : Option (Option PathItem) := paths[key]?

/-- The loop body moves the item of a path that is there. -/
theorem content_prefixPath (affix : String) {paths : Paths PathItem} {pathKey : String}
    (h : content paths pathKey≠none) :
    content (prefixPath affix paths pathKey)=move (affix++·) (content paths) pathKey := by
  have hvalue : some (paths.value pathKey)=content paths pathKey := by
    unfold Paths.value content
    unfold content at h
    cases hitem : paths[pathKey]? with
    | none => exact absurd hitem h
    | some item => rfl
  funext key
  unfold move
  rw [←hvalue]
  unfold content prefixPath
  rw [Std.ExtTreeMap.getElem?_erase]
  by_cases hkey : key=pathKey
  · rw [hkey,Function.update_self,if_pos (compare_eq_iff_eq.mpr rfl)]
  · rw [Function.update_of_ne hkey,if_neg fun he => hkey (compare_eq_iff_eq.mp he).symm]
    by_cases hplace : key=affix++pathKey
    · rw [hplace,Function.update_self,Std.ExtTreeMap.getElem?_insert_self]
    · rw [Function.update_of_ne hplace,getElem?_insert_of_ne _ (Ne.symm hplace)]

/-- The loop moves the items of the paths one after the other. -/
theorem content_prefixSwaggerPaths (affix : String) {order : List String} (hd : order.Nodup)
    {paths : Paths PathItem} (h : ∀ key ∈ order, content paths key≠none) :
    content (prefixSwaggerPaths order affix paths)=moveAll (affix++·) order (content paths) := by
  induction order generalizing paths with
  | nil => rfl
  | cons pathKey order ih =>
    rw [List.nodup_cons] at hd
    rw [List.forall_mem_cons] at h
    have hstep := content_prefixPath affix h.1
    have hrest : ∀ key ∈ order, content (prefixPath affix paths pathKey) key≠none := by
      intro key hkey
      have hne : key≠pathKey := fun he => hd.1 (he ▸ hkey)
      rw [hstep]
      by_cases hplace : affix++pathKey=key
      · rw [←hplace,move_rename (hplace ▸ hne)]
        exact h.1
      · rw [move_of_ne hne hplace]
        exact h.2 key hkey
    rw [moveAll_cons,←hstep,←ih hd.2 hrest]
    rfl

/-- Every path item is under its prefixed path, and there is no other path. -/
def Prefixed (affix : String) (paths prefixed : Paths PathItem) : Prop :=
  (∀ path, prefixed[affix++path]?=paths[path]?) ∧
    ∀ key, (∀ path, affix++path≠key) → prefixed[key]?=none

/-- In whatever order the paths are listed, the loop prefixes them exactly if
the prefix is not empty and no path comes before the path that is its prefixed
one. -/
theorem prefixSwaggerPaths_iff (affix : String) {order : List String} (hd : order.Nodup)
    {paths : Paths PathItem} (hlisted : ∀ path, path ∈ order ↔ paths[path]?≠none) :
    Prefixed affix paths (prefixSwaggerPaths order affix paths) ↔
      (order≠[] → affix≠"") ∧ order.Pairwise fun earlier later => later≠affix++earlier := by
  have hinj : Function.Injective (affix++·) := fun _ _ h => (String.append_right_inj affix).mp h
  have hcontent := content_prefixSwaggerPaths affix hd fun path hpath => (hlisted path).mp hpath
  have hrenamed := @renamed_moveAll_iff _ _ _ _ hinj _ hd (content paths) hlisted
  have hmoves : (∀ path ∈ order, affix++path≠path) ↔ (order≠[] → affix≠"") := by
    simp only [Ne,String.append_eq_right_iff]
    constructor
    · intro h hne
      have hpath := List.exists_mem_of_ne_nil order hne
      rcases hpath with ⟨path,hpath⟩
      exact h path hpath
    · intro h path hpath
      exact h (List.ne_nil_of_mem hpath)
  rw [←hcontent] at hrenamed
  unfold VacatedFirst at hrenamed
  rw [hmoves] at hrenamed
  exact hrenamed

/-- Paths one of which is already prefixed. -/
def twoPaths : Paths String := .ofList [("/mesh",some "new"),("/v1/mesh",some "old")]

/-- The two paths, in any order that lists both. -/
theorem mem_twoPaths {order : List String} (h : order.Perm ["/mesh","/v1/mesh"]) (path : String) :
    path ∈ order ↔ twoPaths[path]?≠none := by
  have hkeys : path ∈ twoPaths ↔ path ∈ ["/mesh","/v1/mesh"] := by
    rw [twoPaths,Std.ExtTreeMap.mem_ofList,List.contains_iff_mem]
    rfl
  rw [h.mem_iff,←hkeys,Std.ExtTreeMap.mem_iff_isSome_getElem?,Option.isSome_iff_ne_none]

/-- The listing order decides whether the old path survives. -/
theorem prefixSwaggerPaths_iff_twoPaths :
    Prefixed "/v1" twoPaths (prefixSwaggerPaths ["/v1/mesh","/mesh"] "/v1" twoPaths) ∧
      ¬ Prefixed "/v1" twoPaths (prefixSwaggerPaths ["/mesh","/v1/mesh"] "/v1" twoPaths) := by
  constructor
  · exact (prefixSwaggerPaths_iff "/v1" (by decide) (mem_twoPaths (by decide))).mpr (by decide)
  · rw [prefixSwaggerPaths_iff "/v1" (by decide) (mem_twoPaths (by decide))]
    decide

end KnativeMesh.Swagger
