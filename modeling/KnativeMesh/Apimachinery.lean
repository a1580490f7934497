import KnativeMesh.Kubernetes

/-!
# Libraries that behave as documented

Concrete functions in place of the libraries that the model leaves open, for
runs over concrete clusters. No result about the backend depends on them.
-/

namespace KnativeMesh.Apimachinery

open Go GoJson Library.JsonTree UnstructuredObject Kubernetes

/-- The error of an accessor that met a value of another type. -/
def accessorError : GoError := .plain "accessor error"

/-- unstructured.NestedFieldNoCopy: follow a path of fields; a null on the way
counts as not found. -/
def nestedFieldNoCopy : Json → List String → Except GoError (Option Json)
  | val,[] => .ok (some val)
  | .null,_::_ => .ok none
  | .obj fields,field::rest =>
    match fields.lookup field with
    | none => .ok none
    | some val => nestedFieldNoCopy val rest
  | _,_::_ => .error accessorError

/-- Follow a path to a value that a type assertion must accept. -/
def nestedAs {α : Type} (accept : Json → Option α) (json : Json) (fields : List String) :
    Except GoError (Option α) :=
  match nestedFieldNoCopy json fields with
  | .error err => .error err
  | .ok none => .ok none
  | .ok (some val) =>
    match accept val with
    | some value => .ok (some value)
    | none => .error accessorError

/-- A string, or the empty string for a null. -/
def nullCoercingString : Json → Option String
  | .null => some ""
  | json => json.asString

/-- unstructured.NestedNullCoercingStringMap with its error dropped: the nil
map unless the field is a map of strings and nulls. -/
def nestedNullCoercingStringMap (json : Json) (fields : List String) : StringMap :=
  match nestedAs (stringMapOf nullCoercingString) json fields with
  | .ok (some m) => some m
  | _ => none

/-- A nested string, or the empty string where there is none. -/
def getNestedString (json : Json) (fields : List String) : String :=
  match nestedAs Json.asString json fields with
  | .ok (some value) => value
  | _ => ""

/-- The object whose Object map is a JSON tree. -/
def unstructured (tree : Json) : Unstructured :=
  { nestedString := nestedAs Json.asString tree
    nestedSlice := nestedAs Json.asArray tree
    nestedStringMap := nestedAs (stringMapOf Json.asString) tree
    getNamespace := getNestedString tree ["metadata","namespace"]
    getName := getNestedString tree ["metadata","name"]
    getUID := getNestedString tree ["metadata","uid"]
    getKind := getNestedString tree ["kind"]
    getLabels := nestedNullCoercingStringMap tree ["metadata","labels"]
    getAnnotations := nestedNullCoercingStringMap tree ["metadata","annotations"] }

/-- schema.ParseGroupVersion: a version alone, or group and version around
the only slash. -/
def parseGroupVersion (gv : String) : Option (String×String) :=
  if gv="" ∨ gv="/" then some ("","")
  else match gv.toList.count '/' with
    | 0 => some ("",gv)
    | 1 =>
      let i := gv.toList.idxOf '/'
      some (String.ofList (gv.toList.take i),String.ofList (gv.toList.drop (i+1)))
    | _ => none

/-- schema.FromAPIVersionAndKind: an unparsable version leaves the kind only. -/
def fromAPIVersionAndKind (apiVersion kind : String) : GroupVersionKind :=
  match parseGroupVersion apiVersion with
  | some (group,version) => ⟨group,version,kind⟩
  | none => ⟨"","",kind⟩

/-- meta.UnsafeGuessKindToResource on a kind that is not Endpoints: lower-case
it and form its plural. -/
def guessKindToResource (gvk : GroupVersionKind) : GroupVersionResource :=
  let singular := gvk.kind.toList.map Char.toLower
  let plural :=
    if singular.getLast?=some 's' then singular++['e','s']
    else if singular.getLast?=some 'y' then singular.dropLast++['i','e','s']
    else singular++['s']
  ⟨gvk.group,gvk.version,String.ofList plural⟩

/-- apierrors.IsNotFound: by reason, or by code where the reason is unknown. -/
def isNotFound (err : GoError) : Bool :=
  reasonForError err==.notFound || (reasonForError err==.unknown && codeForError err==404)

/-- apierrors.IsUnauthorized: by reason only. -/
def isUnauthorized (err : GoError) : Bool := reasonForError err==.unauthorized

/-- The group of a version with exactly one slash stands before it. -/
theorem fromAPIVersionAndKind_group_slash {group version : String} (kind : String)
    (hgroup : '/' ∉ group.toList) (hversion : '/' ∉ version.toList) :
    (fromAPIVersionAndKind (group++"/"++version) kind).group=group := by
  have htext : (group++"/"++version).toList=group.toList++('/'::version.toList) := by
    rw [String.toList_append,String.toList_append,List.append_assoc]
    rfl
  have hcount : (group++"/"++version).toList.count '/'=1 := by
    rw [htext,List.count_append,List.count_cons_self,List.count_eq_zero.mpr hgroup,
      List.count_eq_zero.mpr hversion]
  have hindex : (group++"/"++version).toList.idxOf '/'=group.toList.length := by
    rw [htext,List.idxOf_append_of_notMem hgroup,List.idxOf_cons_self,Nat.add_zero]
  dsimp only [fromAPIVersionAndKind,parseGroupVersion]
  by_cases hplain : group++"/"++version="" ∨ group++"/"++version="/"
  · rw [if_pos hplain]
    have hlength : (group++"/"++version).toList.length≤1 := by
      rcases hplain with hplain | hplain <;> rw [hplain] <;> decide
    rw [htext,List.length_append,List.length_cons] at hlength
    have hnil : group.toList.length=0 := by omega
    exact (String.toList_eq_nil_iff.mp (List.length_eq_zero_iff.mp hnil)).symm
  · rw [if_neg hplain,hcount,hindex]
    change String.ofList _=group
    rw [htext,List.take_left,String.ofList_toList]

/-- A version without exactly one slash is in the core group. -/
theorem fromAPIVersionAndKind_core_group {apiVersion : String} (kind : String)
    (h : apiVersion.toList.count '/'≠1) : (fromAPIVersionAndKind apiVersion kind).group="" := by
  dsimp only [fromAPIVersionAndKind,parseGroupVersion]
  by_cases hplain : apiVersion="" ∨ apiVersion="/"
  · rw [if_pos hplain]
  · rw [if_neg hplain]
    cases hcount : apiVersion.toList.count '/' with
    | zero => rfl
    | succ n =>
      cases n with
      | zero => exact absurd hcount h
      | succ n => rfl

/-- The parser has the documented meaning. -/
theorem groupLaws {lib : Libraries} (hparse : lib.fromAPIVersionAndKind=fromAPIVersionAndKind) :
    lib.GroupLaws where
  group_slash group version kind hgroup hversion := by
    rw [hparse]
    exact fromAPIVersionAndKind_group_slash kind hgroup hversion
  core_group apiVersion kind h := by
    rw [hparse]
    exact fromAPIVersionAndKind_core_group kind h

/-- The predicates have the documented meaning. -/
theorem statusLaws {lib : Libraries} (hnotFound : lib.isNotFound=isNotFound)
    (hunauthorized : lib.isUnauthorized=isUnauthorized) : lib.StatusLaws where
  isNotFound_iff err := by
    rw [hnotFound]
    simp [isNotFound]
  isUnauthorized_iff err := by
    rw [hunauthorized]
    simp [isUnauthorized]

end KnativeMesh.Apimachinery
