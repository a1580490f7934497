import KnativeMesh.Apimachinery

/-!
# What the CRD decoder accepts

The decoder of util.go runs on every labelled CRD of a request. It is compared
with a description of the three strings that a CRD gives: a group, a plural
name and the version that is served first, or the legacy version. The decoder
agrees with the description on every tree but those whose first served version
has no string for a name, where its unchecked assertion panics. Of the accessors
only this is assumed, that they find what stands in the tree.
-/

namespace KnativeMesh.Decoding

open Go GoJson Library.JsonTree UnstructuredObject Kubernetes Apimachinery

/-- The string that the accessor finds under a path. -/
def stringAt (u : Unstructured) (path : List String) : Option String :=
  match u.nestedString path with
  | .ok found => found
  | .error _ => none

/-- The elements of spec.versions; none where the accessor finds no list. -/
def versionList (u : Unstructured) : List Json :=
  match u.nestedSlice ["spec","versions"] with
  | .ok found => found.getD []
  | .error _ => []

/-- The value under a path of fields, all of which must be those of maps. -/
def fieldAt : Json → List String → Option Json
  | tree,[] => some tree
  | tree,field::rest => (tree.field field).bind (fieldAt · rest)

/-- The string under a path of a tree, if there is one. -/
def stringIn (tree : Json) (path : List String) : Option String :=
  (fieldAt tree path).bind Json.asString

/-- The elements of spec.versions; none where it is absent or not a list. -/
def versionsIn (tree : Json) : List Json :=
  ((fieldAt tree ["spec","versions"]).bind Json.asArray).getD []

/-- The accessors of an object find a string or a list under a path exactly
where one stands in the tree. Of errors and of other values nothing is said. -/
structure Reads (u : Unstructured) (tree : Json) : Prop where
  string : ∀ path s, u.nestedString path=.ok (some s) ↔ fieldAt tree path=some (.str s)
  slice : ∀ path elems, u.nestedSlice path=.ok (some elems) ↔ fieldAt tree path=some (.arr elems)

/-- A version that is a map with served = true. -/
def isServed : Json → Bool
  | .obj fields =>
    match fields.lookup "served" with
    | some (.bool served) => served
    | _ => false
  | _ => false

/-- The name of a version, if it is a string. -/
def versionName : Json → Option String
  | .obj fields => (fields.lookup "name").bind Json.asString
  | _ => none

/-- The version of a CRD: the name of the first served element of a non-empty
version list, or else the legacy field. -/
def crdVersion (strings : List String → Option String) (versions : List Json) : Option String :=
  match versions with
  | [] => strings ["spec","version"]
  | versions => (versions.find? isServed).bind versionName

/-- The three strings that a resource is made of. -/
structure DecodesAs (strings : List String → Option String) (versions : List Json)
    (gvr : GroupVersionResource) : Prop where
  group : strings ["spec","group"]=some gvr.group
  version : crdVersion strings versions=some gvr.version
  version_ne : gvr.version≠""
  resource : strings ["spec","names","plural"]=some gvr.resource

/-- The first served version has no string for a name. -/
def NamelessServed (versions : List Json) : Prop :=
  ∃ version, versions.find? isServed=some version ∧ versionName version=none

/-- A required field is there exactly when it is a string. -/
theorem required_eq_ok_iff (message : String) (u : Unstructured) (path : List String) (s : String) :
    required message (u.nestedString path)=.ok s ↔ stringAt u path=some s := by
  dsimp only [stringAt]
  cases u.nestedString path with
  | error err => simp [required]
  | ok found => cases found <;> simp [required]

/-- A required field that is missing is an error. -/
theorem required_ne_panic (message : String) (found : Except GoError (Option String)) :
    required message found≠.error .panic := by
  cases found with
  | error err => simp [required]
  | ok found => cases found <;> simp [required]

/-- The loop over versions passes over an element that is not served. -/
theorem servedVersion_of_not_served {version : Json} (h : isServed version=false)
    (versions : List Json) : servedVersion (version::versions)=servedVersion versions := by
  cases version with
  | obj vmap =>
    dsimp only [isServed] at h
    dsimp only [servedVersion]
    cases hlookup : vmap.lookup "served" with
    | none => rfl
    | some served =>
      cases served with
      | bool value =>
        rw [hlookup] at h
        dsimp only at h
        rw [h]
      | _ => rfl
  | _ => rfl

/-- The loop over versions ends at a served element: with its name, or with a
panic where that is no string. -/
theorem servedVersion_of_served {version : Json} (h : isServed version=true)
    (versions : List Json) :
    servedVersion (version::versions)=(versionName version).elim (.error .panic) .ok := by
  cases version with
  | obj vmap =>
    dsimp only [isServed] at h
    dsimp only [servedVersion,versionName]
    cases hlookup : vmap.lookup "served" with
    | none =>
      rw [hlookup] at h
      cases h
    | some served =>
      cases served with
      | bool value =>
        rw [hlookup] at h
        dsimp only at h ⊢
        rw [h]
        dsimp only
        cases vmap.lookup "name" with
        | none => rfl
        | some name => cases name <;> rfl
      | _ =>
        rw [hlookup] at h
        cases h
  | _ => cases h

/-- The loop over versions as a whole: without a served element it finds the
empty version. -/
theorem servedVersion_eq (versions : List Json) :
    servedVersion versions=(versions.find? isServed).elim (.ok "") fun version =>
      (versionName version).elim (.error .panic) .ok := by
  induction versions with
  | nil => rfl
  | cons version versions ih =>
    cases hserved : isServed version with
    | false =>
      have hne : ¬ isServed version=true := by
        rw [hserved]
        exact Bool.false_ne_true
      rw [servedVersion_of_not_served hserved,ih,List.find?_cons_of_neg hne]
    | true =>
      rw [servedVersion_of_served hserved,List.find?_cons_of_pos hserved,Option.elim_some]

/-- The version that is found before it is checked to be non-empty. -/
def foundVersion (u : Unstructured) : Result String :=
  match versionList u with
  | [] => required versionMessage (u.nestedString ["spec","version"])
  | version::versions => servedVersion (version::versions)

/-- The version decoder looks at the list and falls back to the legacy field. -/
theorem versionFromUnstructured_eq (u : Unstructured) :
    versionFromUnstructured u=foundVersion u >>= fun version =>
      if version="" then .error (.error (errorf versionMessage none)) else .ok version := by
  dsimp only [versionFromUnstructured,foundVersion,versionList]
  cases u.nestedSlice ["spec","versions"] with
  | error err => rfl
  | ok found =>
    cases found with
    | none => rfl
    | some versions => cases versions <;> rfl

/-- The version found is that of the CRD, or an empty one where no element of
the list is served. -/
theorem foundVersion_eq_ok_iff (u : Unstructured) {version : String} (hne : version≠"") :
    foundVersion u=.ok version ↔ crdVersion (stringAt u) (versionList u)=some version := by
  dsimp only [foundVersion,crdVersion]
  cases versionList u with
  | nil => exact required_eq_ok_iff versionMessage u ["spec","version"] version
  | cons first versions =>
    dsimp only
    rw [servedVersion_eq]
    cases (first::versions).find? isServed with
    | none => simp [hne.symm]
    | some served => cases hname : versionName served <;> simp [hname]

/-- The search for a version panics at a nameless served version only. -/
theorem foundVersion_eq_panic_iff (u : Unstructured) :
    foundVersion u=.error .panic ↔ NamelessServed (versionList u) := by
  dsimp only [foundVersion,NamelessServed]
  cases versionList u with
  | nil =>
    have hrequired := required_ne_panic versionMessage
      (u.nestedString ["spec","version"])
    simp [hrequired]
  | cons first versions =>
    dsimp only
    rw [servedVersion_eq]
    cases (first::versions).find? isServed with
    | none => simp
    | some served => cases hname : versionName served <;> simp [hname]

/-- The version decoder returns the version of the CRD if it is not empty. -/
theorem versionFromUnstructured_eq_ok_iff (u : Unstructured) (version : String) :
    versionFromUnstructured u=.ok version ↔ crdVersion (stringAt u) (versionList u)=some version ∧ version≠"" := by
  rw [versionFromUnstructured_eq,bind_eq_ok]
  constructor
  · intro hp
    rcases hp with ⟨found,hfound,hcheck⟩
    by_cases hempty : found=""
    · rw [if_pos hempty] at hcheck
      cases hcheck
    · rw [if_neg hempty] at hcheck
      cases hcheck
      exact ⟨(foundVersion_eq_ok_iff u hempty).mp hfound,hempty⟩
  · intro hp
    rcases hp with ⟨hversion,hne⟩
    exact ⟨version,(foundVersion_eq_ok_iff u hne).mpr hversion,if_neg hne⟩

/-- The version decoder panics at a nameless served version only. -/
theorem versionFromUnstructured_eq_panic_iff (u : Unstructured) :
    versionFromUnstructured u=.error .panic ↔ NamelessServed (versionList u) := by
  rw [versionFromUnstructured_eq,←foundVersion_eq_panic_iff]
  cases foundVersion u with
  | error exit => rfl
  | ok version => by_cases hempty : version="" <;> simp [bind,Except.bind,hempty]

/-- The decoder returns exactly what the CRD describes. -/
theorem gvrFromUnstructured_eq_ok_iff (u : Unstructured) (gvr : GroupVersionResource) :
    gvrFromUnstructured u=.ok gvr ↔ DecodesAs (stringAt u) (versionList u) gvr := by
  dsimp only [gvrFromUnstructured,groupFromUnstructured,resourceFromUnstructured]
  rw [bind_eq_ok]
  constructor
  · intro hp
    rcases hp with ⟨group,hgroup,hrest⟩
    have hrest := bind_eq_ok.mp hrest
    rcases hrest with ⟨version,hversion,hrest⟩
    have hrest := bind_eq_ok.mp hrest
    rcases hrest with ⟨resource,hresource,hvalue⟩
    cases hvalue
    have hfound := (versionFromUnstructured_eq_ok_iff u version).mp hversion
    exact ⟨(required_eq_ok_iff _ u _ group).mp hgroup,hfound.1,hfound.2,
      (required_eq_ok_iff _ u _ resource).mp hresource⟩
  · intro h
    refine ⟨gvr.group,(required_eq_ok_iff _ u _ _).mpr h.group,?_⟩
    refine bind_eq_ok.mpr ⟨gvr.version,?_,?_⟩
    · exact (versionFromUnstructured_eq_ok_iff u _).mpr ⟨h.version,h.version_ne⟩
    · exact bind_eq_ok.mpr ⟨gvr.resource,(required_eq_ok_iff _ u _ _).mpr h.resource,rfl⟩

/-- The decoder panics exactly where it gets past the group and then meets a
nameless served version. -/
theorem gvrFromUnstructured_eq_panic_iff (u : Unstructured) :
    gvrFromUnstructured u=.error .panic ↔
      stringAt u ["spec","group"]≠none ∧ NamelessServed (versionList u) := by
  dsimp only [gvrFromUnstructured]
  rw [←versionFromUnstructured_eq_panic_iff]
  cases hgroup : groupFromUnstructured u with
  | error exit =>
    have hmissing : stringAt u ["spec","group"]=none := by
      rw [Option.eq_none_iff_forall_ne_some]
      intro group hsome
      have hok : groupFromUnstructured u=.ok group := (required_eq_ok_iff _ u _ group).mpr hsome
      cases hgroup.symm.trans hok
    have hexit : exit≠.panic := by
      intro he
      rw [he] at hgroup
      exact required_ne_panic _ _ hgroup
    simp [bind,Except.bind,hmissing,hexit]
  | ok group =>
    have hfound : stringAt u ["spec","group"]=some group := (required_eq_ok_iff _ u _ group).mp hgroup
    cases hversion : versionFromUnstructured u with
    | error exit => simp [bind,Except.bind,hfound]
    | ok version =>
      have hresource : resourceFromUnstructured u≠.error .panic := required_ne_panic _ _
      cases hplural : resourceFromUnstructured u with
      | error exit =>
        rw [hplural] at hresource
        simpa [bind,Except.bind,hfound] using hresource
      | ok resource => simp [bind,Except.bind,hfound]

section Tree

variable {u : Unstructured} {tree : Json}

/-- A string is found where it stands in the tree. -/
theorem Reads.stringAt_eq (h : Reads u tree) (path : List String) :
    stringAt u path=stringIn tree path := by
  have hfound : ∀ s, stringAt u path=some s ↔ u.nestedString path=.ok (some s) := by
    intro s
    dsimp only [stringAt]
    cases u.nestedString path <;> simp
  have hstands : ∀ s, stringIn tree path=some s ↔ fieldAt tree path=some (.str s) := by
    intro s
    dsimp only [stringIn]
    cases hvalue : fieldAt tree path with
    | none => simp
    | some value => cases value <;> simp [Json.asString]
  refine Option.ext fun s => ?_
  rw [hfound,hstands]
  exact h.string path s

/-- The versions found are those of the tree. -/
theorem Reads.versionList_eq (h : Reads u tree) : versionList u=versionsIn tree := by
  have hlist := h.slice ["spec","versions"]
  dsimp only [versionList,versionsIn]
  cases hstands : (fieldAt tree ["spec","versions"]).bind Json.asArray with
  | some elems =>
    obtain ⟨value,hvalue,harray⟩ := Option.bind_eq_some_iff.mp hstands
    have helems : value=.arr elems := by
      cases value <;> simp_all [Json.asArray]
    rw [(hlist elems).mpr (by rw [hvalue,helems])]
  | none =>
    cases hfound : u.nestedSlice ["spec","versions"] with
    | error err => rfl
    | ok found =>
      cases found with
      | none => rfl
      | some elems =>
        rw [(hlist elems).mp hfound] at hstands
        cases hstands

/-- The decoder never panics and returns exactly what the tree describes. -/
def DecoderTotal (u : Unstructured) (tree : Json) : Prop :=
  gvrFromUnstructured u≠.error .panic ∧
    ∀ gvr, gvrFromUnstructured u=.ok gvr ↔ DecodesAs (stringIn tree) (versionsIn tree) gvr

/-- The decoder is total on a tree exactly when the tree has no string for a
group, or its first served version, if there is one, has a string for a name. -/
theorem decoderTotal_iff (h : Reads u tree) :
    DecoderTotal u tree ↔ stringIn tree ["spec","group"]=none ∨
      ∀ version, (versionsIn tree).find? isServed=some version → versionName version≠none := by
  have hstrings : stringAt u=stringIn tree := funext h.stringAt_eq
  have hversions : versionList u=versionsIn tree := h.versionList_eq
  have hpanic := gvrFromUnstructured_eq_panic_iff u
  have hvalue : ∀ gvr, gvrFromUnstructured u=.ok gvr ↔
      DecodesAs (stringAt u) (versionList u) gvr := gvrFromUnstructured_eq_ok_iff u
  rw [hstrings,hversions] at hpanic
  rw [hstrings,hversions] at hvalue
  have hnamed : ¬ NamelessServed (versionsIn tree) ↔
      ∀ version, (versionsIn tree).find? isServed=some version → versionName version≠none := by
    dsimp only [NamelessServed]
    push Not
    rfl
  dsimp only [DecoderTotal]
  rw [and_iff_left hvalue,ne_eq,hpanic,not_and_or,hnamed,not_ne_iff]

end Tree

/-- The documented accessor follows a path through maps, and stops where a
value on the way is none. -/
theorem nestedFieldNoCopy_eq_ok_some_iff (tree : Json) (path : List String) (value : Json) :
    nestedFieldNoCopy tree path=.ok (some value) ↔ fieldAt tree path=some value := by
  induction path generalizing tree with
  | nil => simp [nestedFieldNoCopy,fieldAt]
  | cons field rest ih =>
    cases tree with
    | obj fields =>
      dsimp only [nestedFieldNoCopy,fieldAt,Json.field]
      cases fields.lookup field with
      | none => simp
      | some val => exact ih val
    | _ => simp [nestedFieldNoCopy,fieldAt,Json.field]

/-- A typed accessor finds a value exactly where the tree has one of the type. -/
theorem nestedAs_eq_ok_some_iff {α : Type} {accept : Json → Option α} {tree : Json}
    {path : List String} {value : α} :
    nestedAs accept tree path=.ok (some value) ↔
      ∃ found, fieldAt tree path=some found ∧ accept found=some value := by
  simp only [←nestedFieldNoCopy_eq_ok_some_iff]
  dsimp only [nestedAs]
  cases nestedFieldNoCopy tree path with
  | error err => simp
  | ok found =>
    cases found with
    | none => simp
    | some val => cases haccept : accept val <;> simp [haccept]

/-- The documented accessors find what stands in the tree. -/
theorem reads_unstructured (tree : Json) : Reads (unstructured tree) tree where
  string path s := by
    change nestedAs Json.asString tree path=_ ↔ _
    rw [nestedAs_eq_ok_some_iff]
    constructor
    · rintro ⟨found,hfound,hstring⟩
      cases found <;> simp_all [Json.asString]
    · exact fun hfound => ⟨.str s,hfound,rfl⟩
  slice path elems := by
    change nestedAs Json.asArray tree path=_ ↔ _
    rw [nestedAs_eq_ok_some_iff]
    constructor
    · rintro ⟨found,hfound,hlist⟩
      cases found <;> simp_all [Json.asArray]
    · exact fun hfound => ⟨.arr elems,hfound,rfl⟩

/-- A CRD of ping sources with some versions. -/
def pingSourceTree (versions : List Json) : Json :=
  .obj [("spec",.obj [("group",.str "sources.knative.dev"),
    ("names",.obj [("plural",.str "pingsources")]),("versions",.arr versions)])]

/-- A version that is no longer served does not matter, whatever its name. -/
theorem decoderTotal_iff_servedSecond :
    DecoderTotal
      (unstructured (pingSourceTree [.obj [("served",.bool false)],
        .obj [("name",.str "v1"),("served",.bool true)]]))
      (pingSourceTree [.obj [("served",.bool false)],.obj [("name",.str "v1"),("served",.bool true)]]) := by
  refine (decoderTotal_iff (reads_unstructured _)).mpr (.inr fun version hfound => ?_)
  cases hfound
  exact Option.some_ne_none "v1"

/-- A tree with one version, which is served but has no name. -/
def namelessTree : Json := pingSourceTree [.obj [("served",.bool true)]]

/-- The CRD of this tree. -/
def namelessCRD : Unstructured := unstructured namelessTree

/-- The decoder panics on this CRD. -/
theorem namelessCRD_panics : Reads namelessCRD namelessTree ∧ ¬ DecoderTotal namelessCRD namelessTree := by
  refine ⟨reads_unstructured namelessTree,fun htotal => ?_⟩
  exact htotal.1 rfl

end KnativeMesh.Decoding
