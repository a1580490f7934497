import KnativeMesh.ClusterContents

/-!
# What converted references denote

A Kubernetes reference denotes an object by API version, kind, name and an
optional namespace. The converters parse the API version on their own and put
every object into the namespace of the owner. Converted references are compared
with the objects that the Kubernetes parser gives for the same references.
-/

namespace KnativeMesh.References

open Go Library.JsonTree UnstructuredObject Kubernetes Apimachinery Mesh Converters ClusterContents

/-- The object that a reference of an owner in a namespace denotes. -/
def denoted (lib : Libraries) (owner : String) (ref : KReference) : GroupKindNamespacedName :=
  { group := (lib.fromAPIVersionAndKind ref.apiVersion ref.kind).group, kind := ref.kind
    nameSpace := if ref.nameSpace="" then owner else ref.nameSpace, name := ref.name }

/-- The object that the converters write down for it. -/
def converted (owner : String) (ref : KReference) : GroupKindNamespacedName :=
  ⟨apiVersionToGroup ref.apiVersion,ref.kind,owner,ref.name⟩

/-- The reference under spec.sink.ref, if it is a map of strings with API
version, kind and name. -/
def sinkReference (u : Unstructured) : Option KReference :=
  match u.nestedStringMap ["spec","sink","ref"] with
  | .ok (some stringMap) => do
    let apiVersion ← stringMap["apiVersion"]?
    let kind ← stringMap["kind"]?
    let name ← stringMap["name"]?
    some ⟨kind,(stringMap["namespace"]?).getD "",name,apiVersion⟩
  | _ => none

/-- The reference of an event type is converted in the owner's namespace. -/
theorem convertEventType_reference (et : EventTypeResource) :
    (convertEventType et).reference=et.spec.reference.map (converted et.objectMeta.nameSpace) := rfl

/-- The sink of a source is converted in the owner's namespace. -/
theorem getSinkRef_eq (u : Unstructured) :
    getSinkRef u=(sinkReference u).map (converted u.getNamespace) := by
  dsimp only [getSinkRef,sinkReference]
  cases u.nestedStringMap ["spec","sink","ref"] with
  | error err => rfl
  | ok found =>
    cases found with
    | none => rfl
    | some stringMap =>
      dsimp only
      cases stringMap["apiVersion"]? with
      | none => rfl
      | some apiVersion =>
        cases stringMap["kind"]? with
        | none => rfl
        | some kind => cases stringMap["name"]? <;> rfl

/-- An API version with exactly one slash, or with nothing before its first
slash or its end. -/
def PlainGroup (apiVersion : String) : Prop :=
  apiVersion.toList.count '/'=1 ∨ ∀ c ∈ apiVersion.toList.head?, c= '/'

instance (apiVersion : String) : Decidable (PlainGroup apiVersion) := by
  dsimp only [PlainGroup]
  infer_instance

/-- What stands before the first slash is empty where the text starts with it. -/
theorem take_idxOf_eq_nil_iff {text : List Char} (h : '/' ∈ text) :
    text.take (text.idxOf '/')=[] ↔ ∀ c ∈ text.head?, c= '/' := by
  cases text with
  | nil => exact absurd h List.not_mem_nil
  | cons c text =>
    by_cases hc : c= '/'
    · simp [hc]
    · simp [hc]

/-- The Kubernetes parser finds a group before the only slash, and the core
group where there is not exactly one. -/
theorem fromAPIVersionAndKind_group {lib : Libraries} (hparse : lib.GroupLaws)
    (apiVersion kind : String) :
    (lib.fromAPIVersionAndKind apiVersion kind).group=
      if apiVersion.toList.count '/'=1 then
        String.ofList (apiVersion.toList.take (apiVersion.toList.idxOf '/')) else "" := by
  by_cases hone : apiVersion.toList.count '/'=1
  · rw [if_pos hone]
    have hmem : '/' ∈ apiVersion.toList := List.count_pos_iff.mp (by omega)
    obtain ⟨group,version,htext,hgroup⟩ := List.eq_append_cons_of_mem hmem
    have hversion : '/' ∉ version := by
      rw [htext,List.count_append,List.count_cons_self,List.count_eq_zero.mpr hgroup] at hone
      exact List.count_eq_zero.mp (by omega)
    have hindex : apiVersion.toList.idxOf '/'=group.length := by
      rw [htext,List.idxOf_append_of_notMem hgroup,List.idxOf_cons_self,Nat.add_zero]
    have hapiVersion : apiVersion=String.ofList group++"/"++String.ofList version := by
      apply String.toList_inj.mp
      have hslash : "/".toList=['/'] := rfl
      rw [htext,String.toList_append,String.toList_append,hslash,String.toList_ofList,
        String.toList_ofList,List.append_assoc,List.singleton_append]
    rw [hindex,htext,List.take_left,hapiVersion]
    exact hparse.group_slash _ _ kind (by rwa [String.toList_ofList])
      (by rwa [String.toList_ofList])
  · rw [if_neg hone]
    exact hparse.core_group apiVersion kind hone

/-- The two parsers find the same group exactly for plain groups: without a
slash the code takes the version for the group, and with several slashes it
takes the first part. -/
theorem apiVersionToGroup_eq_iff {lib : Libraries} (hparse : lib.GroupLaws)
    (apiVersion kind : String) :
    apiVersionToGroup apiVersion=(lib.fromAPIVersionAndKind apiVersion kind).group ↔
      PlainGroup apiVersion := by
  rw [fromAPIVersionAndKind_group hparse]
  dsimp only [apiVersionToGroup,PlainGroup]
  by_cases hslash : '/' ∈ apiVersion.toList
  · rw [if_neg (not_not_intro hslash)]
    by_cases hone : apiVersion.toList.count '/'=1
    · simp [hone]
    · rw [if_neg hone,String.ofList_eq_empty_iff,take_idxOf_eq_nil_iff hslash]
      simp [hone]
  · have hzero : apiVersion.toList.count '/'=0 := List.count_eq_zero.mpr hslash
    have hne : ¬ apiVersion.toList.count '/'=1 := by omega
    rw [if_pos hslash,if_neg hne,or_iff_right hne,←String.toList_eq_nil_iff]
    constructor
    · intro hnil c hc
      rw [hnil] at hc
      cases hc
    · intro hhead
      cases hl : apiVersion.toList with
      | nil => rfl
      | cons c rest =>
        have hc : c= '/' := hhead c (by rw [hl]; rfl)
        rw [hl,hc] at hslash
        exact absurd List.mem_cons_self hslash

/-- The reference has a plain group and stays in the namespace of its owner. -/
def Plain (owner : String) (ref : KReference) : Prop :=
  PlainGroup ref.apiVersion ∧ (ref.nameSpace="" ∨ ref.nameSpace=owner)

instance (owner : String) (ref : KReference) : Decidable (Plain owner ref) :=
  inferInstanceAs (Decidable (_ ∧ _))

/-- A plain reference is converted into the object that it denotes, and no
other reference is. -/
theorem converted_eq_denoted_iff {lib : Libraries} (hparse : lib.GroupLaws) (owner : String)
    (ref : KReference) : converted owner ref=denoted lib owner ref ↔ Plain owner ref := by
  have hns : owner=(if ref.nameSpace="" then owner else ref.nameSpace) ↔
      ref.nameSpace="" ∨ ref.nameSpace=owner := by
    by_cases hempty : ref.nameSpace=""
    · simp [hempty]
    · rw [if_neg hempty,or_iff_right hempty]
      exact eq_comm
  dsimp only [converted,denoted,Plain]
  rw [GroupKindNamespacedName.mk.injEq,apiVersionToGroup_eq_iff hparse,hns]
  simp

/-- Converting optional references denotes what they denote exactly if the
reference, where there is one, is plain. -/
theorem map_converted_eq_iff {lib : Libraries} (hparse : lib.GroupLaws) (owner : String)
    (ref : Option KReference) :
    ref.map (converted owner)=ref.map (denoted lib owner) ↔ ∀ r ∈ ref, Plain owner r := by
  cases ref with
  | none => simp
  | some r =>
    rw [Option.map_some,Option.map_some,Option.some.injEq,converted_eq_denoted_iff hparse]
    simp

/-- The reference of an event type and the sink of a source denote what the
Kubernetes references denote exactly if these references are plain. -/
theorem references_denote_iff {lib : Libraries} (hparse : lib.GroupLaws) (et : EventTypeResource)
    (u : Unstructured) :
    ((convertEventType et).reference=
        et.spec.reference.map (denoted lib et.objectMeta.nameSpace) ↔
      ∀ ref ∈ et.spec.reference, Plain et.objectMeta.nameSpace ref) ∧
    (getSinkRef u=(sinkReference u).map (denoted lib u.getNamespace) ↔
      ∀ ref ∈ sinkReference u, Plain u.getNamespace ref) := by
  rw [convertEventType_reference,getSinkRef_eq]
  exact ⟨map_converted_eq_iff hparse _ _,map_converted_eq_iff hparse _ _⟩

/-- A source with a sink in some namespace. -/
def pingSource (sinkNamespace : String) : Unstructured :=
  unstructured (.obj [("kind",.str "PingSource"),
    ("metadata",.obj [("namespace",.str "shop"),("name",.str "tick")]),
    ("spec",.obj [("sink",.obj [("ref",.obj
      [("apiVersion",.str "eventing.knative.dev/v1"),("kind",.str "Broker"),
        ("namespace",.str sinkNamespace),("name",.str "main")])])])])

/-- The broker of an event type and the sink of a source are found where they
are in the namespace of the owner. -/
theorem references_denote_iff_shop :
    (convertEventType (bareEventType "shop" "order" "shop.order"
        (some ⟨"Broker","","main","eventing.knative.dev/v1"⟩))).reference=
      some ⟨"eventing.knative.dev","Broker","shop","main"⟩ ∧
    getSinkRef (pingSource "shop")=
      (sinkReference (pingSource "shop")).map (denoted (librariesWith []) "shop") :=
  ⟨((references_denote_iff (librariesWith_groupLaws []) (bareEventType "shop" "order" "shop.order"
      (some ⟨"Broker","","main","eventing.knative.dev/v1"⟩)) (pingSource "shop")).1.mpr
        (by decide)).trans (by decide),
    (references_denote_iff (librariesWith_groupLaws []) (bareEventType "shop" "order" "shop.order"
      none) (pingSource "shop")).2.mpr (by decide)⟩

/-- An event type that refers to a service of the core group. -/
def serviceEventType : EventTypeResource :=
  bareEventType "shop" "refund" "shop.refund" (some ⟨"Service","shop","ledger","v1"⟩)

/-- The service is put into a group "v1", and the broker into the namespace of
the source. Neither reference denotes that. -/
theorem references_misdenote :
    ((convertEventType serviceEventType).reference=some ⟨"v1","Service","shop","ledger"⟩ ∧
      (convertEventType serviceEventType).reference≠
        serviceEventType.spec.reference.map
          (denoted (librariesWith []) serviceEventType.objectMeta.nameSpace)) ∧
    getSinkRef (pingSource "infra")=some ⟨"eventing.knative.dev","Broker","shop","main"⟩ ∧
      getSinkRef (pingSource "infra")≠
        (sinkReference (pingSource "infra")).map
          (denoted (librariesWith []) (pingSource "infra").getNamespace) := by
  decide

end KnativeMesh.References
