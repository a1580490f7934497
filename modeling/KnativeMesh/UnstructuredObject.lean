import KnativeMesh.GoJson

/-!
# Unstructured Kubernetes objects

The decoder of util.go that finds the resource a CRD defines. An unstructured
object is known by what the accessors of apimachinery's unstructured package
return of it: the backend looks at an object in no other way, and the package
is not part of the repository. An accessor of a nested field either fails, finds
nothing, or finds a value. The version decoder contains an unguarded type
assertion, so it can also panic.
-/

namespace KnativeMesh.UnstructuredObject

open Go GoJson Library.JsonTree

/-- An unstructured object, given by the results of the accessors. -/
structure Unstructured where
  /-- unstructured.NestedString of the Object map. -/
  nestedString : (fields : List String) → Except GoError (Option String)
  /-- unstructured.NestedSlice of the Object map. -/
  nestedSlice : (fields : List String) → Except GoError (Option (List Json))
  /-- unstructured.NestedStringMap of the Object map. -/
  nestedStringMap : (fields : List String) → Except GoError (Option (GoMap String))
  /-- The namespace, or the empty string. -/
  getNamespace : String
  /-- The name, or the empty string. -/
  getName : String
  /-- The identifier, or the empty string. -/
  getUID : String
  /-- The kind, or the empty string. -/
  getKind : String
  /-- The labels, or nil. -/
  getLabels : StringMap
  /-- The annotations, or nil. -/
  getAnnotations : StringMap

/-- A resource of the API: group, version and plural name. -/
structure GroupVersionResource where
  /-- API group, empty for the core group. -/
  group : String
  /-- API version. -/
  version : String
  /-- Plural resource name. -/
  resource : String
  deriving DecidableEq

/-- The tail of the three field decoders: a missing value and an accessor
error both become an error with the decoder's message. -/
def required (message : String) : Except GoError (Option String) → Result String
  | .ok (some value) => .ok value
  | .ok none => .error (.error (errorf message none))
  | .error err => .error (.error (errorf message (some err)))

/-- spec.group of a CRD. -/
def groupFromUnstructured (u : Unstructured) : Result String :=
  required "can't find source kind from source CRD" (u.nestedString ["spec","group"])

/-- Name of the first served version in spec.versions, or the empty string.
The name is asserted to be a string without a check. -/
def servedVersion : List Json → Result String
  | [] => .ok ""
  | version::rest =>
    match version with
    | .obj vmap =>
      match vmap.lookup "served" with
      | some (.bool true) =>
        match vmap.lookup "name" with
        | some (.str name) => .ok name
        | _ => .error .panic
      | _ => servedVersion rest
    | _ => servedVersion rest

/-- The error text of versionFromUnstructured. -/
def versionMessage : String := "can't find source version from source CRD"

/-- The version of a CRD: its first served one, or the legacy spec.version
where spec.versions is absent, empty or not a list. -/
def versionFromUnstructured (u : Unstructured) : Result String := do
  let version ← match u.nestedSlice ["spec","versions"] with
    | .ok (some (version::versions)) => servedVersion (version::versions)
    | _ => required versionMessage (u.nestedString ["spec","version"])
  if version="" then .error (.error (errorf versionMessage none)) else .ok version

/-- spec.names.plural of a CRD. -/
def resourceFromUnstructured (u : Unstructured) : Result String :=
  required "can't find source resource from source CRD"
    (u.nestedString ["spec","names","plural"])

/-- The resource whose instances a CRD defines. -/
def gvrFromUnstructured (u : Unstructured) : Result GroupVersionResource := do
  let group ← groupFromUnstructured u
  let version ← versionFromUnstructured u
  let resource ← resourceFromUnstructured u
  .ok ⟨group,version,resource⟩

end KnativeMesh.UnstructuredObject
