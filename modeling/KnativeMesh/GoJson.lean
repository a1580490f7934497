import KnativeMesh.Go
import KnativeMesh.Library.JsonTree

/-!
# JSON as encoding/json writes it

Encoders follow the struct tags of encoding/json: nil maps and nil slices
become null, and an omitempty nil pointer leaves its field out. An object whose
values are all of one kind reads back as a map.
-/

namespace KnativeMesh.GoJson

open Go Library.JsonTree

/-- The fields of an encoded map, in the key order encoding/json writes. -/
def mapFields (m : GoMap String) : List (String×Json) :=
  m.toList.map fun entry => (entry.1,Json.str entry.2)

/-- Encoding of map[string]string: nil becomes null. -/
def encodeStringMap : StringMap → Json
  | none => .null
  | some m => .obj (mapFields m)

/-- Encoding of []string: nil becomes null. -/
def encodeStrings : Slice String → Json
  | .nil => .null
  | .of elems => .arr (elems.map .str)

/-- Encoding of a struct slice: nil becomes null. -/
def encodeSlice {α : Type} (encode : α → Json) : Slice α → Json
  | .nil => .null
  | .of elems => .arr (elems.map encode)

/-- An omitempty pointer field: left out when the pointer is nil. -/
def omitEmpty {α : Type} (name : String) (encode : α → Json) : Option α → List (String×Json)
  | none => []
  | some value => [(name,encode value)]

/-- A map whose values all convert to strings, otherwise nothing. -/
def stringMapOf (convert : Json → Option String) : Json → Option (GoMap String)
  | .obj fields =>
    (fields.mapM fun entry => (convert entry.2).map (entry.1,·)).map (Std.ExtTreeMap.ofList ·)
  | _ => none

end KnativeMesh.GoJson
