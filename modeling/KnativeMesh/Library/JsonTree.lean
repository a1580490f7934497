import Mathlib.Data.List.Basic

/-!
# JSON trees

Decoded JSON documents with the fields of an object in document order, and
the accessors that readers of a document use.
-/

namespace KnativeMesh.Library.JsonTree

/-- A JSON value; numbers are a mantissa and a decimal exponent. -/
inductive Json where
  | null
  | bool (value : Bool)
  | num (mantissa exponent : Int)
  | str (value : String)
  | arr (elems : List Json)
  | obj (fields : List (String×Json))

namespace Json

/-- The value of an object's field; absent in every other value. -/
def field (json : Json) (name : String) : Option Json :=
  match json with
  | obj fields => fields.lookup name
  | _ => none

/-- The text of a string value. -/
def asString : Json → Option String
  | str value => some value
  | _ => none

/-- The elements of an array. -/
def asArray : Json → Option (List Json)
  | arr elems => some elems
  | _ => none

@[simp] theorem asString_str (value : String) : (str value).asString=some value := rfl

end Json

/-- Looking a field up goes through the fields in order. -/
theorem lookup_field (name key : String) (value : Json) (rest : List (String×Json)) :
    ((name,value)::rest).lookup key=if key=name then some value else rest.lookup key := by
  rw [List.lookup_cons]
  by_cases hk : key=name
  · simp [hk]
  · have hb : (key==name)=false := beq_eq_false_iff_ne.mpr hk
    simp only [hb,hk,if_false]

end KnativeMesh.Library.JsonTree
