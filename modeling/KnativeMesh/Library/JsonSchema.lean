import KnativeMesh.Library.JsonTree

/-!
# Schemas of JSON documents

The part of JSON schema that describes records: strings, arrays, maps and
objects with required and optional properties. No schema is nullable, and
objects may have further properties.
-/

namespace KnativeMesh.Library.JsonSchema

open JsonTree

/-- A schema. -/
inductive Schema where
  | string
  | array (items : Schema)
  /-- An object whose values all have one schema. -/
  | record (values : Schema)
  | object (properties : List (String×Schema)) (required : List String)

mutual

/-- A value has the type that its schema declares, down to its leaves. -/
def validates : Schema → Json → Bool
  | .string,.str _ => true
  | .array items,.arr elems => elems.all (validates items)
  | .record values,.obj fields => fields.all fun field => validates values field.2
  | .object properties required,.obj fields =>
    validatesProperties properties fields && required.all fun name => (fields.lookup name).isSome
  | _,_ => false

/-- The declared properties that are present have their declared types. -/
def validatesProperties : List (String×Schema) → List (String×Json) → Bool
  | [],_ => true
  | (name,schema)::rest,fields =>
    (match fields.lookup name with
      | some value => validates schema value
      | none => true) && validatesProperties rest fields

end

/-- Properties are validated one by one. -/
theorem validatesProperties_iff (properties : List (String×Schema)) (fields : List (String×Json)) :
    validatesProperties properties fields=true ↔
      ∀ property ∈ properties, ∀ value, fields.lookup property.1=some value →
        validates property.2 value=true := by
  induction properties with
  | nil => simp [validatesProperties]
  | cons property rest ih =>
    obtain ⟨name,schema⟩ := property
    rw [validatesProperties,Bool.and_eq_true,ih,List.forall_mem_cons]
    refine and_congr_left fun _ => ?_
    cases fields.lookup name <;> simp

/-- An object has its required properties and the declared types of all. -/
theorem validates_object_iff (properties : List (String×Schema)) (required : List String)
    (fields : List (String×Json)) :
    validates (.object properties required) (.obj fields)=true ↔
      (∀ property ∈ properties, ∀ value, fields.lookup property.1=some value →
        validates property.2 value=true) ∧
      ∀ name ∈ required, (fields.lookup name).isSome=true := by
  rw [validates,Bool.and_eq_true,validatesProperties_iff,List.all_eq_true]

/-- An array has elements of its declared type. -/
theorem validates_array_map_iff {α : Type} (items : Schema) (encode : α → Json) (xs : List α) :
    validates (.array items) (.arr (xs.map encode))=true ↔
      ∀ x ∈ xs, validates items (encode x)=true := by
  rw [validates,List.all_eq_true,List.forall_mem_map]

/-- An array of texts is an array of strings. -/
theorem validates_strings (elems : List String) :
    validates (.array .string) (.arr (elems.map .str))=true := by
  rw [validates_array_map_iff]
  exact fun _ _ => rfl

/-- An object of texts is a map of strings. -/
theorem validates_record_map {α : Type} (key text : α → String) (xs : List α) :
    validates (.record .string) (.obj (xs.map fun x => (key x,.str (text x))))=true := by
  rw [validates,List.all_eq_true,List.forall_mem_map]
  exact fun _ _ => rfl

end KnativeMesh.Library.JsonSchema
