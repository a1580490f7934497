import KnativeMesh.UnstructuredObject
import KnativeMesh.Mesh
import KnativeMesh.Provider

/-!
# The wire format between backend and provider

The backend encodes its structures by their JSON tags, the provider reads the
fields it declares. The two declarations are separate; a document of the
backend is read back field by field, where a null reads like a missing field.
-/

namespace KnativeMesh.Wire

open Go GoJson Library.JsonTree UnstructuredObject Mesh

/-- The document of a resource reference. -/
def encodeReference (gknn : GroupKindNamespacedName) : Json :=
  .obj [("group",.str gknn.group),("kind",.str gknn.kind),("name",.str gknn.name),
    ("namespace",.str gknn.nameSpace)]

/-- The document of a broker. -/
def encodeBroker (br : Broker) : Json :=
  .obj [("annotations",encodeStringMap br.annotations),("labels",encodeStringMap br.labels),
    ("name",.str br.name),("namespace",.str br.nameSpace),
    ("providedEventTypes",encodeStrings br.providedEventTypes),("uid",.str br.uid)]

/-- The document of an event type. -/
def encodeEventType (et : EventType) : Json :=
  .obj ([("annotations",encodeStringMap et.annotations),("consumedBy",encodeStrings et.consumedBy)]++
    omitEmpty "description" .str et.description++
    [("labels",encodeStringMap et.labels),("name",.str et.name),("namespace",.str et.nameSpace)]++
    omitEmpty "reference" encodeReference et.reference++
    omitEmpty "schemaData" .str et.schemaData++
    omitEmpty "schemaURL" .str et.schemaURL++
    [("type",.str et.type),("uid",.str et.uid)])

/-- The document of a source. -/
def encodeSource (source : Source) : Json :=
  .obj ([("annotations",encodeStringMap source.annotations),("group",.str source.group),
      ("kind",.str source.kind),("labels",encodeStringMap source.labels),("name",.str source.name),
      ("namespace",.str source.nameSpace),
      ("providedEventTypeTypes",encodeStrings source.providedEventTypeTypes),
      ("providedEventTypes",encodeStrings source.providedEventTypes)]++
    omitEmpty "sink" encodeReference source.sink++
    [("uid",.str source.uid)])

/-- The document of a subscribable. -/
def encodeSubscribable (s : Subscribable) : Json :=
  .obj [("annotations",encodeStringMap s.annotations),("group",.str s.group),("kind",.str s.kind),
    ("labels",encodeStringMap s.labels),("name",.str s.name),("namespace",.str s.nameSpace),
    ("providedEventTypes",encodeStrings s.providedEventTypes),("uid",.str s.uid)]

/-- The document of the mesh, the body of a response with status 200. -/
def encodeMesh (mesh : EventMesh) : Json :=
  .obj [("brokers",encodeSlice encodeBroker mesh.brokers),
    ("eventTypes",encodeSlice encodeEventType mesh.eventTypes),
    ("sources",encodeSlice encodeSource mesh.sources),
    ("subscribables",encodeSlice encodeSubscribable mesh.subscribables)]

/-- A field of the declared type. -/
def requiredField {α : Type} (name : String) (accept : Json → Option α) (json : Json) : Option α :=
  (json.field name).bind accept

/-- An optional field; null reads like a missing one. -/
def optionalField {α : Type} (name : String) (accept : Json → Option α) (json : Json) :
    Option (Option α) :=
  match json.field name with
  | none => some none
  | some .null => some none
  | some value => (accept value).map some

/-- A Record<string, string>. -/
def asRecord : Json → Option Provider.StringRecord := stringMapOf Json.asString

/-- A string[]. -/
def asStrings (json : Json) : Option (List String) := json.asArray.bind (·.mapM Json.asString)

/-- An array of documents that are read one by one. -/
def asArrayOf {α : Type} (decode : Json → Option α) (json : Json) : Option (List α) :=
  json.asArray.bind (·.mapM decode)

/-- Read an event type. -/
def decodeEventType (json : Json) : Option Provider.EventType := do
  let name ← requiredField "name" Json.asString json
  let nameSpace ← requiredField "namespace" Json.asString json
  let type ← requiredField "type" Json.asString json
  let uid ← requiredField "uid" Json.asString json
  let description ← optionalField "description" Json.asString json
  let schemaData ← optionalField "schemaData" Json.asString json
  let schemaURL ← optionalField "schemaURL" Json.asString json
  let labels ← optionalField "labels" asRecord json
  let annotations ← optionalField "annotations" asRecord json
  let consumedBy ← optionalField "consumedBy" asStrings json
  some ⟨name,nameSpace,type,uid,description,schemaData,schemaURL,labels,annotations,consumedBy⟩

/-- Read a broker. -/
def decodeBroker (json : Json) : Option Provider.Broker := do
  let name ← requiredField "name" Json.asString json
  let nameSpace ← requiredField "namespace" Json.asString json
  let uid ← requiredField "uid" Json.asString json
  let labels ← optionalField "labels" asRecord json
  let annotations ← optionalField "annotations" asRecord json
  let providedEventTypes ← optionalField "providedEventTypes" asStrings json
  some ⟨name,nameSpace,uid,labels,annotations,providedEventTypes⟩

/-- Read a subscribable. -/
def decodeSubscribable (json : Json) : Option Provider.Subscribable := do
  let name ← requiredField "name" Json.asString json
  let nameSpace ← requiredField "namespace" Json.asString json
  let uid ← requiredField "uid" Json.asString json
  let labels ← optionalField "labels" asRecord json
  let annotations ← optionalField "annotations" asRecord json
  let group ← requiredField "group" Json.asString json
  let kind ← requiredField "kind" Json.asString json
  let providedEventTypes ← optionalField "providedEventTypes" asStrings json
  some ⟨name,nameSpace,uid,labels,annotations,group,kind,providedEventTypes⟩

/-- Read a source. -/
def decodeSource (json : Json) : Option Provider.Source := do
  let name ← requiredField "name" Json.asString json
  let nameSpace ← requiredField "namespace" Json.asString json
  let uid ← requiredField "uid" Json.asString json
  let labels ← optionalField "labels" asRecord json
  let annotations ← optionalField "annotations" asRecord json
  let group ← requiredField "group" Json.asString json
  let kind ← requiredField "kind" Json.asString json
  let providedEventTypes ← optionalField "providedEventTypes" asStrings json
  some ⟨name,nameSpace,uid,labels,annotations,group,kind,providedEventTypes⟩

/-- Read the mesh; a list that is missing or null cannot be ranged over. -/
def decodeMesh (json : Json) : Option Provider.EventMesh := do
  let eventTypes ← requiredField "eventTypes" (asArrayOf decodeEventType) json
  let brokers ← requiredField "brokers" (asArrayOf decodeBroker) json
  let subscribables ← requiredField "subscribables" (asArrayOf decodeSubscribable) json
  let sources ← requiredField "sources" (asArrayOf decodeSource) json
  some ⟨eventTypes,brokers,subscribables,sources⟩

/-- What the provider sees of a slice of strings. -/
def receivedStrings : Slice String → Option (List String)
  | .nil => none
  | .of elems => some elems

/-- What the provider sees of an event type. -/
def receivedEventType (et : EventType) : Provider.EventType :=
  ⟨et.name,et.nameSpace,et.type,et.uid,et.description,et.schemaData,et.schemaURL,et.labels,
    et.annotations,receivedStrings et.consumedBy⟩

/-- What the provider sees of a broker. -/
def receivedBroker (br : Broker) : Provider.Broker :=
  ⟨br.name,br.nameSpace,br.uid,br.labels,br.annotations,receivedStrings br.providedEventTypes⟩

/-- What the provider sees of a subscribable. -/
def receivedSubscribable (s : Subscribable) : Provider.Subscribable :=
  ⟨s.name,s.nameSpace,s.uid,s.labels,s.annotations,s.group,s.kind,
    receivedStrings s.providedEventTypes⟩

/-- What the provider sees of a source. -/
def receivedSource (source : Source) : Provider.Source :=
  ⟨source.name,source.nameSpace,source.uid,source.labels,source.annotations,source.group,source.kind,
    receivedStrings source.providedEventTypes⟩

/-- Reading each of some written elements reads the whole list. -/
theorem mapM_map {α β γ : Type} {encode : α → β} {decode : β → Option γ} {received : α → γ}
    (h : ∀ x, decode (encode x)=some (received x)) (xs : List α) :
    (xs.map encode).mapM decode=some (xs.map received) := by
  induction xs with
  | nil => rfl
  | cons x xs ih => simp [h,ih]

/-- A map is determined by its list of entries. -/
theorem ofList_toList (m : GoMap String) : Std.ExtTreeMap.ofList m.toList=m := by
  apply Std.ExtTreeMap.ext_getElem?
  intro key
  cases hk : m[key]? with
  | none =>
    apply Std.ExtTreeMap.getElem?_ofList_of_contains_eq_false
    have hnot : key ∉ m := by simpa using hk
    rw [Std.ExtTreeMap.map_fst_toList_eq_keys,Bool.eq_false_iff,ne_eq,List.contains_iff_mem,
      Std.ExtTreeMap.mem_keys]
    exact hnot
  | some value =>
    have hmem := Std.ExtTreeMap.mem_toList_iff_getElem?_eq_some.mpr hk
    exact Std.ExtTreeMap.getElem?_ofList_of_mem Std.ReflCmp.compare_self
      Std.ExtTreeMap.distinct_keys_toList hmem

/-- A written map is read back as it was. -/
theorem asRecord_mapFields (m : GoMap String) : asRecord (.obj (mapFields m))=some m := by
  have hentries : (mapFields m).mapM (fun entry => (entry.2.asString).map (entry.1,·))=
      some (m.toList.map id) :=
    @mapM_map _ _ _ (fun entry : String×String => (entry.1,Json.str entry.2)) _ id (fun _ => rfl) m.toList
  dsimp only [asRecord,stringMapOf]
  rw [hentries,List.map_id,Option.map_some,ofList_toList]

/-- Written strings are read back as they were. -/
theorem asStrings_map (elems : List String) : asStrings (.arr (elems.map .str))=some elems := by
  have helems : (elems.map Json.str).mapM Json.asString=some (elems.map id) :=
    @mapM_map _ _ _ Json.str _ id (fun _ => rfl) elems
  rw [List.map_id] at helems
  exact helems

/-- An optional map that is nil is written as null, and read as missing. -/
theorem optionalField_stringMap {json : Json} {name : String} {m : StringMap}
    (h : json.field name=some (encodeStringMap m)) : optionalField name asRecord json=some m := by
  dsimp only [optionalField]
  rw [h]
  cases m with
  | none => rfl
  | some m =>
    change (asRecord (.obj (mapFields m))).map some=_
    rw [asRecord_mapFields,Option.map_some]

/-- A slice of strings that is nil is written as null, and read as missing. -/
theorem optionalField_strings {json : Json} {name : String} {slice : Slice String}
    (h : json.field name=some (encodeStrings slice)) :
    optionalField name asStrings json=some (receivedStrings slice) := by
  dsimp only [optionalField]
  rw [h]
  cases slice with
  | nil => rfl
  | of elems =>
    change (asStrings (.arr (elems.map .str))).map some=_
    rw [asStrings_map,Option.map_some]
    rfl

/-- An omitempty pointer to a string is read back, missing where it is nil. -/
theorem optionalField_string {json : Json} {name : String} {value : Option String}
    (h : json.field name=value.map .str) : optionalField name Json.asString json=some value := by
  dsimp only [optionalField]
  rw [h]
  cases value <;> rfl

/-- Brokers are read back field by field. -/
theorem decodeBroker_encodeBroker (br : Broker) :
    decodeBroker (encodeBroker br)=some (receivedBroker br) := by
  have hlabels : optionalField "labels" asRecord (encodeBroker br)=some br.labels :=
    optionalField_stringMap rfl
  have hannotations : optionalField "annotations" asRecord (encodeBroker br)=some br.annotations :=
    optionalField_stringMap rfl
  have hprovided := @optionalField_strings (encodeBroker br) "providedEventTypes" _ rfl
  dsimp only [decodeBroker]
  rw [hlabels,hannotations,hprovided]
  rfl

/-- Subscribables are read back field by field. -/
theorem decodeSubscribable_encodeSubscribable (s : Subscribable) :
    decodeSubscribable (encodeSubscribable s)=some (receivedSubscribable s) := by
  have hlabels : optionalField "labels" asRecord (encodeSubscribable s)=some s.labels :=
    optionalField_stringMap rfl
  have hannotations : optionalField "annotations" asRecord (encodeSubscribable s)=some s.annotations :=
    optionalField_stringMap rfl
  have hprovided := @optionalField_strings (encodeSubscribable s) "providedEventTypes" _ rfl
  dsimp only [decodeSubscribable]
  rw [hlabels,hannotations,hprovided]
  rfl

/-- Sources are read back field by field, with a sink or without. -/
theorem decodeSource_encodeSource (source : Source) :
    decodeSource (encodeSource source)=some (receivedSource source) := by
  have hlabels : optionalField "labels" asRecord (encodeSource source)=some source.labels :=
    optionalField_stringMap rfl
  have hannotations : optionalField "annotations" asRecord (encodeSource source)=
      some source.annotations := optionalField_stringMap rfl
  have hprovided := @optionalField_strings (encodeSource source) "providedEventTypes" _ rfl
  have huid : requiredField "uid" Json.asString (encodeSource source)=some source.uid := by
    dsimp only [encodeSource]
    cases source.sink <;> rfl
  dsimp only [decodeSource]
  rw [hlabels,hannotations,hprovided,huid]
  rfl

/-- Looking a key up past an omitempty field finds the field under its own
name, if its pointer is not nil. -/
theorem lookup_omitEmpty {α : Type} (name key : String) (encode : α → Json) (value : Option α)
    (rest : List (String×Json)) :
    (omitEmpty name encode value++rest).lookup key=
      if key=name then (value.map encode).or (rest.lookup key) else rest.lookup key := by
  cases value with
  | none => simp [omitEmpty]
  | some value =>
    change ((name,encode value)::rest).lookup key=_
    rw [lookup_field]
    by_cases hk : key=name <;> simp [hk]

/-- The fields of an event type's document, by name. -/
theorem field_encodeEventType (et : EventType) (name : String) :
    (encodeEventType et).field name=
      if name="annotations" then some (encodeStringMap et.annotations)
      else if name="consumedBy" then some (encodeStrings et.consumedBy)
      else if name="description" then et.description.map .str
      else if name="labels" then some (encodeStringMap et.labels)
      else if name="name" then some (.str et.name)
      else if name="namespace" then some (.str et.nameSpace)
      else if name="reference" then et.reference.map encodeReference
      else if name="schemaData" then et.schemaData.map .str
      else if name="schemaURL" then et.schemaURL.map .str
      else if name="type" then some (.str et.type)
      else if name="uid" then some (.str et.uid)
      else none := by
  simp only [encodeEventType,Json.field,List.append_assoc,List.cons_append,List.nil_append,
    lookup_field,lookup_omitEmpty,List.lookup_nil]
  -- only the four optional names can also be looked up behind their own fields
  by_cases hdescription : name="description"
  · subst hdescription
    simp
  · by_cases hreference : name="reference"
    · subst hreference
      simp
    · by_cases hdata : name="schemaData"
      · subst hdata
        simp
      · by_cases hurl : name="schemaURL"
        · subst hurl
          simp
        · simp only [hdescription,hreference,hdata,hurl,if_false]

/-- Event types are read back field by field, whichever pointers are nil. -/
theorem decodeEventType_encodeEventType (et : EventType) :
    decodeEventType (encodeEventType et)=some (receivedEventType et) := by
  have hname : requiredField "name" Json.asString (encodeEventType et)=some et.name := by
    simp [requiredField,field_encodeEventType]
  have hns : requiredField "namespace" Json.asString (encodeEventType et)=some et.nameSpace := by
    simp [requiredField,field_encodeEventType]
  have htype : requiredField "type" Json.asString (encodeEventType et)=some et.type := by
    simp [requiredField,field_encodeEventType]
  have huid : requiredField "uid" Json.asString (encodeEventType et)=some et.uid := by
    simp [requiredField,field_encodeEventType]
  have hdescription : optionalField "description" Json.asString (encodeEventType et)=
      some et.description := optionalField_string (by simp [field_encodeEventType])
  have hschemaData : optionalField "schemaData" Json.asString (encodeEventType et)=
      some et.schemaData := optionalField_string (by simp [field_encodeEventType])
  have hschemaURL : optionalField "schemaURL" Json.asString (encodeEventType et)=
      some et.schemaURL := optionalField_string (by simp [field_encodeEventType])
  have hlabels : optionalField "labels" asRecord (encodeEventType et)=some et.labels :=
    optionalField_stringMap (by simp [field_encodeEventType])
  have hannotations : optionalField "annotations" asRecord (encodeEventType et)=some et.annotations :=
    optionalField_stringMap (by simp [field_encodeEventType])
  have hconsumedBy : optionalField "consumedBy" asStrings (encodeEventType et)=
      some (receivedStrings et.consumedBy) := optionalField_strings (by simp [field_encodeEventType])
  dsimp only [decodeEventType]
  rw [hname,hns,htype,huid,hdescription,hschemaData,hschemaURL,hlabels,hannotations,hconsumedBy]
  rfl

/-- A written list of documents is read back one by one. -/
theorem asArrayOf_map {α β : Type} {encode : α → Json} {decode : Json → Option β} {received : α → β}
    (h : ∀ x, decode (encode x)=some (received x)) (xs : List α) :
    asArrayOf decode (.arr (xs.map encode))=some (xs.map received) := mapM_map h xs

/-- A mesh whose lists are not nil is read back resource by resource. -/
theorem decodeMesh_encodeMesh (eventTypes : List EventType) (brokers : List Broker)
    (sources : List Source) (subscribables : List Subscribable) :
    decodeMesh (encodeMesh ⟨.of brokers,.of eventTypes,.of sources,.of subscribables⟩)=
      some ⟨eventTypes.map receivedEventType,brokers.map receivedBroker,
        subscribables.map receivedSubscribable,sources.map receivedSource⟩ := by
  have heventTypes := asArrayOf_map decodeEventType_encodeEventType eventTypes
  have hbrokers := asArrayOf_map decodeBroker_encodeBroker brokers
  have hsubscribables := asArrayOf_map decodeSubscribable_encodeSubscribable subscribables
  have hsources := asArrayOf_map decodeSource_encodeSource sources
  dsimp only [decodeMesh]
  change ((asArrayOf decodeEventType (.arr (eventTypes.map encodeEventType))).bind fun _ => _)=_
  rw [heventTypes,Option.bind_some]
  change ((asArrayOf decodeBroker (.arr (brokers.map encodeBroker))).bind fun _ => _)=_
  rw [hbrokers,Option.bind_some]
  change ((asArrayOf decodeSubscribable
    (.arr (subscribables.map encodeSubscribable))).bind fun _ => _)=_
  rw [hsubscribables,Option.bind_some]
  change ((asArrayOf decodeSource (.arr (sources.map encodeSource))).bind fun _ => _)=_
  rw [hsources,Option.bind_some]

end KnativeMesh.Wire
