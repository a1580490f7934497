import KnativeMesh.Wire

/-!
# What the wire format keeps

Nil and empty lists, nil and empty maps, and missing and empty texts are written
differently, so that two meshes with the same document are the same mesh. What
the provider does not read, such as references and sinks, is no exception.
-/

namespace KnativeMesh.WireFidelity

open Go GoJson Library.JsonTree Mesh Wire

section General

variable {α : Type}

/-- Texts are determined by their document. -/
theorem str_injective : Function.Injective Json.str := fun _ _ h => Json.str.inj h

/-- A slice is determined by its document if its elements are. -/
theorem encodeSlice_injective {encode : α → Json} (h : Function.Injective encode) :
    Function.Injective (encodeSlice encode) := by
  intro first second hsame
  cases first with
  | nil =>
    cases second with
    | nil => rfl
    | of elems => cases hsame
  | of elems =>
    cases second with
    | nil => cases hsame
    | of elems' =>
      have helems : elems.map encode=elems'.map encode := Json.arr.inj hsame
      exact congrArg Slice.of (List.map_injective_iff.mpr h helems)

/-- Strings are determined by their document. -/
theorem encodeStrings_injective : Function.Injective encodeStrings := by
  have hslice : encodeStrings=encodeSlice Json.str := by
    funext slice
    cases slice <;> rfl
  rw [hslice]
  exact encodeSlice_injective str_injective

/-- A map is determined by its document, which lists its entries. -/
theorem encodeStringMap_injective : Function.Injective encodeStringMap := by
  intro first second hsame
  have hread : ∀ m : StringMap,
      optionalField "map" asRecord (.obj [("map",encodeStringMap m)])=some m :=
    fun m => optionalField_stringMap rfl
  have hfirst := hread first
  rw [hsame,hread second] at hfirst
  exact (Option.some.inj hfirst).symm

/-- A reference is determined by its document. -/
theorem encodeReference_injective : Function.Injective encodeReference := by
  intro first second hsame
  have hgroup := congrArg (·.field "group") hsame
  have hkind := congrArg (·.field "kind") hsame
  have hname := congrArg (·.field "name") hsame
  have hns := congrArg (·.field "namespace") hsame
  cases first
  cases second
  cases hgroup
  cases hkind
  cases hname
  cases hns
  rfl

/-- A value is determined by its document if it is by a field that is always
written. -/
theorem eq_of_field {β : Type} {encode : α → Json} (h : Function.Injective encode)
    {write : β → Json} (name : String) (get : β → α) {first second : β}
    (hfirst : (write first).field name=some (encode (get first)))
    (hsecond : (write second).field name=some (encode (get second)))
    (hsame : write first=write second) : get first=get second := by
  rw [hsame,hsecond] at hfirst
  have hread : encode (get second)=encode (get first) := Option.some.inj hfirst
  exact (h hread).symm

/-- A pointer is determined by a document that leaves its field out where it is
nil. -/
theorem eq_of_optionalField {β : Type} {encode : α → Json} (h : Function.Injective encode)
    {write : β → Json} (name : String) (get : β → Option α) {first second : β}
    (hfirst : (write first).field name=(get first).map encode)
    (hsecond : (write second).field name=(get second).map encode)
    (hsame : write first=write second) : get first=get second := by
  rw [hsame,hsecond] at hfirst
  exact (Option.map_injective h hfirst).symm

end General

/-- A broker is determined by its document. -/
theorem encodeBroker_injective : Function.Injective encodeBroker := by
  intro first second hsame
  have hannotations : first.annotations=second.annotations :=
    eq_of_field encodeStringMap_injective "annotations" Broker.annotations rfl rfl hsame
  have hlabels : first.labels=second.labels :=
    eq_of_field encodeStringMap_injective "labels" Broker.labels rfl rfl hsame
  have hname : first.name=second.name :=
    eq_of_field str_injective "name" Broker.name rfl rfl hsame
  have hnameSpace : first.nameSpace=second.nameSpace :=
    eq_of_field str_injective "namespace" Broker.nameSpace rfl rfl hsame
  have hprovidedEventTypes : first.providedEventTypes=second.providedEventTypes :=
    eq_of_field encodeStrings_injective "providedEventTypes" Broker.providedEventTypes rfl rfl hsame
  have huid : first.uid=second.uid :=
    eq_of_field str_injective "uid" Broker.uid rfl rfl hsame
  cases first
  cases second
  simp_all only

/-- A subscribable is determined by its document. -/
theorem encodeSubscribable_injective : Function.Injective encodeSubscribable := by
  intro first second hsame
  have hannotations : first.annotations=second.annotations :=
    eq_of_field encodeStringMap_injective "annotations" Subscribable.annotations rfl rfl hsame
  have hlabels : first.labels=second.labels :=
    eq_of_field encodeStringMap_injective "labels" Subscribable.labels rfl rfl hsame
  have hname : first.name=second.name :=
    eq_of_field str_injective "name" Subscribable.name rfl rfl hsame
  have hnameSpace : first.nameSpace=second.nameSpace :=
    eq_of_field str_injective "namespace" Subscribable.nameSpace rfl rfl hsame
  have hprovidedEventTypes : first.providedEventTypes=second.providedEventTypes :=
    eq_of_field encodeStrings_injective "providedEventTypes"
      Subscribable.providedEventTypes rfl rfl hsame
  have huid : first.uid=second.uid :=
    eq_of_field str_injective "uid" Subscribable.uid rfl rfl hsame
  have hgroup : first.group=second.group :=
    eq_of_field str_injective "group" Subscribable.group rfl rfl hsame
  have hkind : first.kind=second.kind :=
    eq_of_field str_injective "kind" Subscribable.kind rfl rfl hsame
  cases first
  cases second
  simp_all only

/-- The sink of a source stands in its document if it has one. -/
theorem field_sink_encodeSource (source : Source) :
    (encodeSource source).field "sink"=source.sink.map encodeReference := by
  dsimp only [encodeSource]
  cases source.sink <;> rfl

/-- What stands behind the sink is found with a sink or without. -/
theorem field_uid_encodeSource (source : Source) :
    (encodeSource source).field "uid"=some (.str source.uid) := by
  dsimp only [encodeSource]
  cases source.sink <;> rfl

/-- A source is determined by its document, with a sink or without. -/
theorem encodeSource_injective : Function.Injective encodeSource := by
  intro first second hsame
  have hannotations : first.annotations=second.annotations :=
    eq_of_field encodeStringMap_injective "annotations" Source.annotations rfl rfl hsame
  have hgroup : first.group=second.group :=
    eq_of_field str_injective "group" Source.group rfl rfl hsame
  have hkind : first.kind=second.kind :=
    eq_of_field str_injective "kind" Source.kind rfl rfl hsame
  have hlabels : first.labels=second.labels :=
    eq_of_field encodeStringMap_injective "labels" Source.labels rfl rfl hsame
  have hname : first.name=second.name :=
    eq_of_field str_injective "name" Source.name rfl rfl hsame
  have hnameSpace : first.nameSpace=second.nameSpace :=
    eq_of_field str_injective "namespace" Source.nameSpace rfl rfl hsame
  have hprovidedEventTypeTypes : first.providedEventTypeTypes=second.providedEventTypeTypes :=
    eq_of_field encodeStrings_injective "providedEventTypeTypes"
      Source.providedEventTypeTypes rfl rfl hsame
  have hprovidedEventTypes : first.providedEventTypes=second.providedEventTypes :=
    eq_of_field encodeStrings_injective "providedEventTypes" Source.providedEventTypes rfl rfl hsame
  have hsink : first.sink=second.sink :=
    eq_of_optionalField encodeReference_injective "sink" Source.sink
      (field_sink_encodeSource first) (field_sink_encodeSource second) hsame
  have huid : first.uid=second.uid :=
    eq_of_field str_injective "uid" Source.uid
      (field_uid_encodeSource first) (field_uid_encodeSource second) hsame
  cases first
  cases second
  simp_all only

/-- An event type is determined by its document, whichever pointers are nil. -/
theorem encodeEventType_injective : Function.Injective encodeEventType := by
  intro first second hsame
  have hannotations : first.annotations=second.annotations :=
    eq_of_field encodeStringMap_injective "annotations" EventType.annotations
      (field_encodeEventType first "annotations") (field_encodeEventType second "annotations") hsame
  have hconsumedBy : first.consumedBy=second.consumedBy :=
    eq_of_field encodeStrings_injective "consumedBy" EventType.consumedBy
      (field_encodeEventType first "consumedBy") (field_encodeEventType second "consumedBy") hsame
  have hdescription : first.description=second.description :=
    eq_of_optionalField str_injective "description" EventType.description
      (field_encodeEventType first "description") (field_encodeEventType second "description") hsame
  have hlabels : first.labels=second.labels :=
    eq_of_field encodeStringMap_injective "labels" EventType.labels
      (field_encodeEventType first "labels") (field_encodeEventType second "labels") hsame
  have hname : first.name=second.name :=
    eq_of_field str_injective "name" EventType.name
      (field_encodeEventType first "name") (field_encodeEventType second "name") hsame
  have hnameSpace : first.nameSpace=second.nameSpace :=
    eq_of_field str_injective "namespace" EventType.nameSpace
      (field_encodeEventType first "namespace") (field_encodeEventType second "namespace") hsame
  have hreference : first.reference=second.reference :=
    eq_of_optionalField encodeReference_injective "reference" EventType.reference
      (field_encodeEventType first "reference") (field_encodeEventType second "reference") hsame
  have hschemaData : first.schemaData=second.schemaData :=
    eq_of_optionalField str_injective "schemaData" EventType.schemaData
      (field_encodeEventType first "schemaData") (field_encodeEventType second "schemaData") hsame
  have hschemaURL : first.schemaURL=second.schemaURL :=
    eq_of_optionalField str_injective "schemaURL" EventType.schemaURL
      (field_encodeEventType first "schemaURL") (field_encodeEventType second "schemaURL") hsame
  have htype : first.type=second.type :=
    eq_of_field str_injective "type" EventType.type
      (field_encodeEventType first "type") (field_encodeEventType second "type") hsame
  have huid : first.uid=second.uid :=
    eq_of_field str_injective "uid" EventType.uid
      (field_encodeEventType first "uid") (field_encodeEventType second "uid") hsame
  cases first
  cases second
  simp_all only

/-- Two meshes with the same document are the same mesh. -/
theorem encodeMesh_injective : Function.Injective encodeMesh := by
  intro first second hsame
  have hbrokers : first.brokers=second.brokers :=
    eq_of_field (encodeSlice_injective encodeBroker_injective) "brokers"
      EventMesh.brokers rfl rfl hsame
  have heventTypes : first.eventTypes=second.eventTypes :=
    eq_of_field (encodeSlice_injective encodeEventType_injective) "eventTypes"
      EventMesh.eventTypes rfl rfl hsame
  have hsources : first.sources=second.sources :=
    eq_of_field (encodeSlice_injective encodeSource_injective) "sources"
      EventMesh.sources rfl rfl hsame
  have hsubscribables : first.subscribables=second.subscribables :=
    eq_of_field (encodeSlice_injective encodeSubscribable_injective) "subscribables"
      EventMesh.subscribables rfl rfl hsame
  cases first
  cases second
  simp_all only

end KnativeMesh.WireFidelity
