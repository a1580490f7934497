import KnativeMesh.SourceTypes
import KnativeMesh.Decoding
import KnativeMesh.Specification

/-!
# What a run fails with

A run makes its calls one after the other and leaves at the first that fails.
Which calls can fail a run, and with which exit, is listed here in the order of
the run: a resource that is not found fails nothing, an annotation only counts
for a CRD with instances, and no trigger ever fails a run.
-/

namespace KnativeMesh.Failures

open Go UnstructuredObject Kubernetes Mesh Converters Builder Runs Fetches Subscriptions SourceTypes
open ClusterContents Decoding

/-- How a function leaves without a value, if it does. -/
def failure {ε α : Type} : Except ε α → Option ε
  | .ok _ => none
  | .error err => some err

/-- A value is no failure. -/
@[simp] theorem failure_ok {ε α : Type} (value : α) : failure (.ok value : Except ε α)=none := rfl

/-- An exit is one. -/
@[simp] theorem failure_error {ε α : Type} (err : ε) :
    failure (.error err : Except ε α)=some err := rfl

/-- What a list call listed; nothing where it failed. -/
def listed {ε α : Type} : Except ε (List α) → List α
  | .ok elems => elems
  | .error _ => []

/-- The exit at a list call that has to succeed. -/
def callFailure {α : Type} (call : Except GoError α) : Option Exit := (failure call).map .error

/-- The exit at a list call whose resource may be missing. -/
def toleratedFailure {α : Type} (lib : Libraries) (call : Except GoError α) : Option Exit :=
  match call with
  | .ok _ => none
  | .error err => if lib.isNotFound err then none else some (.error err)

/-- The exit at the fetch of the subscribables of one CRD. -/
def subscribablesFailure (lib : Libraries) (dynamicClient : DynamicClient) (crd : Unstructured) :
    Option Exit :=
  match gvrFromUnstructured crd with
  | .error exit => some exit
  | .ok gvr => toleratedFailure lib (dynamicClient.list gvr noSelector)

/-- The exit at the annotation of a source CRD. -/
def annotationFailure (lib : Libraries) (crd : Unstructured) : Option Exit :=
  match crd.getAnnotations.get eventTypesAnnotationKey with
  | none => none
  | some text => if lib.unmarshalEventTypes text=none then some unmarshalExit else none

/-- The exit at the fetch of the sources of one CRD. The annotation is read
once for every instance. -/
def sourcesFailure (lib : Libraries) (dynamicClient : DynamicClient) (crd : Unstructured) :
    Option Exit :=
  match gvrFromUnstructured crd with
  | .error exit => some exit
  | .ok gvr =>
    (toleratedFailure lib (dynamicClient.list gvr noSelector)).or
      (if listed (dynamicClient.list gvr noSelector)=[] then none else annotationFailure lib crd)

/-- The exit at a fetch through CRDs: at their list, or at the first of them. -/
def crdsFailure (lib : Libraries) (crds : Except GoError (List Unstructured))
    (each : Unstructured×ℕ → Option Exit) : Option Exit :=
  (toleratedFailure lib crds).or ((listed crds).zipIdx.findSome? each)

/-- The exit at the first subscription that stops the loop. -/
def subscriptionFailure (lib : Libraries) (answers : Answers) (subscription : SubscriptionResource×ℕ) :
    Option Exit :=
  (subscriptionStop lib (answers (.subscriptionSubscriber subscription.2)).dynamicClient
    subscription.1).map Stop.exit

/-- The CRDs through which a run finds subscribables. -/
def subscribableCRDs (answers : Answers) : Except GoError (List Unstructured) :=
  (answers .subscribableCRDs).dynamicClient.list crdResource subscribableSelector

/-- The CRDs through which a run finds sources. -/
def sourceCRDs (answers : Answers) : Except GoError (List Unstructured) :=
  (answers .sourceCRDs).dynamicClient.list crdResource sourceSelector

/-- The exit at a subscribable CRD of a run. -/
def subscribableFailure (lib : Libraries) (answers : Answers) (crd : Unstructured×ℕ) : Option Exit :=
  subscribablesFailure lib (answers (.subscribables crd.2)).dynamicClient crd.1

/-- The exit at a source CRD of a run. -/
def sourceFailure (lib : Libraries) (answers : Answers) (crd : Unstructured×ℕ) : Option Exit :=
  sourcesFailure lib (answers (.sources crd.2)).dynamicClient crd.1

/-- The first failure of a run, in the order of its calls. -/
def firstFailure (lib : Libraries) (answers : Answers) : Option Exit :=
  [callFailure (answers .brokers).clientset.brokers,
    crdsFailure lib (subscribableCRDs answers) (subscribableFailure lib answers),
    crdsFailure lib (sourceCRDs answers) (sourceFailure lib answers),
    callFailure (answers .eventTypes).clientset.eventTypes,
    callFailure (answers .triggers).clientset.triggers,
    callFailure (answers .subscriptions).clientset.subscriptions,
    (listed (answers .subscriptions).clientset.subscriptions).zipIdx.findSome?
      (subscriptionFailure lib answers)].findSome? id

section Loops

variable {ι α β : Type}

/-- A chain fails where its first part does, or else where the second does. -/
theorem failure_bind (x : Result α) (next : α → Result β) :
    failure (x >>= next)=match x with
      | .ok value => failure (next value)
      | .error exit => some exit := by
  cases x <;> rfl

/-- A function fails with an exit exactly if it leaves with it. -/
theorem failure_eq_some_iff {x : Result α} {exit : Exit} : failure x=some exit ↔ x=.error exit := by
  cases x <;> simp

/-- A function fails nowhere exactly if it returns. -/
theorem failure_eq_none_iff {x : Result α} : failure x=none ↔ ∃ value, x=.ok value := by
  cases x <;> simp

/-- The first of several failures. -/
theorem first_cons (first : Option β) (rest : List (Option β)) :
    (first::rest).findSome? id=first.or (rest.findSome? id) := by
  cases first <;> rfl

/-- A last step that only wraps the value does not fail. -/
theorem failure_map (x : Result α) (wrap : α → β) :
    failure (x >>= fun value => .ok (wrap value))=failure x := by
  cases x <;> rfl

/-- A loop fails at the first item whose step fails. -/
theorem failure_collect (step : ι → Result (List α)) (items : List ι) :
    failure (collect step items)=items.findSome? fun item => failure (step item) := by
  induction items with
  | nil => rfl
  | cons item items ih =>
    rw [collect,failure_bind,List.findSome?_cons]
    cases hstep : step item with
    | error exit => rfl
    | ok here =>
      rw [←ih]
      exact failure_map _ _

end Loops

section Fetches

variable (lib : Libraries) (dynamicClient : DynamicClient)

/-- The list of instances fails unless it is not found. -/
theorem failure_listInstances (gvr : GroupVersionResource) :
    failure (listInstances lib dynamicClient gvr)=
      toleratedFailure lib (dynamicClient.list gvr noSelector) := by
  unfold listInstances toleratedFailure
  cases dynamicClient.list gvr noSelector with
  | ok resources => rfl
  | error err =>
    dsimp only
    split <;> rfl

/-- What the list of instances returns is what was listed. -/
theorem listInstances_listed {gvr : GroupVersionResource} {resources : List Unstructured}
    (h : listInstances lib dynamicClient gvr=.ok resources) :
    resources=listed (dynamicClient.list gvr noSelector) := by
  rcases listInstances_eq_ok_iff.mp h with hlisted | ⟨err,herr,_,rfl⟩
  · rw [hlisted]
    rfl
  · rw [herr]
    rfl

/-- The subscribables of a CRD fail with the CRD or with its list. -/
theorem failure_subscribablesOf (crd : Unstructured) :
    failure (subscribablesOf lib dynamicClient crd)=subscribablesFailure lib dynamicClient crd := by
  unfold subscribablesOf subscribablesFailure
  rw [failure_bind]
  cases gvrFromUnstructured crd with
  | error exit => rfl
  | ok gvr =>
    dsimp only
    rw [failure_map,failure_listInstances]

/-- The conversion of an instance fails with the annotation of its CRD. -/
theorem failure_convertSource (gvr : GroupVersionResource) (crd resource : Unstructured) :
    failure (do let source ← convertSource lib gvr crd resource; .ok [source] : Result (List Source))=
      annotationFailure lib crd := by
  rw [failure_map]
  unfold convertSource annotationFailure announcedTypes
  rw [failure_map]
  cases crd.getAnnotations.get eventTypesAnnotationKey with
  | none => rfl
  | some text =>
    dsimp only
    cases lib.unmarshalEventTypes text <;> rfl

/-- The sources of a CRD fail with the CRD, with its list, or with its annotation
if there is an instance. -/
theorem failure_sourcesOf (crd : Unstructured) :
    failure (sourcesOf lib dynamicClient crd)=sourcesFailure lib dynamicClient crd := by
  unfold sourcesOf sourcesFailure
  rw [failure_bind]
  cases gvrFromUnstructured crd with
  | error exit => rfl
  | ok gvr =>
    dsimp only
    rw [failure_bind,←failure_listInstances]
    cases hresources : listInstances lib dynamicClient gvr with
    | error exit => rfl
    | ok resources =>
      have hlisted := listInstances_listed lib dynamicClient hresources
      rw [←hlisted]
      dsimp only
      rw [failure_ok,Option.none_or,failure_collect]
      simp only [failure_convertSource]
      cases resources with
      | nil => rfl
      | cons resource resources =>
        rw [if_neg (List.cons_ne_nil _ _),List.findSome?_cons]
        cases hannotation : annotationFailure lib crd with
        | some exit => rfl
        | none =>
          dsimp only
          rw [List.findSome?_eq_none_iff]
          exact fun _ _ => rfl

/-- A fetch through CRDs fails at their list, or else at the first CRD. -/
theorem failure_fetchThroughCRDs {α : Type} (crds : Except GoError (List Unstructured))
    {fetch : Unstructured×ℕ → Result (List α)} {each : Unstructured×ℕ → Option Exit}
    (h : ∀ crd, failure (fetch crd)=each crd) :
    failure (fetchThroughCRDs lib crds fetch)=crdsFailure lib crds each := by
  have heach : (fun crd => failure (fetch crd))=each := funext h
  unfold fetchThroughCRDs crdsFailure toleratedFailure
  cases crds with
  | error err =>
    dsimp only
    split <;> rfl
  | ok crds =>
    dsimp only
    rw [failure_map,failure_collect,heach]
    rfl

end Fetches

/-- The subscription loop fails at the first subscription that stops it. -/
theorem failure_finished {lib : Libraries} {answers : Answers} (f : Fetched lib answers) :
    failure f.finished=f.subscriptions.zipIdx.findSome? (subscriptionFailure lib answers) := by
  have hstop : f.subscriptions.zipIdx.findSome? (subscriptionFailure lib answers)=
      (firstStop f).map Stop.exit := List.map_findSome?.symm
  rw [hstop,finished_eq]
  cases firstStop f <;> rfl

/-- A run fails with its first failure. -/
theorem failure_eq_firstFailure (lib : Libraries) (answers : Answers) :
    failure (buildEventMesh lib answers)=firstFailure lib answers := by
  have hsubscribables : failure (fetchSubscribables lib answers)=
      crdsFailure lib (subscribableCRDs answers) (subscribableFailure lib answers) :=
    failure_fetchThroughCRDs lib _ fun crd => failure_subscribablesOf lib _ crd.1
  have hsources : failure (fetchSources lib answers)=
      crdsFailure lib (sourceCRDs answers) (sourceFailure lib answers) :=
    failure_fetchThroughCRDs lib _ fun crd => failure_sourcesOf lib _ crd.1
  unfold firstFailure buildEventMesh fetchBrokers fetchEventTypes
  rw [←hsubscribables,←hsources]
  cases hbrokers : (answers .brokers).clientset.brokers with
  | error err => rfl
  | ok brokers =>
    cases hfound : fetchSubscribables lib answers with
    | error exit => rfl
    | ok subscribables =>
      cases hfetched : fetchSources lib answers with
      | error exit => rfl
      | ok sources =>
        cases heventTypes : (answers .eventTypes).clientset.eventTypes with
        | error err => rfl
        | ok eventTypes =>
          cases htriggers : (answers .triggers).clientset.triggers with
          | error err => rfl
          | ok triggers =>
            cases hsubscriptions : (answers .subscriptions).clientset.subscriptions with
            | error err => rfl
            | ok subscriptions =>
              let f : Fetched lib answers := ⟨brokers,subscribables,sources,eventTypes,triggers,
                subscriptions,hbrokers,hfound,hfetched,heventTypes,htriggers,hsubscriptions⟩
              have hloop := failure_finished f
              have hlast : failure (f.finished >>= fun store => .ok (outputMesh store))=
                  subscriptions.zipIdx.findSome? (subscriptionFailure lib answers) :=
                (failure_map _ _).trans hloop
              refine hlast.trans ?_
              simp only [callFailure,failure_ok,Option.map_none,List.findSome?_cons,id_eq,listed]
              cases subscriptions.zipIdx.findSome? (subscriptionFailure lib answers) <;> rfl

/-- A run leaves with the exit of its first failure, and returns a mesh exactly
if there is none. -/
theorem buildEventMesh_fails_iff (lib : Libraries) (answers : Answers) :
    (∀ exit, buildEventMesh lib answers=.error exit ↔ firstFailure lib answers=some exit) ∧
      ((∃ mesh, buildEventMesh lib answers=.ok mesh) ↔ firstFailure lib answers=none) := by
  have hfailure := failure_eq_firstFailure lib answers
  constructor
  · intro exit
    rw [←hfailure,failure_eq_some_iff]
  · rw [←hfailure,failure_eq_none_iff]

/-- The decoder panics at this CRD: it has a group, and a served version whose
name is no string. -/
def Crashing (crd : Unstructured) : Prop :=
  stringAt crd ["spec","group"]≠none ∧ NamelessServed (versionList crd)

section Panics

/-- A list call that has to succeed fails with an error. -/
theorem callFailure_ne_panic {α : Type} (call : Except GoError α) : callFailure call≠some .panic := by
  cases call <;> simp [callFailure]

/-- So does one whose resource may be missing. -/
theorem toleratedFailure_ne_panic {α : Type} (lib : Libraries) (call : Except GoError α) :
    toleratedFailure lib call≠some .panic := by
  cases call with
  | ok value => simp [toleratedFailure]
  | error err =>
    unfold toleratedFailure
    by_cases hnf : lib.isNotFound err=true <;> simp [hnf]

/-- An annotation fails with an error. -/
theorem annotationFailure_ne_panic (lib : Libraries) (crd : Unstructured) :
    annotationFailure lib crd≠some .panic := by
  unfold annotationFailure unmarshalExit
  cases crd.getAnnotations.get eventTypesAnnotationKey with
  | none => simp
  | some text => by_cases hdecodes : lib.unmarshalEventTypes text=none <;> simp [hdecodes]

/-- The subscribables of a CRD panic with its decoder. -/
theorem subscribablesFailure_eq_panic_iff (lib : Libraries) (dynamicClient : DynamicClient)
    (crd : Unstructured) :
    subscribablesFailure lib dynamicClient crd=some .panic ↔ Crashing crd := by
  have hdecoder := gvrFromUnstructured_eq_panic_iff crd
  unfold subscribablesFailure Crashing
  rw [←hdecoder]
  cases gvrFromUnstructured crd with
  | error exit => simp
  | ok gvr => simp [toleratedFailure_ne_panic]

/-- The sources of a CRD panic with its decoder. -/
theorem sourcesFailure_eq_panic_iff (lib : Libraries) (dynamicClient : DynamicClient)
    (crd : Unstructured) : sourcesFailure lib dynamicClient crd=some .panic ↔ Crashing crd := by
  have hdecoder := gvrFromUnstructured_eq_panic_iff crd
  unfold sourcesFailure Crashing
  rw [←hdecoder]
  cases gvrFromUnstructured crd with
  | error exit => simp
  | ok gvr =>
    have hlist := toleratedFailure_ne_panic lib (dynamicClient.list gvr noSelector)
    have hannotation := annotationFailure_ne_panic lib crd
    dsimp only
    rw [Option.or_eq_some_iff]
    constructor
    · intro hp
      rcases hp with hfails | ⟨_,hfails⟩
      · exact absurd hfails hlist
      · split at hfails
        · cases hfails
        · exact absurd hfails hannotation
    · intro hp
      cases hp

/-- A subscription panics if its subscriber is a nil pointer. -/
theorem subscriptionFailure_eq_panic_iff (lib : Libraries) (answers : Answers)
    (subscription : SubscriptionResource×ℕ) :
    subscriptionFailure lib answers subscription=some .panic ↔
      subscription.1.spec.subscriber=none := by
  unfold subscriptionFailure subscriptionStop
  cases subscription.1.spec.subscriber with
  | none => simp [Stop.exit]
  | some destination =>
    cases destination with
    | mk ref =>
      cases ref with
      | none => simp
      | some ref =>
        dsimp only
        cases getSubscriberBackstageId lib
          (answers (.subscriptionSubscriber subscription.2)).dynamicClient ref with
        | ok id => simp
        | error err =>
          by_cases hunauthorized : lib.isUnauthorized (lookupError err)=true <;>
            simp [hunauthorized,Stop.exit]

/-- A loop over items, with the failures of its steps, reaches an item at which
the run panics. -/
def Reaches {ι : Type} (items : List ι) (each : ι → Option Exit) (crashing : ι → Prop) : Prop :=
  ∃ before item after, items=before++item::after ∧ (∀ earlier ∈ before, each earlier=none) ∧
    crashing item

/-- A loop panics at the item that it reaches. -/
theorem findSome?_eq_panic_iff {ι : Type} {items : List ι} {each : ι → Option Exit}
    {crashing : ι → Prop} (h : ∀ item, each item=some .panic ↔ crashing item) :
    items.findSome? each=some .panic ↔ Reaches items each crashing := by
  rw [List.findSome?_eq_some_iff]
  refine exists_congr fun before => exists_congr fun item => exists_congr fun after => ?_
  rw [h item]
  tauto

/-- A fetch through CRDs panics at a CRD that its loop reaches. -/
theorem crdsFailure_eq_panic_iff {lib : Libraries} {crds : Except GoError (List Unstructured)}
    {each : Unstructured×ℕ → Option Exit} (h : ∀ crd, each crd=some .panic ↔ Crashing crd.1) :
    crdsFailure lib crds each=some .panic ↔
      Reaches (listed crds).zipIdx each fun crd => Crashing crd.1 := by
  have hlist := toleratedFailure_ne_panic lib crds
  rw [←findSome?_eq_panic_iff h]
  unfold crdsFailure
  cases crds with
  | ok crds => rfl
  | error err =>
    -- nothing is listed, and the error of the list is no panic
    rw [Option.or_eq_some_iff]
    simp [hlist,listed]

end Panics

/-- A run panics exactly if a loop over its CRDs or over its subscriptions
reaches one that crashes it, and nothing fails before. -/
theorem buildEventMesh_panics_iff (lib : Libraries) (answers : Answers) :
    buildEventMesh lib answers=.error .panic ↔
      callFailure (answers .brokers).clientset.brokers=none ∧
      (Reaches (listed (subscribableCRDs answers)).zipIdx (subscribableFailure lib answers)
          (fun crd => Crashing crd.1) ∨
        crdsFailure lib (subscribableCRDs answers) (subscribableFailure lib answers)=none ∧
        (Reaches (listed (sourceCRDs answers)).zipIdx (sourceFailure lib answers)
            (fun crd => Crashing crd.1) ∨
          crdsFailure lib (sourceCRDs answers) (sourceFailure lib answers)=none ∧
          callFailure (answers .eventTypes).clientset.eventTypes=none ∧
          callFailure (answers .triggers).clientset.triggers=none ∧
          callFailure (answers .subscriptions).clientset.subscriptions=none ∧
          Reaches (listed (answers .subscriptions).clientset.subscriptions).zipIdx
            (subscriptionFailure lib answers) fun subscription =>
              subscription.1.spec.subscriber=none)) := by
  have hsubscribables : crdsFailure lib (subscribableCRDs answers) (subscribableFailure lib answers)=
      some .panic ↔ _ :=
    crdsFailure_eq_panic_iff fun crd => subscribablesFailure_eq_panic_iff lib _ crd.1
  have hsources : crdsFailure lib (sourceCRDs answers) (sourceFailure lib answers)=some .panic ↔ _ :=
    crdsFailure_eq_panic_iff fun crd => sourcesFailure_eq_panic_iff lib _ crd.1
  have hsubscriptions : (listed (answers .subscriptions).clientset.subscriptions).zipIdx.findSome?
      (subscriptionFailure lib answers)=some .panic ↔ _ :=
    findSome?_eq_panic_iff fun subscription => subscriptionFailure_eq_panic_iff lib answers subscription
  rw [←failure_eq_some_iff,failure_eq_firstFailure,←hsubscribables,←hsources,←hsubscriptions]
  unfold firstFailure
  simp only [first_cons,Option.or_eq_some_iff,callFailure_ne_panic,false_or,List.findSome?_nil]
  simp only [reduceCtorEq,and_false,or_false]

end KnativeMesh.Failures
