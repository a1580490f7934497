import KnativeMesh.Subscriptions

/-!
# Subscribers that the caller may not read

Some subscribers of a cluster answer a get with a denial. Leaving out the
triggers and subscriptions of these subscribers is compared with keeping them.
Triggers never make a difference. Subscriptions make none where the denial is
Unauthorized, but a Forbidden one stops the loop like any other error.
-/

namespace KnativeMesh.Permissions

open Go UnstructuredObject Kubernetes Mesh Converters Builder Passes Runs Listing Fetches
open ClusterContents Triggers Subscriptions Library.Index Library.Scatter

/-- A cluster from which the triggers and subscriptions of some subscribers
have been removed; every other call answers as before. -/
def without (cluster : Cluster) (denied : KReference → Bool) : Cluster :=
  { cluster with
    clientset := { cluster.clientset with
      triggers := cluster.clientset.triggers.map
        (·.filter fun trigger => !trigger.spec.subscriber.ref.any denied)
      subscriptions := cluster.clientset.subscriptions.map
        (·.filter fun subscription => !(subscription.spec.subscriber.bind (·.ref)).any denied) } }

/-- An API error for lack of permission: Forbidden, by reason or by code, or
Unauthorized. -/
def IsDenial (err : GoError) : Prop :=
  reasonForError err=.forbidden ∨ (reasonForError err=.unknown ∧ codeForError err=403) ∨
    reasonForError err=.unauthorized

instance (err : GoError) : Decidable (IsDenial err) := inferInstanceAs (Decidable (_ ∨ _))

/-- Gets of some subscribers are denied for lack of permission. -/
def DeniedForPermission (lib : Libraries) (cluster : Cluster) (denied : KReference → Bool) : Prop :=
  ∀ ref, denied ref=true →
    ∃ err, subscriberAnswer lib cluster.dynamicClient ref=.error err ∧ IsDenial err

/-- A denial does not read as an object that is not found. -/
theorem isNotFound_of_denial {lib : Libraries} (hstatus : lib.StatusLaws) {err : GoError}
    (h : IsDenial err) : ¬ lib.isNotFound err=true := by
  rw [hstatus.isNotFound_iff]
  dsimp only [IsDenial] at h
  generalize reasonForError err=reason at h ⊢
  generalize codeForError err=code at h ⊢
  cases reason <;> simp_all

/-- A denied lookup fails, and with the error of the get. -/
theorem lookup_of_denied {lib : Libraries} (hstatus : lib.StatusLaws) {cluster : Cluster}
    {denied : KReference → Bool} (hdenied : DeniedForPermission lib cluster denied)
    {ref : KReference} (h : denied ref=true) :
    ∃ err, subscriberAnswer lib cluster.dynamicClient ref=.error err ∧
      getSubscriberBackstageId lib cluster.dynamicClient ref=.error err := by
  obtain ⟨err,hget,herr⟩ := hdenied ref h
  refine ⟨err,hget,?_⟩
  rw [getSubscriberBackstageId_eq,hget]
  exact if_neg (isNotFound_of_denial hstatus herr)

section Run

variable {lib : Libraries} {cluster : Cluster} (denied : KReference → Bool)

/-- What the run over the remaining triggers and subscriptions fetches. -/
def remaining (f : Fetched lib (snapshot cluster)) :
    Fetched lib (snapshot (without cluster denied)) :=
  { f with
    triggers := f.triggers.filter fun trigger => !trigger.spec.subscriber.ref.any denied
    subscriptions := f.subscriptions.filter fun subscription =>
      !(subscription.spec.subscriber.bind (·.ref)).any denied
    brokers_ok := f.brokers_ok
    subscribables_ok := f.subscribables_ok
    sources_ok := f.sources_ok
    eventTypes_ok := f.eventTypes_ok
    triggers_ok := by
      have hlist : cluster.clientset.triggers=.ok f.triggers := f.triggers_ok
      change cluster.clientset.triggers.map _=_
      rw [hlist]
      rfl
    subscriptions_ok := by
      have hlist : cluster.clientset.subscriptions=.ok f.subscriptions := f.subscriptions_ok
      change cluster.clientset.subscriptions.map _=_
      rw [hlist]
      rfl }

variable {denied}

section Denied

variable (hstatus : lib.StatusLaws)

include hstatus

/-- A denied trigger writes nothing. -/
theorem triggerWrites_of_denied (hdenied : DeniedForPermission lib cluster denied)
    {trigger : TriggerResource} (h : trigger.spec.subscriber.ref.any denied=true)
    (brokerMap etByNamespacedName : GoMap ℕ) (store : Store) :
    triggerWrites lib brokerMap etByNamespacedName cluster.dynamicClient store trigger=[] := by
  have hid : triggerId lib cluster.dynamicClient trigger="" := by
    dsimp only [triggerId]
    cases href : trigger.spec.subscriber.ref with
    | none => rfl
    | some ref =>
      rw [href] at h
      obtain ⟨err,_,hl⟩ := lookup_of_denied hstatus hdenied h
      simp only [hl]
  dsimp only [triggerWrites]
  rw [if_pos hid]

/-- A denied subscription writes nothing. -/
theorem subscriptionWrites_of_denied (hdenied : DeniedForPermission lib cluster denied)
    {subscription : SubscriptionResource}
    (h : (subscription.spec.subscriber.bind (·.ref)).any denied=true)
    (subscribableMap etByNamespacedName : GoMap ℕ) (store : Store) :
    subscriptionWrites lib cluster.dynamicClient subscribableMap etByNamespacedName store
      subscription=[] := by
  have hid : subscriptionId lib cluster.dynamicClient subscription="" := by
    dsimp only [subscriptionId]
    cases href : subscription.spec.subscriber.bind (·.ref) with
    | none => rfl
    | some ref =>
      rw [href] at h
      obtain ⟨err,_,hl⟩ := lookup_of_denied hstatus hdenied h
      simp only [hl]
  dsimp only [subscriptionWrites]
  rw [if_pos hid]

end Denied

/-- Over a snapshot the trigger loop is one log of writes. -/
theorem triggered_eq (f : Fetched lib (snapshot cluster)) :
    f.triggered={f.registered with
      eventTypes := scatter EventType.consume f.registered.eventTypes
        (logOf (triggerWrites lib f.brokerMap f.etByNamespacedName cluster.dynamicClient f.registered)
          (triggerId lib cluster.dynamicClient) f.triggers)} := by
  have hz := logOf_zipIdx
    (triggerWrites lib f.brokerMap f.etByNamespacedName cluster.dynamicClient f.registered)
    (triggerId lib cluster.dynamicClient) f.triggers
  dsimp only [Fetched.triggered]
  rw [processTriggers_eq,←hz]
  rfl

/-- Removing denied triggers leaves the trigger loop as it is. -/
theorem remaining_triggered (hstatus : lib.StatusLaws)
    (hdenied : DeniedForPermission lib cluster denied)
    (f : Fetched lib (snapshot cluster)) : (remaining denied f).triggered=f.triggered := by
  have hlog : logOf
      (triggerWrites lib f.brokerMap f.etByNamespacedName cluster.dynamicClient f.registered)
      (triggerId lib cluster.dynamicClient) (remaining denied f).triggers=logOf
      (triggerWrites lib f.brokerMap f.etByNamespacedName cluster.dynamicClient f.registered)
      (triggerId lib cluster.dynamicClient) f.triggers := by
    apply logOf_filter
    intro trigger _ hk
    have hd : trigger.spec.subscriber.ref.any denied=true := by simpa using hk
    exact triggerWrites_of_denied hstatus hdenied hd _ _ _
  rw [triggered_eq f,triggered_eq (remaining denied f),←hlog]
  rfl

/-- Over a snapshot the log of the subscription loop does not look at numbers. -/
theorem subscriptionLog_eq (f : Fetched lib (snapshot cluster)) :
    subscriptionLog f=logOf
      (subscriptionWrites lib cluster.dynamicClient f.subscribableMap f.etByNamespacedName f.triggered)
      (subscriptionId lib cluster.dynamicClient) f.subscriptions := by
  have hz := logOf_zipIdx
    (subscriptionWrites lib cluster.dynamicClient f.subscribableMap f.etByNamespacedName f.triggered)
    (subscriptionId lib cluster.dynamicClient) f.subscriptions
  rw [←hz]
  rfl

/-- Removing denied subscriptions leaves the log of the others as it is. -/
theorem remaining_subscriptionLog (hstatus : lib.StatusLaws)
    (hdenied : DeniedForPermission lib cluster denied)
    (f : Fetched lib (snapshot cluster)) :
    subscriptionLog (remaining denied f)=subscriptionLog f := by
  have hlog : logOf (subscriptionWrites lib cluster.dynamicClient f.subscribableMap
        f.etByNamespacedName f.triggered)
      (subscriptionId lib cluster.dynamicClient) (remaining denied f).subscriptions=
      logOf (subscriptionWrites lib cluster.dynamicClient f.subscribableMap
        f.etByNamespacedName f.triggered)
      (subscriptionId lib cluster.dynamicClient) f.subscriptions := by
    apply logOf_filter
    intro subscription _ hk
    have hd : (subscription.spec.subscriber.bind (·.ref)).any denied=true := by simpa using hk
    exact subscriptionWrites_of_denied hstatus hdenied hd _ _ _
  rw [subscriptionLog_eq,subscriptionLog_eq,←hlog,remaining_triggered hstatus hdenied f]
  rfl

/-- The first stop among some subscriptions of a snapshot. -/
def stopAmong (lib : Libraries) (cluster : Cluster) (subscriptions : List SubscriptionResource) :
    Option Stop :=
  subscriptions.findSome? (subscriptionStop lib cluster.dynamicClient)

/-- Over a snapshot the first stop does not depend on numbers. -/
theorem firstStop_eq (f : Fetched lib (snapshot cluster)) :
    firstStop f=stopAmong lib cluster f.subscriptions := by
  have hfst : f.subscriptions.zipIdx.map Prod.fst=f.subscriptions := List.zipIdx_map_fst 0 _
  calc firstStop f=(f.subscriptions.zipIdx.map Prod.fst).findSome?
        (subscriptionStop lib cluster.dynamicClient) := by
        rw [List.findSome?_map]
        rfl
    _=stopAmong lib cluster f.subscriptions := by rw [hfst,stopAmong]

/-- After equal fetches, two runs end alike exactly if their first stops agree. -/
theorem buildEventMesh_without_iff (hstatus : lib.StatusLaws)
    (hdenied : DeniedForPermission lib cluster denied)
    (f : Fetched lib (snapshot cluster)) :
    buildEventMesh lib (snapshot cluster)=buildEventMesh lib (snapshot (without cluster denied)) ↔
      stopAmong lib cluster f.subscriptions=
        stopAmong lib cluster (remaining denied f).subscriptions := by
  have hrest : firstStop (remaining denied f)=
      stopAmong lib cluster (remaining denied f).subscriptions := firstStop_eq _
  rw [f.buildEventMesh_eq,(remaining denied f).buildEventMesh_eq,finished_eq,finished_eq,
    remaining_triggered hstatus hdenied,remaining_subscriptionLog hstatus hdenied,firstStop_eq f,hrest]
  cases stopAmong lib cluster f.subscriptions with
  | none =>
    cases stopAmong lib cluster (remaining denied f).subscriptions with
    | none => exact ⟨fun _ => rfl,fun _ => rfl⟩
    | some stop => exact ⟨nofun,nofun⟩
  | some stop =>
    cases stopAmong lib cluster (remaining denied f).subscriptions with
    | none => exact ⟨nofun,nofun⟩
    | some stop' =>
      constructor
      · intro h
        have hexit : stop.exit=stop'.exit := Except.error.inj h
        rw [Stop.exit_injective hexit]
      · intro h
        rw [Option.some.inj h]

/-- A run that fails before its subscription loop fails alike without the
denied triggers and subscriptions. -/
theorem buildEventMesh_without_of_not_fetched (denied : KReference → Bool)
    (hnone : ¬ Nonempty (Fetched lib (snapshot cluster))) :
    buildEventMesh lib (snapshot cluster)=buildEventMesh lib (snapshot (without cluster denied)) := by
  dsimp only [buildEventMesh]
  change (fetchBrokers cluster.clientset >>= _)=(fetchBrokers cluster.clientset >>= _)
  cases hbrokers : fetchBrokers cluster.clientset with
  | error exit => rfl
  | ok brokers =>
  change (fetchSubscribables lib (snapshot cluster) >>= _)=(fetchSubscribables lib (snapshot cluster) >>= _)
  cases hsubscribables : fetchSubscribables lib (snapshot cluster) with
  | error exit => rfl
  | ok subscribables =>
  change (fetchSources lib (snapshot cluster) >>= _)=(fetchSources lib (snapshot cluster) >>= _)
  cases hsources : fetchSources lib (snapshot cluster) with
  | error exit => rfl
  | ok sources =>
  change (fetchEventTypes cluster.clientset >>= _)=(fetchEventTypes cluster.clientset >>= _)
  cases heventTypes : fetchEventTypes cluster.clientset with
  | error exit => rfl
  | ok eventTypes =>
  change (ofCall cluster.clientset.triggers >>= _)=
    (ofCall (cluster.clientset.triggers.map _) >>= _)
  cases htriggers : cluster.clientset.triggers with
  | error err => rfl
  | ok triggers =>
  change (ofCall cluster.clientset.subscriptions >>= _)=
    (ofCall (cluster.clientset.subscriptions.map _) >>= _)
  cases hsubscriptions : cluster.clientset.subscriptions with
  | error err => rfl
  | ok subscriptions =>
    obtain ⟨listed,hlisted,_⟩ := bind_eq_ok.mp hbrokers
    obtain ⟨types,htypes,_⟩ := bind_eq_ok.mp heventTypes
    exact absurd ⟨⟨listed,subscribables,sources,types,triggers,subscriptions,ofCall_eq_ok.mp hlisted,
      hsubscribables,hsources,ofCall_eq_ok.mp htypes,htriggers,hsubscriptions⟩⟩ hnone

end Run

/-- The outcome does not depend on the denied triggers and subscriptions
exactly when the subscription loop, once it is reached, first stops at the
same reason with the denied subscriptions and without them. -/
theorem permissionIsolation_iff {lib : Libraries} (hstatus : lib.StatusLaws) {cluster : Cluster}
    {denied : KReference → Bool} (hdenied : DeniedForPermission lib cluster denied) :
    buildEventMesh lib (snapshot cluster)=buildEventMesh lib (snapshot (without cluster denied)) ↔
      ∀ f : Fetched lib (snapshot cluster), stopAmong lib cluster f.subscriptions=
        stopAmong lib cluster (f.subscriptions.filter fun subscription =>
          !(subscription.spec.subscriber.bind (·.ref)).any denied) := by
  constructor
  · intro h f
    exact (buildEventMesh_without_iff hstatus hdenied f).mp h
  · intro h
    by_cases hf : Nonempty (Fetched lib (snapshot cluster))
    · obtain ⟨f⟩ := hf
      exact (buildEventMesh_without_iff hstatus hdenied f).mpr (h f)
    · exact buildEventMesh_without_of_not_fetched denied hf

/-- Leaving out items at which a search finds nothing does not change what it
finds. -/
theorem findSome?_filter {α β : Type} {f : α → Option β} {keep : α → Bool} {items : List α}
    (h : ∀ item ∈ items, keep item=false → f item=none) :
    (items.filter keep).findSome? f=items.findSome? f := by
  induction items with
  | nil => rfl
  | cons item items ih =>
    have hrest := ih fun other hmem => h other (List.mem_cons_of_mem item hmem)
    cases hkeep : keep item with
    | true => rw [List.filter_cons_of_pos hkeep,List.findSome?_cons,List.findSome?_cons,hrest]
    | false =>
      have hnone := h item List.mem_cons_self hkeep
      rw [List.filter_cons_of_neg (by simp [hkeep]),hrest,List.findSome?_cons,hnone]

/-- A subscription whose subscriber is denied as Unauthorized does not stop the
loop. -/
theorem subscriptionStop_of_unauthorized {lib : Libraries} (hstatus : lib.StatusLaws)
    {cluster : Cluster} {denied : KReference → Bool}
    (hdenied : DeniedForPermission lib cluster denied) {subscription : SubscriptionResource}
    {ref : KReference} (href : subscription.spec.subscriber.bind (·.ref)=some ref)
    (h : denied ref=true) (hunauthorized : ∀ err,
      subscriberAnswer lib cluster.dynamicClient ref=.error err → reasonForError err=.unauthorized) :
    subscriptionStop lib cluster.dynamicClient subscription=none := by
  obtain ⟨err,hanswer,hl⟩ := lookup_of_denied hstatus hdenied h
  have hpassed : lib.isUnauthorized (lookupError err)=true :=
    (hstatus.isUnauthorized_iff _).mpr (hunauthorized err hanswer)
  obtain ⟨destination,hs,hreference⟩ := Option.bind_eq_some_iff.mp href
  cases destination with
  | mk reference =>
    cases hreference
    simp only [subscriptionStop,hs,hl,hpassed,if_true]

/-- In particular the outcome is the same whenever no subscriber of a
subscription is denied as Forbidden, whatever becomes of the triggers. -/
theorem buildEventMesh_without_of_unauthorized {lib : Libraries} (hstatus : lib.StatusLaws)
    {cluster : Cluster} {denied : KReference → Bool}
    (hdenied : DeniedForPermission lib cluster denied)
    (hunauthorized : ∀ subscriptions, cluster.clientset.subscriptions=.ok subscriptions →
      ∀ subscription ∈ subscriptions, ∀ ref, subscription.spec.subscriber.bind (·.ref)=some ref →
        denied ref=true → ∀ err, subscriberAnswer lib cluster.dynamicClient ref=.error err →
          reasonForError err=.unauthorized) :
    buildEventMesh lib (snapshot cluster)=buildEventMesh lib (snapshot (without cluster denied)) := by
  by_cases hf : Nonempty (Fetched lib (snapshot cluster))
  · obtain ⟨f⟩ := hf
    refine (buildEventMesh_without_iff hstatus hdenied f).mpr ?_
    symm
    apply findSome?_filter
    intro subscription hmem hremoved
    cases href : subscription.spec.subscriber.bind (·.ref) with
    | none => simp [href] at hremoved
    | some ref =>
      have hd : denied ref=true := by simpa [href] using hremoved
      exact subscriptionStop_of_unauthorized hstatus hdenied href hd
        (hunauthorized _ f.subscriptions_ok subscription hmem ref href hd)
  · exact buildEventMesh_without_of_not_fetched denied hf

/-- The cluster of one subscription, with one answer to all gets. -/
def refusing (err : GoError) : Cluster :=
  { oneSubscription.cluster with
    dynamicClient := { oneSubscription.cluster.dynamicClient with get := fun _ _ _ => .error err } }

/-- The status of a get that RBAC refuses. -/
def forbiddenStatus : GoError := .status ⟨.forbidden,403,"services \"ledger\" is forbidden"⟩

/-- The status of a get without valid credentials. -/
def unauthorizedStatus : GoError := .status ⟨.unauthorized,401,"Unauthorized"⟩

/-- The subscriber of the subscription. -/
def ledger : KReference := ⟨"Service","shop","ledger","v1"⟩

/-- What a run over a refusing cluster fetches. -/
def refusingFetched (err : GoError) : Fetched (librariesWith []) (snapshot (refusing err)) :=
  { oneSubscriptionFetched with
    brokers_ok := rfl, subscribables_ok := rfl, sources_ok := rfl, eventTypes_ok := rfl
    triggers_ok := rfl, subscriptions_ok := rfl }

/-- A refusing cluster denies its subscriber for lack of permission. -/
theorem refusing_denies {err : GoError} (herr : IsDenial err) :
    DeniedForPermission (librariesWith []) (refusing err) (·=ledger) := fun _ _ => ⟨err,rfl,herr⟩

/-- Without credentials for one subscriber the rest of the mesh is built alike. -/
theorem permissionIsolation_iff_unauthorized :
    (∃ mesh, buildEventMesh (librariesWith []) (snapshot (refusing unauthorizedStatus))=.ok mesh) ∧
    buildEventMesh (librariesWith []) (snapshot (refusing unauthorizedStatus))=
      buildEventMesh (librariesWith []) (snapshot (without (refusing unauthorizedStatus) (·=ledger))) := by
  refine ⟨⟨_,(refusingFetched unauthorizedStatus).buildEventMesh_eq⟩,?_⟩
  refine (permissionIsolation_iff (librariesWith_statusLaws []) (refusing_denies (by decide))).mpr ?_
  intro f
  have hlisted : f.subscriptions=oneSubscription.subscriptions :=
    Except.ok.inj f.subscriptions_ok.symm
  rw [hlisted]
  decide

/-- One subscriber that the caller may not read stops the whole mesh. -/
theorem forbidden_subscriber_stops_mesh :
    DeniedForPermission (librariesWith []) (refusing forbiddenStatus) (·=ledger) ∧
      buildEventMesh (librariesWith []) (snapshot (refusing forbiddenStatus))≠
        buildEventMesh (librariesWith []) (snapshot (without (refusing forbiddenStatus) (·=ledger))) := by
  refine ⟨refusing_denies (by decide),fun h => ?_⟩
  have hsame := (buildEventMesh_without_iff (librariesWith_statusLaws [])
    (refusing_denies (by decide)) (refusingFetched forbiddenStatus)).mp h
  exact absurd hsame (by decide)

end KnativeMesh.Permissions
