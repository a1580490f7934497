import KnativeMesh.Credentials
import KnativeMesh.Triggers
import KnativeMesh.Library.SharedHeap

/-!
# Requests at the same time

The web server handles every request in a goroutine of its own, and all of them
share the configuration that the endpoint holds. Each access to a configuration
is a step of its own, and the steps of the requests may be mixed in any order.
Every request is nevertheless answered as if it were alone, and no two of them
race. A client that cannot be created ends the process.
-/

namespace KnativeMesh.Requests

open Go Kubernetes Mesh Builder Endpoint Credentials ClusterContents Triggers Library.SharedHeap

/-- What the handling of a request meets besides the backend: the outcomes of
NewForConfig, and the answers of the API server. -/
structure Surroundings where
  clientsetError : RestConfig → Option GoError
  dynamicClientError : RestConfig → Option GoError
  answers : RestConfig → Answers

/-- A request that arrives. -/
structure Arrival where
  request : HttpRequest
  surroundings : Surroundings

/-- How far the handling of a request has come; a configuration is an address. -/
inductive Phase where
  | received
  | authorized (authToken : String)
  /-- CopyConfig has read the endpoint's configuration. -/
  | copying (authToken : String) (inClusterConfig : RestConfig)
  | copied (authToken : String) (config : ℕ)
  | configured (config : ℕ)
  /-- The clientset was created with what it read of the configuration. -/
  | connecting (config : ℕ) (clientset : RestConfig)
  | reading (clientset dynamicClient : RestConfig)
  | responded (response : HttpResponse)
  /-- BuildEventMesh panicked, and the connection is closed. -/
  | dropped
  /-- log.Fatalf. -/
  | fatal

/-- A request in handling. -/
structure Handler where
  arrival : Arrival
  phase : Phase

/-- The same request, further on. -/
def Handler.goTo (handler : Handler) (phase : Phase) : Handler := {handler with phase := phase}

/-- The answers that two clients get, each with its own configuration. -/
def clientAnswers (surroundings : Surroundings) (clientset dynamicClient : RestConfig) : Answers :=
  fun moment => ⟨(surroundings.answers clientset moment).clientset,
    (surroundings.answers dynamicClient moment).dynamicClient⟩

/-- The end of GetEventMesh, once both clients exist. -/
def finish (lib : Libraries) (surroundings : Surroundings) (clientset dynamicClient : RestConfig) :
    Phase :=
  match buildEventMesh lib (clientAnswers surroundings clientset dynamicClient) with
  | .error .panic => .dropped
  | .error (.error err) =>
    .responded (httpError (errorText (.wrap "error building event mesh" err)) 500)
  | .ok eventMesh => .responded (visitGetEventMeshResponse (.getEventMesh200JSONResponse eventMesh))

/-- The next step of a request: first the middleware, then GetEventMesh. -/
def handlerCommand (lib : Libraries) (inClusterConfig : ℕ) (handler : Handler) :
    Command Handler RestConfig :=
  let surroundings := handler.arrival.surroundings
  match handler.phase with
  | .received =>
    match contextToken handler.arrival.request.authorization with
    | none => .tau (handler.goTo (.responded
        (httpError "missing auth token. set the 'Authorization: Bearer YOUR_KEY' header" 401)))
    | some authToken => .tau (handler.goTo (.authorized authToken))
  | .authorized ctx =>
    match getAuthToken (some ctx) with
    | none => .tau (handler.goTo (.responded (visitGetEventMeshResponse
        (.getEventMesh401JSONResponse "Authorization header is missing"))))
    | some authToken => .load inClusterConfig fun config => handler.goTo (.copying authToken config)
  | .copying authToken config => .alloc config fun copy => handler.goTo (.copied authToken copy)
  | .copied authToken config =>
    .store config (fun config => {config with bearerToken := authToken})
      (handler.goTo (.configured config))
  | .configured config =>
    .load config fun clientset =>
      if (surroundings.clientsetError clientset).isSome then handler.goTo .fatal
      else handler.goTo (.connecting config clientset)
  | .connecting config clientset =>
    .load config fun dynamicClient =>
      if (surroundings.dynamicClientError dynamicClient).isSome then handler.goTo .fatal
      else handler.goTo (.reading clientset dynamicClient)
  | .reading clientset dynamicClient =>
    .tau (handler.goTo (finish lib surroundings clientset dynamicClient))
  | .responded _ => .done
  | .dropped => .done
  | .fatal => .exit

/-- The web server: every request that arrives starts a handler. -/
def webServer (lib : Libraries) : System Arrival Handler RestConfig :=
  { spawn := fun arrival => ⟨arrival,.received⟩
    command := handlerCommand lib 0 }

/-- The processes that a web server started with a loaded configuration can be
in. -/
def Serving (lib : Libraries) (loaded : RestConfig) (process : Process Handler RestConfig) : Prop :=
  (webServer lib).Reachable (startWebServer loaded).configs process

/-- The copy of the configuration that a request owns. -/
def ownedConfigs (handler : Handler) : List ℕ :=
  match handler.phase with
  | .copied _ config => [config]
  | .configured config => [config]
  | .connecting config _ => [config]
  | _ => []

/-- The backend as a request meets it that is alone. -/
def serverFor (loaded : RestConfig) (surroundings : Surroundings) : Server :=
  ⟨loaded,surroundings.clientsetError,surroundings.dynamicClientError,surroundings.answers⟩

/-- The end of GetEventMesh leaves no copy of the configuration behind. -/
theorem ownedConfigs_finish (lib : Libraries) (handler : Handler) (clientset dynamicClient : RestConfig) :
    ownedConfigs (handler.goTo
      (finish lib handler.arrival.surroundings clientset dynamicClient))=[] := by
  unfold finish
  cases buildEventMesh lib (clientAnswers handler.arrival.surroundings clientset dynamicClient) with
  | ok mesh => rfl
  | error exit => cases exit <;> rfl

/-- Handlers store only into their own copy, and load only it and the
endpoint's configuration. -/
theorem webServer_disciplined (lib : Libraries) (loaded : RestConfig) :
    Disciplined (webServer lib) ownedConfigs (startWebServer loaded).configs.length where
  spawn := fun _ => rfl
  allowed := by
    intro handler
    rcases handler with ⟨arrival,phase⟩
    cases phase with
    | received =>
      dsimp only [webServer,handlerCommand]
      cases contextToken arrival.request.authorization with
      | none => exact List.nil_subset _
      | some token => exact List.nil_subset _
    | authorized ctx =>
      dsimp only [webServer,handlerCommand]
      cases getAuthToken (some ctx) with
      | none => exact List.nil_subset _
      | some token => exact ⟨.inl Nat.one_pos,fun _ => List.nil_subset _⟩
    | copying authToken config => exact fun _ => List.Subset.refl _
    | copied authToken config => exact ⟨List.mem_cons_self,List.Subset.refl _⟩
    | configured config =>
      refine ⟨.inr List.mem_cons_self,fun value => ?_⟩
      dsimp only
      split
      · exact List.nil_subset _
      · exact List.Subset.refl _
    | connecting config clientset =>
      refine ⟨.inr List.mem_cons_self,fun value => ?_⟩
      dsimp only
      split
      · exact List.nil_subset _
      · exact List.nil_subset _
    | reading clientset dynamicClient =>
      dsimp only [webServer,handlerCommand,Command.Allowed]
      rw [ownedConfigs_finish]
      exact List.nil_subset _
    | responded response => trivial
    | dropped => trivial
    | fatal => trivial

/-- What one step of a request comes to: the phase and the configurations after
it, and what it found. -/
inductive Progress (lib : Libraries) (arrival : Arrival) (configs : List RestConfig) :
    Phase → Phase → List RestConfig → Prop where
  | rejected (htoken : contextToken arrival.request.authorization=none) :
    Progress lib arrival configs .received (.responded
      (httpError "missing auth token. set the 'Authorization: Bearer YOUR_KEY' header" 401)) configs
  | authorized {authToken : String}
    (htoken : contextToken arrival.request.authorization=some authToken) :
    Progress lib arrival configs .received (.authorized authToken) configs
  | unauthorized {ctx : String} (htoken : getAuthToken (some ctx)=none) :
    Progress lib arrival configs (.authorized ctx) (.responded (visitGetEventMeshResponse
      (.getEventMesh401JSONResponse "Authorization header is missing"))) configs
  | read {ctx authToken : String} {config : RestConfig} (htoken : getAuthToken (some ctx)=some authToken)
    (hconfig : configs[0]?=some config) :
    Progress lib arrival configs (.authorized ctx) (.copying authToken config) configs
  | copied (authToken : String) (config : RestConfig) :
    Progress lib arrival configs (.copying authToken config) (.copied authToken configs.length)
      (configs++[config])
  | stored {config : ℕ} {value : RestConfig} (authToken : String) (hvalue : configs[config]?=some value) :
    Progress lib arrival configs (.copied authToken config) (.configured config)
      (configs.set config {value with bearerToken := authToken})
  | noClientset {config : ℕ} {value : RestConfig} (hvalue : configs[config]?=some value)
    (herror : arrival.surroundings.clientsetError value≠none) :
    Progress lib arrival configs (.configured config) .fatal configs
  | clientset {config : ℕ} {value : RestConfig} (hvalue : configs[config]?=some value)
    (hnone : arrival.surroundings.clientsetError value=none) :
    Progress lib arrival configs (.configured config) (.connecting config value) configs
  | noDynamicClient {config : ℕ} {value : RestConfig} (clientset : RestConfig)
    (hvalue : configs[config]?=some value) (herror : arrival.surroundings.dynamicClientError value≠none) :
    Progress lib arrival configs (.connecting config clientset) .fatal configs
  | dynamicClient {config : ℕ} {value : RestConfig} (clientset : RestConfig)
    (hvalue : configs[config]?=some value) (hnone : arrival.surroundings.dynamicClientError value=none) :
    Progress lib arrival configs (.connecting config clientset) (.reading clientset value) configs
  | ended (clientset dynamicClient : RestConfig) :
    Progress lib arrival configs (.reading clientset dynamicClient)
      (finish lib arrival.surroundings clientset dynamicClient) configs

/-- Every step of a request comes to one of these. -/
theorem progress_execute {lib : Libraries} {arrival : Arrival} {phase : Phase} {next : Handler}
    {configs configs' : List RestConfig}
    (h : execute configs ((webServer lib).command ⟨arrival,phase⟩)=some (next,configs')) :
    ∃ phase', next=⟨arrival,phase'⟩ ∧ Progress lib arrival configs phase phase' configs' := by
  cases phase with
  | received =>
    dsimp only [webServer,handlerCommand] at h
    cases htoken : contextToken arrival.request.authorization with
    | none =>
      rw [htoken] at h
      cases h
      exact ⟨_,rfl,.rejected htoken⟩
    | some authToken =>
      rw [htoken] at h
      cases h
      exact ⟨_,rfl,.authorized htoken⟩
  | authorized ctx =>
    dsimp only [webServer,handlerCommand] at h
    cases htoken : getAuthToken (some ctx) with
    | none =>
      rw [htoken] at h
      cases h
      exact ⟨_,rfl,.unauthorized htoken⟩
    | some authToken =>
      rw [htoken] at h
      have hvalue := Option.map_eq_some_iff.mp h
      rcases hvalue with ⟨config,hconfig,hresult⟩
      cases hresult
      exact ⟨_,rfl,.read htoken hconfig⟩
  | copying authToken config =>
    cases h
    exact ⟨_,rfl,.copied authToken config⟩
  | copied authToken config =>
    have hvalue := Option.map_eq_some_iff.mp h
    rcases hvalue with ⟨value,hvalue,hresult⟩
    cases hresult
    exact ⟨_,rfl,.stored authToken hvalue⟩
  | configured config =>
    have hvalue := Option.map_eq_some_iff.mp h
    rcases hvalue with ⟨value,hvalue,hresult⟩
    cases hresult
    cases herror : arrival.surroundings.clientsetError value with
    | none =>
      refine ⟨_,?_,.clientset hvalue herror⟩
      dsimp only
      rw [herror]
      rfl
    | some err =>
      refine ⟨_,?_,.noClientset hvalue (ne_of_eq_of_ne herror nofun)⟩
      dsimp only
      rw [herror]
      rfl
  | connecting config clientset =>
    have hvalue := Option.map_eq_some_iff.mp h
    rcases hvalue with ⟨value,hvalue,hresult⟩
    cases hresult
    cases herror : arrival.surroundings.dynamicClientError value with
    | none =>
      refine ⟨_,?_,.dynamicClient clientset hvalue herror⟩
      dsimp only
      rw [herror]
      rfl
    | some err =>
      refine ⟨_,?_,.noDynamicClient clientset hvalue (ne_of_eq_of_ne herror nofun)⟩
      dsimp only
      rw [herror]
      rfl
  | reading clientset dynamicClient =>
    cases h
    exact ⟨_,rfl,.ended clientset dynamicClient⟩
  | responded response => cases h
  | dropped => cases h
  | fatal => cases h

/-- What the steps of a request have settled about it, phase by phase. -/
def Settled (lib : Libraries) (loaded : RestConfig) (handler : Handler) (configs : List RestConfig) :
    Prop :=
  let server := serverFor loaded handler.arrival.surroundings
  let token := contextToken handler.arrival.request.authorization
  match handler.phase with
  | .received => True
  | .authorized authToken => token=some authToken
  | .copying authToken config => token=some authToken ∧ config=noTokenConfig loaded
  | .copied authToken config =>
    token=some authToken ∧ configs[config]?=some (noTokenConfig loaded)
  | .configured config =>
    ∃ authToken, token=some authToken ∧ configs[config]?=some (server.configFor authToken)
  | .connecting config clientset =>
    ∃ authToken, token=some authToken ∧ configs[config]?=some (server.configFor authToken) ∧
      clientset=server.configFor authToken ∧ server.clientsetError clientset=none
  | .reading clientset dynamicClient =>
    ∃ authToken, token=some authToken ∧ clientset=server.configFor authToken ∧
      dynamicClient=server.configFor authToken ∧ server.clientsetError clientset=none ∧
        server.dynamicClientError dynamicClient=none
  | .responded response => serve lib server handler.arrival.request=some response
  | .dropped => ∃ answers, server.buildAnswers handler.arrival.request=some answers ∧
      buildEventMesh lib answers=.error .panic
  | .fatal => token≠none ∧ server.buildAnswers handler.arrival.request=none

section Steps

variable {lib : Libraries} {loaded : RestConfig}

/-- What is settled about a request depends on its own copy of the
configuration only. -/
theorem settled_frame {handler : Handler} {configs configs' : List RestConfig}
    (hsame : ∀ config ∈ ownedConfigs handler, configs'[config]?=configs[config]?)
    (h : Settled lib loaded handler configs) : Settled lib loaded handler configs' := by
  rcases handler with ⟨arrival,phase⟩
  cases phase with
  | copied authToken config =>
    have hconfig := hsame config List.mem_cons_self
    exact ⟨h.1,hconfig.trans h.2⟩
  | configured config =>
    have hconfig := hsame config List.mem_cons_self
    rcases h with ⟨authToken,htoken,hvalue⟩
    exact ⟨authToken,htoken,hconfig.trans hvalue⟩
  | connecting config clientset =>
    have hconfig := hsame config List.mem_cons_self
    rcases h with ⟨authToken,htoken,hvalue,hrest⟩
    exact ⟨authToken,htoken,hconfig.trans hvalue,hrest⟩
  | _ => exact h

/-- A client that cannot be created keeps BuildEventMesh from running. -/
theorem buildAnswers_eq_none {server : Server} {request : HttpRequest} {authToken : String}
    (htoken : contextToken request.authorization=some authToken)
    (h : ¬ (server.clientsetError (server.configFor authToken)=none ∧
      server.dynamicClientError (server.configFor authToken)=none)) :
    server.buildAnswers request=none := by
  dsimp only [Server.buildAnswers]
  rw [htoken]
  exact if_neg h

/-- The end of GetEventMesh responds as to a request that is alone, or panics. -/
theorem settled_finish {arrival : Arrival} {clientset dynamicClient : RestConfig}
    {configs : List RestConfig}
    (h : Settled lib loaded ⟨arrival,.reading clientset dynamicClient⟩ configs) :
    Settled lib loaded ⟨arrival,finish lib arrival.surroundings clientset dynamicClient⟩ configs := by
  dsimp only [Settled] at h
  rcases h with ⟨authToken,htoken,rfl,rfl,hclientset,hdynamicClient⟩
  have hanswers : (serverFor loaded arrival.surroundings).buildAnswers arrival.request=
      some (arrival.surroundings.answers
        ((serverFor loaded arrival.surroundings).configFor authToken)) := by
    dsimp only [Server.buildAnswers]
    rw [htoken]
    exact if_pos ⟨hclientset,hdynamicClient⟩
  have hserve := serve_of_buildAnswers lib hanswers
  unfold finish clientAnswers
  cases hmesh : buildEventMesh lib (arrival.surroundings.answers
      ((serverFor loaded arrival.surroundings).configFor authToken)) with
  | ok mesh =>
    rw [hmesh] at hserve
    exact hserve
  | error exit =>
    rw [hmesh] at hserve
    cases exit with
    | error err => exact hserve
    | panic => exact ⟨_,hanswers,hmesh⟩

/-- Every step of a request keeps what is settled about it. -/
theorem settled_execute {handler next : Handler} {configs configs' : List RestConfig}
    (hendpoint : configs[0]?=some (noTokenConfig loaded)) (h : Settled lib loaded handler configs)
    (hstep : execute configs ((webServer lib).command handler)=some (next,configs')) :
    Settled lib loaded next configs' := by
  rcases handler with ⟨arrival,phase⟩
  have hprogress := progress_execute hstep
  rcases hprogress with ⟨phase',rfl,hprogress⟩
  cases hprogress with
  | rejected htoken =>
    dsimp only [Settled,serve,authTokenMiddleware]
    rw [htoken]
  | authorized htoken => exact htoken
  | unauthorized htoken => exact absurd ((getAuthToken_contextToken h).symm.trans htoken) nofun
  | read htoken hconfig =>
    have hsame := (getAuthToken_contextToken h).symm.trans htoken
    cases hsame
    exact ⟨h,Option.some.inj (hconfig.symm.trans hendpoint)⟩
  | copied authToken config =>
    refine ⟨h.1,?_⟩
    rw [List.getElem?_concat_length,h.2]
  | stored authToken hvalue =>
    have hsame := hvalue.symm.trans h.2
    cases hsame
    refine ⟨authToken,h.1,?_⟩
    rw [List.getElem?_set_self (List.getElem?_eq_some_iff.mp hvalue).1]
    rfl
  | noClientset hvalue herror =>
    rcases h with ⟨authToken,htoken,hconfig⟩
    have hsame := hvalue.symm.trans hconfig
    cases hsame
    exact ⟨ne_of_eq_of_ne htoken nofun,buildAnswers_eq_none htoken fun hp => herror hp.1⟩
  | clientset hvalue hnone =>
    rcases h with ⟨authToken,htoken,hconfig⟩
    have hsame := hvalue.symm.trans hconfig
    cases hsame
    exact ⟨authToken,htoken,hvalue,rfl,hnone⟩
  | noDynamicClient clientset hvalue herror =>
    rcases h with ⟨authToken,htoken,hconfig,hclientset⟩
    have hsame := hvalue.symm.trans hconfig
    cases hsame
    exact ⟨ne_of_eq_of_ne htoken nofun,buildAnswers_eq_none htoken fun hp => herror hp.2⟩
  | dynamicClient clientset hvalue hnone =>
    rcases h with ⟨authToken,htoken,hconfig,hclientset,hfirst⟩
    have hsame := hvalue.symm.trans hconfig
    cases hsame
    exact ⟨authToken,htoken,hclientset,rfl,hfirst,hnone⟩
  | ended clientset dynamicClient => exact settled_finish h

/-- What has been settled about a request at any time, whatever the others do. -/
theorem settled_of_serving {process : Process Handler RestConfig} (h : Serving lib loaded process) :
    ∀ handler ∈ process.threads, Settled lib loaded handler process.heap := by
  refine local_of_reachable (webServer_disciplined lib loaded) (fun _ _ _ => trivial) ?_ ?_ h
  · intro handler now later hsame hsettled
    exact settled_frame (fun config hconfig => hsame config (.inr hconfig)) hsettled
  · intro handler now next later hpublished hsettled hstep
    exact settled_execute (hpublished 0 Nat.one_pos) hsettled hstep

end Steps

/-- What the users of the web server rely on: a request is answered as it would
be alone, a request that is dropped would get no answer alone either, and both
clients of a request use the endpoint's configuration and the request's token. -/
structure Served (lib : Libraries) (loaded : RestConfig) (handler : Handler) : Prop where
  response : ∀ response, handler.phase=.responded response →
    serve lib (serverFor loaded handler.arrival.surroundings) handler.arrival.request=some response
  dropped : handler.phase=.dropped →
    serve lib (serverFor loaded handler.arrival.surroundings) handler.arrival.request=none
  clients : ∀ clientset dynamicClient, handler.phase=.reading clientset dynamicClient →
    ∃ authToken, contextToken handler.arrival.request.authorization=some authToken ∧
      clientset={noTokenConfig loaded with bearerToken := authToken} ∧
      dynamicClient={noTokenConfig loaded with bearerToken := authToken}

/-- A client that a request of the process could not create. -/
def ClientFailed (loaded : RestConfig) (handler : Handler) : Prop :=
  handler.phase=.fatal ∧ contextToken handler.arrival.request.authorization≠none ∧
    (serverFor loaded handler.arrival.surroundings).buildAnswers handler.arrival.request=none

/-- Only the handler of a fatal error ends the process. -/
theorem phase_of_exit {lib : Libraries} {handler : Handler}
    (h : (webServer lib).command handler=.exit) : handler.phase=.fatal := by
  rcases handler with ⟨arrival,phase⟩
  cases phase with
  | received =>
    dsimp only [webServer,handlerCommand] at h
    cases htoken : contextToken arrival.request.authorization <;> simp [htoken] at h
  | authorized ctx =>
    dsimp only [webServer,handlerCommand] at h
    cases htoken : getAuthToken (some ctx) <;> simp [htoken] at h
  | fatal => rfl
  | _ => cases h

/-- However the steps of concurrent requests are mixed, each of them is served
as if it were alone, and the process only ends because a client could not be
created. -/
theorem served_of_serving {lib : Libraries} {loaded : RestConfig}
    {process : Process Handler RestConfig} (h : Serving lib loaded process) :
    (∀ handler ∈ process.threads, Served lib loaded handler) ∧
      (process.running=false → ∃ handler ∈ process.threads, ClientFailed loaded handler) := by
  have hsettled := settled_of_serving h
  constructor
  · intro handler hmem
    have hhandler := hsettled handler hmem
    rcases handler with ⟨arrival,phase⟩
    refine ⟨?_,?_,?_⟩
    · rintro response rfl
      exact hhandler
    · rintro rfl
      rcases hhandler with ⟨answers,hanswers,hpanic⟩
      rw [serve_of_buildAnswers lib hanswers,hpanic]
    · rintro clientset dynamicClient rfl
      rcases hhandler with ⟨authToken,htoken,hclientset,hdynamicClient,_⟩
      exact ⟨authToken,htoken,hclientset,hdynamicClient⟩
  · intro hended
    have hexit := (webServer lib).exists_exit_of_reachable h hended
    rcases hexit with ⟨handler,hmem,hexit⟩
    have hfatal := phase_of_exit hexit
    have hhandler := hsettled handler hmem
    refine ⟨handler,hmem,hfatal,?_⟩
    rcases handler with ⟨arrival,phase⟩
    cases hfatal
    exact hhandler

/-- Whether a request has been answered or dropped. -/
def finished (handler : Handler) : Bool :=
  match handler.phase with
  | .responded _ => true
  | .dropped => true
  | _ => false

/-- A request with a token for a cluster that answers everybody. -/
def arrivalFor (authorization : String) (cluster : Cluster) : Arrival :=
  ⟨⟨"/v1/getEventMesh",authorization⟩,⟨fun _ => none,fun _ => none,fun _ => snapshot cluster⟩⟩

/-- Two requests take turns. -/
def turns (count : ℕ) : List (Event Arrival) :=
  (List.replicate count [Event.advance 0,Event.advance 1]).flatten

/-- Two requests arrive and then take turns. -/
def takingTurns (count : ℕ) : List (Event Arrival) :=
  [.start (arrivalFor "Bearer alice" fourTriggers.cluster),
    .start (arrivalFor "Bearer bob" fourTriggers.cluster)]++turns count

/-- After seven turns each, both requests have been answered, each as if it were
alone. -/
theorem served_of_serving_takingTurns :
    ∃ process, Serving (librariesWith []) podConfig process ∧ process.threads.length=2 ∧
      process.threads.all finished=true ∧
      ∀ handler ∈ process.threads, Served (librariesWith []) podConfig handler := by
  have hserving : Serving (librariesWith []) podConfig _ := ⟨takingTurns 7,rfl⟩
  exact ⟨_,hserving,rfl,rfl,(served_of_serving hserving).1⟩

/-- Handlers of concurrent requests never access a configuration at the same
time of which one stores into it, and the endpoint's configuration stays as the
start of the web server left it. -/
theorem raceFree_of_serving {lib : Libraries} {loaded : RestConfig}
    {process : Process Handler RestConfig} (h : Serving lib loaded process) :
    ¬ Race (webServer lib) process ∧ process.heap[0]?=some (noTokenConfig loaded) :=
  ⟨not_race_of_reachable (webServer_disciplined lib loaded) h,
    published_of_reachable (webServer_disciplined lib loaded) h Nat.one_pos⟩

/-- After three turns each, both requests are about to store their tokens, each
into its own copy. -/
theorem raceFree_of_serving_takingTurns :
    ∃ process, Serving (librariesWith []) podConfig process ∧
      process.threads.map (·.phase)=[.copied "alice" 1,.copied "bob" 2] ∧
      ¬ Race (webServer (librariesWith [])) process ∧
      process.heap[0]?=some (noTokenConfig podConfig) := by
  have hserving : Serving (librariesWith []) podConfig _ := ⟨takingTurns 3,rfl⟩
  exact ⟨_,hserving,rfl,raceFree_of_serving hserving⟩

end KnativeMesh.Requests
