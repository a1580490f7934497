import KnativeMesh.BearerTokens

/-!
# Whose credentials reach Kubernetes

The web server loads one configuration, removes credentials from it, and keeps
it for all requests. Every request works on a copy of its own, in which it sets
its token. Configurations are allocated objects and pointers are positions, so
that a write through one pointer is seen wherever the object is shared. No
token leaks from one request into another, but the start removes only some of
the fields that authenticate.
-/

namespace KnativeMesh.Credentials

open Endpoint BearerTokens

/-- Everything of a configuration that authenticates its user. -/
structure Material where
  username : String
  password : String
  bearerToken : String
  bearerTokenFile : String
  certFile : String
  certData : String
  keyFile : String
  keyData : String
  impersonate : Option String
  authProvider : Option String
  execProvider : Option String
  deriving DecidableEq

/-- The authentication material of a configuration. -/
def material (config : RestConfig) : Material :=
  ⟨config.username,config.password,config.bearerToken,config.bearerTokenFile,config.certFile,
    config.certData,config.keyFile,config.keyData,config.impersonate,config.authProvider,
    config.execProvider⟩

/-- A token and nothing else. -/
def tokenOnly (token : String) : Material := ⟨"","",token,"","","","","",none,none,none⟩

/-- The running backend: the configurations allocated so far, and the pointer
that the endpoint holds. -/
structure Backend where
  configs : List RestConfig
  inClusterConfig : ℕ

/-- startWebServer: the loaded configuration is stripped in place and passed to
NewEndpoint. -/
def startWebServer (loaded : RestConfig) : Backend := ⟨[noTokenConfig loaded],0⟩

/-- rest.CopyConfig: a new object with the same fields. -/
def copyConfig (configs : List RestConfig) (config : ℕ) : List RestConfig×ℕ :=
  (configs++(configs[config]?).toList,configs.length)

/-- config.BearerToken = authToken, through a pointer. -/
def setBearerToken (configs : List RestConfig) (config : ℕ) (authToken : String) : List RestConfig :=
  configs.modify config fun config => {config with bearerToken := authToken}

/-- One request: the backend after it, and the configuration that GetEventMesh
creates its clients with, if it gets there. -/
def handle (backend : Backend) (request : HttpRequest) : Backend×Option RestConfig :=
  match (contextToken request.authorization).bind fun token => getAuthToken (some token) with
  | none => (backend,none)
  | some authToken =>
    let copy := copyConfig backend.configs backend.inClusterConfig
    let configs := setBearerToken copy.1 copy.2 authToken
    ({backend with configs := configs},configs[copy.2]?)

/-- The configurations used for a sequence of requests, one after the other. -/
def handleAll (backend : Backend) : List HttpRequest → List (Option RestConfig)
  | [] => []
  | request::requests =>
    (handle backend request).2::handleAll (handle backend request).1 requests

/-- The endpoint's pointer leads to a configuration. -/
def Holds (backend : Backend) (config : RestConfig) : Prop :=
  backend.configs[backend.inClusterConfig]?=some config

/-- Setting a token through a pointer leaves every other configuration. -/
theorem getElem?_setBearerToken_of_ne (configs : List RestConfig) {config other : ℕ}
    (h : config≠other) (authToken : String) :
    (setBearerToken configs config authToken)[other]?=configs[other]? :=
  List.getElem?_modify_ne _ _ h

/-- Setting a token through a pointer changes the token of its configuration. -/
theorem getElem?_setBearerToken_self (configs : List RestConfig) (config : ℕ) (authToken : String) :
    (setBearerToken configs config authToken)[config]?=configs[config]?.map fun config =>
      {config with bearerToken := authToken} :=
  List.getElem?_modify_eq _ _ _

/-- A request uses the endpoint's configuration with its own token, and leaves
that configuration as it is for the requests after it. -/
theorem handle_spec {backend : Backend} {config : RestConfig} (h : Holds backend config)
    (request : HttpRequest) :
    Holds (handle backend request).1 config ∧
      (handle backend request).2=(contextToken request.authorization).map fun token =>
        {config with bearerToken := token} := by
  dsimp only [handle]
  cases htoken : contextToken request.authorization with
  | none => exact ⟨h,rfl⟩
  | some token =>
    dsimp only [Holds] at h
    have hbound : backend.inClusterConfig < backend.configs.length :=
      (List.getElem?_eq_some_iff.mp h).1
    have hne : backend.configs.length≠backend.inClusterConfig := by omega
    rw [Option.bind_some,getAuthToken_contextToken htoken,Option.map_some]
    dsimp only [copyConfig,Holds]
    rw [h,Option.toList_some]
    constructor
    · rw [getElem?_setBearerToken_of_ne _ hne,List.getElem?_append_left hbound,h]
    · rw [getElem?_setBearerToken_self,List.getElem?_append_right (Nat.le_refl _),Nat.sub_self]
      rfl

/-- Every request of a run uses the configuration that the web server started
with and its own token, whatever requests came before it. -/
theorem handleAll_eq {backend : Backend} {config : RestConfig} (h : Holds backend config)
    (requests : List HttpRequest) :
    handleAll backend requests=requests.map fun request =>
      (contextToken request.authorization).map fun token => {config with bearerToken := token} := by
  induction requests generalizing backend with
  | nil => rfl
  | cons request requests ih =>
    have hstep := handle_spec h request
    rw [handleAll,List.map_cons,hstep.2,ih hstep.1]

/-- The configuration of a request is the one that the endpoint's response is
computed from. -/
theorem handle_configFor (server : Server) (request : HttpRequest) :
    (handle (startWebServer server.inClusterConfig) request).2=
      (contextToken request.authorization).map server.configFor := by
  have hstart : Holds (startWebServer server.inClusterConfig)
      (noTokenConfig server.inClusterConfig) := rfl
  exact (handle_spec hstart request).2

/-- What each request of a run presents to Kubernetes, if it gets there. -/
def presented (loaded : RestConfig) (requests : List HttpRequest) : List (Option Material) :=
  (handleAll (startWebServer loaded) requests).map (Option.map material)

/-- What each request ought to present: its own token and nothing else. -/
def ownTokens (requests : List HttpRequest) : List (Option Material) :=
  requests.map fun request => (contextToken request.authorization).map tokenOnly

/-- Two backends with different configurations of their own present the same
for every request, and that is the token of the request. -/
def LendsNothing (first second : RestConfig) (requests : List HttpRequest) : Prop :=
  presented first requests=presented second requests ∧ presented first requests=ownTokens requests

instance (first second : RestConfig) (requests : List HttpRequest) :
    Decidable (LendsNothing first second requests) := inferInstanceAs (Decidable (_ ∧ _))

/-- A configuration without client certificate and key, impersonation,
authentication provider and credential plugin. -/
structure NothingLeft (config : RestConfig) : Prop where
  certFile : config.certFile=""
  certData : config.certData=""
  keyFile : config.keyFile=""
  keyData : config.keyData=""
  impersonate : config.impersonate=none
  authProvider : config.authProvider=none
  execProvider : config.execProvider=none

/-- Nothing but the token is presented exactly where the start has left nothing
else in the configuration. -/
theorem material_noTokenConfig_iff (loaded : RestConfig) (token : String) :
    material {noTokenConfig loaded with bearerToken := token}=tokenOnly token ↔
      NothingLeft loaded := by
  dsimp only [material,noTokenConfig,tokenOnly]
  rw [Material.mk.injEq]
  constructor
  · intro hp
    rcases hp with ⟨_,_,_,_,hcertFile,hcertData,hkeyFile,hkeyData,himpersonate,hauth,hexec⟩
    exact ⟨hcertFile,hcertData,hkeyFile,hkeyData,himpersonate,hauth,hexec⟩
  · intro h
    exact ⟨rfl,rfl,rfl,rfl,h.certFile,h.certData,h.keyFile,h.keyData,h.impersonate,h.authProvider,
      h.execProvider⟩

/-- What a run presents is the stripped configuration with each token. -/
theorem presented_eq (loaded : RestConfig) (requests : List HttpRequest) :
    presented loaded requests=requests.map fun request =>
      (contextToken request.authorization).map fun token =>
        material {noTokenConfig loaded with bearerToken := token} := by
  have hstart : Holds (startWebServer loaded) (noTokenConfig loaded) := rfl
  dsimp only [presented]
  rw [handleAll_eq hstart,List.map_map]
  simp only [Function.comp_def,Option.map_map]

/-- A run presents the tokens of its requests and nothing else exactly if no
request gets past the middleware or nothing else is left. -/
theorem presented_eq_ownTokens_iff (loaded : RestConfig) (requests : List HttpRequest) :
    presented loaded requests=ownTokens requests ↔
      (∀ request ∈ requests, contextToken request.authorization=none) ∨ NothingLeft loaded := by
  rw [presented_eq]
  dsimp only [ownTokens]
  rw [List.map_inj_left]
  constructor
  · intro h
    by_cases hleft : NothingLeft loaded
    · exact .inr hleft
    · refine .inl fun request hmem => ?_
      cases htoken : contextToken request.authorization with
      | none => rfl
      | some token =>
        have hsame := h request hmem
        rw [htoken,Option.map_some,Option.map_some,Option.some.injEq] at hsame
        exact absurd ((material_noTokenConfig_iff loaded token).mp hsame) hleft
  · intro hp request hmem
    rcases hp with hnone | hleft
    · rw [hnone request hmem]
      rfl
    · cases contextToken request.authorization with
      | none => rfl
      | some token =>
        have hsame := (material_noTokenConfig_iff loaded token).mpr hleft
        rw [Option.map_some,Option.map_some,hsame]

/-- Two backends lend nothing of their own in a run exactly if no request of it
gets past the middleware, or neither was loaded with a client certificate or
key, an impersonation, an authentication provider or a credential plugin. -/
theorem lendsNothing_iff (first second : RestConfig) (requests : List HttpRequest) :
    LendsNothing first second requests ↔
      (∀ request ∈ requests, contextToken request.authorization=none) ∨
        NothingLeft first ∧ NothingLeft second := by
  have hfirst := presented_eq_ownTokens_iff first requests
  have hsecond := presented_eq_ownTokens_iff second requests
  dsimp only [LendsNothing]
  constructor
  · intro hp
    rcases hp with ⟨hsame,hown⟩
    rcases hfirst.mp hown with hnone | hleft
    · exact .inl hnone
    · rcases hsecond.mp (hsame.symm.trans hown) with hnone | hleft'
      · exact .inl hnone
      · exact .inr ⟨hleft,hleft'⟩
  · intro hp
    have hown : presented first requests=ownTokens requests := hfirst.mpr (hp.imp id And.left)
    have hown' : presented second requests=ownTokens requests := hsecond.mpr (hp.imp id And.right)
    exact ⟨hown.trans hown'.symm,hown⟩

/-- A configuration as the service account of a pod has it. -/
def podConfig : RestConfig :=
  ⟨"https://kubernetes.default.svc",[("CAFile","/var/run/secrets/ca.crt")],"","","pod-token",
    "/var/run/secrets/token","","","","",none,none,none⟩

/-- A configuration from a kubeconfig with a client certificate, for the same
server. -/
def kubeconfigConfig : RestConfig :=
  ⟨"https://kubernetes.default.svc",[("CAFile","/var/run/secrets/ca.crt")],"","","","","",
    "admin-certificate","","admin-key",none,none,none⟩

/-- A backend that was started from the kubeconfig calls Kubernetes with the
client certificate of the administrator for every user. -/
theorem clientCertificate_lent :
    podConfig.host=kubeconfigConfig.host ∧ podConfig.serverTrust=kubeconfigConfig.serverTrust ∧
      ¬ LendsNothing podConfig kubeconfigConfig [⟨"/v1/getEventMesh","Bearer user-token"⟩] := by
  decide

end KnativeMesh.Credentials
