import KnativeMesh.Wire
import KnativeMesh.Builder

/-!
# The HTTP endpoint of the backend

From a request to the response: the middleware takes the bearer token, the
endpoint builds the mesh with the caller's credentials, and the generated
handler writes what it returns. A request whose handling ends the process or
panics gets no response.
-/

namespace KnativeMesh.Endpoint

open Go Library.JsonTree Kubernetes Mesh Builder Wire

/-- rest.Config: the address and trust of the server, and every way of
authentication. Missing texts are empty, missing providers none. -/
structure RestConfig where
  host : String
  /-- Certificate authorities and the other fields that say whom to trust. -/
  serverTrust : List (String×String)
  username : String
  password : String
  bearerToken : String
  bearerTokenFile : String
  certFile : String
  certData : String
  keyFile : String
  keyData : String
  impersonate : Option String
  authProvider : Option String
  execProvider : Option String
  deriving DecidableEq

/-- The configuration that the web server starts with: no credentials of its own. -/
def noTokenConfig (config : RestConfig) : RestConfig :=
  {config with bearerToken := "", username := "", password := "", bearerTokenFile := ""}

/-- A request as the backend reads it. -/
structure HttpRequest where
  url : String
  /-- The Authorization header, empty if there is none. -/
  authorization : String
  deriving DecidableEq

/-- The body of a response. -/
inductive Body where
  | json (json : Json)
  | text (text : String)

/-- A response with its status code. -/
structure HttpResponse where
  status : ℕ
  body : Body

/-- The backend at the time of a request, and the API server behind it. -/
structure Server where
  inClusterConfig : RestConfig
  /-- The error of versioned.NewForConfig, if any. -/
  clientsetError : RestConfig → Option GoError
  /-- The error of dynamic.NewForConfig, if any. -/
  dynamicClientError : RestConfig → Option GoError
  /-- What the API server answers to clients with a configuration. -/
  answers : RestConfig → Answers

/-- The responses that the endpoint can return. -/
inductive GetEventMeshResponseObject where
  | getEventMesh200JSONResponse (mesh : EventMesh)
  | getEventMesh401JSONResponse (error : String)

/-- How the handling of a request ends: with a response, with an error that the
generated handler reports, or without either, by log.Fatalf or a panic. -/
inductive Handling where
  | response (response : GetEventMeshResponseObject)
  | error (err : GoError)
  | aborted

/-- The text of an error. -/
def errorText : GoError → String
  | .status status => status.message
  | .plain message => message
  | .wrap message cause => message++": "++errorText cause

/-- auth.GetAuthToken on the token that the context holds, if any. -/
def getAuthToken (ctx : Option String) : Option String :=
  match ctx with
  | none => none
  | some token => if token="" then none else some token

/-- The client configuration for a token. -/
def Server.configFor (server : Server) (authToken : String) : RestConfig :=
  {noTokenConfig server.inClusterConfig with bearerToken := authToken}

/-- Endpoint.GetEventMesh. -/
def getEventMesh (lib : Libraries) (server : Server) (ctx : Option String) : Handling :=
  match getAuthToken ctx with
  | none => .response (.getEventMesh401JSONResponse "Authorization header is missing")
  | some authToken =>
    let config := server.configFor authToken
    if (server.clientsetError config).isSome then .aborted
    else if (server.dynamicClientError config).isSome then .aborted
    else match buildEventMesh lib (server.answers config) with
      | .error .panic => .aborted
      | .error (.error err) => .error (.wrap "error building event mesh" err)
      | .ok eventMesh => .response (.getEventMesh200JSONResponse eventMesh)

/-- Write a response of the endpoint. -/
def visitGetEventMeshResponse : GetEventMeshResponseObject → HttpResponse
  | .getEventMesh200JSONResponse mesh => ⟨200,.json (encodeMesh mesh)⟩
  | .getEventMesh401JSONResponse error => ⟨401,.json (.obj [("error",.str error)])⟩

/-- http.Error. -/
def httpError (error : String) (code : ℕ) : HttpResponse := ⟨code,.text (error++"\n")⟩

/-- The generated strict handler: an error becomes a response with status 500. -/
def strictHandler : Handling → Option HttpResponse
  | .response response => some (visitGetEventMeshResponse response)
  | .error err => some (httpError (errorText err) 500)
  | .aborted => none

/-- auth.BearerPrefix. -/
def bearerPrefix : String := "Bearer "

/-- strings.TrimPrefix. -/
def trimPrefix (s affix : String) : String :=
  if affix.toList.isPrefixOf s.toList then String.ofList (s.toList.drop affix.length) else s

/-- unicode.IsSpace. -/
def isSpace (c : Char) : Bool :=
  c.toNat ∈ [0x20,0x85,0xA0,0x1680,0x2028,0x2029,0x202f,0x205f,0x3000] ||
    (0x09 ≤ c.toNat && c.toNat ≤ 0x0d) || (0x2000 ≤ c.toNat && c.toNat ≤ 0x200a)

/-- The token that the middleware puts into the context, unless it is blank. -/
def contextToken (authorization : String) : Option String :=
  let authTokenStr := trimPrefix authorization bearerPrefix
  if authTokenStr.toList.all isSpace then none else some authTokenStr

/-- auth.AuthTokenMiddleware. -/
def authTokenMiddleware (next : Option String → Option HttpResponse) (request : HttpRequest) :
    Option HttpResponse :=
  match contextToken request.authorization with
  | none => some (httpError "missing auth token. set the 'Authorization: Bearer YOUR_KEY' header" 401)
  | some authToken => next (some authToken)

/-- The response of the backend to a request for the mesh, if it sends one. -/
def serve (lib : Libraries) (server : Server) (request : HttpRequest) : Option HttpResponse :=
  authTokenMiddleware (fun ctx => strictHandler (getEventMesh lib server ctx)) request

/-- The answers that a request makes BuildEventMesh run on, if it gets there. -/
def Server.buildAnswers (server : Server) (request : HttpRequest) : Option Answers :=
  match contextToken request.authorization with
  | none => none
  | some authToken =>
    let config := server.configFor authToken
    if server.clientsetError config=none ∧ server.dynamicClientError config=none then
      some (server.answers config)
    else none

/-- The middleware never passes an empty token on. -/
theorem getAuthToken_contextToken {authorization token : String}
    (h : contextToken authorization=some token) : getAuthToken (some token)=some token := by
  have hne : token≠"" := by
    rintro rfl
    dsimp only [contextToken] at h
    split at h
    · cases h
    · next hblank =>
      rw [Option.some.inj h] at hblank
      exact hblank rfl
  dsimp only [getAuthToken]
  simp [hne]

/-- Where BuildEventMesh runs, its outcome decides the response. -/
theorem serve_of_buildAnswers (lib : Libraries) {server : Server} {request : HttpRequest}
    {answers : Answers} (h : server.buildAnswers request=some answers) :
    serve lib server request=
      match buildEventMesh lib answers with
      | .ok mesh => some ⟨200,.json (encodeMesh mesh)⟩
      | .error (.error err) =>
        some (httpError (errorText (.wrap "error building event mesh" err)) 500)
      | .error .panic => none := by
  dsimp only [Server.buildAnswers] at h
  cases htoken : contextToken request.authorization with
  | none => simp [htoken] at h
  | some token =>
    rw [htoken] at h
    dsimp only at h
    split at h
    · next hclients =>
      have hanswers : server.answers (server.configFor token)=answers := Option.some.inj h
      dsimp only [serve,authTokenMiddleware,getEventMesh]
      rw [htoken]
      dsimp only
      rw [getAuthToken_contextToken htoken]
      dsimp only
      rw [hclients.1,hclients.2,hanswers]
      cases buildEventMesh lib answers with
      | ok mesh => rfl
      | error exit => cases exit <;> rfl
    · cases h

/-- Where BuildEventMesh does not run, there is a response with status 401 or
none at all. -/
theorem serve_of_not_buildAnswers (lib : Libraries) {server : Server} {request : HttpRequest}
    (h : server.buildAnswers request=none) {response : HttpResponse}
    (hserve : serve lib server request=some response) : response.status=401 := by
  dsimp only [Server.buildAnswers] at h
  dsimp only [serve,authTokenMiddleware] at hserve
  cases htoken : contextToken request.authorization with
  | none =>
    rw [htoken] at hserve
    cases hserve
    rfl
  | some token =>
    rw [htoken] at h hserve
    dsimp only at h hserve
    split at h
    · cases h
    · next hclients =>
      dsimp only [getEventMesh] at hserve
      rw [getAuthToken_contextToken htoken] at hserve
      dsimp only at hserve
      by_cases hclientset : server.clientsetError (server.configFor token)=none
      · have hdynamic : server.dynamicClientError (server.configFor token)≠none :=
          fun hnone => hclients ⟨hclientset,hnone⟩
        have hsome := Option.isSome_iff_ne_none.mpr hdynamic
        simp [hclientset,hsome,strictHandler] at hserve
      · have hsome := Option.isSome_iff_ne_none.mpr hclientset
        simp [hsome,strictHandler] at hserve

/-- The backend sends a mesh with status 200 only where BuildEventMesh returned
it without an error; every other response has status 401 or 500. -/
theorem serve_cases (lib : Libraries) {server : Server} {request : HttpRequest}
    {response : HttpResponse} (hserve : serve lib server request=some response) :
    (∃ answers mesh, server.buildAnswers request=some answers ∧
      buildEventMesh lib answers=.ok mesh ∧ response=⟨200,.json (encodeMesh mesh)⟩) ∨
    response.status=401 ∨ response.status=500 := by
  cases hanswers : server.buildAnswers request with
  | none => exact .inr (.inl (serve_of_not_buildAnswers lib hanswers hserve))
  | some answers =>
    rw [serve_of_buildAnswers lib hanswers] at hserve
    split at hserve
    · next mesh hmesh =>
      have hresponse := (Option.some.inj hserve).symm
      exact .inl ⟨answers,mesh,rfl,hmesh,hresponse⟩
    · next err _ =>
      have hresponse := (Option.some.inj hserve).symm
      rw [hresponse]
      exact .inr (.inr rfl)
    · cases hserve

end KnativeMesh.Endpoint
