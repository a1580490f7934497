import KnativeMesh.Endpoint

/-!
# Which Authorization headers are accepted

A bearer header is the scheme, a blank, and a token that is not blank. The
middleware strips the scheme where it is there, and then only tests whether
anything is left. A header of another scheme, or the scheme alone, is left as a
whole and is handed on as the token.
-/

namespace KnativeMesh.BearerTokens

open Go Kubernetes Endpoint

/-- A text of white space only, such as the empty one. -/
def Blank (s : String) : Prop := s.toList.all isSpace=true

instance (s : String) : Decidable (Blank s) := inferInstanceAs (Decidable (_=true))

/-- The header has the form of the bearer scheme, with a token. -/
def BearerHeader (authorization token : String) : Prop :=
  authorization=bearerPrefix++token ∧ ¬ Blank token

/-- The middleware hands a request to the next handler, with a token in the
context, whatever that handler is. -/
def CallsNext (request : HttpRequest) (token : String) : Prop :=
  ∀ next, authTokenMiddleware next request=next (some token)

/-- The middleware answers a request itself with status 401. No handler is
called, so nothing behind the middleware is reached. -/
def Rejects (request : HttpRequest) : Prop :=
  ∃ response, response.status=401 ∧ ∀ next, authTokenMiddleware next request=some response

/-- The part of GetEventMesh that calls Kubernetes with a configuration. -/
def callKubernetes (lib : Libraries) (server : Server) (config : RestConfig) : Handling :=
  if (server.clientsetError config).isSome then .aborted
  else if (server.dynamicClientError config).isSome then .aborted
  else match Builder.buildEventMesh lib (server.answers config) with
    | .error .panic => .aborted
    | .error (.error err) => .error (.wrap "error building event mesh" err)
    | .ok eventMesh => .response (.getEventMesh200JSONResponse eventMesh)

/-- With a token in the context, GetEventMesh calls Kubernetes with it. -/
theorem getEventMesh_of_token (lib : Libraries) (server : Server) {token : String}
    (h : getAuthToken (some token)=some token) :
    getEventMesh lib server (some token)=callKubernetes lib server (server.configFor token) := by
  dsimp only [getEventMesh]
  rw [h]
  rfl

/-- What the middleware ought to do with a header: with a bearer token it hands
the request on and the token is what Kubernetes is called with, and any other
header is rejected. -/
structure AcceptsBearerOnly (authorization : String) : Prop where
  calls : ∀ token, BearerHeader authorization token → ∀ url, CallsNext ⟨url,authorization⟩ token
  accessor : ∀ token, BearerHeader authorization token → getAuthToken (some token)=some token
  kubernetes : ∀ token, BearerHeader authorization token → ∀ lib server url,
    serve lib server ⟨url,authorization⟩=
        strictHandler (callKubernetes lib server (server.configFor token)) ∧
      (server.configFor token).bearerToken=token
  rejects : (∀ token, ¬ BearerHeader authorization token) → ∀ url, Rejects ⟨url,authorization⟩

/-- The scheme stands at the front of the header. -/
def HasScheme (authorization : String) : Prop := bearerPrefix.toList <+: authorization.toList

instance (authorization : String) : Decidable (HasScheme authorization) :=
  inferInstanceAs (Decidable (_ <+: _))

/-- A header with the scheme is the scheme and a rest. -/
theorem hasScheme_iff (authorization : String) :
    HasScheme authorization ↔ ∃ rest, authorization=bearerPrefix++rest := by
  dsimp only [HasScheme]
  constructor
  · intro hp
    rcases hp with ⟨rest,hrest⟩
    refine ⟨String.ofList rest,?_⟩
    rw [←String.toList_inj,String.toList_append,String.toList_ofList,hrest]
  · intro hp
    rcases hp with ⟨rest,rfl⟩
    rw [String.toList_append]
    exact List.prefix_append _ _

/-- Behind the scheme the whole rest is the token, unless it is blank. -/
theorem contextToken_of_scheme (rest : String) :
    contextToken (bearerPrefix++rest)=if Blank rest then none else some rest := by
  have htrim : trimPrefix (bearerPrefix++rest) bearerPrefix=rest := by
    have hstart : bearerPrefix.toList.isPrefixOf (bearerPrefix++rest).toList=true := by
      rw [List.isPrefixOf_iff_prefix,String.toList_append]
      exact List.prefix_append _ _
    dsimp only [trimPrefix]
    rw [if_pos hstart,String.toList_append,←String.length_toList,List.drop_left,String.ofList_toList]
  dsimp only [contextToken]
  rw [htrim]
  rfl

/-- Without the scheme the whole header is the token, unless it is blank. -/
theorem contextToken_of_not_scheme {authorization : String} (h : ¬ HasScheme authorization) :
    contextToken authorization=if Blank authorization then none else some authorization := by
  have htrim : trimPrefix authorization bearerPrefix=authorization := by
    have hstart : ¬ bearerPrefix.toList.isPrefixOf authorization.toList=true := by
      rw [List.isPrefixOf_iff_prefix]
      exact h
    dsimp only [trimPrefix]
    rw [if_neg hstart]
  dsimp only [contextToken]
  rw [htrim]
  rfl

/-- A header that gives a token is handed on with it. -/
theorem callsNext_of_contextToken {authorization token : String}
    (h : contextToken authorization=some token) (url : String) :
    CallsNext ⟨url,authorization⟩ token := by
  intro next
  dsimp only [authTokenMiddleware]
  rw [h]

/-- A header that gives no token is rejected. -/
theorem rejects_of_contextToken {authorization : String} (h : contextToken authorization=none)
    (url : String) : Rejects ⟨url,authorization⟩ := by
  refine ⟨httpError "missing auth token. set the 'Authorization: Bearer YOUR_KEY' header" 401,rfl,
    fun next => ?_⟩
  dsimp only [authTokenMiddleware]
  rw [h]

/-- A request is handed on with one token only. -/
theorem callsNext_unique {request : HttpRequest} {first second : String}
    (hfirst : CallsNext request first) (hsecond : CallsNext request second) : first=second := by
  have hsame := (hfirst fun ctx => some ⟨200,.text (ctx.getD "")⟩).symm.trans
    (hsecond fun ctx => some ⟨200,.text (ctx.getD "")⟩)
  injection hsame with hresponse
  injection hresponse with _ hbody
  injection hbody

/-- A request that is rejected is not handed on. -/
theorem not_callsNext_of_rejects {request : HttpRequest} (h : Rejects request) (token : String) :
    ¬ CallsNext request token := by
  intro hcalls
  rcases h with ⟨response,hstatus,hresponse⟩
  have hsame := (hresponse fun _ => some ⟨200,.text ""⟩).symm.trans
    (hcalls fun _ => some ⟨200,.text ""⟩)
  injection hsame with he
  rw [he] at hstatus
  cases hstatus

/-- A middleware that does what it ought to finds the bearer token, and finds
nothing where there is none. -/
theorem AcceptsBearerOnly.contextToken_iff {authorization : String}
    (h : AcceptsBearerOnly authorization) (token : String) :
    contextToken authorization=some token ↔ BearerHeader authorization token := by
  have hcalled : ∀ bearer, BearerHeader authorization bearer → ∀ found,
      contextToken authorization=some found → found=bearer := by
    intro bearer hbearer found hfound
    exact callsNext_unique (callsNext_of_contextToken hfound "") (h.calls bearer hbearer "")
  constructor
  · intro hfound
    by_cases hbearer : ∃ bearer, BearerHeader authorization bearer
    · rcases hbearer with ⟨bearer,hbearer⟩
      rw [hcalled bearer hbearer token hfound]
      exact hbearer
    · have hrejects := h.rejects (not_exists.mp hbearer) ""
      exact absurd (callsNext_of_contextToken hfound "") (not_callsNext_of_rejects hrejects token)
  · intro hbearer
    cases hfound : contextToken authorization with
    | none =>
      have hrejects := rejects_of_contextToken hfound ""
      exact absurd (h.calls token hbearer "") (not_callsNext_of_rejects hrejects token)
    | some found => rw [hcalled token hbearer found hfound]

/-- A middleware that finds the bearer token, and nothing where there is none,
does what it ought to, and so does the endpoint behind it. -/
theorem acceptsBearerOnly_of_contextToken {authorization : String}
    (h : ∀ token, contextToken authorization=some token ↔ BearerHeader authorization token) :
    AcceptsBearerOnly authorization where
  calls := fun token hbearer url => callsNext_of_contextToken ((h token).mpr hbearer) url
  accessor := fun token hbearer => getAuthToken_contextToken ((h token).mpr hbearer)
  kubernetes := by
    intro token hbearer lib server url
    have hfound := (h token).mpr hbearer
    have hcalls := callsNext_of_contextToken hfound url
    have hmesh := getEventMesh_of_token lib server (getAuthToken_contextToken hfound)
    dsimp only [serve]
    rw [hcalls,hmesh]
    exact ⟨rfl,rfl⟩
  rejects := by
    intro hnone url
    refine rejects_of_contextToken ?_ url
    rw [Option.eq_none_iff_forall_ne_some]
    intro token hfound
    exact hnone token ((h token).mp hfound)

/-- Behind the scheme the middleware finds the bearer token. -/
theorem contextToken_iff_of_scheme (rest token : String) :
    contextToken (bearerPrefix++rest)=some token ↔ BearerHeader (bearerPrefix++rest) token := by
  have hsame : bearerPrefix++rest=bearerPrefix++token ↔ rest=token := by
    rw [←String.toList_inj,String.toList_append,String.toList_append,List.append_cancel_left_eq,
      String.toList_inj]
  rw [contextToken_of_scheme]
  dsimp only [BearerHeader]
  rw [hsame]
  by_cases hblank : Blank rest
  · rw [if_pos hblank]
    refine iff_of_false nofun fun hbearer => ?_
    rw [←hbearer.1] at hbearer
    exact hbearer.2 hblank
  · rw [if_neg hblank,Option.some.injEq]
    constructor
    · intro he
      rw [←he]
      exact ⟨rfl,hblank⟩
    · exact fun hbearer => hbearer.1

/-- Without the scheme a header is no bearer header. -/
theorem not_bearerHeader {authorization : String} (h : ¬ HasScheme authorization) (token : String) :
    ¬ BearerHeader authorization token :=
  fun hbearer => h ((hasScheme_iff authorization).mpr ⟨token,hbearer.1⟩)

/-- The middleware accepts exactly the bearer headers among those that are blank
or begin with the scheme. Every other header it takes for a token as a whole. -/
theorem acceptsBearerOnly_iff (authorization : String) :
    AcceptsBearerOnly authorization ↔ Blank authorization ∨ HasScheme authorization := by
  by_cases hscheme : HasScheme authorization
  · refine iff_of_true (acceptsBearerOnly_of_contextToken fun token => ?_) (.inr hscheme)
    have hrest := (hasScheme_iff authorization).mp hscheme
    rcases hrest with ⟨rest,rfl⟩
    exact contextToken_iff_of_scheme rest token
  · have htoken := contextToken_of_not_scheme hscheme
    rw [or_iff_left hscheme]
    constructor
    · intro h
      by_contra hblank
      rw [if_neg hblank] at htoken
      have hbearer := (h.contextToken_iff authorization).mp htoken
      exact not_bearerHeader hscheme authorization hbearer
    · intro hblank
      refine acceptsBearerOnly_of_contextToken fun token => ?_
      rw [if_pos hblank] at htoken
      rw [htoken]
      exact iff_of_false nofun (not_bearerHeader hscheme token)

/-- A header of the basic scheme is handed on as a whole, and so is the scheme
alone: each is taken for a bearer token. -/
theorem otherSchemes_accepted :
    ¬ AcceptsBearerOnly "Basic dXNlcjpwYXNz" ∧ ¬ AcceptsBearerOnly "Bearer" ∧
      contextToken "Basic dXNlcjpwYXNz"=some "Basic dXNlcjpwYXNz" ∧
      contextToken "Bearer"=some "Bearer" := by
  have hnot : ∀ {authorization : String}, contextToken authorization=some authorization →
      ¬ HasScheme authorization → ¬ AcceptsBearerOnly authorization := by
    intro authorization htoken hscheme h
    have hbearer := (h.contextToken_iff authorization).mp htoken
    exact not_bearerHeader hscheme authorization hbearer
  have hbasic : contextToken "Basic dXNlcjpwYXNz"=some "Basic dXNlcjpwYXNz" := by decide
  have hbare : contextToken "Bearer"=some "Bearer" := by decide
  exact ⟨hnot hbasic (by decide),hnot hbare (by decide),hbasic,hbare⟩

end KnativeMesh.BearerTokens
