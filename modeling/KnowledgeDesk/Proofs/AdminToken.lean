import KnowledgeDesk.Web.App
import KnowledgeDesk.Server.Builtin
import KnowledgeDesk.Server.Startup

/-!
# The administration token

Every route under `/admin/api` sits behind one guard. When the server runs with a token, a
request reaches its handler only if it *presents* the token: its authorization header is readable
text that, once trimmed, is `Bearer ` (capital `B`, one space) followed by a text that trims to
the token. Any other request is answered `401 Invalid admin token` and leaves the server as it
was. A server without a token serves every administration request. A configuration gives a
server no token when it sets none or sets the empty one.

* `presentsToken_iff`: the guard's test, said as the predicate `PresentsToken`;
* `handle_admin_route`: `handle` on an administration route is the guard, then the route's handler;
* `admin_routes_need_token`: the two together, for every route, method and state.

The guard is one test in front of all the routes, so the statement is made once for a route and
a method taken from the routes' own tables (`adminRoute`, `Route.methods`); a `HEAD` request is a
`GET` that answers without a body, and is left out here.
-/

namespace KnowledgeDesk.Web

open Http Server

/-- A request presents the token `t`: its authorization header is readable text that, trimmed,
is `Bearer ` followed by a text that trims to `t`. -/
def PresentsToken (t : String) (req : Request) : Prop :=
  ∃ v u, req.header? "authorization" = some v ∧ isReadable v = true ∧
    Text.trim v = "Bearer " ++ u ∧ Text.trim u = t

/-! ## The guard's test -/

/-- The text of a header is its trimmed value, when that value is readable and not blank. -/
theorem headerText_eq_some {v w : String} :
    headerText v = some w ↔ isReadable v = true ∧ Text.trim v = w ∧ w ≠ "" := by
  unfold headerText
  by_cases hr : isReadable v = true
  · by_cases he : (Text.trim v).isEmpty = true
    · have hempty : Text.trim v = "" := String.isEmpty_iff.mp he
      simp only [hr, he, if_true, reduceCtorEq, false_iff, not_and, true_and]
      intro hw
      rw [← hw, hempty]
      exact fun h => h rfl
    · have hne : Text.trim v ≠ "" := fun h => he (String.isEmpty_iff.mpr h)
      simp only [hr, he, if_true, Bool.false_eq_true, if_false, Option.some.injEq, true_and]
      constructor
      · rintro rfl
        exact ⟨rfl, hne⟩
      · rintro ⟨rfl, -⟩
        rfl
  · simp [hr]

/-- A text starts with `Bearer ` exactly when it is `Bearer ` followed by what is left once seven
characters are dropped. -/
theorem startsWith_bearer_iff (w : String) :
    w.startsWith "Bearer " = true ↔ w = "Bearer " ++ (w.drop 7).toString := by
  constructor
  · intro h
    obtain ⟨rest, hrest⟩ := String.startsWith_string_iff.mp h
    have hw : w.toList = "Bearer ".toList ++ rest := hrest.symm
    apply String.ext
    simp [hw]
  · intro h
    rw [h]
    simp

@[simp] theorem drop_bearer (u : String) : (("Bearer " ++ u).drop 7).copy = u := by
  apply String.ext
  simp

/-- **The guard's test.** With a token set, the guard lets a request through exactly when the
request presents the token. -/
theorem presentsToken_iff (t : String) (req : Request) :
    adminAllowed (some t) req = true ↔ PresentsToken t req := by
  unfold adminAllowed PresentsToken Request.text?
  cases hv : req.header? "authorization" with
  | none => simp
  | some v =>
    simp only [Option.bind_some, Option.some.injEq, exists_and_left, exists_eq_left']
    cases hw : headerText v with
    | none =>
      -- an unreadable or blank value presents nothing
      simp only [Bool.false_eq_true, false_iff, not_and, not_exists]
      intro hr u htrim _
      have hne : "Bearer " ++ u ≠ "" := fun h => by simpa using congrArg String.length h
      rw [headerText_eq_some.mpr ⟨hr, htrim, hne⟩] at hw
      cases hw
    | some w =>
      obtain ⟨hr, htrim, -⟩ := headerText_eq_some.mp hw
      simp only [hr, htrim, true_and]
      constructor
      · intro hallowed
        by_cases hb : w.startsWith "Bearer " = true
        · rw [if_pos hb, beq_iff_eq] at hallowed
          exact ⟨(w.drop 7).toString, (startsWith_bearer_iff w).mp hb, hallowed⟩
        · rw [if_neg hb] at hallowed
          cases hallowed
      · rintro ⟨u, rfl, rfl⟩
        simp

/-- Without a token the guard lets every request through. -/
@[simp] theorem adminAllowed_none (req : Request) : adminAllowed none req = true := rfl

/-! ## The guard in front of the routes -/

/-- A method a route lists is the method it runs. -/
theorem serves_of_mem {route : Route} {method : String} (h : method ∈ route.methods) :
    route.serves method = some method := by
  simp [Route.serves, h]

/-- No route lists `HEAD`: it is served as `GET`. -/
theorem head_not_mem_methods (route : Route) : "HEAD" ∉ route.methods := by
  cases route with
  | collection r => cases r <;> simp [Route.methods]
  | item r _ => cases r <;> simp [Route.methods]
  | _ => simp [Route.methods]

/-- **An administration route**, asked with a method it lists, is answered by the guard and then
by the route's handler. -/
theorem handle_admin_route (s : State) {req : Request} {route : Route}
    (hroute : routeOf req.path = some (route, true)) (hmethod : req.method ∈ route.methods) :
    handle s req = if adminAllowed s.wiring.adminToken req then admin s route req.method req
      else (s, Response.error 401 "Invalid admin token") := by
  -- a listed method is not `HEAD`, so `handle` does not answer it as a `GET`
  have hhead : (req.method == "HEAD") = false := by
    rw [beq_eq_false_iff_ne]
    rintro h
    exact head_not_mem_methods route (h ▸ hmethod)
  unfold handle
  rw [hroute]
  by_cases hallowed : adminAllowed s.wiring.adminToken req = true
  · simp only [hallowed, Bool.not_true, Bool.and_false, Bool.false_eq_true, if_false, if_true,
      serves_of_mem hmethod, hhead]
  · simp only [hallowed, Bool.not_false, Bool.and_true, if_true, Bool.false_eq_true, if_false]

/-- A configuration gives the server no token when it sets none or the empty one, and its token
otherwise. -/
theorem ofConfig_adminToken (c : Config) :
    (Wiring.ofConfig c).adminToken = if c.adminToken = some "" then none else c.adminToken := by
  unfold Wiring.ofConfig
  cases h : c.adminToken with
  | none => rfl
  | some t =>
    by_cases ht : t = ""
    · subst ht
      rfl
    · simp [Option.filter, ht]

/-- **The administration token guards every administration route.** For every state, every
route under `/admin/api` and every method it lists: when the server runs with a token `t`, the
route's handler runs if the request presents `t`, and otherwise the answer is `401 Invalid admin
token` with the state unchanged; when the server runs without a token, which is what a
configuration that sets none or the empty one gives, the handler runs whatever the headers. -/
theorem admin_routes_need_token (s : State) (req : Request) (route : Route)
    (hroute : routeOf req.path = some (route, true)) (hmethod : req.method ∈ route.methods) :
    (∀ t, s.wiring.adminToken = some t →
      (PresentsToken t req → handle s req = admin s route req.method req) ∧
      (¬ PresentsToken t req → handle s req = (s, Response.error 401 "Invalid admin token"))) ∧
    (∀ c : Config, s.wiring = Wiring.ofConfig c → c.adminToken = none ∨ c.adminToken = some "" →
      handle s req = admin s route req.method req) := by
  rw [handle_admin_route s hroute hmethod]
  refine ⟨fun t ht => ⟨fun hp => ?_, fun hp => ?_⟩, fun c hc hnone => ?_⟩
  · rw [ht, (presentsToken_iff t req).mpr hp, if_pos rfl]
  · have hdenied : adminAllowed (some t) req = false := by
      rw [← Bool.not_eq_true, presentsToken_iff]
      exact hp
    rw [ht, hdenied]
    rfl
  · -- a configuration that sets no token, or the empty one, leaves the server without one
    have htoken : s.wiring.adminToken = none := by
      rw [hc, ofConfig_adminToken]
      rcases hnone with h | h <;> simp [h]
    rw [htoken, adminAllowed_none, if_pos rfl]

/-- A server that runs with the token `s3cret`. -/
def tokenServer : State where
  wiring := ⟨.model (.keywords ["apple"] none false), .model (.ofTokens ["ok"] none),
    .memory, ⟨"m", 5, 0.75, 10⟩, some "s3cret"⟩
  libs := Libraries.builtin .unreachable
  clock := 0
  seed := 0

/-- A request for the bots with the token after blanks. -/
def botsWithToken : Request where
  method := "GET"
  path := "/admin/api/bots"
  headers := [("authorization", " Bearer   s3cret ")]

theorem admin_token_bots_listing :
    routeOf botsWithToken.path = some (.collection .bots, true) ∧
      botsWithToken.method ∈ (Route.collection .bots).methods ∧
      ((∀ t, tokenServer.wiring.adminToken = some t →
        (PresentsToken t botsWithToken →
          handle tokenServer botsWithToken = admin tokenServer (.collection .bots) "GET" botsWithToken) ∧
        (¬ PresentsToken t botsWithToken →
          handle tokenServer botsWithToken = (tokenServer, Response.error 401 "Invalid admin token"))) ∧
      (∀ c : Config, tokenServer.wiring = Wiring.ofConfig c →
        c.adminToken = none ∨ c.adminToken = some "" →
        handle tokenServer botsWithToken = admin tokenServer (.collection .bots) "GET" botsWithToken)) :=
  have hroute : routeOf botsWithToken.path = some (.collection .bots, true) := by
    simp +decide [botsWithToken, routeOf, String.splitOn, String.splitOnAux, adminRoute,
      Resource.ofSegment?]
  have hmethod : botsWithToken.method ∈ (Route.collection .bots).methods := by
    simp [botsWithToken, Route.methods]
  ⟨hroute, hmethod, admin_routes_need_token tokenServer botsWithToken _ hroute hmethod⟩

end KnowledgeDesk.Web
