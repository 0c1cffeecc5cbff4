import IndexOptions.Http.Answer
import IndexOptions.Proofs.ServiceCaches

/-!
# What requests are answered with

A request to the route that needs the shared directories obtains them, once its body can be read, and every other
request leaves the service as it was (`service_answer`). The response depends on nothing else that the service keeps:

- `result_validate`, `result_resolve`: the responses of the two routes, from what became of the options;
- `result_answer_validate`, `result_answer_resolve`: the responses to whole requests.

A response that cannot be sent is replaced by that of an inside failure (`Response.asSent`).
-/

namespace IndexOptions.Http

/-! ## Responses -/

/-- The response that is sent in the place of one that may not be fit to be sent. -/
def Response.asSent (r : Response) : Response := if (unsendable? r).isNone then r else internalError

/-- A response that cannot be sent is replaced, whatever was logged for it. -/
theorem result_reply (s : Service) (r : Response) (records : List LogRecord) :
    (reply s r records).result = r.asSent := by
  unfold reply sent Response.asSent
  cases unsendable? r <;> rfl

/-- The response to a validation whose outcome is given. -/
def validated : Except ResolveError (List Rejection) → Response
  | .ok rejections => (validity rejections).asSent
  | .error _ => internalError

/-- The response to a resolution whose outcome is given. -/
def resolved (indexName : Text) : Except ResolveError (Config Schema) → Response
  | .ok c => (resolution indexName c).asSent
  | .error (.rejected r) => (detail 400 (rejectionDocument r)).asSent
  | .error _ => internalError

/-- The table of a body as it is handed on. -/
def ValidateBody.givenTable (b : ValidateBody) : Given Table :=
  match b.table with
  | some t => .bare t
  | none => .absent

/-- A validation answers with what is collected from the options, with or without a table. -/
theorem result_validate (s : Service) (b : ValidateBody) :
    (validate s b).result = validated (b.options.collectErrors b.givenTable (Schema.builder s.depth)).result := by
  obtain ⟨options, table⟩ := b
  cases table with
  | none | some =>
    unfold validate ValidateBody.givenTable
    dsimp only
    split
    · next h =>
      rw [h]
      exact result_reply _ _ _
    · next h =>
      rw [h]
      exact result_reply _ _ _
    · next h =>
      rw [h]
      rfl

/-- A resolution answers with what becomes of the options, whatever was logged before. -/
theorem result_resolve (s : Service) (d : Directories) (b : ResolveBody) (earlier : List LogRecord) :
    (resolve s d b earlier).result =
      resolved b.indexName
        (b.options.resolve (.bare b.table) (.bare b.index) d.naming (Schema.builder s.depth)).result := by
  cases h : (b.options.resolve (.bare b.table) (.bare b.index) d.naming (Schema.builder s.depth)).result with
  | ok c =>
    simp only [resolve, h]
    exact result_reply _ _ _
  | error e =>
    simp only [resolve, h]
    cases e with
    | rejected r => exact result_reply _ _ _
    | tooManyDigits | unknownIdentity | settings | config => rfl

/-! ## Requests -/

/-- Whether a request is one for the route that needs the shared directories, with a body that can be read. -/
def Request.needsDirectories (r : Request) (depth : Nat) : Bool :=
  Route.ofPath? r.path = some .resolve && r.method = Route.resolve.method && (r.content depth).isOk

theorem Request.needsDirectories_iff {r : Request} {depth : Nat} :
    r.needsDirectories depth ↔
      Route.ofPath? r.path = some .resolve ∧ r.method = Route.resolve.method ∧
        ∃ content, r.content depth = .ok content := by
  unfold needsDirectories
  cases r.content depth <;> simp [Except.isOk, Except.toBool]

/-- A request with the path and the method of a route is answered by it. -/
theorem answer_of_route {r : Request} {route : Route} (s : Service) (hroute : Route.ofPath? r.path = some route)
    (hmethod : r.method = route.method) : answer s r = answerRoute s r route := by
  unfold answer
  rw [hroute]
  exact if_pos hmethod

/-- The answer of the route that needs the shared directories, once it has them. -/
theorem answer_of_obtained {r : Request} {content : Body} {s : Service} {shared : SharedDirectories}
    (hroute : Route.ofPath? r.path = some .resolve) (hmethod : r.method = Route.resolve.method)
    (hcontent : r.content s.depth = .ok content) (h : s.obtainDirectories.result = .ok shared) :
    answer s r =
      match content.read ResolveBody.read with
      | .error refusal => reply s.obtainDirectories.service refusal s.obtainDirectories.records
      | .ok b => resolve s.obtainDirectories.service shared.directories b s.obtainDirectories.records := by
  rw [answer_of_route s hroute hmethod, answerRoute, hcontent]
  cases hread : content.read ResolveBody.read with
  | error refusal => simp only [h, hread]
  | ok b => simp only [h, hread]

/-- Without the shared directories that route fails inside. -/
theorem answer_of_not_obtained {r : Request} {content : Body} {s : Service} {ps : List Problem}
    (hroute : Route.ofPath? r.path = some .resolve) (hmethod : r.method = Route.resolve.method)
    (hcontent : r.content s.depth = .ok content) (h : s.obtainDirectories.result = .error ps) :
    answer s r = fail s.obtainDirectories.service "ValidationError" s.obtainDirectories.records := by
  rw [answer_of_route s hroute hmethod, answerRoute, hcontent]
  simp only [h]

/-- A validation changes nothing. -/
theorem service_validate (s : Service) (b : ValidateBody) : (validate s b).service = s := by
  unfold validate
  dsimp only
  split <;> rfl

/-- Once the shared directories are there, a resolution changes nothing. -/
theorem service_resolve (s : Service) (d : Directories) (b : ResolveBody) (earlier : List LogRecord) :
    (resolve s d b earlier).service = s := by
  unfold resolve
  dsimp only
  split <;> rfl

/-- Other requests leave the service as it was. -/
theorem service_answer_of_not_needsDirectories {r : Request} (s : Service) (h : ¬r.needsDirectories s.depth) :
    (answer s r).service = s := by
  rw [Request.needsDirectories_iff] at h
  unfold answer
  cases hroute : Route.ofPath? r.path with
  | none => rfl
  | some route =>
    dsimp only
    split
    · next hmethod =>
      cases route with
      | health => rfl
      | validate =>
        unfold answerRoute
        dsimp only
        split
        · exact service_validate s _
        · rfl
      | resolve =>
        unfold answerRoute
        dsimp only
        split
        · rfl
        · next content hcontent => exact absurd ⟨hroute, hmethod, content, hcontent⟩ h
    · rfl

/-- A request obtains the shared directories or leaves the service as it was. -/
theorem service_answer (s : Service) (r : Request) :
    (answer s r).service = if r.needsDirectories s.depth then s.obtainDirectories.service else s := by
  split
  · next h =>
    obtain ⟨hroute, hmethod, content, hcontent⟩ := Request.needsDirectories_iff.mp h
    cases hs : s.obtainDirectories.result with
    | error ps =>
      rw [answer_of_not_obtained hroute hmethod hcontent hs]
      rfl
    | ok shared =>
      rw [answer_of_obtained hroute hmethod hcontent hs]
      split
      · rfl
      · exact service_resolve _ _ _ _
  · next h => exact service_answer_of_not_needsDirectories s h

/-- The stack is as deep after a request as before. -/
theorem depth_answer (s : Service) (r : Request) : (answer s r).service.depth = s.depth := by
  rw [service_answer]
  split
  · exact Service.depth_obtainDirectories s
  · rfl

/-! ## Responses to whole requests -/

/-- The answer to a validation hangs on the body alone: it is refused, or its options are checked. -/
theorem result_answer_validate {r : Request} (s : Service) (hroute : Route.ofPath? r.path = some .validate)
    (hmethod : r.method = Route.validate.method) :
    (answer s r).result =
      match (r.content s.depth).bind (Body.read ValidateBody.read) with
      | .ok b => validated (b.options.collectErrors b.givenTable (Schema.builder s.depth)).result
      | .error refusal => refusal.asSent := by
  rw [answer_of_route s hroute hmethod, answerRoute]
  cases (r.content s.depth).bind (Body.read ValidateBody.read) with
  | ok b => exact result_validate s b
  | error refusal => exact result_reply s refusal []

/-- The response of the route that needs the shared directories, once it has them. -/
def resolvedWith (d : Directories) (depth : Nat) (r : Request) : Response :=
  match (r.content depth).bind (Body.read ResolveBody.read) with
  | .ok b =>
    resolved b.indexName (b.options.resolve (.bare b.table) (.bare b.index) d.naming (Schema.builder depth)).result
  | .error refusal => refusal.asSent

/-- The same for a resolution, with the shared directories that it obtains. -/
theorem result_answer_resolve {r : Request} {s : Service} {shared : SharedDirectories}
    (hroute : Route.ofPath? r.path = some .resolve) (hmethod : r.method = Route.resolve.method)
    (h : s.obtainDirectories.result = .ok shared) :
    (answer s r).result = resolvedWith shared.directories s.depth r := by
  cases hcontent : r.content s.depth with
  | error refusal =>
    rw [answer_of_route s hroute hmethod, answerRoute, resolvedWith, hcontent]
    exact result_reply s refusal []
  | ok content =>
    rw [answer_of_obtained hroute hmethod hcontent h, resolvedWith, hcontent]
    show _ = match content.read ResolveBody.read with
      | .ok b =>
        resolved b.indexName (b.options.resolve (.bare b.table) (.bare b.index) _ (Schema.builder s.depth)).result
      | .error refusal => refusal.asSent
    cases content.read ResolveBody.read with
    | error refusal => exact result_reply _ _ _
    | ok b => exact (result_resolve _ _ _ _).trans (by rw [Service.depth_obtainDirectories])

end IndexOptions.Http
