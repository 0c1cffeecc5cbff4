import IndexOptions.Proofs.Encodable

/-!
# What a resolution is answered with

A request to resolve options is answered with status 200 only if its body is read and the options resolve
(`resolved_of_status`), and then with everything but the schema of the configuration and with the columns of the schema.
The configuration is that of the options stored with an index of that name, with the same shared directories
(`resolveStored_of_obtained`). A rejection is answered with status 400 and names the option.
-/

namespace IndexOptions.Http

open Service

variable {r : Request} {s : Service} {depth : Nat} {b : ResolveBody} {shared : SharedDirectories}
  {rejection : Rejection}

/-! ## Statuses -/

theorem Response.asSent_cases (x : Response) : x.asSent = x ∨ x.asSent = internalError := by
  unfold asSent
  split
  · exact Or.inl rfl
  · exact Or.inr rfl

/-- A response that is sent with status 200 is the one that was made. -/
theorem Response.asSent_of_status {x : Response} (h : x.asSent.status = 200) : x.asSent = x := by
  rcases x.asSent_cases with hx | hx
  · exact hx
  · rw [hx] at h
    cases h

theorem Response.isEncodable_of_status {x : Response} (h : x.asSent.status = 200) : x.body.isEncodable := by
  unfold asSent at h
  split at h
  · next hsendable =>
    unfold unsendable? at hsendable
    cases hbody : x.body.isEncodable with
    | true => rfl
    | false => cases hfinite : x.body.isFinite <;> simp [hbody, hfinite] at hsendable
  · cases h

/-- A body that is no document is answered with status 422 or 400. -/
theorem status_of_content {refusal : Response} (h : r.content depth = .error refusal) : refusal.status ≠ 200 := by
  unfold Request.content at h
  split at h
  · cases h
  · split at h
    · cases h
    · split at h
      · cases h
      · cases h
        simp [notDocument, detail]
      · cases h
        simp [unreadable, detail]

/-- A document that is refused is answered with status 422. -/
theorem status_of_read {α : Type} {read : Document → Checked α} {content : Body} {refusal : Response}
    (h : content.read read = .error refusal) : refusal.status = 422 := by
  cases content with
  | empty =>
    cases h
    rfl
  | document v =>
    change (read v).mapError unprocessable = .error refusal at h
    cases hread : read v with
    | ok a =>
      rw [hread] at h
      cases h
    | error ps =>
      rw [hread] at h
      cases h
      rfl

theorem status_of_refusal {α : Type} {read : Document → Checked α} {refusal : Response}
    (h : (r.content depth).bind (Body.read read) = .error refusal) : refusal.status ≠ 200 := by
  cases hcontent : r.content depth with
  | error x =>
    rw [hcontent] at h
    cases h
    exact status_of_content hcontent
  | ok content =>
    rw [hcontent] at h
    rw [status_of_read h]
    decide

/-- Only a configuration is answered with status 200. -/
theorem resolved_of_status {name : Text} {x : Except ResolveError (Config Schema)}
    (h : (resolved name x).status = 200) : ∃ c, x = .ok c ∧ resolved name x = resolution name c := by
  cases x with
  | ok c => exact ⟨c, rfl, Response.asSent_of_status h⟩
  | error e =>
    cases e with
    | rejected rejection =>
      have hsent : resolved name (.error (.rejected rejection)) = detail 400 (rejectionDocument rejection) :=
        Response.asSent_of_status h
      rw [hsent] at h
      cases h
    | tooManyDigits | unknownIdentity | settings | config => cases h

/-! ## Stored options -/

/-- The options stored with an index resolve with the shared directories. -/
theorem resolveStored_of_obtained (h : s.obtainDirectories.result = .ok shared) (t : Table) (i : Index) :
    (s.resolveStored (.bare t) i).result =
      (OptionMap.resolve i.options (.bare t) (.bare i) shared.directories.naming (Schema.builder s.depth)).result := by
  rw [← sharedNaming_of_obtained h]
  rfl

/-! ## Whole requests -/

section Route

variable (hroute : Route.ofPath? r.path = some .resolve) (hmethod : r.method = Route.resolve.method)

include hroute hmethod

/-- Without the shared directories a body that is a document, or none, is answered with status 500. -/
theorem status_answer_of_not_obtained {ps : List Problem} (h : s.obtainDirectories.result = .error ps) {content : Body}
    (hcontent : r.content s.depth = .ok content) : (answer s r).result = internalError := by
  rw [answer_of_not_obtained hroute hmethod hcontent h]
  rfl

/-- A body that is read is answered with what becomes of its options. -/
theorem result_answer_of_read (h : s.obtainDirectories.result = .ok shared)
    (hbody : (r.content s.depth).bind (Body.read ResolveBody.read) = .ok b) :
    (answer s r).result = resolved b.indexName (s.resolveStored (.bare b.table) b.index).result := by
  rw [result_answer_resolve hroute hmethod h, resolvedWith, hbody, resolveStored_of_obtained h]
  rfl

/-- What is answered with status 200 is the resolution of a body that was read, with the shared directories. -/
theorem exists_resolution_of_status (h : (answer s r).result.status = 200) :
    ∃ b shared c, (r.content s.depth).bind (Body.read ResolveBody.read) = .ok b ∧
      s.obtainDirectories.result = .ok shared ∧
      (s.resolveStored (.bare b.table) b.index).result = .ok c ∧ (answer s r).result = resolution b.indexName c := by
  cases hobtained : s.obtainDirectories.result with
  | error ps =>
    cases hcontent : r.content s.depth with
    | ok content =>
      rw [status_answer_of_not_obtained hroute hmethod hobtained hcontent] at h
      cases h
    | error refusal =>
      have hsent : (answer s r).result = refusal.asSent := by
        rw [answer_of_route s hroute hmethod, answerRoute, hcontent]
        exact result_reply s refusal []
      rw [hsent] at h
      exact absurd (Response.asSent_of_status h ▸ h) (status_of_content hcontent)
  | ok shared =>
    cases hbody : (r.content s.depth).bind (Body.read ResolveBody.read) with
    | error refusal =>
      rw [result_answer_resolve hroute hmethod hobtained, resolvedWith, hbody] at h
      exact absurd (Response.asSent_of_status h ▸ h) (status_of_refusal hbody)
    | ok b =>
      rw [result_answer_of_read hroute hmethod hobtained hbody] at h ⊢
      obtain ⟨c, hc, hsent⟩ := resolved_of_status h
      exact ⟨b, shared, c, rfl, rfl, hc, hsent⟩

/-- The shared directories that answer a body that is read are kept afterwards. -/
theorem shared?_answer_of_read (h : s.obtainDirectories.result = .ok shared)
    (hbody : (r.content s.depth).bind (Body.read ResolveBody.read) = .ok b) :
    (answer s r).service.shared? = some shared := by
  have hneeds : r.needsDirectories s.depth := by
    refine Request.needsDirectories_iff.mpr ⟨hroute, hmethod, ?_⟩
    cases hcontent : r.content s.depth with
    | ok content => exact ⟨content, rfl⟩
    | error refusal =>
      rw [hcontent] at hbody
      cases hbody
  rw [service_answer, if_pos hneeds, shared?_obtainDirectories, h]
  rfl

end Route

/-- A rejection can be sent if its message can. -/
theorem asSent_rejection {status : Nat} (h : rejection.message.isEncodable) :
    (detail status (rejectionDocument rejection)).asSent = detail status (rejectionDocument rejection) := by
  have hoption : rejection.option.text.isEncodable := by cases rejection.option <;> decide
  refine Response.asSent_eq_self rfl ?_
  simp [detail, rejectionDocument, Document.isEncodable, Document.membersAreEncodable, hoption, h]

/-- **A resolution is answered with the resolved index.**

- What is answered with status 200 is the configuration of the options stored with the index, with the shared
  directories that are kept then: its description, and the columns that its schema maps. These are in strictly
  increasing order, are the ones that fields read, and are all declared by the table of the body.
- Where the shared directories can be obtained, an option that is rejected is answered with status 400 and with the
  option and the message of the rejection.
- Where they cannot, the answer is that of an inside failure, whatever the options are. -/
theorem answer_is_resolved_index (hroute : Route.ofPath? r.path = some .resolve)
    (hmethod : r.method = Route.resolve.method) (s : Service) :
    ((answer s r).result.status = 200 → ∃ (b : ResolveBody) (shared : SharedDirectories) (c : Config Schema),
      (r.content s.depth).bind (Body.read ResolveBody.read) = .ok b ∧
      s.obtainDirectories.result = .ok shared ∧ (answer s r).service.shared? = some shared ∧
      (s.resolveStored (.bare b.table) b.index).result = .ok c ∧
      ((answer s r).service.resolveStored (.bare b.table) b.index).result = .ok c ∧
      (answer s r).result = ⟨200, .object ([(Text.ofString "index_name", .text b.indexName)] ++ c.describe ++
        [(Text.ofString "mapped_columns", Document.texts c.schema.mappedColumns)])⟩ ∧
      (c.schema.mappedColumns.Pairwise fun column later => column.numbers < later.numbers) ∧
      (∀ column, column ∈ c.schema.mappedColumns ↔
        ∃ field mapper, (field, mapper) ∈ c.schema.fields ∧ column ∈ mapper.columns field) ∧
      ∀ column ∈ c.schema.mappedColumns, ∃ type, b.table.columnType? column = some type) ∧
    (∀ (b : ResolveBody) (shared : SharedDirectories) (rejection : Rejection),
      (r.content s.depth).bind (Body.read ResolveBody.read) = .ok b → s.obtainDirectories.result = .ok shared →
      (s.resolveStored (.bare b.table) b.index).result = .error (.rejected rejection) →
      rejection.message.isEncodable →
      (answer s r).result = detail 400 (.object
        [(Text.ofString "option", .text rejection.option.text), (Text.ofString "message", .text rejection.message)])) ∧
    ∀ (ps : List Problem) (content : Body), s.obtainDirectories.result = .error ps → r.content s.depth = .ok content →
      (answer s r).result = internalError := by
  refine ⟨?_, ?_, ?_⟩
  · intro hstatus
    obtain ⟨b, shared, c, hbody, hobtained, hc, hresult⟩ := exists_resolution_of_status hroute hmethod hstatus
    have hkept : (answer s r).service.shared? = some shared :=
      shared?_answer_of_read hroute hmethod hobtained hbody
    have hagain : (answer s r).service.obtainDirectories.result = .ok shared := by
      rw [obtainDirectories_of_kept hkept]
    have hfits : Schema.checkColumns c.schema b.table = .ok () := OptionMap.check_of_resolve rfl rfl hc
    refine ⟨b, shared, c, hbody, hobtained, hkept, hc, ?_, hresult, c.schema.pairwise_mappedColumns,
      fun column => Schema.mem_mappedColumns_iff, fun column => Schema.exists_type_of_mem_mappedColumns hfits⟩
    rw [resolveStored_of_obtained hagain, depth_answer, ← resolveStored_of_obtained hobtained]
    exact hc
  · intro b shared rejection hbody hobtained hr hmessage
    rw [result_answer_of_read hroute hmethod hobtained hbody, hr]
    exact asSent_rejection hmessage
  · intro ps content hobtained hcontent
    exact status_answer_of_not_obtained hroute hmethod hobtained hcontent

/-! ## Examples -/

/-- A request to resolve options, given as the text of their members, of an index on a table with one column. -/
def resolutionRequest (members : Text) : Request where
  method := "POST"
  path := "/index-options/resolve"
  contentType := "application/json"
  body :=
    "\x7b\"options\": \x7b" ++ members ++ "\x7d, \"index_name\": \"tweets_index\", " ++
      "\"table\": \x7b\"keyspace\": \"demo\", \"name\": \"tweets\", " ++
      "\"id\": \"00000000000000000000000000000001\", " ++ "\"columns\": \x7b\"body\": \"text\"\x7d\x7d\x7d"

/-- The body of such a request. -/
def resolutionBody (options : OptionMap) : ResolveBody := ⟨options, OptionMap.oneColumn, "tweets_index"⟩

/-- The text of a schema with one field. -/
def oneFieldSchema : Text := "\x7b\"fields\": \x7b\"body\": \x7b\"type\": \"text\"\x7d\x7d\x7d"

/-- A request with this schema. -/
def schemaRequest : Request :=
  resolutionRequest ("\"schema\": \"\x7b\\\"fields\\\": \x7b" ++
    "\\\"body\\\": \x7b\\\"type\\\": \\\"text\\\"\x7d\x7d\x7d\"")

/-- A request with seconds that are no number. -/
def wordyRequest : Request := resolutionRequest "\"refresh_seconds\": \"never\""

/-- The options of that request. -/
def wordyOptions : OptionMap := [(OptionName.refreshSeconds.text, "never")]

theorem read_schemaRequest : (schemaRequest.content 990).bind (Body.read ResolveBody.read) =
    .ok (resolutionBody [(OptionName.schema.text, oneFieldSchema)]) :=
  toOption_eq_some_iff.mp (by decide +kernel)

theorem read_wordyRequest :
    (wordyRequest.content 990).bind (Body.read ResolveBody.read) = .ok (resolutionBody wordyOptions) :=
  toOption_eq_some_iff.mp (by decide +kernel)

/-- These options are rejected, whether or not there is a directory service. -/
theorem resolveStored_wordyOptions (s : Service) :
    (s.resolveStored (.bare (resolutionBody wordyOptions).table) (resolutionBody wordyOptions).index).result =
      .error (.rejected ⟨.refreshSeconds, .notPositiveNumber⟩) := by
  have hseconds : wordyOptions.refreshSeconds = .error (.rejected ⟨.refreshSeconds, .notPositiveNumber⟩) := rfl
  show (OptionMap.resolve wordyOptions _ _ _ _).result = _
  rw [OptionMap.result_resolve rfl rfl]
  exact Traced.bind_eq_error_iff.mpr (Or.inl hseconds)

theorem exists_obtained_initial : ∃ o, Service.initial.obtainDirectories.result = .ok o :=
  exists_of_isOk (by decide +kernel)

/-- The first request is answered with the configuration, and the second with the rejection. -/
theorem answer_is_resolved_index_oneColumn :
    (∃ c, (Service.initial.resolveStored (.bare OptionMap.oneColumn)
          (resolutionBody [(OptionName.schema.text, oneFieldSchema)]).index).result = .ok c ∧
        (answer Service.initial schemaRequest).result = resolution "tweets_index" c) ∧
      (answer Service.initial wordyRequest).result =
        detail 400 (rejectionDocument ⟨.refreshSeconds, .notPositiveNumber⟩) := by
  obtain ⟨shared, hshared⟩ := exists_obtained_initial
  refine ⟨?_, ?_⟩
  · have hstatus : (answer Service.initial schemaRequest).result.status = 200 := by
      rw [result_answer_of_read rfl rfl hshared read_schemaRequest]
      decide +kernel
    obtain ⟨b, -, c, hbody, -, -, hc, -, hresult, -⟩ := (answer_is_resolved_index rfl rfl Service.initial).1 hstatus
    obtain rfl : resolutionBody [(OptionName.schema.text, oneFieldSchema)] = b :=
      Except.ok.inj (read_schemaRequest.symm.trans hbody)
    exact ⟨c, hc, hresult⟩
  · exact (answer_is_resolved_index rfl rfl Service.initial).2.1 (resolutionBody wordyOptions) shared
      ⟨.refreshSeconds, .notPositiveNumber⟩ read_wordyRequest hshared (resolveStored_wordyOptions _) (by decide)

/-- A service whose settings do not load. -/
def misconfigured : Service := Service.initial.setVariable "PORT" (some "none")

/-- Where the settings do not load, the stored options are rejected but the request is not answered with the
rejection. -/
theorem answer_not_rejection_misconfigured :
    (wordyRequest.content 990).bind (Body.read ResolveBody.read) = .ok (resolutionBody wordyOptions) ∧
      (misconfigured.resolveStored (.bare (resolutionBody wordyOptions).table)
          (resolutionBody wordyOptions).index).result =
        .error (.rejected ⟨.refreshSeconds, .notPositiveNumber⟩) ∧
      (Rejection.message ⟨.refreshSeconds, .notPositiveNumber⟩).isEncodable ∧
      (answer misconfigured wordyRequest).result = internalError ∧
      (answer misconfigured wordyRequest).result ≠
        detail 400 (rejectionDocument ⟨.refreshSeconds, .notPositiveNumber⟩) := by
  have hfailed : (answer misconfigured wordyRequest).result = internalError := by
    cases hobtained : misconfigured.obtainDirectories.result with
    | ok shared =>
      have hnot : misconfigured.obtainDirectories.result.isOk = false := by decide +kernel
      rw [hobtained] at hnot
      cases hnot
    | error ps =>
      cases hcontent : wordyRequest.content 990 with
      | ok content => exact status_answer_of_not_obtained rfl rfl hobtained hcontent
      | error refusal =>
        have hread := read_wordyRequest
        rw [hcontent] at hread
        cases hread
  refine ⟨read_wordyRequest, resolveStored_wordyOptions _, by decide, hfailed, ?_⟩
  rw [hfailed]
  intro h
  cases congrArg Response.status h

end IndexOptions.Http
