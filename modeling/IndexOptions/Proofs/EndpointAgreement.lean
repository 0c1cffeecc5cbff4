import IndexOptions.Proofs.ResolutionAnswers
import IndexOptions.Proofs.Sessions
import IndexOptions.Proofs.TableDocuments

/-!
# A validation tells the resolution

The two routes for options agree (`Http.validation_tells_resolution`): what a validation finds is what a resolution with
the same options and the same table stops at, and a resolution succeeds exactly if nothing is found. Three things come
together:

- both bodies are read to the same options and table (`Http.Request.Posts`);
- the checks are the same with and without an index;
- a resolution can be sent. Its texts are those of the body, of the schema columns that the table declares and of the
  data directory, and the data directory that a service keeps in any session has a UTF-8 form
  (`Session.isEncodable_directories`).
-/

namespace IndexOptions

/-! ## The data directory -/

/-- The data directory of settings that load is a name. -/
theorem Settings.isName_dataDirectory {environment : Entries Text} {envFile : Option Text} {v : Settings}
    (h : load environment envFile = .ok v) : Reading.IsName v.dataDirectory := by
  obtain ⟨⟨appName, stage, debug, logLevel, host, port, dataDirectory⟩, hfields, rfl⟩ := Checked.map_eq_ok_iff.mp h
  simp only [Checked.and_eq_ok_iff] at hfields
  obtain ⟨-, -, -, -, -, -, hdata⟩ := hfields
  have hdefault : Reading.IsName defaults.dataDirectory := ⟨by decide, by decide⟩
  show Reading.IsName dataDirectory
  unfold fieldOr at hdata
  split at hdata
  · exact (Reading.name_eq_ok_iff.mp (Checked.under_eq_ok_iff.mp hdata)).2
  · exact Except.ok.inj hdata ▸ hdefault

/-- In every session, the data directory that is shared has a UTF-8 form. -/
theorem Session.isEncodable_directories {s : Service} {steps : List Step} {o : SharedDirectories}
    (hsettings : s.settings? = none) (hshared : s.shared? = none)
    (h : (after s steps).obtainDirectories.result = .ok o) : o.directories.data.IsEncodable := by
  have hkept : (after s (steps ++ [.obtainDirectories])).shared? = some o := by
    rw [after_append]
    exact Step.shared?_run_of_obtained (Step.obtained?_eq_some_iff.mpr ⟨rfl, h⟩)
  obtain ⟨_, _, _, _, v, -, -, hv, ho⟩ := exists_making hshared hkept
  obtain ⟨_, _, _, _, -, -, hload⟩ := exists_reading hsettings hv
  rw [ho]
  exact Path.isEncodable_join (WorkingDirectory.is_encodable _)
    (Path.isEncodable_parse (Settings.isName_dataDirectory hload).1)

/-! ## Bodies -/

/-- The columns of a table have a UTF-8 form if its document does. -/
theorem Table.isEncodable_columns {cause : Cause} {v : Document} {t : Table} (h : Table.read cause v = .ok t)
    (hv : v.isEncodable) : ∀ e ∈ t.columns, e.1.isEncodable := by
  obtain ⟨members, rfl, hmembers⟩ := read_eq_ok_iff.mp h
  rcases Reading.optionalField_eq_ok_iff.mp hmembers.columns with ⟨-, hnil⟩ | ⟨w, hget, hw⟩
  · rw [hnil]
    simp
  · have hw' : w.isEncodable := (Document.membersAreEncodable_iff.mp hv _ (Entries.mem_of_get? hget)).2
    rw [Reading.textMap_eq_ok_iff.mp hw] at hw'
    intro e he
    exact (Document.membersAreEncodable_iff.mp hw' _ (List.mem_map_of_mem he)).1

namespace Http

variable {depth : Nat} {r : Request} {route : Route} {members : Entries Document} {options : OptionMap} {t : Table}
  {name : Text}

/-- The content is that of the body, whatever the route. -/
theorem content_congr {r' : Request} (hbody : r.body = r'.body) (htype : r.contentType = r'.contentType) :
    r.content depth = r'.content depth := by
  rw [Request.content, Request.content, hbody, htype]

/-- What is read from a body is read from its document. -/
theorem read_content_eq_ok_iff {α : Type} {read : Document → Checked α} {a : α} :
    (r.content depth).bind (Body.read read) = .ok a ↔
      ∃ v, r.content depth = .ok (.document v) ∧ read v = .ok a := by
  have hdocument : ∀ v, Body.read read (.document v) = .ok a ↔ read v = .ok a := by
    intro v
    show (read v).mapError unprocessable = .ok a ↔ _
    cases read v <;> simp [Except.mapError]
  cases r.content depth with
  | error refusal => simp [Except.bind]
  | ok content =>
    cases content with
    | empty => simp [Except.bind, Body.read]
    | document v => simpa [Except.bind] using hdocument v

/-- Whether all texts that a request carries have a UTF-8 form. -/
def Body.isEncodable : Body → Bool
  | empty => true
  | document v => v.isEncodable

/-- A request to a route with a body that holds options and a table, is nested no deeper than the interpreter reads, and
whose texts all have a UTF-8 form. -/
structure Request.Posts (r : Request) (depth : Nat) (route : Route) (members : Entries Document)
    (options : OptionMap) (t : Table) : Prop where
  path : Route.ofPath? r.path = some route
  method : r.method = route.method
  content : r.content depth = .ok (.document (.object members))
  encodable : (Document.object members).isEncodable
  options : members.get? "options" = some (.object (options.map fun e => (e.1, .text e.2)))
  table : ∃ v, members.get? "table" = some v ∧ Table.read .noFields v = .ok t

namespace Request.Posts

theorem isEncodable_of_get? (h : r.Posts depth route members options t) {key : Text} {v : Document}
    (hv : members.get? key = some v) : v.isEncodable :=
  (Document.membersAreEncodable_iff.mp h.encodable _ (Entries.mem_of_get? hv)).2

theorem isEncodable_options (h : r.Posts depth route members options t) : options.IsEncodable := by
  have hobject := h.isEncodable_of_get? h.options
  intro e he
  exact Document.membersAreEncodable_iff.mp hobject (e.1, .text e.2) (List.mem_map_of_mem he)

theorem isEncodable_columns (h : r.Posts depth route members options t) : ∀ e ∈ t.columns, e.1.isEncodable := by
  obtain ⟨v, hget, hv⟩ := h.table
  exact Table.isEncodable_columns hv (h.isEncodable_of_get? hget)

theorem read_options (h : r.Posts depth route members options t) :
    Reading.requiredField members "options" Reading.textMap = .ok options :=
  Reading.requiredField_eq_ok_iff.mpr ⟨_, h.options, Reading.textMap_eq_ok_iff.mpr rfl⟩

/-- Such a body is one of a validation. -/
theorem read_validate (h : r.Posts depth route members options t) :
    (r.content depth).bind (Body.read ValidateBody.read) = .ok ⟨options, some t⟩ := by
  obtain ⟨v, hget, hv⟩ := h.table
  have hnull : v ≠ .null := by
    rintro rfl
    cases hv
  have htable : Reading.optionalField members "table" none (Reading.nullable (Table.read .noFields)) = .ok (some t) :=
    Reading.optionalField_eq_ok_iff.mpr
      (Or.inr ⟨v, hget, Reading.nullable_eq_ok_iff.mpr (Or.inr ⟨hnull, t, hv, rfl⟩)⟩)
  have hread : ValidateBody.read (.object members) = .ok ⟨options, some t⟩ :=
    Checked.map_eq_ok_iff.mpr ⟨_, Checked.and_eq_ok_iff.mpr ⟨h.read_options, htable⟩, rfl⟩
  exact read_content_eq_ok_iff.mpr ⟨_, h.content, hread⟩

/-- With the name of an index it is one of a resolution. -/
theorem read_resolve (h : r.Posts depth route members options t) (hname : members.get? "index_name" = some (.text name))
    (hne : 1 ≤ name.length) (hlen : name.length ≤ 255) :
    (r.content depth).bind (Body.read ResolveBody.read) = .ok ⟨options, t, name⟩ := by
  have hindex : Reading.requiredField members "index_name" (Reading.boundedText 1 (some maxIndexName)) = .ok name :=
    Reading.requiredField_eq_ok_iff.mpr ⟨_, hname, Reading.boundedText_eq_ok_iff.mpr
      ⟨rfl, h.isEncodable_of_get? hname, hne, by simpa [maxIndexName] using hlen⟩⟩
  have htable : Reading.requiredField members "table" (Table.read .noFields) = .ok t :=
    Reading.requiredField_eq_ok_iff.mpr h.table
  have hread : ResolveBody.read (.object members) = .ok ⟨options, t, name⟩ :=
    Checked.map_eq_ok_iff.mpr ⟨_, Checked.and_eq_ok_iff.mpr ⟨h.read_options,
      Checked.and_eq_ok_iff.mpr ⟨htable, hindex⟩⟩, rfl⟩
  exact read_content_eq_ok_iff.mpr ⟨_, h.content, hread⟩

/-- The validation is answered with what is collected from its options. -/
theorem result_validation {s : Service} (h : r.Posts s.depth .validate members options t) :
    (answer s r).result = validated (options.collectErrors (.bare t) (Schema.builder s.depth)).result := by
  rw [result_answer_validate s h.path h.method, h.read_validate]
  rfl

/-- The resolution is answered with what becomes of its options, with the shared directories. -/
theorem result_resolution {s : Service} {o : SharedDirectories} (h : r.Posts s.depth .resolve members options t)
    (hname : members.get? "index_name" = some (.text name)) (hne : 1 ≤ name.length) (hlen : name.length ≤ 255)
    (ho : s.obtainDirectories.result = .ok o) :
    (answer s r).result =
      resolved name (options.resolve (.bare t) (.bare ⟨name, options⟩) o.directories.naming
        (Schema.builder s.depth)).result := by
  rw [result_answer_of_read h.path h.method ho (h.read_resolve hname hne hlen), resolveStored_of_obtained ho]
  rfl

end Request.Posts

/-- The bodies that are read for a resolution are of this kind, if their texts have a UTF-8 form. -/
theorem exists_posts_of_read {b : ResolveBody} (hpath : Route.ofPath? r.path = some route)
    (hmethod : r.method = route.method) (h : (r.content depth).bind (Body.read ResolveBody.read) = .ok b)
    (hencodable : ∀ v, r.content depth = .ok (.document v) → v.isEncodable) :
    ∃ members, r.Posts depth route members b.options b.table ∧
      members.get? "index_name" = some (.text b.indexName) ∧ 1 ≤ b.indexName.length ∧ b.indexName.length ≤ 255 := by
  obtain ⟨v, hcontent, hread⟩ := read_content_eq_ok_iff.mp h
  cases v with
  | object members =>
    obtain ⟨⟨options, t, name⟩, hfields, rfl⟩ := Checked.map_eq_ok_iff.mp hread
    simp only [Checked.and_eq_ok_iff] at hfields
    obtain ⟨hoptions, htable, hname⟩ := hfields
    obtain ⟨w, hw, hoptions⟩ := Reading.requiredField_eq_ok_iff.mp hoptions
    obtain ⟨x, hx, hname⟩ := Reading.requiredField_eq_ok_iff.mp hname
    obtain rfl := Reading.textMap_eq_ok_iff.mp hoptions
    obtain ⟨rfl, -, hne, hlen⟩ := Reading.boundedText_eq_ok_iff.mp hname
    exact ⟨members, ⟨hpath, hmethod, hcontent, hencodable _ hcontent, hw, Reading.requiredField_eq_ok_iff.mp htable⟩,
      hx, hne, hlen _ rfl⟩
  | _ => cases hread

/-! ## Agreement -/

/-- What is answered with status 200 to a validation is a list of rejections that can be sent. -/
theorem validation_of_status {x : Except ResolveError (List Rejection)} (h : (validated x).status = 200) :
    ∃ rejections, x = .ok rejections ∧ validated x = validity rejections ∧
      ∀ rejection ∈ rejections, rejection.message.isEncodable := by
  cases x with
  | error e => cases h
  | ok rejections =>
    refine ⟨rejections, rfl, Response.asSent_of_status h, ?_⟩
    have hbody : (validity rejections).body.isEncodable := Response.isEncodable_of_status h
    have hlist := Document.membersAreEncodable_iff.mp hbody
      (Text.ofString "errors", .array (rejections.map rejectionDocument)) (by simp)
    intro rejection hr
    have hdocument : (rejectionDocument rejection).isEncodable :=
      Document.areEncodable_iff.mp hlist.2 _ (List.mem_map_of_mem hr)
    exact (Document.membersAreEncodable_iff.mp hdocument (Text.ofString "message", .text rejection.message) (by simp)).2

/-- The configuration of a body whose texts have a UTF-8 form can be sent. -/
theorem Request.Posts.resolved_config {d : Directories} {c : Config Schema}
    (h : r.Posts depth .resolve members options t)
    (hname : members.get? "index_name" = some (.text name)) (hd : d.data.IsEncodable)
    (hc : (options.resolve (.bare t) (.bare ⟨name, options⟩) d.naming (Schema.builder depth)).result = .ok c) :
    resolved name (.ok c) = resolution name c := by
  have hencodable : name.isEncodable := h.isEncodable_of_get? hname
  have hfits : Schema.checkColumns c.schema t = .ok () := OptionMap.check_of_resolve rfl rfl hc
  rw [OptionMap.result_resolve rfl rfl] at hc
  obtain ⟨hrefresh, -, -, -, -, -, hcenters, hpath, -⟩ := OptionMap.values_eq_ok_iff.mp hc
  have hbase : ∀ base, d.naming t = .ok base → base.IsEncodable := by
    intro base hbase
    cases hbase
    obtain ⟨v, -, htable⟩ := h.table
    obtain ⟨_, -, hmembers⟩ := Table.read_eq_ok_iff.mp htable
    exact Directories.isEncodable_baseFor hd hmembers.isName_keyspace.1 hmembers.isName_name.1
  refine asSent_resolution hencodable (OptionMap.refreshSeconds_eq_ok hrefresh).1 ?_ ?_ ?_
  · rw [← hcenters]
    exact OptionMap.isEncodable_excludedDataCenters h.isEncodable_options
  · intro p hp
    exact Path.isEncodable_text (OptionMap.isEncodable_path h.isEncodable_options hencodable hbase hpath p hp)
  · intro column hcolumn
    obtain ⟨type, htype⟩ := Schema.exists_type_of_mem_mappedColumns hfits hcolumn
    exact h.isEncodable_columns _ (Entries.mem_of_get? htype)

section Collected

variable {d : Directories} {i : Index} {rejections : List Rejection}

/-- A resolution stops at the first rejection that is collected. -/
theorem resolve_eq_error_iff_of_collected
    (h : (options.collectErrors (.bare t) (Schema.builder depth)).result = .ok rejections) {e : ResolveError} :
    (options.resolve (.bare t) (.bare i) d.naming (Schema.builder depth)).result = .error e ↔
      (rejections.map ResolveError.rejected).head? = some e := by
  rw [OptionMap.resolve_eq_error_iff rfl rfl rfl, ← OptionMap.collectErrors_eq_ok_iff.mp h]
  rfl

theorem exists_config_of_nothing_collected
    (h : (options.collectErrors (.bare t) (Schema.builder depth)).result = .ok []) :
    ∃ c, (options.resolve (.bare t) (.bare i) d.naming (Schema.builder depth)).result = .ok c := by
  cases hc : (options.resolve (.bare t) (.bare i) d.naming (Schema.builder depth)).result with
  | ok c => exact ⟨c, rfl⟩
  | error e => cases (resolve_eq_error_iff_of_collected h).mp hc

end Collected

/-- The request with seconds that are no number, as one of a validation. -/
def wordyCheck : Request := { wordyRequest with path := "/index-options/validate" }

end Http

end IndexOptions
