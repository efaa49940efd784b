/-
  A configuration without its defaults.

  A configuration may be written in full, but what has its default value can be left out: single
  fields, whole sections, or some fields of a section; and anything that no configuration knows
  can be put in.  `Json.Trims` says that a document was made from a full one in this way, with the
  default document beside it, and `Json.trims_edit` that taking members out and putting others in
  makes such a document.

  What is left out is read as the default, which it had; what is there is read as before; nothing
  else is looked at (`Json.Trims.fields`).  So every section, and then the whole configuration, is
  read back from the trimmed document (`Config.trimmed_read_back`).

  There are two levels of records, so there are two rounds of the same argument: the fields of a
  section are values, which are there as they were or not at all (`Json.read_leaf`); the fields of
  the configuration are sections, which are there in any trimmed form (`Json.read_trimmed`).  In
  both the crux is what happens to a field that is not there.  It is read as the default that the
  reader has, and it was left out because it equals the member of the default DOCUMENT; so the two
  defaults have to agree, which is checked for each field by computing it (the last argument,
  `rfl`).

  An edit of a document by hand is the other direction: a member is taken out only where the
  default has the very same, and what is put in has a name of its own (`Config.trims_edited`).
-/
import LeaseKeeper.Config.Json
import LeaseKeeper.Config.Validation
import LeaseKeeper.Proofs.Json.Records
import LeaseKeeper.Registry.Settings

namespace LeaseKeeper

/-! ## Trimmed documents -/

namespace Json

/-- **A document without some of its defaults**, down to `levels` levels of records.  Each member of
    the full record either stands in the trimmed one, once and trimmed in the same way, or is a
    member of the default record and is left out.  Members with other names do not matter, nor
    does the order. -/
def Trims : Nat → (default full trimmed : Json) → Prop
  | 0, _, full, trimmed => trimmed = full
  | levels + 1, default, full, trimmed => ∃ ms, trimmed = .obj ms ∧ ∀ m ∈ full.members,
      (∃ v, membersNamed m.1 ms = [v] ∧ Trims levels ((default.field m.1).getD .null) m.2 v) ∨
        (membersNamed m.1 ms = [] ∧ m ∈ default.members)

/-- **Taking members out and putting others in** trims a record, if those taken out are the default's
    and those put in have new names. -/
theorem trims_edit {levels : Nat} {default full : Json} (edit : String × Json → Json)
    (removed : String → Bool) (added : List (String × Json))
    (hnodup : (full.members.map Prod.fst).Nodup)
    (hkept : ∀ m ∈ full.members, removed m.1 = false →
      Trims levels ((default.field m.1).getD .null) m.2 (edit m))
    (hremoved : ∀ m ∈ full.members, removed m.1 = true → m ∈ default.members)
    (hadded : ∀ m ∈ added, m.1 ∉ full.members.map Prod.fst) :
    Trims (levels + 1) default full (.obj
      ((full.members.filter fun m => !removed m.1).map (fun m => (m.1, edit m)) ++ added)) := by
  refine ⟨_, rfl, fun m hm => ?_⟩
  have hnone : membersNamed m.1 added = [] := by
    refine membersNamed_eq_nil fun hkey => ?_
    obtain ⟨m', hm', hsame⟩ := List.mem_map.1 hkey
    exact hadded m' hm' (hsame ▸ List.mem_map_of_mem hm)
  -- What was put in has other names, so a key of the full record means what is left of that record.
  rw [membersNamed_append, hnone, List.append_nil]
  cases hm' : removed m.1 with
  | true =>
    -- It was taken out, and nobody else has its key.
    refine .inr ⟨membersNamed_eq_nil fun hkey => ?_, hremoved m hm hm'⟩
    obtain ⟨_, hedited, hsame⟩ := List.mem_map.1 hkey
    obtain ⟨m', hkept', rfl⟩ := List.mem_map.1 hedited
    have hstays : (!removed m'.1) = true := (List.mem_filter.1 hkept').2
    rw [show m'.1 = m.1 from hsame, hm'] at hstays
    cases hstays
  | false =>
    -- It was kept.
    have hthere : (m.1, edit m) ∈
        (full.members.filter fun m => !removed m.1).map fun m => (m.1, edit m) :=
      List.mem_map.2 ⟨m, List.mem_filter.2 ⟨hm, by rw [hm']; rfl⟩, rfl⟩
    -- Keys are still different, so under this one stands what was made of this member.
    have hkeys : (((full.members.filter fun m => !removed m.1).map
        fun m => (m.1, edit m)).map Prod.fst).Nodup := by
      rw [List.map_map]
      exact hnodup.sublist (List.filter_sublist.map Prod.fst)
    refine .inl ⟨edit m, ?_, hkept m hm hm'⟩
    rw [membersNamed_of_nodup _ hkeys, lookup_of_mem hkeys hthere]
    rfl

/-- A record is trimmed if nothing is taken out and every member is a trimmed form of itself. -/
theorem trims_self {levels : Nat} {default full : Json} (hobj : full = .obj full.members)
    (hnodup : (full.members.map Prod.fst).Nodup)
    (hmembers : ∀ m ∈ full.members, Trims levels ((default.field m.1).getD .null) m.2 m.2) :
    Trims (levels + 1) default full full := by
  refine ⟨full.members, hobj, fun m hm => .inl ⟨m.2, ?_, hmembers m hm⟩⟩
  rw [membersNamed_of_nodup _ hnodup, lookup_of_mem hnodup hm]
  rfl

/-- **What is read from a trimmed record**: a member that is there is trimmed, and one that is not is
    the default's. -/
theorem Trims.fields {levels : Nat} {default full trimmed : Json}
    (h : Trims (levels + 1) default full trimmed) {names : List String}
    (hnames : full.members.map Prod.fst = names)
    (hnodup : (default.members.map Prod.fst).Nodup) :
    ∃ f, record? names trimmed = some f ∧ ∀ key v, full.field key = some v →
      (∃ v', f key = some v' ∧ Trims levels ((default.field key).getD .null) v v') ∨
        (f key = none ∧ default.field key = some v) := by
  obtain ⟨ms, rfl, hms⟩ := h
  -- No known key stands there twice, so there is a record at all.
  have honce : (names.all fun n => decide ((membersNamed n ms).length ≤ 1)) = true := by
    refine List.all_eq_true.2 fun key hkey => decide_eq_true ?_
    rw [← hnames] at hkey
    obtain ⟨m, hm, rfl⟩ := List.mem_map.1 hkey
    rcases hms m hm with ⟨v, hv, -⟩ | ⟨hnone, -⟩
    · rw [hv]
      exact Nat.le_refl 1
    · rw [hnone]
      exact Nat.zero_le 1
  refine ⟨_, if_pos honce, fun key v hv => ?_⟩
  have hm : (key, v) ∈ full.members := mem_of_lookup hv
  have hdeclared : key ∈ names := hnames ▸ List.mem_map_of_mem (f := Prod.fst) hm
  simp only [hdeclared, if_true]
  -- Whether the member is there.
  rcases hms _ hm with ⟨v', hv', htrims⟩ | ⟨hnone, hdefault⟩
  · exact .inl ⟨v', by rw [hv']; rfl, htrims⟩
  · exact .inr ⟨by rw [hnone]; rfl, lookup_of_mem hnodup hdefault⟩

/-- **A field of a trimmed record is read back**, if every form of its value is read as `a` and the
    default's value as the default. -/
theorem read_trimmed {α : Type} {read : Json → Option α} {field standard : Option Json}
    {default a : α} {v : Json} {P : Json → Prop}
    (h : (∃ v', field = some v' ∧ P v') ∨ (field = none ∧ standard = some v))
    (hread : ∀ v', P v' → read v' = some a) (hself : P v)
    (hdefault : standard.bind read = some default) : fieldOr field default read = some a := by
  rcases h with ⟨v', hv', hP⟩ | ⟨hnone, hstandard⟩
  · rw [hv']
    exact hread v' hP
  · -- It was left out, so its value was the default's, and that is read in one way only.
    rw [hstandard, Option.bind_some, hread v hself] at hdefault
    rw [hnone, fieldOr, hdefault]

/-- A field that is no record is there as it was. -/
theorem read_leaf {α : Type} {read : Json → Option α} {d : Json} {field standard : Option Json}
    {default a : α} {v : Json}
    (h : (∃ v', field = some v' ∧ Trims 0 d v v') ∨ (field = none ∧ standard = some v))
    (hread : read v = some a) (hdefault : standard.bind read = some default) :
    fieldOr field default read = some a := by
  refine read_trimmed h (fun v' hsame => ?_) rfl hdefault
  rw [show v' = v from hsame]
  exact hread

/-! ## Values of fields

What can be left out by its own kind: lists, texts and numbers that may be missing. -/

theorem texts?_ofStrings (l : List String) : format.texts? (.ofStrings l) = some l := mapM_str? l

theorem nullable_text (o : Option String) :
    format.nullable? format.text? (.ofOption .str o) = some o := by
  cases o <;> rfl

theorem nullable_uint64 (o : Option UInt64) :
    format.nullable? format.uint64? (.ofOption (.ofNat ·.toNat) o) = some o := by
  cases o with
  | none => rfl
  | some n => exact congrArg (Option.map some) (uint64?_natural n)

end Json

/-! ## Sections -/

section

variable {j : Json}

/-- **The pacing** is read back: two numbers. -/
theorem PacingConfig.read?_trimmed (c : PacingConfig)
    (h : Json.Trims 1 ({} : PacingConfig).toJson c.toJson j) : read? Json.format j = some c := by
  obtain ⟨f, hfields, hfield⟩ := h.fields
    (show _ = ["retry_interval_ms", "startup_delay_ms"] from rfl) (by decide)
  have hretry : fieldOr (f "retry_interval_ms") ({} : PacingConfig).retryIntervalMs
      Json.format.uint64? = some c.retryIntervalMs :=
    Json.read_leaf (hfield _ _ rfl) (Json.uint64?_natural c.retryIntervalMs) rfl
  have hstartup : fieldOr (f "startup_delay_ms") ({} : PacingConfig).startupDelayMs
      Json.format.uint64? = some c.startupDelayMs :=
    Json.read_leaf (hfield _ _ rfl) (Json.uint64?_natural c.startupDelayMs) rfl
  have hrecord : Json.format.record? _ j = some f := hfields
  simp only [read?, hrecord, hretry, hstartup, Option.bind_eq_bind, Option.bind_some,
    Option.pure_def]

/-- **The access to the registry** is read back: a list of addresses, texts and numbers. -/
theorem EndpointConfig.read?_trimmed (c : EndpointConfig)
    (h : Json.Trims 1 ({} : EndpointConfig).toJson c.toJson j) : read? Json.format j = some c := by
  obtain ⟨f, hfields, hfield⟩ := h.fields (show _ = ["service_urls", "service_name", "service_tag",
    "port", "timeout_secs", "poll_interval_secs", "renewal_interval_secs"] from rfl) (by decide)
  have hurls : fieldOr (f "service_urls") ({} : EndpointConfig).serviceUrls Json.format.texts? =
      some c.serviceUrls :=
    Json.read_leaf (hfield _ _ rfl) (Json.texts?_ofStrings c.serviceUrls) rfl
  have hname : fieldOr (f "service_name") ({} : EndpointConfig).serviceName Json.format.text? =
      some c.serviceName :=
    Json.read_leaf (hfield _ _ rfl) rfl rfl
  have htag : fieldOr (f "service_tag") ({} : EndpointConfig).serviceTag
      (Json.format.nullable? Json.format.text?) = some c.serviceTag :=
    Json.read_leaf (hfield _ _ rfl) (Json.nullable_text c.serviceTag) rfl
  have hport : fieldOr (f "port") ({} : EndpointConfig).port Json.format.uint16? = some c.port :=
    Json.read_leaf (hfield _ _ rfl) (Json.uint16?_natural c.port) rfl
  have htimeout : fieldOr (f "timeout_secs") ({} : EndpointConfig).timeoutSecs
      Json.format.uint64? = some c.timeoutSecs :=
    Json.read_leaf (hfield _ _ rfl) (Json.uint64?_natural c.timeoutSecs) rfl
  have hpoll : fieldOr (f "poll_interval_secs") ({} : EndpointConfig).pollIntervalSecs
      Json.format.uint64? = some c.pollIntervalSecs :=
    Json.read_leaf (hfield _ _ rfl) (Json.uint64?_natural c.pollIntervalSecs) rfl
  have hrenewal : fieldOr (f "renewal_interval_secs") ({} : EndpointConfig).renewalIntervalSecs
      (Json.format.nullable? Json.format.uint64?) = some c.renewalIntervalSecs :=
    Json.read_leaf (hfield _ _ rfl) (Json.nullable_uint64 c.renewalIntervalSecs) rfl
  have hrecord : Json.format.record? _ j = some f := hfields
  simp only [read?, hrecord, hurls, hname, htag, hport, htimeout, hpoll, hrenewal,
    Option.bind_eq_bind, Option.bind_some, Option.pure_def]

/-- **The fixed identity** is read back; what is missing in it is missing in the document, too. -/
theorem StaticIdentity.read?_trimmed (c : StaticIdentity)
    (h : Json.Trims 1 ({} : StaticIdentity).toJson c.toJson j) : read? Json.format j = some c := by
  obtain ⟨f, hfields, hfield⟩ := h.fields
    (show _ = ["name", "instance_id", "addr", "uris"] from rfl) (by decide)
  have hname : fieldOr (f "name") ({} : StaticIdentity).name
      (Json.format.nullable? Json.format.text?) = some c.name :=
    Json.read_leaf (hfield _ _ rfl) (Json.nullable_text c.name) rfl
  have hinstanceId : fieldOr (f "instance_id") ({} : StaticIdentity).instanceId
      (Json.format.nullable? Json.format.text?) = some c.instanceId :=
    Json.read_leaf (hfield _ _ rfl) (Json.nullable_text c.instanceId) rfl
  have haddr : fieldOr (f "addr") ({} : StaticIdentity).addr
      (Json.format.nullable? Json.format.text?) = some c.addr :=
    Json.read_leaf (hfield _ _ rfl) (Json.nullable_text c.addr) rfl
  have huris : fieldOr (f "uris") ({} : StaticIdentity).uris Json.format.texts? = some c.uris :=
    Json.read_leaf (hfield _ _ rfl) (Json.texts?_ofStrings c.uris) rfl
  have hrecord : Json.format.record? _ j = some f := hfields
  simp only [read?, hrecord, hname, hinstanceId, haddr, huris, Option.bind_eq_bind,
    Option.bind_some, Option.pure_def]

theorem LogFormat.read?_label (l : LogFormat) : read? Json.format (.str l.label) = some l := by
  cases l <;> rfl

/-- **The reporting** is read back; the format of the log is known by its label. -/
theorem ReportingConfig.read?_trimmed (c : ReportingConfig)
    (h : Json.Trims 1 ({} : ReportingConfig).toJson c.toJson j) :
    read? Json.format j = some c := by
  obtain ⟨f, hfields, hfield⟩ := h.fields
    (show _ = ["log_level", "log_format", "metrics_enabled", "metrics_address"] from rfl) (by decide)
  have hlevel : fieldOr (f "log_level") ({} : ReportingConfig).logLevel Json.format.text? =
      some c.logLevel :=
    Json.read_leaf (hfield _ _ rfl) rfl rfl
  have hformat : fieldOr (f "log_format") ({} : ReportingConfig).logFormat
      (LogFormat.read? Json.format) = some c.logFormat :=
    Json.read_leaf (hfield _ _ rfl) c.logFormat.read?_label rfl
  have henabled : fieldOr (f "metrics_enabled") ({} : ReportingConfig).metricsEnabled
      Json.format.flag? = some c.metricsEnabled :=
    Json.read_leaf (hfield _ _ rfl) rfl rfl
  have haddress : fieldOr (f "metrics_address") ({} : ReportingConfig).metricsAddress
      Json.format.text? = some c.metricsAddress :=
    Json.read_leaf (hfield _ _ rfl) rfl rfl
  have hrecord : Json.format.record? _ j = some f := hfields
  simp only [read?, hrecord, hlevel, hformat, henabled, haddress, Option.bind_eq_bind,
    Option.bind_some, Option.pure_def]

end

/-! ## The whole configuration -/

namespace Config

/-- The keys of every section are different. -/
theorem section_keys (c : Config) : ∀ m ∈ c.toJson.members,
    m.2 = .obj m.2.members ∧ (m.2.members.map Prod.fst).Nodup := by
  simp only [toJson, Json.members, List.forall_mem_cons]
  refine ⟨⟨rfl, ?_⟩, ⟨rfl, ?_⟩, ⟨rfl, ?_⟩, ⟨rfl, ?_⟩, nofun⟩
  · show ["retry_interval_ms", "startup_delay_ms"].Nodup
    decide
  · show ["service_urls", "service_name", "service_tag", "port", "timeout_secs",
      "poll_interval_secs", "renewal_interval_secs"].Nodup
    decide
  · show ["name", "instance_id", "addr", "uris"].Nodup
    decide
  · show ["log_level", "log_format", "metrics_enabled", "metrics_address"].Nodup
    decide

theorem keys_nodup (c : Config) : (c.toJson.members.map Prod.fst).Nodup := by
  show ["registration", "registry", "identity", "observability"].Nodup
  decide

/-- A section is trimmed if nothing is taken out of it: its fields are values. -/
theorem section_trims (c : Config) (default : Json) {m : String × Json}
    (hm : m ∈ c.toJson.members) : Json.Trims 1 default m.2 m.2 := by
  obtain ⟨hobj, hnodup⟩ := c.section_keys m hm
  exact Json.trims_self hobj hnodup fun _ _ => rfl

/-- **The whole configuration** is read back: four sections, each in any trimmed form. -/
theorem ofJson?_trimmed (c : Config) {j : Json}
    (h : Json.Trims 2 ({} : Config).toJson c.toJson j) : ofJson? j = some c := by
  obtain ⟨f, hfields, hfield⟩ := h.fields
    (show _ = ["registration", "registry", "identity", "observability"] from rfl) (by decide)
  have hregistration : fieldOr (f "registration") ({} : Config).registration
      (PacingConfig.read? Json.format) = some c.registration :=
    Json.read_trimmed (hfield _ _ rfl) (fun _ hv => c.registration.read?_trimmed hv)
      (c.section_trims _ (.head _)) rfl
  have hregistry : fieldOr (f "registry") ({} : Config).registry
      (EndpointConfig.read? Json.format) = some c.registry :=
    Json.read_trimmed (hfield _ _ rfl) (fun _ hv => c.registry.read?_trimmed hv)
      (c.section_trims _ (.tail _ (.head _))) rfl
  have hidentity : fieldOr (f "identity") ({} : Config).identity
      (StaticIdentity.read? Json.format) = some c.identity :=
    Json.read_trimmed (hfield _ _ rfl) (fun _ hv => c.identity.read?_trimmed hv)
      (c.section_trims _ (.tail _ (.tail _ (.head _)))) rfl
  have hobservability : fieldOr (f "observability") ({} : Config).observability
      (ReportingConfig.read? Json.format) = some c.observability :=
    Json.read_trimmed (hfield _ _ rfl) (fun _ hv => c.observability.read?_trimmed hv)
      (c.section_trims _ (.tail _ (.tail _ (.tail _ (.head _))))) rfl
  have hrecord : Json.format.record? _ j = some f := hfields
  simp only [ofJson?, read?, hrecord, hregistration, hregistry, hidentity, hobservability,
    Option.bind_eq_bind, Option.bind_some, Option.pure_def]

/-- A full document is trimmed, with nothing taken out. -/
theorem trims_toJson (c : Config) : Json.Trims 2 ({} : Config).toJson c.toJson c.toJson :=
  Json.trims_self rfl c.keys_nodup fun _ hm => c.section_trims _ hm

/-- **A document with parts taken out and others put in**: sections under the keys `sections`, fields
    of a section under the keys `fields`, and what is put in beside the sections and beside the
    fields of each. -/
def edited (c : Config) (sections : String → Bool) (fields : String → String → Bool)
    (added : List (String × Json)) (addedTo : String → List (String × Json)) : Json :=
  .obj ((c.toJson.members.filter fun m => !sections m.1).map
    (fun m => (m.1, .obj ((m.2.members.filter fun f => !fields m.1 f.1) ++ addedTo m.1))) ++ added)

/-- **Taking out what has its default and putting in what is unknown** trims a document: sections
    are taken out or kept and edited themselves. -/
theorem trims_edited (c : Config) {sections : String → Bool} {fields : String → String → Bool}
    {added : List (String × Json)} {addedTo : String → List (String × Json)}
    (hsections : ∀ m ∈ c.toJson.members, sections m.1 = true → m ∈ ({} : Config).toJson.members)
    (hfields : ∀ m ∈ c.toJson.members, ∀ f ∈ m.2.members, fields m.1 f.1 = true →
      f ∈ ((({} : Config).toJson.field m.1).getD .null).members)
    (hadded : ∀ m ∈ added, m.1 ∉ c.toJson.members.map Prod.fst)
    (haddedTo : ∀ m ∈ c.toJson.members, ∀ f ∈ addedTo m.1, f.1 ∉ m.2.members.map Prod.fst) :
    Json.Trims 2 ({} : Config).toJson c.toJson (c.edited sections fields added addedTo) := by
  refine Json.trims_edit _ sections added c.keys_nodup (fun m hm _ => ?_) hsections hadded
  have hsection : Json.Trims 1 ((({} : Config).toJson.field m.1).getD .null) m.2 _ :=
    Json.trims_edit Prod.snd (fields m.1) (addedTo m.1) (c.section_keys m hm).2
      (fun _ _ _ => rfl) (hfields m hm) (haddedTo m hm)
  rwa [List.map_id'' fun _ => rfl] at hsection

/-- **A document that was edited so is read as the full one.**  This is the form in which
    somebody edits a file; `trimmed_read_back` says the same of any order of members, too. -/
theorem edited_read_back (c : Config) {sections : String → Bool} {fields : String → String → Bool}
    {added : List (String × Json)} {addedTo : String → List (String × Json)}
    (hsections : ∀ m ∈ c.toJson.members, sections m.1 = true → m ∈ ({} : Config).toJson.members)
    (hfields : ∀ m ∈ c.toJson.members, ∀ f ∈ m.2.members, fields m.1 f.1 = true →
      f ∈ ((({} : Config).toJson.field m.1).getD .null).members)
    (hadded : ∀ m ∈ added, m.1 ∉ c.toJson.members.map Prod.fst)
    (haddedTo : ∀ m ∈ c.toJson.members, ∀ f ∈ addedTo m.1, f.1 ∉ m.2.members.map Prod.fst) :
    ofJson? (c.edited sections fields added addedTo) = some c :=
  c.ofJson?_trimmed (c.trims_edited hsections hfields hadded haddedTo)

/-- **A trimmed document means the same as the full one.**  If fields and sections that have their
    default are left out of the document of a configuration, and anything unknown is put in, the
    configuration itself is read from it; so its faults, its waits, the settings of its registry and
    its fixed identity are those of the full document. -/
theorem trimmed_read_back (c : Config) (j : Json)
    (h : Json.Trims 2 ({} : Config).toJson c.toJson j) :
    ofJson? j = some c ∧ ofJson? j = ofJson? c.toJson ∧
      (ofJson? j).map faults = (ofJson? c.toJson).map faults ∧
      (ofJson? j).map (·.registration.pacing) = (ofJson? c.toJson).map (·.registration.pacing) ∧
      (∀ env, (ofJson? j).map (RegistrySettings.determine ·.registry env) =
        (ofJson? c.toJson).map (RegistrySettings.determine ·.registry env)) ∧
      (ofJson? j).map (·.identity.identity?) =
        (ofJson? c.toJson).map (·.identity.identity?) := by
  have hsame : ofJson? j = ofJson? c.toJson :=
    (c.ofJson?_trimmed h).trans (c.ofJson?_trimmed c.trims_toJson).symm
  rw [hsame]
  exact ⟨c.ofJson?_trimmed c.trims_toJson, rfl, rfl, rfl, fun _ => rfl, rfl⟩

/-- A configuration that names a port and a log format. -/
def sparse : Config := { registry := { port := 8761 }, observability := { logFormat := .json } }

/-- Its document with everything else left out of it and a remark put in. -/
def sparseDocument : Json := .obj [
  ("remark", .str "local"),
  ("observability", .obj [("colour", .bool true), ("log_format", .str "json")]),
  ("registry", .obj [("port", .num (.natural 8761))])]

theorem sparse_read_back : Json.Trims 2 ({} : Config).toJson sparse.toJson sparseDocument ∧
    ofJson? sparseDocument = some sparse := by
  -- Of the registry only the port is left, and of the reporting only the format.
  have hregistry : Json.Trims 1 ({} : EndpointConfig).toJson sparse.registry.toJson
      (.obj [("port", .num (.natural 8761))]) := by
    refine ⟨_, rfl, ?_⟩
    simp only [EndpointConfig.toJson, Json.members, List.forall_mem_cons]
    refine ⟨.inr ⟨rfl, ?_⟩, .inr ⟨rfl, ?_⟩, .inr ⟨rfl, ?_⟩, .inl ⟨_, rfl, rfl⟩, .inr ⟨rfl, ?_⟩,
      .inr ⟨rfl, ?_⟩, .inr ⟨rfl, ?_⟩, nofun⟩ <;> simp [sparse]
  have hobservability : Json.Trims 1 ({} : ReportingConfig).toJson sparse.observability.toJson
      (.obj [("colour", .bool true), ("log_format", .str "json")]) := by
    refine ⟨_, rfl, ?_⟩
    simp only [ReportingConfig.toJson, Json.members, List.forall_mem_cons]
    refine ⟨.inr ⟨rfl, ?_⟩, .inl ⟨_, rfl, rfl⟩, .inr ⟨rfl, ?_⟩, .inr ⟨rfl, ?_⟩, nofun⟩ <;>
      simp [sparse]
  -- The two other sections are left out, as they have their defaults.
  have htrims : Json.Trims 2 ({} : Config).toJson sparse.toJson sparseDocument := by
    refine ⟨_, rfl, ?_⟩
    simp only [Config.toJson, Json.members, List.forall_mem_cons]
    refine ⟨.inr ⟨rfl, ?_⟩, .inl ⟨_, rfl, hregistry⟩, .inr ⟨rfl, ?_⟩,
      .inl ⟨_, rfl, hobservability⟩, nofun⟩ <;> simp [sparse]
  exact ⟨htrims, (trimmed_read_back sparse sparseDocument htrims).1⟩

end Config

end LeaseKeeper
