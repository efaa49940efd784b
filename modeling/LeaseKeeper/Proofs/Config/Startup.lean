/-
  What a valid configuration may start.

  Whether a configuration is valid and whether it can be enabled are decided in different places,
  and the second asks for more (`start_valid`):

    * a port is added to an address that names none, and only a URL with a host that is no `file`
      URL has a place for one (`Url.TakesPort`);

    * the URL of an address is written and read once more.  That gives the same host and port,
      unless a name with the mark of Punycode is not taken a second time (`Url.HoldsHost`);

    * name and instance id must be given, and the empty text is given too.

  Nothing else can go wrong: with these, there is a client and an identity, in every environment.

  Each of the three parts is an iff by itself (`ofConfig_isOk`, `complete_isOk`,
  `Daemon.exitCode?_start`), and they meet in the last theorem.  For the addresses the crux is
  that what a configuration says is completed, written and read again before a port is added,
  while `EndpointConfig.IsReachable` looks only at what was said.
-/
import LeaseKeeper.Config.Validation
import LeaseKeeper.Daemon
import LeaseKeeper.Proofs.Registry.Bases

namespace LeaseKeeper

/-! ## Addresses as people write them -/

theorem areSegments_defaultPath : Url.AreSegments ServiceUri.defaultPath := by
  have hall : "eureka".toList.all (fun c => !Url.inPath c) = true := by decide
  intro s hs c hc
  rw [List.mem_singleton.1 hs] at hc
  simpa using List.all_eq_true.1 hall c hc

/-- **The URL of an address is in written form**, also with the default path.  Only the path is
    new, so only the field about the path is to be proved. -/
theorem Url.IsRead.withDefaultPath {u : Url} (h : u.IsRead) :
    (ServiceUri.withDefaultPath u).IsRead := by
  have hpath : ∀ path, PathIsRead { u with path } → Url.IsRead { u with path } := fun path hpath =>
    { scheme := h.scheme
      host := h.host
      placed := h.placed
      bare := h.bare
      username := h.username
      password := h.password
      port := h.port
      path := hpath
      query := h.query
      fragment := h.fragment }
  unfold ServiceUri.withDefaultPath Url.withPath
  split
  · split
    -- a path without hierarchy keeps that form, with the default path behind a percent-encoded
    -- slash
    · rename_i text htext
      have hhost : u.host = none := by
        have hread := h.path
        rw [PathIsRead, htext] at hread
        exact hread.1
      have htext : ("%2F" ++ "/".intercalate ServiceUri.defaultPath).toList.all
          (fun c => decide (Printable c)) = true := by decide
      have htidy : Tidy ("%2F" ++ "/".intercalate ServiceUri.defaultPath).toList :=
        tidy_of_printable fun c hc => of_decide_eq_true (List.all_eq_true.1 htext c hc)
      exact hpath _ ⟨hhost, htidy.inside, fun _ _ => htidy⟩
    · exact hpath _ areSegments_defaultPath
  · exact h

/-- The default path changes neither host nor port. -/
theorem withDefaultPath_frame (u : Url) : (ServiceUri.withDefaultPath u).scheme = u.scheme ∧
    (ServiceUri.withDefaultPath u).host = u.host ∧ (ServiceUri.withDefaultPath u).port = u.port := by
  unfold ServiceUri.withDefaultPath Url.withPath
  split
  · split <;> exact ⟨rfl, rfl, rfl⟩
  · exact ⟨rfl, rfl, rfl⟩

/-- The URL that an address stands for, in parts: it was not empty, and it was read with its
    scheme in front. -/
theorem normalize_eq_ok {text out : String} (h : ServiceUri.normalize text = .ok out) :
    ∃ u, Url.parse (ServiceUri.withScheme text) = .ok u ∧
      out = (ServiceUri.withDefaultPath u).render := by
  unfold ServiceUri.normalize at h
  split at h
  · cases h
  · split at h
    · cases h
    · rename_i u hu
      exact ⟨u, hu, (Except.ok.inj h).symm⟩

/-- **Configured addresses that can all be reached.**  This is a property of the texts and the
    port in the configuration, not of what is made of them. -/
def EndpointConfig.IsReachable (c : EndpointConfig) : Prop :=
  ∀ text ∈ c.serviceUrls, ∀ u, Url.parse (ServiceUri.withScheme text) = .ok u →
    u.TakesPort c.port ∧ u.HoldsHost

/-- The base that an address stands for.  The default path changes neither of the two conditions,
    so they can be asked of the URL before it. -/
theorem baseUrl_normalize {text out : String} (h : ServiceUri.normalize text = .ok out)
    (port : UInt16) : (∃ base, baseUrl port out = .ok base) ↔
      ∀ u, Url.parse (ServiceUri.withScheme text) = .ok u → u.TakesPort port ∧ u.HoldsHost := by
  obtain ⟨u, hu, rfl⟩ := normalize_eq_ok h
  obtain ⟨hscheme, hhost, hport⟩ := withDefaultPath_frame u
  have hread := Url.isRead_of_parse hu
  have htakes : (ServiceUri.withDefaultPath u).TakesPort port ↔ u.TakesPort port := by
    rw [Url.TakesPort, Url.TakesPort, Url.hasHost, Url.hasHost, Url.kind, Url.kind, hscheme, hhost,
      hport]
  have hholds : (ServiceUri.withDefaultPath u).HoldsHost ↔ u.HoldsHost := by
    rw [Url.HoldsHost, Url.HoldsHost, Url.kind, Url.kind, hscheme, hhost]
  rw [baseUrl_render hread.withDefaultPath, htakes, hholds]
  refine ⟨fun hboth v hv => ?_, fun hall => hall u hu⟩
  rw [hu] at hv
  exact Except.ok.inj hv ▸ hboth

/-- **Addresses in a configuration make a client** if they can all be reached.  One that cannot
    be reached is enough to have no client at all; the environment is not asked, as there are
    addresses. -/
theorem ofConfig_isOk {c : EndpointConfig} (hurls : c.serviceUrls ≠ []) {texts : List String}
    (htexts : c.serviceUrls.mapM ServiceUri.normalize = .ok texts) (env : Environment) :
    (∃ client, RegistryClient.ofConfig c env = .ok client) ↔ c.IsReachable := by
  have hmem := mem_of_mapM htexts
  have hsome : ¬texts.isEmpty = true := by
    intro hempty
    obtain ⟨text, hurl⟩ := List.exists_mem_of_ne_nil _ hurls
    obtain ⟨out, hout⟩ := mapM_ok_iff.1 ⟨texts, htexts⟩ text hurl
    have hthere := (hmem out).2 ⟨text, hurl, hout⟩
    rw [List.isEmpty_iff.1 hempty] at hthere
    cases hthere
  -- a client is there just if every completed address has a base
  have hclient : (∃ client, RegistryClient.ofConfig c env = .ok client) ↔
      ∃ bases, texts.mapM (baseUrl c.port) = .ok bases := by
    unfold RegistryClient.ofConfig RegistrySettings.determine
    rw [if_neg fun hempty => hurls (List.isEmpty_iff.1 hempty)]
    unfold RegistrySettings.ofUrls
    rw [htexts]
    show (∃ client, (RegistryClient.ofSettings _).mapError ClientFault.message = .ok client) ↔ _
    unfold RegistryClient.ofSettings RegistrySettings.bases
    rw [if_neg hsome]
    cases texts.mapM (baseUrl c.port) with
    | error e => exact iff_of_false (fun ⟨_, h⟩ => nomatch h) fun ⟨_, h⟩ => nomatch h
    | ok bases => exact iff_of_true ⟨_, rfl⟩ ⟨bases, rfl⟩
  rw [hclient, mapM_ok_iff]
  constructor
  · intro hall text htext
    obtain ⟨out, hout⟩ := mapM_ok_iff.1 ⟨texts, htexts⟩ text htext
    exact (baseUrl_normalize hout c.port).1 (hall out ((hmem out).2 ⟨text, htext, hout⟩))
  · intro hall out hout
    obtain ⟨text, htext, hout⟩ := (hmem out).1 hout
    exact (baseUrl_normalize hout c.port).2 (hall text htext)

/-! ## Configurations -/

/-- The addresses of a valid configuration stand for URLs: one that does not is a fault, and
    there is none. -/
theorem Config.normalize_of_isValid {c : Config} (h : c.isValid = true) :
    ∃ texts, c.registry.serviceUrls.mapM ServiceUri.normalize = .ok texts := by
  refine mapM_ok_iff.2 fun text htext => ?_
  have hfaults : c.registry.serviceUrls.filterMap urlFault? = [] := by
    have hnone := List.isEmpty_iff.1 h
    simp only [faults, List.append_eq_nil_iff] at hnone
    exact hnone.1.1.2
  have hfault := List.filterMap_eq_nil_iff.1 hfaults text htext
  unfold urlFault? at hfault
  split at hfault
  · rename_i out hout
    exact ⟨out, hout⟩
  · cases hfault

/-- **A fixed identity can be announced** if its name and its instance id say something.  The
    name is asked first, and its fault hides that of the instance id. -/
theorem StaticIdentity.complete_isOk {c : StaticIdentity} {name instanceId addr : String}
    (hname : c.name = some name) (hinstance : c.instanceId = some instanceId)
    (haddr : c.addr = some addr) :
    (∃ i, c.identity?.map Identity.complete? = some (.ok i)) ↔ name ≠ "" ∧ instanceId ≠ "" := by
  unfold identity?
  rw [hname, hinstance, haddr]
  dsimp only [Option.map_some]
  unfold Identity.complete? Identity.ofAddress
  dsimp only
  -- no name, or no instance id, or both are there
  by_cases hempty : name = ""
  · rw [if_pos hempty]
    exact iff_of_false (fun ⟨_, h⟩ => nomatch h) fun hboth => hboth.1 hempty
  · by_cases hid : instanceId = ""
    · rw [if_neg hempty, if_pos hid]
      exact iff_of_false (fun ⟨_, h⟩ => nomatch h) fun hboth => hboth.2 hid
    · rw [if_neg hempty, if_neg hid]
      exact iff_of_true ⟨_, rfl⟩ ⟨hempty, hid⟩

namespace Daemon

/-- What the daemon's start is: it fails for want of a client, then of an identity, or a scope
    begins.  This is the keeper's own function with its one registrar put in. -/
theorem start_eq (c : Config) (env : Environment) (registry : ScriptedRegistry) :
    start c env registry =
      let s : Keeper := { registrars := [registrar c env registry] }
      let r := (registrar c env registry).acquiring
      match clientFault? c env, identity c env with
      | some reason, _ => s.failEnabling 0 r (.client (.unavailable reason))
      | none, .error e => s.failEnabling 0 r (.identity e)
      | none, .ok i => s.beginScope 0 r.subscribing i := by
  have hclient : (registrar c env registry).clientFault? = clientFault? c env := by
    show (some (clientFault? c env)).join = _
    rfl
  have hidentity : (registrar c env registry).identity = identity c env := rfl
  unfold start Keeper.enable
  dsimp only [List.getElem?_cons_zero]
  rw [hclient, hidentity]
  cases clientFault? c env with
  | some reason => rfl
  | none => cases identity c env <;> rfl

/-- **The daemon ends at its start** exactly if it has no client or no identity.  The signals of
    the process never fail here. -/
theorem exitCode?_start (c : Config) (env : Environment) (registry : ScriptedRegistry) :
    exitCode? (start c env registry) = none ↔
      (∃ client, RegistryClient.ofConfig c.registry env = .ok client) ∧
        ∃ i, identity c env = .ok i := by
  -- who cannot start asks for the end in its last entry
  have hfailed : ∀ (s : Keeper) (r : Registrar) (e : StartupError), s.journal = [] →
      exitCode? (s.failEnabling 0 r e) ≠ none := by
    intro s r e hnew
    unfold exitCode? Keeper.failEnabling Keeper.tell Keeper.setRegistrar
    rw [hnew]
    exact Option.some_ne_none Keeper.startupExitCode
  rw [start_eq]
  dsimp only
  unfold clientFault?
  cases RegistryClient.ofConfig c.registry env with
  | error reason =>
    exact iff_of_false (hfailed _ _ _ rfl) fun ⟨⟨_, hclient⟩, _⟩ => nomatch hclient
  | ok client =>
    cases identity c env with
    | error e => exact iff_of_false (hfailed _ _ _ rfl) fun ⟨_, _, hidentity⟩ => nomatch hidentity
    | ok i =>
      exact iff_of_true rfl ⟨⟨client, rfl⟩, i, rfl⟩

end Daemon

/-- **A valid configuration with addresses and an identity of its own**: it gives a client if its
    addresses can be reached, an identity if name and instance id are not empty, and the daemon
    stays if it has both.  The address of the identity is not asked for anything: it may be
    empty. -/
theorem Config.start_valid {c : Config} (hvalid : c.isValid = true)
    (hurls : c.registry.serviceUrls ≠ []) {name instanceId addr : String}
    (hname : c.identity.name = some name) (hinstance : c.identity.instanceId = some instanceId)
    (haddr : c.identity.addr = some addr) (env : Environment) :
    ((∃ client, RegistryClient.ofConfig c.registry env = .ok client) ↔ c.registry.IsReachable) ∧
      ((∃ i, c.identity.identity?.map Identity.complete? = some (.ok i)) ↔
        name ≠ "" ∧ instanceId ≠ "") ∧
      ∀ registry, Daemon.exitCode? (Daemon.start c env registry) = none ↔
        c.registry.IsReachable ∧ name ≠ "" ∧ instanceId ≠ "" := by
  obtain ⟨texts, htexts⟩ := normalize_of_isValid hvalid
  have hclient := ofConfig_isOk hurls htexts env
  have hidentity := c.identity.complete_isOk hname hinstance haddr
  refine ⟨hclient, hidentity, fun registry => ?_⟩
  have hsame : (∃ i, Daemon.identity c env = .ok i) ↔
      ∃ i, c.identity.identity?.map Identity.complete? = some (.ok i) := by
    unfold Daemon.identity StaticIdentity.identity?
    rw [hname, hinstance, haddr]
    simp only [Option.map_some, Option.some.injEq]
  rw [Daemon.exitCode?_start, hsame, hclient, hidentity]

/-- A configuration with everything that a start asks for. -/
def Config.loopback : Config where
  registry := { serviceUrls := ["http://[::1]/eureka"], port := 8761 }
  identity := { name := some "svc", instanceId := some "i-1", addr := some "[::1]:8080" }

theorem Config.loopback_starts : loopback.isValid = true ∧ loopback.registry.serviceUrls ≠ [] ∧
    Daemon.exitCode? (Daemon.start loopback (fun _ => none) {}) = none := by
  have hvalid : loopback.isValid = true := by decide +kernel
  have hurls : loopback.registry.serviceUrls ≠ [] := List.cons_ne_nil _ _
  -- reading the address is computed as far as its scheme and host, which is all that is asked
  have hreachable : loopback.registry.IsReachable := by
    intro text htext u hu
    have hparts : ((Url.parse (ServiceUri.withScheme "http://[::1]/eureka")).toOption.map fun u =>
        (u.scheme, u.host)) = some ("http", some (.ipv6 [0, 0, 0, 0, 0, 0, 0, 1])) := by
      decide +kernel
    rw [List.mem_singleton.1 htext] at hu
    rw [hu] at hparts
    obtain ⟨hscheme, hhost⟩ := Prod.mk.inj (Option.some.inj hparts)
    have hkind : u.kind = .special := by rw [Url.kind, hscheme]; decide
    refine ⟨Url.takesPort_of_special (Url.isRead_of_parse hu) hkind _, ?_⟩
    rintro host heq - ⟨name, hname, -⟩
    rw [hhost, Option.some.injEq] at heq
    rw [← heq] at hname
    cases hname
  have hstart := start_valid hvalid hurls rfl rfl rfl (fun _ => none)
  exact ⟨hvalid, hurls, (hstart.2.2 {}).2 ⟨hreachable, by decide, by decide⟩⟩

/-- **Being valid is not enough**: an address may have no place for the port, and a name may be empty. -/
theorem Config.valid_not_enough :
    let address : Config := {
      registry := { serviceUrls := ["file:///x"], port := 8761 }
      identity := { name := some "svc", instanceId := some "i-1", addr := some "10.0.0.5:8080" } }
    let name : Config := {
      registry := { serviceUrls := ["http://[::1]/eureka"] }
      identity := { name := some "", instanceId := some "i-1", addr := some "10.0.0.5:8080" } }
    (address.isValid = true ∧
      (¬∃ client, RegistryClient.ofConfig address.registry (fun _ => none) = .ok client) ∧
      Daemon.exitCode? (Daemon.start address (fun _ => none) {}) = some 1) ∧
    name.isValid = true ∧
      (¬∃ i, name.identity.identity?.map Identity.complete? = some (.ok i)) ∧
      Daemon.exitCode? (Daemon.start name (fun _ => none) {}) = some 1 := by
  intro address name
  refine ⟨⟨by decide +kernel, ?_, by decide +kernel⟩, by decide +kernel, ?_, by decide +kernel⟩
  · -- no place for the port in a `file` URL
    rintro ⟨client, hclient⟩
    have hnone : (RegistryClient.ofConfig address.registry fun _ => none).toOption = none := by
      decide +kernel
    rw [hclient] at hnone
    cases hnone
  · -- an empty name
    rintro ⟨i, hi⟩
    cases hi

end LeaseKeeper
