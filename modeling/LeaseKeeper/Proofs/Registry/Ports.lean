/-
  At which port an address is asked.

  An address may name a port, and the settings have one for addresses that do not.  A base keeps
  everything of its address except perhaps the port (`baseUrl_special`), also when the address was
  completed first, apart from what was added to it.

  The port that is asked is not always the one that is named (`RegistrySettings.bases_lead`).  A
  default port is gone when the URL has been read, so an address that names it counts as one that
  names none, and is asked at the port of the settings.

  The port that a text names is told from the text alone (`Url.writtenPort?`), and the port that
  is asked from the base alone (`Url.askedPort?`).  Between the two stands the port that reading
  has left, which is the one named unless that is the default one; this is the only fact about
  reading that the proof needs (`Url.regards_of_askedPort?`).
-/
import LeaseKeeper.Proofs.Config.Startup
import LeaseKeeper.Proofs.Url.WebAddress
import LeaseKeeper.Proofs.Url.WrittenPort

namespace LeaseKeeper

namespace Url

variable {u : Url}

/-! ## Completed addresses -/

/-- The default path is one segment, and reading it again changes nothing. -/
theorem isSettled_defaultPath : ∀ s ∈ ServiceUri.defaultPath, IsSettled s := by
  intro s hs
  have hwhole : "eureka".toList.all (fun c => !SchemeKind.isSlash .special c) = true := by decide
  have hwritten := areSegments_defaultPath s hs
  rw [List.mem_singleton.1 hs] at hwritten ⊢
  refine ⟨hwritten, fun c hc => ?_, by decide, by decide⟩
  simpa using List.all_eq_true.1 hwhole c hc

/-- **A web address stays one** when it gets the default path.  It gets it only where its own
    path says nothing. -/
theorem IsWeb.withDefaultPath (h : u.IsWeb) : (ServiceUri.withDefaultPath u).IsWeb := by
  have hread := h.read.withDefaultPath
  obtain ⟨segments, hpath, -⟩ := h.path
  unfold ServiceUri.withDefaultPath at hread ⊢
  split
  · rename_i htrivial
    rw [if_pos htrivial] at hread
    unfold withPath at hread ⊢
    rw [hpath] at hread ⊢
    exact {
      read := hread
      special := h.special
      path := ⟨_, rfl, List.cons_ne_nil _ _, isSettled_defaultPath⟩
      query := h.query
      fragment := h.fragment }
  · exact h

/-! ## Ports that are asked -/

/-- **The port at which a URL is asked**: its own, or that of its scheme.  A request goes there
    whether the port stands in the URL or not. -/
def askedPort? (u : Url) : Option UInt16 := u.port <|> defaultPort? u.scheme

/-- The port that the settings have for a URL without one: their 80 stands for that of the
    scheme, which is what a client makes of its default. -/
def settingsPort? (scheme : String) (port : UInt16) : Option UInt16 :=
  if port = defaultRegistryPort then defaultPort? scheme else some port

/-- **A base that is asked at the port `named`**, or if none is named at that of the settings. -/
def LeadsTo (base : Url) (named : Option Nat) (port : UInt16) : Prop :=
  base.askedPort?.map UInt16.toNat =
    (named <|> (settingsPort? base.scheme port).map UInt16.toNat)

instance (base : Url) (named : Option Nat) (port : UInt16) : Decidable (base.LeadsTo named port) :=
  inferInstanceAs (Decidable (_ = _))

/-- The port that counts as named: not the default one of the scheme, which leaves no trace in
    the URL. -/
def countedPort? (scheme : String) (named : Option Nat) : Option Nat :=
  if named = (defaultPort? scheme).map UInt16.toNat then none else named

/-- **What a base makes of the port that is named**: it leads to it, but if it is the default
    port it counts for nothing, and the port of the settings decides.  The second field says for
    which addresses and settings that is another port than the named one. -/
structure Regards (base : Url) (named : Option Nat) (port : UInt16) : Prop where
  leads : base.LeadsTo (countedPort? base.scheme named) port
  /-- When this is not what the address says. -/
  lost : ¬base.LeadsTo named port ↔ named = (defaultPort? base.scheme).map UInt16.toNat ∧
    port ≠ defaultRegistryPort ∧ some port ≠ defaultPort? base.scheme

/-- Every special scheme has a port. -/
theorem defaultPort?_ne_none (hkind : u.kind = .special) : defaultPort? u.scheme ≠ none := by
  unfold kind SchemeKind.ofScheme at hkind
  split at hkind
  · cases hkind
  · split at hkind
    · rename_i hscheme
      simp only [List.mem_cons, List.not_mem_nil, or_false] at hscheme
      rcases hscheme with h | h | h | h | h <;> rw [h] <;> decide
    · cases hkind

theorem map_toNat_inj {a b : Option UInt16} : a.map UInt16.toNat = b.map UInt16.toNat ↔ a = b :=
  (Option.map_injective fun _ _ => UInt16.toNat_inj.1).eq_iff

/-- **What reading has left of the port decides**: it is gone if it is the default one.  Both
    fields follow from which port the base has of its own and which it gets from the settings. -/
theorem regards_of_askedPort? (base : Url) (hdefault : defaultPort? base.scheme ≠ none)
    {own named : Option UInt16} (hown : own = if named = defaultPort? base.scheme then none else named)
    {port : UInt16} (hasked : base.askedPort? = (own <|> settingsPort? base.scheme port)) :
    base.Regards (named.map UInt16.toNat) port := by
  -- the default port is named, or another one or none
  by_cases hnamed : named = defaultPort? base.scheme
  · rw [if_pos hnamed] at hown
    rw [hown] at hasked
    have hasked : base.askedPort? = settingsPort? base.scheme port := hasked
    obtain ⟨d, hd⟩ := Option.ne_none_iff_exists'.1 hdefault
    refine ⟨?_, ?_⟩
    · rw [LeadsTo, countedPort?, if_pos (map_toNat_inj.2 hnamed), hasked]
      rfl
    · -- the named port is asked only if that of the settings happens to be the same
      have hlead : base.LeadsTo (named.map UInt16.toNat) port ↔
          base.askedPort? = defaultPort? base.scheme := by
        rw [LeadsTo, hnamed, hd, ← map_toNat_inj]
        rfl
      rw [hlead, hasked, settingsPort?, and_iff_right (map_toNat_inj.2 hnamed)]
      by_cases hport : port = defaultRegistryPort
      · simp [hport]
      · simp [hport]
  · rw [if_neg hnamed] at hown
    rw [hown] at hasked
    have hleads : base.LeadsTo (named.map UInt16.toNat) port := by
      rw [LeadsTo, hasked]
      cases named <;> rfl
    have hcounted : ¬named.map UInt16.toNat = (defaultPort? base.scheme).map UInt16.toNat :=
      fun h => hnamed (map_toNat_inj.1 h)
    refine ⟨?_, iff_of_false (fun hlost => hlost hleads) fun hlost => hcounted hlost.1⟩
    rwa [countedPort?, if_neg hcounted]

end Url

/-! ## Bases -/

/-- **The base of a web address** is the address itself, but for the port.  A web address has a
    host and is no `file` URL, so there is always a place for the port. -/
theorem baseUrl_special {text : String} {u : Url} (h : Url.parse text = .ok u)
    (hkind : u.kind = .special) (port : UInt16) :
    ∃ own, baseUrl port text = .ok { u with port := own } ∧
      Url.askedPort? { u with port := own } = (u.port <|> Url.settingsPort? u.scheme port) := by
  unfold baseUrl Url.settingsPort?
  rw [h]
  dsimp only
  split
  · rename_i hmissing
    -- no port of its own, and the settings have one to add
    obtain ⟨hnone, hport⟩ := hmissing
    have hplace := (Url.takesPort_of_special (Url.isRead_of_parse h) hkind port).resolve_left hport
    obtain ⟨hhost, hfile⟩ :=
      hplace.resolve_left fun hown => hown (Option.isNone_iff_eq_none.1 hnone)
    unfold Url.withPort?
    rw [hhost, if_neg (by simpa using hfile)]
    refine ⟨_, rfl, ?_⟩
    rw [Option.isNone_iff_eq_none.1 hnone, if_neg hport]
    unfold Url.askedPort?
    dsimp only
    split
    · rename_i hdefault
      exact hdefault
    · rfl
  · rename_i hpresent
    -- a port of its own, or the settings have none to add
    refine ⟨u.port, rfl, ?_⟩
    unfold Url.askedPort?
    cases hown : u.port with
    | some own => rfl
    | none =>
      have hport : port = defaultRegistryPort := by
        by_contra hport
        exact hpresent ⟨by rw [hown]; rfl, hport⟩
      rw [if_pos hport]

/-- **What clients use for an address**: its base, which is where the address was.  So the bases
    of a client are in the order of its addresses. -/
def RegistrySettings.Uses (settings : RegistrySettings) (address : String) (base : Url) : Prop :=
  baseUrl settings.port address = .ok base ∧
    ∀ (c : RegistryClient) (i : Nat), RegistryClient.ofSettings settings = .ok c →
      settings.serviceUrls[i]? = some address → c.bases[i]? = some base

theorem RegistrySettings.uses_iff {settings : RegistrySettings} {address : String} {base : Url} :
    settings.Uses address base ↔ baseUrl settings.port address = .ok base := by
  refine and_iff_left_of_imp fun hbase c i hc haddress => ?_
  unfold RegistryClient.ofSettings bases at hc
  split at hc
  · cases hc
  · cases hbases : settings.serviceUrls.mapM (baseUrl settings.port) with
    | error e =>
      rw [hbases] at hc
      cases hc
    | ok found =>
      rw [hbases] at hc
      cases hc
      obtain ⟨b, hb, hsame⟩ := getElem?_of_mapM hbases haddress
      rw [hbase] at hsame
      exact Except.ok.inj hsame ▸ hb

/-- **The base of a completed web address** is the completed address, but for the port.
    Completing writes a URL and the base is read from that; the host comes back in small letters,
    and all else as it was written. -/
theorem baseUrl_completed {text out : String} (h : ServiceUri.normalize text = .ok out) {u : Url}
    (hu : Url.parse (ServiceUri.withScheme text) = .ok u) (hkind : u.kind = .special)
    {port : UInt16} {base : Url} (hbase : baseUrl port out = .ok base) :
    ∃ own, base = { ServiceUri.withDefaultPath u with
        host := u.host.map Url.Host.small
        port := own } ∧
      base.askedPort? = (u.port <|> Url.settingsPort? u.scheme port) := by
  obtain ⟨v, hv, rfl⟩ := normalize_eq_ok h
  obtain rfl : u = v := Except.ok.inj (hu.symm.trans hv)
  obtain ⟨hscheme, hhosts, hport⟩ := withDefaultPath_frame u
  have hread := Url.isRead_of_parse hu
  have hweb := (Url.isWeb_of_parse hu hkind).withDefaultPath
  have hholds := ((baseUrl_normalize h port).1 ⟨base, hbase⟩ u hu).2
  obtain ⟨host, hhost⟩ := Option.ne_none_iff_exists'.1 (hread.placed (by rw [hkind]; rfl))
  have hsome : host ≠ .absent := by
    rintro rfl
    exact (hread.host_isRead hhost (by rw [hkind]; decide)).write_ne_nil (by rw [hkind]; rfl) rfl
  obtain ⟨again, hagain⟩ := hholds.readHost hread hhost hsome
  have hparse := hweb.parse_render (hhosts.trans hhost)
    (show Url.readHost (ServiceUri.withDefaultPath u).kind host.write = .ok again by
      rw [Url.kind, hscheme]
      exact hagain)
  obtain ⟨own, hown, hasked⟩ := baseUrl_special hparse hweb.special port
  rw [hbase] at hown
  obtain rfl := Except.ok.inj hown
  refine ⟨own, by rw [hhost]; rfl, ?_⟩
  dsimp only at hasked
  rw [hasked, hport, hscheme]

/-- **Where the addresses of a registry lead.**  A web address always has a base, which is the address
    itself but for the port.  A completed one has a base if its host is read again, and the base is
    then the completed address, with its host in small letters.

    The port is the one that the text names; but the default port of the scheme counts for nothing,
    and whoever names it is led to the port of the settings. -/
theorem RegistrySettings.bases_lead (settings : RegistrySettings) (text : String) {u : Url}
    (hweb : u.scheme = "http" ∨ u.scheme = "https") :
    (Url.parse text = .ok u → ∃ own, settings.Uses text { u with port := own } ∧
      Url.Regards { u with port := own } (Url.writtenPort? text) settings.port) ∧
    (Url.parse (ServiceUri.withScheme text) = .ok u →
      ∃ out, ServiceUri.normalize text = .ok out ∧
        ((∃ base, settings.Uses out base) ↔ u.HoldsHost) ∧
        ∀ base, settings.Uses out base →
          (∃ own, base = { ServiceUri.withDefaultPath u with
            host := u.host.map Url.Host.small
            port := own }) ∧
          (∀ host, u.host = some host → ¬host.IsMarked → base.host = some host) ∧
          base.Regards (Url.writtenPort? (ServiceUri.withScheme text)) settings.port) := by
  have hkind : u.kind = .special := by
    rcases hweb with h | h <;> rw [Url.kind, h] <;> rfl
  have hdefault := Url.defaultPort?_ne_none hkind
  refine ⟨fun hu => ?_, fun hu => ?_⟩
  · -- an address that is used as it stands
    obtain ⟨own, hbase, hasked⟩ := baseUrl_special hu hkind settings.port
    obtain ⟨named, hnamed, hport⟩ := Url.port_of_parse hu hkind
    refine ⟨own, uses_iff.2 hbase, ?_⟩
    rw [← hnamed]
    exact Url.regards_of_askedPort? { u with port := own } hdefault hport hasked
  · -- an address that is completed first
    have htext : text ≠ "" := by
      rintro rfl
      have hnone : (Url.parse (ServiceUri.withScheme "")).toOption = none := by decide +kernel
      rw [hu] at hnone
      cases hnone
    have hnormal : ServiceUri.normalize text = .ok (ServiceUri.withDefaultPath u).render := by
      unfold ServiceUri.normalize
      rw [if_neg htext, hu]
    have hread := Url.isRead_of_parse hu
    refine ⟨_, hnormal, ?_, fun base hbase => ?_⟩
    · -- it has a base just if its host is read again
      simp only [uses_iff]
      rw [baseUrl_normalize hnormal]
      refine ⟨fun hall => (hall u hu).2, fun hholds v hv => ?_⟩
      obtain rfl : u = v := Except.ok.inj (hu.symm.trans hv)
      exact ⟨Url.takesPort_of_special hread hkind _, hholds⟩
    · -- its base, part by part
      obtain ⟨own, hsame, hasked⟩ := baseUrl_completed hnormal hu hkind (uses_iff.1 hbase)
      obtain ⟨named, hnamed, hport⟩ := Url.port_of_parse hu hkind
      have hscheme : base.scheme = u.scheme := by
        rw [hsame]
        exact (withDefaultPath_frame u).1
      refine ⟨⟨own, hsame⟩, fun host hhost hunmarked => ?_, ?_⟩
      · have hsmall := (hread.host_isRead hhost (by rw [hkind]; decide)).small_self
          (by rw [hkind]; rfl) hunmarked
        rw [hsame, hhost, Option.map_some, hsmall]
      · rw [← hnamed]
        rw [← hscheme] at hdefault hport hasked
        exact Url.regards_of_askedPort? base hdefault hport hasked

/-- The URL of a registry on the local machine. -/
def Url.localRegistry (port : Option UInt16) (segments : List String) : Url where
  scheme := "http"
  host := some (.ipv6 [0, 0, 0, 0, 0, 0, 0, 1])
  port := port
  path := .segments segments

theorem RegistrySettings.localRegistry_leads :
    let settings : RegistrySettings := { serviceUrls := ["http://[::1]:9000/eureka"], port := 8761 }
    (∃ base, settings.Uses "http://[::1]:9000/eureka" base ∧ base.askedPort? = some 9000) ∧
      ∃ out base, ServiceUri.normalize "[::1]:9000" = .ok out ∧ settings.Uses out base ∧
        base.path = .segments ["eureka"] ∧ base.askedPort? = some 9000 := by
  intro settings
  have hport : ∀ base : Url, base.scheme = "http" → base.Regards (some 9000) settings.port →
      base.askedPort? = some 9000 := by
    intro base hscheme hregards
    have hleads := hregards.leads
    rw [hscheme] at hleads
    exact Url.map_toNat_inj.1 hleads
  constructor
  · have hu : Url.parse "http://[::1]:9000/eureka" = .ok (.localRegistry (some 9000) ["eureka"]) :=
      ok_of_toOption (by decide +kernel)
    have hwritten : Url.writtenPort? "http://[::1]:9000/eureka" = some 9000 := by decide +kernel
    obtain ⟨own, huses, hregards⟩ := (settings.bases_lead _ (.inl rfl)).1 hu
    rw [hwritten] at hregards
    exact ⟨_, huses, hport _ rfl hregards⟩
  · have hu : Url.parse (ServiceUri.withScheme "[::1]:9000") =
        .ok (.localRegistry (some 9000) [""]) := ok_of_toOption (by decide +kernel)
    have hwritten : Url.writtenPort? (ServiceUri.withScheme "[::1]:9000") = some 9000 := by
      decide +kernel
    obtain ⟨out, hout, hsome, hall⟩ := (settings.bases_lead _ (.inl rfl)).2 hu
    have hholds : (Url.localRegistry (some 9000) [""]).HoldsHost := by
      rintro host heq - ⟨name, hname, -⟩
      rw [← Option.some.inj heq] at hname
      cases hname
    obtain ⟨base, huses⟩ := hsome.2 hholds
    obtain ⟨⟨own, hbase⟩, -, hregards⟩ := hall base huses
    have hpath : (ServiceUri.withDefaultPath (.localRegistry (some 9000) [""])).path =
        .segments ["eureka"] := by decide
    rw [hwritten] at hregards
    refine ⟨out, base, hout, huses, ?_, hport base ?_ hregards⟩
    · rw [hbase]
      exact hpath
    · rw [hbase]
      exact (withDefaultPath_frame _).1

/-- **A port that is named may be lost**: it is the default one, and the settings have another.
    Here port 80 is named, and port 8761 is asked. -/
theorem Url.named_port_lost : ¬∀ (text : String) (u base : Url) (port : UInt16),
    Url.parse text = .ok u → u.scheme = "http" ∨ u.scheme = "https" →
      baseUrl port text = .ok base → base.LeadsTo (Url.writtenPort? text) port := by
  intro hall
  have hu : Url.parse "http://[::1]:80/eureka" = .ok (.localRegistry none ["eureka"]) :=
    ok_of_toOption (by decide +kernel)
  have hbase : baseUrl 8761 "http://[::1]:80/eureka" =
      .ok (.localRegistry (some 8761) ["eureka"]) := ok_of_toOption (by decide +kernel)
  have hwritten : Url.writtenPort? "http://[::1]:80/eureka" = some 80 := by decide +kernel
  have hleads := hall _ _ _ 8761 hu (.inl rfl) hbase
  rw [hwritten] at hleads
  exact absurd hleads (by decide)

end LeaseKeeper
