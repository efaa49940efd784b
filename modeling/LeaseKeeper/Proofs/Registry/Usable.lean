/-
  Settings that can be used.

  Settings are made in two ways: from a configuration that was checked, and from the credentials
  of a bound service, which nobody checked and which may hold anything.  Both give the same: there
  is an address, every address is the text of a URL whose path says something, and no span of time
  is under a second (`RegistrySettings.usable`).

  The text is also read as such a URL again (`IsAddress`), except where its host is not taken a
  second time.  A long international name is such a host: it is written in Punycode and is then
  longer than what is decoded (`RegistrySettings.not_always_read`).

  Both ways end in completing one address after the other, so what is said of addresses is proved
  for one completed address (`isAddress_of_normalize`) and carried over lists
  (`isAddress_of_mapM`).  The spans are read in two different forms, and in neither of them is
  zero a span.
-/
import LeaseKeeper.Json.Writer
import LeaseKeeper.Proofs.Config.Addresses
import LeaseKeeper.Proofs.Config.Startup
import LeaseKeeper.Proofs.DomainName.Ideographs
import LeaseKeeper.Proofs.Url.Walking

namespace LeaseKeeper

/-! ## Addresses -/

/-- The default path is one name and no instruction, for every kind of URL. -/
theorem walked_defaultPath (kind : Url.SchemeKind) : Url.Walked kind ServiceUri.defaultPath := by
  have hwhole : ∀ c ∈ "eureka".toList, kind.isSlash c = false := by
    cases kind <;> simp [Url.SchemeKind.isSlash]
  refine ⟨areSegments_defaultPath, fun s hs => ?_, .inl fun s hs => ?_⟩
  · rw [List.mem_singleton.1 hs]
    exact hwhole
  · rw [List.mem_singleton.1 hs]
    exact ⟨by decide, by decide⟩

/-- **With the default path every path says something**, and it is left as reading leaves paths.
    A path that said nothing gets the default one in its own form, with hierarchy or without; any
    other stays. -/
theorem withDefaultPath_nontrivial {u : Url} (h : Url.PathIsWalked u) :
    Url.PathIsWalked (ServiceUri.withDefaultPath u) ∧
      (ServiceUri.withDefaultPath u).path.isTrivial = false := by
  unfold ServiceUri.withDefaultPath
  split
  · unfold Url.withPath
    split
    · have hpath : (Url.Path.rootless ("%2F" ++ "/".intercalate ServiceUri.defaultPath)).isTrivial =
          false := by decide
      have hplain : ∀ c ∈ ("%2F" ++ "/".intercalate ServiceUri.defaultPath).toList,
          Url.inControls c = false ∧ Url.isTailMark c = false := by
        simp [ServiceUri.defaultPath, Url.inControls, Url.isTailMark]
      exact ⟨⟨hplain, by decide⟩, hpath⟩
    · have hpath : (Url.Path.segments ServiceUri.defaultPath).isTrivial = false := by decide
      exact ⟨⟨walked_defaultPath _, fun _ => .inr (by decide)⟩, hpath⟩
  · rename_i hpath
    exact ⟨h, Bool.eq_false_iff.2 hpath⟩

/-- **The text of a URL whose path says something.**  It is read as such a URL once more, in the
    same scheme, unless its host is not taken again.  So this says exactly when it is read, and
    what is read then. -/
def IsAddress (text : String) : Prop :=
  ∃ u : Url, u.IsRead ∧ text = u.render ∧ u.path.isTrivial = false ∧
    ((∃ v, Url.parse text = .ok v) ↔ u.HoldsHost) ∧
    ∀ v, Url.parse text = .ok v → v.scheme = u.scheme ∧ v.path.isTrivial = false

/-- **What an address stands for** is the text of such a URL, whatever the address was, if it
    stands for one at all. -/
theorem isAddress_of_normalize {text out : String} (h : ServiceUri.normalize text = .ok out) :
    IsAddress out := by
  obtain ⟨u, hu, rfl⟩ := normalize_eq_ok h
  have hread := (Url.isRead_of_parse hu).withDefaultPath
  obtain ⟨hwalked, hpath⟩ := withDefaultPath_nontrivial (Url.pathIsWalked_of_parse hu)
  exact ⟨_, hread, rfl, hpath, hread.parse_iff, fun v hv => hread.parse_nontrivial hwalked hpath hv⟩

/-- **An address that is not taken back**: the name is written in Punycode, and is then too long.
    Step by step: the name has an ASCII form, the form is a host and no number, the host makes
    the URL, and in the URL that is written the host is not read. -/
theorem normalize_lost {name : List Char} (h : ∀ c ∈ name, DomainName.IsIdeograph c)
    (hsparse : DomainName.Punycode.Sparse (name.map Char.toNat)) (hlong : 698 ≤ name.length)
    (hshort : name.length ≤ DomainName.maxEncoded) :
    ∃ out, ServiceUri.normalize ("http://" ++ String.ofList name) = .ok out ∧
      Url.parse out = .error .domainName := by
  obtain ⟨hascii, hlost⟩ := DomainName.toAscii?_lost h hsparse hlong hshort
  have hplain := fun c hc => DomainName.plain_of_mem_toAscii? (c := c) hascii hc
  have hne : name ≠ [] := by
    rintro rfl
    exact absurd hlong (by decide)
  have hpoint : '.' ∉ DomainName.Punycode.encode name := by
    intro hc
    rcases DomainName.Punycode.mem_encode hc with ⟨hc, -⟩ | hc | hc
    · exact absurd (h '.' hc).1 (by decide)
    · cases hc
    · cases hc
  have hnumber := Url.Host.endsInNumber_mark hpoint
  have hsome : DomainName.mark ++ DomainName.Punycode.encode name ≠ [] := List.cons_ne_nil _ _
  generalize DomainName.mark ++ DomainName.Punycode.encode name = ascii
    at hascii hlost hplain hnumber hsome
  have hempty : ¬ascii.isEmpty = true := fun hnil => hsome (List.isEmpty_iff.1 hnil)
  have hhost : Url.Host.parse name = .ok (.name (String.ofList ascii)) := by
    rw [Url.Host.parse_plain fun c hc => (h c hc).not_isForbidden, hascii]
    dsimp only
    rw [if_neg hempty, hnumber, if_neg Bool.false_ne_true]
  -- the address is a web address with nothing but the name
  have hread := Url.parse_http hne (fun c hc => (h c hc).not_ascii) hhost
  have hscheme : ServiceUri.withScheme ("http://" ++ String.ofList name) =
      "http://" ++ String.ofList name := by
    refine if_pos ?_
    rw [String.toList_append]
    rfl
  have htext : "http://" ++ String.ofList name ≠ "" := by
    intro hnil
    have hlist := congrArg String.toList hnil
    rw [String.toList_append] at hlist
    cases hlist
  have hnormalize : ServiceUri.normalize ("http://" ++ String.ofList name) = .ok
      (ServiceUri.withDefaultPath
        (Url.withAuthority "http" "" "" (.name (String.ofList ascii)) none [])).render := by
    unfold ServiceUri.normalize
    rw [if_neg htext, hscheme, hread]
  refine ⟨_, hnormalize, ?_⟩
  -- its host is the name that was written, and the name is not read
  have hwritten := (Url.isRead_of_parse hread).withDefaultPath
  obtain ⟨hsame, hplace, -⟩ := withDefaultPath_frame
    (Url.withAuthority "http" "" "" (.name (String.ofList ascii)) none [])
  refine hwritten.parse_error hplace ?_ ?_
  · intro habsent
    have hnil := congrArg String.toList (Url.Host.name.inj habsent)
    rw [String.toList_ofList] at hnil
    exact hsome hnil
  · -- the written name goes through the same rules, and has no ASCII form
    have hlater : Url.Host.parse ascii = .error .domainName := by
      rw [Url.Host.parse_plain fun c hc => (hplain c hc).allowed, hlost]
    unfold Url.kind
    rw [hsame]
    show Url.readHost .special (String.ofList ascii).toList = _
    unfold Url.readHost
    rw [String.toList_ofList, if_pos (show Url.SchemeKind.isSpecial .special = true from rfl),
      if_neg hempty, hlater]

/-- Addresses that are worked out one by one: each is an address, and there is one if there was
    something to work out. -/
theorem isAddress_of_mapM {α : Type} {f : α → Except BindingError String} {as : List α}
    {texts : List String} (hne : as ≠ []) (h : as.mapM f = .ok texts)
    (hf : ∀ a out, f a = .ok out → IsAddress out) :
    texts ≠ [] ∧ ∀ text ∈ texts, IsAddress text := by
  constructor
  · obtain ⟨a, ha⟩ := List.exists_mem_of_ne_nil as hne
    obtain ⟨out, hout⟩ := mapM_ok_iff.1 ⟨texts, h⟩ a ha
    exact List.ne_nil_of_mem ((mem_of_mapM h out).2 ⟨a, ha, hout⟩)
  · intro text htext
    obtain ⟨a, -, hout⟩ := (mem_of_mapM h text).1 htext
    exact hf a text hout

namespace ServiceBinding

theorem isAddress_of_listedAddress {j : Json} {out : String} (h : listedAddress j = .ok out) :
    IsAddress out := by
  unfold listedAddress at h
  split at h
  · exact isAddress_of_normalize h
  · cases h

/-- **The addresses in credentials**, whatever else they hold: those that are listed, if there is
    one, or else the single one.  Without either there are no settings. -/
theorem isAddress_of_addresses {b : ServiceBinding} {texts : List String}
    (h : b.addresses = .ok texts) : texts ≠ [] ∧ ∀ text ∈ texts, IsAddress text := by
  unfold addresses at h
  dsimp only at h
  split at h
  · -- the listed ones
    exact isAddress_of_mapM (List.cons_ne_nil _ _) h fun _ _ => isAddress_of_listedAddress
  · split at h
    -- the single one
    · rename_i uri _
      cases hout : ServiceUri.normalize uri with
      | error e =>
        rw [hout] at h
        cases h
      | ok out =>
        rw [hout] at h
        cases h
        exact ⟨List.cons_ne_nil _ _, List.forall_mem_singleton.2 (isAddress_of_normalize hout)⟩
    · cases h

/-- **A span in credentials is not under a second**: zero is none, and neither is anything that
    is no natural number. -/
theorem le_of_seconds? {b : ServiceBinding} {key : String} {d : Duration}
    (h : b.seconds? key = some d) : 1000 ≤ d.millis := by
  unfold seconds? at h
  obtain ⟨n, hn, rfl⟩ := Option.map_eq_some_iff.1 h
  obtain ⟨-, hpos⟩ := Option.filter_eq_some_iff.1 hn
  have hn : 0 < n := of_decide_eq_true hpos
  show 1000 ≤ n * 1000
  omega

theorem le_getD_seconds? (b : ServiceBinding) (key : String) {d : Duration}
    (hd : 1000 ≤ d.millis) : 1000 ≤ ((b.seconds? key).getD d).millis := by
  cases hspan : b.seconds? key with
  | none => exact hd
  | some span => exact le_of_seconds? hspan

end ServiceBinding

/-! ## Spans of time -/

/-- A number of seconds other than zero. -/
theorem le_ofSeconds {n : UInt64} (h : n ≠ 0) : 1000 ≤ (Duration.ofSeconds n.toNat).millis := by
  have hn : n.toNat ≠ 0 := fun hzero => h (UInt64.toNat_inj.1 hzero)
  show 1000 ≤ n.toNat * 1000
  omega

/-- **The spans of a valid configuration are not zero.**  Each of them would be a fault, and the
    faults are one list that is empty. -/
theorem Config.spans_of_isValid {c : Config} (h : c.isValid = true) :
    c.registry.timeoutSecs ≠ 0 ∧ c.registry.pollIntervalSecs ≠ 0 ∧
      c.registry.renewalIntervalSecs ≠ some 0 := by
  have hfault : ∀ {condition : Bool} {fault : ConfigFault}, faultIf condition fault = [] →
      condition = false := by
    intro condition fault hnone
    cases condition with
    | false => rfl
    | true => cases hnone
  have hnone := List.isEmpty_iff.1 h
  simp only [faults, List.append_eq_nil_iff] at hnone
  obtain ⟨⟨⟨⟨⟨⟨-, htimeout⟩, hpoll⟩, hrenewal⟩, -⟩, -⟩, -⟩ := hnone
  exact ⟨beq_eq_false_iff_ne.1 (hfault htimeout), beq_eq_false_iff_ne.1 (hfault hpoll),
    beq_eq_false_iff_ne.1 (hfault hrenewal)⟩

/-- A configuration with one address that can be read is valid: all else is left as it is by
    default. -/
theorem isValid_of_address {address out : String} (h : ServiceUri.normalize address = .ok out) :
    Config.isValid { registry := { serviceUrls := [address] } } = true := by
  have hfaults : [address].filterMap urlFault? = [] := List.filterMap_cons_none (urlFault?_ok h)
  unfold Config.isValid Config.faults
  dsimp only
  rw [hfaults]
  decide +kernel

namespace RegistrySettings

/-- The renewal interval comes from the configuration in either case. -/
theorem le_renewalOf {c : EndpointConfig} (h : c.renewalIntervalSecs ≠ some 0) :
    ∀ d, renewalOf c = some d → 1000 ≤ d.millis := by
  intro d hd
  obtain ⟨n, hn, rfl⟩ := Option.map_eq_some_iff.1 hd
  refine le_ofSeconds ?_
  rintro rfl
  exact h hn

/-! ## Settings -/

/-- **Settings are usable, wherever they come from**: there is an address, every address is the text of
    a URL whose path says something, and no span is under a second. -/
theorem usable {c : Config} {env : Environment} {s : RegistrySettings} (hvalid : c.isValid = true)
    (h : determine c.registry env = .ok s) :
    s.serviceUrls ≠ [] ∧ (∀ address ∈ s.serviceUrls, IsAddress address) ∧
      1000 ≤ s.timeout.millis ∧ 1000 ≤ s.pollInterval.millis ∧
      ∀ d, s.renewalInterval = some d → 1000 ≤ d.millis := by
  obtain ⟨htimeout, hpoll, hrenewal⟩ := Config.spans_of_isValid hvalid
  unfold determine at h
  split at h
  -- settings from a bound service, with the renewal interval of the configuration
  · obtain ⟨binding, -, h⟩ := Url.bind_eq_ok h
    obtain ⟨settings, hsettings, h⟩ := Url.bind_eq_ok h
    unfold ofBinding at hsettings
    obtain ⟨texts, htexts, hsettings⟩ := Url.bind_eq_ok hsettings
    obtain ⟨hsome, haddresses⟩ := ServiceBinding.isAddress_of_addresses htexts
    cases hsettings
    cases h
    exact ⟨hsome, haddresses, binding.le_getD_seconds? "timeout" (by decide),
      binding.le_getD_seconds? "poll_interval" (by decide), le_renewalOf hrenewal⟩
  · rename_i hurls
    -- settings from the configuration
    unfold ofUrls at h
    obtain ⟨texts, htexts, h⟩ := Url.bind_eq_ok h
    have hne : c.registry.serviceUrls ≠ [] := fun hnil => hurls (List.isEmpty_iff.2 hnil)
    obtain ⟨hsome, haddresses⟩ := isAddress_of_mapM hne htexts fun _ _ => isAddress_of_normalize
    cases h
    exact ⟨hsome, haddresses, le_ofSeconds htimeout, le_ofSeconds hpoll, le_renewalOf hrenewal⟩

/-- A bound service whose credentials make little sense: no address is listed, the port is a text, and
    the spans are not positive. -/
def careless : Environment :=
  .ofList [(ServiceBindings.servicesVar, (Json.obj [("p-registry", .arr [.obj [
    ("name", .str "eureka"),
    ("credentials", .obj [("uris", .arr []), ("uri", .str "[::1]:8761"), ("port", .str "8761"),
      ("timeout", .num (.natural 0)), ("poll_interval", .num (.negated 5))])]])]).render)]

theorem careless_usable : Config.isValid {} = true ∧
    ∃ s, determine ({} : Config).registry careless = .ok s ∧
      s.serviceUrls = ["http://[::1]:8761/eureka"] ∧ s.timeout = .ofSeconds 10 ∧
      s.serviceUrls ≠ [] ∧ (∀ address ∈ s.serviceUrls, IsAddress address) ∧
      1000 ≤ s.timeout.millis ∧ 1000 ≤ s.pollInterval.millis ∧
      ∀ d, s.renewalInterval = some d → 1000 ≤ d.millis := by
  have hvalid : Config.isValid {} = true := by decide +kernel
  have hsettings : (determine ({} : Config).registry careless).toOption =
      some { serviceUrls := ["http://[::1]:8761/eureka"] } := by decide +kernel
  have hread := ok_of_toOption hsettings
  exact ⟨hvalid, _, hread, rfl, rfl, usable hvalid hread⟩

/-- A configuration with an address that is not taken back. -/
def unread : Config where
  registry := { serviceUrls := ["http://" ++ String.ofList DomainName.farApart] }

theorem not_always_read : unread.isValid = true ∧
    ∃ s, determine unread.registry (fun _ => none) = .ok s ∧
      ¬∀ address ∈ s.serviceUrls, ∃ u, Url.parse address = .ok u ∧ u.path.isTrivial = false := by
  have hlength : DomainName.farApart.length = 720 := by
    rw [DomainName.farApart, List.length_map, List.length_range']
  obtain ⟨out, hout, hlost⟩ := normalize_lost DomainName.isIdeograph_farApart
    DomainName.sparse_farApart (by rw [hlength]; decide) (by rw [hlength]; decide)
  -- the address is valid, for it stands for a URL; what it stands for is not read
  refine ⟨isValid_of_address hout, ?_⟩
  have hsettings : determine unread.registry (fun _ => none) = .ok {
      serviceUrls := [out]
      timeout := .ofSeconds 10
      pollInterval := .ofSeconds 30 } := by
    have htexts : unread.registry.serviceUrls.mapM ServiceUri.normalize = .ok [out] := by
      show [_].mapM _ = _
      rw [List.mapM_cons, hout]
      rfl
    rw [determine_eq_ofUrls (List.cons_ne_nil _ _)]
    unfold ofUrls
    rw [htexts]
    rfl
  refine ⟨_, hsettings, fun hall => ?_⟩
  obtain ⟨u, hu, -⟩ := hall out (List.mem_cons_self ..)
  rw [hlost] at hu
  cases hu

end RegistrySettings

end LeaseKeeper
