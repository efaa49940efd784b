/-
  Configured addresses, checked and used.

  Whether the addresses of a configuration are all right is asked twice: when the configuration is
  checked, every fault is reported among those of other fields; when the settings of the registry
  are determined, the first address that fails ends everything.

  Both ask the same question of every address, so they agree (`Config.resolution_agrees`): there
  are settings exactly if no address is reported, and if there are none it is for the reason that
  is reported first.  Neither the environment nor the name or tag of a bound service has a part in
  it.

  To say that every place is reported once and in order, one has to say which places those are: a
  list of numbers that increase, in step with the list of faults (`exists_places`).  The rest is
  about the first failure: what stops the one is the first thing that the other reports, since
  both go through the list from its front (`mapM_eq_error`).
-/
import LeaseKeeper.Config.Validation
import LeaseKeeper.Proofs.Registry.Bases

namespace LeaseKeeper

/-! ## The first failure -/

/-- **A list of steps fails where its first step fails**: induction on the list.  Everything
    before that step has succeeded. -/
theorem mapM_eq_error {ε α β : Type} {f : α → Except ε β} {as : List α} {e : ε}
    (h : as.mapM f = .error e) : ∃ front a back, as = front ++ a :: back ∧
      (∀ x ∈ front, ∃ b, f x = .ok b) ∧ f a = .error e := by
  induction as with
  | nil => cases h
  | cons a as ih =>
    rw [List.mapM_cons] at h
    cases ha : f a with
    | error e' =>
      rw [ha] at h
      cases h
      exact ⟨[], a, as, rfl, nofun, ha⟩
    | ok b =>
      cases hrest : as.mapM f with
      | ok bs =>
        rw [ha, hrest] at h
        cases h
      | error e' =>
        rw [ha, hrest] at h
        cases h
        obtain ⟨front, x, back, rfl, hfront, hx⟩ := ih hrest
        exact ⟨a :: front, x, back, rfl, List.forall_mem_cons.2 ⟨⟨b, ha⟩, hfront⟩, hx⟩

/-- What a list of steps gives is as long as the list: induction on the list. -/
theorem length_of_mapM {ε α β : Type} {f : α → Except ε β} {as : List α} {bs : List β}
    (h : as.mapM f = .ok bs) : bs.length = as.length := by
  induction as generalizing bs with
  | nil =>
    cases h
    rfl
  | cons a as ih =>
    rw [List.mapM_cons] at h
    obtain ⟨b, -, h⟩ := Url.bind_eq_ok h
    obtain ⟨more, hmore, h⟩ := Url.bind_eq_ok h
    cases h
    exact congrArg (· + 1) (ih hmore)

/-! ## Faults of addresses -/

/-- A fault of an address. -/
def ConfigFault.isOfAddress : ConfigFault → Bool
  | invalidServiceUrl _ _ => true
  | _ => false

/-- **The faults of its addresses** among all faults of a configuration. -/
def Config.addressFaults (c : Config) : List ConfigFault := c.faults.filter ConfigFault.isOfAddress

/-- **The address at a place fails, and this is its fault.** -/
def FailsAt (urls : List String) (place : Nat) (fault : ConfigFault) : Prop :=
  ∃ url reason, urls[place]? = some url ∧ ServiceUri.normalize url = .error reason ∧
    fault = .invalidServiceUrl url reason

/-- An address that can be normalized is not reported. -/
theorem urlFault?_ok {url text : String} (h : ServiceUri.normalize url = .ok text) :
    urlFault? url = none := by
  rw [urlFault?, h]

/-- One that cannot is reported for the same reason. -/
theorem urlFault?_error {url : String} {e : BindingError} (h : ServiceUri.normalize url = .error e) :
    urlFault? url = some (.invalidServiceUrl url e) := by
  rw [urlFault?, h]

/-- A check that reports something else adds nothing to these. -/
theorem filter_faultIf {p : ConfigFault → Bool} {fault : ConfigFault} (h : p fault = false)
    (condition : Bool) : (faultIf condition fault).filter p = [] := by
  unfold faultIf
  split
  · exact List.filter_cons_of_neg (Bool.eq_false_iff.1 h)
  · rfl

/-- **No other check reports an address**, so the faults of addresses are those of the list, in
    its order. -/
theorem Config.addressFaults_eq (c : Config) :
    c.addressFaults = c.registry.serviceUrls.filterMap urlFault? := by
  have hown : (c.registry.serviceUrls.filterMap urlFault?).filter ConfigFault.isOfAddress =
      c.registry.serviceUrls.filterMap urlFault? := by
    refine List.filter_eq_self.2 fun fault hfault => ?_
    obtain ⟨url, -, hurl⟩ := List.mem_filterMap.1 hfault
    cases hresult : ServiceUri.normalize url with
    | ok text =>
      rw [urlFault?_ok hresult] at hurl
      cases hurl
    | error e =>
      rw [urlFault?_error hresult] at hurl
      cases hurl
      rfl
  unfold addressFaults faults
  simp only [List.filter_append, hown]
  rw [filter_faultIf rfl, filter_faultIf rfl, filter_faultIf rfl, filter_faultIf rfl,
    filter_faultIf rfl, filter_faultIf rfl]
  simp only [List.nil_append, List.append_nil]

/-- **Every place that fails has one fault, in the order of the places**: induction on the list, where
    all later places move up by one. -/
theorem exists_places (urls : List String) : ∃ places : List Nat, places.Pairwise (· < ·) ∧
    (∀ i, i ∈ places ↔ ∃ fault, FailsAt urls i fault) ∧
    List.Forall₂ (FailsAt urls) places (urls.filterMap urlFault?) := by
  induction urls with
  | nil =>
    refine ⟨[], .nil, fun i => iff_of_false List.not_mem_nil ?_, .nil⟩
    rintro ⟨fault, url, reason, hurl, -⟩
    cases hurl
  | cons url urls ih =>
    obtain ⟨places, hordered, hmem, hfaults⟩ := ih
    have hmoved : (places.map (· + 1)).Pairwise (· < ·) :=
      hordered.map (· + 1) fun _ _ h => Nat.add_lt_add_right h 1
    have hlater : List.Forall₂ (FailsAt (url :: urls)) (places.map (· + 1))
        (urls.filterMap urlFault?) := List.forall₂_map_left_iff.2 hfaults
    have hsucc : ∀ i, i + 1 ∈ places.map (· + 1) ↔ ∃ fault, FailsAt (url :: urls) (i + 1) fault := by
      intro i
      rw [List.mem_map_of_injective fun _ _ h => Nat.succ.inj h, hmem]
      rfl
    cases hresult : ServiceUri.normalize url with
    | ok text =>
      -- Nothing is reported for the first place.
      rw [List.filterMap_cons_none (urlFault?_ok hresult)]
      refine ⟨places.map (· + 1), hmoved, fun i => ?_, hlater⟩
      cases i with
      | zero =>
        refine iff_of_false (fun h => ?_) ?_
        · obtain ⟨_, -, h⟩ := List.mem_map.1 h
          cases h
        · rintro ⟨fault, url', reason, hurl, hreason, -⟩
          cases hurl
          rw [hresult] at hreason
          cases hreason
      | succ i => exact hsucc i
    | error e =>
      -- The first place is reported, before all later ones.
      rw [List.filterMap_cons_some (urlFault?_error hresult)]
      have hfirst : FailsAt (url :: urls) 0 (.invalidServiceUrl url e) := ⟨url, e, rfl, hresult, rfl⟩
      refine ⟨0 :: places.map (· + 1), ?_, fun i => ?_, .cons hfirst hlater⟩
      · refine List.pairwise_cons.2 ⟨fun i hi => ?_, hmoved⟩
        obtain ⟨j, -, rfl⟩ := List.mem_map.1 hi
        exact Nat.succ_pos j
      · cases i with
        | zero => exact iff_of_true (List.mem_cons_self ..) ⟨_, hfirst⟩
        | succ i =>
          rw [List.mem_cons, or_iff_right (Nat.succ_ne_zero i)]
          exact hsucc i

/-! ## Settings -/

/-- **Where there are addresses, they decide.** -/
theorem RegistrySettings.determine_eq_ofUrls {c : EndpointConfig} (h : c.serviceUrls ≠ [])
    (env : Environment) : determine c env = ofUrls c :=
  if_neg fun hempty => h (List.isEmpty_iff.1 hempty)

/-- The settings of addresses that can all be normalized. -/
theorem RegistrySettings.ofUrls_eq_ok {c : EndpointConfig} {s : RegistrySettings}
    (h : ofUrls c = .ok s) : c.serviceUrls.mapM ServiceUri.normalize = .ok s.serviceUrls := by
  obtain ⟨texts, htexts, h⟩ := Url.bind_eq_ok h
  cases h
  exact htexts

/-- Addresses fail if one of them cannot be normalized. -/
theorem RegistrySettings.ofUrls_eq_error {c : EndpointConfig} {e : BindingError} :
    ofUrls c = .error e ↔ c.serviceUrls.mapM ServiceUri.normalize = .error e := by
  unfold ofUrls
  cases c.serviceUrls.mapM ServiceUri.normalize with
  | ok texts => exact iff_of_false nofun nofun
  | error e' =>
    exact ⟨fun h => congrArg Except.error (Except.error.inj h),
      fun h => congrArg Except.error (Except.error.inj h)⟩

/-- **Checking and using configured addresses agree.**

    * Every place whose address fails is reported once, in the order of the list, whatever else is
      reported.
    * There are no settings exactly if an address is reported, and then for the reason that is
      reported first.
    * If there are settings, their addresses are those of the list, normalized, each at its place.
    * Environment, name and tag of a bound service do not matter. -/
theorem Config.resolution_agrees (c : Config) (hurls : c.registry.serviceUrls ≠ [])
    (env : Environment) :
    (∃ places : List Nat, places.Pairwise (· < ·) ∧
      (∀ i, i ∈ places ↔ ∃ fault, FailsAt c.registry.serviceUrls i fault) ∧
      List.Forall₂ (FailsAt c.registry.serviceUrls) places c.addressFaults) ∧
    ((∃ e, RegistrySettings.determine c.registry env = .error e) ↔
      ∃ url reason, .invalidServiceUrl url reason ∈ c.faults) ∧
    (∀ e, RegistrySettings.determine c.registry env = .error e →
      ∃ url, c.addressFaults.head? = some (.invalidServiceUrl url e)) ∧
    (∀ s, RegistrySettings.determine c.registry env = .ok s →
      s.serviceUrls.length = c.registry.serviceUrls.length ∧
      ∀ (i : Nat) (url : String), c.registry.serviceUrls[i]? = some url →
        ∃ text, s.serviceUrls[i]? = some text ∧ ServiceUri.normalize url = .ok text) ∧
    ∀ (env' : Environment) (name : String) (tag : Option String),
      RegistrySettings.determine { c.registry with serviceName := name, serviceTag := tag } env' =
        RegistrySettings.determine c.registry env := by
  rw [RegistrySettings.determine_eq_ofUrls hurls env]
  have hfirst : ∀ e, RegistrySettings.ofUrls c.registry = .error e →
      ∃ url, c.addressFaults.head? = some (.invalidServiceUrl url e) := by
    intro e he
    -- All addresses before the one that fails can be normalized, so none of them is reported.
    obtain ⟨front, url, back, hsplit, hfront, hurl⟩ :=
      mapM_eq_error (RegistrySettings.ofUrls_eq_error.1 he)
    have hnone : front.filterMap urlFault? = [] := by
      refine List.filterMap_eq_nil_iff.2 fun x hx => ?_
      obtain ⟨text, htext⟩ := hfront x hx
      exact urlFault?_ok htext
    refine ⟨url, ?_⟩
    rw [c.addressFaults_eq, hsplit, List.filterMap_append, hnone, List.nil_append,
      List.filterMap_cons_some (urlFault?_error hurl)]
    rfl
  refine ⟨?_, ⟨?_, ?_⟩, hfirst, fun s hs => ?_, fun env' name tag => ?_⟩
  · -- Every fault has its place.
    rw [c.addressFaults_eq]
    exact exists_places c.registry.serviceUrls
  · -- What fails is reported.
    rintro ⟨e, he⟩
    obtain ⟨url, hurl⟩ := hfirst e he
    exact ⟨url, e, (List.mem_filter.1 (List.mem_of_mem_head? hurl)).1⟩
  · -- What is reported fails: otherwise every address could be normalized.
    rintro ⟨url, reason, hfault⟩
    have hreported : .invalidServiceUrl url reason ∈ c.addressFaults :=
      List.mem_filter.2 ⟨hfault, rfl⟩
    rw [c.addressFaults_eq] at hreported
    obtain ⟨url', hmem, hurl⟩ := List.mem_filterMap.1 hreported
    cases htexts : c.registry.serviceUrls.mapM ServiceUri.normalize with
    | error e => exact ⟨e, RegistrySettings.ofUrls_eq_error.2 htexts⟩
    | ok texts =>
      -- every address can be normalized, so none is reported
      obtain ⟨text, htext⟩ := mapM_ok_iff.1 ⟨texts, htexts⟩ url' hmem
      rw [urlFault?_ok htext] at hurl
      cases hurl
  · -- The settings have the normalized addresses.
    have htexts := RegistrySettings.ofUrls_eq_ok hs
    exact ⟨length_of_mapM htexts, fun i url hurl => getElem?_of_mapM htexts hurl⟩
  · exact RegistrySettings.determine_eq_ofUrls (c := { c.registry with
      serviceName := name
      serviceTag := tag }) hurls env'

/-- A configuration with two addresses that fail, and with faults of other kinds. -/
def Config.faulty : Config where
  registration := { retryIntervalMs := 0 }
  registry := { serviceUrls := ["http://[::1]/eureka", "", "http://[::1"] }
  identity := { name := some "svc" }

theorem Config.faulty_reported : faulty.registry.serviceUrls ≠ [] ∧
    RegistrySettings.determine faulty.registry (fun _ => none) = .error .emptyUri ∧
    (∃ url, faulty.addressFaults.head? = some (.invalidServiceUrl url .emptyUri)) ∧
    ∃ url reason, .invalidServiceUrl url reason ∈ faulty.faults := by
  have hurls : faulty.registry.serviceUrls ≠ [] := List.cons_ne_nil _ _
  have hfails : RegistrySettings.determine faulty.registry (fun _ => none) = .error .emptyUri := by
    decide +kernel
  obtain ⟨-, hreported, hfirst, -⟩ := resolution_agrees faulty hurls (fun _ => none)
  exact ⟨hurls, hfails, hfirst _ hfails, hreported.1 ⟨_, hfails⟩⟩

end LeaseKeeper
