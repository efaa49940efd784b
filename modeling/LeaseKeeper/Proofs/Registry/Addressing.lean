/-
  Where an instance is announced, and where it is kept alive and taken off.

  A registration is posted below the name of the application; signs of life and the end of a
  registration go one segment further, to the instance.  Both segments are read back as what was
  announced, and instances that are announced differently have different URLs, exactly when the
  identity is ADDRESSABLE (`addresses_announced`): its name is neither one point nor two, and
  neither key has tabs or line breaks.

  A name that is a point is passed over, and tabs and line breaks vanish, so the URLs of other
  identities name something else than the body (`not_always_addressed`).

  That addressable identities are found is a matter of encoding: each key becomes one segment, and
  decoding the segment gives the key.  The other direction takes the URL and asks what could have
  made it.  A key with a tab is shorter in the URL than in the body; a name that is a point adds
  no segment; and a name that only LOOKS like a point once its tabs are gone ends the path with an
  empty segment, which is read back as the empty name.

  That different instances have different URLs is not a matter of the segments alone, as what is
  compared is the written URL.  It ends with the two segments and with query and fragment, which
  are those of the base; no segment holds a slash, so the two can be told apart from the end
  (`render_last_inj`).
-/
import LeaseKeeper.Proofs.Registry.Bases
import Mathlib.Data.List.Basic

namespace LeaseKeeper

/-! ## Requests of a plan -/

namespace Dialogue

variable {α β σ : Type}

/-- The requests that are made when a plan is followed. -/
def requests (d : Dialogue α) (network : Network σ) (s : σ) : List HttpRequest :=
  (d.run network s).2.1

/-- Changing the result changes no request: the plan is the same. -/
theorem requests_map (f : α → β) (d : Dialogue α) (network : Network σ) (s : σ) :
    (d.map f).requests network s = d.requests network s := by
  unfold requests
  rw [run_map]

end Dialogue

section

variable {σ : Type} {method : HttpMethod} {names : List String} {body : Option Json}
  {timeout : Duration} {last : CallFailure} {bases : List Url} {request : HttpRequest}

/-- **Every server is asked for the same**: for what is below its base.  Induction on the bases that
    are left. -/
theorem askInOrder_requests (network : Network σ) (s : σ)
    (h : request ∈ (askInOrder method names body timeout last bases).requests network s) :
    request.method = method ∧ request.body = body ∧
      ∃ base ∈ bases, base.below? names = some request.url := by
  induction bases generalizing last s with
  | nil => cases h
  | cons base rest ih =>
    -- those that are asked later are among the rest
    have hlater : ∀ {last : CallFailure} {s : σ},
        request ∈ (askInOrder method names body timeout last rest).requests network s →
        request.method = method ∧ request.body = body ∧
          ∃ base' ∈ base :: rest, base'.below? names = some request.url := by
      intro last s h
      obtain ⟨hmethod, hbody, base', hmem, hbelow⟩ := ih s h
      exact ⟨hmethod, hbody, base', List.mem_cons_of_mem _ hmem, hbelow⟩
    unfold askInOrder at h
    cases hbelow : base.below? names with
    | none =>
      rw [hbelow] at h
      exact hlater h
    | some url =>
      rw [hbelow] at h
      dsimp only at h
      split at h
      · -- It is asked, and then perhaps the next.
        rcases List.mem_cons.1 h with rfl | h
        · exact ⟨rfl, rfl, base, List.mem_cons_self .., hbelow⟩
        · generalize (network _ s).1 = outcome at h
          cases outcome with
          | reply status answer =>
            dsimp only at h
            split at h
            · cases h
            · exact hlater h
          | unanswered => exact hlater h
      · -- The request cannot be sent, and the next is asked.
        exact hlater h

end

/-! ## Two URLs below one base -/

namespace Url

variable {base : Url} {front : List String} {a b a' b' : String}

/-- The written path, when two segments come last: what is before them does not depend on them.
    A path without a host may get a mark in front of it, but only for how it begins, and it
    begins with what is before them. -/
theorem writePath_last (base : Url) (front : List String) : ∃ before : List Char, ∀ a b : String,
    ({ base with path := .segments (front ++ ["apps", a, b]) } : Url).writePath =
      before ++ ('/' :: a.toList ++ '/' :: b.toList) := by
  let start : List Char := (front ++ ["apps"]).flatMap fun s => '/' :: s.toList
  have hpath : ∀ a b : String, (Path.segments (front ++ ["apps", a, b])).write =
      start ++ ('/' :: a.toList ++ '/' :: b.toList) := by
    intro a b
    simp [start, Path.write, List.flatMap_append]
  -- the start is long enough to say whether it begins with two slashes
  have htwo : ∃ x y rest, start = x :: y :: rest := by
    cases front with
    | nil => exact ⟨_, _, _, rfl⟩
    | cons s front =>
      cases hs : s.toList with
      | nil =>
        cases front with
        | nil => exact ⟨'/', '/', "apps".toList, by simp [start, hs]⟩
        | cons s' front => exact ⟨'/', '/', _, by simp [start, hs]; rfl⟩
      | cons c cs => exact ⟨'/', c, _, by simp [start, hs]; rfl⟩
  obtain ⟨x, y, rest, hstart⟩ := htwo
  refine ⟨(if base.host.isNone && ['/', '/'].isPrefixOf start then ['/', '.'] else []) ++ start, ?_⟩
  intro a b
  unfold writePath
  simp only [hpath, hstart]
  cases base.host.isNone <;> cases hx : '/' == x <;> cases hy : '/' == y <;>
    simp [List.isPrefixOf, hx, hy]

/-- Whether a URL has credentials does not depend on its path. -/
theorem withoutCredentials_path (u : Url) (path : Path) :
    ({ u with path } : Url).withoutCredentials = { u.withoutCredentials with path } := by
  unfold withoutCredentials
  show (if u.credentials?.isSome then _ else _) = _
  split <;> rfl

/-- **URLs with different last segments are written differently.**  Everything before the two
    segments is the same on both sides, and so is everything behind them. -/
theorem render_last_inj (ha : '/' ∉ a.toList) (hb : '/' ∉ b.toList)
    (h : ({ base with path := .segments (front ++ ["apps", a, b]) } : Url).render =
      ({ base with path := .segments (front ++ ["apps", a', b']) } : Url).render) :
    a = a' ∧ b = b' := by
  obtain ⟨before, hbefore⟩ := writePath_last base front
  have hwrite : ∀ a b : String,
      ({ base with path := .segments (front ++ ["apps", a, b]) } : Url).write =
        (base.scheme.toList ++ ':' :: (base.writeAuthority ++ before)) ++
          (('/' :: a.toList ++ '/' :: b.toList) ++
            (writeMarked '?' base.query ++ writeMarked '#' base.fragment)) := by
    intro a b
    unfold write
    rw [hbefore]
    simp only [List.append_assoc, List.cons_append]
    rfl
  have htexts := String.ofList_injective h
  rw [hwrite, hwrite] at htexts
  have hlast := List.append_cancel_right (List.append_cancel_left htexts)
  -- neither segment on the left has a slash, so the slash between the segments is the same
  have hparts := (List.append_cons_inj_of_notMem ha hb).1 (List.cons.inj hlast).2
  exact ⟨String.toList_inj.1 hparts.1, String.toList_inj.1 hparts.2.2⟩

end Url

/-! ## Instances -/

/-- **An identity that can be addressed.** -/
structure Identity.IsAddressable (i : Identity) : Prop where
  app : Url.IsUnbroken i.appKey
  instanceId : Url.IsUnbroken i.instanceKey
  name : i.appKey ≠ "." ∧ i.appKey ≠ ".."

instance (i : Identity) : Decidable i.IsAddressable :=
  decidable_of_iff (Url.IsUnbroken i.appKey ∧ Url.IsUnbroken i.instanceKey ∧
    i.appKey ≠ "." ∧ i.appKey ≠ "..")
    ⟨fun ⟨app, instanceId, name⟩ => ⟨app, instanceId, name⟩,
      fun ⟨app, instanceId, name⟩ => ⟨app, instanceId, name⟩⟩

/-- **Where an instance is found below a base**: the application one segment below `apps`, and the
    instance one segment further; the segments are read back as what was announced. -/
def Url.Locates (base : Url) (i : Identity) (info : InstanceInfo) : Prop :=
  ∃ segments app instanceId, base.path = .segments segments ∧
    base.below? ["apps", i.appKey] =
      some { base with path := .segments (Url.stem segments ++ ["apps", app]) } ∧
    base.below? ["apps", i.appKey, i.instanceKey] =
      some { base with path := .segments (Url.stem segments ++ ["apps", app, instanceId]) } ∧
    Url.plainText? app = some info.app ∧ Url.plainText? instanceId = some info.instanceId

namespace Identity

variable {i j : Identity}

/-- The name is neither of the two points, and it is seen as it is. -/
theorem not_isInstruction_appKey (h : i.IsAddressable) :
    Url.isInstruction (Url.visible i.appKey) = false := by
  have hne : ∀ text : String, i.appKey ≠ text → (i.appKey.toList == text.toList) = false :=
    fun text hne => beq_eq_false_iff_ne.2 fun heq => hne (String.toList_inj.1 heq)
  rw [h.app.visible, Url.isInstruction]
  exact (Bool.or_eq_false_iff ..).2 ⟨hne "." h.name.1, hne ".." h.name.2⟩

/-- The key of an instance has a colon, so it is no instruction. -/
theorem not_isInstruction_instanceKey (i : Identity) :
    Url.isInstruction (Url.visible i.instanceKey) = false := by
  have hcolon : ':' ∈ Url.visible i.instanceKey := by
    refine List.mem_filter.2 ⟨?_, by decide⟩
    simp [instanceKey]
  unfold Url.isInstruction
  refine (Bool.or_eq_false_iff ..).2 ⟨?_, ?_⟩
  all_goals
    refine beq_eq_false_iff_ne.2 fun heq => ?_
    rw [heq] at hcolon
    exact absurd hcolon (by decide)

/-- The URL of an instance, below a grounded path: neither of its two names is an instruction. -/
theorem below?_instance {base : Url} {segments : List String} (hi : i.IsAddressable)
    (hpath : base.path = .segments segments) (hground : Url.Grounded base.kind segments) :
    base.below? ["apps", i.appKey, i.instanceKey] = some { base with
      path := .segments (Url.stem segments ++
        ["apps", String.ofList (Url.encodeSegment base.kind i.appKey),
          String.ofList (Url.encodeSegment base.kind i.instanceKey)]) } := by
  refine Url.below?_names hpath hground fun name hname => ?_
  simp only [List.mem_cons, List.not_mem_nil, or_false] at hname
  rcases hname with rfl | rfl
  · exact not_isInstruction_appKey hi
  · exact not_isInstruction_instanceKey i

/-- An addressable identity is found where it was announced: both keys are read back from their
    segments. -/
theorem IsAddressable.locates {base : Url} {segments : List String} (hi : i.IsAddressable)
    (hpath : base.path = .segments segments) (hground : Url.Grounded base.kind segments)
    (renewal : Option Duration) : base.Locates i (.ofIdentity i renewal) := by
  refine ⟨segments, _, _, hpath, ?_, below?_instance hi hpath hground,
    Url.plainText?_encodeSegment base.kind hi.app,
    Url.plainText?_encodeSegment base.kind hi.instanceId⟩
  refine Url.below?_names hpath hground fun name hname => ?_
  rw [List.mem_singleton.1 hname]
  exact not_isInstruction_appKey hi

/-- An identity that is found where it was announced is addressable: its name was one segment and
    its key another, and each was read back as it is. -/
theorem isAddressable_of_locates {base : Url} {segments : List String}
    (hpath : base.path = .segments segments) (hground : Url.Grounded base.kind segments)
    {renewal : Option Duration} (h : base.Locates i (.ofIdentity i renewal)) :
    i.IsAddressable := by
  obtain ⟨segments', app, instanceId, hpath', happ, hinstance, happText, hinstanceText⟩ := h
  cases hpath.symm.trans hpath'
  have hbegun := (Url.pushName_apps hground).2
  rw [Url.below?_apps hpath hground] at happ hinstance
  have hpush : Url.pushName base.kind (Url.stem segments ++ ["apps"]) i.appKey =
      Url.stem segments ++ ["apps", app] :=
    Url.Path.segments.inj (congrArg Url.path (Option.some.inj happ))
  have hpushBoth : Url.pushName base.kind (Url.pushName base.kind (Url.stem segments ++ ["apps"])
      i.appKey) i.instanceKey = Url.stem segments ++ ["apps", app, instanceId] :=
    Url.Path.segments.inj (congrArg Url.path (Option.some.inj hinstance))
  -- a name that is passed over adds no segment
  have hpoint : ¬(i.appKey = "." ∨ i.appKey = "..") := by
    intro hpoint
    rw [Url.pushName, if_pos hpoint] at hpush
    have hlength := congrArg List.length hpush
    simp at hlength
  -- any other instruction ends with an empty segment, which is the name of no application with one
  have hname : Url.isInstruction (Url.visible i.appKey) = false := by
    refine Bool.eq_false_iff.2 fun hname => ?_
    have hlast := Url.pushName_instruction hname hpoint base.kind (Url.stem segments ++ ["apps"])
    rw [hpush] at hlast
    have hempty : app = "" := by simpa using hlast
    rw [hempty] at happText
    have hkey : i.appKey = "" := (Option.some.inj happText).symm
    rw [hkey] at hname
    exact absurd hname (by decide)
  have hfirst : app = String.ofList (Url.encodeSegment base.kind i.appKey) := by
    rw [Url.pushName_begun hbegun hname] at hpush
    simpa using hpush.symm
  -- The instance comes behind the application, and there the path has begun, too.
  have hbegun' : Url.Begun base.kind (Url.stem segments ++ ["apps", app]) := by
    have hmore := hbegun.concat app
    rwa [List.append_assoc] at hmore
  have hsecond : instanceId = String.ofList (Url.encodeSegment base.kind i.instanceKey) := by
    rw [hpush, Url.pushName_begun hbegun' (not_isInstruction_instanceKey i)] at hpushBoth
    simpa using hpushBoth.symm
  refine ⟨Url.isUnbroken_of_plainText? (hfirst ▸ happText),
    Url.isUnbroken_of_plainText? (hsecond ▸ hinstanceText), ?_⟩
  exact ⟨fun h => hpoint (.inl h), fun h => hpoint (.inr h)⟩

/-- **Two instances with other keys have other URLs**, and are asked for at other URLs: for a
    request the credentials are taken out of the URL, which leaves its path alone. -/
theorem IsAddressable.render_ne {base u v : Url} {segments : List String} (hi : i.IsAddressable)
    (hj : j.IsAddressable) (hne : (i.appKey, i.instanceKey) ≠ (j.appKey, j.instanceKey))
    (hpath : base.path = .segments segments) (hground : Url.Grounded base.kind segments)
    (hu : base.below? ["apps", i.appKey, i.instanceKey] = some u)
    (hv : base.below? ["apps", j.appKey, j.instanceKey] = some v) :
    u.render ≠ v.render ∧ u.withoutCredentials.render ≠ v.withoutCredentials.render := by
  rw [below?_instance hi hpath hground] at hu
  rw [below?_instance hj hpath hground] at hv
  cases hu
  cases hv
  have hslash : ∀ name, '/' ∉ (String.ofList (Url.encodeSegment base.kind name)).toList := by
    intro name
    rw [String.toList_ofList]
    exact Url.slash_not_mem_encodeSegment base.kind name
  -- texts that agree have the same two segments at the end, and these are the keys
  have hlast : ∀ base' : Url, ({ base' with path := .segments (Url.stem segments ++
        ["apps", String.ofList (Url.encodeSegment base.kind i.appKey),
          String.ofList (Url.encodeSegment base.kind i.instanceKey)]) } : Url).render ≠
      ({ base' with path := .segments (Url.stem segments ++
        ["apps", String.ofList (Url.encodeSegment base.kind j.appKey),
          String.ofList (Url.encodeSegment base.kind j.instanceKey)]) } : Url).render := by
    intro base' heq
    obtain ⟨happ, hinstance⟩ := Url.render_last_inj (hslash _) (hslash _) heq
    have happKey := Url.encodeSegment_inj hi.app hj.app (String.ofList_injective happ)
    have hinstanceKey :=
      Url.encodeSegment_inj hi.instanceId hj.instanceId (String.ofList_injective hinstance)
    exact hne (Prod.ext happKey hinstanceKey)
  refine ⟨hlast base, fun heq => hlast base.withoutCredentials ?_⟩
  rw [← Url.withoutCredentials_path base, ← Url.withoutCredentials_path base]
  exact heq

end Identity

namespace RegistryClient

/-- **Requests address what was announced.**  The client of any settings, whatever the servers answer:

    * below a base that has a hierarchy, an identity is found where it was announced exactly when it
      is addressable: the URL of its application is the path of the base, `apps`, and one segment
      that is read back as the application of the posted body, and the URL of the instance goes one
      segment further, which is read back as the instance of that body;
    * registrations go to the URL of the application, signs of life and the end of a registration to
      that of the instance;
    * addressable identities with another application or instance have other URLs there, with and
      without the credentials in them. -/
theorem addresses_announced {settings : RegistrySettings} {c : RegistryClient}
    (hc : ofSettings settings = .ok c) (i : Identity) :
    (∀ base ∈ c.bases, base.isHierarchical = true →
      (base.Locates i (c.announcement i).announced ↔ i.IsAddressable)) ∧
    (∀ (σ : Type) (network : Network σ) (s : σ),
      (∀ request ∈ (c.register i).requests network s, request.method = .post ∧
        request.body = some (c.announcement i).toJson ∧
        ∃ base ∈ c.bases, base.below? ["apps", i.appKey] = some request.url) ∧
      (∀ request ∈ (c.heartbeat i).requests network s, request.method = .put ∧
        ∃ base ∈ c.bases, base.below? ["apps", i.appKey, i.instanceKey] = some request.url) ∧
      (∀ request ∈ (c.deregister i).requests network s, request.method = .delete ∧
        ∃ base ∈ c.bases, base.below? ["apps", i.appKey, i.instanceKey] = some request.url)) ∧
    (∀ j : Identity, i.IsAddressable → j.IsAddressable →
      (i.appKey, i.instanceKey) ≠ (j.appKey, j.instanceKey) →
      ∀ base ∈ c.bases, ∀ u v, base.below? ["apps", i.appKey, i.instanceKey] = some u →
        base.below? ["apps", j.appKey, j.instanceKey] = some v →
        u.render ≠ v.render ∧ u.withoutCredentials.render ≠ v.withoutCredentials.render) := by
  refine ⟨?_, ?_, ?_⟩
  · -- Where an identity is found.
    intro base hbase hhierarchical
    unfold Url.isHierarchical at hhierarchical
    split at hhierarchical
    · rename_i segments hpath
      have hground := grounded hc hbase hpath
      exact ⟨Identity.isAddressable_of_locates hpath hground, fun hi => hi.locates hpath hground _⟩
    · cases hhierarchical
  · -- Where requests go: each operation asks every server for the same.
    intro σ network s
    refine ⟨?_, ?_, ?_⟩
    · intro request hrequest
      unfold register at hrequest
      rw [Dialogue.requests_map] at hrequest
      exact askInOrder_requests network s hrequest
    · intro request hrequest
      unfold heartbeat at hrequest
      rw [Dialogue.requests_map] at hrequest
      obtain ⟨hmethod, -, hbase⟩ := askInOrder_requests network s hrequest
      exact ⟨hmethod, hbase⟩
    · intro request hrequest
      unfold deregister at hrequest
      rw [Dialogue.requests_map] at hrequest
      obtain ⟨hmethod, -, hbase⟩ := askInOrder_requests network s hrequest
      exact ⟨hmethod, hbase⟩
  · -- Below a base without a hierarchy there is nothing, so only a path of segments is left.
    intro j hi hj hne base hbase u v hu hv
    cases hpath : base.path with
    | rootless text =>
      unfold Url.below? at hu
      rw [hpath] at hu
      cases hu
    | segments segments => exact hi.render_ne hj hne hpath (grounded hc hbase hpath) hu hv

/-- A registry at one address, and its client. -/
def localSettings : RegistrySettings where
  serviceUrls := ["http://[::1]/eureka"]
  port := 8761

def localBase : Url where
  scheme := "http"
  host := some (.ipv6 [0, 0, 0, 0, 0, 0, 0, 1])
  port := some 8761
  path := .segments ["eureka"]

def localClient : RegistryClient where
  settings := localSettings
  bases := [localBase]

theorem ofSettings_localSettings : ofSettings localSettings = .ok localClient :=
  ok_of_toOption (by decide +kernel)

/-- A name with a slash and with a percent sign is announced and found. -/
def slashedIdentity : Identity := .ofAddress "a/%2e?" "i-1" "10.0.0.5:8080"

theorem slashedIdentity_addressed :
    localBase.Locates slashedIdentity (localClient.announcement slashedIdentity).announced :=
  ((addresses_announced ofSettings_localSettings slashedIdentity).1 localBase
    (List.mem_singleton_self _) rfl).2 (by decide +kernel)

/-- The tab in a name is announced, and is not in the URL. -/
def tabbedIdentity : Identity := .ofAddress "a\tb" "i-1" "10.0.0.5:8080"

/-- **Not every identity is addressed**, though it has a name and an instance id: in the URL of
    this one the tab is gone. -/
theorem not_always_addressed :
    ¬∀ (settings : RegistrySettings) (c : RegistryClient), ofSettings settings = .ok c →
      ∀ i : Identity, i.name ≠ "" → i.instanceId ≠ "" →
        ∀ base ∈ c.bases, base.isHierarchical = true →
          base.Locates i (c.announcement i).announced := by
  intro h
  obtain ⟨segments, app, instanceId, hpath, happ, -, htext, -⟩ := h localSettings localClient
    ofSettings_localSettings tabbedIdentity (by decide) (by decide) localBase
    (List.mem_singleton_self _) rfl
  have hbelow : localBase.below? ["apps", tabbedIdentity.appKey] =
      some { localBase with path := .segments ["eureka", "apps", "AB"] } := by decide +kernel
  rw [hbelow] at happ
  cases hpath
  have hsegments : ["eureka", "apps", "AB"] = ["eureka", "apps", app] :=
    Url.Path.segments.inj (congrArg Url.path (Option.some.inj happ))
  have happ' : "AB" = app := by simpa using hsegments
  rw [← happ'] at htext
  exact absurd htext (by decide +kernel)

end RegistryClient

end LeaseKeeper
