/-
  The bases of a client.

  An address that is written as URLs are is the base of requests exactly if it can be at the port
  (`Url.TakesPort`), as web addresses always can, and its host is read again (`Url.HoldsHost`).
  Every base is a URL that was read, and only its port may differ from what was read
  (`baseUrl_read`).

  Both conditions are about the URL before it is written.  That they decide what becomes of it
  afterwards rests on what a written URL keeps: its scheme, its port, and whether there is a host
  (`Url.IsRead.parse_again`).
-/
import LeaseKeeper.Proofs.Url.Rereading
import LeaseKeeper.Registry.Client

namespace LeaseKeeper

/-! ## Steps that may fail -/

/-- What was worked out is what was found. -/
theorem ok_of_toOption {ε α : Type} {x : Except ε α} {a : α} (h : x.toOption = some a) :
    x = .ok a := by
  cases x with
  | error e => cases h
  | ok b => exact congrArg Except.ok (Option.some.inj h)

/-- A list of steps that may fail succeeds if each step does: induction on the list. -/
theorem mapM_ok_iff {ε α β : Type} {f : α → Except ε β} {as : List α} :
    (∃ bs, as.mapM f = .ok bs) ↔ ∀ a ∈ as, ∃ b, f a = .ok b := by
  induction as with
  | nil => exact iff_of_true ⟨[], rfl⟩ nofun
  | cons a as ih =>
    rw [List.forall_mem_cons, ← ih, List.mapM_cons]
    constructor
    · rintro ⟨bs, h⟩
      obtain ⟨b, hb, h⟩ := Url.bind_eq_ok h
      obtain ⟨more, hmore, -⟩ := Url.bind_eq_ok h
      exact ⟨⟨b, hb⟩, more, hmore⟩
    · rintro ⟨⟨b, hb⟩, more, hmore⟩
      exact ⟨b :: more, by rw [hb, hmore]; rfl⟩

/-- What such a list gives: induction on the list, whose first element gives the first result. -/
theorem mem_of_mapM {ε α β : Type} {f : α → Except ε β} {as : List α} {bs : List β}
    (h : as.mapM f = .ok bs) (b : β) : b ∈ bs ↔ ∃ a ∈ as, f a = .ok b := by
  induction as generalizing bs with
  | nil =>
    cases h
    simp
  | cons a as ih =>
    rw [List.mapM_cons] at h
    obtain ⟨first, hfirst, h⟩ := Url.bind_eq_ok h
    obtain ⟨more, hmore, h⟩ := Url.bind_eq_ok h
    cases h
    rw [List.mem_cons, ih hmore, List.exists_mem_cons_iff, hfirst, Except.ok.injEq, eq_comm]

/-- What such a list gives, place by place.  This is more than which results there are: servers
    are asked in the order of their addresses. -/
theorem getElem?_of_mapM {ε α β : Type} {f : α → Except ε β} {as : List α} {bs : List β}
    (h : as.mapM f = .ok bs) {i : Nat} {a : α} (ha : as[i]? = some a) :
    ∃ b, bs[i]? = some b ∧ f a = .ok b := by
  induction as generalizing bs i with
  | nil => cases ha
  | cons first as ih =>
    rw [List.mapM_cons] at h
    obtain ⟨b, hb, h⟩ := Url.bind_eq_ok h
    obtain ⟨more, hmore, h⟩ := Url.bind_eq_ok h
    cases h
    cases i with
    | zero =>
      cases ha
      exact ⟨b, rfl, hb⟩
    | succ i => exact ih hmore ha

/-! ## Addresses that make a base -/

/-- **A URL that can be at a port**: there is nothing to add, or a place for it.  The default
    port of registries is never added. -/
def Url.TakesPort (u : Url) (port : UInt16) : Prop :=
  port = defaultRegistryPort ∨ u.port ≠ none ∨ (u.hasHost = true ∧ u.kind ≠ .file)

/-- **A URL whose host is read again.**  This is a question only for names with the mark of
    Punycode: every other host is read as it is written. -/
def Url.HoldsHost (u : Url) : Prop :=
  ∀ host, u.host = some host → u.kind.isSpecial = true → host.IsMarked →
    ∃ again, Url.readHost u.kind host.write = .ok again

namespace Url

variable {u v : Url}

/-- **A web address takes every port**: its URL has a host, since a special URL is not read
    without one. -/
theorem takesPort_of_special (h : u.IsRead) (hkind : u.kind = .special) (port : UInt16) :
    u.TakesPort port := by
  have hfile : u.kind ≠ .file := by rw [hkind]; exact nofun
  refine .inr (.inr ⟨?_, hfile⟩)
  cases hhost : u.host with
  | none => exact absurd hhost (h.placed (by rw [hkind]; rfl))
  | some host =>
    have hne := (h.host_isRead hhost hfile).write_ne_nil (by rw [hkind]; rfl)
    rw [hasHost, hhost]
    refine bne_iff_ne.2 ?_
    rintro rfl
    exact hne rfl

/-- A host that was read is read again, unless it is marked. -/
theorem HoldsHost.readHost (hread : u.IsRead) (h : u.HoldsHost) {host : Host}
    (hhost : u.host = some host) (hsome : host ≠ .absent) :
    ∃ again, Url.readHost u.kind host.write = .ok again := by
  by_cases hmarked : u.kind.isSpecial = true ∧ host.IsMarked
  · exact h host hhost hmarked.1 hmarked.2
  · have hform := (hread.host host hhost).resolve_right fun hfile => hsome hfile.2
    exact ⟨host, hform.readHost_write fun hspecial hmark => hmarked ⟨hspecial, hmark⟩⟩

/-- Two URLs of one scheme, with the same port and with hosts in the same place, take the same
    ports.  A `file` URL takes none, so nothing is asked about its host. -/
theorem withPort?_isSome (hscheme : v.scheme = u.scheme)
    (hhost : u.kind ≠ .file → v.hasHost = u.hasHost) (port : UInt16) :
    (v.withPort? port).isSome = true ↔ u.hasHost = true ∧ u.kind ≠ .file := by
  have hkind : v.kind = u.kind := by rw [kind, hscheme, kind]
  unfold withPort?
  by_cases hfile : u.kind = .file
  · rw [hkind, hfile]
    simp
  · rw [hhost hfile, hkind]
    cases u.hasHost <;> simp [hfile]

end Url

/-- A URL whose host is not read again is not read again: the error of the host is that of the
    URL. -/
theorem Url.IsRead.parse_lost {u : Url} (h : u.IsRead) (hlost : ¬u.HoldsHost) :
    ∃ e, Url.parse u.render = .error e := by
  unfold HoldsHost at hlost
  simp only [not_forall] at hlost
  obtain ⟨host, hhost, -, hmarked, hnone⟩ := hlost
  have hsome : host ≠ .absent := by
    rintro rfl
    exact Host.not_isMarked_absent hmarked
  cases hread : readHost u.kind host.write with
  | ok again => exact absurd ⟨again, hread⟩ hnone
  | error e => exact ⟨e, h.parse_error hhost hsome hread⟩

/-- **A written URL is read again** exactly if its host is.  Nothing else in it can fail. -/
theorem Url.IsRead.parse_iff {u : Url} (h : u.IsRead) :
    (∃ v, Url.parse u.render = .ok v) ↔ u.HoldsHost := by
  constructor
  · rintro ⟨v, hv⟩
    by_contra hlost
    obtain ⟨e, he⟩ := h.parse_lost hlost
    rw [hv] at he
    cases he
  · intro hholds
    obtain ⟨v, hv, -⟩ := h.parse_again fun host hhost hsome => hholds.readHost h hhost hsome
    exact ⟨v, hv⟩

/-- **A written URL is the base of requests** if it can be at the port and its host is read
    again.  Where the host is lost there is no base at all, so the other condition is asked only
    if it is not. -/
theorem baseUrl_render {u : Url} (h : u.IsRead) (port : UInt16) :
    (∃ base, baseUrl port u.render = .ok base) ↔ u.TakesPort port ∧ u.HoldsHost := by
  by_cases hholds : u.HoldsHost
  · obtain ⟨v, hv, hscheme, hport, hhost⟩ :=
      h.parse_again fun host hhost hsome => hholds.readHost h hhost hsome
    have hadded := Url.withPort?_isSome hscheme hhost port
    unfold baseUrl
    rw [hv]
    dsimp only
    rw [hport]
    split
    · rename_i hmissing
      -- a port is to be added, and the question is whether there is a place for it
      obtain ⟨hnone, hport⟩ := hmissing
      have hplace : u.TakesPort port ↔ (v.withPort? port).isSome = true := by
        rw [hadded]
        refine ⟨fun htakes => ?_, fun hplace => .inr (.inr hplace)⟩
        rcases htakes with hdefault | hown | hplace
        · exact absurd hdefault hport
        · exact absurd (Option.isNone_iff_eq_none.1 hnone) hown
        · exact hplace
      rw [and_iff_left hholds, hplace]
      cases v.withPort? port with
      | none => exact iff_of_false (fun ⟨base, hbase⟩ => nomatch hbase) Bool.false_ne_true
      | some base => exact iff_of_true ⟨base, rfl⟩ rfl
    · rename_i hpresent
      -- nothing is to be added
      refine iff_of_true ⟨v, rfl⟩ ⟨?_, hholds⟩
      rcases not_and_or.1 hpresent with hown | hdefault
      · exact .inr (.inl fun hnone => hown (by rw [hnone]; rfl))
      · exact .inl (of_not_not hdefault)
  · -- the host is lost, so reading fails before a port is thought of
    obtain ⟨e, he⟩ := h.parse_lost hholds
    refine iff_of_false ?_ fun hboth => hholds hboth.2
    rintro ⟨base, hbase⟩
    unfold baseUrl at hbase
    rw [he] at hbase
    cases hbase

/-! ## What a base is -/

/-- A base is a URL that was read, perhaps at another port. -/
theorem baseUrl_read {port : UInt16} {address : String} {base : Url}
    (h : baseUrl port address = .ok base) :
    ∃ u, Url.parse address = .ok u ∧ base.scheme = u.scheme ∧ base.path = u.path := by
  unfold baseUrl at h
  split at h
  · cases h
  · rename_i u hu
    refine ⟨u, hu, ?_⟩
    split at h
    · split at h
      · cases h
      · rename_i v hv
        cases h
        unfold Url.withPort? at hv
        split at hv
        · cases hv
        · cases hv
          exact ⟨rfl, rfl⟩
    · cases h
      exact ⟨rfl, rfl⟩

/-- The path of every base is grounded, because it is the path of a URL that was read and only
    the port was added. -/
theorem RegistryClient.grounded {settings : RegistrySettings} {c : RegistryClient}
    (hc : ofSettings settings = .ok c) {base : Url} (hbase : base ∈ c.bases)
    {segments : List String} (hpath : base.path = .segments segments) :
    Url.Grounded base.kind segments := by
  unfold ofSettings at hc
  cases hb : settings.bases with
  | error e =>
    rw [hb] at hc
    cases hc
  | ok bases =>
    rw [hb] at hc
    cases hc
    unfold RegistrySettings.bases at hb
    split at hb
    · cases hb
    · obtain ⟨address, -, haddress⟩ := (mem_of_mapM hb base).1 hbase
      obtain ⟨u, hu, hscheme, hsame⟩ := baseUrl_read haddress
      have hground := Url.parse_grounded hu (hsame ▸ hpath)
      unfold Url.kind at hground ⊢
      rw [hscheme]
      exact hground

end LeaseKeeper
