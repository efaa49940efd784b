/-
  Addresses that were worked out once.

  An address is given a scheme and a path, and what comes of it is the text of a URL. When that
  text is an address in its turn, nothing is left to be added if the text has the mark of a
  scheme, and the URL is read as itself if it is faithful (`Url.IsFaithful`).  So the text stays
  the same in these cases, and in no others (`ServiceUri.normalize_again`).

    1. WHAT IS ADDED leaves the URL as reading makes it: the default path consists of names, and
       it is put only where there is no path (`Url.IsParsed.withDefaultPath`).
    2. THE MARK of a scheme is in the text wherever there is a host (`occursIn_write`).  Without
       it the default scheme would be put in front, which would bring a host and with it the mark;
       so a text that stands for itself has the mark (`occursIn_of_self`).
    3. THE URL is read again from its text.  It may come back changed, but then its text has
       changed as well (`Url.IsParsed.eq_of_render`), so equal texts mean equal URLs.

  The crux is in 2 and 3: that the text is the same says at first nothing about the URL, and both
  steps turn it into something about the URL.

  The mark is there wherever there is a host.  Where there is none it may have stood in the path,
  and have left it with the segment that it was in (`ServiceUri.not_always_again`).
-/
import LeaseKeeper.Proofs.Registry.Usable
import LeaseKeeper.Proofs.Url.Returning

namespace LeaseKeeper

/-- The default path is all that may be changed, and where it is put as segments these are the
    default ones. -/
theorem withDefaultPath_eq (u : Url) : ServiceUri.withDefaultPath u = u ∨
    ∃ path, ServiceUri.withDefaultPath u = { u with path } ∧
      ∀ segments, path = .segments segments → segments = ServiceUri.defaultPath := by
  unfold ServiceUri.withDefaultPath Url.withPath
  split
  · split
    · -- a path without hierarchy is kept as one
      exact .inr ⟨_, rfl, nofun⟩
    · -- the segments of the default path are put in
      exact .inr ⟨_, rfl, fun _ hpath => (Url.Path.segments.inj hpath).symm⟩
  · exact .inl rfl

/-- **A URL stays as reading makes it** when it gets the default path: all that reading
    establishes of a path holds of the default one, which consists of names. -/
theorem Url.IsParsed.withDefaultPath {u : Url} (h : u.IsParsed) :
    (ServiceUri.withDefaultPath u).IsParsed := by
  have hread := h.read.withDefaultPath
  have hwalked := (withDefaultPath_nontrivial h.walked).1
  have hnames : ∀ s ∈ ServiceUri.defaultPath, IsName s := by
    refine List.forall_mem_singleton.2 ⟨?_, ?_⟩ <;> decide
  rcases withDefaultPath_eq u with hsame | ⟨path, hsame, hpath⟩
  · rw [hsame]
    exact h
  · rw [hsame] at hread hwalked ⊢
    exact ⟨hread, hwalked, h.tail, h.remote,
      fun _ segments hsegments => .inl (hpath segments hsegments ▸ hnames)⟩

namespace ServiceUri

/-! ## The mark of a scheme -/

/-- A part of a text is found in it: induction on what stands before the part. -/
theorem occursIn_append {part : List Char} (hpart : part ≠ []) (front back : List Char) :
    Text.occursIn part (front ++ (part ++ back)) = true := by
  induction front with
  | nil =>
    obtain ⟨c, rest, rfl⟩ := List.exists_cons_of_ne_nil hpart
    have hfront : (c :: rest).isPrefixOf (c :: (rest ++ back)) = true :=
      List.isPrefixOf_iff_prefix.2 ⟨back, rfl⟩
    exact Bool.or_eq_true_iff.2 (.inl hfront)
  | cons c front ih => exact Bool.or_eq_true_iff.2 (.inr ih)

/-- **Where there is a host, the mark of a scheme stands before it**: whatever the host is, it is
    written behind the scheme, a colon and two slashes. -/
theorem occursIn_write {u : Url} {host : Url.Host} (hhost : u.host = some host) :
    Text.occursIn separator u.write = true := by
  have hwrite : u.write = u.scheme.toList ++ (separator ++ Url.writePlace u host) := by
    show u.scheme.toList ++ ':' :: Url.writeBody u = _
    rw [Url.writeBody_host hhost]
    rfl
  rw [hwrite]
  exact occursIn_append (List.cons_ne_nil _ _) _ _

/-- So nothing is put in front of the text. -/
theorem withScheme_render {u : Url} (h : Text.occursIn separator u.write = true) :
    withScheme u.render = u.render := by
  refine if_pos ?_
  rw [Url.render, String.toList_ofList]
  exact h

/-- A URL whose path says something gets no other. -/
theorem withDefaultPath_self {u : Url} (h : u.path.isTrivial = false) : withDefaultPath u = u :=
  if_neg (by rw [h]; exact Bool.false_ne_true)

/-- **Behind the default scheme there is a host**, as the scheme is a special one: whatever was
    written behind it is read as an authority, and a special URL is read only with a host. -/
theorem host_of_default {u w : Url} (h : u.IsRead)
    (hw : Url.parse (defaultScheme ++ "://" ++ u.render) = .ok w) : w.host ≠ none := by
  -- the text in front is plain, so the text as a whole is read from its first letter on
  have hfront : ∀ c ∈ "http://".toList, Url.Printable c := by simp [Url.Printable]
  have htidy : Url.Tidy ("http://".toList ++ u.write) :=
    Url.Tidy.append (Url.tidy_of_printable hfront).inside
      (fun _ => Url.tidy_of_printable hfront) h.tidy_write
  have htext : defaultScheme ++ "://" ++ u.render = String.ofList ("http://".toList ++ u.write) := by
    rw [String.ofList_append, String.ofList_toList]
    rfl
  have hsignificant : Url.significant (String.ofList ("http://".toList ++ u.write)) =
      "http://".toList ++ u.write := htidy.significant (hfront 'h' (List.mem_cons_self ..))
  -- what is taken off is the default scheme
  have htake : Url.takeScheme? ("http://".toList ++ u.write) =
      some ("http", '/' :: '/' :: u.write) := Url.isScheme_http.again _
  have hread := Url.isRead_of_parse hw
  rw [htext, Url.parse, hsignificant, htake] at hw
  have hspecial : w.kind = .special := congrArg Url.SchemeKind.ofScheme (Url.readAuthority_scheme hw)
  exact hread.placed (by rw [hspecial]; rfl)

/-- **A text that stands for itself has the mark of a scheme.**  If it had none, the default
    scheme would come in front of it, and the result would have the mark; but the result is the
    text itself. -/
theorem occursIn_of_self {u : Url} (h : u.IsRead) (hself : normalize u.render = .ok u.render) :
    Text.occursIn separator u.write = true := by
  by_contra hmark
  obtain ⟨w, hw, hout⟩ := normalize_eq_ok hself
  rw [withScheme, if_neg (by rw [Url.render, String.toList_ofList]; exact hmark)] at hw
  -- the default scheme brings a host, and with it the mark
  obtain ⟨host, hhost⟩ := Option.ne_none_iff_exists'.1 (host_of_default h hw)
  have hwritten := occursIn_write ((withDefaultPath_frame w).2.1.trans hhost)
  rw [← String.ofList_inj.1 hout] at hwritten
  exact hmark hwritten

/-! ## The text once more -/

/-- **A URL that its text stands for, as an address too**: nothing is put in front of the text,
    and the URL is read from it once more. -/
structure IsFixed (u : Url) : Prop where
  /-- Where there is no host, the mark of a scheme stands elsewhere. -/
  marked : u.host = none → Text.occursIn separator u.write = true
  faithful : u.IsFaithful

/-- **Authorities are fixed** if the scheme is not `file`, and no label of a special host has the mark
    of Punycode. -/
theorem isFixed_of_authority {u : Url} {host : Url.Host} (hhost : u.host = some host)
    (hkind : u.kind ≠ .file) (hmark : u.kind.isSpecial = true → ¬host.IsMarked) : IsFixed u where
  marked hnone := nomatch hhost.symm.trans hnone
  faithful := {
    host := fun _ hother hspecial hmarked =>
      absurd (Option.some.inj (hhost.symm.trans hother) ▸ hmarked) (hmark hspecial)
    names := fun hfile => absurd hfile hkind
    front := fun hfile => absurd hfile hkind }

/-- **What an address stands for** stands for itself exactly if its URL is fixed.  In one
    direction the mark is in the text, so the URL is read from it as it is; it has a path, so it
    gets no other, and as the texts are the same, so are the URLs.  In the other direction
    nothing is put in front, the URL is read as itself, and it keeps its path. -/
theorem normalize_again {text out : String} (h : normalize text = .ok out) :
    ∃ u, Url.parse (withScheme text) = .ok u ∧ out = (withDefaultPath u).render ∧
      (normalize out = .ok out ↔ IsFixed (withDefaultPath u)) := by
  obtain ⟨u, hu, rfl⟩ := normalize_eq_ok h
  have hparsed := (Url.isParsed_of_parse hu).withDefaultPath
  have hpath := (withDefaultPath_nontrivial (Url.pathIsWalked_of_parse hu)).2
  refine ⟨u, hu, rfl, ?_⟩
  generalize withDefaultPath u = v at hparsed hpath
  constructor
  · intro hself
    have hmark := occursIn_of_self hparsed.read hself
    obtain ⟨w, hw, hout⟩ := normalize_eq_ok hself
    rw [withScheme_render hmark] at hw
    -- the path of what is read again says something, so it is kept
    rw [withDefaultPath_self (hparsed.read.parse_nontrivial hparsed.walked hpath hw).2] at hout
    obtain rfl := hparsed.eq_of_render hpath hw hout.symm
    exact ⟨fun _ => hmark, (hparsed.parse_self_iff hpath).1 hw⟩
  · intro hfixed
    -- wherever the mark stands, it is found in the text
    have hmark : Text.occursIn separator v.write = true := by
      cases hhost : v.host with
      | none => exact hfixed.marked hhost
      | some host => exact occursIn_write hhost
    -- the text is not empty, as the mark is in it
    have htext : v.render ≠ "" := by
      intro hnil
      rw [String.ofList_inj.1 (show String.ofList v.write = String.ofList [] from hnil)] at hmark
      cases hmark
    unfold normalize
    rw [if_neg htext, withScheme_render hmark, (hparsed.parse_self_iff hpath).2 hfixed.faithful]
    exact congrArg (fun u => Except.ok u.render) (withDefaultPath_self hpath)

/-- An address without scheme and path is worked out once: its host has no name, so it is
    certainly not marked. -/
theorem loopback_again : normalize "[::1]:8761" = .ok "http://[::1]:8761/eureka" ∧
    normalize "http://[::1]:8761/eureka" = .ok "http://[::1]:8761/eureka" := by
  have hout : normalize "[::1]:8761" = .ok "http://[::1]:8761/eureka" :=
    ok_of_toOption (by decide +kernel)
  obtain ⟨u, hu, -, hagain⟩ := normalize_again hout
  have hparts : (Url.parse (withScheme "[::1]:8761")).toOption.map (fun u => (u.kind, u.host)) =
      some (.special, some (.ipv6 [0, 0, 0, 0, 0, 0, 0, 1])) := by decide +kernel
  rw [hu] at hparts
  obtain ⟨hkind, hhost⟩ := Prod.mk.inj (Option.some.inj hparts)
  obtain ⟨hscheme, hsame, -⟩ := withDefaultPath_frame u
  refine ⟨hout, hagain.2 (isFixed_of_authority (hsame.trans hhost) ?_ fun _ => ?_)⟩
  · rw [Url.kind, hscheme, show Url.SchemeKind.ofScheme u.scheme = .special from hkind]
    decide
  · rintro ⟨name, hname, -⟩
    cases hname

-- A drive that a slash had hidden takes the host away when the text is read again.
example : (normalize "file://[::1]//C:/x").toOption = some "file://[::1]/C:/x" ∧
    (normalize "file://[::1]/C:/x").toOption = some "file:///C:/x" := by decide +kernel

/-- The mark of the scheme stood in a segment that the path went back over: the segment is gone
    from the text, so the default scheme comes in front of it. -/
theorem not_always_again :
    ¬∀ text out, normalize text = .ok out → normalize out = .ok out := by
  intro hall
  have hout : normalize "a:/bc://.." = .ok "a:/bc:/" := ok_of_toOption (by decide +kernel)
  obtain ⟨u, hu, htext⟩ := normalize_eq_ok hout
  have hself := hall _ _ hout
  rw [htext] at hself
  have hmark := occursIn_of_self (Url.isRead_of_parse hu).withDefaultPath hself
  rw [← String.ofList_inj.1 (show String.ofList "a:/bc:/".toList = _ from htext)] at hmark
  exact absurd hmark (by decide)

end ServiceUri

end LeaseKeeper
