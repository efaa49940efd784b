/-
  Which URLs their texts stand for.

  A URL that was read is written, and its text is read again.  What comes of it has the same
  parts, with three exceptions that are all there are (`IsParsed.parse_self_iff`): a host with the
  mark of Punycode may be read as another one or not at all, instructions behind a drive are
  followed, and a drive at the front of a path behind a host is met.

  Two URLs of which one was read from the text of the other have the same text only if they are
  the same (`IsParsed.eq_of_render`).

    1. WHAT READING MAKES (`IsParsed`) is all that is known of a URL that was read: its parts are
       in written form, its path was walked, and a `file` URL does not name the local host.
    2. WHAT IS READ AGAIN is worked out for each form of a URL by itself: without an authority
       nothing changes (`parse_bare`), with one only the host may (`parse_authority_eq`), and in a
       `file` URL host and path may (`parse_file_eq`).
    3. WHEN IT IS THE SAME follows by comparing these parts, one lemma for each form, which
       `parse_self_iff` puts together.
    4. THE TEXT DECIDES: scheme and user information are the same anyway, and what follows them
       goes up to a slash and from it on, so host and path can be told from the text
       (`parts_of_render`).
-/
import LeaseKeeper.Proofs.Url.Drives

namespace LeaseKeeper.Url

/-! ## What reading makes -/

/-- **A URL as reading makes it.**  The first three fields are about any URL, the last two about
    those of scheme `file`, whose reader does more than others: it leaves out the local host, and
    follows no instruction behind a drive. -/
structure IsParsed (u : Url) : Prop where
  read : u.IsRead
  walked : PathIsWalked u
  tail : IsTail u.kind u.query u.fragment
  /-- The local host is not named in a `file` URL. -/
  remote : u.kind = .file → u.host ≠ some (.name "localhost")
  front : u.kind = .file → ∀ segments, u.path = .segments segments →
    (∀ s ∈ segments, IsName s) ∨ OnDrive segments

/-- The local host is left out: the host of a `file` URL is the one that it is given, or the
    absent one where a drive was met. -/
theorem remote_fileUrl {host : Host} (hhost : host ≠ .name "localhost") (path tail : List Char) :
    (fileUrl host path tail).host ≠ some (.name "localhost") := by
  show some (if (descend .file path).dropsHost then Host.absent else host) ≠ _
  intro h
  have hlocal := Option.some.inj h
  split at hlocal
  · exact absurd hlocal (by decide)
  · exact hhost hlocal

/-- A `file` URL does not name the local host.  In most cases there is no host at all; where one
    is read, the local one is replaced by the absent one. -/
theorem remote_of_readFile {cs : List Char} {u : Url} (h : readFile cs = .ok u) :
    u.host ≠ some (.name "localhost") := by
  have habsent : ∀ path tail, (fileUrl .absent path tail).host ≠ some (.name "localhost") :=
    remote_fileUrl (by decide)
  unfold readFile at h
  dsimp only at h
  split at h
  · -- two slashes
    split at h
    · -- followed by a drive, or by a host
      split at h
      · cases h
        exact habsent _ _
      · split at h
        · cases h
          exact habsent _ _
        · obtain ⟨host, -, h⟩ := bind_eq_ok h
          split at h
          · cases h
            exact habsent _ _
          · rename_i hhost
            cases h
            exact remote_fileUrl hhost _ _
    · -- one slash
      split at h <;> cases h <;> exact habsent _ _
  · -- another character
    cases h
    exact habsent _ _
  · -- nothing at all
    cases h
    exact habsent _ _

/-- **Every URL that is read is made so.**  The first three fields hold of every URL; the other
    two are asked of `file` URLs only, and these come from their own reader (`hfile`). -/
theorem isParsed_of_parse {text : String} {u : Url} (h : parse text = .ok u) : u.IsParsed := by
  have hfile : u.kind = .file → ∃ cs, readFile cs = .ok u := by
    intro hkind
    unfold parse at h
    split at h
    · cases h
    · split at h
      · exact ⟨_, h⟩
      · rename_i hspecial
        rw [kind, readAuthority_scheme h, hspecial] at hkind
        cases hkind
      · rename_i hgeneral
        rw [kind, readGeneral_scheme h, hgeneral] at hkind
        cases hkind
  refine ⟨isRead_of_parse h, pathIsWalked_of_parse h, isTail_of_parse h, fun hkind => ?_, ?_⟩
  · obtain ⟨cs, hcs⟩ := hfile hkind
    exact remote_of_readFile hcs
  · intro hkind segments hpath
    obtain ⟨cs, hcs⟩ := hfile hkind
    obtain ⟨host, path, tail, rfl⟩ := readFile_eq hcs
    cases hpath
    exact (named_or_onDrive .file path).imp_right And.right

/-! ## The parts of a text -/

/-- Segments are seen in the text of their path: no slash is in a segment, so splitting the text
    at the slashes gives the segments back. -/
theorem segments_inj {kind : SchemeKind} {segments segments' : List String}
    (h : ∀ s ∈ segments, ∀ c ∈ s.toList, kind.isSlash c = false)
    (h' : ∀ s ∈ segments', ∀ c ∈ s.toList, kind.isSlash c = false)
    (hsame : (Path.segments segments).write = (Path.segments segments').write) :
    segments = segments' := by
  cases segments with
  | nil =>
    cases segments' with
    | nil => rfl
    | cons => cases hsame
  | cons s more =>
    cases segments' with
    | nil => cases hsame
    | cons s' more' =>
      have hrest : s.toList ++ (Path.segments more).write = s'.toList ++ (Path.segments more').write :=
        (List.cons.inj hsame).2
      have hsplit := congrArg (splitSlashes kind) hrest
      rw [splitSlashes_write h, splitSlashes_write h'] at hsplit
      exact List.map_injective_iff.2 (fun _ _ => String.toList_inj.1) hsplit

/-- **Host and path are seen in a text**: nothing in front of the path is a slash, and the path
    begins with one.  So the place of the slash tells where host and port end. -/
theorem parts_of_render {u : Url} {host host' : Host} {path : Path} (hhost : u.host = some host)
    (hslash : ∀ c ∈ host.write ++ writePort u.port, c ≠ '/')
    (hslash' : ∀ c ∈ host'.write ++ writePort u.port, c ≠ '/')
    (hpath : u.path.write.head? = some '/') (hpath' : path.write.head? = some '/')
    (h : ({ u with host := some host', path } : Url).render = u.render) :
    host'.write = host.write ∧ path.write = u.path.write := by
  have hwrite := String.ofList_inj.1 h
  -- behind the scheme and the user information, which are the same, host and port go up to a slash
  have hbody : writeBody { u with host := some host', path } = writeBody u :=
    (List.cons.inj (List.append_cancel_left hwrite)).2
  rw [writeBody_host hhost, writeBody_host rfl] at hbody
  have hplace : u.writeUserInfo ++ (host'.write ++ writePort u.port ++ (path.write ++ writeTail u)) =
      u.writeUserInfo ++ (host.write ++ writePort u.port ++ (u.path.write ++ writeTail u)) :=
    (List.cons.inj (List.cons.inj hbody).2).2
  have hplace := List.append_cancel_left hplace
  have hstop : ∀ path : Path, path.write.head? = some '/' →
      ∀ c, (path.write ++ writeTail u).head? = some c → (c != '/') = false := by
    intro path hpath c hc
    obtain ⟨rest, hrest⟩ := List.head?_eq_some_iff.1 hpath
    rw [hrest] at hc
    cases hc
    rfl
  obtain ⟨htake, hdrop⟩ := split_append (fun c hc => bne_iff_ne.2 (hslash c hc)) (hstop u.path hpath)
  obtain ⟨htake', hdrop'⟩ := split_append (fun c hc => bne_iff_ne.2 (hslash' c hc)) (hstop path hpath')
  rw [hplace, htake] at htake'
  rw [hplace, hdrop] at hdrop'
  exact ⟨(List.append_cancel_right htake').symm, (List.append_cancel_right hdrop').symm⟩

/-! ## Reading a text again -/

/-- **A URL that stays the same** when its text is read.  The three fields are the three
    exceptions, each asked only of the URLs that it concerns. -/
structure IsFaithful (u : Url) : Prop where
  /-- The host is the one that is read, which is a question only for names with the mark of Punycode. -/
  host : ∀ host, u.host = some host → u.kind.isSpecial = true → host.IsMarked →
    readHost u.kind host.write = .ok host
  /-- Nothing in the path of a `file` URL is an instruction. -/
  names : u.kind = .file → ∀ segments, u.path = .segments segments → ∀ s ∈ segments, IsName s
  /-- No drive begins the path behind a host. -/
  front : u.kind = .file → u.hasHost = true → ∀ s more, u.path = .segments (s :: more) →
    ¬BeginsDrive s.toList

namespace IsParsed

variable {u w : Url} {host : Host}

/-- A URL without authority is read as itself: path, query and fragment are read back, and it has
    no other parts. -/
theorem parse_bare (h : u.IsParsed) (hnontrivial : u.path.isTrivial = false)
    (hhost : u.host = none) :
    parse u.render = .ok u := by
  obtain ⟨husername, hpassword, hport⟩ := h.read.bare (.inl (by rw [hasHost, hhost]))
  have hu : ({
      scheme := u.scheme
      host := none
      path := u.path
      query := u.query
      fragment := u.fragment } : Url) = u := by
    cases u
    dsimp only at husername hpassword hport hhost
    rw [husername, hpassword, hport, hhost]
  -- what is read back has no user information and no port, and neither has the URL
  rw [h.read.parse_bare_again h.walked hnontrivial hhost]
  refine congrArg Except.ok ?_
  calc withTail { scheme := u.scheme, host := none, path := u.path } (writeTail u)
      = withTail {
          scheme := u.scheme
          host := none
          path := u.path
          query := u.query
          fragment := u.fragment } (writeTail u) := rfl
    _ = withTail u (writeTail u) := by rw [hu]
    _ = u := withTail_self h.tail

/-- The host and the path of a `file` URL are all that reading may change. -/
theorem fileUrl_write (h : u.IsParsed) (hkind : u.kind = .file) (host : Host) (path : List Char) :
    fileUrl host path (writeTail u) = { u with
      host := some (if (descend .file path).dropsHost then .absent else host)
      path := .segments (descend .file path).segments } := by
  obtain ⟨husername, hpassword, hport⟩ := h.read.bare (.inr hkind)
  have hscheme : u.scheme = "file" := scheme_of_file hkind
  have htail := h.tail.readTail_write
  rw [hkind] at htail
  have hall : ∀ host path, withTail { scheme := "file", host, path } (writeTail u) =
      { u with host, path } := by
    intro host path
    show ({
      scheme := "file", host, path
      query := (readTail .file (writeTail u)).1
      fragment := (readTail .file (writeTail u)).2 } : Url) = _
    rw [writeTail, htail]
    cases u
    dsimp only at husername hpassword hport hscheme
    rw [husername, hpassword, hport, hscheme]
  exact hall _ _

/-- What is read of an authority differs in its host, if at all; and nothing is read if the host
    is not. -/
theorem parse_authority_eq (h : u.IsParsed) (hnontrivial : u.path.isTrivial = false)
    (hhost : u.host = some host) (hkind : u.kind ≠ .file) : parse u.render =
      readHost u.kind host.write >>= fun again => .ok { u with host := some again } := by
  cases hagain : readHost u.kind host.write with
  | error e =>
    rw [h.read.parse_authority hhost hkind, h.read.readAuthority_write hhost hkind, hagain]
    rfl
  | ok again =>
    have htail : IsTail ({ u with host := some again } : Url).kind u.query u.fragment := h.tail
    rw [h.read.parse_authority_again h.walked (segments_ne_nil hnontrivial) hhost hkind hagain]
    exact congrArg Except.ok (withTail_self htail)

/-- What is read of a `file` URL differs in host and path, if at all.  Without a host the path is
    walked from its first slash on, with one from behind it; and the host goes where a drive is
    met. -/
theorem parse_file_eq (h : u.IsParsed) (hhost : u.host = some host) (hkind : u.kind = .file) :
    parse u.render =
      let root := descend .file u.path.write
      let front := descend .file u.path.write.tail
      if host = .absent then .ok { u with host := some .absent, path := .segments root.segments }
      else readHost .file host.write >>= fun again =>
        if again = .name "localhost" then
          .ok { u with host := some .absent, path := .segments root.segments }
        else .ok { u with
          host := some (if front.dropsHost then .absent else again)
          path := .segments front.segments } := by
  rw [h.read.parse_file hhost hkind]
  simp only [h.fileUrl_write hkind, ite_self]

/-- The segments of a `file` URL. There is at least one, they were walked and do not begin with
    empty ones, and they are names unless there is a drive. -/
theorem segments_of_file (h : u.IsParsed) (hnontrivial : u.path.isTrivial = false)
    (hhost : u.host = some host) (hkind : u.kind = .file) : ∃ s more,
      u.path = .segments (s :: more) ∧ Walked .file (s :: more) ∧ Grounded .file (s :: more) ∧
        ((∀ t ∈ s :: more, IsName t) ∨ OnDrive (s :: more)) := by
  obtain ⟨segments, hpath, -⟩ := h.read.segments_of_host hhost
  obtain ⟨s, more, rfl⟩ := List.exists_cons_of_ne_nil fun hnil : segments = [] =>
    segments_ne_nil hnontrivial (hnil ▸ hpath)
  have hwalked := h.walked
  rw [PathIsWalked, hpath, hkind] at hwalked
  exact ⟨s, more, hpath, hwalked.1, hwalked.2, h.front hkind _ hpath⟩

/-- A URL with another host and another path is the same if both are. -/
theorem same_iff {host' : Option Host} {path : Path} :
    ({ u with host := host', path } : Url) = u ↔ host' = u.host ∧ path = u.path := by
  constructor
  · intro h
    exact ⟨congrArg Url.host h, congrArg Url.path h⟩
  · rintro ⟨rfl, rfl⟩
    rfl

/-- An authority is read as itself exactly if its host is. -/
theorem parse_self_authority (h : u.IsParsed) (hnontrivial : u.path.isTrivial = false)
    (hhost : u.host = some host) (hkind : u.kind ≠ .file) :
    parse u.render = .ok u ↔ readHost u.kind host.write = .ok host := by
  rw [h.parse_authority_eq hnontrivial hhost hkind]
  constructor
  · intro hself
    obtain ⟨again, hagain, hself⟩ := bind_eq_ok hself
    have hsame := (same_iff.1 (Except.ok.inj hself)).1
    rw [hhost] at hsame
    rw [hagain, Option.some.inj hsame]
  · intro hagain
    rw [hagain]
    exact congrArg Except.ok (same_iff.2 ⟨hhost.symm, rfl⟩)

/-- A `file` URL without a host is read as itself exactly if its path consists of names: there is
    no host to lose, and walking the path once more changes it only where an instruction is left. -/
theorem parse_self_root (h : u.IsParsed) (hnontrivial : u.path.isTrivial = false)
    (hhost : u.host = some .absent) (hkind : u.kind = .file) {segments : List String}
    (hpath : u.path = .segments segments) :
    parse u.render = .ok u ↔ ∀ s ∈ segments, IsName s := by
  obtain ⟨s, more, hpath', hwalked, hground, hplace⟩ := h.segments_of_file hnontrivial hhost hkind
  obtain rfl : segments = s :: more := Path.segments.inj (hpath.symm.trans hpath')
  rw [h.parse_file_eq hhost hkind]
  dsimp only
  rw [if_pos rfl, Except.ok.injEq, same_iff, hhost, and_iff_right rfl, hpath, Path.segments.injEq]
  exact descend_root_iff hwalked hground (List.cons_ne_nil _ _) hplace

/-- A `file` URL with a host is read as itself exactly if its host is, and its path consists of names
    and begins at no drive. -/
theorem parse_self_front (h : u.IsParsed) (hnontrivial : u.path.isTrivial = false)
    (hhost : u.host = some host) (hkind : u.kind = .file) (hsome : host ≠ .absent) {s : String}
    {more : List String} (hpath : u.path = .segments (s :: more)) :
    parse u.render = .ok u ↔ readHost .file host.write = .ok host ∧
      (∀ t ∈ s :: more, IsName t) ∧ ¬BeginsDrive s.toList := by
  obtain ⟨s', more', hpath', hwalked, hground, hplace⟩ := h.segments_of_file hnontrivial hhost hkind
  obtain ⟨rfl, rfl⟩ := List.cons.inj (Path.segments.inj (hpath.symm.trans hpath'))
  have hfront : descend .file u.path.write.tail =
      descend .file (s.toList ++ (Path.segments more).write) := by
    rw [hpath]
    rfl
  rw [h.parse_file_eq hhost hkind, hfront, ← descend_front_iff hwalked hground hplace]
  dsimp only
  rw [if_neg hsome]
  generalize descend .file (s.toList ++ (Path.segments more).write) = front
  constructor
  · -- what is read is the same, so its host is there and no drive was met
    intro hself
    obtain ⟨again, hagain, hself⟩ := bind_eq_ok hself
    split at hself
    · -- the local host was left out, but the URL has a host
      have hsame := (same_iff.1 (Except.ok.inj hself)).1
      rw [hhost] at hsame
      exact absurd (Option.some.inj hsame).symm hsome
    · -- so the host is the one that was read, and the path is the one that was walked
      obtain ⟨hsame, hwalk⟩ := same_iff.1 (Except.ok.inj hself)
      rw [hhost] at hsame
      rw [hpath] at hwalk
      have hsame := Option.some.inj hsame
      cases hdrops : front.dropsHost with
      | true =>
        rw [hdrops, if_pos rfl] at hsame
        exact absurd hsame.symm hsome
      | false =>
        rw [hdrops, if_neg Bool.false_ne_true] at hsame
        exact ⟨hsame ▸ hagain, rfl, Path.segments.inj hwalk⟩
  · -- the host is read and kept, and so is the path
    rintro ⟨hagain, hdrops, hwalk⟩
    have hremote : host ≠ .name "localhost" := by
      rintro rfl
      exact h.remote hkind hhost
    rw [hagain]
    show (if host = .name "localhost" then _ else _) = Except.ok u
    rw [if_neg hremote, hdrops, hwalk]
    exact congrArg Except.ok (same_iff.2 ⟨hhost.symm, hpath.symm⟩)

/-- A host is read as itself, if it is not marked or that is known of it: only of marked hosts is
    it a question. -/
theorem readHost_self_iff (hread : host.IsRead u.kind) :
    readHost u.kind host.write = .ok host ↔ (u.kind.isSpecial = true → host.IsMarked →
      readHost u.kind host.write = .ok host) := by
  refine ⟨fun h _ _ => h, fun h => ?_⟩
  by_cases hmarked : u.kind.isSpecial = true ∧ host.IsMarked
  · exact h hmarked.1 hmarked.2
  · exact hread.readHost_write fun hspecial hmark => hmarked ⟨hspecial, hmark⟩

/-- A `file` URL is read as itself exactly if it stays the same.  Without a host two of the three
    fields ask for nothing. -/
theorem parse_self_file (h : u.IsParsed) (hnontrivial : u.path.isTrivial = false)
    (hhost : u.host = some host) (hkind : u.kind = .file) :
    parse u.render = .ok u ↔ u.IsFaithful := by
  obtain ⟨s, more, hpath, -⟩ := h.segments_of_file hnontrivial hhost hkind
  by_cases habsent : host = .absent
  · subst habsent
    rw [h.parse_self_root hnontrivial hhost hkind hpath]
    constructor
    · intro hnames
      refine ⟨fun other hother _ hmarked => ?_, fun _ segments hsegments => ?_, fun _ hsome => ?_⟩
      · rw [← Option.some.inj (hhost.symm.trans hother)] at hmarked
        exact absurd hmarked Host.not_isMarked_absent
      · exact Path.segments.inj (hpath.symm.trans hsegments) ▸ hnames
      · rw [hasHost, hhost] at hsome
        exact absurd rfl (bne_iff_ne.1 hsome)
    · exact fun hfaithful => hfaithful.names hkind _ hpath
  · rw [h.parse_self_front hnontrivial hhost hkind habsent hpath]
    constructor
    · rintro ⟨hagain, hnames, hdrive⟩
      refine ⟨fun other hother _ _ => ?_, fun _ segments hsegments => ?_, fun _ _ t rest ht => ?_⟩
      · rw [hkind, ← Option.some.inj (hhost.symm.trans hother)]
        exact hagain
      · exact Path.segments.inj (hpath.symm.trans hsegments) ▸ hnames
      · obtain ⟨rfl, -⟩ := List.cons.inj (Path.segments.inj (hpath.symm.trans ht))
        exact hdrive
    · intro hfaithful
      have hread := (h.read.host host hhost).resolve_right fun hfile => habsent hfile.2
      have hagain := (readHost_self_iff hread).2 (hfaithful.host host hhost)
      have hsome : u.hasHost = true := by
        rw [hasHost, hhost]
        exact bne_iff_ne.2 habsent
      rw [hkind] at hagain
      exact ⟨hagain, hfaithful.names hkind _ hpath, hfaithful.front hkind hsome s more hpath⟩

/-- **A URL is read as itself** exactly if it stays the same: one case for each form.  Without an
    authority both sides hold; elsewhere the parts that could have changed are those that
    `IsFaithful` is about. -/
theorem parse_self_iff (h : u.IsParsed) (hnontrivial : u.path.isTrivial = false) :
    parse u.render = .ok u ↔ u.IsFaithful := by
  cases hhost : u.host with
  | none =>
    have hgeneral := h.read.kind_of_bare hhost
    have hfile : u.kind ≠ .file := by rw [hgeneral]; exact nofun
    exact iff_of_true (h.parse_bare hnontrivial hhost) ⟨fun host h => (nomatch hhost.symm.trans h),
      fun hkind => absurd hkind hfile, fun hkind => absurd hkind hfile⟩
  | some host =>
    -- with an authority, where only a marked host may change, or a `file` URL
    by_cases hkind : u.kind = .file
    · exact h.parse_self_file hnontrivial hhost hkind
    · rw [h.parse_self_authority hnontrivial hhost hkind,
        readHost_self_iff (h.read.host_isRead hhost hkind)]
      constructor
      · intro hkept
        refine ⟨fun other hother => ?_, fun hfile => absurd hfile hkind, fun hfile => absurd hfile hkind⟩
        rw [← Option.some.inj (hhost.symm.trans hother)]
        exact hkept
      · exact fun hfaithful => hfaithful.host host hhost

/-- Nothing in front of the path of a URL is a slash. -/
theorem not_slash_place (hread : host.IsRead u.kind) (port : Option UInt16) :
    ∀ c ∈ host.write ++ writePort port, c ≠ '/' := by
  rintro c hc rfl
  have hgoes := (inAuthority_place hread port '/' hc).goesOn
  cases hgoes

/-- A host whose small letters are written in the same way is in small letters. -/
theorem small_of_write (h : host.small.write = host.write) : host.small = host := by
  cases host with
  | name text => exact congrArg Host.name (String.toList_inj.1 h)
  | ipv4 | ipv6 => rfl

/-- A host that is written in the same way is the same: of special hosts at most the size of
    letters could have changed, and that is seen in the text. -/
theorem again_of_write (hread : host.IsRead u.kind) {again : Host}
    (hagain : readHost u.kind host.write = .ok again) (h : again.write = host.write) :
    again = host := by
  by_cases hspecial : u.kind.isSpecial = true
  · obtain rfl := hread.eq_small hspecial hagain
    exact small_of_write h
  · rw [hread.readHost_write fun h => absurd h hspecial] at hagain
    exact (Except.ok.inj hagain).symm

/-- What is read of a `file` URL, in parts: whichever way it was read, its path is one that was
    walked, and its host is absent or was read from the text of the host. -/
theorem parts_of_file (h : u.IsParsed) (hhost : u.host = some host) (hkind : u.kind = .file)
    (hw : parse u.render = .ok w) : ∃ host' s more,
      w = { u with host := some host', path := .segments (s :: more) } ∧ Walked .file (s :: more) ∧
        (host' = .absent ∨ (host ≠ .absent ∧ readHost .file host.write = .ok host')) := by
  -- a walk leaves at least one segment, if only an empty one
  have hdescend : ∀ cs, ∃ s more, (descend .file cs).segments = s :: more ∧
      Walked .file (s :: more) := by
    intro cs
    have hne : (descend .file cs).segments ≠ [] := by
      show dropEmptyFront .file _ ≠ []
      unfold dropEmptyFront
      rw [if_pos rfl]
      split
      · exact List.cons_ne_nil _ _
      · rename_i hne
        exact hne
    obtain ⟨s, more, hsegments⟩ := List.exists_cons_of_ne_nil hne
    exact ⟨s, more, hsegments, hsegments ▸ walked_descend .file cs⟩
  obtain ⟨s, more, hroot, hrootWalked⟩ := hdescend u.path.write
  obtain ⟨t, rest, hfront, hfrontWalked⟩ := hdescend u.path.write.tail
  rw [h.parse_file_eq hhost hkind] at hw
  dsimp only at hw
  rw [hroot, hfront] at hw
  split at hw
  · -- without a host
    exact ⟨_, s, more, (Except.ok.inj hw).symm, hrootWalked, .inl rfl⟩
  · rename_i hsome
    obtain ⟨again, hagain, hw⟩ := bind_eq_ok hw
    split at hw
    · -- with the local host
      exact ⟨_, s, more, (Except.ok.inj hw).symm, hrootWalked, .inl rfl⟩
    · -- with another host, which a drive may have taken away
      refine ⟨_, t, rest, (Except.ok.inj hw).symm, hfrontWalked, ?_⟩
      split
      · exact .inl rfl
      · exact .inr ⟨hsome, hagain⟩

/-- **What is read of a URL has its text** only if it is the same.  The text shows the host and
    the path.  Hosts are compared by `again_of_write`, and paths segment by segment, since both
    were walked. -/
theorem eq_of_render (h : u.IsParsed) (hnontrivial : u.path.isTrivial = false)
    (hw : parse u.render = .ok w) (hsame : w.render = u.render) : w = u := by
  cases hhost : u.host with
  | none =>
    rw [h.parse_bare hnontrivial hhost] at hw
    exact (Except.ok.inj hw).symm
  | some host =>
    by_cases hkind : u.kind = .file
    · -- a `file` URL, which has no port, and may have no host
      obtain ⟨s, more, hpath, hwalked, -⟩ := h.segments_of_file hnontrivial hhost hkind
      obtain ⟨host', t, rest, rfl, hwalked', hplace⟩ := h.parts_of_file hhost hkind hw
      have hport : u.port = none := (h.read.bare (.inr hkind)).2.2
      have hslash : ∀ host : Host, host.IsRead u.kind ∨ host = .absent →
          ∀ c ∈ host.write ++ writePort u.port, c ≠ '/' := by
        rintro host (hread | rfl)
        · exact not_slash_place hread u.port
        · rw [hport]
          exact nofun
      have hread' : host'.IsRead u.kind ∨ host' = .absent :=
        hplace.symm.imp_left fun hagain => hkind ▸ Host.isRead_of_readHost hagain.2
      obtain ⟨hwrite, hsegments⟩ := parts_of_render hhost
        (hslash host ((h.read.host host hhost).imp_right And.right)) (hslash host' hread')
        (by rw [hpath]; rfl) rfl hsame
      rw [hpath] at hsegments
      refine same_iff.2 ⟨?_, ?_⟩
      · rw [hhost]
        rcases hplace with rfl | ⟨hsome, hagain⟩
        · -- the host is gone, so it was not written, and there was none
          rcases h.read.host host hhost with hread | ⟨-, rfl⟩
          · exact absurd hwrite.symm (hread.write_ne_nil (by rw [hkind]; rfl))
          · rfl
        · -- the host was read from its text, and has the same text
          have hread := (h.read.host host hhost).resolve_right fun hfile => hsome hfile.2
          rw [← hkind] at hagain
          rw [again_of_write hread hagain hwrite]
      · rw [hpath, segments_inj hwalked'.whole hwalked.whole hsegments]
    · -- another authority, in which only the host can differ
      have hread := h.read.host_isRead hhost hkind
      rw [h.parse_authority_eq hnontrivial hhost hkind] at hw
      obtain ⟨again, hagain, hw⟩ := bind_eq_ok hw
      cases hw
      obtain ⟨segments, hpath, -⟩ := h.read.segments_of_host hhost
      have hhead : u.path.write.head? = some '/' := by
        rw [hpath]
        cases segments with
        | nil => exact absurd hpath (segments_ne_nil hnontrivial)
        | cons => rfl
      have hagainRead : again.IsRead u.kind := Host.isRead_of_readHost hagain
      have hparts := parts_of_render hhost (not_slash_place hread u.port)
        (not_slash_place hagainRead u.port) hhead hhead hsame
      exact same_iff.2 ⟨by rw [again_of_write hread hagain hparts.1, hhost], rfl⟩

end IsParsed

end LeaseKeeper.Url
