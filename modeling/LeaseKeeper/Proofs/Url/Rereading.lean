/-
  Reading what was written.

  A URL that was read is written, and what is written is read again.  Nothing of it is lost as far
  as its host and port are concerned (`IsRead.parse_render`): there is a host where there was one,
  the port is the same, and reading fails only where the host alone would not be read.

  The reader cuts a text into parts one after another, so the plan is to follow it:

    1. each part (user information, host, port) is followed by a character that ends it, and by
       none of its own that does (`split_append` is the one lemma about cutting, used for all of
       them);

    2. so each part is found again as it was written (`takeUserInfo_write`, `readPort_writePort`);

    3. the parts make an authority (`readAuthority_write`), and the scheme decides how much of the
       text is one (`parse_render`, then `parse_bare`, `parse_authority` and `parse_file`).

  The crux is what the writer never writes inside a part: an at sign in a host, a colon in a user
  name, a slash or a mark in either.  What was read has been percent-encoded, and `IsRead` says so
  part by part.  The host is not read again here: every statement takes as a hypothesis what
  reading the written host alone gives, since a name goes through the rules for international
  names and may come out refused.
-/
import LeaseKeeper.Proofs.Url.Reading

namespace LeaseKeeper.Url

variable {kind : SchemeKind}

/-! ## What follows an authority -/

/-- Text that may follow an authority: nothing, a path or a query or fragment.  Every part of an
    authority ends where such a text begins, whatever the scheme is. -/
def FollowsAuthority (cs : List Char) : Prop :=
  ∀ c, cs.head? = some c → c = '/' ∨ isTailMark c = true

theorem FollowsAuthority.ends {cs : List Char} (h : FollowsAuthority cs) {c : Char}
    (hc : cs.head? = some c) (kind : SchemeKind) : endsAuthority kind c = true := by
  rcases h c hc with rfl | hmark
  · rfl
  · unfold endsAuthority
    rw [hmark, Bool.or_true]

/-- A part of a text goes up to the first character that ends it.  The two conditions are on the
    characters of the part and on the first one after it, so they can be checked for each kind of
    part on its own. -/
theorem split_append {goes : Char → Bool} {part rest : List Char} (hpart : ∀ c ∈ part, goes c = true)
    (hrest : ∀ c, rest.head? = some c → goes c = false) :
    (part ++ rest).takeWhile goes = part ∧ (part ++ rest).dropWhile goes = rest := by
  rw [List.takeWhile_append_of_pos hpart, List.dropWhile_append_of_pos hpart]
  cases rest with
  | nil => exact ⟨List.append_nil _, rfl⟩
  | cons c rest =>
    have hend : ¬goes c = true := by rw [hrest c rfl]; decide
    rw [List.takeWhile_cons_of_neg hend, List.dropWhile_cons_of_neg hend, List.append_nil]
    exact ⟨rfl, rfl⟩

/-- An authority goes up to what follows it. -/
theorem split_authority {authority after : List Char}
    (hgoes : ∀ c ∈ authority, endsAuthority kind c = false) (h : FollowsAuthority after) :
    (authority ++ after).takeWhile (fun c => !endsAuthority kind c) = authority ∧
      (authority ++ after).dropWhile (fun c => !endsAuthority kind c) = after :=
  split_append (fun c hc => by rw [hgoes c hc]; rfl) fun c hc => by rw [h.ends hc kind]; rfl

/-! ## User information -/

/-- Without an at sign there is no user information.  The at sign is looked for in the authority
    only, so one in the path or the query does no harm. -/
theorem takeUserInfo_none {authority after : List Char}
    (hgoes : ∀ c ∈ authority, endsAuthority kind c = false) (hmark : '@' ∉ authority)
    (h : FollowsAuthority after) :
    takeUserInfo kind (authority ++ after) = .ok ([], authority ++ after) := by
  obtain ⟨htake, -⟩ := split_authority hgoes h
  unfold takeUserInfo
  dsimp only
  rw [htake, if_neg fun hcontains => hmark (List.contains_iff_mem.1 hcontains)]

/-- **User information goes up to its at sign**, which is the last one: what stands between it
    and the host has no at sign, so searching from the end stops there. -/
theorem takeUserInfo_some {info place after : List Char} (hne : info ≠ [])
    (hinfo : ∀ c ∈ info, endsAuthority kind c = false)
    (hplace : ∀ c ∈ place, endsAuthority kind c = false) (hmark : '@' ∉ place)
    (h : FollowsAuthority after) :
    takeUserInfo kind (info ++ '@' :: (place ++ after)) = .ok (info, place ++ after) := by
  have hgoes : ∀ c ∈ info ++ '@' :: place, endsAuthority kind c = false := by
    intro c hc
    rcases List.mem_append.1 hc with hc | hc
    · exact hinfo c hc
    · rcases List.mem_cons.1 hc with rfl | hc
      · -- the at sign itself does not end an authority, for any kind of scheme
        cases kind <;> rfl
      · exact hplace c hc
  have hjoin : info ++ '@' :: (place ++ after) = (info ++ '@' :: place) ++ after := by
    rw [List.append_assoc, List.cons_append]
  obtain ⟨htake, hdrop⟩ := split_authority hgoes h
  have hcontains : (info ++ '@' :: place).contains '@' = true :=
    List.contains_iff_mem.2 (List.mem_append_right _ (List.mem_cons_self ..))
  -- from the end: the host is passed as a whole, and the at sign stops the search
  have hhost : ((info ++ '@' :: place).reverse.takeWhile (· != '@')).reverse = place := by
    have hall : ∀ c ∈ place.reverse, (c != '@') = true := by
      intro c hc
      exact bne_iff_ne.2 fun heq => hmark (heq ▸ List.mem_reverse.1 hc)
    rw [List.reverse_append, List.reverse_cons, List.append_assoc, List.singleton_append,
      List.takeWhile_append_of_pos hall, List.takeWhile_cons_of_neg (by decide), List.append_nil,
      List.reverse_reverse]
  have hlength : (info ++ '@' :: place).length - place.length - 1 = info.length := by
    rw [List.length_append, List.length_cons]
    omega
  -- an empty name before an empty host would be refused; here there is a name
  have hsome : ¬(info.isEmpty = true ∧ place.isEmpty = true ∧ (!after.isEmpty) = true) :=
    fun hall => hne (List.isEmpty_iff.1 hall.1)
  unfold takeUserInfo
  dsimp only
  rw [hjoin, htake, hdrop, if_pos hcontains, hhost, hlength, List.take_left, if_neg hsome]

/-! ## Ports -/

/-- The number that decimal digits spell. -/
theorem foldl_digits (digits : List Char) :
    digits.foldl (fun n c => n * 10 + (c.toNat - '0'.toNat)) 0 = Nat.ofDigitChars 10 digits 0 := by
  unfold Nat.ofDigitChars
  simp only [Nat.mul_comm]

/-- **A port is read back.**  The digits of a port spell its number, which is below 65536, and
    the path or mark that follows is no digit. -/
theorem takePort_toDigits (p : UInt16) {after : List Char} (h : FollowsAuthority after) :
    takePort (Nat.toDigits 10 p.toNat ++ after) = .ok (some p, after) := by
  have hp : p.toNat < 65536 := p.toNat_lt
  have hends : ∀ c, after.head? = some c → c.isDigit = false ∧
      (c == '/' || c == '\\' || isTailMark c) = true := by
    intro c hc
    rcases h c hc with rfl | hmark
    · decide
    · refine ⟨?_, by rw [hmark, Bool.or_true]⟩
      rcases Bool.or_eq_true_iff.1 hmark with hc | hc <;> rw [eq_of_beq hc] <;> decide
  obtain ⟨htake, hdrop⟩ := split_append (fun c hc => isDigit_of_mem_toDigits hc)
    fun c hc => (hends c hc).1
  have hvalue : (Nat.toDigits 10 p.toNat).foldl (fun n c => n * 10 + (c.toNat - '0'.toNat)) 0 =
      p.toNat := by
    rw [foldl_digits]
    exact Nat.ofDigitChars_toDigits (by decide) (by decide)
  have hsome : (Nat.toDigits 10 p.toNat).isEmpty = false := by
    rw [List.isEmpty_eq_false_iff]
    exact Nat.toDigits_ne_nil
  unfold takePort
  dsimp only
  rw [htake, hdrop, hvalue, hsome, UInt16.ofNat_toNat]
  refine if_neg fun hbad => ?_
  rcases Bool.or_eq_true_iff.1 hbad with hlarge | hgoes
  · -- the number fits, because it was a port
    exact absurd (of_decide_eq_true hlarge) (by omega)
  · -- what follows the digits ends the authority
    cases after with
    | nil => cases hgoes
    | cons c rest =>
      have hgoes : (!(c == '/' || c == '\\' || isTailMark c)) = true := hgoes
      rw [(hends c rfl).2] at hgoes
      cases hgoes

/-! ## Authorities -/

/-- The port of a URL, with its colon. -/
def writePort : Option UInt16 → List Char
  | none => []
  | some p => ':' :: Nat.toDigits 10 p.toNat

/-- A port is read back where it was written: after a host, with its colon.  With no port
    written, what follows the host begins with no colon. -/
theorem readPort_writePort {host : Host} {port : Option UInt16} {after : List Char}
    (hplace : port ≠ none → host ≠ .absent) (h : FollowsAuthority after) :
    readPort host (writePort port ++ after) = .ok (port, after) := by
  cases port with
  | none =>
    unfold readPort
    split
    · rename_i rest heq
      rcases h ':' (by rw [show after = ':' :: rest from heq]; rfl) with hslash | hmark
      · cases hslash
      · cases hmark
    · rfl
  | some p =>
    exact (if_neg (hplace (Option.some_ne_none p))).trans (takePort_toDigits p h)

/-- A character of a user name or password does not end an authority. -/
theorem goesOn_of_not_inUserInfo {c : Char} (h : inUserInfo c = false) (kind : SchemeKind) :
    endsAuthority kind c = false := by
  have hset : c ≠ '/' ∧ c ≠ '\\' ∧ isTailMark c = false := by
    simp only [inUserInfo, inPath, Bool.or_eq_false_iff, beq_eq_false_iff_ne] at h
    simp only [isTailMark, Bool.or_eq_false_iff, beq_eq_false_iff_ne]
    tauto
  obtain ⟨hslash, hbackslash, htail⟩ := hset
  unfold endsAuthority SchemeKind.isSlash
  rw [beq_eq_false_iff_ne.2 hslash, beq_eq_false_iff_ne.2 hbackslash, htail, Bool.and_false]
  rfl

namespace IsRead

variable {u : Url}

/-- User information does not end its authority. -/
theorem goesOn_writeUserInfo (h : u.IsRead) :
    ∀ c ∈ u.writeUserInfo, endsAuthority u.kind c = false := by
  intro c hc
  rcases mem_writeUserInfo hc with hc | rfl | hc | rfl
  · -- a character of the name
    exact goesOn_of_not_inUserInfo (h.username c hc) u.kind
  · -- the colon between name and password
    cases u.kind <;> rfl
  · -- a character of the password
    exact goesOn_of_not_inUserInfo (h.password c hc) u.kind
  · -- the at sign
    cases u.kind <;> rfl

/-- The text of user information, without its at sign.  Name and password come apart at the first
    colon, and a colon inside the name was encoded when it was read; encoding what is encoded
    already changes nothing. -/
theorem readUserInfo_write (h : u.IsRead) :
    readUserInfo (u.username.toList ++ (if u.password = "" then [] else ':' :: u.password.toList)) =
      (u.username, u.password) := by
  have hself : ∀ s : String, (∀ c ∈ s.toList, inUserInfo c = false) →
      String.ofList (percentEncode inUserInfo s.toList) = s := fun s hs => by
    rw [percentEncode_self hs, String.ofList_toList]
  have hname : ∀ c ∈ u.username.toList, (c != ':') = true := by
    intro c hc
    refine bne_iff_ne.2 ?_
    rintro rfl
    exact absurd (h.username ':' hc) (by decide)
  unfold readUserInfo
  dsimp only
  split
  · -- no password, and no colon: the whole text is the name
    rename_i hnone
    have hend : ∀ c, ([] : List Char).head? = some c → (c != ':') = false := nofun
    obtain ⟨htake, hdrop⟩ := split_append hname hend
    rw [htake, hdrop, hself _ h.username, hnone]
    rfl
  · -- a password: the name goes up to the colon
    have hcolon : ∀ c, (':' :: u.password.toList).head? = some c → (c != ':') = false := by
      intro c hc
      cases hc
      rfl
    obtain ⟨htake, hdrop⟩ := split_append hname hcolon
    rw [htake, hdrop, hself _ h.username, List.tail_cons, hself _ h.password]

/-- **User information is read back.**  The writer leaves it out where name and password are both
    empty; that is the case without an at sign. -/
theorem takeUserInfo_write (h : u.IsRead) {place after : List Char}
    (hplace : ∀ c ∈ place, Host.InAuthority u.kind c) (hafter : FollowsAuthority after) :
    ∃ info, takeUserInfo u.kind (u.writeUserInfo ++ (place ++ after)) = .ok (info, place ++ after) ∧
      readUserInfo info = (u.username, u.password) := by
  have hgoes : ∀ c ∈ place, endsAuthority u.kind c = false := fun c hc => (hplace c hc).goesOn
  have hmark : '@' ∉ place := fun hc => (hplace '@' hc).noMark rfl
  by_cases hnone : u.username = "" ∧ u.password = ""
  · -- nothing written, and nothing found
    refine ⟨[], ?_, Prod.ext hnone.1.symm hnone.2.symm⟩
    rw [writeUserInfo, if_pos hnone, List.nil_append]
    exact takeUserInfo_none hgoes hmark hafter
  · -- the text up to the at sign
    generalize hinfo : u.username.toList ++
      (if u.password = "" then [] else ':' :: u.password.toList) = info
    have hwrite : u.writeUserInfo = info ++ ['@'] := by rw [writeUserInfo, if_neg hnone, hinfo]
    have hne : info ≠ [] := by
      rintro rfl
      obtain ⟨hname, hpass⟩ := List.append_eq_nil_iff.1 hinfo
      refine hnone ⟨String.toList_eq_nil_iff.1 hname, ?_⟩
      by_contra hsome
      rw [if_neg hsome] at hpass
      cases hpass
    have hall : ∀ c ∈ info, endsAuthority u.kind c = false := fun c hc =>
      h.goesOn_writeUserInfo c (by rw [hwrite]; exact List.mem_append_left _ hc)
    refine ⟨info, ?_, hinfo ▸ h.readUserInfo_write⟩
    rw [hwrite, List.append_assoc, List.singleton_append]
    exact takeUserInfo_some hne hall hgoes hmark hafter

end IsRead

/-- The characters of a written host and its port: none of them ends an authority, and none is an
    at sign. -/
theorem inAuthority_place {host : Host} (h : host.IsRead kind) (port : Option UInt16) :
    ∀ c ∈ host.write ++ writePort port, Host.InAuthority kind c := by
  intro c hc
  rcases List.mem_append.1 hc with hc | hc
  · exact h.inAuthority c hc
  · cases port with
    | none => cases hc
    | some p =>
      rcases List.mem_cons.1 hc with rfl | hc
      · cases kind <;> decide
      · have hdigit : (hexValue? c).isSome = true := by
          rw [hexValue?, if_pos (isDigit_of_mem_toDigits hc)]
          rfl
        exact (Host.inName_of_hex hdigit kind).1.1

/-- A host ends at its port, or at what follows the authority. -/
theorem endsHost_writePort (port : Option UInt16) {after : List Char} (h : FollowsAuthority after) :
    Host.EndsHost kind (writePort port ++ after) := by
  rintro c rest heq
  cases port with
  | none =>
    rw [h.ends (show after.head? = some c by rw [show after = c :: rest from heq]; rfl) kind]
    rfl
  | some p =>
    obtain ⟨rfl, -⟩ := List.cons.inj heq
    exact Bool.or_true _

/-- Once user information and host are found, the rest of an authority follows.  This is the
    reader's own text with its first two steps done, so the proofs below never open it. -/
theorem readAuthority_eq {scheme : String} {cs info place hostText after : List Char}
    (hinfo : takeUserInfo (.ofScheme scheme) cs = .ok (info, place))
    (hhost : takeHost (.ofScheme scheme) false place = (hostText, after)) :
    readAuthority scheme cs = readHost (.ofScheme scheme) hostText >>= fun host =>
      readPort host after >>= fun p =>
        if host = .absent ∧ ((readUserInfo info).1 ≠ "" ∨ (readUserInfo info).2 ≠ "") then
          .error .emptyHost
        else .ok (withAuthority scheme (readUserInfo info).1 (readUserInfo info).2 host p.1 p.2) := by
  unfold readAuthority
  simp only [hinfo, hhost, bind, Except.bind]

/-! ## Written URLs -/

section

variable {u : Url}

/-- What follows the path. -/
def writeTail (u : Url) : List Char := writeMarked '?' u.query ++ writeMarked '#' u.fragment

/-- What follows the authority. -/
def writeAfter (u : Url) : List Char :=
  u.path.write ++ (writeMarked '?' u.query ++ writeMarked '#' u.fragment)

/-- What follows the two slashes of an authority. -/
def writePlace (u : Url) (host : Host) : List Char :=
  u.writeUserInfo ++ (host.write ++ writePort u.port ++ writeAfter u)

/-- What is written after the colon of the scheme. -/
def writeBody (u : Url) : List Char :=
  u.writeAuthority ++ u.writePath ++ writeMarked '?' u.query ++ writeMarked '#' u.fragment

/-- With a host the body is an authority. -/
theorem writeBody_host {host : Host} (hhost : u.host = some host) :
    writeBody u = '/' :: '/' :: writePlace u host := by
  unfold writeBody writePlace writeAuthority writePath writePort writeAfter
  rw [hhost]
  simp only [Option.isNone_some, Bool.false_and, Bool.false_eq_true, if_false]
  cases u.port <;> simp only [List.append_assoc, List.cons_append, List.nil_append]

/-- Query and fragment begin with a mark. -/
theorem head_tail {query fragment : Option String} {c : Char}
    (h : (writeMarked '?' query ++ writeMarked '#' fragment).head? = some c) :
    isTailMark c = true := by
  cases query with
  | some q => exact Option.some.inj h ▸ rfl
  | none =>
    cases fragment with
    | some f => exact Option.some.inj h ▸ rfl
    | none => cases h

/-- Without an authority the body begins with the path. -/
theorem writeBody_eq (hhost : u.host = none) : writeBody u = u.writePath ++ writeTail u := by
  rw [writeBody, writeAuthority, hhost, List.append_assoc]
  rfl

/-- Without an authority nothing looks like one.  A path that itself begins with two slashes is
    where this could go wrong; the writer puts a dot segment in front of it, and the proof looks
    at the first two characters of the path. -/
theorem writeBody_bare (hhost : u.host = none) (rest : List Char) :
    writeBody u ≠ '/' :: '/' :: rest := by
  have htail : ∀ more, writeMarked '?' u.query ++ writeMarked '#' u.fragment ≠ '/' :: more := by
    intro more heq
    have hmark : isTailMark '/' = true := head_tail (by rw [heq]; rfl)
    cases hmark
  intro heq
  rw [writeBody_eq hhost] at heq
  unfold writePath writeTail at heq
  rw [hhost] at heq
  dsimp only at heq
  split at heq
  · -- the dot segment stands in front: a slash and a dot
    cases heq
  · rename_i hprefix
    match hpath : u.path.write with
    -- the path does not begin with two slashes, so they would have to come from what follows it
    | [] =>
      rw [hpath] at heq
      exact htail _ heq
    | [a] =>
      rw [hpath] at heq
      exact htail _ (List.cons.inj heq).2
    | a :: b :: more =>
      rw [hpath] at heq hprefix
      obtain ⟨ha, hrest⟩ := List.cons.inj heq
      obtain ⟨hb, -⟩ := List.cons.inj hrest
      exact hprefix (by rw [ha, hb]; rfl)

/-- Segments go up to query or fragment. -/
theorem goesOn_segments {segments : List String} (h : AreSegments segments) :
    ∀ c ∈ (Path.segments segments).write, isTailMark c = false := by
  intro c hc
  obtain ⟨s, hs, hc⟩ := List.mem_flatMap.1 hc
  rcases List.mem_cons.1 hc with rfl | hc
  · rfl
  · have hset := h s hs c hc
    simp only [inPath, Bool.or_eq_false_iff] at hset
    exact Bool.or_eq_false_iff.2 ⟨hset.1.1.2, hset.1.1.1.2⟩

theorem scheme_of_file (hkind : u.kind = .file) : u.scheme = "file" := by
  unfold kind SchemeKind.ofScheme at hkind
  split at hkind
  · assumption
  · split at hkind <;> cases hkind

end

namespace IsRead

variable {u : Url}

/-- The host of a URL that is no `file` URL. -/
theorem host_isRead (h : u.IsRead) {host : Host} (hhost : u.host = some host)
    (hkind : u.kind ≠ .file) : host.IsRead u.kind :=
  (h.host host hhost).resolve_right fun hfile => hkind hfile.1

/-- A path with a host in front of it is one of segments; an opaque path stands only where there
    is none. -/
theorem segments_of_host (h : u.IsRead) {host : Host} (hhost : u.host = some host) :
    ∃ segments, u.path = .segments segments ∧ AreSegments segments := by
  have hpath := h.path
  unfold PathIsRead at hpath
  split at hpath
  · rename_i segments hsegments
    exact ⟨segments, hsegments, hpath⟩
  · rw [hhost] at hpath
    cases hpath.1

theorem followsAuthority_writeAfter (h : u.IsRead) {host : Host} (hhost : u.host = some host) :
    FollowsAuthority (writeAfter u) := by
  obtain ⟨segments, hsegments, -⟩ := h.segments_of_host hhost
  intro c hc
  rw [writeAfter, hsegments] at hc
  cases segments with
  | nil => exact .inr (head_tail hc)
  | cons s rest => exact .inl (Option.some.inj hc).symm

/-- **The parts of an authority are found**: it reads as its host and its port do.  What is left
    open is how the host is read again. -/
theorem readAuthority_write (h : u.IsRead) {host : Host} (hhost : u.host = some host)
    (hkind : u.kind ≠ .file) :
      readAuthority u.scheme (writePlace u host) = readHost u.kind host.write >>= fun host =>
        readPort host (writePort u.port ++ writeAfter u) >>= fun p =>
          if host = .absent ∧ (u.username ≠ "" ∨ u.password ≠ "") then .error .emptyHost
          else .ok (withAuthority u.scheme u.username u.password host p.1 p.2) := by
  have hread := h.host_isRead hhost hkind
  have hafter := h.followsAuthority_writeAfter hhost
  obtain ⟨info, hinfo, hparts⟩ := h.takeUserInfo_write (inAuthority_place hread u.port) hafter
  have htake : takeHost u.kind false (host.write ++ writePort u.port ++ writeAfter u) =
      (host.write, writePort u.port ++ writeAfter u) := by
    rw [List.append_assoc]
    exact hread.takeHost_write (endsHost_writePort u.port hafter)
  have heq := readAuthority_eq hinfo htake
  rw [hparts] at heq
  exact heq

/-- **An authority is read back**, if its host is.  An absent host comes again only where the
    host was absent, and then there was neither user information nor a port that it could
    contradict. -/
theorem readAuthority_ok (h : u.IsRead) {host host' : Host} (hhost : u.host = some host)
    (hkind : u.kind ≠ .file) (hagain : readHost u.kind host.write = .ok host') :
    readAuthority u.scheme (writePlace u host) =
      .ok (withAuthority u.scheme u.username u.password host' u.port (writeAfter u)) := by
  have hread := h.host_isRead hhost hkind
  have hbare : host' = .absent → u.username = "" ∧ u.password = "" ∧ u.port = none := by
    intro habsent
    have hhere : u.host = some .absent := by rw [hhost, (hread.absent_iff hagain).1 habsent]
    exact h.bare (.inl (by rw [hasHost, hhere]; rfl))
  have hport : readPort host' (writePort u.port ++ writeAfter u) = .ok (u.port, writeAfter u) :=
    readPort_writePort (fun hsome habsent => hsome (hbare habsent).2.2)
      (h.followsAuthority_writeAfter hhost)
  have hplace : ¬(host' = .absent ∧ (u.username ≠ "" ∨ u.password ≠ "")) := by
    rintro ⟨habsent, hinfo⟩
    obtain ⟨hname, hpass, -⟩ := hbare habsent
    exact hinfo.elim (fun h => h hname) fun h => h hpass
  rw [h.readAuthority_write hhost hkind, hagain]
  show readPort host' (writePort u.port ++ writeAfter u) >>= _ = _
  rw [hport]
  exact if_neg hplace

/-- A port that was read is written and read as it is: it is not the default one, since reading
    dropped the default one the first time. -/
theorem port_withAuthority (h : u.IsRead) {username password : String} {host : Host}
    {cs : List Char} : (withAuthority u.scheme username password host u.port cs).port = u.port := by
  show (if u.port = defaultPort? u.scheme then none else u.port) = u.port
  split
  · rename_i hdefault
    by_contra hsome
    exact h.port (Ne.symm hsome) hdefault
  · rfl

/-! ## Whole URLs -/

/-- **Its scheme decides how a written URL is read.**  The text has nothing to trim and the
    scheme is found up to its colon, so only the three ways to read a body remain. -/
theorem parse_render (h : u.IsRead) : parse u.render = match u.kind with
    | .file => readFile (writeBody u)
    | .special => readAuthority u.scheme ((writeBody u).dropWhile (SchemeKind.isSlash .special))
    | .general => readGeneral u.scheme (writeBody u) := by
  unfold parse
  rw [h.significant_render, show u.write = u.scheme.toList ++ ':' :: writeBody u from rfl,
    h.scheme.again]
  rfl

/-- The slashes before a special authority are passed, and no more than these two: what follows
    them is not empty and begins with no slash. -/
theorem dropWhile_slashes (h : u.IsRead) {host : Host} (hhost : u.host = some host)
    (hkind : u.kind = .special) : (writeBody u).dropWhile (SchemeKind.isSlash .special) =
      writePlace u host := by
  have hread := h.host_isRead hhost (by rw [hkind]; exact nofun)
  have hne : u.writeUserInfo ++ host.write ≠ [] := fun hnil =>
    hread.write_ne_nil (by rw [hkind]; rfl) (List.append_eq_nil_iff.1 hnil).2
  obtain ⟨c, cs, hcs⟩ := List.exists_cons_of_ne_nil hne
  have hc : SchemeKind.isSlash .special c = false := by
    have hgoes : endsAuthority u.kind c = false := by
      rcases List.mem_append.1 (hcs ▸ List.mem_cons_self .. : c ∈ u.writeUserInfo ++ host.write)
        with hc | hc
      · exact h.goesOn_writeUserInfo c hc
      · exact (hread.inAuthority c hc).goesOn
    rw [hkind] at hgoes
    exact (Bool.or_eq_false_iff.1 hgoes).1
  have hsplit : writePlace u host = c :: (cs ++ writePort u.port ++ writeAfter u) := by
    rw [writePlace, ← List.append_assoc, ← List.append_assoc, hcs]
    rfl
  rw [writeBody_host hhost, hsplit]
  show (c :: _).dropWhile _ = _
  exact List.dropWhile_cons_of_neg (by rw [hc]; decide)

/-- **The host of a `file` URL is found** between its slashes and its path.  Three cuts give it:
    the tail off the body, then the host off the path; and the host is not taken for a drive,
    because no host that was read is written like one. -/
theorem readFile_write (h : u.IsRead) {host : Host} (hhost : u.host = some host)
    (hkind : u.kind = .file) : readFile (writeBody u) =
      if host.write.isEmpty then .ok (fileUrl .absent u.path.write (writeTail u))
      else Host.parse host.write >>= fun again =>
        if again = .name "localhost" then .ok (fileUrl .absent u.path.write (writeTail u))
        else .ok (fileUrl again u.path.write.tail (writeTail u)) := by
  obtain ⟨hname, hpass, hport⟩ := h.bare (.inr hkind)
  obtain ⟨segments, hsegments, hclean⟩ := h.segments_of_host hhost
  have hread : (∀ c ∈ host.write, endsAuthority .file c = false) ∧ isDrive host.write = false := by
    rcases h.host host hhost with hread | ⟨-, rfl⟩
    · rw [hkind] at hread
      exact ⟨fun c hc => (hread.inAuthority c hc).goesOn, hread.isDrive_write rfl⟩
    · exact ⟨nofun, rfl⟩
  -- neither a slash nor a mark in the host, so both cuts go past it
  have hplace : ∀ c ∈ host.write, SchemeKind.isSlash .file c = false ∧ isTailMark c = false :=
    fun c hc => Bool.or_eq_false_iff.1 (hread.1 c hc)
  have hbody : writeBody u = ('/' :: '/' :: (host.write ++ (Path.segments segments).write)) ++
      writeTail u := by
    rw [writeBody_host hhost, writePlace, writeUserInfo, if_pos ⟨hname, hpass⟩, hport, writeAfter,
      hsegments]
    simp only [writePort, writeTail, List.nil_append, List.append_nil, List.append_assoc,
      List.cons_append]
  have hgoes : ∀ c ∈ '/' :: '/' :: (host.write ++ (Path.segments segments).write),
      (!isTailMark c) = true := by
    intro c hc
    rw [List.mem_cons, List.mem_cons, List.mem_append] at hc
    rcases hc with rfl | rfl | hc | hc
    · rfl
    · rfl
    · rw [(hplace c hc).2]
      rfl
    · rw [goesOn_segments hclean c hc]
      rfl
  have hmark : ∀ c, (writeTail u).head? = some c → (!isTailMark c) = false :=
    fun c hc => by rw [head_tail hc]; rfl
  obtain ⟨htake, hdrop⟩ := split_append hgoes hmark
  have hname : ∀ c ∈ host.write, (!SchemeKind.isSlash .file c) = true :=
    fun c hc => by rw [(hplace c hc).1]; rfl
  have hslash : ∀ c, (Path.segments segments).write.head? = some c →
      (!SchemeKind.isSlash .file c) = false := by
    intro c hc
    cases segments with
    | nil => cases hc
    | cons s rest => exact Option.some.inj hc ▸ rfl
  obtain ⟨hhostText, hpath⟩ := split_append hname hslash
  rw [hbody, hsegments]
  -- both cuts are known now, and the reader computes
  unfold readFile
  dsimp only
  rw [htake, hdrop]
  dsimp only
  rw [if_pos (by rfl), hhostText, hpath, hread.2, if_neg Bool.false_ne_true]
  rfl

/-! ## Reading again -/

/-- Only a general URL has no authority. -/
theorem kind_of_bare (h : u.IsRead) (hhost : u.host = none) : u.kind = .general := by
  have hplaced := fun hspecial => h.placed hspecial hhost
  cases hkind : u.kind with
  | general => rfl
  | special => exact absurd (by rw [hkind]; rfl) hplaced
  | file => exact absurd (by rw [hkind]; rfl) hplaced

/-- Where there is no host, there is none again. -/
theorem parse_bare (h : u.IsRead) (hhost : u.host = none) :
    ∃ v, parse u.render = .ok v ∧ v.scheme = u.scheme ∧ v.host = none ∧ v.port = none := by
  have hslashes := writeBody_bare hhost
  rw [h.parse_render, h.kind_of_bare hhost]
  show ∃ v, readGeneral u.scheme (writeBody u) = .ok v ∧ _
  unfold readGeneral
  split
  · -- a body that begins with two slashes, which a body without a host does not
    rename_i rest heq
    exact absurd heq (hslashes rest)
  · exact ⟨_, rfl, rfl, rfl, rfl⟩

/-- An authority that was written, as it is met again. -/
theorem parse_authority (h : u.IsRead) {host : Host} (hhost : u.host = some host)
    (hkind : u.kind ≠ .file) : parse u.render = readAuthority u.scheme (writePlace u host) := by
  rw [h.parse_render]
  split
  · rename_i hfile
    exact absurd hfile hkind
  · rename_i hspecial
    rw [h.dropWhile_slashes hhost hspecial]
  · rw [writeBody_host hhost]
    rfl

/-- A `file` URL that was written, as it is met again.  Reading gives the empty host for an
    absent one and for `localhost`, so these come back as no host at all. -/
theorem parse_file (h : u.IsRead) {host : Host} (hhost : u.host = some host)
    (hkind : u.kind = .file) : parse u.render =
      if host = .absent then .ok (fileUrl .absent u.path.write (writeTail u))
      else readHost .file host.write >>= fun again =>
        if again = .name "localhost" then .ok (fileUrl .absent u.path.write (writeTail u))
        else .ok (fileUrl again u.path.write.tail (writeTail u)) := by
  rw [h.parse_render, hkind]
  dsimp only
  rw [h.readFile_write hhost hkind]
  rcases h.host host hhost with hread | ⟨-, rfl⟩
  · have hne : host.write ≠ [] := hread.write_ne_nil (by rw [hkind]; rfl)
    have hsome : host ≠ .absent := by
      rintro rfl
      exact hne rfl
    have hempty : ¬host.write.isEmpty = true := fun hnil => hne (List.isEmpty_iff.1 hnil)
    unfold readHost
    rw [if_neg hempty, if_neg hsome, if_pos (by rfl), if_neg hempty]
  · rfl

/-- **What was read and is written is read again**, if its host is: with the same port, and with
    a host where there was one.  In a `file` URL the last part may fail, since a host may come
    back as `localhost`, which is dropped; there is no port in it to lose. -/
theorem parse_again (h : u.IsRead)
    (hagain : ∀ host, u.host = some host → host ≠ .absent →
      ∃ again, readHost u.kind host.write = .ok again) :
    ∃ v, parse u.render = .ok v ∧ v.scheme = u.scheme ∧ v.port = u.port ∧
      (u.kind ≠ .file → v.hasHost = u.hasHost) := by
  cases hhost : u.host with
  | none =>
    -- no authority: the body is a path
    obtain ⟨v, hv, hscheme, hnone, hport⟩ := h.parse_bare hhost
    have hbare := (h.bare (.inl (by rw [hasHost, hhost]))).2.2
    exact ⟨v, hv, hscheme, hport.trans hbare.symm, fun _ => by rw [hasHost, hnone, hasHost, hhost]⟩
  | some host =>
    by_cases hkind : u.kind = .file
    -- a `file` URL: no user information and no port, and the host decides
    · have hfile := h.parse_file hhost hkind
      have hport : u.port = none := (h.bare (.inr hkind)).2.2
      have hscheme : u.scheme = "file" := scheme_of_file hkind
      have hread : ∃ v, parse u.render = .ok v ∧ v.scheme = "file" ∧ v.port = none := by
        rw [hfile]
        split
        · exact ⟨_, rfl, rfl, rfl⟩
        · rename_i hsome
          obtain ⟨again, hagain⟩ := hagain host hhost hsome
          rw [hkind] at hagain
          rw [hagain]
          dsimp only [bind, Except.bind]
          split <;> exact ⟨_, rfl, rfl, rfl⟩
      obtain ⟨v, hv, hvscheme, hvport⟩ := hread
      exact ⟨v, hv, hvscheme.trans hscheme.symm, hvport.trans hport.symm, fun hno => absurd hkind hno⟩
    · -- an authority after two slashes
      have hread := h.host_isRead hhost hkind
      have hsome : ∃ again, readHost u.kind host.write = .ok again := by
        by_cases habsent : host = .absent
        · -- the empty name is no special host, so it is read as it is written
          refine ⟨host, hread.readHost_write fun hspecial => ?_⟩
          exact absurd (by rw [habsent]; rfl) (hread.write_ne_nil hspecial)
        · exact hagain host hhost habsent
      obtain ⟨again, hsome⟩ := hsome
      refine ⟨_, (h.parse_authority hhost hkind).trans (h.readAuthority_ok hhost hkind hsome), rfl,
        h.port_withAuthority, fun _ => ?_⟩
      have habsent := hread.absent_iff hsome
      rw [hasHost, hasHost, hhost]
      show (again != .absent) = (host != .absent)
      rw [Bool.eq_iff_iff, bne_iff_ne, bne_iff_ne]
      exact not_congr habsent

/-- **What was read and is written is not read again** if its host is not: the error is the one
    of the host, since everything before the host is read without one. -/
theorem parse_error (h : u.IsRead) {host : Host} (hhost : u.host = some host)
    (hsome : host ≠ .absent) {e : UrlError} (herror : readHost u.kind host.write = .error e) :
    parse u.render = .error e := by
  by_cases hkind : u.kind = .file
  · rw [hkind] at herror
    rw [h.parse_file hhost hkind, if_neg hsome, herror]
    rfl
  · rw [h.parse_authority hhost hkind, h.readAuthority_write hhost hkind, herror]
    rfl

end IsRead

/-! ## Names alone -/

/-- **A web address that is nothing but a name** is read as the name alone.  The name is not
    ASCII, so none of its characters is a slash, a mark, a colon or an at sign; this is the form
    in which names are tried out. -/
theorem parse_http {name : List Char} (hne : name ≠ []) (hname : ∀ c ∈ name, ¬c.toNat < 0x80)
    {host : Host} (hhost : Host.parse name = .ok host) :
    parse ("http://" ++ String.ofList name) = .ok (withAuthority "http" "" "" host none []) := by
  have hprintable : ∀ c ∈ "http://".toList ++ name, Printable c := by
    have hfront : ∀ c ∈ "http://".toList, Printable c := by simp [Printable]
    intro c hc
    rcases List.mem_append.1 hc with hc | hc
    · exact hfront c hc
    · have := hname c hc
      unfold Printable
      omega
  have htext : "http://" ++ String.ofList name = String.ofList ("http://".toList ++ name) := by
    rw [String.ofList_append, String.ofList_toList]
  have hsignificant : significant (String.ofList ("http://".toList ++ name)) =
      "http://".toList ++ name :=
    (tidy_of_printable hprintable).significant (hprintable 'h' (List.mem_cons_self ..))
  have hscheme : takeScheme? ("http://".toList ++ name) = some ("http", '/' :: '/' :: name) :=
    isScheme_http.again _
  obtain ⟨c, more, rfl⟩ := List.exists_cons_of_ne_nil hne
  have hinName := fun d hd => Host.inName_of_not_ascii (hname d hd) .special
  have hslash : SchemeKind.isSlash .special c = false :=
    (Bool.or_eq_false_iff.1 (hinName c (List.mem_cons_self ..)).1.goesOn).1
  have hinfo : takeUserInfo (.ofScheme "http") (c :: more) = .ok ([], c :: more) := by
    have hnone := takeUserInfo_none (fun d hd => (hinName d hd).1.goesOn)
      (fun hd => (hinName '@' hd).1.noMark rfl) (show FollowsAuthority [] from nofun)
    rw [List.append_nil] at hnone
    exact hnone
  have htake : takeHost (.ofScheme "http") false (c :: more) = (c :: more, []) := by
    have hall := Host.takeHost_name hinName (show Host.EndsHost .special [] from nofun)
    rw [List.append_nil] at hall
    exact hall
  unfold parse
  rw [htext, hsignificant, hscheme]
  show readAuthority "http" (List.dropWhile (SchemeKind.isSlash .special) ('/' :: '/' :: c :: more)) = _
  rw [List.dropWhile_cons_of_pos rfl, List.dropWhile_cons_of_pos rfl,
    List.dropWhile_cons_of_neg (by rw [hslash]; decide), readAuthority_eq hinfo htake]
  have hread : readHost (.ofScheme "http") (c :: more) = .ok host := hhost
  rw [hread]
  exact if_neg fun hbad => hbad.2.elim (fun h => h (by decide)) fun h => h (by decide)

end LeaseKeeper.Url
