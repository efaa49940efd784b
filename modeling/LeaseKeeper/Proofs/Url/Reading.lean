/-
  What reading gives.

  The parts of a URL that was read are in written form (`IsRead`): the scheme is in small letters,
  every part has only the characters that may stand there, the host has one of the forms of a
  host, and a port is only written where there is a host and it is not the default one.  So what
  reading gives can be written and read once more.

  Control characters and tabs are nowhere in it, and the last character is no blank
  (`IsRead.significant_render`): a blank may stand in a path without hierarchy, but not at its
  end, because blanks around the text that was read do not count.

    1. Percent-encoding leaves a character out of its set, and the sets grow from one part to the
       next, so what is written is printable nearly everywhere (`outside_of_mem`).

    2. `Tidy` is what survives of that for a whole text: the last part that is there decides
       (`Tidy.append`).

    3. Each way to read a URL gives one in written form (`isRead_of_readAuthority`,
       `isRead_of_readFile`, `isRead_of_readGeneral`), and together they give `isRead_of_parse`.
       The fields of `IsRead` are what the later modules about rereading rely on; they never go
       back to the text.
-/
import LeaseKeeper.Proofs.Url.Host
import LeaseKeeper.Proofs.Url.Segments

namespace LeaseKeeper.Url

/-! ## Characters -/

/-- **What is written at a place has only the characters that may stand there**, if percent signs
    and digits may.  A character that was written is one of the text outside of the set, a
    percent sign, or a hexadecimal digit; the last are checked by the kernel, set by set. -/
theorem outside_of_mem {set : Char → Bool} (hset : set '%' = false)
    (hhex : ∀ n : Fin 128, isHexUpper (Char.ofNat n.val) = true → set (Char.ofNat n.val) = false)
    {cs : List Char} {c : Char} (h : c ∈ percentEncode set cs) : set c = false := by
  rcases mem_percentEncode h with ⟨-, hc⟩ | rfl | hc
  · exact hc
  · exact hset
  · have hall := DomainName.ascii_forall (P := fun c => isHexUpper c = true → set c = false) hhex
      (ascii_of_isHexUpper hc)
    exact hall hc

/-- A character that is neither a control character nor a blank. -/
def Printable (c : Char) : Prop := 0x20 < c.toNat

instance (c : Char) : Decidable (Printable c) := inferInstanceAs (Decidable (_ < _))

theorem printable_of_not_inControls {c : Char} (h : inControls c = false) (hblank : c ≠ ' ') :
    Printable c := by
  unfold inControls at h
  have hle := of_decide_eq_false (Bool.or_eq_false_iff.1 h).1
  have hne : c.toNat ≠ 0x20 := fun hc => hblank (Char.toNat_inj.1 hc)
  unfold Printable
  omega

theorem printable_of_not_inFragment {c : Char} (h : inFragment c = false) : Printable c := by
  simp only [inFragment, Bool.or_eq_false_iff, beq_eq_false_iff_ne] at h
  exact printable_of_not_inControls h.1.1.1.1.1 h.1.1.1.1.2

theorem printable_of_not_inQuery {c : Char} (h : inQuery c = false) : Printable c := by
  simp only [inQuery, Bool.or_eq_false_iff, beq_eq_false_iff_ne] at h
  exact printable_of_not_inControls h.1.1.1.1.1 h.1.1.1.1.2

theorem printable_of_not_inPath {c : Char} (h : inPath c = false) : Printable c := by
  simp only [inPath, Bool.or_eq_false_iff] at h
  exact printable_of_not_inFragment h.1.1.1.1

theorem printable_of_not_inUserInfo {c : Char} (h : inUserInfo c = false) : Printable c := by
  simp only [inUserInfo, Bool.or_eq_false_iff] at h
  exact printable_of_not_inPath h.1.1.1.1.1.1.1.1.1.1

/-! ## Text that counts as a whole -/

/-- Text of which every character counts when it is read: no control characters, and no blank at
    the end.  A blank inside is allowed, since only a path without hierarchy may end a text in
    one. -/
structure Tidy (cs : List Char) : Prop where
  inside : ∀ c ∈ cs, 0x20 ≤ c.toNat
  last : ∀ c, cs.getLast? = some c → Printable c

theorem tidy_of_printable {cs : List Char} (h : ∀ c ∈ cs, Printable c) : Tidy cs where
  inside c hc := Nat.le_of_lt (h c hc)
  last c hc := h c (List.mem_of_getLast? hc)

/-- What is last decides, if there is anything; otherwise what is in front of it does. -/
theorem Tidy.append {front cs : List Char} (hfront : ∀ c ∈ front, 0x20 ≤ c.toNat)
    (hend : cs = [] → Tidy front) (h : Tidy cs) : Tidy (front ++ cs) := by
  by_cases hnil : cs = []
  · rw [hnil, List.append_nil]
    exact hend hnil
  · refine ⟨fun c hc => ?_, fun c hc => h.last c ?_⟩
    · rcases List.mem_append.1 hc with hc | hc
      · exact hfront c hc
      · exact h.inside c hc
    · rwa [List.getLast?_append_of_ne_nil _ hnil] at hc

/-- Tabs and line breaks are control characters. -/
theorem isSkipped_eq_false {c : Char} (h : 0x20 ≤ c.toNat) : isSkipped c = false := by
  refine Bool.eq_false_iff.2 fun hskip => ?_
  simp only [isSkipped, Bool.or_eq_true_iff, beq_iff_eq] at hskip
  rcases hskip with (rfl | rfl) | rfl <;> exact absurd h (by decide)

/-- **Tidy text counts as a whole** if it does not begin with a blank: nothing is trimmed at
    either end, and there are no tabs and line breaks to pass over. -/
theorem Tidy.significant {c : Char} {cs : List Char} (h : Tidy (c :: cs)) (hc : Printable c) :
    Url.significant (String.ofList (c :: cs)) = c :: cs := by
  have htrimmed : ∀ d, Printable d → ¬isTrimmed d = true := fun d hd htrim =>
    Nat.not_le.2 hd (of_decide_eq_true htrim)
  have hback : (c :: cs).reverse.dropWhile isTrimmed = (c :: cs).reverse := by
    cases hrev : (c :: cs).reverse with
    | nil => rfl
    | cons d ds =>
      have hlast : (c :: cs).getLast? = some d := by rw [List.getLast?_eq_head?_reverse, hrev]; rfl
      exact List.dropWhile_cons_of_neg (htrimmed d (h.last d hlast))
  have hfilter : (c :: cs).filter (fun d => !isSkipped d) = c :: cs := by
    refine List.filter_eq_self.2 fun d hd => ?_
    rw [isSkipped_eq_false (h.inside d hd)]
    rfl
  unfold Url.significant
  rw [String.toList_ofList, List.dropWhile_cons_of_neg (htrimmed c hc), hback, List.reverse_reverse,
    hfilter]

/-- Text that counts ends in a character that is no blank.  Trimming comes before tabs and line
    breaks are dropped, so the last character that counts is the one the trimming stopped at. -/
theorem significant_last {text : String} {c : Char} (h : (significant text).getLast? = some c) :
    Printable c := by
  unfold significant at h
  rw [List.filter_reverse, List.getLast?_reverse] at h
  have hfirst := List.head?_dropWhile_not isTrimmed (text.toList.dropWhile isTrimmed).reverse
  cases hrest : (text.toList.dropWhile isTrimmed).reverse.dropWhile isTrimmed with
  -- everything was trimmed, or the trimming stopped at `d`
  | nil =>
    rw [hrest] at h
    cases h
  | cons d ds =>
    rw [hrest] at h hfirst
    have hd : Printable d := Nat.lt_of_not_le (of_decide_eq_false hfirst)
    rw [List.filter_cons_of_pos (by rw [isSkipped_eq_false (Nat.le_of_lt hd)]; rfl)] at h
    exact Option.some.inj h ▸ hd

/-! ## Schemes -/

/-- **A scheme in written form**: it is read back, whatever follows its colon.  That is all that
    reading a URL again needs of it. -/
structure IsScheme (scheme : String) : Prop where
  again : ∀ rest, takeScheme? (scheme.toList ++ ':' :: rest) = some (scheme, rest)
  printable : ∀ c ∈ scheme.toList, Printable c
  ne_nil : scheme.toList ≠ []

theorem isAlphanum_lt {c : Char} (h : c.isAlphanum = true) : c.toNat < 0x80 := by
  rcases Bool.or_eq_true_iff.1 (show (c.isAlpha || c.isDigit) = true from h) with h | h
  · rcases Bool.or_eq_true_iff.1 (show (c.isUpper || c.isLower) = true from h) with h | h
    · have hle : c ≤ 'Z' := (of_decide_eq_true h).2
      exact Nat.lt_of_le_of_lt (show c.toNat ≤ 'Z'.toNat from hle) (by decide)
    · exact DomainName.lower_lt h
  · exact DomainName.digit_lt h

/-- Writing a character of a scheme small keeps it one. -/
theorem toLower_of_isSchemeChar {c : Char} (h : isSchemeChar c = true) :
    isSchemeChar c.toLower = true ∧ c.toLower.toLower = c.toLower ∧ Printable c.toLower ∧
      (c.isAlpha = true → c.toLower.isAlpha = true) := by
  have hascii : c.toNat < 0x80 := by
    simp only [isSchemeChar, Bool.or_eq_true_iff, beq_iff_eq] at h
    rcases h with ((h | rfl) | rfl) | rfl
    · exact isAlphanum_lt h
    all_goals decide
  exact DomainName.ascii_forall (P := fun c => isSchemeChar c = true →
    isSchemeChar c.toLower = true ∧ c.toLower.toLower = c.toLower ∧ Printable c.toLower ∧
      (c.isAlpha = true → c.toLower.isAlpha = true))
    (by decide +kernel) hascii h

/-- A name in small letters is a scheme in written form: it goes up to its colon, and making it
    small once more changes nothing. -/
theorem isScheme_toLower {c : Char} {more : List Char} (halpha : c.isAlpha = true)
    (hname : ∀ d ∈ c :: more, isSchemeChar d = true) :
    IsScheme (String.ofList ((c :: more).map Char.toLower)) := by
  have hlower : ∀ d ∈ (c :: more).map Char.toLower,
      isSchemeChar d = true ∧ d.toLower = d ∧ Printable d := by
    intro d hd
    obtain ⟨a, ha, rfl⟩ := List.mem_map.1 hd
    obtain ⟨hscheme, hlower, hprintable, -⟩ := toLower_of_isSchemeChar (hname a ha)
    exact ⟨hscheme, hlower, hprintable⟩
  have hfirst : c.toLower.isAlpha = true :=
    (toLower_of_isSchemeChar (hname c (List.mem_cons_self ..))).2.2.2 halpha
  refine ⟨fun rest => ?_, fun d hd => ?_, ?_⟩
  · -- the name is cut off at its colon and is in small letters already
    have hall : ∀ d ∈ (c :: more).map Char.toLower, isSchemeChar d = true :=
      fun d hd => (hlower d hd).1
    have hdrop : ((c :: more).map Char.toLower ++ ':' :: rest).dropWhile isSchemeChar =
        ':' :: rest := by
      rw [List.dropWhile_append_of_pos hall]
      rfl
    have htake : ((c :: more).map Char.toLower ++ ':' :: rest).takeWhile isSchemeChar =
        (c :: more).map Char.toLower := by
      rw [List.takeWhile_append_of_pos hall]
      exact List.append_nil _
    have hsame : ((c :: more).map Char.toLower).map Char.toLower = (c :: more).map Char.toLower :=
      (List.map_congr_left fun d hd => (hlower d hd).2.1).trans (List.map_id _)
    rw [String.toList_ofList]
    unfold takeScheme?
    rw [hdrop, htake, hsame]
    exact if_pos hfirst
  · rw [String.toList_ofList] at hd
    exact (hlower d hd).2.2
  · rw [String.toList_ofList]
    exact List.cons_ne_nil _ _

/-- **The scheme of a text is written in small letters**, and its colon is in front of the rest.
    Where reading a scheme fails there is nothing to show: one case for each of its three checks. -/
theorem isScheme_of_takeScheme? {cs rest : List Char} {scheme : String}
    (h : takeScheme? cs = some (scheme, rest)) :
    IsScheme scheme ∧ ∃ front, cs = front ++ ':' :: rest := by
  unfold takeScheme? at h
  split at h
  · rename_i c more
    split at h
    · rename_i halpha
      split at h
      · rename_i after hafter
        obtain ⟨rfl, rfl⟩ := Prod.mk.inj (Option.some.inj h)
        have hsplit := List.takeWhile_append_dropWhile (p := isSchemeChar) (l := c :: more)
        have hc : isSchemeChar c = true := by
          unfold isSchemeChar Char.isAlphanum
          rw [halpha]
          rfl
        rw [hafter] at hsplit
        refine ⟨?_, _, hsplit.symm⟩
        rw [List.takeWhile_cons_of_pos hc]
        refine isScheme_toLower halpha fun d hd => ?_
        rw [← List.takeWhile_cons_of_pos hc] at hd
        exact List.all_eq_true.1 List.all_takeWhile d hd
      · cases h
    · cases h
  · cases h

/-! ## Paths -/

/-- **Segments in written form.**  This says nothing about points and drives; what a walk does to
    those is proved from `Descent.Adds`. -/
def AreSegments (segments : List String) : Prop :=
  ∀ s ∈ segments, ∀ c ∈ s.toList, inPath c = false

theorem areSegments_nil : AreSegments [] := fun _ hs => absurd hs List.not_mem_nil

/-- **The segments of a path that was read are in written form.** -/
theorem areSegments_descend (kind : SchemeKind) (cs : List Char) :
    AreSegments (descend kind cs).segments :=
  chars_descend (by decide) fun _ _ _ hc => outside_of_mem (by decide) (by decide +kernel) hc

theorem areSegments_takePath (kind : SchemeKind) (cs : List Char) :
    AreSegments (takePath kind cs).1.segments := by
  unfold takePath
  dsimp only
  split
  · dsimp only
    split
    · exact areSegments_descend kind _
    · exact areSegments_nil
  · exact areSegments_descend kind _

/-! ## Query and fragment -/

theorem printable_fragment {cs : List Char} {c : Char} (h : c ∈ percentEncode inFragment cs) :
    Printable c :=
  printable_of_not_inFragment (outside_of_mem (by decide) (by decide +kernel) h)

theorem printable_query {kind : SchemeKind} {cs : List Char} {c : Char}
    (h : c ∈ percentEncode (if kind.isSpecial then inSpecialQuery else inQuery) cs) :
    Printable c := by
  refine printable_of_not_inQuery ?_
  split at h
  · have hset : inSpecialQuery c = false := outside_of_mem (by decide) (by decide +kernel) h
    exact (Bool.or_eq_false_iff.1 hset).1
  · exact outside_of_mem (by decide) (by decide +kernel) h

/-- **Query and fragment have only printable characters.**  The text begins with a question mark,
    or with a hash, or with neither; a query may be followed by a fragment. -/
theorem printable_readTail (kind : SchemeKind) (cs : List Char) :
    (∀ q, (readTail kind cs).1 = some q → ∀ c ∈ q.toList, Printable c) ∧
      ∀ f, (readTail kind cs).2 = some f → ∀ c ∈ f.toList, Printable c := by
  unfold readTail
  dsimp only
  split
  · refine ⟨fun q hq c hc => ?_, fun f hf c hc => ?_⟩
    · cases hq
      rw [String.toList_ofList] at hc
      exact printable_query hc
    · dsimp only at hf
      split at hf
      · cases hf
        rw [String.toList_ofList] at hc
        exact printable_fragment hc
      · cases hf
  · refine ⟨nofun, fun f hf c hc => ?_⟩
    dsimp only at hf
    split at hf
    · cases hf
      rw [String.toList_ofList] at hc
      exact printable_fragment hc
    · cases hf

/-- A tail that says nothing is empty: one that begins with a mark has a query or a fragment, if
    only an empty one. -/
theorem tail_eq_nil {kind : SchemeKind} {cs : List Char}
    (hmark : ∀ c, cs.head? = some c → isTailMark c = true)
    (h : readTail kind cs = (none, none)) : cs = [] := by
  cases cs with
  | nil => rfl
  | cons c rest =>
    have hc := hmark c rfl
    rcases Bool.or_eq_true_iff.1 hc with hc | hc <;> rw [eq_of_beq hc] at h <;> cases h

/-! ## What was read -/

/-- **A path in written form.**  One without hierarchy ends in a blank only if something follows
    it, for then the blank was not trimmed when the URL was read. -/
def PathIsRead (u : Url) : Prop :=
  match u.path with
  | .segments list => AreSegments list
  | .rootless text => u.host = none ∧ (∀ c ∈ text.toList, 0x20 ≤ c.toNat) ∧
      (u.query = none → u.fragment = none → Tidy text.toList)

/-- **A URL whose parts are in written form.**  One field for each part, with the conditions on
    which parts can stand together. -/
structure IsRead (u : Url) : Prop where
  scheme : IsScheme u.scheme
  /-- The host of a `file` URL may be left out. -/
  host : ∀ h, u.host = some h → h.IsRead u.kind ∨ (u.kind = .file ∧ h = .absent)
  placed : u.kind.isSpecial = true → u.host ≠ none
  /-- Where there is no host there is nothing around it. -/
  bare : u.hasHost = false ∨ u.kind = .file → u.username = "" ∧ u.password = "" ∧ u.port = none
  username : ∀ c ∈ u.username.toList, inUserInfo c = false
  password : ∀ c ∈ u.password.toList, inUserInfo c = false
  /-- The default port is not written. -/
  port : u.port ≠ none → u.port ≠ defaultPort? u.scheme
  path : PathIsRead u
  query : ∀ q, u.query = some q → ∀ c ∈ q.toList, Printable c
  fragment : ∀ f, u.fragment = some f → ∀ c ∈ f.toList, Printable c

/-- The name and password of user information are in written form: they are percent-encoded on
    reading, and the empty text is too. -/
theorem inUserInfo_readUserInfo (info : List Char) :
    (∀ c ∈ (readUserInfo info).1.toList, inUserInfo c = false) ∧
      ∀ c ∈ (readUserInfo info).2.toList, inUserInfo c = false := by
  have hencoded : ∀ cs, ∀ c ∈ (String.ofList (percentEncode inUserInfo cs)).toList,
      inUserInfo c = false := by
    intro cs c hc
    rw [String.toList_ofList] at hc
    exact outside_of_mem (by decide) (by decide +kernel) hc
  exact ⟨hencoded _, hencoded _⟩

/-- Where there is no host, no port is read. -/
theorem readPort_absent {cs rest : List Char} {port : Option UInt16}
    (h : readPort .absent cs = .ok (port, rest)) : port = none := by
  unfold readPort at h
  split at h
  · cases h
  · cases h
    rfl

/-- **A URL with an authority is in written form.**  The steps of reading it give the fields one
    by one; the port needs an argument, since the default one is dropped, and so does an absent
    host, which is read only with nothing around it. -/
theorem isRead_of_readAuthority {scheme : String} {cs : List Char} {u : Url}
    (hscheme : IsScheme scheme) (hkind : SchemeKind.ofScheme scheme ≠ .file)
    (h : readAuthority scheme cs = .ok u) : u.IsRead := by
  obtain ⟨info, afterInfo, host, port, afterPort, -, hhost, hport, hbare, rfl⟩ := readAuthority_eq_ok h
  obtain ⟨husername, hpassword⟩ := inUserInfo_readUserInfo info
  have htail := printable_readTail (.ofScheme scheme) (takePath (.ofScheme scheme) afterPort).2
  refine {
    scheme := hscheme
    host := fun _ heq => .inl (Option.some.inj heq ▸ Host.isRead_of_readHost hhost)
    placed := fun _ => Option.some_ne_none _
    bare := fun hno => ?_
    username := husername
    password := hpassword
    port := fun hsome => ?_
    path := areSegments_takePath _ _
    query := htail.1
    fragment := htail.2 }
  · -- an absent host: no port was read, and user information would have been refused
    have habsent : host = .absent := by
      rcases hno with hno | hfile
      · exact bne_eq_false_iff_eq.1 hno
      · exact absurd hfile hkind
    subst habsent
    have hnone := readPort_absent hport
    subst hnone
    obtain ⟨huser, hpass⟩ := not_or.1 (not_and.1 hbare rfl)
    exact ⟨of_not_not huser, of_not_not hpass, ite_self none⟩
  · -- a port that is left is not the default one
    dsimp only [withAuthority, withTail] at hsome ⊢
    split at hsome
    · exact absurd rfl hsome
    · rename_i hport
      rw [if_neg hport]
      exact hport

theorem isScheme_file : IsScheme "file" := by
  have hfile : String.ofList (['f', 'i', 'l', 'e'].map Char.toLower) = "file" := by decide
  have hall : ['f', 'i', 'l', 'e'].all isSchemeChar = true := by decide
  exact hfile ▸ isScheme_toLower (by decide) (List.all_eq_true.1 hall)

theorem isScheme_http : IsScheme "http" := by
  have hhttp : String.ofList (['h', 't', 't', 'p'].map Char.toLower) = "http" := by decide
  have hall : ['h', 't', 't', 'p'].all isSchemeChar = true := by decide
  exact hhttp ▸ isScheme_toLower (by decide) (List.all_eq_true.1 hall)

/-- The host of a `file` URL may be `localhost` in the text, and then it is left out. -/
theorem isRead_fileUrl {host : Host} (hhost : host.IsRead .file ∨ host = .absent)
    (path tail : List Char) : (fileUrl host path tail).IsRead := by
  have htail := printable_readTail .file tail
  exact {
    scheme := isScheme_file
    host := fun h heq => by
      rw [← Option.some.inj heq]
      split
      · exact .inr ⟨rfl, rfl⟩
      · exact hhost.imp_right fun habsent => ⟨rfl, habsent⟩
    placed := fun _ => Option.some_ne_none _
    bare := fun _ => ⟨rfl, rfl, rfl⟩
    username := fun c hc => absurd hc List.not_mem_nil
    password := fun c hc => absurd hc List.not_mem_nil
    port := fun hsome => absurd rfl hsome
    path := areSegments_descend _ _
    query := htail.1
    fragment := htail.2 }

/-- The ways in which a `file` URL comes to its host: after two slashes there may be nothing, a
    drive, or a name; after one slash or none there is no host. -/
theorem isRead_of_readFile {cs : List Char} {u : Url} (h : readFile cs = .ok u) : u.IsRead := by
  unfold readFile at h
  dsimp only at h
  split at h
  · split at h
    · split at h
      · cases h
        exact isRead_fileUrl (.inr rfl) _ _
      · split at h
        · cases h
          exact isRead_fileUrl (.inr rfl) _ _
        · obtain ⟨host, hhost, h⟩ := bind_eq_ok h
          split at h
          · cases h
            exact isRead_fileUrl (.inr rfl) _ _
          · cases h
            exact isRead_fileUrl (.inl (Host.isRead_of_parse rfl hhost)) _ _
    · split at h <;> cases h <;> exact isRead_fileUrl (.inr rfl) _ _
  · cases h
    exact isRead_fileUrl (.inr rfl) _ _
  · cases h
    exact isRead_fileUrl (.inr rfl) _ _

/-- Something is written for every character. -/
theorem percentChar_ne_nil (set : Char → Bool) (c : Char) : percentChar set c ≠ [] := by
  unfold percentChar
  split
  · cases hbytes : String.utf8EncodeChar c with
    | nil => exact absurd hbytes String.utf8EncodeChar_ne_nil
    | cons b bytes => exact List.cons_ne_nil _ _
  · exact List.cons_ne_nil _ _

/-- The text of a path without hierarchy has no control characters. -/
theorem inside_rootless {body : List Char} {c : Char} (h : c ∈ percentEncode inControls body) :
    0x20 ≤ c.toNat := by
  have hout : inControls c = false := outside_of_mem (by decide) (by decide +kernel) h
  exact Nat.le_of_not_lt (of_decide_eq_false (Bool.or_eq_false_iff.1 hout).1)

/-- **The text of a path without hierarchy** ends in a blank only if the text that is read does.
    The last character is written last, as itself or as percent signs and digits. -/
theorem tidy_rootless {body : List Char} (hlast : ∀ c, body.getLast? = some c → Printable c) :
    Tidy (percentEncode inControls body) := by
  rcases List.eq_nil_or_concat' body with rfl | ⟨front, d, rfl⟩
  · exact tidy_of_printable nofun
  · have hd : Printable d := hlast d List.getLast?_concat
    have hsplit : percentEncode inControls (front ++ [d]) =
        percentEncode inControls front ++ percentEncode inControls [d] := List.flatMap_append
    rw [hsplit]
    refine Tidy.append (fun c hc => inside_rootless hc) (fun hnil => ?_)
      (tidy_of_printable fun c hc => ?_)
    · exact absurd (List.append_eq_nil_iff.1 hnil).1 (percentChar_ne_nil inControls d)
    · rcases mem_percentEncode hc with ⟨hmem, -⟩ | rfl | hhex
      -- what is written of the last character
      · rwa [List.mem_singleton.1 hmem]
      · decide
      · exact DomainName.ascii_forall (P := fun c => isHexUpper c = true → Printable c)
          (by decide +kernel) (ascii_of_isHexUpper hhex) hhex

/-- The path of a URL without authority: its text goes up to query or fragment.  The blank at its
    end is excluded only where there is neither, for then the text of the path is the end of the
    whole text. -/
theorem pathIsRead_general {u : Url} {scheme : String} {body tail : List Char}
    (hu : u = withTail { scheme, host := none, path := match body with
      | '/' :: rest => .segments (descend .general rest).segments
      | _ => .rootless (String.ofList (percentEncode inControls body)) } tail)
    (hmark : ∀ c, tail.head? = some c → isTailMark c = true)
    (hlast : ∀ c, (body ++ tail).getLast? = some c → Printable c) : PathIsRead u := by
  subst hu
  split
  · exact areSegments_descend _ _
  · refine ⟨rfl, ?_, fun hquery hfragment => ?_⟩
    · rw [String.toList_ofList]
      exact fun c hc => inside_rootless hc
    · rw [String.toList_ofList]
      have hnone : tail = [] := tail_eq_nil hmark (Prod.ext hquery hfragment)
      rw [hnone, List.append_nil] at hlast
      exact tidy_rootless hlast

/-- **A URL of a general scheme is in written form**, if the text it is read from ends in a
    character that is no blank.  With two slashes it is read as an authority; without, it has a
    path and no host. -/
theorem isRead_of_readGeneral {scheme : String} {cs : List Char} {u : Url}
    (hscheme : IsScheme scheme) (hkind : SchemeKind.ofScheme scheme = .general)
    (hlast : ∀ c, cs.getLast? = some c → Printable c)
    (h : readGeneral scheme cs = .ok u) : u.IsRead := by
  unfold readGeneral at h
  split at h
  · exact isRead_of_readAuthority hscheme (by rw [hkind]; exact nofun) h
  · cases h
    have htail := printable_readTail (.ofScheme scheme) (cs.dropWhile fun c => !isTailMark c)
    have hmark : ∀ c, (cs.dropWhile fun c => !isTailMark c).head? = some c → isTailMark c = true := by
      intro c hc
      have hfirst := List.head?_dropWhile_not (fun c => !isTailMark c) cs
      rw [hc] at hfirst
      exact Bool.not_eq_eq_eq_not.1 hfirst
    exact {
      scheme := hscheme
      host := nofun
      placed := fun hspecial => absurd hspecial (by
        show (SchemeKind.ofScheme scheme).isSpecial ≠ true
        rw [hkind]
        exact nofun)
      bare := fun _ => ⟨rfl, rfl, rfl⟩
      username := fun c hc => absurd hc List.not_mem_nil
      password := fun c hc => absurd hc List.not_mem_nil
      port := fun hsome => absurd rfl hsome
      path := pathIsRead_general rfl hmark (by rwa [List.takeWhile_append_dropWhile])
      query := htail.1
      fragment := htail.2 }

/-- **What is read is in written form.**  One case for each kind of scheme.  Only a general URL
    needs the end of the text: that the scheme and its colon are in front does not change the
    last character. -/
theorem isRead_of_parse {text : String} {u : Url} (h : parse text = .ok u) : u.IsRead := by
  unfold parse at h
  split at h
  · cases h
  · rename_i scheme cs htake
    obtain ⟨hscheme, front, hsplit⟩ := isScheme_of_takeScheme? htake
    split at h
    · exact isRead_of_readFile h
    · rename_i hkind
      exact isRead_of_readAuthority hscheme (by rw [hkind]; exact nofun) h
    · rename_i hkind
      refine isRead_of_readGeneral hscheme hkind (fun c hc => ?_) h
      have hlast : (significant text).getLast? = some c := by
        rw [hsplit, List.getLast?_append, List.getLast?_cons, hc]
        rfl
      exact significant_last hlast

/-! ## What is written of it -/

theorem printable_of_digit {c : Char} (h : c.isDigit = true) : Printable c :=
  DomainName.ascii_forall (P := fun c => c.isDigit = true → Printable c) (by decide +kernel)
    (DomainName.digit_lt h) h

/-- A part with its mark is there if the part is. -/
theorem writeMarked_eq_nil {mark : Char} {part : Option String} (h : writeMarked mark part = []) :
    part = none := by
  cases part with
  | none => rfl
  | some s => cases h

theorem printable_writeMarked {mark : Char} (hmark : Printable mark) {part : Option String}
    (hpart : ∀ s, part = some s → ∀ c ∈ s.toList, Printable c) :
    ∀ c ∈ writeMarked mark part, Printable c := by
  intro c hc
  cases part with
  | none => cases hc
  | some s =>
    rcases List.mem_cons.1 hc with rfl | hc
    · exact hmark
    · exact hpart s rfl c hc

/-- The characters of user information, with its marks. -/
theorem mem_writeUserInfo {u : Url} {c : Char} (h : c ∈ u.writeUserInfo) :
    c ∈ u.username.toList ∨ c = ':' ∨ c ∈ u.password.toList ∨ c = '@' := by
  unfold writeUserInfo at h
  split at h
  · cases h
  · split at h <;> simp only [List.mem_append, List.mem_cons, List.not_mem_nil, or_false] at h <;>
      tauto

/-- The characters of segments, with the slashes between them. -/
theorem AreSegments.printable {segments : List String}
    (h : AreSegments segments) : ∀ c ∈ (Path.segments segments).write, Printable c := by
  intro c hc
  obtain ⟨s, hs, hc⟩ := List.mem_flatMap.1 hc
  rcases List.mem_cons.1 hc with rfl | hc
  · decide
  · exact printable_of_not_inPath (h s hs c hc)

namespace IsRead

variable {u : Url}

theorem printable_writeUserInfo (h : u.IsRead) : ∀ c ∈ u.writeUserInfo, Printable c := by
  intro c hc
  rcases mem_writeUserInfo hc with hc | rfl | hc | rfl
  · exact printable_of_not_inUserInfo (h.username c hc)
  · decide
  · exact printable_of_not_inUserInfo (h.password c hc)
  · decide

theorem printable_writeAuthority (h : u.IsRead) : ∀ c ∈ u.writeAuthority, Printable c := by
  intro c hc
  unfold writeAuthority at hc
  split at hc
  · cases hc
  · rename_i host hhost
    rcases List.mem_append.1 hc with hc | hc
    · rcases List.mem_append.1 hc with hc | hc
      · rcases List.mem_append.1 hc with hc | hc
        · rcases List.mem_pair.1 hc with rfl | rfl <;> decide
        · exact h.printable_writeUserInfo c hc
      · rcases h.host host hhost with hread | ⟨-, rfl⟩
        · exact (hread.inAuthority c hc).printable
        · cases hc
    · split at hc
      · cases hc
      · rcases List.mem_cons.1 hc with rfl | hc
        · decide
        · exact printable_of_digit (isDigit_of_mem_toDigits hc)

/-- **The path of a URL that was read counts as a whole**, if nothing follows it.  Segments
    always do, and a path without hierarchy does by what `PathIsRead` says of it. -/
theorem tidy_path (h : u.IsRead) : (∀ c ∈ u.path.write, 0x20 ≤ c.toNat) ∧
    (u.query = none → u.fragment = none → Tidy u.path.write) := by
  have hpath := h.path
  unfold PathIsRead at hpath
  split at hpath
  · rename_i segments hsegments
    rw [hsegments]
    have htidy := tidy_of_printable hpath.printable
    exact ⟨htidy.inside, fun _ _ => htidy⟩
  · rename_i text htext
    rw [htext]
    exact hpath.2

theorem tidy_writePath (h : u.IsRead) : (∀ c ∈ u.writePath, 0x20 ≤ c.toNat) ∧
    (u.query = none → u.fragment = none → Tidy u.writePath) := by
  obtain ⟨hinside, htidy⟩ := h.tidy_path
  have hpoint : Tidy ['/', '.'] := tidy_of_printable fun c hc => by
    rcases List.mem_pair.1 hc with rfl | rfl <;> decide
  unfold writePath
  dsimp only
  split
  · -- a point is written before the path
    refine ⟨fun c hc => ?_, fun hquery hfragment => ?_⟩
    · rcases List.mem_append.1 (show c ∈ ['/', '.'] ++ u.path.write from hc) with hc | hc
      · exact hpoint.inside c hc
      · exact hinside c hc
    · exact Tidy.append hpoint.inside (fun _ => hpoint) (htidy hquery hfragment)
  · exact ⟨hinside, htidy⟩

/-- **The text of a URL that was read counts as a whole.**  It is cut in three: what is in front
    of the path, the path, and what follows it.  The last of these that is not empty decides how
    the text ends. -/
theorem tidy_write (h : u.IsRead) : Tidy u.write := by
  have hfront : ∀ c ∈ u.scheme.toList ++ ':' :: u.writeAuthority, Printable c := by
    intro c hc
    rcases List.mem_append.1 hc with hc | hc
    · exact h.scheme.printable c hc
    · rcases List.mem_cons.1 hc with rfl | hc
      · decide
      · exact h.printable_writeAuthority c hc
  have htail : ∀ c ∈ writeMarked '?' u.query ++ writeMarked '#' u.fragment, Printable c := by
    intro c hc
    rcases List.mem_append.1 hc with hc | hc
    · exact printable_writeMarked (by decide) h.query c hc
    · exact printable_writeMarked (by decide) h.fragment c hc
  obtain ⟨hinside, hpath⟩ := h.tidy_writePath
  have hsplit : u.write = (u.scheme.toList ++ ':' :: u.writeAuthority) ++ u.writePath ++
      (writeMarked '?' u.query ++ writeMarked '#' u.fragment) := by
    unfold write
    simp only [List.append_assoc, List.cons_append]
  rw [hsplit]
  refine Tidy.append (fun c hc => ?_) (fun hnil => ?_) (tidy_of_printable htail)
  -- the front is printable, and so is what follows the path if there is any
  · rcases List.mem_append.1 hc with hc | hc
    · exact Nat.le_of_lt (hfront c hc)
    · exact hinside c hc
  · obtain ⟨hquery, hfragment⟩ := List.append_eq_nil_iff.1 hnil
    exact Tidy.append (tidy_of_printable hfront).inside (fun _ => tidy_of_printable hfront)
      (hpath (writeMarked_eq_nil hquery) (writeMarked_eq_nil hfragment))

/-- **A URL that was read counts as a whole when it is read again.**  Its text is tidy and begins
    with the first letter of its scheme, so nothing is trimmed and nothing is passed over. -/
theorem significant_render (h : u.IsRead) : significant u.render = u.write := by
  have htidy := h.tidy_write
  obtain ⟨c, cs, hcs⟩ := List.exists_cons_of_ne_nil h.scheme.ne_nil
  have hwrite : ∃ rest, u.write = c :: rest := ⟨_, by rw [write, hcs]; rfl⟩
  obtain ⟨rest, hrest⟩ := hwrite
  rw [render, hrest]
  rw [hrest] at htidy
  exact htidy.significant (h.scheme.printable c (hcs ▸ List.mem_cons_self ..))

end IsRead

end LeaseKeeper.Url
