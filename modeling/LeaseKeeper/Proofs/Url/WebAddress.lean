/-
  Web addresses are read back as they are.

  When a special URL is read, its path is walked to the end: what is left are segments that are no
  instructions and hold no slash of either kind (`IsSettled`).  Query and fragment hold nothing
  that would end them (`IsTail`).  So when the URL is written and read once more, every part is
  found where it was, and nothing is left to be done to it; only the host is now in small letters
  (`IsWeb.parse_render`).

  The host is the part that can fail: whether its written form is read again is not known here and
  stands as a hypothesis.  Everything else is decided by which characters each part can hold, so
  the crux of each half is a set of characters: what is written of a query holds no `#`, and what
  is written of a segment holds no slash and is neither `.` nor `..` in any spelling.

  This says nothing of URLs with a scheme that is not special, nor of `file:` URLs: in these a
  drive letter may stand where a segment would, and a path may be no list of segments at all.
-/
import LeaseKeeper.Proofs.Url.Walking

namespace LeaseKeeper.Url

/-! ## Segments that stay -/

/-- **A segment that walking leaves as it is**, and that is written as it is. -/
structure IsSettled (s : String) : Prop where
  written : ∀ c ∈ s.toList, inPath c = false
  whole : ∀ c ∈ s.toList, SchemeKind.isSlash .special c = false
  stays : isSingleDot s.toList = false
  down : isDoubleDot s.toList = false

/-- A special path has no drive letters, so that case of `Walked` falls away, and what is left
    speaks of each segment by itself. -/
theorem settled_of_walked {segments : List String} (h : Walked .special segments) :
    ∀ s ∈ segments, IsSettled s := by
  have hnames := h.names.resolve nofun
  exact fun s hs => ⟨h.written s hs, h.whole s hs, (hnames s hs).1, (hnames s hs).2⟩

/-- And the other way: there is nothing more to a walked path. -/
theorem walked_of_settled {segments : List String} (h : ∀ s ∈ segments, IsSettled s) :
    Walked .special segments where
  written s hs := (h s hs).written
  whole s hs := (h s hs).whole
  names := .inl fun s hs => ⟨(h s hs).stays, (h s hs).down⟩

/-- The last step of a walk leaves a segment. -/
theorem Descent.Adds.ne_nil {kind : SchemeKind} {segments after : List String} {s : List Char}
    (hadds : Adds kind segments s true after) : after ≠ [] := by
  cases hadds with
  | up => exact List.append_ne_nil_of_right_ne_nil _ (List.cons_ne_nil _ _)
  | stay => exact List.append_ne_nil_of_right_ne_nil _ (List.cons_ne_nil _ _)
  | drive => exact List.cons_ne_nil _ _
  | name => exact List.append_ne_nil_of_right_ne_nil _ (List.cons_ne_nil _ _)

/-- So does a whole walk: induction on the pieces. -/
theorem addAll_ne_nil {kind : SchemeKind} {pieces : List (List Char)} (hne : pieces ≠ [])
    (d : Descent) : (d.addAll kind pieces).segments ≠ [] := by
  induction pieces generalizing d with
  | nil => exact absurd rfl hne
  | cons s rest ih =>
    cases rest with
    | nil => exact (d.add_adds kind s true).ne_nil
    | cons s' rest => exact ih (List.cons_ne_nil _ _) (d.add kind s false)

/-- **The path of a special URL is settled**, and it is not empty. -/
theorem settled_takePath (cs : List Char) : (∀ s ∈ (takePath .special cs).1.segments, IsSettled s) ∧
    (takePath .special cs).1.segments ≠ [] := by
  -- Splitting gives at least one piece, if only an empty one.
  have hsome : ∀ cs, (descend .special cs).segments ≠ [] := fun cs =>
    addAll_ne_nil (fun hnil => List.splitOnP_ne_nil _ _ (List.map_eq_nil_iff.1 hnil)) _
  refine ⟨settled_of_walked (walked_takePath .special cs), ?_⟩
  unfold takePath
  dsimp only
  -- With a slash in front or without one.
  split
  · exact hsome []
  · exact hsome _

/-! ## Query and fragment -/

/-- The set of the query of a URL. -/
def querySet (kind : SchemeKind) : Char → Bool := if kind.isSpecial then inSpecialQuery else inQuery

/-- **A query and a fragment in written form.** -/
structure IsTail (kind : SchemeKind) (query fragment : Option String) : Prop where
  query : ∀ q, query = some q → ∀ c ∈ q.toList, querySet kind c = false
  fragment : ∀ f, fragment = some f → ∀ c ∈ f.toList, inFragment c = false

/-- Which of the two sets it is depends on the kind alone; the facts about characters below are
    decided for each of them. -/
theorem querySet_cases (kind : SchemeKind) :
    querySet kind = inSpecialQuery ∨ querySet kind = inQuery := by
  cases kind
  · exact .inl rfl
  · exact .inl rfl
  · exact .inr rfl

section

variable {kind : SchemeKind} {query fragment : Option String}

/-- **Query and fragment are read back.**  The query ends at the first `#`, which the query
    itself cannot hold, and the fragment ends with the text. -/
theorem IsTail.readTail_write (h : IsTail kind query fragment) :
    readTail kind (writeMarked '?' query ++ writeMarked '#' fragment) = (query, fragment) := by
  have hwritten : ∀ f, fragment = some f →
      String.ofList (percentEncode inFragment f.toList) = f := fun f hf => by
    rw [percentEncode_self (h.fragment f hf), String.ofList_toList]
  cases query with
  | none =>
    cases fragment with
    | none => rfl
    | some f => exact congrArg (fun f => (none, some f)) (hwritten f rfl)
  | some q =>
    -- The mark of the fragment is in both sets of the query, so a written query does not hold it.
    have hmark : querySet kind '#' = true := by
      rcases querySet_cases kind with hset | hset <;> rw [hset] <;> decide
    have hgoes : ∀ c ∈ q.toList, (c != '#') = true := by
      intro c hc
      refine bne_iff_ne.2 ?_
      rintro rfl
      rw [h.query q rfl '#' hc] at hmark
      cases hmark
    -- What follows the query is the mark of the fragment, or nothing.
    have hstop : ∀ c, (writeMarked '#' fragment).head? = some c → (c != '#') = false := by
      intro c hc
      cases fragment with
      | none => cases hc
      | some f =>
        cases hc
        rfl
    obtain ⟨htake, hdrop⟩ := split_append hgoes hstop
    have hself : String.ofList (percentEncode (querySet kind) q.toList) = q := by
      rw [percentEncode_self (h.query q rfl), String.ofList_toList]
    rw [show writeMarked '?' (some q) = '?' :: q.toList from rfl, List.cons_append]
    unfold readTail
    dsimp only
    split
    · rename_i rest heq
      obtain ⟨-, rfl⟩ := List.cons.inj heq
      rw [htake, hdrop, show (if kind.isSpecial = true then inSpecialQuery else inQuery) =
        querySet kind from rfl, hself]
      cases fragment with
      | none => rfl
      | some f => exact congrArg (fun f => (some q, some f)) (hwritten f rfl)
    -- The text does start with the mark of a query.
    · rename_i hno
      exact absurd rfl (hno _)

/-- **What is read as query and fragment** is in written form, whatever the text was: reading
    encodes what is in the set. -/
theorem isTail_readTail (kind : SchemeKind) (cs : List Char) :
    IsTail kind (readTail kind cs).1 (readTail kind cs).2 := by
  have hquery : ∀ text, ∀ c ∈ (String.ofList (percentEncode (querySet kind) text)).toList,
      querySet kind c = false := fun text c hc => by
    rw [String.toList_ofList] at hc
    rcases querySet_cases kind with hset | hset <;> rw [hset] at hc ⊢ <;>
      exact outside_of_mem (by decide) (by decide +kernel) hc
  have hfragment : ∀ text, ∀ c ∈ (String.ofList (percentEncode inFragment text)).toList,
      inFragment c = false := fun text c hc => by
    rw [String.toList_ofList] at hc
    exact outside_of_mem (by decide) (by decide +kernel) hc
  unfold readTail
  dsimp only
  split
  · -- A query, and then perhaps a fragment.
    refine ⟨fun q hq => Option.some.inj hq ▸ hquery _, fun f hf => ?_⟩
    dsimp only at hf
    split at hf
    · exact Option.some.inj hf ▸ hfragment _
    · cases hf
  · -- No query.
    refine ⟨nofun, fun f hf => ?_⟩
    dsimp only at hf
    split at hf
    · exact Option.some.inj hf ▸ hfragment _
    · cases hf

end

/-- It takes nothing but the kind from the URL before. -/
theorem isTail_withTail (u : Url) (cs : List Char) :
    IsTail (withTail u cs).kind (withTail u cs).query (withTail u cs).fragment :=
  isTail_readTail u.kind cs

/-- **Every URL that is read** has such a query and fragment.  There are four ways to read one,
    by its scheme and by what follows it; each of them ends by reading these two. -/
theorem isTail_of_parse {text : String} {u : Url} (h : parse text = .ok u) :
    IsTail u.kind u.query u.fragment := by
  have hauthority : ∀ {scheme cs}, readAuthority scheme cs = .ok u →
      IsTail u.kind u.query u.fragment := by
    intro scheme cs h
    obtain ⟨_, _, _, _, _, -, -, -, -, rfl⟩ := readAuthority_eq_ok h
    exact isTail_withTail _ _
  unfold parse at h
  split at h
  · cases h
  · split at h
    · -- A `file:` URL.
      obtain ⟨host, path, tail, rfl⟩ := readFile_eq h
      exact isTail_withTail _ _
    · -- A special URL, which has an authority.
      exact hauthority h
    · unfold readGeneral at h
      split at h
      · -- Two slashes: an authority.
        exact hauthority h
      · -- Anything else is a path.
        cases h
        exact isTail_withTail _ _

/-- **A URL is found again** if all but its query and fragment is. -/
theorem withTail_self {u : Url} (h : IsTail u.kind u.query u.fragment) :
    withTail u (writeTail u) = u := by
  unfold withTail writeTail
  rw [h.readTail_write]

/-! ## Whole addresses -/

/-- **A web address that was read**: a special URL of which every part stays what it is. -/
structure IsWeb (u : Url) : Prop where
  read : u.IsRead
  special : u.kind = .special
  path : ∃ segments, u.path = .segments segments ∧ segments ≠ [] ∧ ∀ s ∈ segments, IsSettled s
  query : ∀ q, u.query = some q → ∀ c ∈ q.toList, inSpecialQuery c = false
  fragment : ∀ f, u.fragment = some f → ∀ c ∈ f.toList, inFragment c = false

/-- **What is read for a special scheme is a web address.** -/
theorem isWeb_of_parse {text : String} {u : Url} (h : parse text = .ok u)
    (hkind : u.kind = .special) : u.IsWeb := by
  have hread := isRead_of_parse h
  have hscheme : SchemeKind.ofScheme u.scheme = .special := hkind
  obtain ⟨cs, -, hauthority⟩ := parse_special h hkind
  obtain ⟨_, _, _, _, afterPort, -, -, -, -, hu⟩ := readAuthority_eq_ok hauthority
  have hpath := settled_takePath afterPort
  have htail := isTail_of_parse h
  rw [← hscheme] at hpath
  rw [hkind] at htail
  exact {
    read := hread
    special := hkind
    path := ⟨_, congrArg Url.path hu, hpath.2, hpath.1⟩
    query := htail.query
    fragment := htail.fragment }

/-- **A web address is read back as it is**, if its host is read again; the host is then in small
    letters.  The lemma for all URLs with an authority leaves query and fragment to be read, and
    these are found again by `withTail_self`. -/
theorem IsWeb.parse_render {u : Url} (h : u.IsWeb) {host again : Host} (hhost : u.host = some host)
    (hagain : readHost u.kind host.write = .ok again) :
    parse u.render = .ok { u with host := some host.small } := by
  have hfile : u.kind ≠ .file := by rw [h.special]; decide
  have hsmall : again = host.small :=
    (h.read.host_isRead hhost hfile).eq_small (by rw [h.special]; rfl) hagain
  obtain ⟨segments, hpath, hne, hsettled⟩ := h.path
  have hwalked : PathIsWalked u := by
    rw [PathIsWalked, hpath, h.special]
    exact ⟨walked_of_settled hsettled, fun hspecial => absurd hspecial (by decide)⟩
  -- A special path is never empty, so it is not mistaken for one that was left out.
  have hsome : u.path ≠ .segments [] := by
    rw [hpath]
    exact fun hnil => hne (Path.segments.inj hnil)
  have htail : IsTail u.kind u.query u.fragment := by
    rw [h.special]
    exact ⟨h.query, h.fragment⟩
  rw [h.read.parse_authority_again hwalked hsome hhost hfile hagain, hsmall]
  have hagain : IsTail ({ u with host := some host.small } : Url).kind u.query u.fragment := htail
  exact congrArg Except.ok (withTail_self hagain)

end LeaseKeeper.Url
