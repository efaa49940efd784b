/-
  Walking a path once more.

  Reading walks a path: instructions are followed, and names are what is left.  So when the path
  is written and walked once more nothing changes, with one exception (`named_or_onDrive`).  A
  drive at the front of a `file` path ends its segment at once, and what stood behind it may be an
  instruction: `C:..` becomes the segments `C:` and `..`.  The next walk follows the instruction,
  but no instruction leaves a drive.

  Either way (`Walked`) a path that says something still does when it is read again, whatever else
  becomes of its URL (`IsRead.parse_nontrivial`).  Where there are no drives it is the same path
  (`IsRead.parse_authority_again`, `IsRead.parse_bare_again`).

    1. What one step of a walk does to the segments is an inductive with four cases
       (`Descent.Adds`); every invariant below is proved for these four and carried over a walk by
       `Descent.addAll_invariant`.

    2. A first walk leaves `Walked` segments (`walked_descend`), and every way to read a URL ends
       in such a walk (`pathIsWalked_of_parse`).

    3. Written and split again, the segments are the same pieces (`descend_eq`), so a second walk
       is a walk over them: names are added one by one (`addAll_names`), and a drive is met again
       (`HasDrive.walk`).

  The crux is that the two halves of the invariant need each other: where there are only names the
  second walk is the identity, and where there is a drive the walk may do anything but lose it,
  which is all that is needed for a path to say something.
-/
import LeaseKeeper.Proofs.Url.Rereading

namespace LeaseKeeper.Url

/-! ## Paths that say something -/

/-- A path says nothing if it is empty or nothing but its root. -/
theorem isTrivial_segments {segments : List String} :
    (Path.segments segments).isTrivial = true ↔ segments = [] ∨ segments = [""] := by
  unfold Path.isTrivial
  rw [Bool.or_eq_true_iff, beq_iff_eq, beq_iff_eq]
  cases segments with
  | nil => simp [Path.write]
  | cons s more =>
    have hwrite : (Path.segments (s :: more)).write =
        '/' :: (s.toList ++ (Path.segments more).write) := rfl
    have hmore : (Path.segments more).write = [] ↔ more = [] := by
      cases more with
      | nil => exact iff_of_true rfl rfl
      | cons t more => exact iff_of_false nofun nofun
    rw [hwrite, List.cons.injEq, List.append_eq_nil_iff, String.toList_eq_nil_iff, hmore]
    simp

theorem segments_ne_nil {path : Path} (h : path.isTrivial = false) : path ≠ .segments [] := by
  rintro rfl
  cases h

/-- **A path with a segment that is not empty** says something. -/
def IsNontrivial (segments : List String) : Prop := ∃ s ∈ segments, s ≠ ""

theorem IsNontrivial.not_isTrivial {segments : List String} (h : IsNontrivial segments) :
    (Path.segments segments).isTrivial = false := by
  obtain ⟨s, hs, hne⟩ := h
  refine Bool.eq_false_iff.2 fun htrivial => ?_
  rcases isTrivial_segments.1 htrivial with rfl | rfl
  · cases hs
  · exact hne (List.mem_singleton.1 hs)

/-- Only empty segments are dropped at the front of a `file` path. -/
theorem mem_dropEmptyFront_of_ne {segments : List String} {s : String} (hs : s ∈ segments)
    (hne : s ≠ "") (kind : SchemeKind) : s ∈ dropEmptyFront kind segments := by
  have hrest : s ∈ segments.dropWhile (· == "") := by
    rw [← List.takeWhile_append_dropWhile (p := (· == "")) (l := segments)] at hs
    rcases List.mem_append.1 hs with hs | hs
    · have hempty : (s == "") = true := List.all_eq_true.1 List.all_takeWhile s hs
      exact absurd (eq_of_beq hempty) hne
    · exact hs
  unfold dropEmptyFront
  split
  · split
    · rename_i hnil
      rw [hnil] at hrest
      cases hrest
    · exact hrest
  · exact hs

/-- Empty segments at the front are no loss. -/
theorem IsNontrivial.dropEmptyFront {segments : List String} (h : IsNontrivial segments)
    (kind : SchemeKind) : IsNontrivial (Url.dropEmptyFront kind segments) := by
  obtain ⟨s, hs, hne⟩ := h
  exact ⟨s, mem_dropEmptyFront_of_ne hs hne kind, hne⟩

/-! ## Drives -/

/-- A path that has come to a drive.  It may stand anywhere: empty segments can come before it,
    since the reader drops those only at the end. -/
def HasDrive (segments : List String) : Prop := ∃ s ∈ segments, isDrive s.toList = true

theorem ne_empty_of_isDrive {s : String} (h : isDrive s.toList = true) : s ≠ "" := by
  rintro rfl
  cases h

theorem HasDrive.nontrivial {segments : List String} (h : HasDrive segments) :
    IsNontrivial segments := by
  obtain ⟨s, hs, hdrive⟩ := h
  exact ⟨s, hs, ne_empty_of_isDrive hdrive⟩

/-- **A path that begins at a drive.**  This is what a first walk leaves; `HasDrive` is weaker
    and is what a second walk keeps. -/
def OnDrive (segments : List String) : Prop :=
  ∃ drive, isDrive drive.toList = true ∧ segments.head? = some drive

theorem OnDrive.hasDrive {segments : List String} (h : OnDrive segments) : HasDrive segments := by
  obtain ⟨drive, hdrive, hhead⟩ := h
  exact ⟨drive, List.mem_of_head? hhead, hdrive⟩

theorem isDrive_letter {letter : Char} (h : letter.isAlpha = true) : isDrive [letter, ':'] = true :=
  Bool.and_eq_true_iff.2 ⟨h, rfl⟩

/-- A drive begins a path as its letter and a colon. -/
theorem onDrive_letter {letter : Char} (h : letter.isAlpha = true) (more : List String) :
    OnDrive (String.ofList [letter, ':'] :: more) := by
  refine ⟨_, ?_, rfl⟩
  rw [String.toList_ofList]
  exact isDrive_letter h

/-- A drive is no instruction: an instruction is one or two points, each plain or
    percent-encoded, and none of these texts is a letter and a colon. -/
theorem not_dot_of_isDrive {s : List Char} (h : isDrive s = true) :
    isSingleDot s = false ∧ isDoubleDot s = false := by
  have hone : ∀ a ∈ dotTexts, isDrive a = false := by decide
  have htwo : ∀ a ∈ dotTexts, ∀ b ∈ dotTexts, isDrive (a ++ b) = false := by decide
  constructor
  · refine Bool.eq_false_iff.2 fun hdot => ?_
    rw [hone s (List.contains_iff_mem.1 hdot)] at h
    cases h
  · refine Bool.eq_false_iff.2 fun hdots => ?_
    obtain ⟨a, ha, hdots⟩ := List.any_eq_true.1 hdots
    obtain ⟨b, hb, hdots⟩ := List.any_eq_true.1 hdots
    rw [eq_of_beq hdots, htwo a ha b hb] at h
    cases h

section

variable {kind : SchemeKind} {s : String} {segments after : List String} {isLast : Bool}

/-- **No step leaves a drive.**  Going up is the only step that takes a segment away; it takes
    the last one, and it does not take a drive. -/
theorem HasDrive.adds {s : List Char} (h : HasDrive segments)
    (hadds : Descent.Adds kind segments s isLast after) : HasDrive after := by
  obtain ⟨t, ht, hdrive⟩ := h
  have hleave : ∀ left : List String, t ∈ left → HasDrive (leave isLast left) := by
    intro left hleft
    cases isLast with
    | false => exact ⟨t, hleft, hdrive⟩
    | true => exact ⟨t, List.mem_append_left _ hleft, hdrive⟩
  cases hadds with
  | up =>
    -- the last segment is taken away
    refine hleave _ ?_
    unfold goUp
    split
    · rename_i hnone
      rw [List.getLast?_eq_none_iff.1 hnone] at ht
      exact ht
    · rename_i last hlast
      obtain ⟨front, rfl⟩ := List.getLast?_eq_some_iff.1 hlast
      split
      · -- the last segment is the first one and a drive, and it stays
        exact ht
      · -- another one goes, and it is not the drive
        rename_i hother
        rw [List.dropLast_concat]
        refine (List.mem_append.1 ht).resolve_right fun hlast => hother ?_
        rw [← List.mem_singleton.1 hlast]
        exact hdrive
  -- the other steps take nothing away, or begin at an empty path
  | stay => exact hleave _ ht
  | drive _ hfirst =>
    rw [hfirst] at ht
    cases ht
  | name => exact ⟨t, List.mem_append_left _ ht, hdrive⟩

theorem HasDrive.addAll {d : Descent} (h : HasDrive d.segments) (pieces : List (List Char)) :
    HasDrive (d.addAll kind pieces).segments :=
  Descent.addAll_invariant kind pieces (P := HasDrive)
    (fun _ _ _ _ _ hbefore hadds => hbefore.adds hadds) h

/-- **A drive at the front stays there**, whatever is added.  If it is the only segment, going up
    leaves it; if there are others, going up takes one of those. -/
theorem head_adds {drive : String} (hdrive : isDrive drive.toList = true)
    (h : segments.head? = some drive) {s : List Char}
    (hadds : Descent.Adds kind segments s isLast after) : after.head? = some drive := by
  obtain ⟨rest, rfl⟩ := List.head?_eq_some_iff.1 h
  have hleave : ∀ left, (leave isLast (drive :: left)).head? = some drive := by
    intro left
    cases isLast <;> rfl
  cases hadds with
  | up =>
    cases rest with
    | nil =>
      rw [show goUp [drive] = [drive] from if_pos hdrive]
      exact hleave []
    | cons t rest =>
      have hup : ∃ left, goUp (drive :: t :: rest) = drive :: left := by
        unfold goUp
        split
        · rename_i hnone
          cases List.getLast?_eq_none_iff.1 hnone
        · split
          · exact ⟨t :: rest, rfl⟩
          · exact ⟨(t :: rest).dropLast, rfl⟩
      obtain ⟨left, hup⟩ := hup
      rw [hup]
      exact hleave left
  | stay => exact hleave rest
  -- a drive is added to an empty path only
  | drive _ hfirst => cases hfirst
  | name => rfl

theorem OnDrive.adds (h : OnDrive segments) {s : List Char}
    (hadds : Descent.Adds kind segments s isLast after) : OnDrive after := by
  obtain ⟨drive, hdrive, hhead⟩ := h
  exact ⟨drive, hdrive, head_adds hdrive hhead hadds⟩

/-- A drive is not empty, so it stays at the front. -/
theorem head_dropEmptyFront (hs : s ≠ "") (h : segments.head? = some s) :
    (dropEmptyFront kind segments).head? = some s := by
  obtain ⟨rest, rfl⟩ := List.head?_eq_some_iff.1 h
  unfold dropEmptyFront
  rw [List.dropWhile_cons_of_neg (by simpa using hs)]
  split <;> rfl

/-! ## What a walk leaves -/

/-- A segment that is no instruction, so a walk adds it as it is. -/
def IsName (s : String) : Prop := isSingleDot s.toList = false ∧ isDoubleDot s.toList = false

theorem isName_empty : IsName "" := ⟨by decide, by decide⟩

/-- **Names, unless there is a drive.**  Behind a drive anything may stand: the rest of its
    segment was added without being looked at. -/
def AreNames (kind : SchemeKind) (segments : List String) : Prop :=
  (∀ s ∈ segments, IsName s) ∨ (kind = .file ∧ HasDrive segments)

theorem AreNames.resolve (h : AreNames kind segments) (hkind : kind ≠ .file) :
    ∀ s ∈ segments, IsName s :=
  Or.resolve_right h fun hdrive => hkind hdrive.1

/-- **The segments that a walk leaves**: no slash is in them, and they are names unless there is a
    drive. -/
structure Walked (kind : SchemeKind) (segments : List String) : Prop where
  written : AreSegments segments
  whole : ∀ s ∈ segments, ∀ c ∈ s.toList, kind.isSlash c = false
  names : AreNames kind segments

theorem walked_nil (kind : SchemeKind) : Walked kind [] := ⟨areSegments_nil, nofun, .inl nofun⟩

/-- A step keeps to names, or it comes to a drive at the front.  The last segment of a path that
    goes up or stays is empty, and the empty segment is a name. -/
theorem names_adds {s : List Char} (h : ∀ t ∈ segments, IsName t)
    (hadds : Descent.Adds kind segments s isLast after) :
    (∀ t ∈ after, IsName t) ∨ (kind = .file ∧ segments = [] ∧ OnDrive after) := by
  have hempty : ∀ t, t = "" → IsName t := fun t ht => ht ▸ isName_empty
  cases hadds with
  | up => exact .inl fun t ht => (mem_leave ht).elim (fun ht => h t (mem_goUp ht)) (hempty t)
  | stay => exact .inl fun t ht => (mem_leave ht).elim (h t) (hempty t)
  | drive hkind hfirst _ hletter => exact .inr ⟨hkind, hfirst, onDrive_letter hletter _⟩
  | name hstay hup =>
    refine .inl fun t ht => ?_
    rcases List.mem_append.1 ht with ht | ht
    · exact h t ht
    · rw [List.mem_singleton.1 ht, IsName, String.toList_ofList]
      exact ⟨hstay, hup⟩

/-- **A path that was walked** consists of names, or it begins at a drive.  The invariant is the
    same alternative for the segments so far; dropping empty segments at the end keeps either
    side of it. -/
theorem named_or_onDrive (kind : SchemeKind) (cs : List Char) :
    (∀ s ∈ (descend kind cs).segments, IsName s) ∨
      (kind = .file ∧ OnDrive (descend kind cs).segments) := by
  have hwalk := Descent.addAll_invariant kind
    ((splitSlashes kind cs).map (percentEncode inPath)) (d := ⟨[], false⟩)
    (P := fun segments => (∀ s ∈ segments, IsName s) ∨ (kind = .file ∧ OnDrive segments))
    (fun _ _ _ _ _ hbefore hadds => hbefore.elim
      (fun hnames => (names_adds hnames hadds).imp_right fun hdrive => ⟨hdrive.1, hdrive.2.2⟩)
      fun hdrive => .inr ⟨hdrive.1, hdrive.2.adds hadds⟩) (.inl nofun)
  rcases hwalk with hnames | ⟨hkind, drive, hdrive, hhead⟩
  -- the front of the path may be dropped now, if it is empty: names stay names, and a drive is not
  -- empty
  · refine .inl fun s hs => ?_
    rcases mem_dropEmptyFront hs with hs | rfl
    · exact hnames s hs
    · exact isName_empty
  · exact .inr ⟨hkind, drive, hdrive, head_dropEmptyFront (ne_empty_of_isDrive hdrive) hhead⟩

/-- A slash is a character of the text, so it is in no encoded piece: the text was split at
    slashes, and encoding adds percent signs and hexadecimal digits. -/
theorem not_isSlash_percentEncode {cs piece : List Char} (hpiece : piece ∈ splitSlashes kind cs) :
    ∀ c ∈ percentEncode inPath piece, kind.isSlash c = false := by
  intro c hc
  rcases mem_percentEncode hc with ⟨hc, -⟩ | rfl | hhex
  · exact (DomainName.mem_of_mem_splitOnP hpiece hc).2
  · cases kind <;> rfl
  · exact DomainName.ascii_forall (P := fun c => isHexUpper c = true → kind.isSlash c = false)
      (by cases kind <;> decide +kernel) (ascii_of_isHexUpper hhex) hhex

/-- **What a text spells is walked.** -/
theorem walked_descend (kind : SchemeKind) (cs : List Char) :
    Walked kind (descend kind cs).segments := by
  refine ⟨areSegments_descend kind cs, ?_, ?_⟩
  · exact chars_descend (by cases kind <;> rfl) fun piece hpiece => not_isSlash_percentEncode hpiece
  · exact (named_or_onDrive kind cs).imp_right fun hdrive => ⟨hdrive.1, hdrive.2.hasDrive⟩

theorem walked_takePath (kind : SchemeKind) (cs : List Char) :
    Walked kind (takePath kind cs).1.segments := by
  unfold takePath
  dsimp only
  split
  · dsimp only
    split
    · exact walked_descend kind _
    · exact walked_nil kind
  · exact walked_descend kind _

end

/-- **A path as reading leaves it.**  One without hierarchy does not begin with a slash, and goes up to
    query or fragment. -/
def PathIsWalked (u : Url) : Prop :=
  match u.path with
  | .segments list => Walked u.kind list ∧ Grounded u.kind list
  | .rootless text => (∀ c ∈ text.toList, inControls c = false ∧ isTailMark c = false) ∧
      text.toList.head? ≠ some '/'

/-- The path of a `file` URL. -/
theorem pathIsWalked_fileUrl (host : Host) (path tail : List Char) :
    PathIsWalked (fileUrl host path tail) :=
  ⟨walked_descend .file path, grounded_dropEmptyFront _⟩

/-- A path behind an authority. -/
theorem pathIsWalked_of_readAuthority {scheme : String} {cs : List Char} {u : Url}
    (hkind : SchemeKind.ofScheme scheme ≠ .file) (h : readAuthority scheme cs = .ok u) :
    PathIsWalked u := by
  obtain ⟨_, _, _, _, _, -, -, -, -, rfl⟩ := readAuthority_eq_ok h
  exact ⟨walked_takePath (.ofScheme scheme) _, fun hfile => absurd hfile hkind⟩

/-- The text of a path without hierarchy.  Encoding leaves it within the characters that are not
    encoded again, and an encoded first character is a percent sign, so no slash comes to the
    front. -/
theorem rootless_of_body {body : List Char} (hmark : ∀ c ∈ body, isTailMark c = false)
    (hslash : body.head? ≠ some '/') :
    (∀ c ∈ percentEncode inControls body, inControls c = false ∧ isTailMark c = false) ∧
      (percentEncode inControls body).head? ≠ some '/' := by
  refine ⟨fun c hc => ⟨outside_of_mem (by decide) (by decide +kernel) hc, ?_⟩, ?_⟩
  · rcases mem_percentEncode hc with ⟨hc, -⟩ | rfl | hhex
    · exact hmark c hc
    · decide
    · exact DomainName.ascii_forall (P := fun c => isHexUpper c = true → isTailMark c = false)
        (by decide +kernel) (ascii_of_isHexUpper hhex) hhex
  · -- the first character: itself, or the percent sign of its first byte
    cases body with
    | nil => exact nofun
    | cons c rest =>
      have hc : c ≠ '/' := fun hc => hslash (congrArg some hc)
      show (percentChar inControls c ++ percentEncode inControls rest).head? ≠ some '/'
      unfold percentChar
      split
      · cases hbytes : String.utf8EncodeChar c with
        | nil => exact absurd hbytes String.utf8EncodeChar_ne_nil
        | cons b bytes =>
          show some '%' ≠ some '/'
          decide
      · exact fun hhead => hc (Option.some.inj hhead)

/-- A path behind a scheme: from a slash on it is walked, and without one it is a text. -/
theorem pathIsWalked_general {u : Url} {scheme : String} {body tail : List Char}
    (hkind : SchemeKind.ofScheme scheme = .general)
    (hu : u = withTail { scheme, host := none, path := match body with
      | '/' :: rest => .segments (descend .general rest).segments
      | _ => .rootless (String.ofList (percentEncode inControls body)) } tail)
    (hmark : ∀ c ∈ body, isTailMark c = false) : PathIsWalked u := by
  subst hu
  have hsame : ∀ path, (withTail { scheme, host := none, path := path } tail).kind = .general :=
    fun _ => hkind
  split
  · rename_i rest
    show Walked (withTail _ tail).kind _ ∧ Grounded (withTail _ tail).kind _
    rw [hsame]
    exact ⟨walked_descend .general rest, nofun⟩
  · rename_i hslash
    have htext := rootless_of_body hmark fun hhead => by
      obtain ⟨rest, rfl⟩ := List.head?_eq_some_iff.1 hhead
      exact hslash rest rfl
    rw [← String.toList_ofList (l := percentEncode inControls body)] at htext
    exact htext

theorem pathIsWalked_of_readGeneral {scheme : String} {cs : List Char} {u : Url}
    (hkind : SchemeKind.ofScheme scheme = .general) (h : readGeneral scheme cs = .ok u) :
    PathIsWalked u := by
  unfold readGeneral at h
  split at h
  · exact pathIsWalked_of_readAuthority (by rw [hkind]; exact nofun) h
  · refine pathIsWalked_general hkind (Except.ok.inj h).symm fun c hc => ?_
    have hgoes : (!isTailMark c) = true := List.all_eq_true.1 List.all_takeWhile c hc
    exact Bool.not_eq_eq_eq_not.1 hgoes

/-- **What is read has a path as reading leaves it.**  One case for each kind of scheme, as the
    reader has them. -/
theorem pathIsWalked_of_parse {text : String} {u : Url} (h : parse text = .ok u) :
    PathIsWalked u := by
  unfold parse at h
  split at h
  · cases h
  · split at h
    · obtain ⟨host, path, tail, rfl⟩ := readFile_eq h
      exact pathIsWalked_fileUrl host path tail
    · rename_i hkind
      exact pathIsWalked_of_readAuthority (by rw [hkind]; exact nofun) h
    · rename_i hkind
      exact pathIsWalked_of_readGeneral hkind h

/-! ## Walking once more -/

section

variable {kind : SchemeKind} {s : String} {more segments : List String} {d : Descent}

/-- Written segments are split where they were joined: induction on them.  No slash of the kind
    stands inside a segment, and the one between two segments is a slash for every kind. -/
theorem splitSlashes_write (h : ∀ t ∈ s :: more, ∀ c ∈ t.toList, kind.isSlash c = false) :
    splitSlashes kind (s.toList ++ (Path.segments more).write) = (s :: more).map String.toList := by
  have hs := h s (List.mem_cons_self ..)
  induction more generalizing s with
  | nil =>
    rw [show (Path.segments []).write = [] from rfl, List.append_nil]
    exact List.splitOnP_eq_singleton hs
  | cons t more ih =>
    have hrest := ih (fun r hr => h r (List.mem_cons_of_mem _ hr))
      (h t (List.mem_cons_of_mem _ (List.mem_cons_self ..)))
    have hsplit := List.splitOnP_append_cons_of_forall_mem hs '/' rfl
      (t.toList ++ (Path.segments more).write)
    rw [List.map_cons, ← hrest]
    exact hsplit

/-- **Written segments are walked one by one.**  They were encoded when they were read first, so
    encoding them again changes nothing. -/
theorem descend_eq (hwritten : AreSegments (s :: more))
    (hwhole : ∀ t ∈ s :: more, ∀ c ∈ t.toList, kind.isSlash c = false) :
    descend kind (s.toList ++ (Path.segments more).write) =
      let d := Descent.addAll kind ⟨[], false⟩ ((s :: more).map String.toList)
      { d with segments := dropEmptyFront kind d.segments } := by
  have hencode : ((s :: more).map String.toList).map (percentEncode inPath) =
      (s :: more).map String.toList := by
    rw [List.map_map]
    exact List.map_congr_left fun t ht => percentEncode_self (hwritten t ht)
  unfold descend
  rw [splitSlashes_write hwhole, hencode]

/-- What segments are left. -/
theorem descend_write (hwritten : AreSegments (s :: more))
    (hwhole : ∀ t ∈ s :: more, ∀ c ∈ t.toList, kind.isSlash c = false) :
    (descend kind (s.toList ++ (Path.segments more).write)).segments =
      dropEmptyFront kind
        (Descent.addAll kind ⟨[], false⟩ ((s :: more).map String.toList)).segments :=
  congrArg Descent.segments (descend_eq hwritten hwhole)

/-- A name is added, unless it is a drive at the front.  A name that looks like a drive and comes
    to an empty path is split there, so the second walk may find a drive the first one did not. -/
theorem add_name (kind : SchemeKind) (hs : IsName s) (d : Descent) (isLast : Bool) :
    (d.add kind s.toList isLast).segments = d.segments ++ [s] ∨
      (kind = .file ∧ HasDrive (d.add kind s.toList isLast).segments) := by
  have hadds := d.add_adds kind s.toList isLast
  generalize (d.add kind s.toList isLast).segments = after at hadds
  cases hadds with
  | up hup =>
    rw [hs.2] at hup
    cases hup
  | stay hstay =>
    rw [hs.1] at hstay
    cases hstay
  | drive hkind _ _ hletter => exact .inr ⟨hkind, (onDrive_letter hletter _).hasDrive⟩
  | name => exact .inl (by rw [String.ofList_toList])

/-- **Names are added one after the other**, unless there is a drive: induction on them.  Once
    there is a drive the rest may do what it likes. -/
theorem addAll_names (kind : SchemeKind) (h : ∀ s ∈ segments, IsName s) :
    (d.addAll kind (segments.map String.toList)).segments = d.segments ++ segments ∨
      (kind = .file ∧ HasDrive (d.addAll kind (segments.map String.toList)).segments) := by
  induction segments generalizing d with
  | nil => exact .inl (List.append_nil _).symm
  | cons s more ih =>
    have hs := add_name kind (h s (List.mem_cons_self ..)) d
    cases more with
    | nil => exact hs true
    | cons t more =>
      show ((d.add kind s.toList false).addAll kind _).segments = _ ∨
        (kind = .file ∧ HasDrive ((d.add kind s.toList false).addAll kind _).segments)
      rcases hs false with hname | ⟨hkind, hdrive⟩
      · have hrest := ih (d := d.add kind s.toList false) fun r hr => h r (List.mem_cons_of_mem _ hr)
        rw [hname, List.append_assoc] at hrest
        exact hrest
      · exact .inr ⟨hkind, hdrive.addAll _⟩

/-- **A drive is met again**, whatever instructions stand around it: induction on the segments.
    The step at the drive adds it, as it is no instruction, and no later step takes it away. -/
theorem HasDrive.walk (h : HasDrive segments) :
    HasDrive (d.addAll kind (segments.map String.toList)).segments := by
  induction segments generalizing d with
  | nil =>
    obtain ⟨s, hs, -⟩ := h
    cases hs
  | cons s more ih =>
    have hstep : ∀ isLast, isDrive s.toList = true →
        HasDrive (d.add kind s.toList isLast).segments := by
      intro isLast hdrive
      rcases add_name kind (not_dot_of_isDrive hdrive) d isLast with hname | ⟨-, hdrive⟩
      · rw [hname]
        exact ⟨s, List.mem_append_right _ (List.mem_singleton_self s), hdrive⟩
      · exact hdrive
    obtain ⟨t, ht, hdrive⟩ := h
    cases more with
    -- is the drive this segment, or is it among the later ones?
    | nil =>
      rw [List.mem_singleton.1 ht] at hdrive
      exact hstep true hdrive
    | cons next more =>
      rcases List.mem_cons.1 ht with rfl | ht
      · exact (hstep false hdrive).addAll _
      · exact ih ⟨t, ht, hdrive⟩

/-- **A walked path is walked to itself**, if it has no drives. -/
theorem Walked.descend_self (h : Walked kind (s :: more)) (hkind : kind ≠ .file) :
    (descend kind (s.toList ++ (Path.segments more).write)).segments = s :: more := by
  have hwalk := (addAll_names (d := ⟨[], false⟩) kind (h.names.resolve hkind)).resolve_right
    fun hdrive => hkind hdrive.1
  rw [descend_write h.written h.whole, hwalk]
  exact if_neg hkind

/-- The same behind a point, which the writer puts before a path that would look like an
    authority: the walk follows it and nothing is left of it. -/
theorem Walked.descend_point (h : Walked .general (s :: more)) :
    (descend .general ('.' :: (Path.segments (s :: more)).write)).segments = s :: more := by
  have hpoint : ∀ c ∈ ".".toList, inPath c = false ∧ SchemeKind.isSlash .general c = false :=
    List.forall_mem_singleton.2 ⟨by decide, by decide⟩
  have hwritten : AreSegments ("." :: s :: more) :=
    List.forall_mem_cons.2 ⟨fun c hc => (hpoint c hc).1, h.written⟩
  have hwhole : ∀ t ∈ "." :: s :: more, ∀ c ∈ t.toList, SchemeKind.isSlash .general c = false :=
    List.forall_mem_cons.2 ⟨fun c hc => (hpoint c hc).2, h.whole⟩
  have hwalk := (addAll_names (d := ⟨[], false⟩) .general (h.names.resolve nofun)).resolve_right
    fun hdrive => nomatch hdrive.1
  exact (descend_write hwritten hwhole).trans hwalk

/-- **A walked `file` path that says something** is walked to one that does: to the same names,
    or to a path with a drive. -/
theorem Walked.nontrivial_descend (h : Walked .file (s :: more))
    (hnontrivial : IsNontrivial (s :: more)) :
    IsNontrivial (descend .file (s.toList ++ (Path.segments more).write)).segments := by
  rw [descend_write h.written h.whole]
  refine IsNontrivial.dropEmptyFront ?_ .file
  rcases h.names with hnames | ⟨-, hdrive⟩
  · rcases addAll_names (d := ⟨[], false⟩) .file hnames with hwalk | ⟨-, hdrive⟩
    · rw [hwalk]
      exact hnontrivial
    · exact hdrive.nontrivial
  · exact hdrive.walk.nontrivial

/-- The same behind a slash: then the path begins with one more empty segment, which is a name. -/
theorem Walked.nontrivial_descend_slash (h : Walked .file segments)
    (hnontrivial : IsNontrivial segments) :
    IsNontrivial (descend .file (Path.segments segments).write).segments := by
  have hroot : Walked .file ("" :: segments) := by
    refine ⟨List.forall_mem_cons.2 ⟨nofun, h.written⟩, List.forall_mem_cons.2 ⟨nofun, h.whole⟩, ?_⟩
    rcases h.names with hnames | ⟨hkind, t, ht, hdrive⟩
    · exact .inl (List.forall_mem_cons.2 ⟨isName_empty, hnames⟩)
    · exact .inr ⟨hkind, t, List.mem_cons_of_mem _ ht, hdrive⟩
  obtain ⟨t, ht, hne⟩ := hnontrivial
  exact hroot.nontrivial_descend ⟨t, List.mem_cons_of_mem _ ht, hne⟩

/-- The path behind an authority is found again. -/
theorem takePath_write (hwritten : AreSegments (s :: more)) {tail : List Char}
    (htail : ∀ c, tail.head? = some c → isTailMark c = true) :
    takePath kind ((Path.segments (s :: more)).write ++ tail) =
      (descend kind (s.toList ++ (Path.segments more).write), tail) := by
  obtain ⟨htake, hdrop⟩ := split_append
    (fun c hc => by rw [goesOn_segments hwritten c hc]; rfl)
    fun c hc => show (!isTailMark c) = false by rw [htail c hc]; rfl
  unfold takePath
  rw [htake, hdrop]
  rfl

end

/-! ## Whole URLs -/

/-- The path that a text without authority spells. -/
def barePath : List Char → Path
  | '/' :: rest => .segments (descend .general rest).segments
  | body => .rootless (String.ofList (percentEncode inControls body))

theorem barePath_rootless {body : List Char} (h : ∀ rest, body ≠ '/' :: rest) :
    barePath body = .rootless (String.ofList (percentEncode inControls body)) := by
  unfold barePath
  split
  · rename_i rest
    exact absurd rfl (h rest)
  · rfl

/-- A general URL without authority is read by its path, and by what follows it.  The hypothesis
    on the whole text excludes that it begins like an authority. -/
theorem readGeneral_eq {scheme : String} {body tail : List Char}
    (hplace : ∀ rest, body ++ tail ≠ '/' :: '/' :: rest)
    (hbody : ∀ c ∈ body, isTailMark c = false)
    (htail : ∀ c, tail.head? = some c → isTailMark c = true) :
    readGeneral scheme (body ++ tail) =
      .ok (withTail { scheme, host := none, path := barePath body } tail) := by
  obtain ⟨htake, hdrop⟩ := split_append
    (fun c hc => show (!isTailMark c) = true by rw [hbody c hc]; rfl)
    fun c hc => show (!isTailMark c) = false by rw [htail c hc]; rfl
  unfold readGeneral
  split
  · rename_i rest hslashes
    exact absurd hslashes (hplace rest)
  · rw [htake, hdrop]
    dsimp only
    refine congrArg (fun path => Except.ok (withTail { scheme, host := none, path := path } tail)) ?_
    split
    · rfl
    · rename_i hslash
      exact (barePath_rootless hslash).symm

namespace IsRead

variable {u v : Url}

/-- **A URL with an authority is found again**, up to its host and to what follows its path.  An
    empty path is left out: it is written as nothing and may come back as the root. -/
theorem parse_authority_again (h : u.IsRead) (hwalked : PathIsWalked u)
    (hpath : u.path ≠ .segments []) {host again : Host} (hhost : u.host = some host)
    (hkind : u.kind ≠ .file) (hagain : readHost u.kind host.write = .ok again) :
    parse u.render = .ok (withTail { u with host := some again } (writeTail u)) := by
  obtain ⟨segments, hsegments, -⟩ := h.segments_of_host hhost
  rw [PathIsWalked, hsegments] at hwalked
  have hport : (if u.port = defaultPort? u.scheme then none else u.port) = u.port :=
    show (withAuthority u.scheme "" "" again u.port []).port = u.port from h.port_withAuthority
  rw [h.parse_authority hhost hkind, h.readAuthority_ok hhost hkind hagain]
  cases segments with
  | nil => exact absurd hsegments hpath
  | cons s more =>
    have hwalk : takePath (.ofScheme u.scheme) (writeAfter u) =
        (descend u.kind (s.toList ++ (Path.segments more).write), writeTail u) := by
      rw [writeAfter, hsegments]
      exact takePath_write hwalked.1.written fun c hc => head_tail hc
    unfold withAuthority
    rw [hwalk, hport]
    dsimp only
    rw [hwalked.1.descend_self hkind, ← hsegments]
    rfl

/-- **A path behind an authority says something again.**  No hypothesis on the host is needed: if
    the URL is read at all, its host was. -/
theorem nontrivial_authority (h : u.IsRead) (hwalked : PathIsWalked u)
    (hnontrivial : u.path.isTrivial = false) {host : Host} (hhost : u.host = some host)
    (hkind : u.kind ≠ .file) (hv : parse u.render = .ok v) :
    v.scheme = u.scheme ∧ v.path.isTrivial = false := by
  have hread := hv
  rw [h.parse_authority hhost hkind, h.readAuthority_write hhost hkind] at hread
  obtain ⟨again, hagain, -⟩ := bind_eq_ok hread
  rw [h.parse_authority_again hwalked (segments_ne_nil hnontrivial) hhost hkind hagain] at hv
  cases hv
  exact ⟨rfl, hnontrivial⟩

/-- **The path of a `file` URL says something again.**  Depending on the host the reader walks the
    path with its slash or without it; both walks keep a segment that is not empty, and by `Grounded`
    the first segment is such a one. -/
theorem nontrivial_file (h : u.IsRead) (hwalked : PathIsWalked u)
    (hnontrivial : u.path.isTrivial = false) {host : Host} (hhost : u.host = some host)
    (hkind : u.kind = .file) (hv : parse u.render = .ok v) :
    v.scheme = u.scheme ∧ v.path.isTrivial = false := by
  obtain ⟨segments, hpath, -⟩ := h.segments_of_host hhost
  have hscheme : u.scheme = "file" := scheme_of_file hkind
  rw [h.parse_file hhost hkind, hpath] at hv
  rw [PathIsWalked, hpath, hkind] at hwalked
  rw [hpath] at hnontrivial
  obtain ⟨hwalked, hground⟩ := hwalked
  cases segments with
  | nil => cases hnontrivial
  | cons s more =>
    have hnontrivial : IsNontrivial (s :: more) := by
      refine ⟨s, List.mem_cons_self .., fun hs => ?_⟩
      rcases hground rfl with hroot | hhead
      · rw [hroot] at hnontrivial
        cases hnontrivial
      · exact hhead (congrArg some hs)
    have hfile : ∀ host, (fileUrl host (Path.segments (s :: more)).write (writeTail u)).scheme =
        u.scheme ∧ (fileUrl host (Path.segments (s :: more)).write (writeTail u)).path.isTrivial =
          false := fun _ =>
      ⟨hscheme.symm, (hwalked.nontrivial_descend_slash hnontrivial).not_isTrivial⟩
    split at hv
    · -- no host is written
      cases hv
      exact hfile _
    · obtain ⟨again, -, hv⟩ := bind_eq_ok hv
      split at hv
      · -- the host is `localhost`, which is dropped
        cases hv
        exact hfile _
      · -- another host, so the slash was taken as its end
        cases hv
        exact ⟨hscheme.symm, (hwalked.nontrivial_descend hnontrivial).not_isTrivial⟩

/-- **A URL without authority is found again**, up to what follows its path.  The path is written
    as it is, or behind a point; the walk gives the same segments in both cases. -/
theorem parse_bare_again (h : u.IsRead) (hwalked : PathIsWalked u)
    (hnontrivial : u.path.isTrivial = false) (hhost : u.host = none) : parse u.render =
      .ok (withTail { scheme := u.scheme, host := none, path := u.path } (writeTail u)) := by
  have hgeneral := h.kind_of_bare hhost
  have hplace : ∀ rest, u.writePath ++ writeTail u ≠ '/' :: '/' :: rest := fun rest =>
    writeBody_eq hhost ▸ writeBody_bare hhost rest
  rw [h.parse_render, hgeneral]
  dsimp only
  rw [writeBody_eq hhost]
  cases hpath : u.path with
  | segments segments =>
    rw [PathIsWalked, hpath, hgeneral] at hwalked
    rw [hpath] at hnontrivial
    have hmark := goesOn_segments hwalked.1.written
    cases segments with
    | nil => cases hnontrivial
    | cons s more =>
      have hwrite : u.writePath = '/' :: '.' :: (Path.segments (s :: more)).write ∨
          u.writePath = (Path.segments (s :: more)).write := by
        unfold writePath
        rw [hpath]
        dsimp only
        split
        · exact .inl rfl
        · exact .inr rfl
      rcases hwrite with hwrite | hwrite
      · -- behind a point
        rw [hwrite] at hplace ⊢
        have hbody : ∀ c ∈ '/' :: '.' :: (Path.segments (s :: more)).write, isTailMark c = false :=
          List.forall_mem_cons.2 ⟨rfl, List.forall_mem_cons.2 ⟨rfl, hmark⟩⟩
        rw [readGeneral_eq hplace hbody fun c hc => head_tail hc, barePath, hwalked.1.descend_point]
      · -- as it is
        rw [hwrite] at hplace ⊢
        have hread : barePath (Path.segments (s :: more)).write =
            .segments (descend .general (s.toList ++ (Path.segments more).write)).segments := rfl
        rw [readGeneral_eq hplace hmark fun c hc => head_tail hc, hread, hwalked.1.descend_self nofun]
  | rootless text =>
    rw [PathIsWalked, hpath] at hwalked
    obtain ⟨htext, hhead⟩ := hwalked
    have hwrite : u.writePath = text.toList := by
      unfold writePath
      rw [hpath]
      refine if_neg fun hslashes => ?_
      obtain ⟨rest, hrest⟩ := List.isPrefixOf_iff_prefix.1 (Bool.and_eq_true_iff.1 hslashes).2
      exact hhead (by rw [show text.toList = _ from hrest.symm]; rfl)
    rw [hwrite] at hplace ⊢
    have hread : barePath text.toList = .rootless text := by
      rw [barePath_rootless fun rest hrest => hhead (congrArg List.head? hrest),
        percentEncode_self fun c hc => (htext c hc).1, String.ofList_toList]
    rw [readGeneral_eq hplace (fun c hc => (htext c hc).2) fun c hc => head_tail hc, hread]

/-- **A path that says something says something again**, if its URL is read again at all.  One case
    for each form of a URL: without authority, a `file` URL, and any other one. -/
theorem parse_nontrivial (h : u.IsRead) (hwalked : PathIsWalked u)
    (hnontrivial : u.path.isTrivial = false) (hv : parse u.render = .ok v) :
    v.scheme = u.scheme ∧ v.path.isTrivial = false := by
  cases hhost : u.host with
  | none =>
    rw [h.parse_bare_again hwalked hnontrivial hhost] at hv
    cases hv
    exact ⟨rfl, hnontrivial⟩
  | some host =>
    by_cases hkind : u.kind = .file
    · exact h.nontrivial_file hwalked hnontrivial hhost hkind hv
    · exact h.nontrivial_authority hwalked hnontrivial hhost hkind hv

end IsRead

end LeaseKeeper.Url
