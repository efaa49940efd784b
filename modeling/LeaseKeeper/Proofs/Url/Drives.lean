/-
  Drives, met once more.

  The path of a `file` URL is walked when the URL is read, and walked again when it is written and
  read once more.  What the second walk changes has to do with drives alone.

  A path begins at a drive, or it consists of names (`named_or_onDrive`): only the segment that
  ends at a drive leaves behind it what may be an instruction.  Where a slash stands in front of
  the path, a drive is not met again, so names stay as they are and instructions are followed
  (`descend_root_iff`).  Where the path begins behind a host, a drive is met that the slash had
  hidden before, and it takes the host away or divides its segment (`descend_front_iff`).

  Both statements are equivalences, so each needs a reason for the second walk to change
  something.  Behind a slash it is that the result consists of names: if the path does not, it is
  not the result.  Behind a host it is the first segment: what begins a drive there is either a
  drive by itself, and the host is gone, or it is longer, and then the result begins with the
  drive alone, which is not what stood there.
-/
import LeaseKeeper.Proofs.Url.WebAddress

namespace LeaseKeeper.Url

variable {kind : SchemeKind} {s : String} {more segments after : List String} {isLast : Bool}
  {d : Descent}

/-! ## Where a path begins -/

/-- **A segment that begins a drive**: at the front of a `file` path it is not added as it is. -/
def BeginsDrive (s : List Char) : Prop :=
  ∃ letter, letter.isAlpha = true ∧ ((∃ rest, s = letter :: ':' :: rest) ∨ s = [letter, '|'])

/-- A drive is one of the things that begin a drive, with either of its two marks. -/
theorem beginsDrive_of_isDrive {s : List Char} (h : isDrive s = true) : BeginsDrive s := by
  unfold isDrive at h
  split at h
  · rename_i letter mark
    obtain ⟨hletter, hmark⟩ := Bool.and_eq_true_iff.1 h
    rcases Bool.or_eq_true_iff.1 hmark with hmark | hmark
    · exact ⟨letter, hletter, .inl ⟨[], by rw [eq_of_beq hmark]⟩⟩
    · exact ⟨letter, hletter, .inr (by rw [eq_of_beq hmark])⟩
  · cases h

/-- A path that has a drive has a segment. -/
theorem HasDrive.ne_nil (h : HasDrive segments) : segments ≠ [] := by
  rintro rfl
  obtain ⟨s, hs, -⟩ := h
  cases hs

/-! ## Names -/

/-- Pieces are added one by one; whether a piece is the last depends on what follows it. -/
theorem Descent.addAll_cons (kind : SchemeKind) (d : Descent) (s : List Char)
    (rest : List (List Char)) :
    ∃ isLast, d.addAll kind (s :: rest) = (d.add kind s isLast).addAll kind rest := by
  cases rest with
  | nil => exact ⟨true, rfl⟩
  | cons t rest => exact ⟨false, rfl⟩

/-- A name is added as it is, unless it begins a drive at the front.  There are two cases as the
    piece may be long enough to hold a drive and more. -/
theorem Descent.add_name_eq (hs : IsName s)
    (hplace : kind = .file → d.segments = [] → ¬BeginsDrive s.toList) (isLast : Bool) :
    d.add kind s.toList isLast = { d with segments := d.segments ++ [s] } := by
  have hfront : (kind == .file && d.segments.isEmpty) = true → ¬BeginsDrive s.toList := by
    intro hfront
    obtain ⟨hkind, hempty⟩ := Bool.and_eq_true_iff.1 hfront
    exact hplace (eq_of_beq hkind) (List.isEmpty_iff.1 hempty)
  have hself : String.ofList s.toList = s := String.ofList_toList
  unfold Descent.add
  dsimp only
  split
  · rename_i letter x rest hsplit
    rw [hself, hs.1, hs.2, if_neg Bool.false_ne_true, if_neg Bool.false_ne_true, if_neg]
    intro hdrive
    obtain ⟨hfirst, hletter⟩ := Bool.and_eq_true_iff.1 hdrive
    exact hfront hfirst ⟨letter, hletter, .inl ⟨x :: rest, hsplit⟩⟩
  · rw [hself, hs.1, hs.2, if_neg Bool.false_ne_true, if_neg Bool.false_ne_true, if_neg]
    intro hdrive
    obtain ⟨hfirst, hs⟩ := Bool.and_eq_true_iff.1 hdrive
    exact hfront hfirst (beginsDrive_of_isDrive hs)

/-- **Names are added one after the other**, unless the first begins a drive at the front: induction on
    them. -/
theorem Descent.addAll_names_eq (h : ∀ s ∈ segments, IsName s)
    (hplace : kind = .file → d.segments = [] → ∀ s, segments.head? = some s → ¬BeginsDrive s.toList) :
    d.addAll kind (segments.map String.toList) = { d with segments := d.segments ++ segments } := by
  induction segments generalizing d with
  | nil =>
    rw [List.append_nil]
    rfl
  | cons s more ih =>
    obtain ⟨isLast, hfirst⟩ := d.addAll_cons kind s.toList (more.map String.toList)
    have hs := Descent.add_name_eq (d := d) (h s (List.mem_cons_self ..))
      (fun hkind hempty => hplace hkind hempty s rfl) isLast
    rw [List.map_cons, hfirst, hs, ih (fun r hr => h r (List.mem_cons_of_mem _ hr)), List.append_assoc]
    · rfl
    · exact fun _ hempty => absurd hempty (List.append_ne_nil_of_right_ne_nil _ (List.cons_ne_nil _ _))

/-- Empty segments at the front of a path that has none there: nothing is dropped. -/
theorem dropEmptyFront_self (hne : segments ≠ []) (h : Grounded .file segments) :
    dropEmptyFront .file segments = segments := by
  rcases h rfl with rfl | hhead
  · rfl
  · obtain ⟨s, more, rfl⟩ := List.exists_cons_of_ne_nil hne
    have hs : s ≠ "" := fun hs => hhead (congrArg some hs)
    unfold dropEmptyFront
    rw [if_pos rfl, List.dropWhile_cons_of_neg (by simpa using hs)]

/-! ## Behind a slash -/

/-- Behind a slash a drive is a name, and what follows it is walked to names. -/
theorem names_behind_slash {drive : String} (hdrive : isDrive drive.toList = true)
    (rest : List String) : ∀ s ∈ (Descent.addAll .file ⟨[""], false⟩
      ((drive :: rest).map String.toList)).segments, IsName s := by
  have hname : IsName drive := not_dot_of_isDrive hdrive
  have hfirst : ∀ isLast, (Descent.add .file ⟨[""], false⟩ drive.toList isLast) =
      ⟨["", drive], false⟩ := Descent.add_name_eq hname nofun
  have hnames : ∀ s ∈ ["", drive], IsName s :=
    List.forall_mem_cons.2 ⟨isName_empty, List.forall_mem_singleton.2 hname⟩
  obtain ⟨isLast, hcons⟩ := Descent.addAll_cons .file ⟨[""], false⟩ drive.toList
    (rest.map String.toList)
  rw [List.map_cons, hcons, hfirst]
  -- the path stays at the drive, so it does not come to another one at its front
  have hwalk := Descent.addAll_invariant .file (rest.map String.toList)
    (d := ⟨["", drive], false⟩) (P := fun segments => (∀ s ∈ segments, IsName s) ∧ HasDrive segments)
    (fun _ _ _ _ _ hbefore hadds => ⟨(names_adds hbefore.1 hadds).resolve_right fun hfront =>
      hbefore.2.ne_nil hfront.2.1, hbefore.2.adds hadds⟩)
    ⟨hnames, drive, List.mem_cons_of_mem _ (List.mem_singleton_self _), hdrive⟩
  exact hwalk.1

/-- **Behind a slash a path is walked to itself** exactly if it consists of names.  The slash
    makes an empty first piece, which is a name and begins no drive. -/
theorem descend_root_iff (hwalked : Walked .file segments) (hground : Grounded .file segments)
    (hne : segments ≠ []) (hplace : (∀ s ∈ segments, IsName s) ∨ OnDrive segments) :
    (descend .file (Path.segments segments).write).segments = segments ↔
      ∀ s ∈ segments, IsName s := by
  have hwritten : AreSegments ("" :: segments) := List.forall_mem_cons.2 ⟨nofun, hwalked.written⟩
  have hwhole : ∀ t ∈ "" :: segments, ∀ c ∈ t.toList, SchemeKind.isSlash .file c = false :=
    List.forall_mem_cons.2 ⟨nofun, hwalked.whole⟩
  have hwalk : (descend .file (Path.segments segments).write).segments =
      dropEmptyFront .file
        (Descent.addAll .file ⟨[], false⟩ (("" :: segments).map String.toList)).segments :=
    descend_write hwritten hwhole
  rw [hwalk]
  constructor
  · -- If it is walked to itself, it is what a walk leaves behind a slash, and that is names.
    intro hsame
    rcases hplace with hnames | ⟨drive, hdrive, hhead⟩
    · exact hnames
    · obtain ⟨rest, rfl⟩ := List.head?_eq_some_iff.1 hhead
      intro s hs
      rw [← hsame] at hs
      rcases mem_dropEmptyFront hs with hs | rfl
      · exact names_behind_slash hdrive rest s hs
      · exact isName_empty
  · -- Names are added as they are, and there is nothing to drop.
    intro hnames
    have hall : ∀ s ∈ "" :: segments, IsName s := List.forall_mem_cons.2 ⟨isName_empty, hnames⟩
    have hempty : ¬BeginsDrive "".toList := by
      rintro ⟨letter, -, ⟨rest, hs⟩ | hs⟩ <;> cases hs
    rw [Descent.addAll_names_eq hall fun _ _ s hs => Option.some.inj hs ▸ hempty]
    exact dropEmptyFront_self hne hground

/-! ## Behind a host -/

/-- A drive that was met stays met: no step takes that back.  Induction on the pieces. -/
theorem Descent.dropsHost_addAll (h : d.dropsHost = true) (pieces : List (List Char)) :
    (d.addAll kind pieces).dropsHost = true := by
  have hstep : ∀ (d : Descent) s isLast, d.dropsHost = true →
      (d.add kind s isLast).dropsHost = true := by
    intro d s isLast h
    unfold Descent.add
    dsimp only
    repeat' split
    all_goals first | exact h | rfl
  induction pieces generalizing d with
  | nil => exact h
  | cons s rest ih =>
    obtain ⟨isLast, hcons⟩ := d.addAll_cons kind s rest
    rw [hcons]
    exact ih (hstep d s isLast h)

/-- A drive at the front takes the host away. -/
theorem dropsHost_add {s : List Char} (hdrive : isDrive s = true) (isLast : Bool) :
    (Descent.add .file ⟨[], false⟩ s isLast).dropsHost = true := by
  have hfront : (SchemeKind.file == SchemeKind.file && ([] : List String).isEmpty) = true := rfl
  obtain ⟨hstay, hup⟩ := not_dot_of_isDrive hdrive
  unfold Descent.add
  dsimp only
  split
  · cases hdrive
  · rw [hup, hstay, if_neg Bool.false_ne_true, if_neg Bool.false_ne_true,
      if_pos (Bool.and_eq_true_iff.2 ⟨hfront, hdrive⟩)]

/-- **What begins a drive at the front** takes the host away, or is divided: the result then
    begins with the drive, and the drive is not the whole segment. -/
theorem addAll_drive (h : BeginsDrive s.toList) (more : List String) :
    (Descent.addAll .file ⟨[], false⟩ ((s :: more).map String.toList)).dropsHost = true ∨
      ∃ drive, drive ≠ "" ∧ drive ≠ s ∧
        (Descent.addAll .file ⟨[], false⟩ ((s :: more).map String.toList)).segments.head? =
          some drive := by
  obtain ⟨isLast, hcons⟩ := Descent.addAll_cons .file ⟨[], false⟩ s.toList (more.map String.toList)
  rw [List.map_cons, hcons]
  -- A letter and a colon, with more behind it or not; or a letter and a bar.
  obtain ⟨letter, hletter, hs⟩ := h
  have hfront : (SchemeKind.file == SchemeKind.file && ([] : List String).isEmpty) = true := rfl
  rcases hs with ⟨rest, hs⟩ | hs
  · cases rest with
    | nil =>
      refine .inl (Descent.dropsHost_addAll (dropsHost_add ?_ isLast) _)
      rw [hs]
      exact isDrive_letter hletter
    | cons x rest =>
      -- The first piece is divided, and the drive stays at the front whatever follows.
      have hdrive : isDrive (String.ofList [letter, ':']).toList = true := by
        rw [String.toList_ofList]
        exact isDrive_letter hletter
      have hdivided : (Descent.add .file ⟨[], false⟩ s.toList isLast).segments.head? =
          some (String.ofList [letter, ':']) := by
        rw [hs, Descent.add]
        dsimp only
        rw [if_pos (Bool.and_eq_true_iff.2 ⟨hfront, hletter⟩)]
        rfl
      refine .inr ⟨_, ne_empty_of_isDrive hdrive, ?_, ?_⟩
      · intro heq
        have hlist := congrArg String.toList heq
        rw [String.toList_ofList, hs] at hlist
        cases hlist
      · exact Descent.addAll_invariant .file (more.map String.toList)
          (P := fun segments => segments.head? = some (String.ofList [letter, ':']))
          (fun _ _ _ _ _ hbefore hadds => head_adds hdrive hbefore hadds) hdivided
  · -- A letter and a bar: a drive by itself.
    refine .inl (Descent.dropsHost_addAll (dropsHost_add ?_ isLast) _)
    rw [hs]
    exact Bool.and_eq_true_iff.2 ⟨hletter, rfl⟩

/-- **Behind a host a path is walked to itself**, and leaves the host, exactly if it consists of names
    and does not begin like a drive. -/
theorem descend_front_iff (hwalked : Walked .file (s :: more)) (hground : Grounded .file (s :: more))
    (hplace : (∀ t ∈ s :: more, IsName t) ∨ OnDrive (s :: more)) :
    ((descend .file (s.toList ++ (Path.segments more).write)).dropsHost = false ∧
        (descend .file (s.toList ++ (Path.segments more).write)).segments = s :: more) ↔
      (∀ t ∈ s :: more, IsName t) ∧ ¬BeginsDrive s.toList := by
  rw [descend_eq hwalked.written hwalked.whole]
  dsimp only
  constructor
  · -- The host is left and nothing is changed, so the path does not begin like a drive. It cannot
    -- be on a drive either, as that would begin like one.
    rintro ⟨hdrops, hsame⟩
    have hdrive : ¬BeginsDrive s.toList := by
      intro hdrive
      rcases addAll_drive hdrive more with hdropped | ⟨drive, hne, hother, hhead⟩
      · rw [hdrops] at hdropped
        cases hdropped
      · have hfront : (dropEmptyFront .file _).head? = some drive := head_dropEmptyFront hne hhead
        rw [hsame] at hfront
        exact hother (Option.some.inj hfront).symm
    refine ⟨hplace.resolve_right ?_, hdrive⟩
    rintro ⟨drive, hletter, hhead⟩
    rw [← Option.some.inj hhead] at hletter
    exact hdrive (beginsDrive_of_isDrive hletter)
  · -- Names that begin no drive are added as they are.
    rintro ⟨hnames, hdrive⟩
    rw [Descent.addAll_names_eq hnames fun _ _ t ht => Option.some.inj ht ▸ hdrive]
    exact ⟨rfl, dropEmptyFront_self (List.cons_ne_nil _ _) hground⟩

end LeaseKeeper.Url
