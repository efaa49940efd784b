/-
  Adding names below a path.

  A name becomes one segment at the end of the path, and the segment is read back as the name
  (`below?_names`, `plainText?_encodeSegment`), with two exceptions:

    * tabs and line breaks in a name vanish (`visible`);

    * a name that is a point or two is an instruction, and no segment (`isInstruction`).

  A segment that is written for any other name is no instruction, though it may hold points: the
  percent sign is encoded, so `%2e` is never written for a point.

  The path itself loses an empty segment at its end, and the root has none (`stem`).

    1. Reading a segment back is decoding it, and decoding is the inverse of encoding on bytes
       (`percentDecode_encodeSegment`).  This gives injectivity, and by the same equation that
       only an instruction is written like one.

    2. One name is added to a path that has `Begun`, and a path that has begun goes on
       (`pushName_begun`, `Begun.concat`).  The first name below a registry is always the same
       one, so the special cases at the front of a path are settled for it alone
       (`pushName_apps`).

    3. Walking a path when it is read takes the same step for each piece.  The last two sections
       say what one step may do (`Descent.Adds`) and what reading leaves of a path, for the
       modules that read URLs again.
-/
import LeaseKeeper.Http.Request
import LeaseKeeper.Proofs.Url.Percent
import LeaseKeeper.Url.Reader

namespace LeaseKeeper.Url

/-! ## What is left of a name -/

/-- The characters of a name that count: all but tabs and line breaks. -/
def visible (name : String) : List Char := name.toList.filter fun c => !isSkipped c

/-- A name that is a point or two. -/
def isInstruction (cs : List Char) : Bool := cs == ['.'] || cs == ['.', '.']

/-- **A name that becomes a segment and is left as it is**: it has no tabs or line breaks.  It
    may still be an instruction. -/
def IsUnbroken (name : String) : Prop := ∀ c ∈ name.toList, isSkipped c = false

instance (name : String) : Decidable (IsUnbroken name) :=
  List.decidableBAll (fun c => isSkipped c = false) name.toList

theorem IsUnbroken.visible {name : String} (h : IsUnbroken name) : visible name = name.toList :=
  List.filter_eq_self.2 fun c hc => by rw [h c hc]; rfl

/-- The set with which segments are encoded. -/
def segmentSet (kind : SchemeKind) : Char → Bool :=
  if kind.isSpecial then inSpecialSegment else inSegment

theorem encodeSegment_eq (kind : SchemeKind) (name : String) :
    encodeSegment kind name = percentEncode (segmentSet kind) (visible name) := rfl

theorem segmentSet_percent (kind : SchemeKind) : segmentSet kind '%' = true := by
  cases kind <;> decide

/-- **A segment is read back as its name**, byte by byte: the percent sign is in the set, so
    nothing that was not encoded is taken for an escape. -/
theorem percentDecode_encodeSegment (kind : SchemeKind) (name : String) :
    percentDecode (encodeSegment kind name) = utf8Bytes (visible name) :=
  percentDecode_percentEncode (segmentSet_percent kind) _

theorem plainText?_encodeSegment (kind : SchemeKind) {name : String} (h : IsUnbroken name) :
    plainText? (String.ofList (encodeSegment kind name)) = some name := by
  unfold plainText?
  rw [String.toList_ofList, percentDecode_encodeSegment, utf8Decode?_utf8Bytes, h.visible,
    Option.map_some, String.ofList_toList]

/-- A segment that is read back as its name belongs to a name that is left as it is. -/
theorem isUnbroken_of_plainText? {kind : SchemeKind} {name : String}
    (h : plainText? (String.ofList (encodeSegment kind name)) = some name) : IsUnbroken name := by
  unfold plainText? at h
  rw [String.toList_ofList, percentDecode_encodeSegment, utf8Decode?_utf8Bytes] at h
  have hname := congrArg String.toList (Option.some.inj h)
  rw [String.toList_ofList] at hname
  intro c hc
  rw [← hname] at hc
  simpa [visible] using (List.mem_filter.1 hc).2

/-- Names that are left as they are and written alike are one name. -/
theorem encodeSegment_inj {kind : SchemeKind} {a b : String} (ha : IsUnbroken a) (hb : IsUnbroken b)
    (h : encodeSegment kind a = encodeSegment kind b) : a = b := by
  have htext := plainText?_encodeSegment kind ha
  rw [h, plainText?_encodeSegment kind hb] at htext
  exact (Option.some.inj htext).symm

/-- A segment has no slash, so it stays one segment when the URL is read again. -/
theorem slash_not_mem_encodeSegment (kind : SchemeKind) (name : String) :
    '/' ∉ encodeSegment kind name := by
  have hset : segmentSet kind '/' = true := by cases kind <;> decide
  exact not_mem_percentEncode hset (by decide) (by decide) (visible name)

/-! ## Instructions -/

/-- The spellings of one point, and of two, mean what they spell. -/
theorem percentDecode_of_isSingleDot {s : List Char} (h : isSingleDot s = true) :
    percentDecode s = utf8Bytes ['.'] := by
  have hall : ∀ s ∈ dotTexts, percentDecode s = utf8Bytes ['.'] := by decide
  exact hall s (List.contains_iff_mem.1 h)

theorem percentDecode_of_isDoubleDot {s : List Char} (h : isDoubleDot s = true) :
    percentDecode s = utf8Bytes ['.', '.'] := by
  have hall : ∀ a ∈ dotTexts, ∀ b ∈ dotTexts, percentDecode (a ++ b) = utf8Bytes ['.', '.'] := by
    decide
  obtain ⟨a, ha, h⟩ := List.any_eq_true.1 h
  obtain ⟨b, hb, h⟩ := List.any_eq_true.1 h
  rw [eq_of_beq h]
  exact hall a ha b hb

/-- **A segment is an instruction only if its name is.**  The spellings of points are compared
    after decoding: both would decode to the same bytes, and bytes determine their text. -/
theorem not_dot_encodeSegment {name : String} (h : isInstruction (visible name) = false)
    (kind : SchemeKind) :
    isSingleDot (encodeSegment kind name) = false ∧
      isDoubleDot (encodeSegment kind name) = false := by
  obtain ⟨hone, htwo⟩ := (Bool.or_eq_false_iff ..).1 h
  have hdecode := percentDecode_encodeSegment kind name
  constructor
  · refine Bool.eq_false_iff.2 fun hdot => beq_eq_false_iff_ne.1 hone ?_
    rw [percentDecode_of_isSingleDot hdot] at hdecode
    exact (utf8Bytes_inj hdecode).symm
  · refine Bool.eq_false_iff.2 fun hdot => beq_eq_false_iff_ne.1 htwo ?_
    rw [percentDecode_of_isDoubleDot hdot] at hdecode
    exact (utf8Bytes_inj hdecode).symm

/-! ## Adding one name -/

section

variable {kind : SchemeKind} {segments : List String} {name : String}

/-- **A segment that is no instruction is added at the end**, unless it could be a drive at the
    front of a `file` path.  That the path is not empty is all that is asked of a `file` path. -/
theorem Descent.add_segments {d : Descent} {s : List Char} (hdot : isSingleDot s = false)
    (hdots : isDoubleDot s = false) (hfront : kind = .file → d.segments ≠ []) (isLast : Bool) :
    (d.add kind s isLast).segments = d.segments ++ [String.ofList s] := by
  have hdrive : (kind == .file && d.segments.isEmpty) = false := by
    cases hempty : d.segments.isEmpty with
    | false => exact Bool.and_false _
    | true =>
      rw [Bool.and_true]
      exact beq_eq_false_iff_ne.2 fun hkind => hfront hkind (List.isEmpty_iff.1 hempty)
  unfold Descent.add
  simp only [hdrive, hdot, hdots, Bool.false_and, Bool.false_eq_true, if_false]
  split <;> rfl

/-- A path that has begun: of a `file` path the first segment is not empty.  Neither the root nor
    an empty path has, and these are what the writer treats in a way of their own. -/
structure Begun (kind : SchemeKind) (segments : List String) : Prop where
  ne_nil : segments ≠ []
  ne_root : segments ≠ [""]
  front : kind = .file → segments.head? ≠ some ""

theorem Begun.dropEmptyFront (h : Begun kind segments) :
    Url.dropEmptyFront kind segments = segments := by
  unfold Url.dropEmptyFront
  split
  · rename_i hkind
    cases segments with
    | nil => exact absurd rfl h.ne_nil
    | cons s rest =>
      have hs : s ≠ "" := fun hs => h.front hkind (congrArg some hs)
      rw [List.dropWhile_cons_of_neg (by simpa using hs)]
  · rfl

/-- What has begun goes on: the front stays as it is, whatever is added at the end. -/
theorem Begun.concat (h : Begun kind segments) (s : String) : Begun kind (segments ++ [s]) := by
  obtain ⟨hnil, hroot, hfront⟩ := h
  cases segments with
  | nil => exact absurd rfl hnil
  | cons a more =>
    refine ⟨by simp, fun heq => ?_, hfront⟩
    have htail : more ++ [s] = [] := (List.cons.inj heq).2
    exact absurd (List.append_eq_nil_iff.1 htail).2 (by simp)

/-- **A name is added to a path that has begun.**  A point and two points are left out by the
    writer itself, so they are excluded with the other instructions. -/
theorem pushName_begun (h : Begun kind segments) (hname : isInstruction (visible name) = false) :
    pushName kind segments name = segments ++ [String.ofList (encodeSegment kind name)] := by
  have hpoint : ¬(name = "." ∨ name = "..") := by
    rintro (rfl | rfl) <;> exact absurd hname (by decide)
  obtain ⟨hdot, hdots⟩ := not_dot_encodeSegment hname kind
  unfold pushName
  rw [if_neg hpoint, if_neg h.ne_root]
  show Url.dropEmptyFront kind (Descent.add kind ⟨segments, false⟩ _ true).segments = _
  rw [Descent.add_segments hdot hdots fun _ => h.ne_nil]
  exact (h.concat _).dropEmptyFront

/-- An empty segment at the end stays there, even where the front of the path is dropped. -/
theorem dropEmptyFront_last (kind : SchemeKind) (segments : List String) :
    (Url.dropEmptyFront kind (segments ++ [""])).getLast? = some "" := by
  unfold Url.dropEmptyFront
  split
  · split
    · rfl
    · rename_i hne
      obtain ⟨front, hfront⟩ := List.dropWhile_suffix (l := segments ++ [""]) (· == "")
      have hlast := congrArg List.getLast? hfront
      rw [List.getLast?_concat, List.getLast?_append] at hlast
      cases hrest : ((segments ++ [""]).dropWhile (· == "")).getLast? with
      | none => exact absurd (List.getLast?_eq_none_iff.1 hrest) hne
      | some s => rwa [hrest] at hlast
  · exact List.getLast?_concat

/-- **A name that is an instruction without being a point or two** leaves an empty segment.  That
    is a point or two with tabs or line breaks between them: the writer lets it pass, and then
    walks over it. -/
theorem pushName_instruction (h : isInstruction (visible name) = true)
    (hpoint : ¬(name = "." ∨ name = "..")) (kind : SchemeKind) (segments : List String) :
    (pushName kind segments name).getLast? = some "" := by
  unfold pushName
  rw [if_neg hpoint, encodeSegment_eq]
  rcases Bool.or_eq_true_iff.1 h with hone | htwo
  · -- one point
    rw [eq_of_beq hone]
    have hsegment : percentEncode (segmentSet kind) ['.'] = ['.'] := by cases kind <;> decide
    rw [hsegment]
    exact dropEmptyFront_last kind _
  · -- two points
    rw [eq_of_beq htwo]
    have hsegment : percentEncode (segmentSet kind) ['.', '.'] = ['.', '.'] := by
      cases kind <;> decide
    rw [hsegment]
    exact dropEmptyFront_last kind _

/-! ## The path that is added to -/

/-- **The segments below which something is added**: those of the path, without an empty one at
    the end.  A path of two empty segments counts as the root, which has none. -/
def stem (segments : List String) : List String :=
  if segments = ["", ""] then []
  else if segments.getLast? = some "" then segments.dropLast
  else segments

/-- What is left of the path when the first name comes.  The cases are whether it ends in an
    empty segment, and then whether that is all there is of it. -/
theorem stem_eq (segments : List String) :
    stem segments = if dropEmptyEnd segments = [""] then [] else dropEmptyEnd segments := by
  by_cases hlast : segments.getLast? = some ""
  -- the empty segment at the end, with something in front of it
  · have hsplit : segments = segments.dropLast ++ [""] := by
      obtain ⟨front, rfl⟩ := List.getLast?_eq_some_iff.1 hlast
      rw [List.dropLast_concat]
    by_cases hroot : segments = [""]
    · rw [hroot]
      rfl
    · have hlength : 1 < segments.length := by
        rcases Nat.lt_or_ge 1 segments.length with h | h
        · exact h
        · have hdrop : segments.dropLast = [] := by
            refine List.eq_nil_of_length_eq_zero ?_
            rw [List.length_dropLast]
            omega
          rw [hdrop] at hsplit
          exact absurd hsplit hroot
      have hdrop : dropEmptyEnd segments = segments.dropLast := if_pos ⟨hlength, hlast⟩
      rw [hdrop]
      unfold stem
      by_cases htwo : segments.dropLast = [""]
      · have hboth : segments = ["", ""] := by
          rw [htwo] at hsplit
          exact hsplit
        rw [if_pos htwo, if_pos hboth]
      · have hboth : segments ≠ ["", ""] := by
          rintro rfl
          exact htwo rfl
        rw [if_neg htwo, if_neg hboth, if_pos hlast]
  · -- no empty segment at the end, so the path is neither of the two exceptions
    have hsame : dropEmptyEnd segments = segments := if_neg fun h => hlast h.2
    have hboth : segments ≠ ["", ""] := by
      rintro rfl
      exact hlast rfl
    have hroot : segments ≠ [""] := by
      rintro rfl
      exact hlast rfl
    rw [hsame, stem, if_neg hboth, if_neg hlast, if_neg hroot]

/-- The path of a `file` URL is the root or does not begin with an empty segment.  For other
    schemes this says nothing. -/
def Grounded (kind : SchemeKind) (segments : List String) : Prop :=
  kind = .file → segments = [""] ∨ segments.head? ≠ some ""

theorem Grounded.stem (h : Grounded kind segments) (hkind : kind = .file) :
    (Url.stem segments).head? ≠ some "" := by
  rcases h hkind with rfl | hhead
  · decide
  · unfold Url.stem
    split
    · exact nofun
    · split
      · cases segments with
        | nil => exact nofun
        | cons a rest =>
          cases rest with
          | nil => exact nofun
          | cons b rest => exact hhead
      · exact hhead

/-- **The first name below a path.**  It is the name of the applications, which is neither empty
    nor an instruction nor a drive; after it every path has begun. -/
theorem pushName_apps (h : Grounded kind segments) :
    pushName kind (dropEmptyEnd segments) "apps" = stem segments ++ ["apps"] ∧
      Begun kind (stem segments ++ ["apps"]) := by
  have hencode : String.ofList (encodeSegment kind "apps") = "apps" := by cases kind <;> decide
  have hstem := stem_eq segments
  -- the root counts as empty, and so does the empty path
  by_cases hroot : dropEmptyEnd segments = [""]
  · rw [if_pos hroot] at hstem
    rw [hstem, hroot]
    refine ⟨by cases kind <;> decide, by decide, by decide, fun _ => by decide⟩
  · rw [if_neg hroot] at hstem
    rw [← hstem]
    by_cases hnil : stem segments = []
    · rw [hnil]
      refine ⟨by cases kind <;> decide, by decide, by decide, fun _ => by decide⟩
    · have hbegun : Begun kind (stem segments) := ⟨hnil, hstem ▸ hroot, fun hkind => h.stem hkind⟩
      refine ⟨?_, hbegun.concat "apps"⟩
      rw [pushName_begun hbegun (by decide), hencode]

end

/-! ## Adding several names -/

/-- Names are added one after the other to a path that has begun. -/
theorem foldl_pushName {kind : SchemeKind} {names : List String}
    (hnames : ∀ name ∈ names, isInstruction (visible name) = false) {segments : List String}
    (h : Begun kind segments) : names.foldl (pushName kind) segments =
      segments ++ names.map fun name => String.ofList (encodeSegment kind name) := by
  induction names generalizing segments with
  | nil => exact (List.append_nil _).symm
  | cons name names ih =>
    have hmore := ih (fun n hn => hnames n (List.mem_cons_of_mem _ hn))
      (h.concat (String.ofList (encodeSegment kind name)))
    rw [List.foldl_cons, pushName_begun h (hnames name (List.mem_cons_self ..)), hmore,
      List.map_cons, List.append_assoc]
    rfl

/-- The names come after the applications of the registry, whatever names they are. -/
theorem below?_apps {u : Url} {segments : List String} (hpath : u.path = .segments segments)
    (hground : Grounded u.kind segments) (names : List String) :
    u.below? ("apps" :: names) = some { u with
      path := .segments (names.foldl (pushName u.kind) (stem segments ++ ["apps"])) } := by
  unfold below?
  rw [hpath]
  show some _ = _
  rw [List.foldl_cons, (pushName_apps hground).1]

/-- **The URL of something below the applications of a registry**: one segment for each name, below
    what is left of the path. -/
theorem below?_names {u : Url} {segments : List String} (hpath : u.path = .segments segments)
    (hground : Grounded u.kind segments) {names : List String}
    (hnames : ∀ name ∈ names, isInstruction (visible name) = false) :
    u.below? ("apps" :: names) = some { u with
      path := .segments (stem segments ++ "apps" ::
        names.map fun name => String.ofList (encodeSegment u.kind name)) } := by
  rw [below?_apps hpath hground, foldl_pushName hnames (pushName_apps hground).2,
    List.append_assoc]
  rfl

/-! ## The walk along a path -/

/-- What an instruction leaves behind: an empty segment at the end of a path. -/
def leave (isLast : Bool) (segments : List String) : List String :=
  if isLast then segments ++ [""] else segments

/-- **A step of the walk along a path**: an instruction is followed, a drive begins a `file`
    path, and every other piece is added as it is.  What is said of a path that was read is
    proved for these four cases. -/
inductive Descent.Adds (kind : SchemeKind) (segments : List String) (s : List Char) (isLast : Bool) :
    List String → Prop
  | up (h : isDoubleDot s = true) : Adds kind segments s isLast (leave isLast (goUp segments))
  | stay (h : isSingleDot s = true) : Adds kind segments s isLast (leave isLast segments)
  | drive {letter mark : Char} {rest : List Char} {more : List String} (hkind : kind = .file)
      (hfirst : segments = []) (hs : s = letter :: mark :: rest) (hletter : letter.isAlpha = true)
      (hmore : ∀ t ∈ more, t = String.ofList rest) :
      Adds kind segments s isLast (String.ofList [letter, ':'] :: more)
  | name (hstay : isSingleDot s = false) (hup : isDoubleDot s = false) :
      Adds kind segments s isLast (segments ++ [String.ofList s])

/-- Every segment is added by one of these steps.  The reader asks for a drive with something
    behind it first, then for the instructions, then for a drive alone. -/
theorem Descent.add_adds (kind : SchemeKind) (d : Descent) (s : List Char) (isLast : Bool) :
    Adds kind d.segments s isLast (d.add kind s isLast).segments := by
  have hfront : ∀ p : Bool, ((kind == .file && d.segments.isEmpty) && p) = true →
      kind = .file ∧ d.segments = [] ∧ p = true := by
    intro p hp
    obtain ⟨hplace, hp⟩ := Bool.and_eq_true_iff.1 hp
    obtain ⟨hkind, hempty⟩ := Bool.and_eq_true_iff.1 hplace
    exact ⟨eq_of_beq hkind, List.isEmpty_iff.1 hempty, hp⟩
  unfold Descent.add
  dsimp only
  split
  · rename_i a x rest
    split
    · rename_i hdrive
      obtain ⟨hkind, hempty, ha⟩ := hfront _ hdrive
      exact .drive hkind hempty rfl ha fun t ht => List.mem_singleton.1 ht
    · split
      · rename_i hup
        exact .up hup
      · rename_i hup
        split
        · rename_i hstay
          exact .stay hstay
        · rename_i hstay
          exact .name (Bool.eq_false_iff.2 hstay) (Bool.eq_false_iff.2 hup)
  · -- at most one character: no drive with something behind it
    split
    · rename_i hup
      exact .up hup
    · rename_i hup
      split
      · rename_i hstay
        exact .stay hstay
      · rename_i hstay
        split
        · rename_i hdrive
          obtain ⟨hkind, hempty, hs⟩ := hfront _ hdrive
          unfold isDrive at hs
          split at hs
          · exact .drive hkind hempty rfl (Bool.and_eq_true_iff.1 hs).1 nofun
          · cases hs
        · exact .name (Bool.eq_false_iff.2 hstay) (Bool.eq_false_iff.2 hup)

/-- **What every step keeps, the walk keeps**: induction on the pieces.  The last piece is
    marked, so a list of one is a case of its own. -/
theorem Descent.addAll_invariant (kind : SchemeKind) (pieces : List (List Char))
    {P : List String → Prop} (hstep : ∀ s ∈ pieces, ∀ isLast segments after, P segments →
      Adds kind segments s isLast after → P after) {d : Descent} (h : P d.segments) :
    P (d.addAll kind pieces).segments := by
  induction pieces generalizing d with
  | nil => exact h
  | cons s rest ih =>
    have hs := fun isLast => hstep s (List.mem_cons_self ..) isLast _ _ h (d.add_adds kind s isLast)
    cases rest with
    | nil => exact hs true
    | cons s' rest => exact ih (fun t ht => hstep t (List.mem_cons_of_mem _ ht)) (hs false)

theorem mem_leave {isLast : Bool} {segments : List String} {t : String}
    (h : t ∈ leave isLast segments) : t ∈ segments ∨ t = "" := by
  cases isLast with
  | false => exact .inl h
  | true => exact (List.mem_append.1 h).imp_right List.mem_singleton.1

theorem mem_goUp {segments : List String} {t : String} (h : t ∈ goUp segments) : t ∈ segments := by
  unfold goUp at h
  split at h
  · cases h
  · split at h
    · exact h
    · exact List.dropLast_subset _ h

theorem mem_dropEmptyFront {kind : SchemeKind} {segments : List String} {t : String}
    (h : t ∈ dropEmptyFront kind segments) : t ∈ segments ∨ t = "" := by
  unfold dropEmptyFront at h
  split at h
  · split at h
    · exact .inr (List.mem_singleton.1 h)
    · exact .inl (List.dropWhile_subset _ h)
  · exact .inl h

/-- **A step brings no character** but those of its piece and the colon of a drive. -/
theorem Descent.Adds.chars {kind : SchemeKind} {segments after : List String} {s : List Char}
    {isLast : Bool} {p : Char → Prop} (hcolon : p ':') (hs : ∀ c ∈ s, p c)
    (h : ∀ t ∈ segments, ∀ c ∈ t.toList, p c) (hadds : Adds kind segments s isLast after) :
    ∀ t ∈ after, ∀ c ∈ t.toList, p c := by
  intro t ht
  have hempty : t = "" → ∀ c ∈ t.toList, p c := by
    rintro rfl
    exact nofun
  cases hadds with
  | up => exact (mem_leave ht).elim (fun ht => h t (mem_goUp ht)) hempty
  | stay => exact (mem_leave ht).elim (h t) hempty
  | drive hkind hfirst hsplit hletter hmore =>
    subst hsplit
    rcases List.mem_cons.1 ht with rfl | ht
    · intro c hc
      rw [String.toList_ofList] at hc
      rcases List.mem_cons.1 hc with rfl | hc
      · exact hs c (List.mem_cons_self ..)
      · exact List.mem_singleton.1 hc ▸ hcolon
    · rw [hmore t ht, String.toList_ofList]
      exact fun c hc => hs c (List.mem_cons_of_mem _ (List.mem_cons_of_mem _ hc))
  | name =>
    rcases List.mem_append.1 ht with ht | ht
    · exact h t ht
    · rw [List.mem_singleton.1 ht, String.toList_ofList]
      exact hs

/-- **The characters of a path that was walked** are those of the encoded pieces, and colons.
    Dropping empty segments at the front adds none. -/
theorem chars_descend {kind : SchemeKind} {cs : List Char} {p : Char → Prop} (hcolon : p ':')
    (h : ∀ piece ∈ splitSlashes kind cs, ∀ c ∈ percentEncode inPath piece, p c) :
    ∀ t ∈ (descend kind cs).segments, ∀ c ∈ t.toList, p c := by
  have hall : ∀ t ∈ (Descent.addAll kind ⟨[], false⟩
      ((splitSlashes kind cs).map (percentEncode inPath))).segments, ∀ c ∈ t.toList, p c := by
    refine Descent.addAll_invariant _ _ (P := fun segments => ∀ t ∈ segments, ∀ c ∈ t.toList, p c)
      (fun s hs isLast segments after hbefore hadds => ?_) nofun
    obtain ⟨piece, hpiece, rfl⟩ := List.mem_map.1 hs
    exact hadds.chars hcolon (h piece hpiece) hbefore
  intro t ht
  rcases mem_dropEmptyFront ht with ht | rfl
  · exact hall t ht
  · exact nofun

/-! ## Paths that are read -/

/-- What two steps that may fail have given together, both have given. -/
theorem bind_eq_ok {ε α β : Type} {x : Except ε α} {f : α → Except ε β} {b : β}
    (h : x >>= f = .ok b) : ∃ a, x = .ok a ∧ f a = .ok b := by
  cases x with
  | error e => cases h
  | ok a => exact ⟨a, rfl, h⟩

/-- **What an authority was read from**: user information, a host and perhaps a port, one after
    the other.  Each step may fail, so a URL that was read has passed all of them. -/
theorem readAuthority_eq_ok {scheme : String} {cs : List Char} {u : Url}
    (h : readAuthority scheme cs = .ok u) :
    ∃ info afterInfo host port afterPort,
      takeUserInfo (.ofScheme scheme) cs = .ok (info, afterInfo) ∧
      readHost (.ofScheme scheme) (takeHost (.ofScheme scheme) false afterInfo).1 = .ok host ∧
      readPort host (takeHost (.ofScheme scheme) false afterInfo).2 = .ok (port, afterPort) ∧
      ¬(host = .absent ∧ ((readUserInfo info).1 ≠ "" ∨ (readUserInfo info).2 ≠ "")) ∧
      u = withAuthority scheme (readUserInfo info).1 (readUserInfo info).2 host port afterPort := by
  unfold readAuthority at h
  obtain ⟨⟨info, afterInfo⟩, hinfo, h⟩ := bind_eq_ok h
  obtain ⟨host, hhost, h⟩ := bind_eq_ok h
  obtain ⟨⟨port, afterPort⟩, hport, h⟩ := bind_eq_ok h
  dsimp only at h
  split at h
  · cases h
  · rename_i hplace
    exact ⟨info, afterInfo, host, port, afterPort, hinfo, hhost, hport, hplace, (Except.ok.inj h).symm⟩

/-- The scheme of a URL with an authority is the one that was read. -/
theorem readAuthority_scheme {scheme : String} {cs : List Char} {u : Url}
    (h : readAuthority scheme cs = .ok u) : u.scheme = scheme := by
  obtain ⟨_, _, _, _, _, -, -, -, -, rfl⟩ := readAuthority_eq_ok h
  rfl

theorem readGeneral_scheme {scheme : String} {cs : List Char} {u : Url}
    (h : readGeneral scheme cs = .ok u) : u.scheme = scheme := by
  unfold readGeneral at h
  split at h
  · exact readAuthority_scheme h
  · cases h
    rfl

/-- Whatever a `file` URL is read from, its path is built in one way. -/
theorem readFile_eq {cs : List Char} {u : Url} (h : readFile cs = .ok u) :
    ∃ host path tail, u = fileUrl host path tail := by
  unfold readFile at h
  dsimp only at h
  split at h
  · split at h
    · split at h
      · cases h
        exact ⟨_, _, _, rfl⟩
      · split at h
        · cases h
          exact ⟨_, _, _, rfl⟩
        · obtain ⟨host, -, h⟩ := bind_eq_ok h
          split at h <;> cases h <;> exact ⟨_, _, _, rfl⟩
    · split at h <;> cases h <;> exact ⟨_, _, _, rfl⟩
  · cases h
    exact ⟨_, _, _, rfl⟩
  · cases h
    exact ⟨_, _, _, rfl⟩

/-- **A special URL is read from its authority**, which comes after the slashes behind its
    scheme.  The other two kinds are excluded by the scheme of what they give. -/
theorem parse_special {text : String} {u : Url} (h : parse text = .ok u)
    (hkind : u.kind = .special) : ∃ cs, takeScheme? (significant text) = some (u.scheme, cs) ∧
      readAuthority u.scheme (cs.dropWhile (SchemeKind.isSlash .special)) = .ok u := by
  unfold parse at h
  split at h
  · cases h
  · rename_i scheme cs htake
    split at h
    · obtain ⟨host, path, tail, rfl⟩ := readFile_eq h
      cases hkind
    · obtain rfl := readAuthority_scheme h
      exact ⟨cs, htake, h⟩
    · rename_i hgeneral
      rw [kind, readGeneral_scheme h, hgeneral] at hkind
      cases hkind

theorem grounded_dropEmptyFront (segments : List String) :
    Grounded .file (dropEmptyFront .file segments) := by
  intro _
  unfold dropEmptyFront
  rw [if_pos rfl]
  split
  · exact .inl rfl
  · -- what is left begins with the first segment that is not empty
    refine .inr fun hhead => ?_
    have hfirst := List.head?_dropWhile_not (· == "") segments
    rw [hhead] at hfirst
    cases hfirst

/-- **A path that was read is grounded.**  For a `file` URL the empty front was dropped; for the
    others there is nothing to show. -/
theorem parse_grounded {text : String} {u : Url} (h : parse text = .ok u) {segments : List String}
    (hpath : u.path = .segments segments) : Grounded u.kind segments := by
  unfold parse at h
  split at h
  · cases h
  · rename_i scheme cs _
    split at h
    · obtain ⟨host, path, tail, rfl⟩ := readFile_eq h
      cases hpath
      exact grounded_dropEmptyFront _
    · rename_i hkind
      intro hfile
      rw [kind, readAuthority_scheme h, hkind] at hfile
      cases hfile
    · rename_i hkind
      intro hfile
      rw [kind, readGeneral_scheme h, hkind] at hfile
      cases hfile

end LeaseKeeper.Url
