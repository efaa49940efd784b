/-
  Names of ideographs.

  A unified ideograph stands for itself wherever a name is looked at: it is kept, it neither
  decomposes nor composes, and it is no mark and no joiner.  So a label of ideographs is just
  written in Punycode (`toAscii?_ideographs`).

  That may make a label that is not read: at most `maxEncoded` characters are written, and at most
  `maxDecoded` digits are read, but a character may take three digits and more (`toAscii?_lost`).

    1. The range of ideographs is checked against every table once (`inert_ideographs`); the
       proofs after it know the tables only through that structure.

    2. One ideograph passes each step of the ASCII form unchanged, so a name of them does
       (`Transcribed` with the name as its own single label).

    3. The digits that Punycode spends are counted from below by how far apart the characters are
       (`Punycode.Sparse`), which takes the written label over the limit of the reader.
-/
import LeaseKeeper.Proofs.DomainName.ToAscii
import LeaseKeeper.Proofs.Text.Composition

namespace LeaseKeeper.DomainName

open Text.RangeTable

/-- A unified ideograph. -/
def IsIdeograph (c : Char) : Prop := 0x4E00 ≤ c.toNat ∧ c.toNat ≤ 0x9FFF

/-! ## The tables

Their texts are taken apart by the kernel, word by word.  A table is looked at as its text only, and
behind a lemma about `ofText`: a goal with the table itself would make the kernel search it. -/

/-- **A range of inert characters**: they are kept, and no other table changes or marks them.
    One field for each table that the steps of the ASCII form look into. -/
structure Inert (lo hi : Nat) : Prop where
  kept : Mapping.keptTable.Spans lo hi
  marks : markTable.Skips lo hi
  combiningClasses : Text.Composition.classTable.Skips lo hi
  decompositions : Text.Composition.decompositionTable.Skips lo hi
  /-- No pair that composes begins with one of them. -/
  pairs : ∀ r ∈ (ofText Text.Composition.Table.pairs).runs.toList,
    (r.assigned.headD 0 < lo || hi < r.assigned.headD 0) = true
  rightToLeft : (ofText Direction.Table.rightToLeft).Skips lo hi
  arabicLetter : (ofText Direction.Table.arabicLetter).Skips lo hi
  arabicNumber : (ofText Direction.Table.arabicNumber).Skips lo hi

set_option maxRecDepth 1000000 in
theorem inert_ideographs : Inert 0x4E00 0x9FFF where
  kept := by
    unfold Mapping.keptTable Mapping.Table.kept
    apply spans_ofText
    · with_reducible rfl
    · decide +kernel
  marks := by
    unfold markTable Mark.Table.marks
    apply skips_ofText
    · with_reducible rfl
    · decide +kernel
  combiningClasses := by
    unfold Text.Composition.classTable Text.Composition.Table.combiningClasses
    apply skips_ofText
    · with_reducible rfl
    · decide +kernel
  decompositions := by
    unfold Text.Composition.decompositionTable Text.Composition.Table.decompositions
    apply skips_ofText
    · with_reducible rfl
    · decide +kernel
  pairs := by
    unfold Text.Composition.Table.pairs
    apply forall_ofText
    · with_reducible rfl
    · decide +kernel
  rightToLeft := by
    unfold Direction.Table.rightToLeft
    apply skips_ofText
    · with_reducible rfl
    · decide +kernel
  arabicLetter := by
    unfold Direction.Table.arabicLetter
    apply skips_ofText
    · with_reducible rfl
    · decide +kernel
  arabicNumber := by
    unfold Direction.Table.arabicNumber
    apply skips_ofText
    · with_reducible rfl
    · decide +kernel

section

variable {c : Char} {name : List Char}

/-! ## One ideograph -/

/-- It is not ASCII, and no joiner.  Every rule for ASCII characters is thereby out of the way. -/
theorem IsIdeograph.not_ascii (h : IsIdeograph c) : ¬c.toNat < 0x80 := by
  have := h.1
  omega

theorem IsIdeograph.not_joiner (h : IsIdeograph c) :
    c ≠ Joining.nonJoiner ∧ c ≠ Joining.joiner := by
  constructor
  · rintro rfl
    exact absurd h.1 (by decide)
  · rintro rfl
    exact absurd h.1 (by decide)

/-- The characters that are forbidden in a host are ASCII. -/
theorem IsIdeograph.not_isForbidden (h : IsIdeograph c) : isForbidden c = false := by
  have hfirst := h.1
  have hlist : ∀ d ∈ "#%/:<>?@[\\]^|".toList, d.toNat < 0x80 := by simp
  unfold isForbidden
  simp only [Bool.or_eq_false_iff, decide_eq_false_iff_not, beq_eq_false_iff_ne]
  refine ⟨⟨by omega, by omega⟩, Bool.eq_false_iff.2 fun hc => ?_⟩
  exact h.not_ascii (hlist c (List.contains_iff_mem.1 hc))

/-- It is kept as it is. -/
theorem IsIdeograph.contains (h : IsIdeograph c) : Mapping.keptTable.contains c = true :=
  inert_ideographs.kept.contains h.1 h.2

/-- It does not make a name subject to the rule for directions. -/
theorem IsIdeograph.not_marksName (h : IsIdeograph c) : (Direction.ofChar c).marksName = false :=
  DomainName.not_marksName (inert_ideographs.rightToLeft.not_contains h.1 h.2)
    (inert_ideographs.arabicLetter.not_contains h.1 h.2)
    (inert_ideographs.arabicNumber.not_contains h.1 h.2)

/-- **Composition leaves it alone.**  Three things are to be shown: it does not decompose, it is
    a starter, and no pair that begins with it composes.  Hangul syllables are composed by
    computing, not from the table, so they are excluded by their code points. -/
theorem IsIdeograph.isStill (h : IsIdeograph c) : Text.Composition.IsStill c := by
  obtain ⟨hlo, hhi⟩ := h
  refine ⟨?_, ?_, fun d => ?_⟩
  · -- it is its own decomposition
    have hparts : Text.Composition.syllableParts c = none := by
      unfold Text.Composition.syllableParts Text.Composition.syllableBase
      exact if_neg (by omega)
    unfold Text.Composition.decomposeChar
    rw [hparts, inert_ideographs.decompositions.assigned?_eq_none hlo hhi]
  · -- its combining class is 0
    unfold Text.Composition.combiningClass
    rw [inert_ideographs.combiningClasses.assigned?_eq_none hlo hhi]
    rfl
  · -- it begins no pair
    have hsyllable : Text.Composition.joinSyllable? c d = none := by
      unfold Text.Composition.joinSyllable? Text.Composition.syllableBase Text.Composition.leadBase
      dsimp only
      rw [if_neg (by omega), if_neg (by omega)]
    unfold Text.Composition.compose?
    rw [hsyllable]
    dsimp only
    refine Option.map_eq_none_iff.2 ?_
    cases hfound : Text.Composition.searchPair Text.Composition.sortedPairs c.toNat d.toNat 0
        Text.Composition.sortedPairs.size with
    | none => rfl
    | some n =>
      -- a pair that was found is one of the table, and its first character is outside of the range
      obtain ⟨p, hp, hfirst⟩ := Text.Composition.first_of_searchPair hfound
      obtain ⟨r, hr, hassigned⟩ := Text.Composition.exists_run_of_pair hp
      have hout := inert_ideographs.pairs r hr
      rw [hassigned, hfirst] at hout
      simp only [Bool.or_eq_true, decide_eq_true_eq] at hout
      omega

/-! ## Names -/

/-- The mapping goes character by character. -/
theorem mapText?_ideographs (h : ∀ c ∈ name, IsIdeograph c) : mapText? name = some name := by
  induction name with
  | nil => rfl
  | cons c name ih =>
    have hc := h c (List.mem_cons_self ..)
    have hchar : mapChar? c = some [c] := by
      unfold mapChar? Mapping.extended?
      rw [if_neg hc.not_ascii, if_pos hc.contains]
    unfold mapText?
    rw [hchar, ih fun d hd => h d (List.mem_cons_of_mem _ hd)]
    rfl

/-- A name of ideographs is one label, and it is valid: it begins with no mark, all its
    characters are kept, and the rule for joiners has nothing to look at. -/
theorem isValidLabel_ideographs (h : ∀ c ∈ name, IsIdeograph c) : isValidLabel name = true := by
  have hmark : name.head?.any markTable.contains = false := by
    cases name with
    | nil => rfl
    | cons c name =>
      have hc := h c (List.mem_cons_self ..)
      rw [List.head?_cons, Option.any_some]
      exact inert_ideographs.marks.not_contains hc.1 hc.2
  have hkept : name.all isKept = true := by
    refine List.all_eq_true.2 fun c hc => ?_
    unfold isKept
    rw [if_neg (h c hc).not_ascii]
    exact (h c hc).contains
  unfold isValidLabel
  rw [hmark, hkept, Bool.not_false, Bool.true_and, Bool.true_and]
  exact joinersAllowed_of_none (fun c hc => (h c hc).not_joiner) []

/-- **A name of ideographs is written in Punycode**, if it is not too long.  Every step of the
    ASCII form is passed with the name itself, and the last one writes it, since it is not ASCII. -/
theorem toAscii?_ideographs (h : ∀ c ∈ name, IsIdeograph c) (hne : name ≠ [])
    (hshort : name.length ≤ maxEncoded) : toAscii? name = some (mark ++ Punycode.encode name) := by
  have hpoint : ∀ c ∈ name, (c == '.') = false := by
    intro c hc
    refine beq_eq_false_iff_ne.2 ?_
    rintro rfl
    exact absurd (h '.' hc).1 (by decide)
  have hsplit : name.splitOn '.' = [name] := List.splitOnP_eq_singleton hpoint
  obtain ⟨c, more, rfl⟩ := List.exists_cons_of_ne_nil hne
  have hc := h c (List.mem_cons_self ..)
  have hascii : isAscii (c :: more) = false := by
    unfold isAscii
    rw [List.all_cons, decide_eq_false hc.not_ascii, Bool.false_and]
  have hmark : mark.isPrefixOf (c :: more) = false := by
    have hx : ('x' == c) = false := by
      refine beq_eq_false_iff_ne.2 ?_
      rintro rfl
      exact absurd hc.1 (by decide)
    unfold mark
    rw [List.isPrefixOf, hx, Bool.false_and]
  have hspelled : spelled? (c :: more) = some (c :: more) := by
    unfold spelled?
    rw [hmark, if_neg Bool.false_ne_true, if_pos (isValidLabel_ideographs h)]
  have hwritten : written? (c :: more) (c :: more) =
      some (mark ++ Punycode.encode (c :: more)) := by
    unfold written?
    rw [hascii, if_neg Bool.false_ne_true, if_neg (Nat.not_lt.2 hshort)]
  -- the steps, one after the other
  have htranscribed : Transcribed (c :: more) [c :: more] [c :: more]
      [mark ++ Punycode.encode (c :: more)] := {
    mapped := ⟨_, mapText?_ideographs h, by
      rw [Text.compose_still fun d hd => (h d hd).isStill, hsplit]⟩
    allowed := fun label hlabel => Bool.eq_false_iff.2 fun hany => by
      obtain ⟨d, hd, hforbidden⟩ := List.any_eq_true.1 hany
      rw [(h d (List.mem_singleton.1 hlabel ▸ hd)).not_isForbidden] at hforbidden
      cases hforbidden
    spelled := .cons hspelled .nil
    directed := not_breaksDirection fun text htext d hd =>
      (h d (List.mem_singleton.1 htext ▸ hd)).not_marksName
    written := .cons hwritten .nil }
  rw [htranscribed.toAscii?, List.intercalate_singleton]

/-! ## Too long to be read -/

/-- **A label that is too long is not read.**  The label carries the mark and is ASCII, so the
    name is its only label after mapping and composition too, and the limit is the first thing
    checked of it. -/
theorem toAscii?_tooLong {code : List Char}
    (hcode : ∀ c ∈ code, c.toNat < 0x80 ∧ c.isUpper = false ∧ c ≠ '.')
    (hlong : maxDecoded < code.length) : toAscii? (mark ++ code) = none := by
  have hname : ∀ c ∈ mark ++ code, c.toNat < 0x80 ∧ c.isUpper = false ∧ c ≠ '.' := by
    have hmark : ∀ c ∈ mark, c.toNat < 0x80 ∧ c.isUpper = false ∧ c ≠ '.' := by simp [mark]
    exact fun c hc => (List.mem_append.1 hc).elim (hmark c) (hcode c)
  have hsplit : (mark ++ code).splitOn '.' = [mark ++ code] :=
    List.splitOnP_eq_singleton fun c hc => beq_eq_false_iff_ne.2 (hname c hc).2.2
  cases hascii : toAscii? (mark ++ code) with
  | none => rfl
  | some ascii =>
    obtain ⟨labels, texts, parts, htranscribed, -⟩ := transcribed_of_toAscii? hascii
    obtain ⟨⟨mapped, hmapped, rfl⟩, -, hspelled, -, -⟩ := htranscribed
    rw [mapText?_self fun c hc => ⟨(hname c hc).1, (hname c hc).2.1⟩] at hmapped
    rw [← Option.some.inj hmapped, compose_self fun c hc => (hname c hc).1, hsplit] at hspelled
    cases hspelled with
    | cons hfirst _ =>
      unfold spelled? at hfirst
      rw [if_pos (List.isPrefixOf_iff_prefix.2 (List.prefix_append ..)), List.drop_left] at hfirst
      dsimp only at hfirst
      rw [if_pos hlong] at hfirst
      cases hfirst

/-- **A name of many ideographs, far apart, is written and not read**: its ASCII form has none.
    The gap before the first character is the one from ASCII to the ideographs, the others are
    those of `hsparse`; each gap takes its digits. -/
theorem toAscii?_lost (h : ∀ c ∈ name, IsIdeograph c)
    (hsparse : Punycode.Sparse (name.map Char.toNat)) (hlong : 698 ≤ name.length)
    (hshort : name.length ≤ maxEncoded) :
    toAscii? name = some (mark ++ Punycode.encode name) ∧
      toAscii? (mark ++ Punycode.encode name) = none := by
  have hne : name ≠ [] := by
    rintro rfl
    exact absurd hlong (by decide)
  have hfirst : ∀ n ∈ name.map Char.toNat, 127 + 29 ≤ n := by
    intro n hn
    obtain ⟨c, hc, rfl⟩ := List.mem_map.1 hn
    exact Nat.le_trans (by decide) (h c hc).1
  have hlength := Punycode.length_encode (List.pairwise_cons.2 ⟨hfirst, hsparse⟩)
  refine ⟨toAscii?_ideographs h hne hshort, toAscii?_tooLong (fun c hc => ?_) ?_⟩
  -- the written label is ASCII and in small letters, so nothing but its length can fail
  · rcases Punycode.mem_encode hc with ⟨hmem, hascii⟩ | rfl | hdigit
    · exact absurd hascii (h c hmem).not_ascii
    · decide
    · have hascii := (plain_of_isDigitChar hdigit).1.ascii
      have hall : ∀ d : Char, d.toNat < 0x80 → Punycode.isDigitChar d = true → d.isUpper = false :=
        fun d => ascii_forall (P := fun d => Punycode.isDigitChar d = true → d.isUpper = false)
          (by decide +kernel)
      exact ⟨hascii, hall c hascii hdigit, (plain_of_isDigitChar hdigit).2⟩
  · unfold maxDecoded
    omega

end

/-- Such a name: every 29th ideograph, 720 of them. -/
def farApart : List Char := (List.range' 0x4E00 720 29).map Char.ofNat

/-- The list of characters is never computed: what is needed of it is a fact about `List.range'`. -/
theorem map_toNat_farApart : farApart.map Char.toNat = List.range' 0x4E00 720 29 := by
  unfold farApart
  rw [List.map_map]
  refine (List.map_congr_left fun n hn => ?_).trans (List.map_id _)
  obtain ⟨i, hi, rfl⟩ := List.mem_range'.1 hn
  have hvalid : (0x4E00 + 29 * i).isValidChar := .inl (by omega)
  show (Char.ofNat (0x4E00 + 29 * i)).toNat = 0x4E00 + 29 * i
  unfold Char.ofNat
  rw [dif_pos hvalid]
  rfl

theorem isIdeograph_farApart : ∀ c ∈ farApart, IsIdeograph c := by
  intro c hc
  have hn := List.mem_map_of_mem (f := Char.toNat) hc
  rw [map_toNat_farApart] at hn
  obtain ⟨i, hi, hn⟩ := List.mem_range'.1 hn
  unfold IsIdeograph
  omega

theorem sparse_farApart : Punycode.Sparse (farApart.map Char.toNat) := by
  rw [map_toNat_farApart]
  refine List.pairwise_iff_getElem.2 fun i j hi hj hij => ?_
  rw [List.getElem_range', List.getElem_range']
  omega

end LeaseKeeper.DomainName
