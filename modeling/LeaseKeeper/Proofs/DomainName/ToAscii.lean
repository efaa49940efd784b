/-
  The ASCII form of a domain name, taken once more.

  An ASCII form has no character that is forbidden (`plain_of_mem_toAscii?`).  It is its own ASCII
  form as long as no label of it carries the mark of Punycode (`toAscii?_again`), because then
  nothing was written in Punycode, and the labels have passed all the checks that they pass now.

  Digits and points are always their own ASCII form (`toAscii?_digits`): in no table does a run
  that matters begin with an ASCII character.

    1. The five steps of the ASCII form are taken out of its code once, as the relation
       `Transcribed` between a name, its labels, what they spell and what is written
       (`transcribed_of_toAscii?`, and back by `Transcribed.toAscii?`).  No later proof opens the
       code.

    2. What is written is `Plain` and holds no point, so the written name splits into the written
       parts (`Transcribed.splitOn`).  This is the crux: taking the form again begins with that
       split, so labels and parts are the same lists now.

    3. Without marks, texts and labels and parts are equal (`Transcribed.unmarked`), and the
       checks of the first time are the checks of the second.
-/
import LeaseKeeper.DomainName.ToAscii
import LeaseKeeper.Proofs.DomainName.Punycode
import LeaseKeeper.Proofs.Text.RangeTable
import Mathlib.Data.List.Forall2

namespace LeaseKeeper.DomainName

/-! ## Labels -/

/-- The characters of a part between separators: induction on the text.  A separator opens a new
    part, and any other character goes to the front of the first one. -/
theorem mem_of_mem_splitOnP {α : Type} {separates : α → Bool} {as part : List α} {a : α}
    (hpart : part ∈ as.splitOnP separates) (ha : a ∈ part) : a ∈ as ∧ separates a = false := by
  induction as generalizing part with
  | nil =>
    rw [List.splitOnP_nil, List.mem_singleton] at hpart
    rw [hpart] at ha
    cases ha
  | cons b as ih =>
    rw [List.splitOnP_cons_eq_if_modifyHead] at hpart
    split at hpart
    · -- a part that begins after the separator
      rcases List.mem_cons.1 hpart with rfl | hpart
      · cases ha
      · have hrest := ih hpart ha
        exact ⟨List.mem_cons_of_mem _ hrest.1, hrest.2⟩
    · -- the character goes to the first part, or the part is a later one
      rename_i hb
      cases hsplit : as.splitOnP separates with
      | nil => exact absurd hsplit (List.splitOnP_ne_nil _ _)
      | cons first rest =>
        rw [hsplit] at hpart ih
        rcases List.mem_cons.1 hpart with rfl | hpart
        · rcases List.mem_cons.1 ha with rfl | ha
          · exact ⟨List.mem_cons_self .., Bool.eq_false_iff.2 hb⟩
          · have hrest := ih (List.mem_cons_self ..) ha
            exact ⟨List.mem_cons_of_mem _ hrest.1, hrest.2⟩
        · have hrest := ih (List.mem_cons_of_mem _ hpart) ha
          exact ⟨List.mem_cons_of_mem _ hrest.1, hrest.2⟩

section

variable {name label : List Char} {c : Char}

/-- The characters of a label. -/
theorem mem_of_mem_label (hlabel : label ∈ name.splitOn '.') (hc : c ∈ label) :
    c ∈ name ∧ c ≠ '.' := by
  obtain ⟨hname, hpoint⟩ := mem_of_mem_splitOnP hlabel hc
  exact ⟨hname, beq_eq_false_iff_ne.1 hpoint⟩

/-- The characters of labels with points between them. -/
theorem mem_intercalate {labels : List (List Char)} (h : c ∈ ['.'].intercalate labels) :
    c = '.' ∨ ∃ label ∈ labels, c ∈ label := by
  induction labels with
  | nil => cases h
  | cons first rest ih =>
    cases rest with
    | nil =>
      refine .inr ⟨first, List.mem_cons_self .., ?_⟩
      simpa [List.intercalate] using h
    | cons second rest =>
      have hjoin : ['.'].intercalate (first :: second :: rest) =
          first ++ '.' :: ['.'].intercalate (second :: rest) := by
        simp [List.intercalate]
      rw [hjoin] at h
      rcases List.mem_append.1 h with h | h
      · exact .inr ⟨first, List.mem_cons_self .., h⟩
      · rcases List.mem_cons.1 h with rfl | h
        · exact .inl rfl
        · rcases ih h with rfl | ⟨label, hlabel, hc⟩
          · exact .inl rfl
          · exact .inr ⟨label, List.mem_cons_of_mem _ hlabel, hc⟩

/-- Every other character of a name is in one of its labels. -/
theorem exists_label (hc : c ∈ name) (hpoint : c ≠ '.') : ∃ label ∈ name.splitOn '.', c ∈ label := by
  have hjoin : ['.'].intercalate (name.splitOn '.') = name := List.intercalate_splitOn '.'
  rw [← hjoin] at hc
  rcases mem_intercalate hc with h | h
  · exact absurd h hpoint
  · exact h

end

/-! ## Taking parts one by one -/

/-- Each result of a loop belongs to the element at its place.  Labels, texts and parts are lists
    of equal length all through, and `List.Forall₂` keeps them aligned. -/
theorem forall₂_of_mapM {α β : Type} {f : α → Option β} {as : List α} {bs : List β}
    (h : as.mapM f = some bs) : List.Forall₂ (fun a b => f a = some b) as bs := by
  induction as generalizing bs with
  | nil =>
    cases h
    exact .nil
  | cons a as ih =>
    rw [List.mapM_cons] at h
    obtain ⟨b, hb, h⟩ := Option.bind_eq_some_iff.1 h
    obtain ⟨rest, hrest, h⟩ := Option.bind_eq_some_iff.1 h
    cases h
    exact .cons hb (ih hrest)

/-- A loop gives what its elements give. -/
theorem mapM_of_forall₂ {α β : Type} {f : α → Option β} {as : List α} {bs : List β}
    (h : List.Forall₂ (fun a b => f a = some b) as bs) : as.mapM f = some bs := by
  induction h with
  | nil => rfl
  | cons hfirst hrest ih =>
    rw [List.mapM_cons, hfirst, ih]
    rfl

/-! ## The steps -/

/-- Whether the labels of a name, taken together, break the rule for directions: one character of
    a right-to-left script anywhere makes every label subject to it. -/
def breaksDirection (texts : List (List Char)) : Bool :=
  let directions := texts.map fun t => t.map Direction.ofChar
  (directions.any fun ds => ds.any Direction.marksName) &&
    !directions.all Direction.keepsOneDirection

/-- **What has to hold of a name** with the labels `labels` that spell `texts` and are written
    `parts`.  One field for each step, in the order in which they are taken. -/
structure Transcribed (name : List Char) (labels texts parts : List (List Char)) : Prop where
  mapped : ∃ mapped, mapText? name = some mapped ∧ (Text.compose mapped).splitOn '.' = labels
  allowed : ∀ label ∈ labels, label.any isForbidden = false
  spelled : List.Forall₂ (fun label text => spelled? label = some text) labels texts
  directed : breaksDirection texts = false
  written : List.Forall₂ (fun (labelled : List Char × List Char) part =>
    written? labelled.1 labelled.2 = some part) (labels.zip texts) parts

/-- A name that has an ASCII form has passed every step: one split for each place where a step
    may fail. -/
theorem transcribed_of_toAscii? {name ascii : List Char} (h : toAscii? name = some ascii) :
    ∃ labels texts parts, Transcribed name labels texts parts ∧
      ascii = ['.'].intercalate parts := by
  unfold toAscii? at h
  obtain ⟨mapped, hmapped, h⟩ := Option.bind_eq_some_iff.1 h
  dsimp only at h
  split at h
  · cases h
  · rename_i hallowed
    obtain ⟨texts, hspelled, h⟩ := Option.bind_eq_some_iff.1 h
    split at h
    · cases h
    · rename_i hdirected
      obtain ⟨parts, hwritten, h⟩ := Option.bind_eq_some_iff.1 h
      cases h
      refine ⟨_, texts, parts, ⟨⟨mapped, hmapped, rfl⟩, ?_, forall₂_of_mapM hspelled,
        Bool.eq_false_iff.2 hdirected, forall₂_of_mapM hwritten⟩, rfl⟩
      intro label hlabel
      exact Bool.eq_false_iff.2 fun h => hallowed (List.any_eq_true.2 ⟨label, hlabel, h⟩)

/-- **A name of which all this holds has an ASCII form.** -/
theorem Transcribed.toAscii? {name : List Char} {labels texts parts : List (List Char)}
    (h : Transcribed name labels texts parts) :
    DomainName.toAscii? name = some (['.'].intercalate parts) := by
  obtain ⟨⟨mapped, hmapped, rfl⟩, hallowed, hspelled, hdirected, hwritten⟩ := h
  have hany : ((Text.compose mapped).splitOn '.').any (fun label => label.any isForbidden) =
      false := by
    refine Bool.eq_false_iff.2 fun hany => ?_
    obtain ⟨label, hlabel, hany⟩ := List.any_eq_true.1 hany
    rw [hallowed label hlabel] at hany
    cases hany
  unfold breaksDirection at hdirected
  unfold DomainName.toAscii?
  rw [hmapped]
  simp only [Option.bind_eq_bind, Option.bind_some]
  rw [hany, if_neg Bool.false_ne_true, mapM_of_forall₂ hspelled]
  simp only [Option.bind_some]
  rw [hdirected, if_neg Bool.false_ne_true]
  have hparts : (((Text.compose mapped).splitOn '.').zip texts).mapM
      (fun labelled => written? labelled.1 labelled.2) = some parts := mapM_of_forall₂ hwritten
  rw [hparts]
  rfl

/-! ## The characters of an ASCII form -/

/-- A property of all ASCII characters can be checked one by one. -/
theorem ascii_forall {P : Char → Prop} (h : ∀ n : Fin 128, P (Char.ofNat n.val)) {c : Char}
    (hc : c.toNat < 0x80) : P c := by
  rw [← Char.ofNat_toNat c]
  exact h ⟨c.toNat, hc⟩

theorem digit_lt {c : Char} (h : c.isDigit = true) : c.toNat < 0x80 := by
  have hle : c ≤ '9' := of_decide_eq_true (Bool.and_eq_true_iff.1 h).2
  exact Nat.lt_of_le_of_lt (show c.toNat ≤ '9'.toNat from hle) (by decide)

theorem lower_lt {c : Char} (h : c.isLower = true) : c.toNat < 0x80 := by
  have hle : c ≤ 'z' := of_decide_eq_true (Bool.and_eq_true_iff.1 h).2
  exact Nat.lt_of_le_of_lt (show c.toNat ≤ 'z'.toNat from hle) (by decide)

/-- **A character of an ASCII form.**  It may stand in a host as it is, so a written name is read
    as a name again. -/
structure Plain (c : Char) : Prop where
  ascii : c.toNat < 0x80
  allowed : isForbidden c = false

/-- The digits of Punycode are small letters and decimal digits. -/
theorem plain_of_isDigitChar {c : Char} (h : Punycode.isDigitChar c = true) :
    Plain c ∧ c ≠ '.' := by
  have hascii : c.toNat < 0x80 := by
    unfold Punycode.isDigitChar at h
    exact (Bool.or_eq_true_iff.1 h).elim lower_lt digit_lt
  have hall : Punycode.isDigitChar c = true → isForbidden c = false ∧ c ≠ '.' :=
    ascii_forall (P := fun c => Punycode.isDigitChar c = true → isForbidden c = false ∧ c ≠ '.')
      (by decide +kernel) hascii
  exact ⟨⟨hascii, (hall h).1⟩, (hall h).2⟩

/-- A label that can be spelled and is not ASCII does not carry the mark.  So where Punycode is
    written the text is the label itself, and what holds of the label's characters holds of it. -/
theorem text_of_spelled? {label text : List Char} (h : spelled? label = some text)
    (hascii : isAscii label = false) : text = label := by
  unfold spelled? at h
  split at h
  · rename_i hmark
    -- marked: the label would be ASCII
    exfalso
    dsimp only at h
    split at h
    · cases h
    · split at h
      · cases h
      · rename_i code hdecode
        -- the mark is ASCII, and so is everything that can be read
        have hall : isAscii label = true := by
          refine List.all_eq_true.2 fun c hc => ?_
          obtain ⟨rest, rfl⟩ := List.isPrefixOf_iff_prefix.1 hmark
          rcases List.mem_append.1 hc with hc | hc
          · have hmarks : isAscii mark = true := by decide
            exact List.all_eq_true.1 hmarks c hc
          · rw [List.drop_left] at hdecode
            exact decide_eq_true (Punycode.lt_of_mem_decode? hdecode c hc)
        rw [hascii] at hall
        cases hall
  · -- unmarked: a valid label spells itself
    split at h
    · exact (Option.some.inj h).symm
    · cases h

/-- The characters of one part.  An ASCII label is its own part; another one is written as the
    mark, its own ASCII characters, a hyphen and digits. -/
theorem plain_of_mem_part {label text part : List Char} (hallowed : label.any isForbidden = false)
    (hpoint : '.' ∉ label) (hspelled : spelled? label = some text)
    (hwritten : written? label text = some part) {c : Char} (hc : c ∈ part) : Plain c ∧ c ≠ '.' := by
  have hlabel : ∀ c ∈ label, c.toNat < 0x80 → Plain c ∧ c ≠ '.' := by
    intro c hc hascii
    refine ⟨⟨hascii, Bool.eq_false_iff.2 fun h => ?_⟩, ?_⟩
    · rw [List.any_eq_true.2 ⟨c, hc, h⟩] at hallowed
      cases hallowed
    · rintro rfl
      exact hpoint hc
  unfold written? at hwritten
  split at hwritten
  · rename_i hascii
    -- an ASCII label, written as it is
    cases hwritten
    exact hlabel c hc (of_decide_eq_true (List.all_eq_true.1 hascii c hc))
  · rename_i hascii
    -- written in Punycode
    have htext := text_of_spelled? hspelled (Bool.eq_false_iff.2 hascii)
    split at hwritten
    · cases hwritten
    · cases hwritten
      rw [htext] at hc
      rcases List.mem_append.1 hc with hc | hc
      · -- a character of the mark
        simp only [mark, List.mem_cons, List.not_mem_nil, or_false] at hc
        rcases hc with rfl | rfl | rfl | rfl <;> exact ⟨⟨by decide, by decide⟩, by decide⟩
      · rcases Punycode.mem_encode hc with ⟨hmem, hascii⟩ | rfl | hdigit
        · -- an ASCII character of the label
          exact hlabel c hmem hascii
        · -- the hyphen
          exact ⟨⟨by decide, by decide⟩, by decide⟩
        · -- a digit
          exact plain_of_isDigitChar hdigit

section

variable {name ascii : List Char} {labels texts parts : List (List Char)}

/-- All parts of a name, by induction on its labels. -/
theorem Transcribed.plain (h : Transcribed name labels texts parts) :
    ∀ part ∈ parts, ∀ c ∈ part, Plain c ∧ c ≠ '.' := by
  obtain ⟨⟨mapped, -, hlabels⟩, hallowed, hspelled, -, hwritten⟩ := h
  have hpoint : ∀ label ∈ labels, '.' ∉ label := by
    intro label hlabel hc
    rw [← hlabels] at hlabel
    exact (mem_of_mem_label hlabel hc).2 rfl
  clear hlabels
  induction hspelled generalizing parts with
  | nil =>
    cases hwritten
    exact nofun
  | cons hfirst hrest ih =>
    cases hwritten with
    | cons hpart hwritten =>
      intro part hmem c hc
      rcases List.mem_cons.1 hmem with rfl | hmem
      · exact plain_of_mem_part (hallowed _ (List.mem_cons_self ..))
          (hpoint _ (List.mem_cons_self ..)) hfirst hpart hc
      · exact ih (fun l hl => hallowed l (List.mem_cons_of_mem _ hl)) hwritten
          (fun l hl => hpoint l (List.mem_cons_of_mem _ hl)) part hmem c hc

/-- The labels of an ASCII form are the parts that were written: no part has a point, and there
    is at least one. -/
theorem Transcribed.splitOn (h : Transcribed name labels texts parts) :
    (['.'].intercalate parts).splitOn '.' = parts := by
  refine List.splitOn_intercalate '.' (fun part hpart hc => (h.plain part hpart '.' hc).2 rfl) ?_
  obtain ⟨⟨mapped, -, rfl⟩, -, hspelled, -, hwritten⟩ := h
  rintro rfl
  have htexts := hspelled.length_eq
  have hzip := hwritten.length_eq
  rw [List.length_zip, ← htexts, Nat.min_self] at hzip
  exact List.splitOn_ne_nil _ _ (List.eq_nil_of_length_eq_zero hzip)

/-- **The characters of an ASCII form**: points, and characters of its parts. -/
theorem plain_of_mem_toAscii? (h : toAscii? name = some ascii) {c : Char} (hc : c ∈ ascii) :
    Plain c := by
  obtain ⟨labels, texts, parts, hname, rfl⟩ := transcribed_of_toAscii? h
  rcases mem_intercalate hc with rfl | ⟨part, hpart, hc⟩
  · exact ⟨by decide, by decide⟩
  · exact (hname.plain part hpart c hc).1

end

/-! ## Names that stay what they are -/

theorem toLower_of_not_isUpper {c : Char} (h : c.isUpper = false) : c.toLower = c := by
  unfold Char.toLower
  exact dif_neg (of_decide_eq_false h)

/-- What small letters do to something can be checked on ASCII: other characters have none. -/
theorem apply_toLower {α : Type} {f : Char → α}
    (h : ∀ n : Fin 128, f (Char.ofNat n.val).toLower = f (Char.ofNat n.val)) (c : Char) :
    f c.toLower = f c := by
  by_cases hc : c.toNat < 0x80
  · exact ascii_forall (P := fun c => f c.toLower = f c) h hc
  · have hupper : c.isUpper = false := by
      refine Bool.eq_false_iff.2 fun hupper => hc ?_
      have hle : c ≤ 'Z' := (of_decide_eq_true hupper).2
      exact Nat.lt_of_le_of_lt (show c.toNat ≤ 'Z'.toNat from hle) (by decide)
    rw [toLower_of_not_isUpper hupper]

theorem toLower_lt {c : Char} (h : c.toNat < 0x80) : c.toLower.toNat < 0x80 :=
  ascii_forall (P := fun c => c.toLower.toNat < 0x80) (by decide +kernel) h

/-- ASCII text is mapped to small letters. -/
theorem mapText?_ascii {name : List Char} (h : ∀ c ∈ name, c.toNat < 0x80) :
    mapText? name = some (name.map Char.toLower) := by
  induction name with
  | nil => rfl
  | cons c name ih =>
    have hchar : mapChar? c = some [c.toLower] := if_pos (h c (List.mem_cons_self ..))
    unfold mapText?
    rw [hchar, ih fun d hd => h d (List.mem_cons_of_mem _ hd)]
    rfl

/-- Small ASCII characters stay what they are. -/
theorem mapText?_self {name : List Char} (h : ∀ c ∈ name, c.toNat < 0x80 ∧ c.isUpper = false) :
    mapText? name = some name := by
  rw [mapText?_ascii fun c hc => (h c hc).1,
    List.map_congr_left fun c hc => toLower_of_not_isUpper (h c hc).2, List.map_id'']
  exact fun _ => rfl

/-- ASCII text is composed. -/
theorem compose_self {name : List Char} (h : ∀ c ∈ name, c.toNat < 0x80) :
    Text.compose name = name := by
  unfold Text.compose
  refine if_pos (List.all_eq_true.2 fun c hc => decide_eq_true ?_)
  exact Nat.lt_trans (h c hc) (by decide)

/-- A label that stands for itself: it is neither read from Punycode nor written in it. -/
structure SelfSpelled (label : List Char) : Prop where
  ascii : isAscii label = true
  unmarked : mark.isPrefixOf label = false
  valid : isValidLabel label = true

/-- **A name of labels that stand for themselves** is its own ASCII form.  A valid ASCII label
    has no capital letter, so the mapping leaves the name as it is, and it is `Transcribed` to
    itself. -/
theorem toAscii?_self {name : List Char} (hlabels : ∀ label ∈ name.splitOn '.', SelfSpelled label)
    (hallowed : ∀ label ∈ name.splitOn '.', label.any isForbidden = false)
    (hdirected : breaksDirection (name.splitOn '.') = false) : toAscii? name = some name := by
  have hchars : ∀ c ∈ name, c.toNat < 0x80 ∧ c.isUpper = false := by
    -- a character is a point or in a label, and labels are valid
    intro c hc
    by_cases hpoint : c = '.'
    · rw [hpoint]
      decide
    · obtain ⟨label, hlabel, hc⟩ := exists_label hc hpoint
      obtain ⟨hascii, -, hvalid⟩ := hlabels label hlabel
      have hlt : c.toNat < 0x80 := of_decide_eq_true (List.all_eq_true.1 hascii c hc)
      refine ⟨hlt, ?_⟩
      unfold isValidLabel at hvalid
      have hkept := List.all_eq_true.1
        (Bool.and_eq_true_iff.1 (Bool.and_eq_true_iff.1 hvalid).1).2 c hc
      unfold isKept at hkept
      rw [if_pos hlt] at hkept
      exact Bool.eq_false_iff.2 fun h => by simp [h] at hkept
  have hzip : ∀ labels : List (List Char), labels.zip labels = labels.map fun l => (l, l) := by
    intro labels
    induction labels with
    | nil => rfl
    | cons label labels ih => rw [List.zip_cons_cons, ih, List.map_cons]
  have htranscribed : Transcribed name (name.splitOn '.') (name.splitOn '.') (name.splitOn '.') := {
    mapped := ⟨name, mapText?_self hchars, by rw [compose_self fun c hc => (hchars c hc).1]⟩
    allowed := hallowed
    spelled := List.forall₂_same.2 fun label hlabel => by
      unfold spelled?
      rw [(hlabels label hlabel).unmarked, if_neg Bool.false_ne_true,
        if_pos (hlabels label hlabel).valid]
    directed := hdirected
    written := by
      rw [hzip, List.forall₂_map_left_iff]
      exact List.forall₂_same.2 fun label hlabel => if_pos (hlabels label hlabel).ascii }
  have hascii := htranscribed.toAscii?
  rwa [List.intercalate_splitOn] at hascii

/-! ## Once more -/

/-- **A name in which a label carries the mark.**  Only such a name can come out different, or
    not at all: the text that the label spells is looked at anew. -/
def IsMarked (name : List Char) : Prop := ∃ label ∈ name.splitOn '.', mark.isPrefixOf label = true

/-- Where no part carries the mark, the parts are the labels.  Induction on the labels: one that
    is not ASCII would have been written with the mark. -/
theorem Transcribed.unmarked {name : List Char} {labels texts parts : List (List Char)}
    (h : Transcribed name labels texts parts)
    (hmark : ∀ part ∈ parts, mark.isPrefixOf part = false) :
    texts = labels ∧ parts = labels ∧ ∀ label ∈ labels, SelfSpelled label := by
  obtain ⟨-, -, hspelled, -, hwritten⟩ := h
  induction hspelled generalizing parts with
  | nil =>
    cases hwritten
    exact ⟨rfl, rfl, nofun⟩
  | @cons label text labels texts hfirst hrest ih =>
    cases hwritten with
    | @cons _ part _ parts hpart hwritten =>
      obtain ⟨rfl, rfl, hall⟩ := ih (fun p hp => hmark p (List.mem_cons_of_mem _ hp)) hwritten
      have hunmarked := hmark part (List.mem_cons_self ..)
      unfold written? at hpart
      split at hpart
      · rename_i hascii
        cases hpart
        unfold spelled? at hfirst
        rw [hunmarked, if_neg Bool.false_ne_true] at hfirst
        split at hfirst
        · rename_i hvalid
          cases hfirst
          refine ⟨rfl, rfl, fun l hl => ?_⟩
          rcases List.mem_cons.1 hl with rfl | hl
          · exact ⟨hascii, hunmarked, hvalid⟩
          · exact hall l hl
        · cases hfirst
      · split at hpart
        · cases hpart
        · -- what is written in Punycode carries the mark
          cases hpart
          rw [List.isPrefixOf_iff_prefix.2 (List.prefix_append ..)] at hunmarked
          cases hunmarked

/-- **An ASCII form without marks is its own ASCII form.**  Its labels are the parts, the parts
    are the labels of the name, and these have passed the checks. -/
theorem toAscii?_again {name ascii : List Char} (h : toAscii? name = some ascii)
    (hmark : ¬IsMarked ascii) : toAscii? ascii = some ascii := by
  obtain ⟨labels, texts, parts, hname, rfl⟩ := transcribed_of_toAscii? h
  have hsplit := hname.splitOn
  have hunmarked : ∀ part ∈ parts, mark.isPrefixOf part = false := by
    intro part hpart
    refine Bool.eq_false_iff.2 fun h => hmark ⟨part, ?_, h⟩
    rw [hsplit]
    exact hpart
  obtain ⟨rfl, rfl, hall⟩ := hname.unmarked hunmarked
  refine toAscii?_self ?_ ?_ ?_
  · rw [hsplit]
    exact hall
  · rw [hsplit]
    exact hname.allowed
  · rw [hsplit]
    exact hname.directed

/-! ## Names in ASCII

For an ASCII name there is no difference between small letters and the ASCII form, if it has one. -/

/-- The labels of a name in small letters. -/
theorem splitOn_toLower (name : List Char) : (name.map Char.toLower).splitOn '.' =
    (name.splitOn '.').map (List.map Char.toLower) := by
  induction name with
  | nil => rfl
  | cons c name ih =>
    have hpoint : (c.toLower == '.') = (c == '.') :=
      apply_toLower (f := (· == '.')) (by decide +kernel) c
    rw [List.map_cons, List.splitOn_cons_eq_if_modifyHead, List.splitOn_cons_eq_if_modifyHead,
      hpoint, ih]
    split
    · rfl
    · cases name.splitOn '.' <;> rfl

/-- Labels in ASCII are written as they are, whatever they spell. -/
theorem Transcribed.ascii {name : List Char} {labels texts parts : List (List Char)}
    (h : Transcribed name labels texts parts) (hascii : ∀ label ∈ labels, isAscii label = true) :
    parts = labels := by
  obtain ⟨-, -, hspelled, -, hwritten⟩ := h
  induction hspelled generalizing parts with
  | nil =>
    cases hwritten
    rfl
  | cons hfirst hrest ih =>
    cases hwritten with
    | cons hpart hwritten =>
      rw [ih (fun l hl => hascii l (List.mem_cons_of_mem _ hl)) hwritten]
      have hlabel := hascii _ (List.mem_cons_self ..)
      unfold written? at hpart
      rw [if_pos hlabel] at hpart
      rw [← Option.some.inj hpart]

/-- **The ASCII form of an ASCII name** is the name in small letters. -/
theorem toAscii?_of_ascii {name ascii : List Char} (hname : ∀ c ∈ name, c.toNat < 0x80)
    (h : toAscii? name = some ascii) : ascii = name.map Char.toLower := by
  obtain ⟨labels, texts, parts, htranscribed, rfl⟩ := transcribed_of_toAscii? h
  have hsmall : ∀ c ∈ name.map Char.toLower, c.toNat < 0x80 := by
    intro c hc
    obtain ⟨d, hd, rfl⟩ := List.mem_map.1 hc
    exact toLower_lt (hname d hd)
  have hlabels : labels = (name.map Char.toLower).splitOn '.' := by
    obtain ⟨mapped, hmapped, hlabels⟩ := htranscribed.mapped
    rw [mapText?_ascii hname] at hmapped
    rw [← hlabels, ← Option.some.inj hmapped, compose_self hsmall]
  have hparts := htranscribed.ascii fun label hlabel => List.all_eq_true.2 fun c hc => by
    rw [hlabels] at hlabel
    exact decide_eq_true (hsmall c (mem_of_mem_label hlabel hc).1)
  rw [hparts, hlabels, List.intercalate_splitOn]

/-- **An ASCII form without marks is in small letters.** -/
theorem toLower_of_toAscii? {name ascii : List Char} (h : toAscii? name = some ascii)
    (hmark : ¬IsMarked ascii) : ascii.map Char.toLower = ascii :=
  (toAscii?_of_ascii (fun _ hc => (plain_of_mem_toAscii? h hc).ascii) (toAscii?_again h hmark)).symm

/-! ## Tables without ASCII

The kernel can check where the runs of a table begin, but not search it for a character; so a table
is opened once, for all its runs. -/

/-- A table whose runs begin after ASCII. It holds no ASCII character, and this is found from its
    runs alone. -/
def beginsAfterAscii (t : Text.RangeTable) : Prop := ∀ r ∈ t.runs, 0x80 ≤ r.first

theorem not_contains_of_ascii {t : Text.RangeTable} (ht : beginsAfterAscii t) {c : Char}
    (hc : c.toNat < 0x80) : t.contains c = false := by
  refine Bool.eq_false_iff.2 fun h => ?_
  obtain ⟨r, hr⟩ := Option.isSome_iff_exists.1 h
  obtain ⟨hmem, hcovers⟩ := Text.RangeTable.covers_of_search hr
  have hfirst := (Text.RangeTable.ends_of_covers hcovers).1
  exact absurd hc (Nat.not_lt.2 (Nat.le_trans (ht r hmem) hfirst))

theorem beginsAfterAscii_ofText {text : String} {cs : List Char} (htext : text = String.ofList cs)
    (h : ((Text.RangeTable.words cs).map Text.Run.ofWord).all (fun r => 0x80 ≤ r.first) = true) :
    beginsAfterAscii (.ofText text) := fun r hr =>
  of_decide_eq_true (Text.RangeTable.forall_ofText htext h r (Array.mem_toList_iff.2 hr))

set_option maxRecDepth 20000 in
theorem beginsAfterAscii_marks : beginsAfterAscii markTable := by
  unfold markTable Mark.Table.marks
  apply beginsAfterAscii_ofText
  · with_reducible rfl
  · decide +kernel

set_option maxRecDepth 20000 in
theorem beginsAfterAscii_rightToLeft : beginsAfterAscii (.ofText Direction.Table.rightToLeft) := by
  unfold Direction.Table.rightToLeft
  apply beginsAfterAscii_ofText
  · with_reducible rfl
  · decide +kernel

set_option maxRecDepth 20000 in
theorem beginsAfterAscii_arabicLetter : beginsAfterAscii (.ofText Direction.Table.arabicLetter) := by
  unfold Direction.Table.arabicLetter
  apply beginsAfterAscii_ofText
  · with_reducible rfl
  · decide +kernel

set_option maxRecDepth 20000 in
theorem beginsAfterAscii_arabicNumber : beginsAfterAscii (.ofText Direction.Table.arabicNumber) := by
  unfold Direction.Table.arabicNumber
  apply beginsAfterAscii_ofText
  · with_reducible rfl
  · decide +kernel

/-- The tables of the classes that make a name subject to the rule for directions. -/
theorem forall_marking {P : Text.RangeTable → Prop}
    (hright : P (.ofText Direction.Table.rightToLeft))
    (hletter : P (.ofText Direction.Table.arabicLetter))
    (hnumber : P (.ofText Direction.Table.arabicNumber)) {t : Direction × Text.RangeTable}
    (ht : t ∈ Direction.tables) (hmarks : t.1.marksName = true) : P t.2 := by
  unfold Direction.tables at ht
  simp only [List.mem_cons, List.not_mem_nil, or_false] at ht
  rcases ht with rfl | rfl | rfl | rfl | rfl | rfl | rfl | rfl | rfl | rfl
  · exact hright
  · exact hletter
  · exact hnumber
  all_goals cases hmarks

/-- **The class of a character** is that of a table that holds it, if there is one.  Otherwise it
    is left-to-right. -/
theorem ofChar_cases (c : Char) : Direction.ofChar c = .leftToRight ∨
    ∃ t ∈ Direction.tables, t.2.contains c = true ∧ Direction.ofChar c = t.1 := by
  -- opened as a function: applied to a character, the kernel would search the tables
  suffices h : ∀ f, f = Direction.ofChar → f c = .leftToRight ∨
      ∃ t ∈ Direction.tables, t.2.contains c = true ∧ f c = t.1 from h _ rfl
  intro f hf
  delta Direction.ofChar at hf
  subst hf
  dsimp only
  generalize hfound : (Direction.tables.find? fun t => t.2.contains c) = found
  cases found with
  | none => exact .inl rfl
  | some t =>
    have hcontains := List.find?_some hfound
    exact .inr ⟨t, List.mem_of_find?_eq_some hfound, hcontains, rfl⟩

/-- **A character in none of these tables** does not make a name subject to that rule. -/
theorem not_marksName {c : Char}
    (hright : (Text.RangeTable.ofText Direction.Table.rightToLeft).contains c = false)
    (hletter : (Text.RangeTable.ofText Direction.Table.arabicLetter).contains c = false)
    (hnumber : (Text.RangeTable.ofText Direction.Table.arabicNumber).contains c = false) :
    (Direction.ofChar c).marksName = false := by
  rcases ofChar_cases c with hclass | ⟨t, ht, hcontains, hclass⟩
  · rw [hclass]
    rfl
  · rw [hclass]
    refine Bool.eq_false_iff.2 fun hmarks => ?_
    have hnone := forall_marking (P := fun t => t.contains c = false) hright hletter hnumber ht hmarks
    rw [hnone] at hcontains
    cases hcontains

/-- **No ASCII character makes a name subject to it.** -/
theorem not_marksName_of_ascii {c : Char} (hc : c.toNat < 0x80) :
    (Direction.ofChar c).marksName = false :=
  not_marksName (not_contains_of_ascii beginsAfterAscii_rightToLeft hc)
    (not_contains_of_ascii beginsAfterAscii_arabicLetter hc)
    (not_contains_of_ascii beginsAfterAscii_arabicNumber hc)

/-- **A name that is not subject to it** does not break the rule for directions, since the rule
    is applied only where some character marks the name. -/
theorem not_breaksDirection {texts : List (List Char)}
    (h : ∀ text ∈ texts, ∀ c ∈ text, (Direction.ofChar c).marksName = false) :
    breaksDirection texts = false := by
  unfold breaksDirection
  refine Bool.and_eq_false_iff.2 (.inl (Bool.eq_false_iff.2 fun hany => ?_))
  obtain ⟨directions, hdirections, hmarks⟩ := List.any_eq_true.1 hany
  obtain ⟨text, htext, rfl⟩ := List.mem_map.1 hdirections
  obtain ⟨direction, hdirection, hmarks⟩ := List.any_eq_true.1 hmarks
  obtain ⟨c, hc, rfl⟩ := List.mem_map.1 hdirection
  rw [h text htext c hc] at hmarks
  cases hmarks

/-! ## Digits and points -/

/-- Without joiners there is none at a wrong place.  The rule carries along what stands before a
    character, so the induction is for any such text. -/
theorem joinersAllowed_of_none {label : List Char}
    (h : ∀ c ∈ label, c ≠ Joining.nonJoiner ∧ c ≠ Joining.joiner) (before : List Char) :
    Joining.allowedFrom before label = true := by
  induction label generalizing before with
  | nil => rfl
  | cons c label ih =>
    obtain ⟨hnonJoiner, hjoiner⟩ := h c (List.mem_cons_self ..)
    unfold Joining.allowedFrom
    rw [if_neg hnonJoiner, if_neg hjoiner, Bool.true_and]
    exact ih (fun d hd => h d (List.mem_cons_of_mem _ hd)) (c :: before)

theorem not_joiner_of_ascii {c : Char} (hc : c.toNat < 0x80) :
    c ≠ Joining.nonJoiner ∧ c ≠ Joining.joiner := by
  constructor
  · rintro rfl
    exact absurd hc (by decide)
  · rintro rfl
    exact absurd hc (by decide)

/-- A label of digits stands for itself. -/
theorem selfSpelled_digits {label : List Char} (h : ∀ c ∈ label, c.isDigit = true) :
    SelfSpelled label := by
  have hascii : ∀ c ∈ label, c.toNat < 0x80 := fun c hc => digit_lt (h c hc)
  refine ⟨List.all_eq_true.2 fun c hc => decide_eq_true (hascii c hc), ?_, ?_⟩
  · cases label with
    | nil => rfl
    | cons c label =>
      have hne : ('x' == c) = false := by
        refine beq_eq_false_iff_ne.2 ?_
        rintro rfl
        exact absurd (h 'x' (List.mem_cons_self ..)) (by decide)
      unfold mark
      rw [List.isPrefixOf, hne, Bool.false_and]
  · unfold isValidLabel
    have hmark : label.head?.any markTable.contains = false := by
      cases label with
      | nil => rfl
      | cons c label =>
        -- rewritten, not unfolded: the kernel would look into the table
        rw [List.head?_cons, Option.any_some]
        exact not_contains_of_ascii beginsAfterAscii_marks (hascii c (List.mem_cons_self ..))
    have hkept : label.all isKept = true := by
      refine List.all_eq_true.2 fun c hc => ?_
      unfold isKept
      rw [if_pos (hascii c hc)]
      have hall : c.isDigit = true → (!c.isUpper) = true :=
        ascii_forall (P := fun c => c.isDigit = true → (!c.isUpper) = true) (by decide +kernel)
          (hascii c hc)
      exact hall (h c hc)
    rw [hmark, hkept, Bool.not_false, Bool.true_and, Bool.true_and]
    exact joinersAllowed_of_none (fun c hc => not_joiner_of_ascii (hascii c hc)) []

/-- **Digits and points are their own ASCII form.** -/
theorem toAscii?_digits {name : List Char} (h : ∀ c ∈ name, c.isDigit = true ∨ c = '.') :
    toAscii? name = some name := by
  have hdigits : ∀ label ∈ name.splitOn '.', ∀ c ∈ label, c.isDigit = true := by
    intro label hlabel c hc
    obtain ⟨hname, hpoint⟩ := mem_of_mem_label hlabel hc
    exact (h c hname).resolve_right hpoint
  refine toAscii?_self (fun label hlabel => selfSpelled_digits (hdigits label hlabel)) ?_ ?_
  · intro label hlabel
    refine Bool.eq_false_iff.2 fun hany => ?_
    obtain ⟨c, hc, hforbidden⟩ := List.any_eq_true.1 hany
    have hdigit := hdigits label hlabel c hc
    have hplain := plain_of_isDigitChar (c := c) (Bool.or_eq_true_iff.2 (.inr hdigit))
    rw [hplain.1.allowed] at hforbidden
    cases hforbidden
  · exact not_breaksDirection fun label hlabel c hc =>
      not_marksName_of_ascii (digit_lt (hdigits label hlabel c hc))

end LeaseKeeper.DomainName
