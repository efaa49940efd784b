/-
  Hosts are read back.

  Reading gives hosts of four forms (`IsRead`).  A numeric address, the host of a general URL, and
  a domain name in which no label carries the mark of Punycode are read back as what they are
  (`IsRead.readHost_write`); for a name with the mark it depends on what the label spells.

  Whatever its form, a written host ends where it should: it has none of the characters that end
  an authority or its user information, and colons only between brackets
  (`IsRead.takeHost_write`).

    1. THE FORMS are found by following the reader, one lemma for each of its functions
       (`isRead_of_bracketed?`, `isRead_of_parse`, `isRead_of_parseGeneral`).
    2. READING BACK is one case for each form.  A name is plain ASCII by now, so percent signs and
       encodings play no part, and what is left is whether the name is its own ASCII form.
    3. A MARKED NAME may be read as another host, but only as the one in small letters
       (`IsRead.eq_small`); this needs that a name ends in a number in small letters exactly if it
       does in others (`endsInNumber_toLower`).
    4. WHERE IT ENDS follows from its characters, of which each form has its own (`InName`,
       `InAuthority`).
-/
import LeaseKeeper.Proofs.DomainName.ToAscii
import LeaseKeeper.Proofs.Url.Address
import LeaseKeeper.Proofs.Url.Percent
import LeaseKeeper.Url.Reader

namespace LeaseKeeper.Url

/-- A digit of a percent code is ASCII. -/
theorem ascii_of_isHexUpper {c : Char} (h : isHexUpper c = true) : c.toNat < 0x80 := by
  unfold isHexUpper at h
  rcases Bool.or_eq_true_iff.1 h with hdigit | hletter
  · exact DomainName.digit_lt hdigit
  · have hle : c ≤ 'F' := of_decide_eq_true (Bool.and_eq_true_iff.1 hletter).2
    exact Nat.lt_of_le_of_lt (show c.toNat ≤ 'F'.toNat from hle) (by decide)

/-! ## Numbers in small letters -/

/-- A letter in small form has the same value as a digit. -/
theorem hexValue?_toLower (c : Char) : hexValue? c.toLower = hexValue? c :=
  DomainName.apply_toLower (by decide +kernel) c

/-- The number that digits spell in a radix. -/
def numberIn? (radix : Nat) (cs : List Char) : Option Nat :=
  cs.foldl (fun n c =>
    n.bind fun n => (hexValue? c).bind fun d => if d < radix then some (n * radix + d) else none)
    (some 0)

/-- So the number is the same in small letters: digit by digit. -/
theorem numberIn?_toLower (radix : Nat) (cs : List Char) :
    numberIn? radix (cs.map Char.toLower) = numberIn? radix cs := by
  unfold numberIn?
  simp only [List.foldl_map, hexValue?_toLower]

/-- One character has no radix in front of it. -/
theorem ipv4Number?_singleton (c : Char) : ipv4Number? [c] = numberIn? 10 [c] := by
  unfold ipv4Number?
  split
  · rename_i heq
    cases heq
  · rename_i heq
    cases heq
  · rename_i heq
    cases heq
  · rfl

/-- The first two characters of a number tell its radix: `0x` sixteen, another zero eight,
    anything else ten. -/
theorem ipv4Number?_cons (c d : Char) (ds : List Char) : ipv4Number? (c :: d :: ds) =
    if c == '0' then if d == 'x' || d == 'X' then numberIn? 16 ds else numberIn? 8 (d :: ds)
    else numberIn? 10 (c :: d :: ds) := by
  unfold ipv4Number?
  split
  · -- `0x`
    rename_i heq
    cases heq
    rfl
  · -- `0X`
    rename_i heq
    cases heq
    rfl
  · -- a zero, and no such letter behind it
    rename_i hx hX heq
    cases heq
    have hletter : (d == 'x' || d == 'X') = false :=
      Bool.or_eq_false_iff.2 ⟨beq_eq_false_iff_ne.2 hx, beq_eq_false_iff_ne.2 hX⟩
    rw [hletter]
    rfl
  · -- no zero
    rename_i hzero
    have hc : (c == '0') = false := beq_eq_false_iff_ne.2 fun h => hzero d ds (h ▸ rfl)
    rw [hc]
    rfl

/-- **The number that a part spells** is the same in small letters: neither the radix nor the
    digits notice. -/
theorem ipv4Number?_toLower (cs : List Char) :
    ipv4Number? (cs.map Char.toLower) = ipv4Number? cs := by
  have hzero : ∀ c : Char, (c.toLower == '0') = (c == '0') :=
    DomainName.apply_toLower (f := (· == '0')) (by decide +kernel)
  have hx : ∀ c : Char, (c.toLower == 'x' || c.toLower == 'X') = (c == 'x' || c == 'X') :=
    DomainName.apply_toLower (f := fun c => c == 'x' || c == 'X') (by decide +kernel)
  match cs with
  | [] => rfl
  | [c] =>
    rw [List.map_singleton, ipv4Number?_singleton, ipv4Number?_singleton]
    exact numberIn?_toLower 10 [c]
  | c :: d :: ds =>
    have hoctal := numberIn?_toLower 8 (d :: ds)
    have hdecimal := numberIn?_toLower 10 (c :: d :: ds)
    rw [List.map_cons] at hoctal
    rw [List.map_cons, List.map_cons] at hdecimal
    rw [List.map_cons, List.map_cons, ipv4Number?_cons, ipv4Number?_cons, hzero, hx, hoctal,
      hdecimal, numberIn?_toLower]

/-- **A name that ends in a number** does so in small letters too: the last part decides, or the
    one before it if the last one is empty, and each part has the same digits in small letters. -/
theorem endsInNumber_toLower (cs : List Char) :
    endsInNumber (cs.map Char.toLower) = endsInNumber cs := by
  have hdigit : ∀ part : List Char,
      (part.map Char.toLower).all Char.isDigit = part.all Char.isDigit := by
    intro part
    rw [List.all_map]
    exact congrArg part.all (funext fun c => DomainName.apply_toLower (by decide +kernel) c)
  have hnumber : ∀ part : List Char,
      (!(part.map Char.toLower).isEmpty && ((part.map Char.toLower).all Char.isDigit ||
        (ipv4Number? (part.map Char.toLower)).isSome)) =
      (!part.isEmpty && (part.all Char.isDigit || (ipv4Number? part).isSome)) := by
    intro part
    rw [List.isEmpty_map, hdigit, ipv4Number?_toLower]
  unfold endsInNumber
  rw [DomainName.splitOn_toLower, ← List.map_reverse]
  match (cs.splitOn '.').reverse with
  | [] => rfl
  | [[]] => rfl
  | [] :: part :: _ => exact hnumber part
  | (c :: part) :: _ => exact hnumber (c :: part)

namespace Host

variable {kind : SchemeKind} {host : Host} {cs : List Char}

/-! ## The forms of a host -/

/-- **What reading gives for a host.**  The first two are hosts of special URLs, the last one is
    that of a general URL, and an address between brackets can be either's.  A domain name is the
    ASCII form of some name, which is all that has to be known of it. -/
inductive IsRead (kind : SchemeKind) : Host → Prop where
  | domain {text : List Char} (hkind : kind.isSpecial = true)
      (hascii : ∃ name, DomainName.toAscii? name = some text) (hne : text ≠ [])
      (hname : endsInNumber text = false) : IsRead kind (.name (String.ofList text))
  | ipv4 (hkind : kind.isSpecial = true) (a : UInt32) : IsRead kind (.ipv4 a)
  | ipv6 {pieces : List UInt16} (hlength : pieces.length = 8) : IsRead kind (.ipv6 pieces)
  | general {text : List Char} (hkind : kind.isSpecial = false)
      (hchars : ∀ c ∈ text, isRefused c = false ∧ inControls c = false) :
      IsRead kind (.name (String.ofList text))

/-- An address between brackets has eight pieces. -/
theorem isRead_of_bracketed? (h : bracketed? cs = .ok host) : host.IsRead kind := by
  unfold bracketed? at h
  split at h
  · split at h
    · rename_i pieces hpieces
      cases h
      exact .ipv6 (length_of_parseIpv6? hpieces)
    · cases h
  · cases h

/-- **A special host** is an address, or a name that does not end in a number. -/
theorem isRead_of_parse (hkind : kind.isSpecial = true) (h : Host.parse cs = .ok host) :
    host.IsRead kind := by
  unfold Host.parse at h
  split at h
  · -- between brackets
    exact isRead_of_bracketed? h
  · split at h
    · cases h
    · rename_i text htext
      obtain ⟨name, -, hascii⟩ := Option.bind_eq_some_iff.1 htext
      split at h
      · cases h
      · rename_i hne
        split at h
        · -- the ASCII form ends in a number, so it must be an address
          split at h
          · cases h
            exact .ipv4 hkind _
          · cases h
        · -- it is a name, and it is not empty
          rename_i hname
          cases h
          refine .domain hkind ⟨name, hascii⟩ ?_ (Bool.eq_false_iff.2 hname)
          rintro rfl
          exact hne rfl

/-- **The host of a general URL** is taken as it is, encoded where it has to be. -/
theorem isRead_of_parseGeneral (hkind : kind.isSpecial = false)
    (h : parseGeneral cs = .ok host) : host.IsRead kind := by
  unfold parseGeneral at h
  split at h
  · exact isRead_of_bracketed? h
  · split at h
    · cases h
    · rename_i hrefused
      cases h
      refine .general hkind fun c hc => ?_
      -- percent signs and digits are allowed in a host
      have hhex : isHexUpper c = true → isRefused c = false ∧ inControls c = false := fun hhex =>
        DomainName.ascii_forall
          (P := fun c => isHexUpper c = true → isRefused c = false ∧ inControls c = false)
          (by decide +kernel) (ascii_of_isHexUpper hhex) hhex
      -- a character of an encoded text was there before, or belongs to a percent code
      rcases mem_percentEncode hc with ⟨hmem, hset⟩ | rfl | hc
      · refine ⟨Bool.eq_false_iff.2 fun h => hrefused (List.any_eq_true.2 ⟨c, hmem, h⟩), hset⟩
      · decide
      · exact hhex hc

/-- **A host that was read has one of these forms.** -/
theorem isRead_of_readHost (h : readHost kind cs = .ok host) : host.IsRead kind := by
  unfold readHost at h
  split at h
  · rename_i hkind
    split at h
    · cases h
    · exact isRead_of_parse hkind h
  · rename_i hkind
    exact isRead_of_parseGeneral (Bool.eq_false_iff.2 hkind) h

/-! ## Written hosts are hosts -/

/-- A name is its ASCII form, if it has one.  No character of it is forbidden, so there is no
    bracket at its front and no percent sign in it, and decoding leaves it alone. -/
theorem parse_plain {text : List Char} (hplain : ∀ c ∈ text, DomainName.isForbidden c = false) :
    Host.parse text = match DomainName.toAscii? text with
      | none => .error .domainName
      | some domain =>
        if domain.isEmpty then .error .emptyHost
        else if endsInNumber domain then
          match parseIpv4? domain with
          | some a => .ok (.ipv4 a)
          | none => .error .ipv4
        else .ok (.name (String.ofList domain)) := by
  have hpercent : '%' ∉ text := fun h => absurd (hplain '%' h) (by decide)
  have hbracket : text.head? ≠ some '[' := by
    intro h
    exact absurd (hplain '[' (List.mem_of_head? h)) (by decide)
  have hname : (utf8Decode? (percentDecode text)).bind DomainName.toAscii? =
      DomainName.toAscii? text := by
    rw [percentDecode_self hpercent, utf8Decode?_utf8Bytes, Option.bind_some]
  unfold Host.parse
  refine (if_neg hbracket).trans ?_
  generalize (utf8Decode? (percentDecode text)).bind DomainName.toAscii? = domain? at hname ⊢
  subst hname
  cases DomainName.toAscii? text <;> rfl

/-- A name that is its own ASCII form is read as itself, unless it ends in a number. -/
theorem parse_self {text : List Char} (hascii : DomainName.toAscii? text = some text)
    (hne : text ≠ []) : Host.parse text =
      if endsInNumber text then
        match parseIpv4? text with
        | some a => .ok (.ipv4 a)
        | none => .error .ipv4
      else .ok (.name (String.ofList text)) := by
  rw [parse_plain fun c hc => (DomainName.plain_of_mem_toAscii? hascii hc).allowed, hascii]
  exact if_neg fun h => hne (List.isEmpty_iff.1 h)

/-- An address between brackets is read back: the brackets are taken off, and the pieces are
    read. -/
theorem bracketed?_write {pieces : List UInt16} (h : pieces.length = 8) :
    bracketed? (write (.ipv6 pieces)) = .ok (.ipv6 pieces) := by
  have hwrite : write (.ipv6 pieces) = ('[' :: writeIpv6 pieces) ++ [']'] := rfl
  have hinner : (('[' :: writeIpv6 pieces) ++ [']']).tail.dropLast = writeIpv6 pieces := by
    rw [List.cons_append, List.tail_cons, List.dropLast_concat]
  unfold bracketed?
  rw [hwrite, List.getLast?_concat, hinner, parseIpv6?_writeIpv6 h]
  rfl

/-- An address is no name: it consists of digits and points, so it is its own ASCII form, and it
    ends in a number. -/
theorem parse_writeIpv4 (a : UInt32) : Host.parse (writeIpv4 a) = .ok (.ipv4 a) := by
  have hne : writeIpv4 a ≠ [] := by
    intro h
    have hnumber := endsInNumber_writeIpv4 a
    rw [h] at hnumber
    exact absurd hnumber (by decide)
  rw [parse_self (DomainName.toAscii?_digits fun c hc => mem_writeIpv4 hc) hne,
    if_pos (endsInNumber_writeIpv4 a), parseIpv4?_writeIpv4]

/-- The host of a special URL is written: no form of it is written as nothing. -/
theorem IsRead.write_ne_nil (h : host.IsRead kind) (hkind : kind.isSpecial = true) :
    host.write ≠ [] := by
  cases h with
  | domain _ _ hne => simpa [write] using hne
  | ipv4 _ a =>
    intro h
    have hnumber := endsInNumber_writeIpv4 a
    rw [show writeIpv4 a = [] from h] at hnumber
    exact absurd hnumber (by decide)
  | ipv6 => exact List.cons_ne_nil _ _
  | general hgeneral =>
    rw [hkind] at hgeneral
    cases hgeneral

/-- A host in whose name a label carries the mark of Punycode. -/
def IsMarked (host : Host) : Prop := ∃ text, host = .name text ∧ DomainName.IsMarked text.toList

/-- The empty name has no mark: its only label is empty. -/
theorem not_isMarked_absent : ¬Host.absent.IsMarked := by
  rintro ⟨text, htext, label, hlabel, hmark⟩
  rw [← Host.name.inj htext, show "".toList.splitOn '.' = [[]] from rfl, List.mem_singleton] at hlabel
  rw [hlabel] at hmark
  cases hmark

/-- **Hosts are read back**: a special one must not be marked.  One case for each form, first
    among those of special URLs and then among those of general ones. -/
theorem IsRead.readHost_write (h : host.IsRead kind)
    (hmark : kind.isSpecial = true → ¬host.IsMarked) : readHost kind host.write = .ok host := by
  unfold readHost
  by_cases hkind : kind.isSpecial = true
  · rw [if_pos hkind, if_neg fun hnil => h.write_ne_nil hkind (List.isEmpty_iff.1 hnil)]
    cases h with
    | @domain text _ hascii hne hname =>
      -- a name without the mark is its own ASCII form
      obtain ⟨name, hascii⟩ := hascii
      have hagain := DomainName.toAscii?_again hascii fun hmarked =>
        hmark hkind ⟨_, rfl, by rwa [String.toList_ofList]⟩
      rw [write, String.toList_ofList, parse_self hagain hne, hname,
        if_neg Bool.false_ne_true]
    | ipv4 _ a => exact parse_writeIpv4 a
    | ipv6 hlength =>
      unfold Host.parse
      rw [if_pos (by rfl), bracketed?_write hlength]
    | general hgeneral =>
      rw [hkind] at hgeneral
      cases hgeneral
  · rw [if_neg hkind]
    unfold parseGeneral
    cases h with
    | domain hspecial => exact absurd hspecial hkind
    | ipv4 hspecial => exact absurd hspecial hkind
    | ipv6 hlength => rw [if_pos (by rfl), bracketed?_write hlength]
    | @general text _ hchars =>
      -- a host of a general URL has only characters that are allowed, so it is taken as it is
      rw [write, String.toList_ofList]
      have hbracket : text.head? ≠ some '[' := by
        intro h
        exact absurd (hchars '[' (List.mem_of_head? h)).1 (by decide)
      have hrefused : ¬text.any isRefused = true := by
        intro hany
        obtain ⟨c, hc, hc'⟩ := List.any_eq_true.1 hany
        rw [(hchars c hc).1] at hc'
        cases hc'
      rw [if_neg hbracket, if_neg hrefused, percentEncode_self fun c hc => (hchars c hc).2]

/-- A host that is there is there again, whatever host is read: special ones are never absent,
    and of the others all are read back. -/
theorem IsRead.absent_iff {again : Host} (h : host.IsRead kind)
    (hagain : readHost kind host.write = .ok again) : again = .absent ↔ host = .absent := by
  by_cases hkind : kind.isSpecial = true
  · -- no special host is written as the empty name
    have hsome : ∀ {host : Host}, host.IsRead kind → host ≠ .absent := by
      rintro _ hread rfl
      exact hread.write_ne_nil hkind rfl
    exact iff_of_false (hsome (isRead_of_readHost hagain)) (hsome h)
  · rw [h.readHost_write fun hspecial => absurd hspecial hkind] at hagain
    rw [Except.ok.inj hagain]

/-! ## Small letters -/

/-- A host in small letters. -/
def small : Host → Host
  | name text => .name (String.ofList (text.toList.map Char.toLower))
  | host => host

/-- **A special host is in small letters**, unless it is marked: an ASCII form has no others. -/
theorem IsRead.small_self (h : host.IsRead kind) (hkind : kind.isSpecial = true)
    (hmark : ¬host.IsMarked) : host.small = host := by
  cases h with
  | @domain text _ hascii =>
    obtain ⟨name, hascii⟩ := hascii
    have hunmarked : ¬DomainName.IsMarked text := fun hmarked =>
      hmark ⟨_, rfl, by rwa [String.toList_ofList]⟩
    rw [small, String.toList_ofList, DomainName.toLower_of_toAscii? hascii hunmarked]
  | ipv4 => rfl
  | ipv6 => rfl
  | general hgeneral =>
    rw [hkind] at hgeneral
    cases hgeneral

/-- **A special host that is read again** is the host in small letters.  Whether it is read at
    all is open if it is marked; but the ASCII form of a name that is ASCII is that name in small
    letters, and this ends in no number, since the name does not. -/
theorem IsRead.eq_small {again : Host} (h : host.IsRead kind) (hkind : kind.isSpecial = true)
    (hagain : readHost kind host.write = .ok again) : again = host.small := by
  cases h with
  | @domain text _ hascii hne hname =>
    obtain ⟨name, hascii⟩ := hascii
    have hplain := fun c hc => DomainName.plain_of_mem_toAscii? (c := c) hascii hc
    rw [readHost, if_pos hkind, write, String.toList_ofList,
      if_neg fun hnil => hne (List.isEmpty_iff.1 hnil), parse_plain fun c hc => (hplain c hc).allowed]
      at hagain
    split at hagain
    · -- it has no ASCII form, so nothing was read
      cases hagain
    · -- it has one, which is the name in small letters
      rename_i domain hdomain
      have hsmall := DomainName.toAscii?_of_ascii (fun c hc => (hplain c hc).ascii) hdomain
      rw [hsmall, endsInNumber_toLower, hname, if_neg Bool.false_ne_true] at hagain
      split at hagain
      · cases hagain
      · cases hagain
        rw [small, String.toList_ofList]
  | ipv4 _ a =>
    rw [(IsRead.ipv4 hkind a).readHost_write fun _ => nofun] at hagain
    exact (Except.ok.inj hagain).symm
  | ipv6 hlength =>
    rw [(IsRead.ipv6 hlength).readHost_write fun _ => nofun] at hagain
    exact (Except.ok.inj hagain).symm
  | general hgeneral =>
    rw [hkind] at hgeneral
    cases hgeneral

/-- A name with the mark of Punycode in front is no number: its first letter is no digit, so it
    spells no number in any radix. -/
theorem endsInNumber_mark {code : List Char} (hcode : '.' ∉ code) :
    endsInNumber (DomainName.mark ++ code) = false := by
  have hpoint : ∀ c ∈ DomainName.mark ++ code, (c == '.') = false := by
    intro c hc
    refine beq_eq_false_iff_ne.2 ?_
    rintro rfl
    exact (List.mem_append.1 hc).elim (by decide) hcode
  have hsplit : (DomainName.mark ++ code).splitOn '.' = [DomainName.mark ++ code] :=
    List.splitOnP_eq_singleton hpoint
  -- where no number is spelled, no further digit makes one
  have hnone : ∀ cs : List Char, cs.foldl (fun n c =>
      n.bind fun n => (hexValue? c).bind fun d => if d < 10 then some (n * 10 + d) else none)
      (none : Option Nat) = none := by
    intro cs
    induction cs with
    | nil => rfl
    | cons c cs ih => exact ih
  have hnumber : ipv4Number? (DomainName.mark ++ code) = none := by
    show ipv4Number? ('x' :: 'n' :: ('-' :: '-' :: code)) = none
    rw [ipv4Number?_cons, if_neg (by decide)]
    exact hnone _
  unfold endsInNumber
  rw [hsplit]
  show (!(DomainName.mark ++ code).isEmpty &&
    ((DomainName.mark ++ code).all Char.isDigit || (ipv4Number? (DomainName.mark ++ code)).isSome)) =
      false
  rw [hnumber]
  rfl

/-! ## Where a written host ends -/

/-- A character that may stand in an authority after its user information: it does not end the
    authority, it does not end the user information, and it is not dropped when the text is read. -/
structure InAuthority (kind : SchemeKind) (c : Char) : Prop where
  goesOn : endsAuthority kind c = false
  noMark : c ≠ '@'
  printable : 0x20 < c.toNat

instance (kind : SchemeKind) (c : Char) : Decidable (InAuthority kind c) :=
  decidable_of_iff (endsAuthority kind c = false ∧ c ≠ '@' ∧ 0x20 < c.toNat)
    ⟨fun ⟨goesOn, noMark, printable⟩ => ⟨goesOn, noMark, printable⟩,
      fun ⟨goesOn, noMark, printable⟩ => ⟨goesOn, noMark, printable⟩⟩

/-- A character of a host outside brackets. -/
def InName (kind : SchemeKind) (c : Char) : Prop := InAuthority kind c ∧ c ≠ ':' ∧ c ≠ '['

instance (kind : SchemeKind) (c : Char) : Decidable (InName kind c) :=
  inferInstanceAs (Decidable (_ ∧ _ ∧ _))

/-- A character of a plain name is one of them: all of ASCII is looked through. -/
theorem inName_of_plain {c : Char} (h : DomainName.Plain c) (kind : SchemeKind) : InName kind c := by
  have hall : ∀ kind, ∀ c : Char, c.toNat < 0x80 → DomainName.isForbidden c = false →
      InName kind c := by
    intro kind c
    cases kind <;> exact DomainName.ascii_forall
      (P := fun c => DomainName.isForbidden c = false → InName _ c) (by decide +kernel)
  exact hall kind c h.ascii h.allowed

/-- What is not ASCII may stand in the name of a host. -/
theorem inName_of_not_ascii {c : Char} (hc : ¬c.toNat < 0x80) (kind : SchemeKind) :
    InName kind c := by
  have hne : ∀ d : Char, d.toNat < 0x80 → c ≠ d := by
    rintro d hd rfl
    exact hc hd
  have hother : ∀ d : Char, d.toNat < 0x80 → (c == d) = false := fun d hd =>
    beq_eq_false_iff_ne.2 (hne d hd)
  refine ⟨⟨?_, hne '@' (by decide), by omega⟩, hne ':' (by decide), hne '[' (by decide)⟩
  unfold endsAuthority SchemeKind.isSlash isTailMark
  rw [hother '/' (by decide), hother '\\' (by decide), hother '?' (by decide),
    hother '#' (by decide), Bool.and_false]
  rfl

/-- So is a character that is allowed in the host of a general URL. -/
theorem inName_of_allowed {c : Char} (hrefused : isRefused c = false) (hcontrol : inControls c = false)
    (kind : SchemeKind) : InName kind c := by
  have hascii : c.toNat < 0x80 := by
    unfold inControls at hcontrol
    have hlt := of_decide_eq_false (Bool.or_eq_false_iff.1 hcontrol).2
    omega
  have hall : ∀ kind, ∀ c : Char, c.toNat < 0x80 → isRefused c = false → inControls c = false →
      InName kind c := by
    intro kind c
    cases kind <;> exact DomainName.ascii_forall
      (P := fun c => isRefused c = false → inControls c = false → InName _ c) (by decide +kernel)
  exact hall kind c hascii hrefused hcontrol

/-- So is a digit of an address, and it does not close the brackets. -/
theorem inName_of_hex {c : Char} (h : (hexValue? c).isSome = true) (kind : SchemeKind) :
    InName kind c ∧ c ≠ ']' := by
  have hascii : c.toNat < 0x80 := by
    unfold hexValue? at h
    split at h
    · rename_i hdigit
      exact DomainName.digit_lt hdigit
    · split at h
      · rename_i hletter
        exact Nat.lt_of_le_of_lt (show c.toNat ≤ 'f'.toNat from hletter.2) (by decide)
      · split at h
        · rename_i hletter
          exact Nat.lt_of_le_of_lt (show c.toNat ≤ 'F'.toNat from hletter.2) (by decide)
        · cases h
  have hall : ∀ kind, ∀ c : Char, c.toNat < 0x80 → (hexValue? c).isSome = true →
      InName kind c ∧ c ≠ ']' := by
    intro kind c
    cases kind <;> exact DomainName.ascii_forall
      (P := fun c => (hexValue? c).isSome = true → InName _ c ∧ c ≠ ']') (by decide +kernel)
  exact hall kind c hascii h

/-- The characters of an address between brackets are digits and colons, and the latter end a
    host only outside of brackets. -/
theorem inAuthority_of_mem_writeIpv6 {pieces : List UInt16} {c : Char} (h : c ∈ writeIpv6 pieces)
    (kind : SchemeKind) : InAuthority kind c ∧ c ≠ ']' := by
  rcases mem_writeIpv6 h with rfl | hhex
  · cases kind <;> decide
  · exact ⟨(inName_of_hex hhex kind).1.1, (inName_of_hex hhex kind).2⟩

/-- The characters of a special host that is no address between brackets: all of them are
    characters of an ASCII form. -/
theorem IsRead.plain (h : host.IsRead kind) (hkind : kind.isSpecial = true)
    (hname : ∀ pieces, host ≠ .ipv6 pieces) : ∀ c ∈ host.write, DomainName.Plain c := by
  intro c hc
  cases h with
  | domain _ hascii =>
    obtain ⟨name, hascii⟩ := hascii
    rw [write, String.toList_ofList] at hc
    exact DomainName.plain_of_mem_toAscii? hascii hc
  | ipv4 _ a =>
    exact DomainName.plain_of_mem_toAscii?
      (DomainName.toAscii?_digits fun c hc => mem_writeIpv4 hc) (show c ∈ writeIpv4 a from hc)
  | ipv6 => exact absurd rfl (hname _)
  | general hgeneral =>
    rw [hkind] at hgeneral
    cases hgeneral

/-- The characters of a host that is no address between brackets can stand outside of them. -/
theorem IsRead.inName (h : host.IsRead kind) (hname : ∀ pieces, host ≠ .ipv6 pieces) :
    ∀ c ∈ host.write, InName kind c := by
  intro c hc
  by_cases hkind : kind.isSpecial = true
  · exact inName_of_plain (h.plain hkind hname c hc) kind
  · cases h with
    | domain hspecial => exact absurd hspecial hkind
    | ipv4 hspecial => exact absurd hspecial hkind
    | ipv6 => exact absurd rfl (hname _)
    | general _ hchars =>
      rw [write, String.toList_ofList] at hc
      exact inName_of_allowed (hchars c hc).1 (hchars c hc).2 kind

/-- A special host is no drive: a drive is a letter and a colon or a bar, neither of which is in
    the name of a host. -/
theorem IsRead.isDrive_write (h : host.IsRead kind) (hkind : kind.isSpecial = true) :
    isDrive host.write = false := by
  cases hwrite : host.write with
  | nil => rfl
  | cons a rest =>
    match rest with
    | [] => rfl
    | _ :: _ :: _ => rfl
    | [b] =>
      refine Bool.eq_false_iff.2 fun hdrive => ?_
      obtain ⟨halpha, hb⟩ := Bool.and_eq_true_iff.1 hdrive
      -- an address between brackets does not begin with a letter
      have hname : ∀ pieces, host ≠ .ipv6 pieces := by
        rintro pieces rfl
        obtain ⟨rfl, -⟩ := List.cons.inj hwrite
        cases halpha
      have hplain := h.plain hkind hname b (by rw [hwrite]; exact List.mem_cons_of_mem _ (.head _))
      rcases Bool.or_eq_true_iff.1 hb with hb | hb <;>
        exact absurd (eq_of_beq hb ▸ hplain.allowed) (by decide)

/-- **The characters of a written host**, whatever its form, do not end the authority. -/
theorem IsRead.inAuthority (h : host.IsRead kind) : ∀ c ∈ host.write, InAuthority kind c := by
  cases host with
  | name text => exact fun c hc => (h.inName nofun c hc).1
  | ipv4 a => exact fun c hc => (h.inName nofun c hc).1
  | ipv6 pieces =>
    intro c hc
    rcases List.mem_cons.1 hc with rfl | hc
    · -- the bracket in front
      cases kind <;> decide
    · rcases List.mem_append.1 hc with hc | hc
      · -- the address
        exact (inAuthority_of_mem_writeIpv6 hc kind).1
      · -- the bracket behind it
        rw [List.mem_singleton.1 hc]
        cases kind <;> decide

/-- What may come after a host: nothing, what ends the authority, or the colon of a port. -/
def EndsHost (kind : SchemeKind) (cs : List Char) : Prop :=
  ∀ c rest, cs = c :: rest → (endsAuthority kind c || c == ':') = true

/-- Nothing is taken where the host is at its end. -/
theorem EndsHost.takeHost {rest : List Char} (h : EndsHost kind rest) :
    takeHost kind false rest = ([], rest) := by
  cases rest with
  | nil => rfl
  | cons c rest =>
    unfold Url.takeHost
    rw [Bool.not_false, Bool.and_true, if_pos (h c rest rfl)]

/-- A host outside brackets: induction on it.  No character of it opens brackets or ends it, so
    the reader takes it and stays outside. -/
theorem takeHost_name {text rest : List Char} (htext : ∀ c ∈ text, InName kind c)
    (hrest : EndsHost kind rest) : takeHost kind false (text ++ rest) = (text, rest) := by
  induction text with
  | nil => exact hrest.takeHost
  | cons c text ih =>
    obtain ⟨hauthority, hcolon, hbracket⟩ := htext c (List.mem_cons_self ..)
    have hends : ¬(endsAuthority kind c || c == ':' && !false) = true := by
      rw [hauthority.goesOn, beq_eq_false_iff_ne.2 hcolon]
      decide
    have hinside : (if c == '[' then true else if c == ']' then false else false) = false := by
      rw [if_neg fun h => hbracket (eq_of_beq h)]
      split <;> rfl
    have hmore := ih fun d hd => htext d (List.mem_cons_of_mem _ hd)
    rw [List.cons_append]
    unfold takeHost
    rw [if_neg hends]
    dsimp only
    rw [hinside, hmore]

/-- The rest of a host between brackets: induction on it.  The reader stays inside until the
    closing bracket, so colons do not end it. -/
theorem takeHost_inside {text rest : List Char}
    (htext : ∀ c ∈ text, InAuthority kind c ∧ c ≠ ']') (hrest : EndsHost kind rest) :
    takeHost kind true (text ++ ']' :: rest) = (text ++ [']'], rest) := by
  induction text with
  | nil =>
    have hends : ¬(endsAuthority kind ']' || ']' == ':' && !true) = true := by
      cases kind <;> decide
    rw [List.nil_append]
    unfold takeHost
    rw [if_neg hends]
    dsimp only
    rw [if_neg (by decide), if_pos (by decide), hrest.takeHost]
    rfl
  | cons c text ih =>
    obtain ⟨hauthority, hbracket⟩ := htext c (List.mem_cons_self ..)
    have hends : ¬(endsAuthority kind c || c == ':' && !true) = true := by
      rw [hauthority.goesOn, Bool.not_true, Bool.and_false]
      decide
    have hinside : (if c == '[' then true else if c == ']' then false else true) = true := by
      split
      · rfl
      · rw [if_neg fun h => hbracket (eq_of_beq h)]
    have hmore := ih fun d hd => htext d (List.mem_cons_of_mem _ hd)
    rw [List.cons_append]
    unfold takeHost
    rw [if_neg hends]
    dsimp only
    rw [hinside, hmore]
    rfl

/-- **A written host ends where it should**: the reader takes the host and leaves what comes
    after it. -/
theorem IsRead.takeHost_write (h : host.IsRead kind) {rest : List Char}
    (hrest : EndsHost kind rest) :
    takeHost kind false (host.write ++ rest) = (host.write, rest) := by
  cases host with
  | name text => exact takeHost_name (h.inName nofun) hrest
  | ipv4 a => exact takeHost_name (h.inName nofun) hrest
  | ipv6 pieces =>
    have hends : ¬(endsAuthority kind '[' || '[' == ':' && !false) = true := by
      cases kind <;> decide
    have hinside := takeHost_inside
      (fun c (hc : c ∈ writeIpv6 pieces) => inAuthority_of_mem_writeIpv6 hc kind) hrest
    show takeHost kind false ('[' :: (writeIpv6 pieces ++ [']'] ++ rest)) = _
    rw [List.append_assoc, List.singleton_append]
    unfold takeHost
    rw [if_neg hends]
    dsimp only
    rw [if_pos (by decide), hinside]
    rfl

end Host

end LeaseKeeper.Url
