/-
  Numeric addresses are read back.

  An IPv4 address is written as four decimal numbers (`parseIpv4?_writeIpv4`).  An IPv6 address of
  eight pieces is written with its longest run of zeros left out, and the run is what is missing
  when the rest is read (`parseIpv6?_writeIpv6`).

    1. IPV4: the text is split at its points into the decimals of four numbers below 256; each is
       read as itself, and together they make up the address.
    2. ONE PIECE of an IPv6 address is read digit by digit (`takeHex_toDigits`), until a character
       that is no digit; a piece has at most four digits, so the reader stops for want of digits
       and not because it has read enough.
    3. ALL PIECES, up to the end (`ipv6Pieces?_writePieces`) or up to a gap (`ipv6Pieces?_gap`),
       are read by induction on them, as the reader goes on behind each colon.
    4. THE RUN is a run of zeros (`longestZeroRun_eq`), and its place and length can be worked out
       from what was read: the place is where the gap was, and the length is what is missing to
       eight.
-/
import LeaseKeeper.Url.Address

namespace LeaseKeeper.Url

/-! ## IPv4 -/

/-- The decimals of a small number are read as that number: all of them are tried. -/
theorem ipv4Number?_toDigits {n : Nat} (h : n < 256) : ipv4Number? (Nat.toDigits 10 n) = some n := by
  have hall : ∀ n : Fin 256, ipv4Number? (Nat.toDigits 10 n.val) = some n.val := by decide +kernel
  exact hall ⟨n, h⟩

/-- The characters of a decimal number. -/
theorem isDigit_of_mem_toDigits {n : Nat} {c : Char} (h : c ∈ Nat.toDigits 10 n) :
    c.isDigit = true := Nat.isDigit_of_mem_toDigits (by decide) (by decide) h

/-- The four numbers of an address. -/
def ipv4Numbers (a : UInt32) : List Nat :=
  [a.toNat / 16777216, a.toNat / 65536 % 256, a.toNat / 256 % 256, a.toNat % 256]

/-- Each of them can be written with at most three digits. -/
theorem ipv4Numbers_lt (a : UInt32) : ∀ n ∈ ipv4Numbers a, n < 256 := by
  have ha : a.toNat < 4294967296 := a.toNat_lt
  simp only [ipv4Numbers, List.mem_cons, List.not_mem_nil, or_false]
  rintro n (rfl | rfl | rfl | rfl) <;> omega

/-- An address is written as its numbers: no point is in a number, so splitting at the points
    gives the numbers. -/
theorem splitOn_writeIpv4 (a : UInt32) :
    (writeIpv4 a).splitOn '.' = (ipv4Numbers a).map (Nat.toDigits 10) := by
  refine List.splitOn_intercalate '.' ?_ (by simp)
  intro part hpart hpoint
  obtain ⟨n, -, rfl⟩ := List.mem_map.1 hpart
  exact absurd (isDigit_of_mem_toDigits hpoint) (by decide)

/-- What is written: decimal digits and points. -/
theorem mem_writeIpv4 {a : UInt32} {c : Char} (h : c ∈ writeIpv4 a) : c.isDigit = true ∨ c = '.' := by
  by_cases hpoint : c = '.'
  · exact .inr hpoint
  · simp only [writeIpv4, List.intercalate, List.map_cons, List.map_nil, List.intersperse,
      List.flatten_cons, List.flatten_nil, List.mem_append, List.mem_singleton, List.not_mem_nil,
      hpoint, false_or, or_false] at h
    rcases h with h | h | h | h <;> exact .inl (isDigit_of_mem_toDigits h)

/-- The numbers of an address give the address.  The last one may be larger in general, up to
    what the numbers before it leave room for; here it is below 256 as well. -/
theorem ipv4OfNumbers?_ipv4Numbers (a : UInt32) :
    ipv4OfNumbers? 0 (ipv4Numbers a) = some a.toNat := by
  have ha : a.toNat < 4294967296 := a.toNat_lt
  have hfirst : ¬255 < a.toNat / 16777216 := by omega
  have hsecond : ¬255 < a.toNat / 65536 % 256 := by omega
  have hthird : ¬255 < a.toNat / 256 % 256 := by omega
  have hfourth : a.toNat % 256 < Nat.pow 256 (4 - (0 + 1 + 1 + 1)) := by
    show a.toNat % 256 < 256
    omega
  have hsum : a.toNat / 16777216 * 16777216 +
      (a.toNat / 65536 % 256 * 65536 + (a.toNat / 256 % 256 * 256 + a.toNat % 256)) =
        a.toNat := by omega
  unfold ipv4Numbers
  simp only [ipv4OfNumbers?, if_neg hfirst, if_neg hsecond, if_neg hthird, if_pos hfourth,
    Option.bind_eq_bind, Option.bind_some]
  exact congrArg some hsum

/-- **An IPv4 address is read back**: there are four parts, none of them empty, and each is read
    as its number. -/
theorem parseIpv4?_writeIpv4 (a : UInt32) : parseIpv4? (writeIpv4 a) = some a := by
  have hlt := ipv4Numbers_lt a
  have hnumbers : ((ipv4Numbers a).map (Nat.toDigits 10)).mapM ipv4Number? =
      some (ipv4Numbers a) := by
    simp only [ipv4Numbers, List.mem_cons, List.not_mem_nil, or_false, forall_eq_or_imp,
      forall_eq] at hlt ⊢
    simp only [List.map_cons, List.map_nil, List.mapM_cons, List.mapM_nil,
      ipv4Number?_toDigits hlt.1, ipv4Number?_toDigits hlt.2.1, ipv4Number?_toDigits hlt.2.2.1,
      ipv4Number?_toDigits hlt.2.2.2]
    rfl
  have hlast : ((ipv4Numbers a).map (Nat.toDigits 10)).getLast? ≠ some [] := by
    simp [ipv4Numbers]
  have hlength : ¬4 < ((ipv4Numbers a).map (Nat.toDigits 10)).length := by simp [ipv4Numbers]
  unfold parseIpv4?
  rw [splitOn_writeIpv4]
  dsimp only
  rw [if_neg hlast, if_neg hlength, hnumbers]
  simp only [Option.bind_eq_bind, Option.bind_some, ipv4OfNumbers?_ipv4Numbers]
  exact congrArg some UInt32.ofNat_toNat

/-- Its last part is a number, so it can be no name. -/
theorem endsInNumber_writeIpv4 (a : UInt32) : endsInNumber (writeIpv4 a) = true := by
  unfold endsInNumber
  rw [splitOn_writeIpv4]
  have hlast : ∃ c cs, Nat.toDigits 10 (a.toNat % 256) = c :: cs :=
    List.exists_cons_of_ne_nil Nat.toDigits_ne_nil
  obtain ⟨c, cs, hlast⟩ := hlast
  have hdigits : (c :: cs).all Char.isDigit = true := by
    refine List.all_eq_true.2 fun d hd => ?_
    rw [← hlast] at hd
    exact isDigit_of_mem_toDigits hd
  simp only [ipv4Numbers, List.map_cons, List.map_nil, List.reverse_cons, List.reverse_nil,
    List.nil_append, List.cons_append, hlast, hdigits]
  rfl

/-! ## IPv6: one piece -/

/-- The digits from zero to fifteen: all of them are tried. -/
theorem hexValue?_digitChar {n : Nat} (h : n < 16) : hexValue? (Nat.digitChar n) = some n := by
  have hall : ∀ n : Fin 16, hexValue? (Nat.digitChar n.val) = some n.val := by decide
  exact hall ⟨n, h⟩

/-- A text that goes on with no hexadecimal digit: it is at its end, or something else comes. -/
def endsHex (cs : List Char) : Prop := ∀ c rest, cs = c :: rest → hexValue? c = none

/-- The end of a text. -/
theorem endsHex_nil : endsHex [] := fun _ _ h => nomatch h

/-- A colon, which comes between pieces. -/
theorem endsHex_colon (cs : List Char) : endsHex (':' :: cs) := by
  intro c rest h
  cases h
  decide

/-- No digit is taken where there is none, however many may still be taken. -/
theorem takeHex_end {cs : List Char} (h : endsHex cs) (budget value : Nat) :
    takeHex budget value cs = (value, budget, cs) := by
  cases cs with
  | nil => rw [takeHex]
  | cons c cs =>
    unfold takeHex
    rw [h c cs rfl]
    cases budget <;> rfl

/-- A digit is taken. -/
theorem takeHex_digit {n : Nat} (h : n < 16) (budget value : Nat) (cs : List Char) :
    takeHex (budget + 1) value (Nat.digitChar n :: cs) = takeHex budget (value * 16 + n) cs := by
  conv => lhs; unfold takeHex
  rw [hexValue?_digitChar h]

/-- **The digits of a number are taken**: induction on the number.  Its last digit is its
    remainder, and what comes before that are the digits of its quotient, for which the statement
    is assumed with the last digit as part of what follows. -/
theorem takeHex_toDigits (n budget value : Nat) (cs : List Char) :
    takeHex (budget + (Nat.toDigits 16 n).length) value (Nat.toDigits 16 n ++ cs) =
      takeHex budget (value * Nat.pow 16 (Nat.toDigits 16 n).length + n) cs := by
  induction n using Nat.strongRecOn generalizing budget value cs with
  | ind n ih =>
    by_cases hn : n < 16
    · -- one digit
      rw [Nat.toDigits_of_lt_base hn]
      exact takeHex_digit hn budget value cs
    · -- more than one
      have hdigit : n % 16 < 16 := Nat.mod_lt _ (by decide)
      have hrest := ih (n / 16) (Nat.div_lt_self (by omega) (by decide)) (budget + 1) value
        (Nat.digitChar (n % 16) :: cs)
      rw [Nat.toDigits_of_base_le (by decide) (Nat.le_of_not_lt hn), List.length_append,
        List.length_singleton, List.append_assoc, List.singleton_append]
      generalize hlength : (Nat.toDigits 16 (n / 16)).length = length at hrest ⊢
      rw [show budget + (length + 1) = budget + 1 + length by omega, hrest, takeHex_digit hdigit]
      have hpow : Nat.pow 16 (length + 1) = Nat.pow 16 length * 16 := rfl
      congr 1
      rw [hpow, Nat.add_mul, ← Nat.mul_assoc]
      omega

/-- **A piece is taken**, with one to four digits: a number below 65536 has no more of them. -/
theorem takeHex_piece (p : UInt16) {cs : List Char} (h : endsHex cs) :
    ∃ budget, budget < 4 ∧
      takeHex 4 0 (Nat.toDigits 16 p.toNat ++ cs) = (p.toNat, budget, cs) := by
  have hpos : 0 < (Nat.toDigits 16 p.toNat).length := Nat.length_toDigits_pos
  have hle : (Nat.toDigits 16 p.toNat).length ≤ 4 :=
    (Nat.length_toDigits_le_iff (by decide) (by decide)).2 p.toNat_lt
  refine ⟨4 - (Nat.toDigits 16 p.toNat).length, by omega, ?_⟩
  have htaken := takeHex_toDigits p.toNat (4 - (Nat.toDigits 16 p.toNat).length) 0 cs
  rw [Nat.sub_add_cancel hle, Nat.zero_mul, Nat.zero_add, takeHex_end h] at htaken
  exact htaken

/-- The characters of a number are digits: induction on the number, as above. -/
theorem isSome_of_mem_toDigits {n : Nat} {c : Char} (h : c ∈ Nat.toDigits 16 n) :
    (hexValue? c).isSome = true := by
  induction n using Nat.strongRecOn with
  | ind n ih =>
    by_cases hn : n < 16
    · rw [Nat.toDigits_of_lt_base hn, List.mem_singleton] at h
      rw [h, hexValue?_digitChar hn]
      rfl
    · have hdigit : n % 16 < 16 := Nat.mod_lt _ (by decide)
      rw [Nat.toDigits_of_base_le (by decide) (Nat.le_of_not_lt hn)] at h
      rcases List.mem_append.1 h with h | h
      · exact ih (n / 16) (Nat.div_lt_self (by omega) (by decide)) h
      · rw [List.mem_singleton.1 h, hexValue?_digitChar hdigit]
        rfl

/-! ## IPv6: all pieces -/

/-- A piece begins with a digit, since at least one digit of it is taken. -/
theorem exists_digit (p : UInt16) : ∃ c cs, Nat.toDigits 16 p.toNat = c :: cs ∧ c ≠ ':' := by
  obtain ⟨c, cs, h⟩ := List.exists_cons_of_ne_nil (Nat.toDigits_ne_nil (n := p.toNat) (b := 16))
  refine ⟨c, cs, h, ?_⟩
  rintro rfl
  obtain ⟨budget, hbudget, htaken⟩ := takeHex_piece p endsHex_nil
  rw [List.append_nil, h, takeHex_end (endsHex_colon cs)] at htaken
  have hbudget' : 4 = budget := congrArg (fun taken => taken.2.1) htaken
  omega

/-- One step, where a piece comes next: the reader is neither at the end nor at a colon, so it
    takes digits and looks at what comes behind them. -/
theorem ipv6Pieces?_step (p : UInt16) (cs : List Char) (pieces : List Nat) (gap : Option Nat)
    (room : Nat) :
    ipv6Pieces? pieces gap (room + 1) (Nat.toDigits 16 p.toNat ++ cs) =
      match takeHex 4 0 (Nat.toDigits 16 p.toNat ++ cs) with
      | (v, _, []) => if 8 ≤ pieces.length then none else some (v :: pieces, gap)
      | (v, budget, ':' :: rest) =>
        if 8 ≤ pieces.length ∨ rest.isEmpty ∨ (budget = 4) then none
        else ipv6Pieces? (v :: pieces) gap room rest
      | (_, budget, '.' :: _) =>
        if budget = 4 ∨ 6 < pieces.length then none
        else (trailingIpv4? (Nat.toDigits 16 p.toNat ++ cs)).map
          fun (x, y) => (y :: x :: pieces, gap)
      | _ => none := by
  obtain ⟨c, ds, hdigit, hcolon⟩ := exists_digit p
  rw [hdigit, List.cons_append]
  conv => lhs; unfold ipv6Pieces?
  split
  · -- not at the end
    rename_i heq
    cases heq
  · -- there is room for a piece
    rename_i heq _
    cases heq
  · -- no colon comes next
    rename_i heq
    exact absurd (List.cons.inj heq).1 hcolon
  · -- a piece does
    rename_i heq _ _
    cases heq
    rfl

/-- The last piece: nothing comes behind it. -/
theorem ipv6Pieces?_last (p : UInt16) {pieces : List Nat} {gap : Option Nat} {room : Nat}
    (hpieces : pieces.length < 8) :
    ipv6Pieces? pieces gap (room + 1) (Nat.toDigits 16 p.toNat) =
      some (p.toNat :: pieces, gap) := by
  obtain ⟨budget, -, htaken⟩ := takeHex_piece p endsHex_nil
  have hstep := ipv6Pieces?_step p [] pieces gap room
  rw [htaken, List.append_nil] at hstep
  rw [hstep]
  exact if_neg (Nat.not_le.2 hpieces)

/-- A piece with a colon behind it: the reader goes on behind the colon, where something has to
    come. -/
theorem ipv6Pieces?_piece (p : UInt16) {cs : List Char} (hcs : cs ≠ []) {pieces : List Nat}
    {gap : Option Nat} {room : Nat} (hpieces : pieces.length < 8) :
    ipv6Pieces? pieces gap (room + 1) (Nat.toDigits 16 p.toNat ++ ':' :: cs) =
      ipv6Pieces? (p.toNat :: pieces) gap room cs := by
  obtain ⟨budget, hbudget, htaken⟩ := takeHex_piece p (endsHex_colon cs)
  rw [ipv6Pieces?_step p, htaken]
  refine if_neg ?_
  -- there is room for the piece, something comes behind the colon, and digits were taken
  rintro (hfull | hend | hnone)
  · omega
  · exact hcs (List.isEmpty_iff.1 hend)
  · omega

/-- Pieces with colons between them, the first one apart. -/
theorem writePieces_cons_cons (p q : UInt16) (ps : List UInt16) :
    writePieces (p :: q :: ps) = Nat.toDigits 16 p.toNat ++ ':' :: writePieces (q :: ps) := by
  simp [writePieces, List.intercalate]

/-- One piece has no colon. -/
theorem writePieces_singleton (p : UInt16) : writePieces [p] = Nat.toDigits 16 p.toNat := by
  simp [writePieces, List.intercalate]

/-- Pieces are written as something. -/
theorem writePieces_ne_nil (p : UInt16) (ps : List UInt16) : writePieces (p :: ps) ≠ [] := by
  cases ps with
  | nil =>
    rw [writePieces_singleton]
    exact Nat.toDigits_ne_nil
  | cons q ps => simp [writePieces_cons_cons]

/-- **Pieces up to the end are read**: induction on them.  They are found in reverse order, in
    front of those that were found before, so the statement is about any pieces before. -/
theorem ipv6Pieces?_writePieces (ps : List UInt16) {pieces : List Nat} {gap : Option Nat}
    {room : Nat} (hlength : pieces.length + ps.length ≤ 8) (hroom : ps.length ≤ room) :
    ipv6Pieces? pieces gap room (writePieces ps) =
      some ((ps.map UInt16.toNat).reverse ++ pieces, gap) := by
  induction ps generalizing pieces room with
  | nil =>
    show ipv6Pieces? pieces gap room [] = _
    rw [ipv6Pieces?]
    rfl
  | cons p ps ih =>
    rw [List.length_cons] at hlength hroom
    obtain ⟨room, rfl⟩ : ∃ more, room = more + 1 := ⟨room - 1, by omega⟩
    cases ps with
    | nil =>
      -- the last piece
      rw [writePieces_singleton, ipv6Pieces?_last p (by omega)]
      rfl
    | cons q ps =>
      -- a piece, and more pieces behind it
      rw [writePieces_cons_cons, ipv6Pieces?_piece p (writePieces_ne_nil q ps) (by omega),
        ih (by rw [List.length_cons (a := p.toNat)]; omega) (by omega)]
      simp

/-- **Pieces before a gap are read**: induction on them.  At the gap the reader notes how many
    pieces it has found, and goes on behind it as it would behind a colon. -/
theorem ipv6Pieces?_gap (p : UInt16) (ps : List UInt16) (cs : List Char) {pieces : List Nat}
    {room : Nat} (hlength : pieces.length + ps.length < 8) :
    ipv6Pieces? pieces none (room + ps.length + 2) (writePieces (p :: ps) ++ ':' :: ':' :: cs) =
      ipv6Pieces? (((p :: ps).map UInt16.toNat).reverse ++ pieces)
        (some (pieces.length + ps.length + 1)) room cs := by
  induction ps generalizing p pieces with
  | nil =>
    -- the gap comes after this piece
    rw [writePieces_singleton, ipv6Pieces?_piece p (List.cons_ne_nil _ _) hlength, ipv6Pieces?]
    rfl
  | cons q ps ih =>
    rw [List.length_cons] at hlength
    have hrest : ipv6Pieces? (p.toNat :: pieces) none (room + ps.length + 2)
        (writePieces (q :: ps) ++ ':' :: ':' :: cs) =
          ipv6Pieces? (((p :: q :: ps).map UInt16.toNat).reverse ++ pieces)
            (some (pieces.length + (q :: ps).length + 1)) room cs := by
      have hcount : (p.toNat :: pieces).length + ps.length + 1 =
          pieces.length + (q :: ps).length + 1 := by
        rw [List.length_cons, List.length_cons]
        omega
      rw [ih q (by rw [List.length_cons]; omega), hcount]
      simp
    have hne : writePieces (q :: ps) ++ ':' :: ':' :: cs ≠ [] := by simp
    rw [writePieces_cons_cons, List.append_assoc, List.cons_append,
      show room + (q :: ps).length + 2 = room + ps.length + 2 + 1 from rfl,
      ipv6Pieces?_piece p hne (by omega), hrest]

/-! ## The run that is left out -/

/-- The zeros at the front can be taken off, and what is left is the rest. -/
theorem zeroRun_eq (ps : List UInt16) :
    ps = List.replicate (zeroRun ps) 0 ++ ps.drop (zeroRun ps) := by
  have hsplit := List.takeWhile_append_dropWhile (p := (· == (0 : UInt16))) (l := ps)
  have hzeros : ps.takeWhile (· == 0) = List.replicate (zeroRun ps) 0 := by
    refine List.eq_replicate_iff.2 ⟨rfl, fun p hp => ?_⟩
    exact eq_of_beq (List.all_eq_true.1 List.all_takeWhile p hp)
  have hrest : ps.dropWhile (· == 0) = ps.drop (zeroRun ps) := by
    have hdrop := congrArg (List.drop (zeroRun ps)) hsplit
    rw [show zeroRun ps = (ps.takeWhile (· == 0)).length from rfl, List.drop_left] at hdrop
    exact hdrop
  rw [hzeros, hrest] at hsplit
  exact hsplit.symm

/-- **The longest run is one of zeros**: induction on the pieces.  It begins here, or it is the
    longest one of the pieces behind, whose places are counted from here as well. -/
theorem longestZeroRun_eq (ps : List UInt16) (start : Nat) : ∃ front back,
    ps = front ++ List.replicate (longestZeroRun start ps).2 0 ++ back ∧
      (longestZeroRun start ps).1 = start + front.length := by
  induction ps generalizing start with
  | nil => exact ⟨[], [], rfl, rfl⟩
  | cons p ps ih =>
    unfold longestZeroRun
    dsimp only
    split
    · -- the run at the front is the longest
      exact ⟨[], _, zeroRun_eq (p :: ps), rfl⟩
    · -- a later one is
      obtain ⟨front, back, hps, hstart⟩ := ih (start + 1)
      refine ⟨p :: front, back, congrArg (p :: ·) hps, ?_⟩
      rw [hstart, List.length_cons]
      omega

/-- The address of the pieces that were found, with the run where it was left out. -/
def filledPieces? (pieces : List Nat) (gap : Option Nat) : Option (List UInt16) :=
  match gap with
  | some g =>
    if 8 ≤ pieces.length then none
    else some ((pieces.take g ++ List.replicate (8 - pieces.length) 0 ++ pieces.drop g).map
      UInt16.ofNat)
  | none => if pieces.length = 8 then some (pieces.map UInt16.ofNat) else none

/-- A piece is what it is as a number. -/
theorem map_ofNat_toNat (ps : List UInt16) : (ps.map UInt16.toNat).map UInt16.ofNat = ps := by
  rw [List.map_map]
  exact (List.map_congr_left fun p _ => UInt16.ofNat_toNat).trans (List.map_id ps)

/-- The run is put back where it was: the pieces before the gap come first, and as many zeros are
    put in as are missing to eight. -/
theorem filledPieces?_gap {front back : List UInt16} {length : Nat} (hlength : 0 < length)
    (hcount : front.length + length + back.length = 8) :
    filledPieces? (front.map UInt16.toNat ++ back.map UInt16.toNat) (some front.length) =
      some (front ++ List.replicate length 0 ++ back) := by
  have hsize : (front.map UInt16.toNat).length = front.length := List.length_map ..
  have hrun : 8 - (front.map UInt16.toNat ++ back.map UInt16.toNat).length = length := by
    rw [List.length_append, List.length_map, List.length_map]
    omega
  have hroom : ¬8 ≤ (front.map UInt16.toNat ++ back.map UInt16.toNat).length := by omega
  show (if _ then _ else _) = _
  rw [if_neg hroom, hrun, ← hsize, List.take_left, List.drop_left, List.map_append,
    List.map_append, map_ofNat_toNat, map_ofNat_toNat, List.map_replicate]
  rfl

/-- A text that begins with a run left out. -/
theorem parseIpv6?_gap (cs : List Char) : parseIpv6? (':' :: ':' :: cs) =
    (ipv6Pieces? [] (some 0) 9 cs).bind fun found => filledPieces? found.1.reverse found.2 := rfl

/-- A text that begins with a piece: there is no gap at its front. -/
theorem parseIpv6?_piece (p : UInt16) (cs : List Char) :
    parseIpv6? (Nat.toDigits 16 p.toNat ++ cs) =
      (ipv6Pieces? [] none 9 (Nat.toDigits 16 p.toNat ++ cs)).bind fun found =>
        filledPieces? found.1.reverse found.2 := by
  obtain ⟨c, ds, hdigit, hcolon⟩ := exists_digit p
  rw [hdigit, List.cons_append]
  unfold parseIpv6?
  split
  · rename_i heq
    exact absurd (List.cons.inj heq).1 hcolon
  · rename_i heq
    exact absurd (List.cons.inj heq).1 hcolon
  · rename_i heq
    cases heq
  · rfl

/-- **An IPv6 address is read back.**  The pieces are those in front of the run, the run, and
    those behind it.  If the run is too short it is written like all other pieces.  If it is left
    out, what is in front of it and what is behind it is read, and the run is put back; a run at
    the front is a case of its own, since there the text begins with colons. -/
theorem parseIpv6?_writeIpv6 {pieces : List UInt16} (h : pieces.length = 8) :
    parseIpv6? (writeIpv6 pieces) = some pieces := by
  obtain ⟨front, back, hpieces, hstart⟩ := longestZeroRun_eq pieces 0
  generalize hrun : longestZeroRun 0 pieces = run at hpieces hstart
  obtain ⟨start, length⟩ := run
  dsimp only at hpieces hstart
  rw [Nat.zero_add] at hstart
  have hcount : front.length + length + back.length = 8 := by
    rw [hpieces] at h
    simpa [Nat.add_assoc] using h
  unfold writeIpv6
  rw [hrun]
  dsimp only
  -- is the run long enough to be left out?
  split
  · -- nothing is left out
    have hread : ipv6Pieces? [] none 9 (writePieces pieces) =
        some ((pieces.map UInt16.toNat).reverse ++ [], none) :=
      ipv6Pieces?_writePieces pieces (by simp [h]) (by omega)
    cases pieces with
    | nil => cases h
    | cons p ps =>
      cases ps with
      | nil => cases h
      | cons q ps =>
        rw [writePieces_cons_cons] at hread ⊢
        rw [parseIpv6?_piece, hread]
        show (if _ then _ else _) = _
        rw [List.append_nil, List.reverse_reverse, if_pos (by simpa using h), map_ofNat_toNat]
  · -- the run is left out
    rename_i hlength
    have htake : pieces.take start = front := by
      rw [hpieces, hstart, List.append_assoc, List.take_left]
    have hdrop : pieces.drop (start + length) = back := by
      rw [hpieces, hstart]
      have hsize : front.length + length = (front ++ List.replicate length 0).length := by simp
      rw [hsize, List.drop_left]
    have hfilled := filledPieces?_gap (by omega) hcount
    rw [← hpieces] at hfilled
    rw [htake, hdrop, List.append_assoc]
    cases front with
    | nil =>
      -- the run is at the front
      have hback : back.length ≤ 8 := by omega
      have hread : ipv6Pieces? [] (some 0) 9 (writePieces back) =
          some ((back.map UInt16.toNat).reverse ++ [], some 0) :=
        ipv6Pieces?_writePieces back (by simpa using hback) (by omega)
      show parseIpv6? (':' :: ':' :: writePieces back) = _
      rw [parseIpv6?_gap, hread, Option.bind_some, List.append_nil, List.reverse_reverse]
      exact hfilled
    | cons p ps =>
      -- a piece comes first, and the run behind some pieces
      rw [List.length_cons] at hcount
      obtain ⟨tail, htail⟩ : ∃ tail, writePieces (p :: ps) = Nat.toDigits 16 p.toNat ++ tail := by
        cases ps with
        | nil => exact ⟨[], by rw [writePieces_singleton, List.append_nil]⟩
        | cons q ps => exact ⟨_, writePieces_cons_cons p q ps⟩
      have hfront : ipv6Pieces? [] none 9 (writePieces (p :: ps) ++ ':' :: ':' :: writePieces back) =
          ipv6Pieces? (((p :: ps).map UInt16.toNat).reverse ++ []) (some (0 + ps.length + 1))
            (7 - ps.length) (writePieces back) := by
        rw [show 9 = 7 - ps.length + ps.length + 2 by omega]
        exact ipv6Pieces?_gap p ps (writePieces back) (by simp; omega)
      have hread := hfront.trans (ipv6Pieces?_writePieces back (by simp; omega) (by omega))
      rw [htail, List.append_assoc] at hread
      show parseIpv6? (writePieces (p :: ps) ++ ':' :: ':' :: writePieces back) = _
      rw [htail, List.append_assoc, parseIpv6?_piece, hread, Option.bind_some, List.append_nil,
        List.reverse_append, List.reverse_reverse, List.reverse_reverse, Nat.zero_add]
      exact hfilled

/-- **What is written**: hexadecimal digits and colons, in the pieces by induction on them, and
    two colons for the run. -/
theorem mem_writeIpv6 {pieces : List UInt16} {c : Char} (h : c ∈ writeIpv6 pieces) :
    c = ':' ∨ (hexValue? c).isSome = true := by
  have hpieces : ∀ ps : List UInt16, c ∈ writePieces ps → c = ':' ∨ (hexValue? c).isSome = true := by
    intro ps hps
    induction ps with
    | nil => cases hps
    | cons p ps ih =>
      cases ps with
      | nil =>
        rw [writePieces_singleton] at hps
        exact .inr (isSome_of_mem_toDigits hps)
      | cons q ps =>
        rw [writePieces_cons_cons] at hps
        rcases List.mem_append.1 hps with hps | hps
        · exact .inr (isSome_of_mem_toDigits hps)
        · rcases List.mem_cons.1 hps with rfl | hps
          · exact .inl rfl
          · exact ih hps
  unfold writeIpv6 at h
  dsimp only at h
  split at h
  · exact hpieces _ h
  · rcases List.mem_append.1 h with h | h
    · rcases List.mem_append.1 h with h | h
      · exact hpieces _ h
      · simp only [List.mem_cons, List.not_mem_nil, or_false, or_self] at h
        exact .inl h
    · exact hpieces _ h

/-- Pieces are put together only if there are eight of them, or if they are filled up to eight. -/
theorem length_of_filledPieces? {found : List Nat} {gap : Option Nat} {pieces : List UInt16}
    (h : filledPieces? found gap = some pieces) : pieces.length = 8 := by
  unfold filledPieces? at h
  split at h
  · split at h
    · cases h
    · cases h
      simp only [List.length_map, List.length_append, List.length_take, List.length_drop,
        List.length_replicate]
      omega
  · -- no gap: eight were found
    split at h
    · rename_i hlength
      cases h
      rw [List.length_map, hlength]
    · cases h

/-- **An address that was read has eight pieces**, whether it begins with a gap or with a piece. -/
theorem length_of_parseIpv6? {cs : List Char} {pieces : List UInt16}
    (h : parseIpv6? cs = some pieces) : pieces.length = 8 := by
  unfold parseIpv6? at h
  dsimp only at h
  split at h
  · obtain ⟨found, -, h⟩ := Option.bind_eq_some_iff.1 h
    exact length_of_filledPieces? h
  · cases h
  · cases h
  · obtain ⟨found, -, h⟩ := Option.bind_eq_some_iff.1 h
    exact length_of_filledPieces? h

end LeaseKeeper.Url
