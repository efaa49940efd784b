/-
  The characters of Punycode.

  What is written are the ASCII characters of the text, hyphens, and digits, which are small
  letters and decimal digits (`mem_encode`).  What is read is ASCII (`lt_of_mem_decode?`).

  The written form may be a multiple of the text: characters that are far apart take three digits
  and more (`length_encode`).  The writer spends one number on each character, the distance to it
  counted in places (`placeAll_cons`).  Thresholds lie between `tMin` and `tMax` whatever the bias
  is, so a number that is large enough takes three digits without any look at how the bias adapts;
  this is what makes the bound provable.
-/
import LeaseKeeper.DomainName.Punycode

namespace LeaseKeeper.DomainName.Punycode

/-! ## Writing -/

/-- A small letter or a decimal digit. -/
def isDigitChar (c : Char) : Bool := c.isLower || c.isDigit

theorem isDigitChar_digitChar {d : Nat} (h : d < base) : isDigitChar (digitChar d) = true := by
  have hall : ∀ d : Fin base, isDigitChar (digitChar d.val) = true := by decide
  exact hall ⟨d, h⟩

/-- The two bounds on a threshold are all that is used of it. -/
theorem threshold_pos (bias k : Nat) : 1 ≤ threshold bias k := by
  unfold threshold tMin tMax
  split
  · exact Nat.le_refl 1
  · split <;> omega

theorem threshold_le (bias k : Nat) : threshold bias k ≤ tMax := by
  unfold threshold tMin tMax
  split
  · omega
  · split <;> omega

/-- **A number is written in digits**: induction along the writing.  The last digit is under its
    threshold, and every other one is the threshold and a rest, together under the base. -/
theorem mem_writeNumber {bias q k : Nat} {c : Char} (h : c ∈ writeNumber bias q k) :
    isDigitChar c = true := by
  have hpos := threshold_pos bias k
  have hle := threshold_le bias k
  fun_induction writeNumber bias q k with
  | case1 q k t hlast =>
    -- the last digit
    rw [List.mem_singleton.1 h]
    refine isDigitChar_digitChar ?_
    unfold base tMax at *
    omega
  | case2 q k t hmore ih =>
    -- a digit, and the rest of the number
    rcases List.mem_cons.1 h with rfl | h
    · refine isDigitChar_digitChar ?_
      have hmod : (q - t) % (base - t) < base - t := by
        refine Nat.mod_lt _ ?_
        unfold base tMax at *
        omega
      unfold base at *
      omega
    · exact ih h (threshold_pos ..) (threshold_le ..)

/-- All digits so far are digits.  The writer carries them along in reverse, so this is the
    invariant of each of its loops. -/
def Writer.Sound (w : Writer) : Prop := ∀ c ∈ w.digits, isDigitChar c = true

/-- One character of the text is passed: only the one whose turn it is is written. -/
theorem Writer.Sound.pass {w : Writer} (h : w.Sound) (n c : Nat) : (w.pass n c).Sound := by
  unfold Writer.pass
  split
  · exact h
  · split
    · intro d hd
      rcases List.mem_append.1 hd with hd | hd
      · exact mem_writeNumber (List.mem_reverse.1 hd)
      · exact h d hd
    · exact h

theorem Writer.Sound.foldl {w : Writer} (h : w.Sound) (n : Nat) (text : List Nat) :
    (text.foldl (Writer.pass n) w).Sound := by
  induction text generalizing w with
  | nil => exact h
  | cons c text ih => exact ih (h.pass n c)

/-- One round for each character to place, and in each the whole text is passed. -/
theorem Writer.Sound.placeAll {w : Writer} (h : w.Sound) (text : List Nat) (start : Nat)
    (ns : List Nat) : (w.placeAll text start ns).Sound := by
  induction ns generalizing w start with
  | nil => exact h
  | cons n ns ih =>
    unfold Writer.placeAll
    refine ih ?_ (n + 1)
    have hbefore : Writer.Sound { w with delta := w.delta + (n - start) * (w.placed + 1) } := h
    exact hbefore.foldl n text

/-- **The characters of what is written.**  The ASCII characters of the text come first, with a
    hyphen behind them if there are any, and then the digits. -/
theorem mem_encode {cs : List Char} {c : Char} (h : c ∈ encode cs) :
    (c ∈ cs ∧ c.toNat < firstExtended) ∨ c = '-' ∨ isDigitChar c = true := by
  unfold encode at h
  rcases List.mem_append.1 h with h | h
  · split at h
    · cases h
    · rcases List.mem_append.1 h with h | h
      · obtain ⟨hmem, hascii⟩ := List.mem_filter.1 h
        exact .inl ⟨hmem, of_decide_eq_true hascii⟩
      · exact .inr (.inl (List.mem_singleton.1 h))
  · refine .inr (.inr ?_)
    have hnone : Writer.Sound ⟨0, initialBias, (cs.filter fun c => c.toNat < firstExtended).length,
        true, []⟩ := fun d hd => absurd hd List.not_mem_nil
    exact hnone.placeAll _ _ _ c (List.mem_reverse.1 h)

/-! ## Reading -/

/-- A digit is ASCII: it is a small letter, a capital one or a decimal digit. -/
theorem lt_of_digitValue? {c : Char} {d : Nat} (h : digitValue? c = some d) :
    c.toNat < firstExtended := by
  unfold digitValue? at h
  unfold firstExtended
  split at h
  · rename_i hc
    have hle : c.toNat ≤ 'z'.toNat := hc.2
    exact Nat.lt_of_le_of_lt hle (by decide)
  · split at h
    · rename_i hc
      have hle : c.toNat ≤ 'Z'.toNat := hc.2
      exact Nat.lt_of_le_of_lt hle (by decide)
    · split at h
      · rename_i hc
        simp only [Char.isDigit, Bool.and_eq_true, decide_eq_true_eq] at hc
        have hle : c.toNat ≤ '9'.toNat := hc.2
        exact Nat.lt_of_le_of_lt hle (by decide)
      · cases h

/-- All that are read are digits: induction on the text, since the reader stops at the first
    character that is none. -/
theorem Reader.lt_of_mem_run {r r' : Reader} {cs : List Char} (h : r.run cs = some r') :
    ∀ c ∈ cs, c.toNat < firstExtended := by
  induction cs generalizing r with
  | nil => exact nofun
  | cons a cs ih =>
    unfold Reader.run at h
    obtain ⟨r₁, hstep, hrest⟩ := Option.bind_eq_some_iff.1 h
    intro c hc
    rcases List.mem_cons.1 hc with rfl | hc
    · unfold Reader.step at hstep
      obtain ⟨d, hd, -⟩ := Option.bind_eq_some_iff.1 hstep
      exact lt_of_digitValue? hd
    · exact ih hrest c hc

/-- What is split off the digits ends with the last hyphen.  The digits are searched from the
    end, so what the search stopped at is the last character of the front. -/
theorem mem_splitAscii {cs : List Char} {c : Char} (h : c ∈ cs) :
    c ∈ (splitAscii cs).1 ∨ c = '-' ∨ c ∈ (splitAscii cs).2 := by
  unfold splitAscii
  dsimp only
  split
  · -- no hyphen in front, so everything is digits
    exact .inr (.inr h)
  · rename_i hlong
    let digits := (cs.reverse.takeWhile (· != '-')).reverse
    let front := (cs.reverse.dropWhile (· != '-')).reverse
    have hsplit : cs = front ++ digits := by
      have hreverse := congrArg List.reverse
        (List.takeWhile_append_dropWhile (p := (· != '-')) (l := cs.reverse))
      rw [List.reverse_append, List.reverse_reverse] at hreverse
      exact hreverse.symm
    have hfront : cs.take (cs.length - digits.length) = front := by
      -- the front, as it is cut off by its length
      conv => lhs; rw [hsplit]
      rw [List.length_append, Nat.add_sub_cancel, List.take_left]
    rw [hfront] at hlong ⊢
    rw [hsplit] at h
    rcases List.mem_append.1 h with h | h
    · -- the last character of the front is the hyphen that ended the digits
      have hne : front ≠ [] := by
        intro hnil
        rw [hnil] at hlong
        exact hlong (Nat.zero_le 1)
      rw [← List.dropLast_concat_getLast hne] at h
      rcases List.mem_append.1 h with h | h
      · exact .inl h
      · refine .inr (.inl ?_)
        rw [List.mem_singleton.1 h]
        have hhead := List.head?_dropWhile_not (· != '-') cs.reverse
        have hlast : (cs.reverse.dropWhile (· != '-')).head? = some (front.getLast hne) := by
          rw [← List.getLast?_reverse]
          exact List.getLast?_eq_some_getLast hne
        rw [hlast] at hhead
        simpa using hhead
    · exact .inr (.inr h)

/-- **What can be read is ASCII.**  What is in front of the last hyphen is checked, and what is
    behind it are digits. -/
theorem lt_of_mem_decode? {cs text : List Char} (h : decode? cs = some text) :
    ∀ c ∈ cs, c.toNat < firstExtended := by
  intro c hc
  unfold decode? at h
  dsimp only at h
  split at h
  · rename_i hascii
    obtain ⟨r, hrun, -⟩ := Option.map_eq_some_iff.1 h
    rcases mem_splitAscii hc with hc | rfl | hc
    · -- in front of the last hyphen, where it was checked
      exact of_decide_eq_true (List.all_eq_true.1 hascii c hc)
    · -- the hyphen
      decide
    · -- a digit
      exact Reader.lt_of_mem_run hrun c hc
  · cases h

/-! ## How long it gets -/

theorem writeNumber_ne_nil (bias q k : Nat) : writeNumber bias q k ≠ [] := by
  fun_cases writeNumber bias q k <;> exact List.cons_ne_nil _ _

/-- A number that is not under the greatest threshold does not end with its first digit.  What is
    left for the other digits is a division by at most `base - tMin`. -/
theorem writeNumber_eq_cons {q : Nat} (hq : tMax ≤ q) (bias k : Nat) :
    ∃ d, writeNumber bias q k =
      d :: writeNumber bias ((q - threshold bias k) / (base - threshold bias k)) (k + base) := by
  have hpos := threshold_pos bias k
  have hle := threshold_le bias k
  have hmore : ¬(q < threshold bias k ∨ threshold bias k = 0 ∨ base ≤ threshold bias k + 1) := by
    unfold base tMax at *
    omega
  rw [writeNumber, if_neg hmore]
  exact ⟨_, rfl⟩

/-- **A number of at least 911 has three digits**, whatever the bias: after the first digit at
    least `tMax` is left, so it does not end with the second one either. -/
theorem three_le_length_writeNumber {q : Nat} (hq : 911 ≤ q) (bias k : Nat) :
    3 ≤ (writeNumber bias q k).length := by
  have hpos := threshold_pos bias k
  have hle := threshold_le bias k
  have hrest : tMax ≤ (q - threshold bias k) / (base - threshold bias k) := by
    unfold base tMax at *
    rw [Nat.le_div_iff_mul_le (by omega)]
    omega
  obtain ⟨d, hd⟩ := writeNumber_eq_cons (show tMax ≤ q by unfold tMax; omega) bias k
  obtain ⟨e, he⟩ := writeNumber_eq_cons hrest bias (k + base)
  have hlast := List.length_pos_iff.2 (writeNumber_ne_nil bias
    (((q - threshold bias k) / (base - threshold bias k) - threshold bias (k + base)) /
      (base - threshold bias (k + base))) (k + base + base))
  rw [hd, he, List.length_cons, List.length_cons]
  omega

/-- Smaller characters are counted: each adds one to the distance, and none is written. -/
theorem foldl_pass_below {n : Nat} {text : List Nat} (h : ∀ c ∈ text, c < n) (w : Writer) :
    text.foldl (Writer.pass n) w = { w with delta := w.delta + text.length } := by
  induction text generalizing w with
  | nil => rfl
  | cons c text ih =>
    rw [List.foldl_cons, Writer.pass, if_pos (h c (List.mem_cons_self ..)),
      ih fun d hd => h d (List.mem_cons_of_mem _ hd), List.length_cons]
    show Writer.mk _ _ _ _ _ = Writer.mk _ _ _ _ _
    rw [Nat.add_assoc, Nat.add_comm 1]

/-- Greater characters wait for their turn, and change nothing. -/
theorem foldl_pass_above {n : Nat} {text : List Nat} (h : ∀ c ∈ text, n < c) (w : Writer) :
    text.foldl (Writer.pass n) w = w := by
  induction text generalizing w with
  | nil => rfl
  | cons c text ih =>
    have hc : n < c := h c (List.mem_cons_self ..)
    rw [List.foldl_cons, Writer.pass, if_neg (by omega), if_neg (by omega)]
    exact ih (fun d hd => h d (List.mem_cons_of_mem _ hd)) w

/-- **Characters far apart**: they increase, and between one and the next there are at least 28
    others. -/
def Sparse (text : List Nat) : Prop := text.Pairwise fun a b => a + 29 ≤ b

/-- **One number for each character**: if it comes after the characters `before`, they are part
    of the distance.  The writer that follows is given by what it has placed and written; its
    bias and delta are left open, since no bound depends on them. -/
theorem placeAll_cons {text before after : List Nat} {n : Nat} (htext : text = before ++ n :: after)
    (hbelow : ∀ c ∈ before, c < n) (habove : ∀ c ∈ after, n < c) (w : Writer) (start : Nat)
    (ns : List Nat) : ∃ next : Writer, w.placeAll text start (n :: ns) = next.placeAll text (n + 1) ns ∧
      next.placed = w.placed + 1 ∧
      next.digits = (writeNumber w.bias (w.delta + (n - start) * (w.placed + 1) + before.length)
        base).reverse ++ w.digits := by
  refine ⟨_, rfl, ?_⟩
  rw [htext, List.foldl_append, foldl_pass_below hbelow, List.foldl_cons, Writer.pass,
    if_neg (Nat.lt_irrefl n), if_pos rfl, foldl_pass_above habove]
  exact ⟨rfl, rfl⟩

/-- **Characters far apart need three digits each**, but for the first 31 of them: induction on
    the characters that are still to be placed.  `last` is the greatest one that is placed.  The
    numbers grow with the characters that are placed, because each of the 28 code points in
    between is counted once for every place; from 31 on they are past 911. -/
theorem length_placeAll {text before ns : List Nat} {last : Nat} (htext : text = before ++ ns)
    (hbefore : ∀ c ∈ before, c ≤ last) (hsparse : Sparse (last :: ns)) {w : Writer}
    (hplaced : w.placed = before.length) :
    w.digits.length + 3 * ns.length ≤
      (w.placeAll text (last + 1) ns).digits.length + 3 * (31 - before.length) := by
  induction ns generalizing before last w with
  | nil =>
    show w.digits.length + 3 * 0 ≤ w.digits.length + _
    omega
  | cons n ns ih =>
    obtain ⟨hlast, hns⟩ := List.pairwise_cons.1 hsparse
    obtain ⟨hn, -⟩ := List.pairwise_cons.1 hns
    have hgap : last + 29 ≤ n := hlast n (List.mem_cons_self ..)
    have hbelow : ∀ c ∈ before, c < n := fun c hc => by
      have := hbefore c hc
      omega
    have habove : ∀ c ∈ ns, n < c := fun c hc => by
      have := hn c hc
      omega
    obtain ⟨next, hnext, hcount, hdigits⟩ := placeAll_cons htext hbelow habove w (last + 1) ns
    -- this character, and then the others by induction
    have hplaces : ∀ c ∈ before ++ [n], c ≤ n := fun c hc => by
      rcases List.mem_append.1 hc with hc | hc
      · exact Nat.le_of_lt (hbelow c hc)
      · exact Nat.le_of_eq (List.mem_singleton.1 hc)
    have htext : text = (before ++ [n]) ++ ns := by
      rw [htext, List.append_assoc]
      rfl
    have hrest := ih htext hplaces hns (w := next)
      (by rw [hcount, hplaced, List.length_append, List.length_singleton])
    rw [hdigits, List.length_append, List.length_append, List.length_reverse,
      List.length_singleton] at hrest
    rw [hnext, List.length_cons]
    by_cases hlong : 31 ≤ before.length
    · -- 28 characters to pass for each that is placed, and those that are placed
      have hproduct : 28 * (31 + 1) ≤ (n - (last + 1)) * (w.placed + 1) :=
        Nat.mul_le_mul (by omega) (by omega)
      have hthree := three_le_length_writeNumber
        (q := w.delta + (n - (last + 1)) * (w.placed + 1) + before.length) (by omega) w.bias base
      omega
    · -- one of the first 31, for which nothing is promised
      omega

/-- An increasing list is put together as it is, so the rounds of the writer are the characters
    in their order. -/
theorem foldr_insertDistinct {text : List Nat} (h : Sparse text) :
    text.foldr insertDistinct [] = text := by
  induction text with
  | nil => rfl
  | cons n text ih =>
    obtain ⟨hn, htext⟩ := List.pairwise_cons.1 h
    rw [List.foldr_cons, ih htext]
    cases text with
    | nil => rfl
    | cons m text =>
      have hm : n + 29 ≤ m := hn m (List.mem_cons_self ..)
      unfold insertDistinct
      rw [if_pos (by omega)]

/-- **A text of characters far apart, none of them ASCII**, gets long.  The writer begins at the
    end of ASCII, with nothing placed, and the distance to the first character is a gap like the
    others. -/
theorem length_encode {cs : List Char} (h : Sparse (127 :: cs.map Char.toNat)) :
    3 * cs.length ≤ (encode cs).length + 3 * 31 := by
  obtain ⟨hfirst, hsparse⟩ := List.pairwise_cons.1 h
  have hextended : ∀ c ∈ cs, firstExtended ≤ c.toNat := by
    intro c hc
    have := hfirst c.toNat (List.mem_map_of_mem hc)
    unfold firstExtended
    omega
  have hascii : cs.filter (fun c => c.toNat < firstExtended) = [] := by
    refine List.filter_eq_nil_iff.2 fun c hc => ?_
    have := hextended c hc
    simpa using this
  have hall : (cs.map Char.toNat).filter (fun n => firstExtended ≤ n) = cs.map Char.toNat := by
    refine List.filter_eq_self.2 fun n hn => ?_
    obtain ⟨c, hc, rfl⟩ := List.mem_map.1 hn
    exact decide_eq_true (hextended c hc)
  have hnone : ∀ c ∈ ([] : List Nat), c ≤ 127 := nofun
  have hwritten := length_placeAll (List.nil_append _).symm hnone h
    (w := ⟨0, initialBias, 0, true, []⟩) rfl
  have hencode : encode cs = (Writer.placeAll (cs.map Char.toNat) ⟨0, initialBias, 0, true, []⟩ 128
      (cs.map Char.toNat)).digits.reverse := by
    unfold encode
    dsimp only
    rw [hascii, hall, foldr_insertDistinct hsparse]
    rfl
  rw [hencode, List.length_reverse]
  rw [List.length_map, List.length_nil, Nat.zero_add] at hwritten
  exact hwritten

end LeaseKeeper.DomainName.Punycode
