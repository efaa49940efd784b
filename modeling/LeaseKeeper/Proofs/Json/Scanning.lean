/-
  The tokens of a written value.

  A value is written as a run of tokens (`Json.tokens`), and scanning what is written gives these
  tokens, whatever follows (`tokens_write`).  Only a number needs a character after it that does
  not go on with it: a comma or a closing bracket (`Delimited`), and no value is written before
  anything else.

  The lemmas go from small to large: one digit, a number, one character of a string, a string, a
  value.  Each says what the scanner does from one of its states on a piece of text with anything
  behind it, so two of them are put together by rewriting, and what is behind stays a variable all
  the way.

  Two of the steps need their own idea.  A number is read from its first digit to its last, but
  written by division, so its digits are an induction on the number itself (`tokens_digits`).  And
  a number ends only with the character after it, which completes two tokens at once
  (`tokens_number`).
-/
import LeaseKeeper.Json.Reader
import LeaseKeeper.Json.Writer

namespace LeaseKeeper.Json

mutual

/-- **The tokens that spell a value.** -/
def tokens : Json → List Token
  | null => [.null]
  | bool b => [.bool b]
  | num n => [.num n]
  | str s => [.str (some s)]
  | arr items => .openArray :: (tokensOfItems items ++ [.closeArray])
  | obj members => .openObject :: (tokensOfMembers members ++ [.closeObject])
  | unreadable => [.null]

/-- The tokens of items with commas between them. -/
def tokensOfItems : List Json → List Token
  | [] => []
  | [v] => tokens v
  | v :: vs => tokens v ++ .comma :: tokensOfItems vs

/-- The tokens of members with commas between them. -/
def tokensOfMembers : List (String × Json) → List Token
  | [] => []
  | [(k, v)] => .str (some k) :: .colon :: tokens v
  | (k, v) :: ms => .str (some k) :: .colon :: (tokens v ++ .comma :: tokensOfMembers ms)

end

/-- **A text that ends what comes before it**: nothing, or a comma or closing bracket first.
    These are what the writer puts behind a value. -/
def Delimited (rest : List Char) : Prop :=
  ∀ c cs, rest = c :: cs → c = ',' ∨ c = ']' ∨ c = '\x7d'

theorem delimited_nil : Delimited [] := nofun

theorem delimited_cons {c : Char} {cs : List Char} (h : c = ',' ∨ c = ']' ∨ c = '\x7d') :
    Delimited (c :: cs) := by
  rintro c' cs' hcons
  obtain ⟨rfl, rfl⟩ := List.cons.inj hcons
  exact h

namespace Scanner

/-! ## Steps -/

/-- A character that completes nothing only changes the state. -/
theorem tokens_cons {s s' : Scanner} {c : Char} (h : s.step c = some (s', [])) (rest : List Char) :
    s.tokens (c :: rest) = s'.tokens rest := by
  rw [tokens, h]
  show (s'.tokens rest).bind (fun ts => some ([] ++ ts)) = _
  cases s'.tokens rest <;> rfl

/-- A character that completes a token leaves the scanner between tokens. -/
theorem tokens_complete {s : Scanner} {c : Char} {t : Token} (h : s.step c = some (idle, [t]))
    (rest : List Char) : s.tokens (c :: rest) = (idle.tokens rest).map (t :: ·) := by
  rw [tokens, h]
  show (idle.tokens rest).bind (fun ts => some ([t] ++ ts)) = _
  cases idle.tokens rest <;> rfl

/-- A word, from its second letter: induction on the letters that are missing. -/
theorem tokens_word (w : Char) (ws : List Char) (t : Token) (rest : List Char) :
    (word (w :: ws) t).tokens (w :: ws ++ rest) = (idle.tokens rest).map (t :: ·) := by
  induction ws generalizing w with
  | nil =>
    have hstep : (word [w] t).step w = some (idle, [t]) := if_pos rfl
    exact tokens_complete hstep rest
  | cons w' ws ih =>
    have hstep : (word (w :: w' :: ws) t).step w = some (word (w' :: ws) t, []) := if_pos rfl
    rw [List.cons_append, tokens_cons hstep, ih]

/-! ## Numbers -/

theorem digit?_digitChar {d : Nat} (h : d < 10) : digit? (Nat.digitChar d) = some d := by
  have hall : ∀ d : Fin 10, digit? (Nat.digitChar d.val) = some d.val := by decide
  exact hall ⟨d, h⟩

/-- The first digit of a number, which is not a zero: a zero would have to be the whole number. -/
theorem start_digitChar {d : Nat} (h : d < 10) (hpos : 0 < d) :
    start (Nat.digitChar d) = some (number (.integer false d), []) := by
  have hall : ∀ d : Fin 10, 0 < d.val →
      start (Nat.digitChar d.val) = some (number (.integer false d.val), []) := by decide
  exact hall ⟨d, h⟩ hpos

/-- **The digits of a positive number** are read from left to right, if the state `f v` stands
    for the value `v` so far.  Whole numbers and exponents have different states, so `f` is left
    open. -/
theorem tokens_digits {s : Scanner} {f : Nat → Scanner}
    (hfirst : ∀ d, d < 10 → 0 < d → s.step (Nat.digitChar d) = some (f d, []))
    (hnext : ∀ v d, d < 10 → (f v).step (Nat.digitChar d) = some (f (v * 10 + d), []))
    (n : Nat) (hpos : 0 < n) (rest : List Char) :
    s.tokens (Nat.toDigits 10 n ++ rest) = (f n).tokens rest := by
  -- All digits but the last are those of `n / 10`, and the last is read after them.
  induction n using Nat.strongRecOn generalizing rest with
  | ind n ih =>
    by_cases hn : n < 10
    -- one digit, or the digits of a tenth and one more
    · rw [Nat.toDigits_of_lt_base hn]
      exact tokens_cons (hfirst n hn hpos) rest
    · have hsum : n / 10 * 10 + n % 10 = n := by omega
      rw [Nat.toDigits_of_base_le (by decide) (Nat.le_of_not_lt hn), List.append_assoc,
        ih (n / 10) (by omega) (by omega), List.singleton_append,
        tokens_cons (hnext (n / 10) (n % 10) (Nat.mod_lt n (by decide))), hsum]

theorem step_number {st st' : NumberState} {c : Char} (h : st.step? c = some st') :
    (number st).step c = some (number st', []) := by
  rw [step, h]

/-- The next digit of a whole number. -/
theorem step_integer (negative : Bool) (v : Nat) {d : Nat} (h : d < 10) :
    (number (.integer negative v)).step (Nat.digitChar d) =
      some (number (.integer negative (v * 10 + d)), []) := by
  apply step_number
  simp only [NumberState.step?, digit?_digitChar h]

/-- The next digit of an exponent. -/
theorem step_exponent (negative sign : Bool) (c v : Nat) {d : Nat} (h : d < 10) :
    (number (.exponent negative c 0 sign v)).step (Nat.digitChar d) =
      some (number (.exponent negative c 0 sign (v * 10 + d)), []) := by
  apply step_number
  simp only [NumberState.step?, digit?_digitChar h]

/-- A number that is complete ends before a delimiter.  At the end of the text it is finished;
    before a mark it is finished and the mark is a token too. -/
theorem tokens_number {st : NumberState} {x : Number} (hfinish : st.finish? = some x)
    {rest : List Char} (hrest : Delimited rest) :
    (number st).tokens rest = (idle.tokens rest).map (.num x :: ·) := by
  cases rest with
  | nil =>
    rw [tokens, finish, hfinish]
    rfl
  | cons c cs =>
    -- no number goes on with a comma or a bracket, and each of these is a token by itself
    have hends : st.step? c = none := by
      rcases hrest c cs rfl with rfl | rfl | rfl <;> rfl
    have hstart : ∃ t, start c = some (idle, [t]) := by
      rcases hrest c cs rfl with rfl | rfl | rfl <;> exact ⟨_, rfl⟩
    obtain ⟨t, hstart⟩ := hstart
    have hstep : (number st).step c = some (idle, [.num x, t]) := by
      rw [step, hends, hfinish]
      show (start c).bind _ = _
      rw [hstart]
      rfl
    rw [tokens, hstep, tokens_complete (show idle.step c = _ from hstart)]
    show (idle.tokens cs).bind (fun ts => some ([.num x, t] ++ ts)) = _
    cases idle.tokens cs <;> rfl

/-- What has been read when the digits of `c` have been read.  A zero has a state of its own,
    after which no digit may come. -/
def whole (negative : Bool) (c : Nat) : NumberState :=
  if c = 0 then .zero negative else .integer negative c

/-- **A whole number** is read, from the beginning or after a minus sign.  The sign stays in the
    state until the number is complete. -/
theorem tokens_whole (negative : Bool) (c : Nat) (rest : List Char) :
    (if negative then number .minus else idle).tokens (writeNat c ++ rest) =
      (number (whole negative c)).tokens rest := by
  by_cases hc : c = 0
  · -- zero, in one step
    subst hc
    cases negative
    · exact tokens_cons rfl rest
    · exact tokens_cons rfl rest
  · -- the first digit, and then the others
    rw [whole, if_neg hc]
    refine tokens_digits ?_ (fun v d h => step_integer negative v h) c (Nat.pos_of_ne_zero hc) rest
    intro d h hpos
    cases negative
    · exact start_digitChar h hpos
    · apply step_number
      simp only [NumberState.step?, digit?_digitChar h, if_neg (Nat.ne_of_gt hpos)]

theorem finish?_whole (negative : Bool) (c : Nat) :
    (whole negative c).finish? = some (if negative then .negated c else .natural c) := by
  by_cases hc : c = 0
  · subst hc
    cases negative <;> rfl
  · rw [whole, if_neg hc]
    cases negative <;> rfl

/-- The digits of an exponent, which may begin with a zero: unlike a whole number it has one
    state for all of them. -/
theorem tokens_exponent {s : Scanner} {negative sign : Bool} {c : Nat}
    (hfirst : ∀ d, d < 10 →
      s.step (Nat.digitChar d) = some (number (.exponent negative c 0 sign d), []))
    (e : Nat) (rest : List Char) :
    s.tokens (writeNat e ++ rest) = (number (.exponent negative c 0 sign e)).tokens rest := by
  by_cases he : e = 0
  · subst he
    exact tokens_cons (hfirst 0 (by decide)) rest
  · refine tokens_digits (fun d h _ => hfirst d h) ?_ e (Nat.pos_of_ne_zero he) rest
    exact fun v d h => step_exponent negative sign c v h

/-- The mark of an exponent follows the digits, be they a zero or others. -/
theorem step_mark (negative : Bool) (c : Nat) :
    (number (whole negative c)).step 'e' = some (number (.mark negative c 0), []) := by
  apply step_number
  by_cases hc : c = 0
  · subst hc
    rfl
  · rw [whole, if_neg hc]
    rfl

/-- **An exponent** is read up to a delimiter: with a minus sign before its digits, or without. -/
theorem tokens_mark (negative : Bool) (c : Nat) (e : Int) {rest : List Char}
    (hrest : Delimited rest) :
    (number (.mark negative c 0)).tokens
        ((if e < 0 then '-' :: writeNat e.natAbs else writeNat e.natAbs) ++ rest) =
      (idle.tokens rest).map (.num (.scientific negative c e) :: ·) := by
  by_cases he : e < 0
  · have hdigit : ∀ d, d < 10 → (number (.sign negative c 0 true)).step (Nat.digitChar d) =
        some (number (.exponent negative c 0 true d), []) := by
      intro d h
      apply step_number
      simp only [NumberState.step?, digit?_digitChar h]
    have hvalue : (-(e.natAbs : Int) - (0 : Nat)) = e := by omega
    rw [if_pos he, List.cons_append, tokens_cons (step_number rfl)]
    refine (tokens_exponent hdigit _ _).trans (tokens_number ?_ hrest)
    rw [NumberState.finish?, hvalue]
  · have hdigit : ∀ d, d < 10 → (number (.mark negative c 0)).step (Nat.digitChar d) =
        some (number (.exponent negative c 0 false d), []) := by
      intro d h
      apply step_number
      simp only [NumberState.step?, digit?_digitChar h]
    have hvalue : ((e.natAbs : Int) - (0 : Nat)) = e := by omega
    rw [if_neg he]
    refine (tokens_exponent hdigit _ _).trans (tokens_number ?_ hrest)
    rw [NumberState.finish?, hvalue]

/-- **A number** is read up to a delimiter.  One case for each way to write one; in the last the
    exponent follows a whole number, which is read first. -/
theorem tokens_writeNumber (n : Number) {rest : List Char} (hrest : Delimited rest) :
    idle.tokens (writeNumber n ++ rest) = (idle.tokens rest).map (.num n :: ·) := by
  cases n with
  | natural n =>
    exact (tokens_whole false n rest).trans (tokens_number (finish?_whole false n) hrest)
  | negated n =>
    refine (tokens_cons rfl _).trans ?_
    exact (tokens_whole true n rest).trans (tokens_number (finish?_whole true n) hrest)
  | scientific negative c e =>
    rw [← tokens_mark negative c e hrest, ← tokens_cons (step_mark negative c), ← tokens_whole]
    cases negative
    · simp only [writeNumber, Bool.false_eq_true, if_false, List.nil_append, List.append_assoc,
        List.cons_append]
    · have hminus : idle.step '-' = some (number .minus, []) := rfl
      simp only [writeNumber, if_true, List.append_assoc, List.cons_append, List.nil_append,
        tokens_cons hminus]

/-! ## Strings -/

theorem hexDigit?_hexChar {n : Nat} (h : n < 16) : hexDigit? (hexChar n) = some n := by
  have hall : ∀ n : Fin 16, hexDigit? (hexChar n.val) = some n.val := by decide
  exact hall ⟨n, h⟩

/-- A digit of a four-digit escape before the last, with `missing` digits to come.  The last one
    completes the code unit. -/
theorem step_unicode (us : List Nat) (missing v d : Nat) (hmissing : 1 < missing) (h : d < 16) :
    (unicode us missing v).step (hexChar d) =
      some (unicode us (missing - 1) (v * 16 + d), []) := by
  rw [step, hexDigit?_hexChar h]
  exact if_neg (Nat.not_le_of_lt hmissing)

/-- **A control character** written with its code is read back.  Its code has two digits that may
    be other than zero, and those are its quotient and rest by 16. -/
theorem tokens_unicode (us : List Nat) {n : Nat} (h : n < 0x20) (rest : List Char) :
    (quoted us).tokens
        (['\\', 'u', '0', '0', hexChar (n / 16), hexChar (n % 16)] ++ rest) =
      (quoted (n :: us)).tokens rest := by
  have hvalue : n / 16 * 16 + n % 16 = n := by omega
  have hlast : (unicode us 1 (n / 16)).step (hexChar (n % 16)) =
      some (quoted (n :: us), []) := by
    rw [step, hexDigit?_hexChar (Nat.mod_lt n (by decide))]
    show some (quoted ((n / 16 * 16 + n % 16) :: us), []) = _
    rw [hvalue]
  have hthird := step_unicode us 2 0 (n / 16) (by decide) (by omega)
  rw [Nat.zero_mul, Nat.zero_add] at hthird
  have hzero : hexChar 0 = '0' := rfl
  have hfirst := step_unicode us 4 0 0 (by decide) (by decide)
  have hsecond := step_unicode us 3 0 0 (by decide) (by decide)
  rw [hzero] at hfirst hsecond
  show (quoted us).tokens ('\\' :: 'u' :: '0' :: '0' :: _ :: _ :: rest) = _
  rw [tokens_cons (show (quoted us).step '\\' = some (escape us, []) from rfl),
    tokens_cons (show (escape us).step 'u' = some (unicode us 4 0, []) from rfl),
    tokens_cons hfirst, tokens_cons hsecond, tokens_cons hthird, tokens_cons hlast]

/-- A character that is written with a letter after a backslash.  The letter that begins a code
    is excluded, since it completes nothing. -/
theorem tokens_shortEscape (us : List Nat) {c letter : Char} (h : shortEscape? letter = some c)
    (hletter : letter ≠ 'u') (rest : List Char) :
    (quoted us).tokens (['\\', letter] ++ rest) = (quoted (c.toNat :: us)).tokens rest := by
  have hbackslash : (quoted us).step '\\' = some (escape us, []) := rfl
  have hstep : (escape us).step letter = some (quoted (c.toNat :: us), []) := by
    rw [step, if_neg hletter, h]
    rfl
  exact (tokens_cons hbackslash _).trans (tokens_cons hstep rest)

/-- **One character of a string** is read back.  There is one case for each escape of the writer,
    in its order: seven letters, the codes of control characters, and the character itself. -/
theorem tokens_escapeChar (us : List Nat) (c : Char) (rest : List Char) :
    (quoted us).tokens (escapeChar c ++ rest) = (quoted (c.toNat :: us)).tokens rest := by
  by_cases hquote : c = '"'
  · subst hquote
    exact tokens_shortEscape us rfl (by decide) rest
  by_cases hbackslash : c = '\\'
  · subst hbackslash
    exact tokens_shortEscape us rfl (by decide) rest
  by_cases hbackspace : c = '\x08'
  · subst hbackspace
    exact tokens_shortEscape us rfl (by decide) rest
  by_cases hformFeed : c = '\x0c'
  · subst hformFeed
    exact tokens_shortEscape us rfl (by decide) rest
  by_cases hnewline : c = '\n'
  · subst hnewline
    exact tokens_shortEscape us rfl (by decide) rest
  by_cases hreturn : c = '\r'
  · subst hreturn
    exact tokens_shortEscape us rfl (by decide) rest
  by_cases htab : c = '\t'
  · subst htab
    exact tokens_shortEscape us rfl (by decide) rest
  rw [escapeChar, if_neg hquote, if_neg hbackslash, if_neg hbackspace, if_neg hformFeed,
    if_neg hnewline, if_neg hreturn, if_neg htab]
  by_cases hcontrol : c.toNat < 0x20
  -- none of the seven, so it is a control character or stands for itself
  · rw [if_pos hcontrol]
    exact tokens_unicode us hcontrol rest
  · have hstep : (quoted us).step c = some (quoted (c.toNat :: us), []) := by
      rw [step, if_neg hquote, if_neg hbackslash, if_neg hcontrol]
    rw [if_neg hcontrol]
    exact tokens_cons hstep rest

/-- The characters of a string, gathered backwards as code units: induction on the text. -/
theorem tokens_quoted (us : List Nat) (cs rest : List Char) :
    (quoted us).tokens (cs.flatMap escapeChar ++ rest) =
      (quoted ((cs.map Char.toNat).reverse ++ us)).tokens rest := by
  induction cs generalizing us with
  | nil => rfl
  | cons c cs ih =>
    rw [List.flatMap_cons, List.append_assoc, tokens_escapeChar, ih, List.map_cons,
      List.reverse_cons, List.append_assoc, List.singleton_append]

/-- A character is its only code unit: it is no half of a surrogate pair. -/
theorem decodeUnits_toNat (cs : List Char) : decodeUnits (cs.map Char.toNat) = some cs := by
  induction cs with
  | nil => rfl
  | cons c cs ih =>
    have hvalid : c.toNat < 0xD800 ∨ 0xDFFF < c.toNat ∧ c.toNat < 0x110000 := c.valid
    have hhigh : ¬ (0xD800 ≤ c.toNat ∧ c.toNat < 0xDC00) := by omega
    have hlow : ¬ (0xDC00 ≤ c.toNat ∧ c.toNat < 0xE000) := by omega
    rw [List.map_cons, decodeUnits.eq_def]
    simp only [hhigh, hlow, if_false, ih, Option.map_some, Char.ofNat_toNat]

/-- **A string** is read back, from quote to quote. -/
theorem tokens_writeString (s : String) (rest : List Char) :
    idle.tokens (writeString s ++ rest) = (idle.tokens rest).map (.str (some s) :: ·) := by
  have hopen : idle.step '"' = some (quoted [], []) := rfl
  have hclose : (quoted (s.toList.map Char.toNat).reverse).step '"' =
      some (idle, [.str (some s)]) := by
    rw [step, if_pos rfl, List.reverse_reverse, decodeUnits_toNat, Option.map_some,
      String.ofList_toList]
  rw [writeString, List.cons_append, tokens_cons hopen, List.append_assoc, tokens_quoted,
    List.append_nil]
  exact tokens_complete hclose rest

/-! ## Values -/

/-- **A text spells tokens** before `rest`: the scanner gives these tokens and then those of the
    rest.  Texts that spell are put one behind the other (`Spells.append`). -/
def Spells (cs : List Char) (ts : List Token) (rest : List Char) : Prop :=
  idle.tokens (cs ++ rest) = (idle.tokens rest).map (ts ++ ·)

theorem Spells.nil (rest : List Char) : Spells [] [] rest := by
  show idle.tokens rest = (idle.tokens rest).map id
  rw [Option.map_id_fun]
  rfl

theorem Spells.append {cs cs' rest : List Char} {ts ts' : List Token}
    (h : Spells cs ts (cs' ++ rest)) (h' : Spells cs' ts' rest) :
    Spells (cs ++ cs') (ts ++ ts') rest := by
  rw [Spells, List.append_assoc, h, h', Option.map_map]
  refine congrArg (fun f => (idle.tokens rest).map f) (funext fun us => ?_)
  exact (List.append_assoc ts ts' us).symm

/-- A comma, a colon or a bracket. -/
theorem Spells.mark {c : Char} {t : Token} (h : idle.step c = some (idle, [t])) (rest : List Char) :
    Spells [c] [t] rest := tokens_complete h rest

theorem Spells.word {c w : Char} {ws : List Char} {t : Token}
    (h : idle.step c = some (.word (w :: ws) t, [])) (rest : List Char) :
    Spells (c :: w :: ws) [t] rest :=
  (tokens_cons h _).trans (tokens_word w ws t rest)

theorem Spells.string (s : String) (rest : List Char) :
    Spells (writeString s) [.str (some s)] rest := tokens_writeString s rest

mutual

/-- **A written value spells its tokens.**  Mutual induction over values, items and members.  The
    delimiter is needed for numbers alone; inside a container it is the comma or the bracket that
    follows. -/
theorem spells_write : ∀ (v : Json) {rest : List Char}, Delimited rest →
    Spells (write v) v.tokens rest
  | .null, rest, _ => .word rfl rest
  | .bool true, rest, _ => .word rfl rest
  | .bool false, rest, _ => .word rfl rest
  | .num n, _, hrest => tokens_writeNumber n hrest
  | .str s, rest, _ => .string s rest
  | .arr items, rest, _ =>
    have hclose : Delimited ([']'] ++ rest) := delimited_cons (.inr (.inl rfl))
    (Spells.mark rfl _).append ((spells_writeItems items hclose).append (.mark rfl rest))
  | .obj members, rest, _ =>
    have hclose : Delimited (['\x7d'] ++ rest) := delimited_cons (.inr (.inr rfl))
    (Spells.mark rfl _).append ((spells_writeMembers members hclose).append (.mark rfl rest))
  | .unreadable, rest, _ => .word rfl rest

theorem spells_writeItems : ∀ (items : List Json) {rest : List Char}, Delimited rest →
    Spells (writeItems items) (tokensOfItems items) rest
  | [], rest, _ => .nil rest
  | [v], _, hrest => spells_write v hrest
  | v :: w :: vs, rest, hrest =>
    have hcomma : Delimited (([','] ++ writeItems (w :: vs)) ++ rest) := delimited_cons (.inl rfl)
    (spells_write v hcomma).append
      ((Spells.mark rfl _).append (spells_writeItems (w :: vs) hrest))

theorem spells_writeMembers : ∀ (members : List (String × Json)) {rest : List Char},
    Delimited rest → Spells (writeMembers members) (tokensOfMembers members) rest
  | [], rest, _ => .nil rest
  | [(k, v)], _, hrest =>
    (Spells.string k _).append
      ((Spells.mark rfl _).append (spells_write v hrest))
  | (k, v) :: m :: ms, rest, hrest =>
    have hcomma : Delimited (([','] ++ writeMembers (m :: ms)) ++ rest) :=
      delimited_cons (.inl rfl)
    (Spells.string k _).append
      ((Spells.mark rfl _).append ((spells_write v hcomma).append
        ((Spells.mark rfl _).append (spells_writeMembers (m :: ms) hrest))))

end

end Scanner

end LeaseKeeper.Json
