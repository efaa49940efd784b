/-
  A written value is read back.

  Building a value from its tokens gives the value, in every place where a value may stand
  (`run_tokens`): the builder pushes it onto the open containers around it.  With the scanner's
  half (`spells_write`) reading the text of a value gives the value (`parse?_render`).

  That needs a value that FITS: no literal without meaning in it, no number beyond the range of a
  double, and not too many containers one inside the other.  A type whose values fit and are
  decoded from what they are written as ROUND TRIPS, down to the text.

    1. One equation for each token: what the builder makes of it in the places where it may come
       (`step_begin`, `step_key`, `step_closeArray`, `step_closeObject`).

    2. One mutual induction over values, items and members.  The crux is its statement: the
       builder starts inside any containers, with any items or members done, and more tokens
       follow.  With an empty builder and nothing after it the induction would not go through.
-/
import LeaseKeeper.Proofs.Json.Scanning

namespace LeaseKeeper

/-! ## Values that fit -/

namespace Number

/-- A number that is read exactly is in range: it has no digits that are left out, and no
    exponent. -/
theorem overflows_natural {n : Nat} (h : n ≤ maxExact) : (natural n).overflows = false := by
  have hleading : leading n 0 = (n, 0) := by
    rw [leading, if_pos h]
  have hinside : productOverflows n 0 = false := rfl
  rw [overflows, hleading]
  exact hinside

theorem overflows_uint16 (n : UInt16) : (natural n.toNat).overflows = false :=
  overflows_natural (Nat.le_trans (Nat.le_of_lt n.toNat_lt) (by decide))

theorem overflows_uint32 (n : UInt32) : (natural n.toNat).overflows = false :=
  overflows_natural (Nat.le_trans (Nat.le_of_lt n.toNat_lt) (by decide))

theorem overflows_uint64 (n : UInt64) : (natural n.toNat).overflows = false :=
  overflows_natural (Nat.le_of_lt_succ n.toNat_lt)

end Number

namespace Json

mutual

/-- **A value that can be read inside `outer` containers.**  The depth is counted from outside,
    as the reader counts it, so a part of a value has the number of containers around it. -/
def fits (outer : Nat) : Json → Bool
  | arr items => decide (outer < maxDepth) && allFit (outer + 1) items
  | obj members => decide (outer < maxDepth) && allMembersFit (outer + 1) members
  | num n => !n.overflows
  | unreadable => false
  | null => true
  | bool _ => true
  | str _ => true

/-- Every item of a list can be read. -/
def allFit (outer : Nat) : List Json → Bool
  | [] => true
  | v :: vs => fits outer v && allFit outer vs

/-- Every member of an object can be read. -/
def allMembersFit (outer : Nat) : List (String × Json) → Bool
  | [] => true
  | (_, v) :: ms => fits outer v && allMembersFit outer ms

end

theorem allFit_strings (outer : Nat) (l : List String) : allFit outer (l.map .str) = true := by
  induction l with
  | nil => rfl
  | cons s l ih => exact ih

theorem allMembersFit_strings (outer : Nat) (entries : List (String × String)) :
    allMembersFit outer (entries.map fun e => (e.1, .str e.2)) = true := by
  induction entries with
  | nil => rfl
  | cons e rest ih => exact ih

theorem allMembersFit_append (outer : Nat) (ms ms' : List (String × Json)) :
    allMembersFit outer (ms ++ ms') = (allMembersFit outer ms && allMembersFit outer ms') := by
  induction ms with
  | nil => rfl
  | cons m ms ih => rw [List.cons_append, allMembersFit, ih, allMembersFit, Bool.and_assoc]

/-! ## Building -/

namespace Builder

theorem run_step {b b' : Builder} {t : Token} (h : b.step t = some b') (ts : List Token) :
    b.run (t :: ts) = b'.run ts := by
  rw [run, h]
  rfl

/-- Where a value may stand, a token that begins one does.  In an array's first place the closing
    bracket may come too, and it begins no value. -/
theorem step_begin {e : Expecting} (he : e = .value ∨ e = .firstItem) {stack : List Frame}
    {t : Token} {b : Builder} (h : begin stack t = some b) : step ⟨stack, e⟩ t = some b := by
  rcases he with rfl | rfl
  · exact h
  · have ht : t ≠ .closeArray := by
      rintro rfl
      cases h
    exact (if_neg ht).trans h

/-- Where a key may stand, a string is one, and a colon is expected after it. -/
theorem step_key {e : Expecting} (he : e = .firstKey ∨ e = .key)
    {done : List (Option String × Json)} {key : Option String} {fs : List Frame} (k : String) :
    step ⟨.members done key :: fs, e⟩ (.str (some k)) =
      some ⟨.members done (some k) :: fs, .colon⟩ := by
  rcases he with rfl | rfl <;> rfl

theorem closed_of_lt {outer : Nat} (h : outer < maxDepth) (v : Json) : closed outer v = v :=
  if_pos h

/-- The members of an object that have names.  A key that is no text is kept without its name
    until the object ends, which is where it is refused. -/
def named (ms : List (String × Json)) : List (Option String × Json) :=
  ms.map fun m => (some m.1, m.2)

theorem memberList?_named (ms : List (String × Json)) : memberList? (named ms) = some ms := by
  induction ms with
  | nil => rfl
  | cons m ms ih =>
    show (memberList? (named ms)).map _ = _
    rw [ih]
    rfl

/-- The end of an array, which is empty or has just had an item.  The items were gathered
    backwards. -/
theorem step_closeArray {e : Expecting} (he : e = .firstItem ∨ e = .separator) {done : List Json}
    {fs : List Frame} (h : fs.length < maxDepth) :
    step ⟨.items done :: fs, e⟩ .closeArray = some (push fs (.arr done.reverse)) := by
  have hclose : close (.items done :: fs) .closeArray = some (push fs (.arr done.reverse)) := by
    rw [close, closed_of_lt h]
  rcases he with rfl | rfl
  · exact hclose
  · exact hclose

/-- The end of an object.  All its members have names, so it is not refused. -/
theorem step_closeObject {e : Expecting} (he : e = .firstKey ∨ e = .separator)
    {done : List (String × Json)} {key : Option String} {fs : List Frame}
    (h : fs.length < maxDepth) :
    step ⟨.members (named done) key :: fs, e⟩ .closeObject =
      some (push fs (.obj done.reverse)) := by
  have hmembers : memberList? (named done).reverse = some done.reverse := by
    rw [named, ← List.map_reverse]
    exact memberList?_named done.reverse
  have hclose : close (.members (named done) key :: fs) .closeObject =
      some (push fs (.obj done.reverse)) := by
    rw [close, hmembers]
    exact congrArg (fun v => some (push fs v)) (closed_of_lt h _)
  rcases he with rfl | rfl
  · exact hclose
  · exact hclose

mutual

/-- **Building a value from its tokens** puts the value into the innermost open container.
    Mutual induction, one case for each kind of value; a container is opened and the rest is left
    to the next two lemmas. -/
theorem run_tokens : ∀ (v : Json) (stack : List Frame) {e : Expecting},
    (e = .value ∨ e = .firstItem) → v.fits stack.length = true → ∀ ts : List Token,
    run ⟨stack, e⟩ (v.tokens ++ ts) = run (push stack v) ts
  | .null, stack, _, he, _, ts => run_step (step_begin he rfl) ts
  | .bool _, stack, _, he, _, ts => run_step (step_begin he rfl) ts
  | .num n, stack, e, he, hfits, ts => by
    have hrange : n.overflows = false := by
      simpa only [fits, Bool.not_eq_true'] using hfits
    have hbegin : begin stack (.num n) = some (push stack (.num n)) := by
      rw [begin, hrange]
      rfl
    exact run_step (step_begin he hbegin) ts
  | .str _, stack, _, he, _, ts => run_step (step_begin he rfl) ts
  | .arr items, stack, e, he, hfits, ts => by
    obtain ⟨hdepth, hitems⟩ := Bool.and_eq_true_iff.1 hfits
    have hopen : step ⟨stack, e⟩ .openArray = some ⟨.items [] :: stack, .firstItem⟩ :=
      step_begin he rfl
    rw [tokens, List.cons_append, run_step hopen, List.append_assoc]
    exact run_items items [] stack (.inl rfl) (of_decide_eq_true hdepth) hitems ts
  | .obj members, stack, e, he, hfits, ts => by
    obtain ⟨hdepth, hmembers⟩ := Bool.and_eq_true_iff.1 hfits
    have hopen : step ⟨stack, e⟩ .openObject = some ⟨.members [] none :: stack, .firstKey⟩ :=
      step_begin he rfl
    rw [tokens, List.cons_append, run_step hopen, List.append_assoc]
    exact run_members members [] none stack (.inl rfl) (of_decide_eq_true hdepth) hmembers ts

/-- The items of an array up to its end, with the items in `done` already built.  With none left
    the array must have been opened just now, since no comma is written before the end. -/
theorem run_items : ∀ (items done : List Json) (fs : List Frame) {e : Expecting},
    (e = .firstItem ∨ e = .value ∧ items ≠ []) → fs.length < maxDepth →
    allFit (fs.length + 1) items = true → ∀ ts : List Token,
    run ⟨.items done :: fs, e⟩ (tokensOfItems items ++ .closeArray :: ts) =
      run (push fs (.arr (done.reverse ++ items))) ts
  | [], done, fs, e, he, hdepth, _, ts => by
    obtain rfl : e = .firstItem := he.resolve_right fun h => h.2 rfl
    rw [List.append_nil]
    exact run_step (step_closeArray (.inl rfl) hdepth) ts
  | [v], done, fs, e, he, hdepth, hfits, ts => by
    have hv : v.fits (fs.length + 1) = true := (Bool.and_eq_true_iff.1 hfits).1
    have hclose : step ⟨.items (v :: done) :: fs, .separator⟩ .closeArray =
        some (push fs (.arr (done.reverse ++ [v]))) := by
      rw [← List.reverse_cons]
      exact step_closeArray (.inr rfl) hdepth
    exact (run_tokens v (.items done :: fs) (he.symm.imp_left And.left) hv _).trans
      (run_step hclose ts)
  | v :: w :: vs, done, fs, e, he, hdepth, hfits, ts => by
    -- at least two are left: the first, a comma, and the others by induction
    -- The comma leaves the builder where it was before the item, with one item more done.
    obtain ⟨hv, hvs⟩ := Bool.and_eq_true_iff.1 hfits
    have hcomma : step ⟨.items (v :: done) :: fs, .separator⟩ .comma =
        some ⟨.items (v :: done) :: fs, .value⟩ := rfl
    have hrest := run_items (w :: vs) (v :: done) fs (.inr ⟨rfl, List.cons_ne_nil w vs⟩) hdepth
      hvs ts
    rw [List.reverse_cons, List.append_assoc, List.singleton_append] at hrest
    have hassoc : v.tokens ++ .comma :: tokensOfItems (w :: vs) ++ .closeArray :: ts =
        v.tokens ++ .comma :: (tokensOfItems (w :: vs) ++ .closeArray :: ts) :=
      List.append_assoc _ _ _
    show run ⟨.items done :: fs, e⟩
      (v.tokens ++ .comma :: tokensOfItems (w :: vs) ++ .closeArray :: ts) = _
    rw [hassoc, run_tokens v (.items done :: fs) (he.symm.imp_left And.left) hv]
    exact (run_step hcomma _).trans hrest

/-- The members of an object up to its end, with the members in `done` already built.  As for
    items, with a key and a colon before each value. -/
theorem run_members : ∀ (members done : List (String × Json)) (key : Option String)
    (fs : List Frame) {e : Expecting},
    (e = .firstKey ∨ e = .key ∧ members ≠ []) → fs.length < maxDepth →
    allMembersFit (fs.length + 1) members = true → ∀ ts : List Token,
    run ⟨.members (named done) key :: fs, e⟩ (tokensOfMembers members ++ .closeObject :: ts) =
      run (push fs (.obj (done.reverse ++ members))) ts
  | [], done, key, fs, e, he, hdepth, _, ts => by
    obtain rfl : e = .firstKey := he.resolve_right fun h => h.2 rfl
    rw [List.append_nil]
    exact run_step (step_closeObject (.inl rfl) hdepth) ts
  | [(k, v)], done, key, fs, e, he, hdepth, hfits, ts => by
    have hv : v.fits (fs.length + 1) = true := (Bool.and_eq_true_iff.1 hfits).1
    have hclose : step ⟨.members (named ((k, v) :: done)) none :: fs, .separator⟩ .closeObject =
        some (push fs (.obj (done.reverse ++ [(k, v)]))) := by
      rw [← List.reverse_cons]
      exact step_closeObject (.inr rfl) hdepth
    have hvalue := run_tokens v (.members (named done) (some k) :: fs) (.inl rfl) hv
      (.closeObject :: ts)
    refine (run_step (step_key (he.imp_right And.left) k) _).trans ?_
    exact hvalue.trans (run_step hclose ts)
  | (k, v) :: m :: ms, done, key, fs, e, he, hdepth, hfits, ts => by
    obtain ⟨hv, hms⟩ := Bool.and_eq_true_iff.1 hfits
    have hcomma : step ⟨.members (named ((k, v) :: done)) none :: fs, .separator⟩ .comma =
        some ⟨.members (named ((k, v) :: done)) none :: fs, .key⟩ := rfl
    have hrest := run_members (m :: ms) ((k, v) :: done) none fs
      (.inr ⟨rfl, List.cons_ne_nil m ms⟩) hdepth hms ts
    rw [List.reverse_cons, List.append_assoc, List.singleton_append] at hrest
    have hvalue := run_tokens v (.members (named done) (some k) :: fs) (.inl rfl) hv
      (.comma :: (tokensOfMembers (m :: ms) ++ .closeObject :: ts))
    have hassoc : v.tokens ++ .comma :: tokensOfMembers (m :: ms) ++ .closeObject :: ts =
        v.tokens ++ .comma :: (tokensOfMembers (m :: ms) ++ .closeObject :: ts) :=
      List.append_assoc _ _ _
    refine (run_step (step_key (he.imp_right And.left) k) _).trans ?_
    show run ⟨.members (named done) (some k) :: fs, .value⟩
      (v.tokens ++ .comma :: tokensOfMembers (m :: ms) ++ .closeObject :: ts) = _
    rw [hassoc, hvalue]
    exact (run_step hcomma _).trans hrest

end

end Builder

/-! ## Reading -/

/-- **A written value is read back.**  The text is scanned to the tokens of the value, and these
    are built to the value; nothing follows in either half. -/
theorem parse?_render {v : Json} (h : v.fits 0 = true) : parse? v.render = some v := by
  have hscan : Scanner.idle.tokens (write v) = some v.tokens := by
    have hspells := Scanner.spells_write v delimited_nil
    rw [Scanner.Spells, List.append_nil] at hspells
    rw [hspells]
    show some (v.tokens ++ []) = _
    rw [List.append_nil]
  have hbuild : Builder.initial.run v.tokens = some ⟨[], .nothing v⟩ := by
    have hrun := Builder.run_tokens v [] (.inl rfl) h []
    rw [List.append_nil] at hrun
    exact hrun
  rw [parse?, render, String.toList_ofList, hscan]
  show (Builder.initial.run v.tokens).bind _ = _
  rw [hbuild]
  rfl

/-- **A value is written as a JSON text and read back**, and written again as the same JSON. The
    second half says that nothing was left out or added in reading. -/
def RoundTrips {α : Type} (write : α → Json) (read : Json → Option α) (a : α) : Prop :=
  ∃ j, parse? (write a).render = some j ∧ read j = some a ∧ (read j).map write = some j

theorem roundTrips {α : Type} {write : α → Json} {read : Json → Option α} {a : α}
    (hfits : (write a).fits 0 = true) (hread : read (write a) = some a) :
    RoundTrips write read a := by
  refine ⟨write a, parse?_render hfits, hread, ?_⟩
  rw [hread]
  rfl

end Json

end LeaseKeeper
