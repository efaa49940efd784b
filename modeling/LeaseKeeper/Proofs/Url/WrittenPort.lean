/-
  The port that stands in a text.

  Which port a web address names can be read off its text, without reading anything else of it
  (`writtenPort?`): it is what follows the first colon outside of brackets, behind the last at
  sign of the authority.

  Reading finds this port and then loses one thing about it (`port_of_parse`): if it is the
  default port of the scheme, the URL has no port, as if none had been written.

  The two go about it differently.  `writtenPort?` cuts the authority out of the text first and
  looks for the port in the piece; reading goes along the whole text, and each of its steps hands
  on what it has not read.  The lemmas take these steps one after the other, and each says what is
  left in terms of the piece: the scheme (`dropWhile_takeScheme?`), the user information
  (`placeText_of_takeUserInfo`), the host (`portText_of_takeHost`) and the port itself
  (`digits_of_takePort`).

  One step needs more than that.  `takePort` reads digits and then looks at one character, while
  `portText?` takes all that is left of the authority: they agree because reading fails when
  anything but digits stands there.
-/
import LeaseKeeper.Proofs.Url.Rereading

namespace LeaseKeeper.Url

/-! ## Looking for the port -/

/-- The authority of the text of a web address. -/
def authorityText (text : String) : List Char :=
  (((significant text).dropWhile (· != ':')).tail.dropWhile
    (SchemeKind.isSlash .special)).takeWhile fun c => !endsAuthority .special c

/-- What stands behind the last at sign. -/
def placeText (authority : List Char) : List Char :=
  (authority.reverse.takeWhile (· != '@')).reverse

/-- What follows the first colon outside of brackets; `none` if there is no such colon. -/
def portText? (inBrackets : Bool) : List Char → Option (List Char)
  | [] => none
  | c :: cs =>
    if c == ':' && !inBrackets then some cs
    else portText? (if c == '[' then true else if c == ']' then false else inBrackets) cs

/-- The number that digits spell; no digits spell none. -/
def spelledPort? (digits : List Char) : Option Nat :=
  if digits.isEmpty then none else some (Nat.ofDigitChars 10 digits 0)

/-- **The port that the text of a web address names.**  A colon with nothing behind it names none. -/
def writtenPort? (text : String) : Option Nat :=
  (portText? false (placeText (authorityText text))).bind spelledPort?

/-! ## What reading finds -/

section

variable {kind : SchemeKind} {place rest : List Char}

/-- What ends the authority, or the end of the text.  Each step of reading leaves such a rest. -/
def EndsAuthority (kind : SchemeKind) (rest : List Char) : Prop :=
  ∀ c, rest.head? = some c → endsAuthority kind c = true

/-- Cutting the authority off leaves such a rest. -/
theorem endsAuthority_dropWhile (kind : SchemeKind) (cs : List Char) :
    EndsAuthority kind (cs.dropWhile fun c => !endsAuthority kind c) := by
  intro c hc
  have hfirst := List.head?_dropWhile_not (fun c => !endsAuthority kind c) cs
  rw [hc] at hfirst
  exact Bool.not_eq_eq_eq_not.1 hfirst

/-- The colon of a scheme is the first one: a name of a scheme holds none. -/
theorem dropWhile_takeScheme? {cs : List Char} {scheme : String}
    (h : takeScheme? cs = some (scheme, rest)) : cs.dropWhile (· != ':') = ':' :: rest := by
  unfold takeScheme? at h
  split at h
  · rename_i c more
    split at h
    · split at h
      · rename_i hafter
        obtain ⟨-, rfl⟩ := Prod.mk.inj (Option.some.inj h)
        -- All that was taken is part of a name.
        have hname : ∀ d ∈ (c :: more).takeWhile isSchemeChar, (d != ':') = true := by
          intro d hd
          refine bne_iff_ne.2 ?_
          rintro rfl
          exact absurd (List.all_eq_true.1 List.all_takeWhile _ hd) (by decide)
        have hsplit := List.takeWhile_append_dropWhile (p := isSchemeChar) (l := c :: more)
        rw [hafter] at hsplit
        rw [← hsplit, List.dropWhile_append_of_pos hname, List.dropWhile_cons_of_neg (by decide)]
      · cases h
    · cases h
  · cases h

/-- **Behind the user information** is what stands behind the last at sign.  If there is no at
    sign, that is the whole authority. -/
theorem placeText_of_takeUserInfo {cs info after : List Char}
    (h : takeUserInfo kind cs = .ok (info, after)) :
    after = placeText (cs.takeWhile fun c => !endsAuthority kind c) ++
      cs.dropWhile fun c => !endsAuthority kind c := by
  unfold takeUserInfo at h
  dsimp only at h
  split at h
  · -- There is an at sign.
    split at h
    · cases h
    · exact (Prod.mk.inj (Except.ok.inj h)).2.symm
  · -- There is none, and going back from the end meets none.
    rename_i hnone
    have hall : ∀ c ∈ (cs.takeWhile fun c => !endsAuthority kind c).reverse, (c != '@') = true := by
      intro c hc
      refine bne_iff_ne.2 ?_
      rintro rfl
      exact hnone (List.contains_iff_mem.2 (List.mem_reverse.1 hc))
    have hend : ∀ c, ([] : List Char).head? = some c → (c != '@') = false := nofun
    obtain ⟨hwhole, -⟩ := split_append hall hend
    rw [List.append_nil] at hwhole
    rw [placeText, hwhole, List.reverse_reverse, List.takeWhile_append_dropWhile]
    exact (Prod.mk.inj (Except.ok.inj h)).2.symm

/-- **Behind the host** comes the colon of the port, or the end of the authority: induction on the
    authority, in and out of brackets. -/
theorem portText_of_takeHost (hplace : ∀ c ∈ place, endsAuthority kind c = false)
    (hrest : EndsAuthority kind rest) (inBrackets : Bool) :
    (takeHost kind inBrackets (place ++ rest)).2 = match portText? inBrackets place with
      | none => rest
      | some digits => ':' :: (digits ++ rest) := by
  induction place generalizing inBrackets with
  | nil =>
    -- The authority is over: what is left is the end of the text or what ends an authority.
    cases rest with
    | nil => rfl
    | cons c rest =>
      rw [List.nil_append, takeHost, hrest c rfl, Bool.true_or, if_pos rfl]
      rfl
  | cons c place ih =>
    have hc : endsAuthority kind c = false := hplace c (List.mem_cons_self ..)
    rw [List.cons_append, takeHost, hc, Bool.false_or, portText?]
    split
    · -- A colon outside of brackets: both stop here.
      rename_i hcolon
      have hc : c = ':' := eq_of_beq (Bool.and_eq_true_iff.1 hcolon).1
      rw [hc]
    · -- Anything else: both go on, in or out of brackets.
      exact ih (fun d hd => hplace d (List.mem_cons_of_mem _ hd)) _

/-- The text of a port is in the text: induction on it. -/
theorem mem_of_portText? {cs digits : List Char} {inBrackets : Bool}
    (h : portText? inBrackets cs = some digits) {c : Char} (hc : c ∈ digits) : c ∈ cs := by
  induction cs generalizing inBrackets with
  | nil => cases h
  | cons d cs ih =>
    rw [portText?] at h
    split at h
    · exact List.mem_cons_of_mem _ (Option.some.inj h ▸ hc)
    · exact List.mem_cons_of_mem _ (ih h)

/-- Text in which nothing can follow the digits is digits: induction on it.  The first character
    that is no digit would have to end the authority, and nothing in this text does. -/
theorem isDigit_of_dropWhile {digits : List Char}
    (hdigits : ∀ c ∈ digits, endsAuthority .special c = false)
    (hends : EndsAuthority .special ((digits ++ rest).dropWhile Char.isDigit)) :
    ∀ c ∈ digits, c.isDigit = true := by
  induction digits with
  | nil => exact nofun
  | cons d digits ih =>
    have hd : d.isDigit = true := by
      by_contra hd
      have hfirst := hends d (by rw [List.cons_append, List.dropWhile_cons_of_neg hd]; rfl)
      rw [hdigits d (List.mem_cons_self ..)] at hfirst
      cases hfirst
    rw [List.cons_append, List.dropWhile_cons_of_pos hd] at hends
    intro c hc
    rcases List.mem_cons.1 hc with rfl | hc
    · exact hd
    · exact ih (fun c hc => hdigits c (List.mem_cons_of_mem _ hc)) hends c hc

/-- A port that is taken: its digits are followed by nothing else, and there is room for it. -/
theorem takePort_eq_ok {cs after : List Char} {port : Option UInt16}
    (h : takePort cs = .ok (port, after)) :
    EndsAuthority .special (cs.dropWhile Char.isDigit) ∧
      port.map UInt16.toNat = spelledPort? (cs.takeWhile Char.isDigit) := by
  -- What is decided about the digits is the same at the end of the text and before any character,
  -- except for whether the port may end there (`ends`).
  have htaken : ∀ {ends : Bool} {digits rest : List Char},
      (if decide (65535 < Nat.ofDigitChars 10 digits 0) || !ends then
        (.error .port : Except UrlError (Option UInt16 × List Char))
      else .ok (if digits.isEmpty then none
        else some (UInt16.ofNat (Nat.ofDigitChars 10 digits 0)), rest)) = .ok (port, after) →
      ends = true ∧ port.map UInt16.toNat = spelledPort? digits := by
    intro ends digits rest h
    split at h
    · cases h
    · -- There is room for the number and it may end here.
      rename_i hgood
      obtain ⟨hroom, hends⟩ := Bool.or_eq_false_iff.1 (Bool.eq_false_iff.2 hgood)
      have hle := of_decide_eq_false hroom
      obtain ⟨rfl, -⟩ := Prod.mk.inj (Except.ok.inj h)
      refine ⟨by simpa using hends, ?_⟩
      unfold spelledPort?
      split
      · rfl
      · rw [Option.map_some, UInt16.toNat_ofNat', Nat.mod_eq_of_lt (by omega)]
  unfold takePort at h
  dsimp only at h
  rw [foldl_digits] at h
  cases hdrop : cs.dropWhile Char.isDigit with
  | nil => exact ⟨nofun, (htaken h).2⟩
  | cons c rest =>
    -- The character behind the digits is one that ends the authority.
    rw [hdrop] at h
    obtain ⟨hends, hport⟩ := htaken h
    refine ⟨fun d hd => ?_, hport⟩
    cases hd
    simpa [endsAuthority, SchemeKind.isSlash, SchemeKind.isSpecial, or_assoc] using hends

/-- **A port that is taken is all that stands there.** -/
theorem digits_of_takePort {digits after : List Char} {port : Option UInt16}
    (hdigits : ∀ c ∈ digits, endsAuthority .special c = false)
    (hrest : EndsAuthority .special rest) (h : takePort (digits ++ rest) = .ok (port, after)) :
    port.map UInt16.toNat = spelledPort? digits := by
  obtain ⟨hends, hport⟩ := takePort_eq_ok h
  have hstop : ∀ c, rest.head? = some c → c.isDigit = false := by
    intro c hc
    refine Bool.eq_false_iff.2 fun hdigit => ?_
    -- A digit does not end an authority: this is decided for the ASCII characters.
    have hgoes : endsAuthority .special c = false :=
      DomainName.ascii_forall (P := fun c => c.isDigit = true → endsAuthority .special c = false)
        (by decide +kernel) (DomainName.digit_lt hdigit) hdigit
    rw [hrest c hc] at hgoes
    cases hgoes
  obtain ⟨htake, -⟩ := split_append (isDigit_of_dropWhile hdigits hends) hstop
  rwa [htake] at hport

end

/-- Where the authority ends there is no port: the next character is no colon. -/
theorem port_of_readPort_end {rest after : List Char} {host : Host} {port : Option UInt16}
    (hrest : EndsAuthority .special rest) (h : readPort host rest = .ok (port, after)) :
    port = none := by
  unfold readPort at h
  split at h
  · exact absurd (hrest ':' rfl) (by decide)
  · exact (Prod.mk.inj (Except.ok.inj h)).1.symm

/-- Behind a colon there is a port, though perhaps one without digits. -/
theorem readPort_colon {cs after : List Char} {host : Host} {port : Option UInt16}
    (h : readPort host (':' :: cs) = .ok (port, after)) : takePort cs = .ok (port, after) := by
  change (if host = .absent then .error .emptyHost else takePort cs) = _ at h
  split at h
  · cases h
  · exact h

/-- **An authority has the port that is written in it**, unless that is the default one. -/
theorem port_of_readAuthority {scheme : String} {cs : List Char} {u : Url}
    (hkind : SchemeKind.ofScheme scheme = .special) (h : readAuthority scheme cs = .ok u) :
    ∃ port : Option UInt16,
      port.map UInt16.toNat = (portText? false (placeText
        (cs.takeWhile fun c => !endsAuthority .special c))).bind spelledPort? ∧
      u.port = if port = defaultPort? scheme then none else port := by
  obtain ⟨info, afterInfo, host, port, afterPort, hinfo, -, hport, -, rfl⟩ := readAuthority_eq_ok h
  rw [hkind] at hinfo hport
  refine ⟨port, ?_, rfl⟩
  have hrest := endsAuthority_dropWhile .special cs
  -- What the authority is cut down to, and that nothing in it ends the authority.
  generalize hplace : placeText (cs.takeWhile fun c => !endsAuthority .special c) = place
  have hgoes : ∀ c ∈ place, endsAuthority .special c = false := by
    intro c hc
    rw [← hplace, placeText, List.mem_reverse] at hc
    have hmem := List.mem_reverse.1 ((List.takeWhile_sublist _).subset hc)
    exact Bool.not_eq_eq_eq_not.1 (List.all_eq_true.1 List.all_takeWhile c hmem)
  rw [placeText_of_takeUserInfo hinfo, hplace, portText_of_takeHost hgoes hrest] at hport
  cases htext : portText? false place with
  | none =>
    -- There is no colon.
    rw [htext] at hport
    rw [port_of_readPort_end hrest hport]
    rfl
  | some digits =>
    -- There is one, and what follows is all digits.
    rw [htext] at hport
    have htake := readPort_colon hport
    exact digits_of_takePort (fun c hc => hgoes c (mem_of_portText? htext hc)) hrest htake

/-- **Reading finds the port that is written**, and forgets it if it is the default one. -/
theorem port_of_parse {text : String} {u : Url} (h : parse text = .ok u)
    (hkind : u.kind = .special) : ∃ port : Option UInt16,
      port.map UInt16.toNat = writtenPort? text ∧
        u.port = if port = defaultPort? u.scheme then none else port := by
  obtain ⟨cs, htake, hauthority⟩ := parse_special h hkind
  obtain ⟨port, hwritten, hport⟩ := port_of_readAuthority hkind hauthority
  refine ⟨port, ?_, hport⟩
  rw [hwritten, writtenPort?, authorityText, dropWhile_takeScheme? htake, List.tail_cons]

end LeaseKeeper.Url
