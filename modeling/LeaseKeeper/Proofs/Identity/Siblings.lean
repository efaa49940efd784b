/-
  Instances of one application.

  The platform starts an application several times and describes it to all its instances in the same
  words.  What tells them apart is a GUID, or where there is none the index, which anybody may have
  written: with blanks around it, with a plus sign or zeros in front, or not at all
  (`Platform.Denotes`).

  A registry files an instance under a text of three parts with colons between them, and nothing in
  the parts is escaped.  Still siblings do not meet there (`Platform.siblings_apart`): they share
  everything in front of the instance id, and of that everything in front of the index.  So keys that
  agree end in the same digits, and these spell one number only.
-/
import LeaseKeeper.Identity.Platform
import LeaseKeeper.Json.Writer
import Mathlib.Logic.Basic

namespace LeaseKeeper

/-! ## Numbers in free text -/

namespace Text

variable {cs : List Char} {n : Nat}

/-- Decimal digits, at least one, and the number that they spell. -/
def AreDigits (digits : List Char) (n : Nat) : Prop :=
  digits ≠ [] ∧ (∀ c ∈ digits, c.isDigit = true) ∧ Nat.ofDigitChars 10 digits 0 = n

/-- **A text that spells a number**: digits, after at most one plus sign. -/
def Spells (cs : List Char) (n : Nat) : Prop :=
  AreDigits cs n ∨ ∃ digits, cs = '+' :: digits ∧ AreDigits digits n

/-- Only digits have a value: induction on the text. -/
theorem digitsValue?_eq_some_iff {value : Nat} : digitsValue? value cs = some n ↔
    (∀ c ∈ cs, c.isDigit = true) ∧ Nat.ofDigitChars 10 cs value = n := by
  induction cs generalizing value with
  | nil => simp [digitsValue?]
  | cons c cs ih =>
    rw [digitsValue?, Nat.ofDigitChars_cons, List.forall_mem_cons]
    split
    · rename_i hc
      rw [ih, and_iff_right hc, Nat.mul_comm]
    · rename_i hc
      exact iff_of_false nofun fun h => hc h.1.1

/-- A plus sign is no digit. -/
theorem not_areDigits_plus (digits : List Char) : ¬AreDigits ('+' :: digits) n :=
  fun h => absurd (h.2.1 '+' (List.mem_cons_self ..)) (by decide)

/-- **A number is read exactly where one below the bound is spelled.** -/
theorem decimalBelow?_eq_some_iff {bound : Nat} :
    decimalBelow? bound cs = some n ↔ Spells cs n ∧ n < bound := by
  have hread : ∀ digits : List Char, (if digits.isEmpty then none
      else (digitsValue? 0 digits).bind fun n => if n < bound then some n else none) = some n ↔
        AreDigits digits n ∧ n < bound := by
    intro digits
    rw [AreDigits, ← digitsValue?_eq_some_iff]
    cases digits with
    | nil => simp
    | cons c digits => simp [Option.bind_eq_some_iff]
  unfold decimalBelow?
  dsimp only
  rw [hread]
  refine and_congr_left fun _ => ?_
  split
  · rename_i rest
    constructor
    · exact fun h => .inr ⟨rest, rfl, h⟩
    · rintro (h | ⟨digits, hdigits, h⟩)
      · exact absurd h (not_areDigits_plus rest)
      · rw [(List.cons.inj hdigits).2]
        exact h
  · rename_i hother
    refine ⟨.inl, ?_⟩
    rintro (h | ⟨digits, hdigits, -⟩)
    · exact h
    · exact absurd hdigits (hother digits)

end Text

namespace Platform

/-! ## The index -/

/-- **The index that a variable denotes**: the number that it spells between blanks.  Where there is
    none, or where it has no room, the index is zero. -/
def Denotes (raw : Option String) (index : UInt32) : Prop :=
  let spelled := fun n => ∃ text, raw = some text ∧ Text.Spells (Text.trim text.toList) n
  spelled index.toNat ∨ (index = 0 ∧ ¬∃ n < UInt32.size, spelled n)

/-- **The index of an instance is the one that its variable denotes.** -/
theorem denotes_iff {env : Environment} {index : UInt32} :
    Denotes (env indexVar) index ↔ index = (Instance.ofEnvironment env).index := by
  have hspelled : ∀ n < UInt32.size,
      (∃ text, env indexVar = some text ∧ Text.Spells (Text.trim text.toList) n) ↔
        ((env indexVar).bind fun raw =>
          Text.decimalBelow? UInt32.size (Text.trim raw.toList)) = some n := by
    intro n hn
    rw [Option.bind_eq_some_iff]
    refine exists_congr fun text => and_congr_right fun _ => ?_
    rw [Text.decimalBelow?_eq_some_iff, and_iff_left hn]
  unfold Denotes
  dsimp only
  rw [hspelled _ index.toNat_lt]
  show _ ↔ index = Option.elim _ 0 UInt32.ofNat
  cases hread : (env indexVar).bind fun raw =>
      Text.decimalBelow? UInt32.size (Text.trim raw.toList) with
  | none =>
    have hnothing : ¬∃ n < UInt32.size,
        ∃ text, env indexVar = some text ∧ Text.Spells (Text.trim text.toList) n := by
      rintro ⟨n, hn, htext⟩
      rw [hspelled n hn, hread] at htext
      cases htext
    rw [or_iff_right nofun, and_iff_left hnothing]
    rfl
  | some n =>
    obtain ⟨text, -, htext⟩ := Option.bind_eq_some_iff.1 hread
    have hn : n < UInt32.size := (Text.decimalBelow?_eq_some_iff.1 htext).2
    rw [or_iff_left fun hzero => hzero.2 ⟨n, hn, (hspelled n hn).2 hread⟩]
    show some n = some index.toNat ↔ index = UInt32.ofNat n
    have hback : (UInt32.ofNat n).toNat = n := by
      rw [UInt32.toNat_ofNat']
      exact Nat.mod_eq_of_lt hn
    rw [Option.some_inj, ← UInt32.toNat_inj, hback, eq_comm]

/-! ## Instances -/

/-- Numbers that are written in the same digits are the same. -/
theorem toString_inj {m n : Nat} (h : toString m = toString n) : m = n := by
  have hvalue := congrArg (fun s : String => Nat.ofDigitChars 10 s.toList 0) h
  simpa [Nat.toString_eq_ofList_toDigits] using hvalue

/-- **What the environments of two siblings differ in**: neither has a GUID and their indices differ, or
    both have one and these differ. -/
inductive TellApart (env env' : Environment) : Prop where
  | index {m n : UInt32} (hnone : env.nonEmpty? guidVar = none) (hnone' : env'.nonEmpty? guidVar = none)
      (hm : Denotes (env indexVar) m) (hn : Denotes (env' indexVar) n) (hne : m ≠ n)
  | guid {g g' : String} (hguid : env.nonEmpty? guidVar = some g)
      (hguid' : env'.nonEmpty? guidVar = some g') (hne : g ≠ g')

/-- **Siblings have different instance ids.** -/
theorem TellApart.instanceId_ne {env env' : Environment} (h : TellApart env env') (app : Application) :
    instanceId app (.ofEnvironment env') ≠ instanceId app (.ofEnvironment env) := by
  unfold instanceId
  cases h with
  | index hnone hnone' hm hn hne =>
    rw [denotes_iff] at hm hn
    show (env'.nonEmpty? guidVar).getD _ ≠ (env.nonEmpty? guidVar).getD _
    rw [hnone, hnone']
    intro heq
    -- the application id and the colon are the same, so the digits behind them are
    have hlist := congrArg String.toList heq
    simp only [Option.getD_none, String.toList_append] at hlist
    have hdigits := toString_inj (String.toList_inj.1 (List.append_cancel_left hlist))
    rw [UInt32.toNat_inj] at hdigits
    rw [hm, hn] at hne
    exact hne hdigits.symm
  | guid hguid hguid' hne =>
    show (env'.nonEmpty? guidVar).getD _ ≠ (env.nonEmpty? guidVar).getD _
    rw [hguid, hguid']
    exact hne.symm

/-- **An instance always has an id**: an empty GUID is none, and without one there is a colon. -/
theorem instanceId_ne_empty (env : Environment) (app : Application) :
    instanceId app (.ofEnvironment env) ≠ "" := by
  show (env.nonEmpty? guidVar).getD _ ≠ ""
  cases hguid : env.nonEmpty? guidVar with
  | none =>
    intro hnil
    have hlist := congrArg String.toList hnil
    simp [String.toList_append] at hlist
  | some g =>
    obtain ⟨-, hne⟩ := Option.filter_eq_some_iff.1 hguid
    exact bne_iff_ne.1 hne

/-- **There is an identity exactly where there is a description with a name**, and it is put together
    from the description and the instance. -/
theorem identity?_eq_ok_iff {env : Environment} {i : Identity} : identity? env = .ok i ↔
    ∃ app, application? env = .ok app ∧ app.name ≠ "" ∧ assemble app (.ofEnvironment env) = i := by
  unfold identity?
  cases application? env with
  | error e =>
    constructor
    · nofun
    · rintro ⟨app, happ, -⟩
      cases happ
  | ok app =>
    show (if app.name = "" then _ else _ : Except IdentityError Identity) = _ ↔ _
    by_cases hname : app.name = ""
    · rw [if_pos hname]
      constructor
      · nofun
      · rintro ⟨app', happ, hname', -⟩
        cases happ
        exact absurd hname hname'
    · rw [if_neg hname]
      constructor
      · intro h
        exact ⟨app, rfl, hname, Except.ok.inj h⟩
      · rintro ⟨app', happ, -, h⟩
        cases happ
        exact congrArg Except.ok h

/-- Environments that share the application's description read the same one. -/
theorem application?_congr {env env' : Environment}
    (h : env' applicationVar = env applicationVar) : application? env' = application? env := by
  have hraw : env'.nonEmpty? applicationVar = env.nonEmpty? applicationVar := by
    unfold Environment.nonEmpty?
    rw [h]
  unfold application?
  rw [hraw]

/-- **What the platform hands out can be announced.** -/
theorem assemble_complete {app : Application} (hname : app.name ≠ "") (env : Environment) :
    (assemble app (.ofEnvironment env)).complete? = .ok (assemble app (.ofEnvironment env)) := by
  unfold Identity.complete?
  rw [if_neg, if_neg]
  · exact instanceId_ne_empty env app
  · exact hname

/-- **Siblings never meet in the registry.**  Of two environments that share the description of the
    application and tell the instances apart, the other gives an identity if one does.  The two are
    filed under one application and two instances, and both can be announced. -/
theorem siblings_apart {env env' : Environment} {i : Identity} (hi : identity? env = .ok i)
    (hshared : env' applicationVar = env applicationVar) (happart : TellApart env env') :
    ∃ i', identity? env' = .ok i' ∧ i'.appKey = i.appKey ∧ i'.instanceKey ≠ i.instanceKey ∧
      i.complete? = .ok i ∧ i'.complete? = .ok i' := by
  obtain ⟨app, happ, hname, rfl⟩ := identity?_eq_ok_iff.1 hi
  have happ' : application? env' = .ok app := by rw [application?_congr hshared, happ]
  refine ⟨assemble app (.ofEnvironment env'), ?_, rfl, ?_, assemble_complete hname env,
    assemble_complete hname env'⟩
  · exact identity?_eq_ok_iff.2 ⟨app, happ', hname, rfl⟩
  · intro hkey
    -- the primary address comes from the description, so only the ids are left
    have hlist := congrArg String.toList hkey
    simp only [Identity.instanceKey, String.toList_append] at hlist
    have hids := String.toList_inj.1 (List.append_cancel_left hlist)
    exact happart.instanceId_ne app hids

/-- An application with two routes, as the platform describes it. -/
def described (vars : List (String × String)) : Environment :=
  .ofList ((applicationVar, (Json.obj [("application_id", .str "a:1"), ("name", .str "Billing"),
    ("uris", .arr [.str "billing.example.org", .str "b.example.org"])]).render) :: vars)

theorem siblings_apart_described :
    ∃ i, identity? (described [(indexVar, " +01\n"), (guidVar, "")]) = .ok i ∧
      i.instanceKey = "billing.example.org:a:1:1" ∧
      ∃ i', identity? (described [(indexVar, "first"), (addrVar, "10.0.0.2")]) = .ok i' ∧
        i'.appKey = i.appKey ∧ i'.instanceKey ≠ i.instanceKey ∧
        i.complete? = .ok i ∧ i'.complete? = .ok i' := by
  have hone : Denotes (described [(indexVar, " +01\n"), (guidVar, "")] indexVar) 1 :=
    denotes_iff.2 (by decide +kernel)
  have hzero : Denotes (described [(indexVar, "first"), (addrVar, "10.0.0.2")] indexVar) 0 :=
    denotes_iff.2 (by decide +kernel)
  have hread : (identity? (described [(indexVar, " +01\n"), (guidVar, "")])).toOption = some {
      name := "Billing", instanceId := "a:1:1", addr := ":0", instanceIndex := 1, appId := "a:1",
      uris := ["billing.example.org", "b.example.org"] } := by decide +kernel
  cases hi : identity? (described [(indexVar, " +01\n"), (guidVar, "")]) with
  | error e =>
    rw [hi] at hread
    cases hread
  | ok i =>
    rw [hi] at hread
    refine ⟨i, rfl, ?_, siblings_apart hi rfl
      (.index (by decide +kernel) (by decide +kernel) hone hzero (by decide))⟩
    rw [Option.some.inj hread]
    rfl

end Platform

end LeaseKeeper
