/-
  Single values and lists of one.

  Where the registry lists things, one of them may stand there without a list.  A record may
  itself be written as the list of its fields, so a list could be either.  It never is: a record
  that is written as a list starts with a text, and no text is a record (`unambiguous_of_head`).
  So it does not matter which reading is tried first.

  Hence a value that can be read may be put in a list of one, or taken out of it (`Json.Rewraps`),
  in every place where the registry lists applications or instances.  A change deep inside an
  answer becomes a change of one field after the other on the way out.  One lemma says what it
  does to the fields of a record (`Json.EditsField.record?`), and each record on the way adds what
  it makes of the field.

  What has to be kept on the way out is not the decoded record, which differs (a single value and
  a list of one decode to different things), but what a client says of it: the names and the hosts
  (`Application.listing`, `listings`).  So every lemma from the application outwards is about
  decoding FOLLOWED BY that.

  There is one trap.  A list where applications are expected may be read as a list of applications
  or as one application in the form of a list, and one of its items may be edited; as such an item
  becomes a field of that one application, one has to see that editing it does not change what the
  application is (`Application.Edits.listing_item`).

  An answer about one application names it in a place where no list is expected, so there a list
  of one is refused (`application_not_wrapped`).
-/
import LeaseKeeper.Proofs.Json.Records
import LeaseKeeper.Proofs.Json.Rereading
import LeaseKeeper.Registry.Client
import Mathlib.Logic.Basic
import Mathlib.Logic.Relation

namespace LeaseKeeper

/-! ## One or many -/

/-- Decoding every item and changing the results is decoding with changed results: induction on
    the items. -/
theorem mapM_map {α β γ : Type} (decode : α → Option β) (f : β → γ) (items : List α) :
    (items.mapM decode).map (·.map f) = items.mapM fun x => (decode x).map f := by
  induction items with
  | nil => rfl
  | cons x items ih =>
    rw [List.mapM_cons, List.mapM_cons, ← ih]
    cases decode x with
    | none => rfl
    | some y => cases items.mapM decode <;> rfl

/-- Two items that decode alike are alike in any list. -/
theorem mapM_item {α β : Type} (decode : α → Option β) {v v' : α} (h : decode v = decode v')
    (front back : List α) :
    (front ++ v :: back).mapM decode = (front ++ v' :: back).mapM decode := by
  rw [List.mapM_append, List.mapM_append, List.mapM_cons, List.mapM_cons, h]

namespace OneOrMany

section

variable {α : Type} {decode : Json → Option α}

/-- **Read a list or a single value**: the list is tried first. -/
def ofJsonListFirst? (decode : Json → Option α) (j : Json) : Option (OneOrMany α) :=
  if j.isReadable then
    match Json.list? decode j with
    | some values => some (many values)
    | none => (decode j).map one
  else none

/-- **No single value is a list** of such values. -/
def Unambiguous (decode : Json → Option α) : Prop :=
  ∀ j, (decode j).isSome = true → Json.list? decode j = none

/-- What is read from a list must start with something that cannot be read. -/
theorem unambiguous_of_head
    (h : ∀ items, (decode (.arr items)).isSome = true →
      ∃ x rest, items = x :: rest ∧ decode x = none) : Unambiguous decode := by
  intro j hj
  cases j with
  | arr items =>
    obtain ⟨x, rest, rfl, hx⟩ := h items hj
    rw [Json.list?, List.mapM_cons, hx]
    rfl
  | null | bool | num | str | obj | unreadable => rfl

/-- **It does not matter which reading is tried first**: the other one fails. -/
theorem ofJson?_eq_listFirst (h : Unambiguous decode) (j : Json) :
    ofJson? decode j = ofJsonListFirst? decode j := by
  unfold ofJson? ofJsonListFirst?
  refine if_congr Iff.rfl ?_ rfl
  cases hone : decode j with
  | some a => rw [h j (by rw [hone]; rfl)]; rfl
  | none => cases Json.list? decode j <;> rfl

/-- **The values** that a single value or a list stands for. -/
def values? (decode : Json → Option α) (j : Json) : Option (List α) :=
  (ofJson? decode j).map toList

/-- What cannot be read as a list is read as a single value. -/
theorem values?_of_single {j : Json} (h : Json.list? decode j = none) :
    values? decode j = if j.isReadable then (decode j).map ([·]) else none := by
  rw [values?, ofJson?, h]
  split
  · cases decode j <;> rfl
  · rfl

/-- What cannot be read as a single value is read as a list. -/
theorem values?_of_list {j : Json} (h : decode j = none) :
    values? decode j = if j.isReadable then Json.list? decode j else none := by
  rw [values?, ofJson?, h]
  split
  · cases Json.list? decode j <;> rfl
  · rfl

/-- What is read depends on these three things. -/
theorem values?_congr {j j' : Json} (hread : j.isReadable = j'.isReadable)
    (hone : decode j = decode j') (hmany : Json.list? decode j = Json.list? decode j') :
    values? decode j = values? decode j' := by
  rw [values?, ofJson?, hread, hone, hmany]
  rfl

theorem list?_map {β : Type} (f : α → β) (j : Json) :
    Json.list? (fun x => (decode x).map f) j = (Json.list? decode j).map (·.map f) := by
  cases j with
  | arr items => exact (mapM_map decode f items).symm
  | null | bool | num | str | obj | unreadable => rfl

/-- What is made of the values. -/
theorem values?_map {β : Type} (f : α → β) (j : Json) :
    (values? decode j).map (·.map f) = values? (fun x => (decode x).map f) j := by
  unfold values? ofJson?
  rw [list?_map]
  dsimp only
  cases j.isReadable with
  | false => rfl
  | true =>
    cases decode j with
    | some a => rfl
    | none => cases Json.list? decode j <;> rfl

end

end OneOrMany

/-! ## Changes inside a value -/

namespace Json

section

variable {α : Type} {decode : Json → Option α} {j j' : Json}

/-- **Put a value in a list of one, or take it out.** -/
inductive Rewraps (decode : Json → Option α) : Json → Json → Prop where
  | wrap {x : Json} (h : (decode x).isSome = true) : Rewraps decode x (.arr [x])
  | unwrap {x : Json} (h : (decode x).isSome = true) : Rewraps decode (.arr [x]) x

theorem isReadable_singleton (x : Json) : (Json.arr [x]).isReadable = x.isReadable := by
  rw [isReadable, allReadable, allReadable, Bool.and_true]

theorem Rewraps.isReadable (h : Rewraps decode j j') : j.isReadable = j'.isReadable := by
  cases h with
  | wrap => exact (isReadable_singleton _).symm
  | unwrap => exact isReadable_singleton _

/-- The value in the list is read in one way only, and so is the list: neither is the other. -/
theorem values?_singleton (hplain : OneOrMany.Unambiguous decode) {x : Json}
    (h : (decode x).isSome = true) :
    OneOrMany.values? decode (.arr [x]) = OneOrMany.values? decode x := by
  obtain ⟨a, ha⟩ := Option.isSome_iff_exists.1 h
  have hlist : list? decode (.arr [x]) = some [a] := by
    rw [list?, List.mapM_cons, ha]
    rfl
  have hnone : decode (.arr [x]) = none := by
    refine Option.not_isSome_iff_eq_none.1 fun hsome => ?_
    rw [hplain _ hsome] at hlist
    cases hlist
  rw [OneOrMany.values?_of_list hnone, OneOrMany.values?_of_single (hplain x h),
    isReadable_singleton, hlist, ha]
  rfl

/-- **A list of one stands for the same** as the value in it. -/
theorem Rewraps.values? (hplain : OneOrMany.Unambiguous decode) (h : Rewraps decode j j') :
    OneOrMany.values? decode j = OneOrMany.values? decode j' := by
  cases h with
  | wrap h => exact (values?_singleton hplain h).symm
  | unwrap h => exact values?_singleton hplain h

end

/-! ## Changes of a field -/

/-- **Change one field of a record**, in either of its forms. -/
inductive EditsField (names : List String) (key : String) (edit : Json → Json → Prop) :
    Json → Json → Prop where
  | member {v v' : Json} (front back : List (String × Json)) (h : edit v v') :
    EditsField names key edit (.obj (front ++ (key, v) :: back)) (.obj (front ++ (key, v') :: back))
  | item {v v' : Json} (front back : List Json) (hplace : names[front.length]? = some key)
      (h : edit v v') :
    EditsField names key edit (.arr (front ++ v :: back)) (.arr (front ++ v' :: back))

/-- Fields of which one is changed. -/
def Fields.set (f : Fields) (key : String) (v : Json) : Fields :=
  fun n => if n = key then some v else f n

theorem Fields.set_self (f : Fields) (key : String) (v : Json) : f.set key v key = some v :=
  if_pos rfl

theorem Fields.set_other (f : Fields) {key n : String} (v : Json) (h : n ≠ key) :
    f.set key v n = f n :=
  if_neg h

section

variable {names : List String} {key : String}

/-- No known key appears twice. -/
theorem all_once_iff {ms : List (String × Json)} :
    (names.all fun n => decide ((membersNamed n ms).length ≤ 1)) = true ↔
      ∀ n ∈ names, (membersNamed n ms).length ≤ 1 := by
  rw [List.all_eq_true]
  exact forall₂_congr fun _ _ => decide_eq_true_iff

/-- Objects that agree under all declared keys have the same fields. -/
theorem record?_obj_congr {ms ms' : List (String × Json)}
    (h : ∀ n ∈ names, membersNamed n ms = membersNamed n ms') :
    record? names (.obj ms) = record? names (.obj ms') := by
  refine if_congr ?_ (congrArg some (funext fun n => ?_)) rfl
  · rw [all_once_iff, all_once_iff]
    exact forall₂_congr fun n hn => by rw [h n hn]
  · split
    · next hn => rw [h n hn]
    · rfl

section

variable (front back : List (String × Json)) (v v' : Json)

/-- Where its key stands, the member is found between those before and after it. -/
theorem membersNamed_self :
    membersNamed key (front ++ (key, v) :: back) =
      membersNamed key front ++ v :: membersNamed key back := by
  rw [membersNamed_append, membersNamed_cons, if_pos rfl]

/-- Under any other key nothing has changed. -/
theorem membersNamed_other {n : String} (hn : n ≠ key) :
    membersNamed n (front ++ (key, v) :: back) = membersNamed n (front ++ back) := by
  rw [membersNamed_append, membersNamed_cons, if_neg hn.symm, ← membersNamed_append]

/-- A key appears as often as before. -/
theorem length_membersNamed (n : String) :
    (membersNamed n (front ++ (key, v') :: back)).length =
      (membersNamed n (front ++ (key, v) :: back)).length := by
  by_cases hn : n = key
  · rw [hn, membersNamed_self, membersNamed_self, List.length_append, List.length_append]
    rfl
  · rw [membersNamed_other _ _ _ hn, membersNamed_other _ _ _ hn]

/-- **A member of an object** is the field with its name, if it is the only one.  Whether any key
    stands there twice has not changed, so both objects are records or neither is. -/
theorem record?_member (hkey : key ∈ names) :
    record? names (.obj (front ++ (key, v') :: back)) =
      (record? names (.obj (front ++ (key, v) :: back))).map fun f => f.set key v' := by
  have hsame : (∀ n ∈ names, (membersNamed n (front ++ (key, v') :: back)).length ≤ 1) ↔
      ∀ n ∈ names, (membersNamed n (front ++ (key, v) :: back)).length ≤ 1 :=
    forall₂_congr fun n _ => by rw [length_membersNamed front back v v' n]
  -- Either every declared key stands there once, or there is no record before and after.
  by_cases honce : ∀ n ∈ names, (membersNamed n (front ++ (key, v) :: back)).length ≤ 1
  · rw [record?, record?, if_pos (all_once_iff.2 honce), if_pos (all_once_iff.2 (hsame.2 honce)),
      Option.map_some]
    refine congrArg some (funext fun n => ?_)
    -- The key itself, or another one.
    by_cases hn : n = key
    · have hfirst : membersNamed key front = [] := by
        have hlength := honce key hkey
        rw [membersNamed_self, List.length_append, List.length_cons] at hlength
        exact List.eq_nil_of_length_eq_zero (by omega)
      rw [hn, Fields.set_self, if_pos hkey, membersNamed_self, hfirst]
      rfl
    · rw [Fields.set_other _ _ hn, membersNamed_other _ _ _ hn, membersNamed_other _ _ _ hn]
  · rw [record?, record?, if_neg (mt all_once_iff.1 honce),
      if_neg (mt all_once_iff.1 (mt hsame.1 honce)), Option.map_none]

end

/-- An item is found under the name of its place: induction on the items before it.  The names
    are different, so a name before its place is not its own. -/
theorem lookup_zip_item {front : List Json} (hnames : names.Nodup)
    (hplace : names[front.length]? = some key) (v v' : Json) (back : List Json) :
    (fun n => (names.zip (front ++ v' :: back)).lookup n) =
      Fields.set (fun n => (names.zip (front ++ v :: back)).lookup n) key v' := by
  funext n
  unfold Fields.set
  induction front generalizing names with
  | nil =>
    cases names with
    | nil => cases hplace
    | cons m names =>
      cases hplace
      show (((key, v') :: names.zip back).lookup n) =
        if n = key then some v' else ((key, v) :: names.zip back).lookup n
      rw [List.lookup_cons, List.lookup_cons]
      by_cases hn : n = key
      · rw [if_pos hn, beq_iff_eq.2 hn]
      · rw [if_neg hn, beq_eq_false_iff_ne.2 hn]
  | cons x front ih =>
    cases names with
    | nil => cases hplace
    | cons m names =>
      obtain ⟨hm, hrest⟩ := List.nodup_cons.1 hnames
      have hplace : names[front.length]? = some key := hplace
      have hother : m ≠ key := fun h => hm (h ▸ List.mem_of_getElem? hplace)
      show (((m, x) :: names.zip (front ++ v' :: back)).lookup n) =
        if n = key then some v' else ((m, x) :: names.zip (front ++ v :: back)).lookup n
      rw [List.lookup_cons, List.lookup_cons]
      by_cases hn : n = m
      · rw [beq_iff_eq.2 hn, if_neg (hn ▸ hother)]
      · rw [beq_eq_false_iff_ne.2 hn]
        exact ih hrest hplace

/-- A list of too many fields is no record. -/
theorem record?_long {items : List Json} (h : names.length < items.length) :
    record? names (.arr items) = none :=
  if_neg (Nat.not_le.2 h)

/-- **An item of a list** is the field in its place. -/
theorem record?_item {front : List Json} (hnames : names.Nodup)
    (hplace : names[front.length]? = some key) (v v' : Json) (back : List Json) :
    record? names (.arr (front ++ v' :: back)) =
      (record? names (.arr (front ++ v :: back))).map fun f => f.set key v' := by
  have hlength : (front ++ v' :: back).length = (front ++ v :: back).length := by
    rw [List.length_append, List.length_append, List.length_cons, List.length_cons]
  rw [record?, record?, hlength]
  split
  · exact congrArg some (lookup_zip_item hnames hplace v v' back)
  · rfl

variable {edit : Json → Json → Prop} {j j' : Json}

/-- **One field of a record is changed**, and no other. -/
theorem EditsField.record? (h : EditsField names key edit j j') (hnames : names.Nodup)
    (hkey : key ∈ names) : ∃ v v', edit v v' ∧
      Json.record? names j = (Json.record? names j).map (fun f => f.set key v) ∧
      Json.record? names j' = (Json.record? names j).map (fun f => f.set key v') := by
  cases h with
  | @member v v' front back h =>
    exact ⟨v, v', h, record?_member front back v v hkey, record?_member front back v v' hkey⟩
  | @item v v' front back hplace h =>
    exact ⟨v, v', h, record?_item hnames hplace v v back, record?_item hnames hplace v v' back⟩

/-- **What is read from a record does not change** if what is made of the field does not: the
    record before is the one with the field set to what it was. -/
theorem EditsField.bind_congr {α : Type} {read : Fields → Option α}
    (h : EditsField names key edit j j') (hnames : names.Nodup) (hkey : key ∈ names)
    (hread : ∀ (f : Fields) v v', edit v v' → read (f.set key v) = read (f.set key v')) :
    (Json.record? names j).bind read = (Json.record? names j').bind read := by
  obtain ⟨v, v', hedit, hj, hj'⟩ := h.record? hnames hkey
  calc (Json.record? names j).bind read
      = ((Json.record? names j).map fun f => f.set key v).bind read := by rw [← hj]
    _ = (Json.record? names j).bind fun f => read (f.set key v) := Option.bind_map
    _ = (Json.record? names j).bind fun f => read (f.set key v') :=
      congrArg _ (funext fun f => hread f v v' hedit)
    _ = ((Json.record? names j).map fun f => f.set key v').bind read := Option.bind_map.symm
    _ = (Json.record? names j').bind read := by rw [← hj']

theorem isReadable_arr_append (front back : List Json) :
    allReadable (front ++ back) = (allReadable front && allReadable back) := by
  induction front with
  | nil => rfl
  | cons x front ih => rw [List.cons_append, allReadable, allReadable, ih, Bool.and_assoc]

theorem isReadable_obj_append (front back : List (String × Json)) :
    allMembersReadable (front ++ back) = (allMembersReadable front && allMembersReadable back) := by
  induction front with
  | nil => rfl
  | cons m front ih =>
    rw [List.cons_append, allMembersReadable, allMembersReadable, ih, Bool.and_assoc]

/-- A value stays readable if the changed part does. -/
theorem EditsField.isReadable (h : EditsField names key edit j j')
    (hedit : ∀ v v', edit v v' → v.isReadable = v'.isReadable) : j.isReadable = j'.isReadable := by
  cases h with
  | member front back h =>
    rw [Json.isReadable, Json.isReadable, isReadable_obj_append, isReadable_obj_append,
      allMembersReadable, allMembersReadable, hedit _ _ h]
  | item front back hplace h =>
    rw [Json.isReadable, Json.isReadable, isReadable_arr_append, isReadable_arr_append,
      allReadable, allReadable, hedit _ _ h]

end

end Json

/-! ## Instances and applications -/

/-- **A record in the form of a list** starts with its first field, here a text. -/
theorem Json.head_of_required {name text : String} {names : List String} {items : List Json}
    {f : Json.Fields} (hf : Json.record? (name :: names) (.arr items) = some f)
    (htext : Json.required (f name) Json.str? = some text) : ∃ rest, items = .str text :: rest := by
  rw [Json.record?] at hf
  split at hf
  · cases hf
    cases items with
    | nil => cases htext
    | cons x rest =>
      have htext : Json.required (((name, x) :: names.zip rest).lookup name) Json.str? = some text :=
        htext
      rw [List.lookup_cons, beq_self_eq_true] at htext
      cases x with
      | str s =>
        cases htext
        exact ⟨rest, rfl⟩
      | null | bool | num | arr | obj | unreadable => cases htext
  · cases hf

/-- An instance starts with its host. -/
theorem RegisteredInstance.unambiguous : OneOrMany.Unambiguous RegisteredInstance.ofJson? := by
  refine OneOrMany.unambiguous_of_head fun items h => ?_
  obtain ⟨i, hi⟩ := Option.isSome_iff_exists.1 h
  obtain ⟨f, hf, hi⟩ := Option.bind_eq_some_iff.1 hi
  obtain ⟨host, hhost, -⟩ := Option.bind_eq_some_iff.1 hi
  obtain ⟨rest, rfl⟩ := Json.head_of_required hf hhost
  exact ⟨.str host, rest, rfl, rfl⟩

/-- An application starts with its name. -/
theorem Application.unambiguous : OneOrMany.Unambiguous Application.ofJson? := by
  refine OneOrMany.unambiguous_of_head fun items h => ?_
  obtain ⟨a, ha⟩ := Option.isSome_iff_exists.1 h
  obtain ⟨f, hf, ha⟩ := Option.bind_eq_some_iff.1 ha
  obtain ⟨name, hname, -⟩ := Option.bind_eq_some_iff.1 ha
  obtain ⟨rest, rfl⟩ := Json.head_of_required hf hname
  exact ⟨.str name, rest, rfl, rfl⟩

namespace Application

/-- **What a client says of an application**: its name and the hosts of its instances. -/
def listing (a : Application) : String × List String := (a.name, a.hostNames)

/-- **What can be a single application**: an object, or the list of its fields, the first of which is
    its name. -/
def IsSingle : Json → Prop
  | .obj _ => True
  | .arr (.str _ :: _) => True
  | _ => False

/-- **Rewrap the instances of an application**: one of them is put in a list or taken out. -/
def Edits (j j' : Json) : Prop :=
  IsSingle j ∧ Json.EditsField ["name", "instance"] "instance"
    (Json.Rewraps RegisteredInstance.ofJson?) j j'

variable {j j' : Json}

/-- The listing of an application depends on its name and on the values of its instances, and not
    on whether these are in a list. -/
theorem ofJson?_map_listing (j : Json) :
    (ofJson? j).map listing = (j.record? ["name", "instance"]).bind fun f =>
      (Json.required (f "name") Json.str?).bind fun name =>
        (Json.orDefault (f "instance") [] (OneOrMany.values? RegisteredInstance.ofJson?)).map
          fun instances => (name, instances.map (·.hostName)) := by
  unfold ofJson?
  cases j.record? ["name", "instance"] with
  | none => rfl
  | some f =>
    rw [Option.bind_eq_bind, Option.bind_some, Option.bind_some]
    cases Json.required (f "name") Json.str? with
    | none => rfl
    | some name =>
      cases f "instance" with
      | none => rfl
      | some v =>
        unfold Json.orDefault OneOrMany.values?
        dsimp only
        cases OneOrMany.ofJson? RegisteredInstance.ofJson? v <;> rfl

/-- **The listing of an application** stays as it is: the name is another field, and the values
    of the instances are the same. -/
theorem Edits.listing (h : Edits j j') :
    (ofJson? j).map listing = (ofJson? j').map listing := by
  rw [ofJson?_map_listing, ofJson?_map_listing]
  refine h.2.bind_congr (by decide) (by decide) fun f v v' hedit => ?_
  have hother : "name" ≠ "instance" := by decide
  rw [f.set_other v hother, f.set_other v' hother, f.set_self, f.set_self,
    Json.orDefault, Json.orDefault, hedit.values? RegisteredInstance.unambiguous]

/-- Nothing unreadable is put in. -/
theorem Edits.isReadable (h : Edits j j') : j.isReadable = j'.isReadable :=
  h.2.isReadable fun _ _ => Json.Rewraps.isReadable

/-- What is a single application stays one. -/
theorem Edits.isSingle (h : Edits j j') : IsSingle j' := by
  obtain ⟨hsingle, hedit⟩ := h
  cases hedit with
  | member => trivial
  | item front back hplace hrewrap =>
    match front, hplace with
    | [.str name], _ => trivial

/-- A single application is no text. -/
theorem IsSingle.str? (h : IsSingle j) : j.str? = none := by
  match j, h with
  | .obj _, _ => rfl
  | .arr _, _ => rfl

/-- A single application is no list of applications. -/
theorem IsSingle.list? (h : IsSingle j) : Json.list? ofJson? j = none := by
  match j, h with
  | .obj _, _ => rfl
  | .arr (.str name :: rest), _ => rfl

/-- **A single application, read as an instance**, is what it was before.  An object has the same
    host; a list of fields is no instance, nor a list of them, as it starts with a text and goes on. -/
theorem Edits.asInstance (h : Edits j j') :
    OneOrMany.values? RegisteredInstance.ofJson? j =
      OneOrMany.values? RegisteredInstance.ofJson? j' := by
  have hread := h.isReadable
  have hsingle := h.isSingle
  obtain ⟨-, hedit⟩ := h
  unfold OneOrMany.values? OneOrMany.ofJson?
  rw [hread]
  cases hedit with
  | @member v v' front back hrewrap =>
    -- An object: the field of the host is another one.
    have hhost : Json.record? ["hostName"] (.obj (front ++ ("instance", v) :: back)) =
        Json.record? ["hostName"] (.obj (front ++ ("instance", v') :: back)) := by
      refine Json.record?_obj_congr fun n hn => ?_
      have hother : n ≠ "instance" := by
        rw [List.mem_singleton.1 hn]
        decide
      rw [Json.membersNamed_other _ _ _ hother, Json.membersNamed_other _ _ _ hother]
    unfold RegisteredInstance.ofJson?
    rw [hhost]
    rfl
  | item front back hplace hrewrap =>
    -- A list of fields: it has a name and something behind it, so it is no instance.
    match front, hplace with
    | [.str name], _ => rfl

end Application

/-! ## Answers -/

/-- **Rewrap an application or its instances**, where applications are listed: in all that is listed,
    in the single application, or in one item of the list. -/
inductive EditsApplications : Json → Json → Prop where
  | whole {j j' : Json} (h : Json.Rewraps Application.ofJson? j j') : EditsApplications j j'
  | single {j j' : Json} (h : Application.Edits j j') : EditsApplications j j'
  | item {v v' : Json} (front back : List Json) (h : Application.Edits v v') :
    EditsApplications (.arr (front ++ v :: back)) (.arr (front ++ v' :: back))

/-- **Rewrap applications or instances** in an answer about all applications. -/
def EditsDirectory : Json → Json → Prop :=
  Json.EditsField ["applications"] "applications"
    (Json.EditsField ["application"] "application" EditsApplications)

/-- **Rewrap instances** in an answer about one application. -/
def EditsAnswer : Json → Json → Prop :=
  Json.EditsField ["application"] "application" Application.Edits

section

variable {j j' : Json}

/-- **A list that holds an application** is read as a single one as before.  The application can be its
    instance, but not its name. -/
theorem Application.Edits.listing_item {v v' : Json} (h : Edits v v') (front back : List Json) :
    (ofJson? (.arr (front ++ v :: back))).map Application.listing =
      (ofJson? (.arr (front ++ v' :: back))).map Application.listing := by
  rw [ofJson?_map_listing, ofJson?_map_listing]
  match front with
  | [] =>
    -- The item would be the name of the application, and it is no text.
    have hedit : Json.EditsField ["name", "instance"] "name" Edits (.arr (v :: back))
        (.arr (v' :: back)) := .item [] back rfl h
    refine hedit.bind_congr (by decide) (by decide) fun f w w' hw => ?_
    rw [f.set_self, f.set_self, Json.required, Json.required, Option.bind_some, Option.bind_some,
      hw.1.str?, hw.isSingle.str?]
    rfl
  | [x] =>
    -- The item would be the instances, and it is the same instance as before.
    have hedit : Json.EditsField ["name", "instance"] "instance" Edits (.arr (x :: v :: back))
        (.arr (x :: v' :: back)) := .item [x] back rfl h
    refine hedit.bind_congr (by decide) (by decide) fun f w w' hw => ?_
    have hother : "name" ≠ "instance" := by decide
    rw [f.set_other w hother, f.set_other w' hother, f.set_self, f.set_self,
      Json.orDefault, Json.orDefault, hw.asInstance]
  | x :: y :: front =>
    -- The item is behind both, so the list is too long for an application.
    have hlong : ∀ w : Json,
        Json.record? ["name", "instance"] (.arr (x :: y :: front ++ w :: back)) = none := by
      refine fun w => Json.record?_long ?_
      simp only [List.cons_append, List.length_cons, List.length_nil, List.length_append]
      omega
    rw [hlong, hlong]

theorem EditsApplications.isReadable (h : EditsApplications j j') :
    j.isReadable = j'.isReadable := by
  cases h with
  | whole h => exact h.isReadable
  | single h => exact h.isReadable
  | item front back h =>
    rw [Json.isReadable, Json.isReadable, Json.isReadable_arr_append, Json.isReadable_arr_append,
      Json.allReadable, Json.allReadable, h.isReadable]

/-- **The listings** of the applications stay as they are, whichever of the three edits was made. -/
theorem EditsApplications.listings (h : EditsApplications j j') :
    (OneOrMany.values? Application.ofJson? j).map (·.map Application.listing) =
      (OneOrMany.values? Application.ofJson? j').map (·.map Application.listing) := by
  have hread := h.isReadable
  cases h with
  | whole h => exact congrArg _ (h.values? Application.unambiguous)
  | single h =>
    rw [OneOrMany.values?_map, OneOrMany.values?_map]
    refine OneOrMany.values?_congr hread h.listing ?_
    rw [OneOrMany.list?_map, OneOrMany.list?_map, h.1.list?, h.isSingle.list?]
  | @item v v' front back h =>
    rw [OneOrMany.values?_map, OneOrMany.values?_map]
    exact OneOrMany.values?_congr hread (h.listing_item front back)
      (mapM_item (fun x => (Application.ofJson? x).map Application.listing) h.listing front back)

/-- **What a client says of all applications**: the listing of each. -/
def listings (applications : OneOrMany Application) : List (String × List String) :=
  applications.toList.map Application.listing

/-- The applications in an answer about all of them: two records deep, each with one field. -/
theorem EditsDirectory.listings (h : EditsDirectory j j') :
    (applicationsOfJson? j).map listings = (applicationsOfJson? j').map listings := by
  have hread : ∀ v, (applicationsOfJson? v).map LeaseKeeper.listings =
      (v.record? ["applications"]).bind fun f =>
        (Json.orDefault (f "applications") (.many []) applicationListOfJson?).map
          LeaseKeeper.listings :=
    fun v => Option.map_bind
  have hlist : ∀ v, (applicationListOfJson? v).map LeaseKeeper.listings =
      (v.record? ["application"]).bind fun f =>
        (Json.orDefault (f "application") (.many []) (OneOrMany.ofJson? Application.ofJson?)).map
          LeaseKeeper.listings :=
    fun v => Option.map_bind
  rw [hread, hread]
  refine h.bind_congr (by decide) (by decide) fun f v v' hedit => ?_
  rw [f.set_self, f.set_self, Json.orDefault, Json.orDefault, hlist, hlist]
  refine hedit.bind_congr (by decide) (by decide) fun f w w' hedit => ?_
  rw [f.set_self, f.set_self, Json.orDefault, Json.orDefault]
  have hsame := hedit.listings
  rw [OneOrMany.values?, OneOrMany.values?, Option.map_map, Option.map_map] at hsame
  exact hsame

/-- The application in an answer about one: one record deep. -/
theorem EditsAnswer.listing (h : EditsAnswer j j') :
    (applicationOfJson? j).map Application.listing =
      (applicationOfJson? j').map Application.listing := by
  have hread : ∀ v, (applicationOfJson? v).map Application.listing =
      (v.record? ["application"]).bind fun f =>
        (Json.required (f "application") Application.ofJson?).map Application.listing :=
    fun v => Option.map_bind
  rw [hread, hread]
  refine h.bind_congr (by decide) (by decide) fun f v v' hedit => ?_
  rw [f.set_self, f.set_self]
  exact hedit.listing

end

/-! ## Clients -/

/-- **Bodies that say the same**: one turns into the other by any number of edits.  Both are read, so
    neither is nested too deep. -/
def Rewritten (edit : Json → Json → Prop) (b b' : String) : Prop :=
  ∃ j j', Json.parse? b = some j ∧ Json.parse? b' = some j' ∧ Relation.ReflTransGen edit j j'

/-- What edits keep, any number of them keep: induction on the edits. -/
theorem Rewritten.read_congr {α β : Type} {edit : Json → Json → Prop} {decode : Json → Option α}
    {f : α → β} (hedit : ∀ j j', edit j j' → (decode j).map f = (decode j').map f) {b b' : String}
    (h : Rewritten edit b b') :
    ((Json.parse? b).bind decode).map f = ((Json.parse? b').bind decode).map f := by
  obtain ⟨j, j', hj, hj', hedits⟩ := h
  rw [hj, hj', Option.bind_some, Option.bind_some]
  clear hj'
  induction hedits with
  | refl => rfl
  | tail _ hlast ih => exact ih.trans (hedit _ _ hlast)

/-- **Outcomes that differ in the body**, if at all. -/
inductive HttpOutcome.Rewritten (edit : Json → Json → Prop) : HttpOutcome → HttpOutcome → Prop where
  | same (o : HttpOutcome) : Rewritten edit o o
  | body (status : Nat) {b b' : String} (h : LeaseKeeper.Rewritten edit b b') :
    Rewritten edit (.reply status b) (.reply status b')

/-- **Networks that differ in the bodies** of their answers. -/
def Network.Rewritten {σ : Type} (edit : Json → Json → Prop) (network network' : Network σ) : Prop :=
  ∀ request s, HttpOutcome.Rewritten edit (network request s).1 (network' request s).1 ∧
    (network request s).2 = (network' request s).2

/-- Answers that differ in the body. -/
inductive AnswersAlike (edit : Json → Json → Prop) :
    Except CallFailure String → Except CallFailure String → Prop where
  | same (answer : Except CallFailure String) : AnswersAlike edit answer answer
  | body {b b' : String} (h : Rewritten edit b b') : AnswersAlike edit (.ok b) (.ok b')

section

variable {σ : Type} {edit : Json → Json → Prop} {network network' : Network σ}

/-- Results that differ in the body of the answer, after the same requests. -/
def RunsAlike (edit : Json → Json → Prop)
    (x y : Except CallFailure String × List HttpRequest × σ) : Prop :=
  AnswersAlike edit x.1 y.1 ∧ x.2 = y.2

/-- One request more: it is the same request, and what follows it depends on the outcome. -/
theorem RunsAlike.ask (h : Network.Rewritten edit network network') (request : HttpRequest)
    (next : HttpOutcome → Dialogue (Except CallFailure String)) (s : σ)
    (hnext : ∀ o o' s, HttpOutcome.Rewritten edit o o' →
      RunsAlike edit ((next o).run network s) ((next o').run network' s)) :
    RunsAlike edit ((Dialogue.ask request next).run network s)
      ((Dialogue.ask request next).run network' s) := by
  obtain ⟨hout, hstate⟩ := h request s
  have halike := hnext _ _ (network' request s).2 hout
  refine ⟨?_, ?_⟩
  · show AnswersAlike edit ((next (network request s).1).run network (network request s).2).1 _
    rw [hstate]
    exact halike.1
  · show (fun rest => (request :: rest.1, rest.2))
      ((next (network request s).1).run network (network request s).2).2 = _
    rw [hstate, halike.2]
    rfl

/-- **The same servers are asked**, and the answer that counts differs in its body: induction on the
    servers. -/
theorem Network.Rewritten.askInOrder (h : Network.Rewritten edit network network')
    (method : HttpMethod) (names : List String) (body : Option Json) (timeout : Duration)
    (last : CallFailure) (bases : List Url) (s : σ) :
    RunsAlike edit ((askInOrder method names body timeout last bases).run network s)
      ((askInOrder method names body timeout last bases).run network' s) := by
  induction bases generalizing last s with
  | nil => exact ⟨.same _, rfl⟩
  | cons base rest ih =>
    unfold LeaseKeeper.askInOrder
    split
    · -- Nothing can be asked of this one, and that depends on its address only.
      exact ih _ s
    · dsimp only
      split
      · refine RunsAlike.ask h _ _ s fun o o' s hout => ?_
        cases hout with
        | same =>
          -- The outcome is the same on both sides.
          cases o with
          | unanswered => exact ih _ s
          | reply status answer =>
            dsimp only
            split
            · exact ⟨.same _, rfl⟩
            · exact ih _ s
        | body status hbody =>
          -- The bodies differ, so there was a reply: with a success this is the answer, else the
          -- next is asked.
          dsimp only
          split
          · exact ⟨.body hbody, rfl⟩
          · exact ih _ s
      · exact ih _ s

/-- **What is made of a body** does not depend on how it is written, as far as a client says it. -/
theorem AnswersAlike.readBody {α β : Type} {decode : Json → Option α} {f : α → β}
    (hedit : ∀ j j', edit j j' → (decode j).map f = (decode j').map f)
    {answer answer' : Except CallFailure String} (h : AnswersAlike edit answer answer') :
    (RegistryClient.readBody decode answer).map f =
      (RegistryClient.readBody decode answer').map f := by
  cases h with
  | same => rfl
  | @body b b' hbody =>
    have hread : ∀ b, (RegistryClient.readBody decode (.ok b)).map f =
        (((Json.parse? b).bind decode).map f).elim (.error .unreadableBody) .ok := by
      intro b
      unfold RegistryClient.readBody
      dsimp only
      cases (Json.parse? b).bind decode <;> rfl
    rw [hread, hread, hbody.read_congr hedit]

namespace RegistryClient

variable (c : RegistryClient) (s : σ)

/-- What is made of an answer about all applications depends on their listings. -/
theorem apps_eq : c.apps = (c.send .get ["apps"]).map fun answer =>
    match (readBody applicationsOfJson? answer).map listings with
    | .ok list => .ok (SortedMap.ofList list)
    | .error e => .error (.apps e.message) := by
  refine congrArg (c.send .get ["apps"]).map (funext fun answer => ?_)
  cases readBody applicationsOfJson? answer <;> rfl

/-- What is made of an answer about one application depends on its listing. -/
theorem app_eq (name : String) : c.app name =
    (c.send .get ["apps", Text.upperCase name]).map fun answer =>
      match (readBody applicationOfJson? answer).map Application.listing with
      | .ok listing => .ok listing.2
      | .error e => .error (.app name e.message) := by
  refine congrArg (c.send .get ["apps", Text.upperCase name]).map (funext fun answer => ?_)
  cases readBody applicationOfJson? answer <;> rfl

/-- **All applications** are the same, however the answers are written. -/
theorem apps_congr (h : Network.Rewritten EditsDirectory network network') :
    c.apps.run network s = c.apps.run network' s := by
  obtain ⟨hanswers, hrest⟩ :=
    h.askInOrder .get ["apps"] none c.settings.timeout .noServers c.bases s
  have hread := hanswers.readBody (f := listings) fun _ _ hedit => EditsDirectory.listings hedit
  rw [apps_eq, send, Dialogue.run_map, Dialogue.run_map, hread, hrest]

/-- **The hosts of an application** are the same, however the answers are written. -/
theorem app_congr (h : Network.Rewritten EditsAnswer network network') (name : String) :
    (c.app name).run network s = (c.app name).run network' s := by
  obtain ⟨hanswers, hrest⟩ := h.askInOrder .get ["apps", Text.upperCase name] none
    c.settings.timeout .noServers c.bases s
  have hread := hanswers.readBody (f := Application.listing)
    fun _ _ hedit => EditsAnswer.listing hedit
  rw [app_eq, send, Dialogue.run_map, Dialogue.run_map, hread, hrest]

end RegistryClient

end

/-- **A single value and a list of one are interchangeable, and no list is both.**

    * No value can be read as an instance and as a list of instances, nor as an application and as a
      list of applications, so it does not matter which reading is tried first.
    * In an answer about all applications any number of applications and instances, in an answer about
      one application any number of instances can be put in a list of one or taken out: what a client
      says of them stays the same, for the bodies and for all that it does in between. -/
theorem OneOrMany.interchangeable :
    ((∀ j, (RegisteredInstance.ofJson? j).isSome = true →
        Json.list? RegisteredInstance.ofJson? j = none) ∧
      ∀ j, (Application.ofJson? j).isSome = true → Json.list? Application.ofJson? j = none) ∧
    ((∀ j, ofJson? RegisteredInstance.ofJson? j = ofJsonListFirst? RegisteredInstance.ofJson? j) ∧
      ∀ j, ofJson? Application.ofJson? j = ofJsonListFirst? Application.ofJson? j) ∧
    ((∀ b b', Rewritten EditsDirectory b b' →
        ((Json.parse? b).bind applicationsOfJson?).map listings =
          ((Json.parse? b').bind applicationsOfJson?).map listings) ∧
      ∀ b b', Rewritten EditsAnswer b b' →
        ((Json.parse? b).bind applicationOfJson?).map Application.listing =
          ((Json.parse? b').bind applicationOfJson?).map Application.listing) ∧
    ∀ (σ : Type) (network network' : Network σ) (s : σ) (c : RegistryClient),
      (Network.Rewritten EditsDirectory network network' →
        c.apps.run network s = c.apps.run network' s) ∧
      (Network.Rewritten EditsAnswer network network' →
        ∀ name, (c.app name).run network s = (c.app name).run network' s) :=
  ⟨⟨RegisteredInstance.unambiguous, Application.unambiguous⟩,
    ⟨ofJson?_eq_listFirst RegisteredInstance.unambiguous,
      ofJson?_eq_listFirst Application.unambiguous⟩,
    ⟨fun _ _ h => h.read_congr fun _ _ hedit => EditsDirectory.listings hedit,
      fun _ _ h => h.read_congr fun _ _ hedit => EditsAnswer.listing hedit⟩,
    fun _ _ _ s c => ⟨c.apps_congr s, c.app_congr s⟩⟩

/-- An application with one instance, which stands there without a list or in one. -/
def plainApplication (listed : Bool) : Json :=
  let running : Json := .obj [("hostName", .str "h")]
  .obj [("name", .str "billing"), ("instance", bif listed then .arr [running] else running)]

/-- An answer about all applications. -/
def directoryAnswer (applications : Json) : Json :=
  .obj [("applications", .obj [("application", applications)])]

theorem plainApplication_listed :
    Rewritten EditsDirectory (directoryAnswer (plainApplication false)).render
        (directoryAnswer (.arr [plainApplication true])).render ∧
      ((Json.parse? (directoryAnswer (.arr [plainApplication true])).render).bind
        applicationsOfJson?).map listings = some [("billing", ["h"])] := by
  have hinside : EditsDirectory (directoryAnswer (plainApplication false))
      (directoryAnswer (plainApplication true)) :=
    .member [] [] (.member [] [] (.single ⟨trivial, .member [("name", .str "billing")] []
      (.wrap (by decide))⟩))
  have houtside : EditsDirectory (directoryAnswer (plainApplication true))
      (directoryAnswer (.arr [plainApplication true])) :=
    .member [] [] (.member [] [] (.whole (.wrap (by decide))))
  have hrewritten : Rewritten EditsDirectory (directoryAnswer (plainApplication false)).render
      (directoryAnswer (.arr [plainApplication true])).render :=
    ⟨_, _, Json.parse?_render (by decide), Json.parse?_render (by decide),
      .tail (.single hinside) houtside⟩
  refine ⟨hrewritten, ?_⟩
  rw [← OneOrMany.interchangeable.2.2.1.1 _ _ hrewritten, Json.parse?_render (by decide)]
  decide

/-- An answer about one application. -/
def singleAnswer (application : Json) : Json := .obj [("application", application)]

/-- **One application is not listed**: where it is expected, a list of one is refused. -/
theorem application_not_wrapped :
    ¬ ∀ b b', Rewritten (Json.EditsField ["application"] "application"
          (Json.Rewraps Application.ofJson?)) b b' →
        ((Json.parse? b).bind applicationOfJson?).map Application.hostNames =
          ((Json.parse? b').bind applicationOfJson?).map Application.hostNames := by
  intro h
  have hone : (Application.ofJson? (plainApplication false)).isSome = true := by decide
  have hrewritten : Rewritten (Json.EditsField ["application"] "application"
        (Json.Rewraps Application.ofJson?)) (singleAnswer (plainApplication false)).render
      (singleAnswer (.arr [plainApplication false])).render :=
    ⟨_, _, Json.parse?_render (by decide), Json.parse?_render (by decide),
      .single (.member [] [] (.wrap hone))⟩
  have hsame := h _ _ hrewritten
  rw [Json.parse?_render (by decide), Json.parse?_render (by decide)] at hsame
  exact absurd hsame (by decide)

end LeaseKeeper
