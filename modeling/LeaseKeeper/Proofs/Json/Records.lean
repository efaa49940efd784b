/-
  Written values are decoded to what they were written from.

  For single values, lists and maps of texts that is one lemma each.  For a record it takes two
  facts: its keys are different and all declared, so its members are its fields
  (`record?_eq_field`), and each field is what was written under its key, which is seen by looking
  (`Json.field`).

  The order of the members plays no part in this, and members that are not declared may stand
  among them: both are used where a document is read that somebody else has written.
-/
import LeaseKeeper.Json.Decode

namespace LeaseKeeper

/-! ## Maps -/

namespace SortedMap

variable {α : Type}

/-- An entry with the greatest key goes to the end: induction on the entries, all of which it
    passes. -/
theorem insertEntry_last {key : String} (value : α) {entries : List (String × α)}
    (h : ∀ e ∈ entries, e.1 < key) : insertEntry key value entries = entries ++ [(key, value)] := by
  induction entries with
  | nil => rfl
  | cons e rest ih =>
    have hlt : e.1 < key := h e List.mem_cons_self
    have hafter : ¬ key < e.1 := fun hgt => String.lt_irrefl key (String.lt_trans hgt hlt)
    have hother : key ≠ e.1 := fun heq => String.lt_irrefl key (heq ▸ hlt)
    rw [insertEntry, if_neg hafter, if_neg hother,
      ih fun e' he' => h e' (List.mem_cons_of_mem e he')]
    rfl

/-- Entries in the order of their keys are put in one after the other.  Each comes after all that
    are in the map already, so it is put at the end. -/
theorem foldl_insert (rest : List (String × α)) (m : SortedMap α)
    (h : KeysIncrease (m.entries ++ rest)) :
    (rest.foldl (fun m e => m.insert e.1 e.2) m).entries = m.entries ++ rest := by
  induction rest generalizing m with
  | nil => exact (List.append_nil _).symm
  | cons e rest ih =>
    have hgreatest : ∀ e' ∈ m.entries, e'.1 < e.1 := by
      intro e' he'
      exact (List.pairwise_append.1 h).2.2 e' he' e List.mem_cons_self
    have hinsert : (m.insert e.1 e.2).entries = m.entries ++ [e] := insertEntry_last e.2 hgreatest
    rw [List.foldl_cons, ih, hinsert, List.append_assoc, List.singleton_append]
    rw [hinsert, List.append_assoc, List.singleton_append]
    exact h

/-- **The entries of a map spell the map.** -/
theorem ofList_entries (m : SortedMap α) : ofList m.entries = m :=
  ext_entries (foldl_insert m.entries empty m.keys_increase)

end SortedMap

namespace Json

/-! ## Single values

Numbers are read if they are below the bound of their type, which the numbers of the type are. -/

theorem natBelow?_natural {n bound : Nat} (h : n < bound) :
    natBelow? bound (.num (.natural n)) = some n := if_pos h

theorem uint16?_natural (n : UInt16) : uint16? (.num (.natural n.toNat)) = some n := by
  rw [uint16?, natBelow?_natural n.toNat_lt, Option.map_some, UInt16.ofNat_toNat]

theorem uint32?_natural (n : UInt32) : uint32? (.num (.natural n.toNat)) = some n := by
  rw [uint32?, natBelow?_natural n.toNat_lt, Option.map_some, UInt32.ofNat_toNat]

theorem uint64?_natural (n : UInt64) : uint64? (.num (.natural n.toNat)) = some n := by
  rw [uint64?, natBelow?_natural n.toNat_lt, Option.map_some, UInt64.ofNat_toNat]

theorem mapM_str? (l : List String) : (l.map Json.str).mapM str? = some l := by
  induction l with
  | nil => rfl
  | cons s l ih =>
    rw [List.map_cons, List.mapM_cons, ih]
    rfl

/-- **A list of texts.** -/
theorem list?_strings (l : List String) : list? str? (.arr (l.map .str)) = some l := mapM_str? l

theorem members?_strings (entries : List (String × String)) :
    members? str? (entries.map fun e => (e.1, .str e.2)) = some entries := by
  induction entries with
  | nil => rfl
  | cons e rest ih =>
    rw [List.map_cons, members?, ih]
    rfl

/-- **A map of texts.**  Its entries are written in the order of their keys, so they are put
    together again as they were. -/
theorem map?_strings (m : SortedMap String) :
    map? str? (.obj (m.entries.map fun e => (e.1, .str e.2))) = some m := by
  rw [map?, members?_strings, Option.map_some, SortedMap.ofList_entries]

/-! ## Records -/

/-- The members of an object, and none of any other value. -/
def members : Json → List (String × Json)
  | .obj ms => ms
  | _ => []

/-- **What an object holds under a key**, the first time that the key occurs. -/
def field (j : Json) (key : String) : Option Json := j.members.lookup key

theorem membersNamed_cons (key : String) (m : String × Json) (ms : List (String × Json)) :
    membersNamed key (m :: ms) =
      if m.1 = key then m.2 :: membersNamed key ms else membersNamed key ms := by
  by_cases hkey : m.1 = key
  · simp only [membersNamed, List.filterMap_cons, hkey, if_true]
  · simp only [membersNamed, List.filterMap_cons, hkey, if_false]

theorem membersNamed_append (key : String) (ms ms' : List (String × Json)) :
    membersNamed key (ms ++ ms') = membersNamed key ms ++ membersNamed key ms' :=
  List.filterMap_append

/-- A key that does not occur has no members. -/
theorem membersNamed_eq_nil {key : String} {ms : List (String × Json)}
    (h : key ∉ ms.map Prod.fst) : membersNamed key ms = [] := by
  refine List.filterMap_eq_nil_iff.2 fun m hm => if_neg fun hsame => h ?_
  rw [← hsame]
  exact List.mem_map_of_mem hm

/-- Where keys are different, a key has at most one member, and looking finds it.  Induction on
    the members. -/
theorem membersNamed_of_nodup (key : String) {ms : List (String × Json)}
    (h : (ms.map Prod.fst).Nodup) : membersNamed key ms = (ms.lookup key).toList := by
  induction ms with
  | nil => rfl
  | cons m ms ih =>
    obtain ⟨hnew, hrest⟩ := List.nodup_cons.1 h
    rw [membersNamed_cons, List.lookup_cons]
    by_cases hkey : m.1 = key
    · subst hkey
      rw [if_pos rfl, beq_self_eq_true, membersNamed_eq_nil hnew]
      rfl
    · rw [if_neg hkey, beq_eq_false_iff_ne.2 (Ne.symm hkey)]
      exact ih hrest

/-- Where keys are different, looking for a member's key finds the member. -/
theorem lookup_of_mem {ms : List (String × Json)} (hnodup : (ms.map Prod.fst).Nodup)
    {m : String × Json} (hm : m ∈ ms) : ms.lookup m.1 = some m.2 := by
  induction ms with
  | nil => cases hm
  | cons m' ms ih =>
    obtain ⟨hnew, hrest⟩ := List.nodup_cons.1 hnodup
    rw [List.lookup_cons]
    rcases List.mem_cons.1 hm with rfl | hm
    · rw [beq_self_eq_true]
    · have hother : m.1 ≠ m'.1 := fun h => hnew (h ▸ List.mem_map_of_mem hm)
      rw [beq_eq_false_iff_ne.2 hother]
      exact ih hrest hm

theorem mem_of_lookup {ms : List (String × Json)} {key : String} {v : Json}
    (h : ms.lookup key = some v) : (key, v) ∈ ms := by
  induction ms with
  | nil => cases h
  | cons m ms ih =>
    rw [List.lookup_cons] at h
    split at h
    · next hkey =>
      obtain rfl := Option.some.inj h
      rw [eq_of_beq hkey]
      exact List.mem_cons_self
    · exact List.mem_cons_of_mem m (ih h)

/-- **The members of a record are its fields**, if its keys are different and all declared.  A
    record is refused if a declared key occurs twice, which is excluded; and an undeclared key is
    not looked for, but then there is none. -/
theorem record?_eq_field {names : List String} (keys : List String) {j : Json}
    (hobj : j = .obj j.members) (hkeys : j.members.map Prod.fst = keys) (hnodup : keys.Nodup)
    (hdeclared : keys ⊆ names) :
    record? names j = some j.field := by
  have hnamed : ∀ key, membersNamed key j.members = (j.field key).toList :=
    fun key => membersNamed_of_nodup key (hkeys ▸ hnodup)
  have honce : (names.all fun n => decide ((membersNamed n j.members).length ≤ 1)) = true := by
    refine List.all_eq_true.2 fun key _ => decide_eq_true ?_
    rw [hnamed]
    exact Option.length_toList_le
  rw [hobj, record?, if_pos honce, ← hobj]
  refine congrArg some (funext fun key => ?_)
  split
  · rw [hnamed, Option.head?_toList]
  · -- an undeclared key, so there is no member of that name
    next hundeclared =>
    refine (List.lookup_eq_none_iff.2 fun m hm => ?_).symm
    refine bne_iff_ne.2 fun hsame => hundeclared (hdeclared ?_)
    rw [← hkeys, hsame]
    exact List.mem_map_of_mem hm

section

variable {α : Type} {decode : Json → Option α} {field : Option Json} {j : Json} {a : α}

theorem required_some (hfield : field = some j) (hread : decode j = some a) :
    required field decode = some a := by
  rw [hfield]
  exact hread

theorem orDefault_some {default : α} (hfield : field = some j) (hread : decode j = some a) :
    orDefault field default decode = some a := by
  rw [hfield]
  exact hread

end

end Json

end LeaseKeeper
