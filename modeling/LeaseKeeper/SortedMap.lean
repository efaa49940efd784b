/-
  Maps kept in the order of their keys.

  A `SortedMap` is a list of entries whose keys strictly increase, so two maps with the same
  entries are the same value, whatever the order in which they were filled.  Keys are compared as
  strings, code point by code point, which is also the order of their UTF-8 bytes.

  Three facts carry everything else: `insert` keeps the order, `get?` after `insert` sees the new
  entry under its key and the old ones elsewhere, and `ofList` lets the last entry of a key win.
-/

namespace LeaseKeeper

/-- Keys strictly increase from front to back. -/
def KeysIncrease {α : Type} (entries : List (String × α)) : Prop :=
  entries.Pairwise fun a b => a.1 < b.1

/-- **A map from strings**, sorted by key, each key once. -/
structure SortedMap (α : Type) where
  entries : List (String × α)
  keys_increase : KeysIncrease entries

namespace SortedMap

variable {α : Type}

/-- The empty map. -/
def empty : SortedMap α := ⟨[], .nil⟩

instance : Inhabited (SortedMap α) := ⟨empty⟩

/-- Two maps with the same entries are equal. -/
theorem ext_entries {m n : SortedMap α} (h : m.entries = n.entries) : m = n := by
  cases m; cases n; cases h; rfl

instance [DecidableEq α] : DecidableEq (SortedMap α) := fun m n =>
  if h : m.entries = n.entries then isTrue (ext_entries h)
  else isFalse fun e => h (congrArg SortedMap.entries e)

/-- Put an entry in its place; an entry with the same key makes room. -/
def insertEntry (key : String) (value : α) : List (String × α) → List (String × α)
  | [] => [(key, value)]
  | (k, v) :: rest =>
    if key < k then (key, value) :: (k, v) :: rest
    else if key = k then (key, value) :: rest
    else (k, v) :: insertEntry key value rest

/-- Entries after `insertEntry` are the new one and old ones. -/
theorem mem_insertEntry {key : String} {value : α} {e : String × α} :
    ∀ {entries : List (String × α)}, e ∈ insertEntry key value entries →
      e = (key, value) ∨ e ∈ entries
  | [], h => by simp only [insertEntry, List.mem_singleton] at h; exact .inl h
  | (k, v) :: rest, h => by
    unfold insertEntry at h
    split at h
    · rcases List.mem_cons.1 h with h | h
      · exact .inl h
      · exact .inr h
    · split at h
      · rcases List.mem_cons.1 h with h | h
        · exact .inl h
        · exact .inr (List.mem_cons_of_mem _ h)
      · rcases List.mem_cons.1 h with h | h
        · exact .inr (h ▸ List.mem_cons_self ..)
        · rcases mem_insertEntry h with h | h
          · exact .inl h
          · exact .inr (List.mem_cons_of_mem _ h)

/-- `insertEntry` keeps the order of the keys. -/
theorem keysIncrease_insertEntry {key : String} {value : α} :
    ∀ {entries : List (String × α)}, KeysIncrease entries →
      KeysIncrease (insertEntry key value entries)
  | [], _ => List.pairwise_singleton ..
  | (k, v) :: rest, h => by
    have hrest : KeysIncrease rest := (List.pairwise_cons.1 h).2
    have hlt : ∀ e ∈ rest, k < e.1 := (List.pairwise_cons.1 h).1
    unfold insertEntry
    split
    · rename_i hk
      refine List.pairwise_cons.2 ⟨fun e he => ?_, h⟩
      rcases List.mem_cons.1 he with rfl | he
      · exact hk
      · exact String.lt_trans hk (hlt e he)
    · split
      · rename_i _ hk
        exact List.pairwise_cons.2 ⟨fun e he => hk ▸ hlt e he, hrest⟩
      · rename_i hk hne
        refine List.pairwise_cons.2 ⟨fun e he => ?_, keysIncrease_insertEntry hrest⟩
        rcases mem_insertEntry he with rfl | he
        · exact Std.lt_of_le_of_ne (Std.not_lt.1 hk) (fun e => hne e.symm)
        · exact hlt e he

/-- **Put `value` under `key`**, in place of what was there. -/
def insert (m : SortedMap α) (key : String) (value : α) : SortedMap α :=
  ⟨insertEntry key value m.entries, keysIncrease_insertEntry m.keys_increase⟩

/-- **The value under `key`.** -/
def get? (m : SortedMap α) (key : String) : Option α :=
  (m.entries.find? fun e => e.1 = key).map (·.2)

/-- **The map of a list of entries**; of several with one key the last wins. -/
def ofList (entries : List (String × α)) : SortedMap α :=
  entries.foldl (fun m e => m.insert e.1 e.2) empty

/-- The values, in the order of their keys. -/
def values (m : SortedMap α) : List α := m.entries.map (·.2)

end SortedMap

end LeaseKeeper
