/-
  Percent-encoding is undone by decoding.

  Whatever the set of a place is, as long as it has the percent sign: the text that is written there
  gives back the bytes of the text that was meant (`percentDecode_percentEncode`).  A percent sign
  in the text is written as `%25`, so every percent sign that is found begins a byte.

  What is written has only characters outside the set, and the characters of encoded bytes
  (`mem_percentEncode`).  So a mark that is in the set, and neither a percent sign nor a hexadecimal
  digit, is never written.
-/
import LeaseKeeper.Url.Percent

namespace LeaseKeeper.Url

/-! ## Digits -/

theorem hexValue?_hexUpper {n : Nat} (h : n < 16) : hexValue? (hexUpper n) = some n := by
  have hall : ∀ n : Fin 16, hexValue? (hexUpper n) = some n.val := by decide
  exact hall ⟨n, h⟩

/-- A digit or a letter from `A` to `F`. -/
def isHexUpper (c : Char) : Bool := c.isDigit || ('A' ≤ c && c ≤ 'F')

theorem isHexUpper_hexUpper {n : Nat} (h : n < 16) : isHexUpper (hexUpper n) = true := by
  have hall : ∀ n : Fin 16, isHexUpper (hexUpper n) = true := by decide
  exact hall ⟨n, h⟩

/-! ## Bytes and characters -/

/-- The bytes of a text. -/
def utf8Bytes (cs : List Char) : List UInt8 := cs.flatMap String.utf8EncodeChar

/-- **Text that was written in bytes is read back.** -/
theorem utf8Decode?_utf8Bytes (cs : List Char) : utf8Decode? (utf8Bytes cs) = some cs := by
  have hbytes : (⟨(utf8Bytes cs).toArray⟩ : ByteArray) = cs.utf8Encode := by
    refine ByteArray.ext ?_
    exact List.data_toByteArray.symm
  have hvalid : cs.utf8Encode.IsValidUTF8 := ⟨cs, rfl⟩
  unfold utf8Decode? String.fromUTF8?
  rw [hbytes, dif_pos hvalid]
  show some (String.ofList cs).toList = some cs
  rw [String.toList_ofList]

theorem utf8Bytes_inj {cs cs' : List Char} (h : utf8Bytes cs = utf8Bytes cs') : cs = cs' := by
  have hcs := utf8Decode?_utf8Bytes cs
  rw [h, utf8Decode?_utf8Bytes] at hcs
  exact (Option.some.inj hcs).symm

/-! ## Decoding -/

theorem percentDecode_percentByte (b : UInt8) (rest : List Char) :
    percentDecode (percentByte b ++ rest) = b :: percentDecode rest := by
  have hlt : b.toNat < 256 := b.toNat_lt
  have hvalue : UInt8.ofNat (b.toNat / 16 * 16 + b.toNat % 16) = b := by
    rw [Nat.div_add_mod']
    exact UInt8.ofNat_toNat
  show percentDecode ('%' :: hexUpper (b.toNat / 16) :: hexUpper (b.toNat % 16) :: rest) = _
  rw [percentDecode, hexValue?_hexUpper (by omega), hexValue?_hexUpper (by omega)]
  simp only [hvalue]

/-- Several bytes, by induction on them. -/
theorem percentDecode_bytes (bytes : List UInt8) (rest : List Char) :
    percentDecode (bytes.flatMap percentByte ++ rest) = bytes ++ percentDecode rest := by
  induction bytes with
  | nil => rfl
  | cons b bytes ih =>
    rw [List.flatMap_cons, List.append_assoc, percentDecode_percentByte, ih]
    rfl

/-- A character that is no percent sign stands for itself. -/
theorem percentDecode_cons {c : Char} (hc : c ≠ '%') (rest : List Char) :
    percentDecode (c :: rest) = String.utf8EncodeChar c ++ percentDecode rest := by
  rw [percentDecode]
  rintro a b rest rfl
  exact absurd rfl hc

/-- A text without percent signs stands for itself. -/
theorem percentDecode_self {cs : List Char} (h : '%' ∉ cs) : percentDecode cs = utf8Bytes cs := by
  induction cs with
  | nil => rfl
  | cons c cs ih =>
    have hc : c ≠ '%' := fun hc => h (hc ▸ List.mem_cons_self ..)
    rw [percentDecode_cons hc, ih fun hcs => h (List.mem_cons_of_mem _ hcs)]
    rfl

theorem percentDecode_percentChar {set : Char → Bool} (hset : set '%' = true) (c : Char)
    (rest : List Char) :
    percentDecode (percentChar set c ++ rest) =
      String.utf8EncodeChar c ++ percentDecode rest := by
  unfold percentChar
  cases hc : set c with
  | true => exact percentDecode_bytes _ rest
  | false =>
    refine percentDecode_cons ?_ rest
    rintro rfl
    rw [hset] at hc
    cases hc

/-- **What was encoded is decoded**: induction on the text. -/
theorem percentDecode_percentEncode {set : Char → Bool} (hset : set '%' = true) (cs : List Char) :
    percentDecode (percentEncode set cs) = utf8Bytes cs := by
  induction cs with
  | nil => rfl
  | cons c cs ih =>
    show percentDecode (percentChar set c ++ percentEncode set cs) = _
    rw [percentDecode_percentChar hset, ih]
    rfl

/-! ## What is written -/

/-- **The characters that are written**: those that may stand for themselves, and those of bytes. -/
theorem mem_percentEncode {set : Char → Bool} {cs : List Char} {c : Char}
    (h : c ∈ percentEncode set cs) : (c ∈ cs ∧ set c = false) ∨ c = '%' ∨ isHexUpper c = true := by
  obtain ⟨a, ha, hc⟩ := List.mem_flatMap.1 h
  unfold percentChar at hc
  cases hset : set a with
  | false =>
    rw [hset, if_neg Bool.false_ne_true, List.mem_singleton] at hc
    subst hc
    exact .inl ⟨ha, hset⟩
  | true =>
    rw [hset, if_pos rfl] at hc
    obtain ⟨b, -, hb⟩ := List.mem_flatMap.1 hc
    have hlt : b.toNat < 256 := b.toNat_lt
    simp only [percentByte, List.mem_cons, List.not_mem_nil, or_false] at hb
    rcases hb with rfl | rfl | rfl
    · exact .inr (.inl rfl)
    · exact .inr (.inr (isHexUpper_hexUpper (by omega)))
    · exact .inr (.inr (isHexUpper_hexUpper (by omega)))

/-- A mark that is encoded wherever it occurs is not written. -/
theorem not_mem_percentEncode {set : Char → Bool} {c : Char} (hset : set c = true)
    (hpercent : c ≠ '%') (hhex : isHexUpper c = false) (cs : List Char) :
    c ∉ percentEncode set cs := by
  intro h
  rcases mem_percentEncode h with ⟨-, hc⟩ | hc | hc
  · rw [hset] at hc
    cases hc
  · exact hpercent hc
  · rw [hhex] at hc
    cases hc

/-- Text of which nothing is in the set is written as it is. -/
theorem percentEncode_self {set : Char → Bool} {cs : List Char} (h : ∀ c ∈ cs, set c = false) :
    percentEncode set cs = cs := by
  induction cs with
  | nil => rfl
  | cons c cs ih =>
    show percentChar set c ++ percentEncode set cs = _
    have hc : percentChar set c = [c] := by
      rw [percentChar, h c (List.mem_cons_self ..), if_neg Bool.false_ne_true]
    rw [hc, ih fun c' hc' => h c' (List.mem_cons_of_mem _ hc')]
    rfl

end LeaseKeeper.Url
