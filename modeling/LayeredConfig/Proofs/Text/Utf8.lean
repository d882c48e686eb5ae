import LayeredConfig.Proofs.Text.ByteOrder

namespace LayeredConfig.Text

/-- The loop has taken the bytes before its index, the last one first. -/
theorem toList_loop_bytes (bytes : ByteArray) (i : ℕ) (taken : List UInt8) :
    ByteArray.toList.loop bytes i taken = taken.reverse ++ bytes.data.toList.drop i := by
  fun_induction ByteArray.toList.loop bytes i taken with
  | case1 i taken hlt ih =>
    have hlt' : i < bytes.data.toList.length := by simpa using hlt
    rw [ih, List.drop_eq_getElem_cons hlt']
    simp [ByteArray.get!, hlt]
  | case2 i taken hge =>
    have hle : bytes.data.toList.length ≤ i := by simpa using hge
    rw [List.drop_eq_nil_of_le hle, List.append_nil]

theorem toList_bytes (bytes : ByteArray) : bytes.toList = bytes.data.toList :=
  toList_loop_bytes bytes 0 []

variable {b x low high : ℕ} {tail : List ℕ}

/-- Bytes that may continue a sequence are all taken, if no more are asked for. -/
theorem continuation_append (hx : low ≤ x ∧ x ≤ high) (htail : ∀ y ∈ tail, 0x80 ≤ y ∧ y ≤ 0xBF)
    (rest : List ℕ) :
    continuation (tail.length + 1) low high (x :: (tail ++ rest)) = x :: tail := by
  rw [continuation, if_pos hx]
  congr 1
  induction tail with
  | nil => cases rest <;> rfl
  | cons y tail ih =>
    obtain ⟨hy, hrest⟩ := List.forall_mem_cons.1 htail
    rw [List.length_cons, List.cons_append, continuation, if_pos hy, ih hrest]

theorem decodeFrom_append (tail rest : List ℕ) :
    decodeFrom tail.length (tail ++ rest) = decodeFrom 0 rest := by
  induction tail with
  | nil => rfl
  | cons b tail ih => exact ih

/-- A lead byte with as many continuation bytes as it asks for makes a character. -/
theorem decodeFrom_sequence (hb : 0x80 ≤ b)
    (hlead : leadByte? b = some (tail.length + 2, low, high)) (hx : low ≤ x ∧ x ≤ high)
    (htail : ∀ y ∈ tail, 0x80 ≤ y ∧ y ≤ 0xBF) (rest : List ℕ) :
    decodeFrom 0 (b :: x :: (tail ++ rest)) =
      assemble b (tail.length + 2) (x :: tail) :: decodeFrom 0 rest := by
  have hcontinuation : continuation (tail.length + 2 - 1) low high (x :: (tail ++ rest)) =
      x :: tail := continuation_append hx htail rest
  rw [decodeFrom, if_neg (not_lt.2 hb), hlead]
  dsimp only
  rw [hcontinuation, List.length_cons, if_pos rfl]
  exact congrArg _ (decodeFrom_append (x :: tail) rest)

theorem leadByte?_two (h : 0xC2 ≤ b ∧ b ≤ 0xDF) : leadByte? b = some (2, 0x80, 0xBF) := if_pos h

theorem leadByte?_three (hb : 0xE0 ≤ b ∧ b ≤ 0xEF) (hx : 0x80 ≤ x ∧ x ≤ 0xBF)
    (hlow : b = 0xE0 → 0xA0 ≤ x) (hhigh : b = 0xED → x ≤ 0x9F) :
    ∃ low high, leadByte? b = some (3, low, high) ∧ low ≤ x ∧ x ≤ high := by
  unfold leadByte?
  split_ifs <;> first | omega | exact ⟨_, _, rfl, by omega⟩

theorem leadByte?_four (hb : 0xF0 ≤ b ∧ b ≤ 0xF4) (hx : 0x80 ≤ x ∧ x ≤ 0xBF)
    (hlow : b = 0xF0 → 0x90 ≤ x) (hhigh : b = 0xF4 → x ≤ 0x8F) :
    ∃ low high, leadByte? b = some (4, low, high) ∧ low ≤ x ∧ x ≤ high := by
  unfold leadByte?
  split_ifs <;> first | omega | exact ⟨_, _, rfl, by omega⟩

/-- The bytes of a character are read as that character. -/
theorem decodeFrom_utf8EncodeChar (c : Char) (rest : List ℕ) :
    decodeFrom 0 ((String.utf8EncodeChar c).map UInt8.toNat ++ rest) = c :: decodeFrom 0 rest := by
  have hvalid : c.val.toNat < 0xD800 ∨ 0xDFFF < c.val.toNat ∧ c.val.toNat < 0x110000 := c.valid
  have hchar : Char.ofNat c.val.toNat = c := Char.ofNat_toNat c
  unfold String.utf8EncodeChar
  dsimp only
  generalize c.val.toNat = v at hvalid hchar
  subst hchar
  -- The number of bytes goes by the size of the character. In longer sequences the bounds for the
  -- second byte leave out only what has a shorter sequence, surrogates and what is no character.
  split_ifs with h₁ h₂ h₃ <;>
    simp (disch := omega) only [List.map_cons, List.map_nil, UInt8.toNat_ofNat', Nat.mod_eq_of_lt]
  · have hb : v < 0x80 := by omega
    rw [List.singleton_append, decodeFrom, if_pos hb]
  · have hlead : leadByte? (v / 64 + 192) = some (2, 0x80, 0xBF) := leadByte?_two (by omega)
    have hchar : assemble (v / 64 + 192) 2 [v % 64 + 128] = Char.ofNat v := by
      refine congrArg Char.ofNat ?_
      simp only [List.foldl_cons, List.foldl_nil]
      omega
    rw [← hchar]
    exact @decodeFrom_sequence _ _ _ _ [] (by omega) hlead (by omega) (by simp) rest
  · obtain ⟨low, high, hlead, hsecond⟩ := @leadByte?_three (v / 4096 + 224)
      (v / 64 % 64 + 128) (by omega) (by omega) (by omega) (by omega)
    have hchar : assemble (v / 4096 + 224) 3 [v / 64 % 64 + 128, v % 64 + 128] = Char.ofNat v := by
      refine congrArg Char.ofNat ?_
      simp only [List.foldl_cons, List.foldl_nil]
      omega
    rw [← hchar]
    exact @decodeFrom_sequence _ _ _ _ [v % 64 + 128] (by omega) hlead hsecond (by simp; omega) rest
  · obtain ⟨low, high, hlead, hsecond⟩ := @leadByte?_four (v / 262144 + 240)
      (v / 4096 % 64 + 128) (by omega) (by omega) (by omega) (by omega)
    have hchar : assemble (v / 262144 + 240) 4
        [v / 4096 % 64 + 128, v / 64 % 64 + 128, v % 64 + 128] = Char.ofNat v := by
      refine congrArg Char.ofNat ?_
      simp only [List.foldl_cons, List.foldl_nil]
      omega
    rw [← hchar]
    exact @decodeFrom_sequence _ _ _ _ [v / 64 % 64 + 128, v % 64 + 128] (by omega) hlead hsecond
      (by simp; omega) rest

theorem decodeLossy_toUTF8 (s : String) : decodeLossy s.toUTF8 = s := by
  have hbytes : s.toUTF8.toList.map UInt8.toNat =
      s.toList.flatMap fun c => (String.utf8EncodeChar c).map UInt8.toNat := by
    rw [toList_bytes, ← List.map_flatMap]
    exact congrArg (List.map UInt8.toNat) (bytesOf_eq_flatMap s)
  have hdecode (cs : List Char) :
      decodeFrom 0 (cs.flatMap fun c => (String.utf8EncodeChar c).map UInt8.toNat) = cs := by
    induction cs with
    | nil => rfl
    | cons c cs ih => rw [List.flatMap_cons, decodeFrom_utf8EncodeChar, ih]
  rw [decodeLossy, hbytes, hdecode, String.ofList_toList]

end LayeredConfig.Text
