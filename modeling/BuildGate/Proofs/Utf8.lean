import Mathlib
import BuildGate.Text.Raw

namespace BuildGate.Text

theorem byteArray_toList_loop (bs : ByteArray) (i : Nat) (r : List UInt8) :
    ByteArray.toList.loop bs i r = r.reverse ++ bs.data.toList.drop i := by
  fun_induction ByteArray.toList.loop bs i r with
  | case1 i r hlt ih =>
    have hlen : i < bs.data.toList.length := by simpa using hlt
    have hget : bs.get! i = bs.data[i]! := by cases bs; rfl
    rw [ih, List.drop_eq_getElem_cons hlen, hget, getElem!_pos bs.data i hlt]
    simp
  | case2 i r hlt =>
    rw [List.drop_eq_nil_of_le (by simpa using Nat.le_of_not_lt hlt)]
    simp

theorem encodeUtf8_eq (s : String) : encodeUtf8 s = s.toList.flatMap String.utf8EncodeChar := by
  rw [encodeUtf8, String.toUTF8_eq_toByteArray, ← String.utf8Encode_toList, List.utf8Encode,
    ByteArray.toList, byteArray_toList_loop, List.toList_data_toByteArray]
  simp

theorem toNat_ofNat_of_lt {n : Nat} (h : n < 256) : (UInt8.ofNat n).toNat = n := by
  rw [UInt8.toNat_ofNat']
  exact Nat.mod_eq_of_lt h

/-- A character's code point lies outside the surrogate halves and below `0x110000`. -/
theorem toNat_valid (c : Char) : c.toNat < 0xD800 ∨ (0xDFFF < c.toNat ∧ c.toNat < 0x110000) := by
  have hv := c.valid
  simp only [UInt32.isValidChar, Nat.isValidChar] at hv
  exact hv

theorem firstContinuation_of_ne {lead : Nat} (h0 : lead ≠ 0xE0) (h1 : lead ≠ 0xED)
    (h2 : lead ≠ 0xF0) (h3 : lead ≠ 0xF4) : firstContinuation lead = (0x80, 0xBF) := by
  simp [firstContinuation, h0, h1, h2, h3]

/-- The code point of the character made from a valid code point is that code point. -/
theorem toNat_charOfNat {n : Nat} (h : n.isValidChar) : (Char.ofNat n).toNat = n := by
  simp [Char.ofNat, h, Char.ofNatAux, Char.toNat, UInt32.toNat_ofNatLT]

theorem ofNat_eq_of_toNat {c : Char} {n : Nat} (h : n = c.toNat) : Char.ofNat n = c := by
  subst h
  exact Char.ofNat_toNat c

theorem readChar_utf8EncodeChar (c : Char) (rest : List UInt8) :
    ∃ b bs, String.utf8EncodeChar c = b :: bs ∧ readChar b (bs ++ rest) = .char c c.utf8Size := by
  have hvalid := toNat_valid c
  have hv : c.val.toNat = c.toNat := rfl
  have hlen := String.length_utf8EncodeChar c
  unfold String.utf8EncodeChar at hlen ⊢
  simp only [hv] at hlen ⊢
  -- one case per length of the encoding; the lead byte says which, and each continuation byte
  -- falls in the range the lead byte allows
  split
  next h1 =>
    refine ⟨_, _, rfl, ?_⟩
    simp only [h1, if_true, List.length_cons, List.length_nil] at hlen
    rw [← hlen, readChar, toNat_ofNat_of_lt (by omega), if_pos (by omega), ofNat_eq_of_toNat rfl]
  next h1 =>
    split
    next h2 =>
      refine ⟨_, _, rfl, ?_⟩
      simp only [h1, h2, if_true, if_false, List.length_cons, List.length_nil] at hlen
      have hb1 := toNat_ofNat_of_lt (show c.toNat / 64 % 32 + 0xc0 < 256 by omega)
      have hb2 := toNat_ofNat_of_lt (show c.toNat % 64 + 0x80 < 256 by omega)
      rw [← hlen, readChar, hb1, if_neg (show ¬ c.toNat / 64 % 32 + 0xc0 < 0x80 by omega),
        if_neg (show ¬ c.toNat / 64 % 32 + 0xc0 < 0xC2 by omega),
        if_pos (show c.toNat / 64 % 32 + 0xc0 < 0xE0 by omega)]
      simp only [List.cons_append, List.nil_append, readContinuations,
        firstContinuation_of_ne (show c.toNat / 64 % 32 + 0xc0 ≠ 0xE0 by omega)
          (by omega) (by omega) (by omega), inByteRange, hb2]
      rw [if_pos (by simp; omega), ofNat_eq_of_toNat (c := c) (by omega)]
    next h2 =>
      split
      next h3 =>
        refine ⟨_, _, rfl, ?_⟩
        simp only [h1, h2, h3, if_true, if_false, List.length_cons, List.length_nil] at hlen
        have hb1 := toNat_ofNat_of_lt (show c.toNat / 4096 % 16 + 0xe0 < 256 by omega)
        have hb2 := toNat_ofNat_of_lt (show c.toNat / 64 % 64 + 0x80 < 256 by omega)
        have hb3 := toNat_ofNat_of_lt (show c.toNat % 64 + 0x80 < 256 by omega)
        rw [← hlen, readChar, hb1, if_neg (show ¬ c.toNat / 4096 % 16 + 0xe0 < 0x80 by omega),
          if_neg (show ¬ c.toNat / 4096 % 16 + 0xe0 < 0xC2 by omega),
          if_neg (show ¬ c.toNat / 4096 % 16 + 0xe0 < 0xE0 by omega),
          if_pos (show c.toNat / 4096 % 16 + 0xe0 < 0xF0 by omega)]
        have hfc : (firstContinuation (c.toNat / 4096 % 16 + 0xe0)).1 ≤ c.toNat / 64 % 64 + 0x80 ∧
            c.toNat / 64 % 64 + 0x80 ≤ (firstContinuation (c.toNat / 4096 % 16 + 0xe0)).2 := by
          unfold firstContinuation
          by_cases hE0 : c.toNat / 4096 % 16 = 0
          · simp [hE0]; omega
          · by_cases hED : c.toNat / 4096 % 16 = 13
            · simp [hED]; omega
            · simp [hE0, hED, show c.toNat / 4096 % 16 ≠ 16 by omega,
                show c.toNat / 4096 % 16 ≠ 20 by omega]
              omega
        simp only [List.cons_append, List.nil_append, readContinuations, hb2, hb3, inByteRange,
          BEq.rfl, if_true]
        rw [if_pos (by simpa using hfc), if_pos (by simp; omega), ofNat_eq_of_toNat (c := c) (by omega)]
      next h3 =>
        refine ⟨_, _, rfl, ?_⟩
        simp only [h1, h2, h3, if_false, List.length_cons, List.length_nil] at hlen
        have hb1 := toNat_ofNat_of_lt (show c.toNat / 262144 % 8 + 0xf0 < 256 by omega)
        have hb2 := toNat_ofNat_of_lt (show c.toNat / 4096 % 64 + 0x80 < 256 by omega)
        have hb3 := toNat_ofNat_of_lt (show c.toNat / 64 % 64 + 0x80 < 256 by omega)
        have hb4 := toNat_ofNat_of_lt (show c.toNat % 64 + 0x80 < 256 by omega)
        rw [← hlen, readChar, hb1, if_neg (show ¬ c.toNat / 262144 % 8 + 0xf0 < 0x80 by omega),
          if_neg (show ¬ c.toNat / 262144 % 8 + 0xf0 < 0xC2 by omega),
          if_neg (show ¬ c.toNat / 262144 % 8 + 0xf0 < 0xE0 by omega),
          if_neg (show ¬ c.toNat / 262144 % 8 + 0xf0 < 0xF0 by omega),
          if_pos (show c.toNat / 262144 % 8 + 0xf0 < 0xF5 by omega)]
        have hfc : (firstContinuation (c.toNat / 262144 % 8 + 0xf0)).1 ≤ c.toNat / 4096 % 64 + 0x80 ∧
            c.toNat / 4096 % 64 + 0x80 ≤ (firstContinuation (c.toNat / 262144 % 8 + 0xf0)).2 := by
          unfold firstContinuation
          by_cases hF0 : c.toNat / 262144 % 8 = 0
          · simp [hF0]; omega
          · by_cases hF4 : c.toNat / 262144 % 8 = 4
            · simp [hF4]; omega
            · simp [hF0, hF4]
              omega
        simp only [List.cons_append, List.nil_append, readContinuations, hb2, hb3, hb4,
          inByteRange, BEq.rfl, if_true]
        rw [if_pos (by simpa using hfc), if_pos (by simp; omega), if_pos (by simp; omega),
          ofNat_eq_of_toNat (c := c) (by omega)]

theorem decodeFrom_encoded (cs : List Char) (pos : Nat) (acc : List Char) (fuel : Nat)
    (hfuel : (cs.flatMap String.utf8EncodeChar).length ≤ fuel) :
    decodeFrom pos acc fuel (cs.flatMap String.utf8EncodeChar) =
      .ok (String.ofList (acc.reverse ++ cs)) := by
  induction cs generalizing pos acc fuel with
  | nil => simp [decodeFrom]
  | cons c cs ih =>
    obtain ⟨b, bs, hb, hread⟩ := readChar_utf8EncodeChar c (cs.flatMap String.utf8EncodeChar)
    have hsize := String.length_utf8EncodeChar c
    rw [hb] at hsize
    have hlen : ((c :: cs).flatMap String.utf8EncodeChar).length =
        (bs.length + 1) + (cs.flatMap String.utf8EncodeChar).length := by
      simp only [List.flatMap_cons, hb, List.length_append, List.length_cons]
    obtain ⟨fuel, rfl⟩ : ∃ f, fuel = f + 1 := ⟨fuel - 1, by omega⟩
    rw [List.flatMap_cons, hb, List.cons_append, decodeFrom, hread]
    simp only
    rw [← List.cons_append, List.drop_left' hsize, ih _ _ _ (by omega)]
    simp

theorem lossyFrom_encoded (cs : List Char) (acc : List Char) (fuel : Nat)
    (hfuel : (cs.flatMap String.utf8EncodeChar).length ≤ fuel) :
    lossyFrom acc fuel (cs.flatMap String.utf8EncodeChar) = String.ofList (acc.reverse ++ cs) := by
  induction cs generalizing acc fuel with
  | nil => simp [lossyFrom]
  | cons c cs ih =>
    obtain ⟨b, bs, hb, hread⟩ := readChar_utf8EncodeChar c (cs.flatMap String.utf8EncodeChar)
    have hsize := String.length_utf8EncodeChar c
    rw [hb] at hsize
    have hlen : ((c :: cs).flatMap String.utf8EncodeChar).length =
        (bs.length + 1) + (cs.flatMap String.utf8EncodeChar).length := by
      simp only [List.flatMap_cons, hb, List.length_append, List.length_cons]
    obtain ⟨fuel, rfl⟩ : ∃ f, fuel = f + 1 := ⟨fuel - 1, by omega⟩
    rw [List.flatMap_cons, hb, List.cons_append, lossyFrom, hread]
    simp only
    rw [← List.cons_append, List.drop_left' hsize, ih _ _ (by omega)]
    simp

/-- Text written as UTF-8 reads back as itself. -/
theorem decodeUtf8_encodeUtf8 (s : String) : decodeUtf8 (encodeUtf8 s) = .ok s := by
  rw [decodeUtf8, encodeUtf8_eq, decodeFrom_encoded s.toList 0 [] _ (Nat.le_refl _)]
  simp

theorem decodeLossy_encodeUtf8 (s : String) : decodeLossy (encodeUtf8 s) = s := by
  rw [decodeLossy, encodeUtf8_eq, lossyFrom_encoded s.toList [] _ (Nat.le_refl _)]
  simp

end BuildGate.Text

namespace BuildGate.Raw

theorem bytes_ofBytes (bs : List UInt8) : bytes (ofBytes bs) = bs := by
  simp only [bytes, ofBytes, String.toList_ofList, List.map_map]
  conv => rhs; rw [← List.map_id bs]
  refine List.map_congr_left fun b _ => ?_
  have hb : b.toNat < 256 := b.toNat_lt
  simp only [Function.comp_apply, id, Text.toNat_charOfNat (Or.inl (show b.toNat < 0xD800 by omega))]
  exact UInt8.ofNat_toNat

/-- Text taken in as raw text and given back out is the text it was. -/
@[simp] theorem toText_ofText (s : String) : toText (ofText s) = s := by
  rw [toText, ofText, bytes_ofBytes, Text.decodeLossy_encodeUtf8]

end BuildGate.Raw
