import SozuCtl.Text

/-! UTF-8 as `Config::load_file` meets it. `load_file` reads a file with `read_to_string`,
which takes its bytes as text only when they are UTF-8 (`String.fromUTF8?`);
`load_file_bytes` takes the bytes as they are. The two agree wherever the first succeeds: the
text `String.fromUTF8?` reads is encoded by exactly the bytes it read, and the encoding of
every text reads back as that text. Both go one character at a time through
`String.utf8DecodeChar?` and `String.utf8EncodeChar`, whose masks and marks are worked out
here on the bytes' numbers. -/
namespace SozuCtl

/-! ### Bytes as numbers -/

theorem UInt8.or_toNat (x y : UInt8) : (x ||| y).toNat = x.toNat ||| y.toNat :=
  BitVec.toNat_or ..

theorem UInt32.or_toNat (x y : UInt32) : (x ||| y).toNat = x.toNat ||| y.toNat :=
  BitVec.toNat_or ..

theorem UInt32.shiftLeft_toNat (x n : UInt32) (hn : n.toNat < 32) :
    (x <<< n).toNat = x.toNat * 2 ^ n.toNat % 2 ^ 32 := by
  show (x.toBitVec <<< (UInt32.mod n 32).toBitVec).toNat = _
  rw [BitVec.shiftLeft_eq', BitVec.toNat_shiftLeft, Nat.shiftLeft_eq]
  show x.toNat * 2 ^ (n.toNat % 32) % 2 ^ 32 = _
  rw [Nat.mod_eq_of_lt hn]

theorem UInt32.shiftRight_toNat (x n : UInt32) (hn : n.toNat < 32) :
    (x >>> n).toNat = x.toNat / 2 ^ n.toNat := by
  show (x.toBitVec >>> (UInt32.mod n 32).toBitVec).toNat = _
  rw [BitVec.ushiftRight_eq', BitVec.toNat_ushiftRight, Nat.shiftRight_eq_div_pow]
  show x.toNat / 2 ^ (n.toNat % 32) = _
  rw [Nat.mod_eq_of_lt hn]

theorem UInt32.toUInt8_toNat (x : UInt32) : x.toUInt8.toNat = x.toNat % 256 := rfl

theorem UInt8.toUInt32_toNat (x : UInt8) : x.toUInt32.toNat = x.toNat := rfl

theorem UInt8.toNat_lit (n : Nat) :
    (no_index (OfNat.ofNat n : UInt8)).toNat = (OfNat.ofNat n : Nat) % 256 := rfl

theorem UInt32.toNat_lit (n : Nat) :
    (no_index (OfNat.ofNat n : UInt32)).toNat = (OfNat.ofNat n : Nat) % 2 ^ 32 := rfl

theorem UInt32.le_iff {a b : UInt32} : a ≤ b ↔ a.toNat ≤ b.toNat := by
  rw [UInt32.le_def, BitVec.le_def]; rfl

theorem UInt32.lt_iff {a b : UInt32} : a < b ↔ a.toNat < b.toNat := by
  rw [UInt32.lt_def, BitVec.lt_def]; rfl

/-- Bits that do not overlap: or is sum. -/
theorem or_eq_add {a b : Nat} (k : Nat) (ha : a % 2 ^ k = 0) (hb : b < 2 ^ k) :
    a ||| b = a + b := by
  obtain ⟨q, rfl⟩ := Nat.dvd_of_mod_eq_zero ha
  exact (Nat.mul_add_lt_is_or hb q).symm

theorem and_63 (x : Nat) : x &&& 63 = x % 64 := Nat.and_pow_two_sub_one_eq_mod x 6

theorem and_31 (x : Nat) : x &&& 31 = x % 32 := Nat.and_pow_two_sub_one_eq_mod x 5

theorem and_15 (x : Nat) : x &&& 15 = x % 16 := Nat.and_pow_two_sub_one_eq_mod x 4

theorem and_7 (x : Nat) : x &&& 7 = x % 8 := Nat.and_pow_two_sub_one_eq_mod x 3

/-- The marks `utf8EncodeChar` sets over a byte's payload bits. -/
theorem mark_cont (x : Nat) : x % 64 ||| 128 = 128 + x % 64 := by
  rw [Nat.or_comm]; exact or_eq_add 6 (by norm_num) (Nat.mod_lt _ (by norm_num))

theorem mark_two (x : Nat) : x % 32 ||| 192 = 192 + x % 32 := by
  rw [Nat.or_comm]; exact or_eq_add 5 (by norm_num) (Nat.mod_lt _ (by norm_num))

theorem mark_three (x : Nat) : x % 16 ||| 224 = 224 + x % 16 := by
  rw [Nat.or_comm]; exact or_eq_add 4 (by norm_num) (Nat.mod_lt _ (by norm_num))

theorem mark_four (x : Nat) : x % 8 ||| 240 = 240 + x % 8 := by
  rw [Nat.or_comm]; exact or_eq_add 3 (by norm_num) (Nat.mod_lt _ (by norm_num))

/-- A mark leaves the bits under it as they were. -/
theorem mark_mod {a m : Nat} (x : Nat) (h : a % m = 0) : (a + x % m) % m = x % m := by
  rw [Nat.add_mod, h, Nat.zero_add, Nat.mod_mod, Nat.mod_mod]

set_option maxRecDepth 4000 in
/-- The masks `utf8DecodeChar?` tests a byte with keep its high bits. -/
theorem byte_lead_masks : ∀ x, x < 256 →
    x &&& 0x80 = x / 128 * 128 ∧ x &&& 0xc0 = x / 64 * 64 ∧ x &&& 0xe0 = x / 32 * 32 ∧
      x &&& 0xf0 = x / 16 * 16 ∧ x &&& 0xf8 = x / 8 * 8 := by
  decide

theorem UInt8.and_beq_iff {b m v : UInt8} :
    (b &&& m == v) = true ↔ b.toNat &&& m.toNat = v.toNat := by
  rw [beq_iff_eq, ← UInt8.and_toNat]
  exact ⟨congrArg UInt8.toNat, UInt8.toNat.inj⟩

/-! ### The kinds of bytes -/

theorem lead_one_iff {b : UInt8} : (b &&& 0x80 == 0) = true ↔ b.toNat < 128 := by
  have hb : b.toNat < 256 := b.toNat_lt_size
  have := (byte_lead_masks b.toNat hb).1
  simp only [UInt8.and_beq_iff, UInt8.toNat_lit, Nat.reduceMod]
  omega

theorem lead_two_iff {b : UInt8} :
    (b &&& 0xe0 == 0xc0) = true ↔ 192 ≤ b.toNat ∧ b.toNat < 224 := by
  have hb : b.toNat < 256 := b.toNat_lt_size
  have := (byte_lead_masks b.toNat hb).2.2.1
  simp only [UInt8.and_beq_iff, UInt8.toNat_lit, Nat.reduceMod]
  omega

theorem lead_three_iff {b : UInt8} :
    (b &&& 0xf0 == 0xe0) = true ↔ 224 ≤ b.toNat ∧ b.toNat < 240 := by
  have hb : b.toNat < 256 := b.toNat_lt_size
  have := (byte_lead_masks b.toNat hb).2.2.2.1
  simp only [UInt8.and_beq_iff, UInt8.toNat_lit, Nat.reduceMod]
  omega

theorem lead_four_iff {b : UInt8} :
    (b &&& 0xf8 == 0xf0) = true ↔ 240 ≤ b.toNat ∧ b.toNat < 248 := by
  have hb : b.toNat < 256 := b.toNat_lt_size
  have := (byte_lead_masks b.toNat hb).2.2.2.2
  simp only [UInt8.and_beq_iff, UInt8.toNat_lit, Nat.reduceMod]
  omega

theorem cont_iff {b : UInt8} :
    (b &&& 0xc0 == 0x80) = true ↔ 128 ≤ b.toNat ∧ b.toNat < 192 := by
  have hb : b.toNat < 256 := b.toNat_lt_size
  have := (byte_lead_masks b.toNat hb).2.1
  simp only [UInt8.and_beq_iff, UInt8.toNat_lit, Nat.reduceMod]
  omega

/-! ### Code points -/

/-- The code point `utf8DecodeChar?` assembles from a lead byte of two and its continuation. -/
theorem codePoint_two (b0 b1 : UInt8) :
    ((b0 &&& 0x1f).toUInt32 <<< 6 ||| (b1 &&& 0x3f).toUInt32).toNat =
      b0.toNat % 32 * 64 + b1.toNat % 64 := by
  have := b0.toNat_lt_size
  simp only [UInt32.or_toNat, UInt32.shiftLeft_toNat _ _ (by decide : (6 : UInt32).toNat < 32),
    UInt8.toUInt32_toNat, UInt8.and_toNat, UInt8.toNat_lit, UInt32.toNat_lit, Nat.reduceMod,
    Nat.reducePow, and_63, and_31]
  rw [Nat.mod_eq_of_lt (by omega), or_eq_add 6 (by omega) (by omega)]

theorem codePoint_three (b0 b1 b2 : UInt8) :
    ((b0 &&& 0x0f).toUInt32 <<< 12 ||| (b1 &&& 0x3f).toUInt32 <<< 6 |||
      (b2 &&& 0x3f).toUInt32).toNat =
      b0.toNat % 16 * 4096 + b1.toNat % 64 * 64 + b2.toNat % 64 := by
  simp only [UInt32.or_toNat, UInt32.shiftLeft_toNat _ _ (by decide : (6 : UInt32).toNat < 32),
    UInt32.shiftLeft_toNat _ _ (by decide : (12 : UInt32).toNat < 32),
    UInt8.toUInt32_toNat, UInt8.and_toNat, UInt8.toNat_lit, UInt32.toNat_lit, Nat.reduceMod,
    Nat.reducePow, and_63, and_15]
  rw [Nat.mod_eq_of_lt (a := b0.toNat % 16 * 4096) (by omega),
    Nat.mod_eq_of_lt (a := b1.toNat % 64 * 64) (by omega),
    or_eq_add (a := b0.toNat % 16 * 4096) 12 (by omega) (by omega),
    or_eq_add 6 (by omega) (by omega)]

theorem codePoint_four (b0 b1 b2 b3 : UInt8) :
    ((b0 &&& 0x07).toUInt32 <<< 18 ||| (b1 &&& 0x3f).toUInt32 <<< 12 |||
      (b2 &&& 0x3f).toUInt32 <<< 6 ||| (b3 &&& 0x3f).toUInt32).toNat =
      b0.toNat % 8 * 262144 + b1.toNat % 64 * 4096 + b2.toNat % 64 * 64 + b3.toNat % 64 := by
  simp only [UInt32.or_toNat, UInt32.shiftLeft_toNat _ _ (by decide : (6 : UInt32).toNat < 32),
    UInt32.shiftLeft_toNat _ _ (by decide : (12 : UInt32).toNat < 32),
    UInt32.shiftLeft_toNat _ _ (by decide : (18 : UInt32).toNat < 32),
    UInt8.toUInt32_toNat, UInt8.and_toNat, UInt8.toNat_lit, UInt32.toNat_lit, Nat.reduceMod,
    Nat.reducePow, and_63, and_7]
  rw [Nat.mod_eq_of_lt (a := b0.toNat % 8 * 262144) (by omega),
    Nat.mod_eq_of_lt (a := b1.toNat % 64 * 4096) (by omega),
    Nat.mod_eq_of_lt (a := b2.toNat % 64 * 64) (by omega),
    or_eq_add (a := b0.toNat % 8 * 262144) 18 (by omega) (by omega),
    or_eq_add (b := b2.toNat % 64 * 64) 12 (by omega) (by omega),
    or_eq_add 6 (by omega) (by omega)]

/-- `utf8EncodeChar` on numbers: the code point's bits in one to four bytes, each under its
mark. -/
theorem utf8EncodeChar_toNat (c : Char) :
    (String.utf8EncodeChar c).map UInt8.toNat =
      if c.val.toNat ≤ 127 then [c.val.toNat]
      else if c.val.toNat ≤ 2047 then [192 + c.val.toNat / 64 % 32, 128 + c.val.toNat % 64]
      else if c.val.toNat ≤ 65535 then
        [224 + c.val.toNat / 4096 % 16, 128 + c.val.toNat / 64 % 64, 128 + c.val.toNat % 64]
      else [240 + c.val.toNat / 262144 % 8, 128 + c.val.toNat / 4096 % 64,
        128 + c.val.toNat / 64 % 64, 128 + c.val.toNat % 64] := by
  have hv : c.val.toNat < 2 ^ 32 := c.val.toNat_lt_size
  unfold String.utf8EncodeChar
  simp only [UInt32.le_iff, UInt32.toNat_lit, Nat.reduceMod, Nat.reducePow]
  split_ifs <;>
    simp only [List.map_cons, List.map_nil, UInt8.or_toNat, UInt8.and_toNat,
      UInt32.toUInt8_toNat, UInt8.toNat_lit, Nat.reduceMod, and_63, and_31, and_15, and_7,
      mark_cont, mark_two, mark_three, mark_four,
      UInt32.shiftRight_toNat _ _ (by decide : (6 : UInt32).toNat < 32),
      UInt32.shiftRight_toNat _ _ (by decide : (12 : UInt32).toNat < 32),
      UInt32.shiftRight_toNat _ _ (by decide : (18 : UInt32).toNat < 32),
      UInt32.toNat_lit, Nat.reducePow, List.cons.injEq, and_true] <;>
    omega

theorem utf8EncodeChar_eq_of_toNat {c : Char} {bs : List UInt8}
    (h : (String.utf8EncodeChar c).map UInt8.toNat = bs.map UInt8.toNat) :
    String.utf8EncodeChar c = bs :=
  List.map_injective_iff.mpr (fun _ _ => UInt8.toNat.inj) h

/-! ### One character -/

theorem getElem?_byteArray (a : ByteArray) (i : Nat) : a[i]? = a.data.toList[i]? := by
  show decidableGetElem? a i = _
  unfold decidableGetElem?
  split_ifs with h
  · rw [List.getElem?_eq_getElem (by simpa [ByteArray.size] using h)]
    rfl
  · rw [List.getElem?_eq_none (by simpa [ByteArray.size] using h)]

theorem drop_eq_cons {l : List UInt8} {i : Nat} {b : UInt8} (h : l[i]? = some b) :
    l.drop i = b :: l.drop (i + 1) := by
  obtain ⟨hi, rfl⟩ := List.getElem?_eq_some_iff.mp h
  exact List.drop_eq_getElem_cons hi

theorem option_some_bind {α β : Type} (x : α) (f : α → Option β) :
    (some x >>= f) = f x := rfl

theorem guard_bind_some {p : Prop} [Decidable p] {α : Type} {f : Unit → Option α} {x : α}
    (h : (guard p >>= f) = some x) : p ∧ f () = some x := by
  unfold guard at h
  split_ifs at h with hp
  · exact ⟨hp, h⟩
  · cases h

theorem guard_true_bind {p : Prop} [Decidable p] (hp : p) {α : Type} (f : Unit → Option α) :
    (guard p >>= f) = f () := by
  simp [guard, hp]

theorem drop_of_encode {l : List UInt8} {i : Nat} {c : Char} {e : List UInt8}
    (henc : String.utf8EncodeChar c = e) (hl : l.drop i = e ++ l.drop (i + e.length)) :
    l.drop i = String.utf8EncodeChar c ++ l.drop (i + c.utf8Size) := by
  rw [← String.length_utf8EncodeChar, henc]
  exact hl

/-! ### One character's bytes -/

theorem encode_one {c : Char} {b0 : UInt8} (hc : c.val.toNat = b0.toNat) (h0 : b0.toNat < 128) :
    String.utf8EncodeChar c = [b0] := by
  apply utf8EncodeChar_eq_of_toNat
  rw [utf8EncodeChar_toNat, if_pos (by omega), hc]
  rfl

theorem encode_two {c : Char} {b0 b1 : UInt8}
    (hc : c.val.toNat = b0.toNat % 32 * 64 + b1.toNat % 64)
    (h0 : 192 ≤ b0.toNat ∧ b0.toNat < 224) (h1 : 128 ≤ b1.toNat ∧ b1.toNat < 192)
    (hlow : 128 ≤ c.val.toNat) : String.utf8EncodeChar c = [b0, b1] := by
  apply utf8EncodeChar_eq_of_toNat
  rw [utf8EncodeChar_toNat, if_neg (by omega), if_pos (by omega)]
  simp only [List.map_cons, List.map_nil, List.cons.injEq, and_true]
  omega

theorem encode_three {c : Char} {b0 b1 b2 : UInt8}
    (hc : c.val.toNat = b0.toNat % 16 * 4096 + b1.toNat % 64 * 64 + b2.toNat % 64)
    (h0 : 224 ≤ b0.toNat ∧ b0.toNat < 240) (h1 : 128 ≤ b1.toNat ∧ b1.toNat < 192)
    (h2 : 128 ≤ b2.toNat ∧ b2.toNat < 192) (hlow : 2048 ≤ c.val.toNat) :
    String.utf8EncodeChar c = [b0, b1, b2] := by
  apply utf8EncodeChar_eq_of_toNat
  rw [utf8EncodeChar_toNat, if_neg (by omega), if_neg (by omega), if_pos (by omega)]
  simp only [List.map_cons, List.map_nil, List.cons.injEq, and_true]
  omega

theorem encode_four {c : Char} {b0 b1 b2 b3 : UInt8}
    (hc : c.val.toNat =
      b0.toNat % 8 * 262144 + b1.toNat % 64 * 4096 + b2.toNat % 64 * 64 + b3.toNat % 64)
    (h0 : 240 ≤ b0.toNat ∧ b0.toNat < 248) (h1 : 128 ≤ b1.toNat ∧ b1.toNat < 192)
    (h2 : 128 ≤ b2.toNat ∧ b2.toNat < 192) (h3 : 128 ≤ b3.toNat ∧ b3.toNat < 192)
    (hlow : 65536 ≤ c.val.toNat) (hhigh : c.val.toNat < 1114112) :
    String.utf8EncodeChar c = [b0, b1, b2, b3] := by
  apply utf8EncodeChar_eq_of_toNat
  rw [utf8EncodeChar_toNat, if_neg (by omega), if_neg (by omega), if_neg (by omega)]
  simp only [List.map_cons, List.map_nil, List.cons.injEq, and_true]
  omega

/-- What `utf8DecodeChar?` reads at `i` is the encoding of the character it returns. -/
theorem utf8DecodeChar?_eq_some {a : ByteArray} {i : Nat} {c : Char}
    (h : String.utf8DecodeChar? a i = some c) :
    a.data.toList.drop i = String.utf8EncodeChar c ++ a.data.toList.drop (i + c.utf8Size) := by
  unfold String.utf8DecodeChar? at h
  obtain ⟨b0, hb0, h⟩ := Option.bind_eq_some.mp h
  rw [getElem?_byteArray] at hb0
  by_cases h1 : (b0 &&& 0x80 == 0) = true
  · -- one byte
    rw [if_pos h1] at h
    cases h
    exact drop_of_encode (encode_one rfl (lead_one_iff.mp h1)) (drop_eq_cons hb0)
  rw [if_neg h1] at h
  by_cases h2 : (b0 &&& 0xe0 == 0xc0) = true
  · -- two bytes
    rw [if_pos h2] at h
    obtain ⟨b1, hb1, h⟩ := Option.bind_eq_some.mp h
    rw [getElem?_byteArray] at hb1
    obtain ⟨hc1, h⟩ := guard_bind_some h
    obtain ⟨hlow, h⟩ := guard_bind_some h
    split at h
    next =>
      cases h
      simp only [UInt32.le_iff, UInt32.toNat_lit, codePoint_two] at hlow
      exact drop_of_encode
        (encode_two (codePoint_two b0 b1) (lead_two_iff.mp h2) (cont_iff.mp hc1)
          (by rw [codePoint_two]; omega))
        (by rw [drop_eq_cons hb0, drop_eq_cons hb1]; rfl)
    next => cases h
  rw [if_neg h2] at h
  by_cases h3 : (b0 &&& 0xf0 == 0xe0) = true
  · -- three bytes
    rw [if_pos h3] at h
    obtain ⟨b1, hb1, h⟩ := Option.bind_eq_some.mp h
    obtain ⟨b2, hb2, h⟩ := Option.bind_eq_some.mp h
    rw [getElem?_byteArray] at hb1 hb2
    obtain ⟨hc, h⟩ := guard_bind_some h
    obtain ⟨hlow, h⟩ := guard_bind_some h
    rw [Bool.and_eq_true] at hc
    split at h
    next =>
      cases h
      simp only [UInt32.le_iff, UInt32.toNat_lit, codePoint_three] at hlow
      exact drop_of_encode
        (encode_three (codePoint_three b0 b1 b2) (lead_three_iff.mp h3) (cont_iff.mp hc.1)
          (cont_iff.mp hc.2) (by rw [codePoint_three]; omega))
        (by rw [drop_eq_cons hb0, drop_eq_cons hb1, drop_eq_cons hb2]; rfl)
    next => cases h
  rw [if_neg h3] at h
  by_cases h4 : (b0 &&& 0xf8 == 0xf0) = true
  · -- four bytes
    rw [if_pos h4] at h
    obtain ⟨b1, hb1, h⟩ := Option.bind_eq_some.mp h
    obtain ⟨b2, hb2, h⟩ := Option.bind_eq_some.mp h
    obtain ⟨b3, hb3, h⟩ := Option.bind_eq_some.mp h
    rw [getElem?_byteArray] at hb1 hb2 hb3
    obtain ⟨hc, h⟩ := guard_bind_some h
    simp only [Bool.and_eq_true] at hc
    dsimp only at h
    split at h
    next hr =>
      cases h
      simp only [UInt32.le_iff, UInt32.lt_iff, UInt32.toNat_lit, codePoint_four] at hr
      exact drop_of_encode
        (encode_four (codePoint_four b0 b1 b2 b3) (lead_four_iff.mp h4) (cont_iff.mp hc.1.1)
          (cont_iff.mp hc.1.2) (cont_iff.mp hc.2) (by rw [codePoint_four]; omega)
          (by rw [codePoint_four]; omega))
        (by rw [drop_eq_cons hb0, drop_eq_cons hb1, drop_eq_cons hb2, drop_eq_cons hb3]; rfl)
    next => cases h
  rw [if_neg h4] at h
  cases h

theorem decode_one {a : ByteArray} {i : Nat} {c : Char} {b0 : UInt8} (hb0 : a[i]? = some b0)
    (hc : c.val.toNat = b0.toNat) (h0 : b0.toNat < 128) :
    String.utf8DecodeChar? a i = some c := by
  unfold String.utf8DecodeChar?
  rw [hb0, option_some_bind, if_pos (lead_one_iff.mpr h0)]
  exact congrArg some (Char.ext (UInt32.toNat.inj hc.symm))

theorem decode_two {a : ByteArray} {i : Nat} {c : Char} {b0 b1 : UInt8}
    (hb0 : a[i]? = some b0) (hb1 : a[i + 1]? = some b1)
    (hc : c.val.toNat = b0.toNat % 32 * 64 + b1.toNat % 64)
    (h0 : 192 ≤ b0.toNat ∧ b0.toNat < 224) (h1 : 128 ≤ b1.toNat ∧ b1.toNat < 192)
    (hlow : 128 ≤ c.val.toNat) : String.utf8DecodeChar? a i = some c := by
  have hr := codePoint_two b0 b1
  unfold String.utf8DecodeChar?
  rw [hb0, option_some_bind, if_neg (mt lead_one_iff.mp (by omega)),
    if_pos (lead_two_iff.mpr h0), hb1, option_some_bind, guard_true_bind (cont_iff.mpr h1)]
  dsimp only
  rewrite [guard_true_bind (by rw [UInt32.le_iff, hr, UInt32.toNat_lit]; omega),
    dif_pos (by rw [UInt32.lt_iff, hr, UInt32.toNat_lit]; omega)]
  exact congrArg some (Char.ext (UInt32.toNat.inj (hr.trans hc.symm)))

theorem decode_three {a : ByteArray} {i : Nat} {c : Char} {b0 b1 b2 : UInt8}
    (hb0 : a[i]? = some b0) (hb1 : a[i + 1]? = some b1) (hb2 : a[i + 2]? = some b2)
    (hc : c.val.toNat = b0.toNat % 16 * 4096 + b1.toNat % 64 * 64 + b2.toNat % 64)
    (h0 : 224 ≤ b0.toNat ∧ b0.toNat < 240) (h1 : 128 ≤ b1.toNat ∧ b1.toNat < 192)
    (h2 : 128 ≤ b2.toNat ∧ b2.toNat < 192) (hlow : 2048 ≤ c.val.toNat)
    (hsur : c.val.toNat < 55296 ∨ 57343 < c.val.toNat) :
    String.utf8DecodeChar? a i = some c := by
  have hr := codePoint_three b0 b1 b2
  unfold String.utf8DecodeChar?
  rw [hb0, option_some_bind, if_neg (mt lead_one_iff.mp (by omega)),
    if_neg (mt lead_two_iff.mp (by omega)), if_pos (lead_three_iff.mpr h0), hb1,
    option_some_bind, hb2, option_some_bind,
    guard_true_bind (by rw [Bool.and_eq_true]; exact ⟨cont_iff.mpr h1, cont_iff.mpr h2⟩)]
  dsimp only
  rewrite [guard_true_bind (by rw [UInt32.le_iff, hr, UInt32.toNat_lit]; omega),
    dif_pos (by simp only [UInt32.lt_iff, hr, UInt32.toNat_lit]; omega)]
  exact congrArg some (Char.ext (UInt32.toNat.inj (hr.trans hc.symm)))

theorem decode_four {a : ByteArray} {i : Nat} {c : Char} {b0 b1 b2 b3 : UInt8}
    (hb0 : a[i]? = some b0) (hb1 : a[i + 1]? = some b1) (hb2 : a[i + 2]? = some b2)
    (hb3 : a[i + 3]? = some b3)
    (hc : c.val.toNat =
      b0.toNat % 8 * 262144 + b1.toNat % 64 * 4096 + b2.toNat % 64 * 64 + b3.toNat % 64)
    (h0 : 240 ≤ b0.toNat ∧ b0.toNat < 248) (h1 : 128 ≤ b1.toNat ∧ b1.toNat < 192)
    (h2 : 128 ≤ b2.toNat ∧ b2.toNat < 192) (h3 : 128 ≤ b3.toNat ∧ b3.toNat < 192)
    (hlow : 65536 ≤ c.val.toNat) (hhigh : c.val.toNat < 1114112) :
    String.utf8DecodeChar? a i = some c := by
  have hr := codePoint_four b0 b1 b2 b3
  unfold String.utf8DecodeChar?
  rw [hb0, option_some_bind, if_neg (mt lead_one_iff.mp (by omega)),
    if_neg (mt lead_two_iff.mp (by omega)), if_neg (mt lead_three_iff.mp (by omega)),
    if_pos (lead_four_iff.mpr h0), hb1, option_some_bind, hb2, option_some_bind, hb3,
    option_some_bind, guard_true_bind (by
      rw [Bool.and_eq_true, Bool.and_eq_true]
      exact ⟨⟨cont_iff.mpr h1, cont_iff.mpr h2⟩, cont_iff.mpr h3⟩)]
  dsimp only
  rewrite [dif_pos (by simp only [UInt32.le_iff, UInt32.lt_iff, hr, UInt32.toNat_lit]; omega)]
  exact congrArg some (Char.ext (UInt32.toNat.inj (hr.trans hc.symm)))

/-- The bytes `utf8EncodeChar` writes for a code point carry its digits in base 64. -/
theorem digits_two {v : Nat} (hv : v < 2048) :
    v = (192 + v / 64 % 32) % 32 * 64 + (128 + v % 64) % 64 := by
  simp (disch := decide) only [mark_mod]
  omega

theorem digits_three {v : Nat} (hv : v < 65536) :
    v = (224 + v / 4096 % 16) % 16 * 4096 + (128 + v / 64 % 64) % 64 * 64 +
      (128 + v % 64) % 64 := by
  simp (disch := decide) only [mark_mod]
  omega

theorem digits_four {v : Nat} (hv : v < 1114112) :
    v = (240 + v / 262144 % 8) % 8 * 262144 + (128 + v / 4096 % 64) % 64 * 4096 +
      (128 + v / 64 % 64) % 64 * 64 + (128 + v % 64) % 64 := by
  simp (disch := decide) only [mark_mod]
  rw [Nat.mod_eq_of_lt (a := v / 262144) (by omega)]
  omega

theorem getElem?_of_append {a : ByteArray} {pre e rest : List UInt8}
    (ha : a.data.toList = pre ++ e ++ rest) {k : Nat} {b : UInt8} (hk : e[k]? = some b) :
    a[pre.length + k]? = some b := by
  have hlt := (List.getElem?_eq_some_iff.mp hk).1
  rw [getElem?_byteArray, ha, List.append_assoc, List.getElem?_append_right (by omega),
    Nat.add_sub_cancel_left, List.getElem?_append_left hlt, hk]

theorem map_toNat_eq_cons {l : List UInt8} {n : Nat} {ns : List Nat}
    (h : l.map UInt8.toNat = n :: ns) :
    ∃ b t, l = b :: t ∧ b.toNat = n ∧ t.map UInt8.toNat = ns := by
  cases l with
  | nil => cases h
  | cons b t =>
    simp only [List.map_cons, List.cons.injEq] at h
    exact ⟨b, t, rfl, h⟩

/-- `utf8DecodeChar?` reads back the bytes `utf8EncodeChar` writes. -/
theorem utf8DecodeChar?_encode {a : ByteArray} {pre rest : List UInt8} {c : Char}
    (ha : a.data.toList = pre ++ String.utf8EncodeChar c ++ rest) :
    String.utf8DecodeChar? a pre.length = some c := by
  have henc := utf8EncodeChar_toNat c
  have hv : c.val.toNat.isValidChar := c.valid
  unfold Nat.isValidChar at hv
  split_ifs at henc with h1 h2 h3
  · -- one byte
    obtain ⟨b0, t, he, h0, ht⟩ := map_toNat_eq_cons henc
    obtain rfl := List.map_eq_nil_iff.mp ht
    rw [he] at ha
    exact decode_one (getElem?_of_append ha (k := 0) (b := b0) rfl) h0.symm (by omega)
  · -- two bytes
    obtain ⟨b0, t, he, h0, ht⟩ := map_toNat_eq_cons henc
    obtain ⟨b1, t, rfl, h1', ht⟩ := map_toNat_eq_cons ht
    obtain rfl := List.map_eq_nil_iff.mp ht
    rw [he] at ha
    exact decode_two (getElem?_of_append ha (k := 0) (b := b0) rfl)
      (getElem?_of_append ha (k := 1) (b := b1) rfl) (by rw [h0, h1']; exact digits_two (by omega))
      (by omega) (by omega) (by omega)
  · -- three bytes
    obtain ⟨b0, t, he, h0, ht⟩ := map_toNat_eq_cons henc
    obtain ⟨b1, t, rfl, h1', ht⟩ := map_toNat_eq_cons ht
    obtain ⟨b2, t, rfl, h2', ht⟩ := map_toNat_eq_cons ht
    obtain rfl := List.map_eq_nil_iff.mp ht
    rw [he] at ha
    exact decode_three (getElem?_of_append ha (k := 0) (b := b0) rfl)
      (getElem?_of_append ha (k := 1) (b := b1) rfl) (getElem?_of_append ha (k := 2) (b := b2) rfl)
      (by rw [h0, h1', h2']; exact digits_three (by omega)) (by omega) (by omega) (by omega)
      (by omega) (hv.imp id (·.1))
  · -- four bytes
    obtain ⟨b0, t, he, h0, ht⟩ := map_toNat_eq_cons henc
    obtain ⟨b1, t, rfl, h1', ht⟩ := map_toNat_eq_cons ht
    obtain ⟨b2, t, rfl, h2', ht⟩ := map_toNat_eq_cons ht
    obtain ⟨b3, t, rfl, h3', ht⟩ := map_toNat_eq_cons ht
    obtain rfl := List.map_eq_nil_iff.mp ht
    rw [he] at ha
    have hhigh := (hv.resolve_left (by omega)).2
    exact decode_four (getElem?_of_append ha (k := 0) (b := b0) rfl)
      (getElem?_of_append ha (k := 1) (b := b1) rfl) (getElem?_of_append ha (k := 2) (b := b2) rfl)
      (getElem?_of_append ha (k := 3) (b := b3) rfl)
      (by rw [h0, h1', h2', h3']; exact digits_four hhigh) (by omega) (by omega) (by omega)
      (by omega) (by omega) hhigh

/-! ### The decoding loop -/

theorem asBytes_push (s : String) (c : Char) :
    asBytes (s.push c) = asBytes s ++ String.utf8EncodeChar c := by
  simp [asBytes, String.toUTF8, String.push]

/-- The loop of `String.fromUTF8`, run where validation succeeds, writes back the bytes it has
still to read. -/
theorem fromUTF8_loop (a : ByteArray) (i : Nat) :
    ∀ acc, String.validateUTF8.loop a i = some () →
      asBytes (String.fromUTF8.loop a i acc) = asBytes acc ++ a.data.toList.drop i := by
  induction i using String.validateUTF8.loop.induct a with
  | case1 i hi ih =>
    intro acc hv
    rw [String.validateUTF8.loop, if_pos hi] at hv
    obtain ⟨c, hc, hv⟩ := Option.bind_eq_some.mp hv
    rw [String.fromUTF8.loop, if_pos hi]
    dsimp only
    rw [hc, Option.getD_some, ih c _ hv, asBytes_push, List.append_assoc,
      ← utf8DecodeChar?_eq_some hc]
  | case2 i hi =>
    intro acc _
    rw [String.fromUTF8.loop, if_neg hi,
      List.drop_eq_nil_of_le (by simpa [ByteArray.size] using hi), List.append_nil]

/-- Both loops over the encoding of `cs`, from where it starts: validation succeeds, and the
decoded text is `cs`. -/
theorem fromUTF8_loop_encode (a : ByteArray) (cs : List Char) :
    ∀ (pre : List UInt8) (acc : String),
      a.data.toList = pre ++ cs.flatMap String.utf8EncodeChar →
      String.validateUTF8.loop a pre.length = some () ∧
        String.fromUTF8.loop a pre.length acc = ⟨acc.data ++ cs⟩ := by
  induction cs with
  | nil =>
    intro pre acc ha
    have hi : ¬pre.length < a.size := by simp [ByteArray.size, ← Array.length_toList, ha]
    rw [String.validateUTF8.loop, String.fromUTF8.loop, if_neg hi, if_neg hi, List.append_nil]
    exact ⟨rfl, rfl⟩
  | cons c cs ih =>
    intro pre acc ha
    have hc := utf8DecodeChar?_encode (show a.data.toList =
      pre ++ String.utf8EncodeChar c ++ cs.flatMap String.utf8EncodeChar by
        rw [ha, List.flatMap_cons, List.append_assoc])
    have hi : pre.length < a.size := by
      have := String.length_utf8EncodeChar c
      have := c.utf8Size_pos
      simp only [ByteArray.size, ← Array.length_toList, ha, List.flatMap_cons,
        List.length_append]
      omega
    have hnext : pre.length + c.utf8Size = (pre ++ String.utf8EncodeChar c).length := by
      rw [List.length_append, String.length_utf8EncodeChar]
    obtain ⟨hv, hd⟩ := ih (pre ++ String.utf8EncodeChar c) (acc.push c)
      (by rw [ha, List.flatMap_cons, List.append_assoc])
    rw [String.validateUTF8.loop, String.fromUTF8.loop, if_pos hi, if_pos hi, hc]
    refine ⟨by rw [option_some_bind, hnext, hv], ?_⟩
    dsimp only
    rw [Option.getD_some, hnext, hd]
    simp [String.push]

/-- `String.fromUTF8?` accepts only what it writes back: the text it reads is encoded by
exactly the bytes it read. -/
theorem asBytes_fromUTF8? {bytes : List UInt8} {s : String}
    (h : String.fromUTF8? ⟨bytes.toArray⟩ = some s) : asBytes s = bytes := by
  unfold String.fromUTF8? at h
  split at h
  next hv =>
    cases h
    have h0 : String.validateUTF8.loop ⟨bytes.toArray⟩ 0 = some () := by
      unfold String.validateUTF8 at hv
      exact Option.isSome_iff_exists.mp hv |>.elim fun _ h => h
    exact (fromUTF8_loop _ 0 "" h0).trans (by simp [asBytes]; rfl)
  next => cases h

/-- Every text's encoding reads back as the text. -/
theorem fromUTF8?_asBytes (s : String) : String.fromUTF8? ⟨(asBytes s).toArray⟩ = some s := by
  obtain ⟨hv, hd⟩ :=
    fromUTF8_loop_encode ⟨(asBytes s).toArray⟩ s.data [] "" (by simp [asBytes]; rfl)
  simp only [List.length_nil] at hv hd
  have hvalid : String.validateUTF8 ⟨(asBytes s).toArray⟩ = true := by
    unfold String.validateUTF8; rw [hv]; rfl
  unfold String.fromUTF8?
  rw [dif_pos hvalid]
  exact congrArg some hd

end SozuCtl
