import SozuCtl.Text

/-! The `hex` crate's codec over bytes: `hex::decode` reads two digits to a byte, high nibble
first, after rejecting an odd length; `hex::encode` and `hex::encode_upper` write each byte as
two digits from a sixteen-letter table. -/
namespace SozuCtl

/-- `FromHexError`. -/
inductive FromHexError
  | invalidHexCharacter (c : Char) (index : Nat)
  | oddLength
  deriving DecidableEq

/-- `val`: the value of the hex digit `c` found at `idx`. -/
def hexVal (c : UInt8) (idx : Nat) : Except FromHexError UInt8 :=
  if 65 ≤ c.toNat ∧ c.toNat ≤ 70 then .ok (c.toNat - 65 + 10).toUInt8
  else if 97 ≤ c.toNat ∧ c.toNat ≤ 102 then .ok (c.toNat - 97 + 10).toUInt8
  else if 48 ≤ c.toNat ∧ c.toNat ≤ 57 then .ok (c.toNat - 48).toUInt8
  else .error (.invalidHexCharacter (Char.ofNat c.toNat) idx)

/-- The pairs of `FromHex for Vec<u8>`: pair `i` holds the digits at `2 i` and `2 i + 1`. -/
def decodePairs : Nat → List UInt8 → Except FromHexError (List UInt8)
  | _, [] => .ok []
  | _, [_] => .error .oddLength
  | i, hi :: lo :: rest => do
    let h ← hexVal hi (2 * i)
    let l ← hexVal lo (2 * i + 1)
    let tail ← decodePairs (i + 1) rest
    pure ((h <<< 4 ||| l) :: tail)

/-- `hex::decode`. -/
def hexDecode (data : List UInt8) : Except FromHexError (List UInt8) :=
  if data.length % 2 ≠ 0 then .error .oddLength else decodePairs 0 data

/-- `HEX_CHARS_LOWER`. -/
def hexCharsLower : List Char := "0123456789abcdef".toList

/-- `HEX_CHARS_UPPER`. -/
def hexCharsUpper : List Char := "0123456789ABCDEF".toList

/-- `BytesToHexChars`: each byte as the table's letters for its high, then its low nibble. -/
def encodeChars (table : List Char) (data : List UInt8) : List Char :=
  data.flatMap fun b => [table.getD (b >>> 4).toNat '0', table.getD (b &&& 0xf).toNat '0']

/-- `hex::encode`. -/
def hexEncode (data : List UInt8) : String := ⟨encodeChars hexCharsLower data⟩

/-- `hex::encode_upper`. -/
def hexEncodeUpper (data : List UInt8) : String := ⟨encodeChars hexCharsUpper data⟩

/-! ### Digits and nibbles -/

/-- `char::to_digit(16)` in closed form, its cases in the order `val` tests them. -/
theorem toDigit_sixteen (n : Nat) : toDigit 16 n =
    if 65 ≤ n ∧ n ≤ 70 then some (n - 55) else if 97 ≤ n ∧ n ≤ 102 then some (n - 87)
    else if 48 ≤ n ∧ n ≤ 57 then some (n - 48) else none := by
  unfold toDigit digitValue
  split_ifs <;> (try simp) <;> omega

/-- `val` accepts exactly the digits of radix 16, with their value. -/
theorem hexVal_eq (c : UInt8) (idx : Nat) :
    hexVal c idx = match toDigit 16 c.toNat with
      | some d => .ok d.toUInt8
      | none => .error (.invalidHexCharacter (Char.ofNat c.toNat) idx) := by
  rw [hexVal, toDigit_sixteen]
  split_ifs <;> first | (congr 2; omega) | rfl

theorem toDigit_hex {n d : Nat} (h : toDigit 16 n = some d) :
    (48 ≤ n ∧ n ≤ 57 ∧ d = n - 48) ∨ (97 ≤ n ∧ n ≤ 102 ∧ d = n - 87) ∨
      (65 ≤ n ∧ n ≤ 70 ∧ d = n - 55) := by
  rw [toDigit_sixteen] at h
  split_ifs at h <;> simp only [Option.some.injEq, reduceCtorEq] at h <;> omega

theorem toUInt8_toNat {n : Nat} (hn : n < 256) : n.toUInt8.toNat = n :=
  UInt8.toNat_ofNat_of_lt hn

theorem nibbles_toNat {h l : UInt8} (hh : h.toNat < 16) (hl : l.toNat < 16) :
    (h <<< 4 ||| l).toNat = 16 * h.toNat + l.toNat := by
  have hs : (h <<< 4).toNat = 16 * h.toNat := by
    show (h.toBitVec <<< (UInt8.mod 4 8).toBitVec).toNat = _
    rw [BitVec.shiftLeft_eq', BitVec.toNat_shiftLeft]
    show h.toNat <<< 4 % 2 ^ 8 = _
    rw [Nat.shiftLeft_eq, Nat.mod_eq_of_lt (by omega)]
    omega
  show (h <<< 4).toBitVec.toNat ||| l.toBitVec.toNat = _
  rw [show (h <<< 4).toBitVec.toNat = 16 * h.toNat from hs]
  exact (Nat.mul_add_lt_is_or (i := 4) (by simpa using hl) _).symm

theorem high_nibble (b : UInt8) : (b >>> 4).toNat = b.toNat / 16 := by
  show (b.toBitVec >>> (UInt8.mod 4 8).toBitVec).toNat = _
  rw [BitVec.ushiftRight_eq', BitVec.toNat_ushiftRight]
  exact Nat.shiftRight_eq_div_pow _ 4

theorem low_nibble (b : UInt8) : (b &&& 0xf).toNat = b.toNat % 16 := by
  rw [UInt8.and_toNat]
  exact Nat.and_pow_two_sub_one_eq_mod _ 4

/-- The byte two digits decode to, written back with a table, gives the table's letters. -/
theorem encodeChars_nibbles (table : List Char) {h l : Nat} (hh : h < 16) (hl : l < 16)
    (v : List UInt8) :
    encodeChars table ((h.toUInt8 <<< 4 ||| l.toUInt8) :: v) =
      table.getD h '0' :: table.getD l '0' :: encodeChars table v := by
  have hv := nibbles_toNat (h := h.toUInt8) (l := l.toUInt8)
    (by rw [toUInt8_toNat (by omega)]; exact hh) (by rw [toUInt8_toNat (by omega)]; exact hl)
  rw [toUInt8_toNat (by omega), toUInt8_toNat (by omega)] at hv
  simp only [encodeChars, List.flatMap_cons, high_nibble, low_nibble, hv, List.cons_append,
    List.nil_append]
  congr 3 <;> omega

theorem encodeChars_length (table : List Char) (v : List UInt8) :
    (encodeChars table v).length = 2 * v.length := by
  induction v with
  | nil => rfl
  | cons b v ih =>
    show ([_, _] ++ encodeChars table v).length = _
    simp only [List.length_append, ih, List.length_cons, List.length_nil]
    omega

theorem nibbles_self (b : UInt8) : (b.toNat / 16).toUInt8 <<< 4 ||| (b.toNat % 16).toUInt8 = b := by
  have hb : b.toNat < 256 := b.toNat_lt_size
  apply UInt8.toNat.inj
  rw [nibbles_toNat (by rw [toUInt8_toNat (by omega)]; omega)
    (by rw [toUInt8_toNat (by omega)]; omega), toUInt8_toNat (by omega), toUInt8_toNat (by omega)]
  omega

/-- A table of sixteen ASCII letters, each a digit of its own index. -/
def HexTable (table : List Char) : Prop :=
  ∀ d < 16, (table.getD d '0').toNat < 128 ∧ toDigit 16 (byte (table.getD d '0')).toNat = some d

instance : DecidablePred HexTable := fun _ => inferInstanceAs (Decidable (∀ d < 16, _))

theorem hexCharsLower_table : HexTable hexCharsLower := by decide

theorem hexCharsUpper_table : HexTable hexCharsUpper := by decide

/-- The lowercase letter of a digit's value is the digit in lower case. -/
theorem hexCharsLower_toDigit {c : Char} {d : Nat} (hc : c.toNat < 128)
    (h : toDigit 16 (byte c).toNat = some d) : hexCharsLower.getD d '0' = c.toLower := by
  rw [byte_toNat (by omega)] at h
  rw [← Char.ofNat_toNat c]
  generalize c.toNat = n at *
  rcases toDigit_hex h with ⟨h1, h2, rfl⟩ | ⟨h1, h2, rfl⟩ | ⟨h1, h2, rfl⟩ <;>
    interval_cases n <;> rfl

/-! ### `hex::decode` over pairs -/

/-- Two digits decode to one byte, ahead of what the rest decodes to. -/
theorem decodePairs_digits {i h l : Nat} {hi lo : UInt8} (rest : List UInt8)
    (hh : toDigit 16 hi.toNat = some h) (hl : toDigit 16 lo.toNat = some l) :
    decodePairs i (hi :: lo :: rest) =
      (decodePairs (i + 1) rest).map ((h.toUInt8 <<< 4 ||| l.toUInt8) :: ·) := by
  rw [decodePairs, hexVal_eq, hexVal_eq, hh, hl]
  cases decodePairs (i + 1) rest <;> rfl

/-- A pair decodes only when both of its bytes are digits. -/
theorem decodePairs_cons_ok {i : Nat} {hi lo : UInt8} {rest v : List UInt8}
    (hv : decodePairs i (hi :: lo :: rest) = .ok v) :
    ∃ h l, toDigit 16 hi.toNat = some h ∧ toDigit 16 lo.toNat = some l := by
  rw [decodePairs, hexVal_eq, hexVal_eq] at hv
  revert hv
  cases toDigit 16 hi.toNat <;> cases toDigit 16 lo.toNat <;> intro hv <;>
    first | exact ⟨_, _, rfl, rfl⟩ | cases hv

theorem except_map_ok {α β ε : Type} {f : α → β} {x : Except ε α} {b : β}
    (h : x.map f = .ok b) : ∃ a, x = .ok a ∧ f a = b := by
  cases x with
  | error e => cases h
  | ok a => exact ⟨a, rfl, Except.ok.inj h⟩

theorem decodePairs_ok_iff : ∀ (i : Nat) (bs : List UInt8), bs.length % 2 = 0 →
    ((∃ v, decodePairs i bs = .ok v) ↔ ∀ b ∈ bs, (toDigit 16 b.toNat).isSome)
  | _, [], _ => by simp [decodePairs]
  | _, [_], h => absurd h (by simp)
  | i, hi :: lo :: rest, hlen => by
    have ih := decodePairs_ok_iff (i + 1) rest (by simp only [List.length_cons] at hlen; omega)
    constructor
    · rintro ⟨v, hv⟩
      obtain ⟨h, l, hh, hl⟩ := decodePairs_cons_ok hv
      rw [decodePairs_digits rest hh hl] at hv
      obtain ⟨t, ht, -⟩ := except_map_ok hv
      simp only [List.mem_cons, forall_eq_or_imp, hh, hl, Option.isSome_some, true_and]
      exact ih.mp ⟨t, ht⟩
    · intro hall
      obtain ⟨h, hh⟩ := Option.isSome_iff_exists.mp (hall hi (by simp))
      obtain ⟨l, hl⟩ := Option.isSome_iff_exists.mp (hall lo (by simp))
      obtain ⟨t, ht⟩ := ih.mpr fun b hb => hall b (by simp [hb])
      exact ⟨_, by rw [decodePairs_digits rest hh hl, ht]; rfl⟩

theorem except_map_error {α β ε : Type} {f : α → β} {x : Except ε α} {e : ε}
    (h : x.map f = .error e) : x = .error e := by
  cases x with
  | error e' => cases h; rfl
  | ok a => cases h

/-- Decoding pairs fails on the first byte that is not a digit, naming it and its index. -/
theorem decodePairs_error : ∀ {i : Nat} {bs : List UInt8} {e : FromHexError},
    bs.length % 2 = 0 → decodePairs i bs = .error e →
      ∃ pre b post, bs = pre ++ b :: post ∧ (∀ c ∈ pre, (toDigit 16 c.toNat).isSome) ∧
        toDigit 16 b.toNat = none ∧
        e = .invalidHexCharacter (Char.ofNat b.toNat) (2 * i + pre.length)
  | _, [], _, _, h => by cases h
  | _, [_], _, hl, _ => absurd hl (by simp)
  | i, hi :: lo :: rest, e, hl, h => by
    rcases hh : toDigit 16 hi.toNat with _ | dh
    · rw [decodePairs, hexVal_eq, hh] at h
      cases h
      exact ⟨[], hi, lo :: rest, rfl, by simp, hh, rfl⟩
    rcases hl' : toDigit 16 lo.toNat with _ | dl
    · rw [decodePairs, hexVal_eq, hexVal_eq, hh, hl'] at h
      cases h
      exact ⟨[hi], lo, rest, rfl, by simp [hh], hl', rfl⟩
    rw [decodePairs_digits rest hh hl'] at h
    obtain ⟨pre, b, post, rfl, hpre, hb, rfl⟩ :=
      decodePairs_error (by simp only [List.length_cons] at hl; omega) (except_map_error h)
    refine ⟨hi :: lo :: pre, b, post, rfl, ?_, hb, ?_⟩
    · simpa [hh, hl'] using hpre
    · simp only [List.length_cons]; congr 1; omega

/-- What decodes has twice as many digits as it gives bytes, and its letters, in lower case,
are the lowercase encoding of the bytes. -/
theorem decodePairs_lower : ∀ {i : Nat} {cs : List Char} {v : List UInt8}, IsAscii cs →
    decodePairs i (cs.map byte) = .ok v →
      2 * v.length = cs.length ∧ encodeChars hexCharsLower v = cs.map Char.toLower
  | _, [], _, _, hv => by cases hv; exact ⟨rfl, rfl⟩
  | _, [_], _, _, hv => by cases hv
  | i, c1 :: c2 :: cs, v, ha, hv => by
    obtain ⟨h, l, hh, hl⟩ := decodePairs_cons_ok hv
    rw [List.map_cons, List.map_cons, decodePairs_digits _ hh hl] at hv
    obtain ⟨t, ht, rfl⟩ := except_map_ok hv
    obtain ⟨hlen, henc⟩ :=
      decodePairs_lower (fun c hc => ha c (List.mem_cons_of_mem _ (List.mem_cons_of_mem _ hc))) ht
    refine ⟨by simp only [List.length_cons]; omega, ?_⟩
    rw [encodeChars_nibbles _ (toDigit_lt hh) (toDigit_lt hl), henc,
      hexCharsLower_toDigit (ha c1 (by simp)) hh, hexCharsLower_toDigit (ha c2 (by simp)) hl]
    rfl

/-- Digits written with a table decode back to the bytes. -/
theorem decodePairs_encodeChars {table : List Char} (htable : HexTable table) :
    ∀ (i : Nat) (v : List UInt8), decodePairs i ((encodeChars table v).map byte) = .ok v
  | _, [] => rfl
  | i, b :: v => by
    have hb : b.toNat < 256 := b.toNat_lt_size
    have hh := (htable _ (show (b >>> 4).toNat < 16 by rw [high_nibble]; omega)).2
    have hl := (htable _ (show (b &&& 0xf).toNat < 16 by rw [low_nibble]; omega)).2
    show decodePairs i (_ :: _ :: (encodeChars table v).map byte) = _
    rw [decodePairs_digits _ hh hl, decodePairs_encodeChars htable (i + 1) v, high_nibble,
      low_nibble, nibbles_self]
    rfl

theorem encodeChars_ascii {table : List Char} (htable : HexTable table) (v : List UInt8) :
    IsAscii (encodeChars table v) := by
  intro c hc
  obtain ⟨b, -, hc⟩ := List.mem_flatMap.mp hc
  have hb : b.toNat < 256 := b.toNat_lt_size
  simp only [List.mem_cons, List.mem_singleton, List.not_mem_nil, or_false] at hc
  rcases hc with rfl | rfl
  · exact (htable _ (by rw [high_nibble]; omega)).1
  · exact (htable _ (by rw [low_nibble]; omega)).1

/-- The error `hex::decode` owes its input: `OddLength` for an odd number of bytes, else the
first byte that is not a hex digit, with its index. -/
def HexError (bs : List UInt8) (e : FromHexError) : Prop :=
  (bs.length % 2 = 1 ∧ e = .oddLength) ∨
    (bs.length % 2 = 0 ∧ ∃ pre b post, bs = pre ++ b :: post ∧
      (∀ c ∈ pre, (toDigit 16 c.toNat).isSome) ∧ toDigit 16 b.toNat = none ∧
      e = .invalidHexCharacter (Char.ofNat b.toNat) pre.length)

theorem hexDecode_error {bs : List UInt8} {e : FromHexError} (h : hexDecode bs = .error e) :
    HexError bs e := by
  unfold hexDecode at h
  split_ifs at h with hodd
  · cases h
    exact .inl ⟨by omega, rfl⟩
  · obtain ⟨pre, b, post, hbs, hpre, hb, he⟩ := decodePairs_error (by omega) h
    exact .inr ⟨by omega, pre, b, post, hbs, hpre, hb, by simpa using he⟩

/-! ### Text -/

/-- The characters `hex::decode` accepts: `[0-9a-fA-F]`. -/
def IsHexChar (c : Char) : Prop :=
  ('0' ≤ c ∧ c ≤ '9') ∨ ('a' ≤ c ∧ c ≤ 'f') ∨ ('A' ≤ c ∧ c ≤ 'F')

instance : DecidablePred IsHexChar := fun _ => inferInstanceAs (Decidable (_ ∨ _))

theorem toDigit_hex_isSome (n : Nat) :
    (toDigit 16 n).isSome ↔
      (48 ≤ n ∧ n ≤ 57) ∨ (97 ≤ n ∧ n ≤ 102) ∨ (65 ≤ n ∧ n ≤ 70) := by
  rw [toDigit_sixteen]
  split_ifs <;> simp only [Option.isSome_some, Option.isSome_none, true_iff, Bool.false_eq_true,
    false_iff] <;> omega

theorem isHexChar_iff (c : Char) :
    IsHexChar c ↔ c.toNat < 128 ∧ (toDigit 16 (byte c).toNat).isSome := by
  show (48 ≤ c.toNat ∧ c.toNat ≤ 57) ∨ (97 ≤ c.toNat ∧ c.toNat ≤ 102) ∨
    (65 ≤ c.toNat ∧ c.toNat ≤ 70) ↔ _
  constructor
  · intro h
    rw [byte_toNat (by omega), toDigit_hex_isSome]
    exact ⟨by omega, h⟩
  · rintro ⟨hc, h⟩
    rwa [byte_toNat (by omega), toDigit_hex_isSome] at h

/-- A character beyond ASCII puts a byte of 128 or more into its UTF-8 encoding. -/
theorem utf8EncodeChar_high {c : Char} (hc : 128 ≤ c.toNat) :
    ∃ b ∈ String.utf8EncodeChar c, 128 ≤ b.toNat := by
  have high : ∀ x m : UInt8, m.toNat.testBit 7 = true → 128 ≤ (x ||| m).toNat := by
    intro x m hm
    have : (x ||| m).toNat.testBit 7 = true := by
      rw [show (x ||| m).toNat = x.toNat ||| m.toNat from rfl, Nat.testBit_or, hm, Bool.or_true]
    exact Nat.testBit_implies_ge this
  unfold String.utf8EncodeChar
  dsimp only
  split_ifs with h1
  · rw [UInt32.le_def, BitVec.le_def] at h1
    exact absurd h1 (by show ¬ c.toNat ≤ 127; omega)
  all_goals exact ⟨_, List.mem_cons_self _ _, high _ _ rfl⟩

theorem asBytes_eq (s : String) : asBytes s = s.data.flatMap String.utf8EncodeChar := rfl

/-- Text whose bytes are all digits is ASCII. -/
theorem ascii_of_digits {s : String} (h : ∀ b ∈ asBytes s, (toDigit 16 b.toNat).isSome) :
    IsAscii s.data := by
  intro c hc
  by_contra hn
  obtain ⟨b, hb, hge⟩ := utf8EncodeChar_high (Nat.le_of_not_lt hn)
  have hd := (toDigit_hex_isSome _).mp
    (h b (by rw [asBytes_eq]; exact List.mem_flatMap.mpr ⟨c, hc, hb⟩))
  omega

/-- `hex::decode` of a string's bytes succeeds exactly on even-length strings of hex digits. -/
theorem hexDecode_ok_iff (s : String) :
    (∃ v, hexDecode (asBytes s) = .ok v) ↔
      s.length % 2 = 0 ∧ ∀ c ∈ s.data, IsHexChar c := by
  obtain ⟨cs⟩ := s
  constructor
  · rintro ⟨v, hv⟩
    unfold hexDecode at hv
    split_ifs at hv with hodd
    have hall := (decodePairs_ok_iff 0 _ (by omega)).mp ⟨v, hv⟩
    have ha := ascii_of_digits hall
    rw [asBytes_of_ascii ha] at hall hodd
    refine ⟨by simpa using hodd, fun c hc => (isHexChar_iff c).mpr ⟨ha c hc, ?_⟩⟩
    exact hall _ (List.mem_map_of_mem _ hc)
  · rintro ⟨hlen, hhex⟩
    have ha : IsAscii cs := fun c hc => ((isHexChar_iff c).mp (hhex c hc)).1
    have hlen' : (cs.map byte).length % 2 = 0 := by simpa using hlen
    unfold hexDecode
    rw [asBytes_of_ascii ha, if_neg (by omega)]
    refine (decodePairs_ok_iff 0 _ hlen').mpr ?_
    simp only [List.mem_map]
    rintro _ ⟨c, hc, rfl⟩
    exact ((isHexChar_iff c).mp (hhex c hc)).2

/-- On success, `hex::decode` gives half as many bytes as the string has digits, and
`hex::encode` writes the string back in lower case. -/
theorem hexDecode_lower {s : String} {v : List UInt8} (h : hexDecode (asBytes s) = .ok v) :
    v.length = s.length / 2 ∧ (hexEncode v).data = s.data.map Char.toLower := by
  obtain ⟨cs⟩ := s
  have hhex : ∀ c ∈ cs, IsHexChar c := ((hexDecode_ok_iff _).mp ⟨v, h⟩).2
  have ha : IsAscii cs := fun c hc => ((isHexChar_iff c).mp (hhex c hc)).1
  unfold hexDecode at h
  rw [asBytes_of_ascii ha] at h
  split_ifs at h
  obtain ⟨hlen, henc⟩ := decodePairs_lower ha h
  exact ⟨by show v.length = cs.length / 2; omega, henc⟩

/-- Text written with a table decodes back to its bytes. -/
theorem hexDecode_encodeChars {table : List Char} (htable : HexTable table) (v : List UInt8) :
    hexDecode (asBytes ⟨encodeChars table v⟩) = .ok v := by
  unfold hexDecode
  rw [asBytes_of_ascii (encodeChars_ascii htable v), List.length_map, encodeChars_length,
    if_neg (by omega)]
  exact decodePairs_encodeChars htable 0 v

end SozuCtl
