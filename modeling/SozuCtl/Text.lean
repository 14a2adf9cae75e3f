import Mathlib.Data.Nat.Digits
import Mathlib.Tactic.IntervalCases

/-! Bytes of text and Rust's integer formatting. A string reaches a parser as its UTF-8 bytes
(`str::as_bytes`); everything this layer prints is ASCII, one byte a character. Integers print
as `Nat.toDigits` (`{}` in radix 10, `{:x}` in radix 16) and are read back with
`char::to_digit`. -/
namespace SozuCtl

/-- `str::as_bytes`: the UTF-8 encoding of a string. -/
def asBytes (s : String) : List UInt8 := s.toUTF8.data.toList

/-- The byte of an ASCII character. -/
def byte (c : Char) : UInt8 := c.val.toUInt8

/-- Characters below 128, each of which UTF-8 writes as one byte. -/
def IsAscii (cs : List Char) : Prop := ∀ c ∈ cs, c.toNat < 128

instance : DecidablePred IsAscii := fun cs => inferInstanceAs (Decidable (∀ c ∈ cs, _))

theorem byte_toNat {c : Char} (h : c.toNat < 256) : (byte c).toNat = c.toNat :=
  UInt8.toNat_ofNat_of_lt h

theorem utf8EncodeChar_of_lt {c : Char} (h : c.toNat < 128) :
    String.utf8EncodeChar c = [byte c] := by
  have hv : c.val ≤ 0x7f := by
    rw [UInt32.le_def, BitVec.le_def]; exact Nat.le_of_lt_succ h
  simp [String.utf8EncodeChar, hv, byte]

theorem asBytes_of_ascii {cs : List Char} (h : IsAscii cs) : asBytes ⟨cs⟩ = cs.map byte := by
  induction cs with
  | nil => rfl
  | cons c cs ih =>
    have hc := utf8EncodeChar_of_lt (h c (List.mem_cons_self c cs))
    have ht := ih fun d hd => h d (List.mem_cons_of_mem c hd)
    simp only [asBytes, String.toUTF8, List.flatMap_cons, hc] at ht ⊢
    simp [ht]

theorem IsAscii.append {xs ys : List Char} (hx : IsAscii xs) (hy : IsAscii ys) :
    IsAscii (xs ++ ys) := by
  intro c hc
  rcases List.mem_append.mp hc with h | h
  exacts [hx c h, hy c h]

theorem IsAscii.cons {c : Char} {cs : List Char} (hc : c.toNat < 128) (h : IsAscii cs) :
    IsAscii (c :: cs) := by
  intro d hd
  rcases List.mem_cons.mp hd with rfl | h'
  exacts [hc, h d h']

/-! ### `char::to_digit` -/

/-- The digit a character stands for in radix 36: `0-9`, then `a-z` or `A-Z` from ten. -/
def digitValue (c : Nat) : Option Nat :=
  if 48 ≤ c ∧ c ≤ 57 then some (c - 48)
  else if 97 ≤ c ∧ c ≤ 122 then some (c - 87)
  else if 65 ≤ c ∧ c ≤ 90 then some (c - 55) else none

/-- `char::to_digit` on the character of a byte: its digit, kept when below `radix`. -/
def toDigit (radix c : Nat) : Option Nat :=
  match digitValue c with
  | some d => if d < radix then some d else none
  | none => none

theorem toDigit_lt {radix c d : Nat} (h : toDigit radix c = some d) : d < radix := by
  unfold toDigit at h
  split at h
  · split_ifs at h with hd
    exact Option.some.inj h ▸ hd
  · cases h

theorem toDigit_mono {r s c d : Nat} (hrs : r ≤ s) (h : toDigit r c = some d) :
    toDigit s c = some d := by
  unfold toDigit at h ⊢
  split at h
  · split_ifs at h with hd
    simp only [Option.some.injEq] at h
    subst h
    simp only [*, if_pos (Nat.lt_of_lt_of_le hd hrs)]
  · cases h

theorem digitChar_toNat {d : Nat} (hd : d < 16) :
    (Nat.digitChar d).toNat = if d < 10 then 48 + d else 87 + d := by
  interval_cases d <;> rfl

theorem byte_digitChar {d : Nat} (hd : d < 16) :
    (byte (Nat.digitChar d)).toNat = if d < 10 then 48 + d else 87 + d := by
  rw [byte_toNat (by rw [digitChar_toNat hd]; split <;> omega), digitChar_toNat hd]

theorem toDigit_digitChar {radix d : Nat} (hd : d < radix) (hr : radix ≤ 16) :
    toDigit radix (byte (Nat.digitChar d)).toNat = some d := by
  have hv : digitValue (byte (Nat.digitChar d)).toNat = some d := by
    rw [byte_digitChar (by omega), digitValue]
    by_cases h : d < 10
    · rw [if_pos h, if_pos (by omega)]; simp
    · rw [if_neg h, if_neg (by omega), if_pos (by omega)]; simp
  simp [toDigit, hv, hd]

/-! ### `Nat.toDigits` -/

theorem toDigitsCore_append (b f n : Nat) (ds : List Char) :
    Nat.toDigitsCore b f n ds = Nat.toDigitsCore b f n [] ++ ds := by
  induction f generalizing n ds with
  | zero => rfl
  | succ f ih =>
    simp only [Nat.toDigitsCore]
    split
    · rfl
    · rw [ih _ (_ :: ds), ih _ [_]]; simp

theorem toDigitsCore_fuel {b : Nat} (hb : 2 ≤ b) :
    ∀ f g n, n < f → n < g → Nat.toDigitsCore b f n [] = Nat.toDigitsCore b g n []
  | 0, _, _, hf, _ => absurd hf (Nat.not_lt_zero _)
  | _ + 1, 0, _, _, hg => absurd hg (Nat.not_lt_zero _)
  | f + 1, g + 1, n, hf, hg => by
    simp only [Nat.toDigitsCore]
    split
    · rfl
    · rename_i h0
      have : n / b < n := Nat.div_lt_self (Nat.pos_of_ne_zero fun h => h0 (by simp [h])) hb
      rw [toDigitsCore_append, toDigitsCore_append b g,
        toDigitsCore_fuel hb f g (n / b) (by omega) (by omega)]

/-- The last digit comes off the end: the one equation every digit fact below derives from. -/
theorem toDigits_eq {b : Nat} (hb : 2 ≤ b) (n : Nat) :
    Nat.toDigits b n =
      (if n < b then [] else Nat.toDigits b (n / b)) ++ [Nat.digitChar (n % b)] := by
  simp only [Nat.toDigits, Nat.toDigitsCore]
  by_cases h : n < b
  · simp [h, Nat.div_eq_of_lt h]
  · have hq : n / b ≠ 0 := by
      rw [Ne, Nat.div_eq_zero_iff (by omega)]; exact h
    have hlt : n / b < n := Nat.div_lt_self (by omega) (by omega)
    simp only [hq, h, if_false]
    rw [toDigitsCore_append, toDigitsCore_fuel hb n (n / b + 1) (n / b) hlt (by omega)]
    rfl

theorem mem_toDigits {b : Nat} (hb : 2 ≤ b) (n : Nat) :
    ∀ c ∈ Nat.toDigits b n, ∃ d < b, c = Nat.digitChar d := by
  induction n using Nat.strong_induction_on with
  | _ n ih =>
    rw [toDigits_eq hb]
    intro c hc
    rcases List.mem_append.mp hc with h | h
    · split_ifs at h with hn
      · simp at h
      · exact ih (n / b) (Nat.div_lt_self (by omega) (by omega)) c h
    · exact ⟨n % b, Nat.mod_lt _ (by omega), List.mem_singleton.mp h⟩

theorem toDigits_ascii {b : Nat} (hb : 2 ≤ b) (hb16 : b ≤ 16) (n : Nat) :
    IsAscii (Nat.toDigits b n) := by
  intro c hc
  obtain ⟨d, hd, rfl⟩ := mem_toDigits hb n c hc
  rw [digitChar_toNat (by omega)]
  split <;> omega

/-- The value a string of digits reads as after `acc`, most significant first. -/
def digitsValue (radix acc : Nat) (bs : List UInt8) : Nat :=
  bs.foldl (fun acc b => acc * radix + (toDigit radix b.toNat).getD 0) acc

theorem le_digitsValue {radix : Nat} (hr : 1 ≤ radix) (acc : Nat) (bs : List UInt8) :
    acc ≤ digitsValue radix acc bs := by
  induction bs generalizing acc with
  | nil => exact le_rfl
  | cons b bs ih =>
    calc acc ≤ acc * radix := Nat.le_mul_of_pos_right acc hr
      _ ≤ acc * radix + (toDigit radix b.toNat).getD 0 := Nat.le_add_right _ _
      _ ≤ digitsValue radix acc (b :: bs) := ih _

theorem digitsValue_toDigits {b : Nat} (hb : 2 ≤ b) (hb16 : b ≤ 16) (n : Nat) :
    digitsValue b 0 ((Nat.toDigits b n).map byte) = n := by
  induction n using Nat.strong_induction_on with
  | _ n ih =>
    have hd := toDigit_digitChar (Nat.mod_lt n (by omega)) hb16
    rw [toDigits_eq hb]
    by_cases h : n < b
    · rw [Nat.mod_eq_of_lt h] at hd
      simp [digitsValue, h, Nat.mod_eq_of_lt h, hd]
    · have := ih (n / b) (Nat.div_lt_self (by omega) (by omega))
      simp only [digitsValue] at this ⊢
      simp only [h, if_false, List.map_append, List.foldl_append, this, List.map_cons,
        List.map_nil, List.foldl_cons, List.foldl_nil, hd, Option.getD_some]
      exact Nat.div_add_mod' n b

/-- Only zero prints with a leading `0`. -/
theorem toDigits_head_zero {b : Nat} (hb : 2 ≤ b) (hb16 : b ≤ 16) (n : Nat)
    (h : (Nat.toDigits b n).head? = some '0') : n = 0 := by
  induction n using Nat.strong_induction_on with
  | _ n ih =>
    rw [toDigits_eq hb] at h
    by_cases hn : n < b
    · simp only [hn, if_true, List.nil_append, List.head?_cons, Option.some.injEq] at h
      have := congrArg Char.toNat h
      rw [Nat.mod_eq_of_lt hn, digitChar_toNat (by omega)] at this
      split at this <;> simp at this <;> omega
    · have hne : Nat.toDigits b (n / b) ≠ [] := by
        rw [toDigits_eq hb]; simp
      simp only [hn, if_false, List.head?_append_of_ne_nil _ hne] at h
      have := ih (n / b) (Nat.div_lt_self (by omega) (by omega)) h
      rw [Nat.div_eq_zero_iff (by omega)] at this
      exact absurd this hn

/-- A number whose digits start with `0` is zero, written as that one digit. -/
theorem toDigits_eq_zero_cons {b : Nat} (hb : 2 ≤ b) (hb16 : b ≤ 16) {n : Nat} {cs : List Char}
    (h : Nat.toDigits b n = '0' :: cs) : cs = [] := by
  obtain rfl := toDigits_head_zero hb hb16 n (by rw [h]; rfl)
  have h0 : Nat.toDigits b 0 = ['0'] := by simp [Nat.toDigits, Nat.toDigitsCore, Nat.digitChar]
  rw [h0] at h
  cases h
  rfl

theorem toDigits_length_le {b : Nat} (hb : 2 ≤ b) {n e : Nat} (h : n < b ^ e) (he : 0 < e) :
    (Nat.toDigits b n).length ≤ e :=
  Nat.toDigitsCore_length b hb _ n e h he

theorem toDigits_ne_nil {b : Nat} (hb : 2 ≤ b) (n : Nat) : Nat.toDigits b n ≠ [] := by
  rw [toDigits_eq hb]; simp

end SozuCtl
