import SozuCtl.Net.Parser

/-! Parsing the text of a socket address gives the address back, with its flow label cleared:
the printer does not write it and the parser sets it to zero. Each reader is shown to read back
what the printer wrote, followed by any remainder that cannot continue it. -/
namespace SozuCtl

/-- No digit of `radix` opens `s`. -/
def NoDigitAt (radix : Nat) (s : List UInt8) : Prop :=
  ∀ b ∈ s.head?, toDigit radix b.toNat = none

theorem noDigitAt_nil (radix : Nat) : NoDigitAt radix [] := fun _ h => by cases h

theorem noDigitAt_cons {radix : Nat} {c : Char} (hc : c.toNat < 256)
    (h : toDigit radix c.toNat = none) (s : List UInt8) : NoDigitAt radix (byte c :: s) := by
  intro b hb
  cases Option.some.inj hb
  rwa [byte_toNat hc]

theorem tooManyDigits_mono {m : Option Nat} {j k : Nat} (hk : tooManyDigits m k = false)
    (hjk : j ≤ k) : tooManyDigits m j = false := by
  cases m <;> simp_all [tooManyDigits]; omega

/-! ### Numbers -/

section Numbers
variable {bits radix : Nat} {maxDigits : Option Nat}

/-- The digit loop runs through a string of digits that fits. -/
theorem readDigits_append (hr : 1 ≤ radix) (bs rest : List UInt8) (acc count : Nat)
    (hd : ∀ b ∈ bs, (toDigit radix b.toNat).isSome)
    (hv : digitsValue radix acc bs < 2 ^ bits)
    (hc : tooManyDigits maxDigits (count + bs.length) = false) :
    readDigits bits radix maxDigits acc count (bs ++ rest) =
      readDigits bits radix maxDigits (digitsValue radix acc bs) (count + bs.length) rest := by
  induction bs generalizing acc count with
  | nil => rfl
  | cons b bs ih =>
    obtain ⟨d, hbd⟩ := Option.isSome_iff_exists.mp (hd b (List.mem_cons_self b bs))
    have hstep : digitsValue radix acc (b :: bs) = digitsValue radix (acc * radix + d) bs := by
      simp [digitsValue, hbd]
    have hle := le_digitsValue hr (acc * radix + d) bs
    rw [hstep] at hv ⊢
    have hlen : count + (b :: bs).length = count + 1 + bs.length := by
      simp only [List.length_cons]; omega
    simp only [List.cons_append, readDigits, hbd, List.append_eq]
    rw [if_pos ⟨by omega, by omega⟩, tooManyDigits_mono hc (by omega), if_neg (by simp),
      ih _ _ (fun b hb => hd b (List.mem_cons_of_mem _ hb)) hv (hlen ▸ hc), hlen]

/-- The digit loop stops at the first byte that is not a digit. -/
theorem readDigits_stop {rest : List UInt8} (h : NoDigitAt radix rest) (acc count : Nat) :
    readDigits bits radix maxDigits acc count rest = some ((acc, count), rest) := by
  cases rest with
  | nil => rfl
  | cons b r => simp [readDigits, h b rfl]

/-- A number cannot start at a byte that is not a digit. -/
theorem readNumber_of_noDigit {allowZeroPrefix : Bool} {s : List UInt8}
    (h : NoDigitAt radix s) : readNumber bits radix maxDigits allowZeroPrefix s = none := by
  simp [readNumber, readDigits_stop h]

/-- `read_number` reads back the digits `Display` writes for a number that fits. -/
theorem readNumber_toDigits {allowZeroPrefix : Bool} (h2 : 2 ≤ radix) (h16 : radix ≤ 16)
    {n : Nat} (hn : n < 2 ^ bits)
    (hc : tooManyDigits maxDigits (Nat.toDigits radix n).length = false)
    {rest : List UInt8} (hrest : NoDigitAt radix rest) :
    readNumber bits radix maxDigits allowZeroPrefix ((Nat.toDigits radix n).map byte ++ rest) =
      some (n, rest) := by
  have hdig : ∀ b ∈ (Nat.toDigits radix n).map byte, (toDigit radix b.toNat).isSome := by
    intro b hb
    obtain ⟨c, hc, rfl⟩ := List.mem_map.mp hb
    obtain ⟨d, hd, rfl⟩ := mem_toDigits h2 n c hc
    simp [toDigit_digitChar hd h16]
  have hval := digitsValue_toDigits h2 h16 n
  obtain ⟨c0, cs, hcs⟩ := List.exists_cons_of_ne_nil (toDigits_ne_nil h2 n)
  unfold readNumber
  rw [readDigits_append (by omega) _ rest 0 0 hdig (by rw [hval]; exact hn) (by simpa using hc),
    hval, readDigits_stop hrest]
  simp only [List.length_map, Nat.zero_add, hcs, List.length_cons, List.map_cons,
    List.cons_append, List.head?_cons, Option.map_some', Option.some.injEq]
  rw [if_neg (by omega), if_neg]
  -- only zero prints with a leading `0`, and it prints as that one digit
  rintro ⟨-, hz, hlen⟩
  obtain ⟨d, hd, rfl⟩ := mem_toDigits h2 n c0 (by rw [hcs]; exact List.mem_cons_self _ _)
  rw [byte_digitChar (by omega)] at hz
  obtain rfl : d = 0 := by split at hz <;> omega
  simp [toDigits_eq_zero_cons h2 h16 hcs] at hlen

/-- What a number reads is a string of digits. -/
theorem readDigits_consumes {s s' : List UInt8} {acc count v c : Nat}
    (h : readDigits bits radix maxDigits acc count s = some ((v, c), s')) :
    ∃ ds, s = ds ++ s' ∧ ∀ b ∈ ds, (toDigit radix b.toNat).isSome := by
  induction s generalizing acc count with
  | nil => cases h; exact ⟨[], rfl, by simp⟩
  | cons b r ih =>
    simp only [readDigits] at h
    split at h
    · cases h; exact ⟨[], rfl, by simp⟩
    · rename_i d hbd
      split_ifs at h
      obtain ⟨ds, rfl, hds⟩ := ih h
      refine ⟨b :: ds, rfl, fun x hx => ?_⟩
      rcases List.mem_cons.mp hx with rfl | hx
      · simp [hbd]
      · exact hds x hx

theorem readNumber_consumes {allowZeroPrefix : Bool} {s s' : List UInt8} {v : Nat}
    (h : readNumber bits radix maxDigits allowZeroPrefix s = some (v, s')) :
    ∃ ds, s = ds ++ s' ∧ ∀ b ∈ ds, (toDigit radix b.toNat).isSome := by
  unfold readNumber at h
  split at h
  · rename_i hr
    dsimp only at h
    split_ifs at h
    cases h
    exact readDigits_consumes hr
  · cases h

end Numbers

/-! ### Separated groups and IPv4 -/

/-- The text of items from index `i` on: each written after `sep` but the one at index `0`. -/
def groupsText (sep : Char) : Nat → List (List Char) → List Char
  | _, [] => []
  | i, x :: xs => (if 0 < i then sep :: x else x) ++ groupsText sep (i + 1) xs

theorem groupsText_succ (sep : Char) (i : Nat) (xs : List (List Char)) :
    groupsText sep (i + 1) xs = xs.flatMap (sep :: ·) := by
  induction xs generalizing i with
  | nil => rfl
  | cons x xs ih => simp [groupsText, ih]

theorem joinWith_eq_groupsText (sep : Char) (xs : List (List Char)) :
    joinWith sep xs = groupsText sep 0 xs := by
  cases xs with
  | nil => rfl
  | cons x xs => simp [joinWith, groupsText, groupsText_succ]

theorem readSeparator_text {α : Type} {sep : Char} (hsep : sep.toNat < 256) (i : Nat)
    (x : List Char) (s : List UInt8) (inner : Parser α) :
    readSeparator sep i inner ((if 0 < i then sep :: x else x).map byte ++ s) =
      inner (x.map byte ++ s) := by
  by_cases hi : 0 < i <;> simp [readSeparator, readGivenChar, hi, byte_toNat hsep]

theorem readIpv4Groups_text (os : List Nat) (hos : ∀ o ∈ os, o < 256) {rest : List UInt8}
    (hrest : NoDigitAt 10 rest) (i : Nat) :
    readIpv4Groups i os.length
      ((groupsText '.' i (os.map (Nat.toDigits 10))).map byte ++ rest) = some (os, rest) := by
  induction os generalizing i with
  | nil => rfl
  | cons o os ih =>
    have ho := hos o (List.mem_cons_self o os)
    have hnext : NoDigitAt 10
        ((groupsText '.' (i + 1) (os.map (Nat.toDigits 10))).map byte ++ rest) := by
      cases os with
      | nil => simpa [groupsText] using hrest
      | cons o' os' => simpa [groupsText] using noDigitAt_cons (by decide) (by decide) _
    have hlen : tooManyDigits (some 3) (Nat.toDigits 10 o).length = false := by
      simpa [tooManyDigits] using
        toDigits_length_le (by norm_num) (by norm_num; omega) (by norm_num)
    simp only [List.map_cons, groupsText, List.map_append, List.append_assoc, List.length_cons,
      readIpv4Groups]
    rw [readSeparator_text (by decide),
      readNumber_toDigits (by norm_num) (by norm_num) (by norm_num; omega) hlen hnext]
    simp [ih (fun x h => hos x (List.mem_cons_of_mem o h)) (i + 1)]

/-- `read_ipv4_addr` reads back the dotted octets. -/
theorem readIpv4Addr_fmt (a : Ipv4Addr) {rest : List UInt8} (hrest : NoDigitAt 10 rest) :
    readIpv4Addr (a.fmt.map byte ++ rest) = some (a, rest) := by
  have h := readIpv4Groups_text (a.octets.map UInt8.toNat)
    (by simpa using fun o _ => UInt8.toNat_lt_size o) hrest 0
  rw [List.length_map, a.length_octets, List.map_map] at h
  simp only [readIpv4Addr, Ipv4Addr.fmt, joinWith_eq_groupsText]
  rw [show (fun o : UInt8 => Nat.toDigits 10 o.toNat) = Nat.toDigits 10 ∘ UInt8.toNat from rfl, h]
  simp [Ipv4Addr.ofArray_octets]

theorem readIpv4Addr_of_noDigit {s : List UInt8} (h : NoDigitAt 10 s) : readIpv4Addr s = none := by
  simp [readIpv4Addr, readIpv4Groups, readSeparator, readNumber_of_noDigit h]

theorem readIpv4Groups_succ {i n : Nat} {s : List UInt8} {r : List Nat × List UInt8}
    (h : readIpv4Groups i (n + 1) s = some r) :
    ∃ g s1, readSeparator '.' i (readNumber 8 10 (some 3) false) s = some (g, s1) ∧
      (readIpv4Groups (i + 1) n s1).isSome := by
  simp only [readIpv4Groups] at h
  cases h1 : readSeparator '.' i (readNumber 8 10 (some 3) false) s with
  | none => simp [h1] at h
  | some p =>
    refine ⟨p.1, p.2, rfl, ?_⟩
    cases h2 : readIpv4Groups (i + 1) n p.2 with
    | none => simp [h1, h2] at h
    | some _ => rfl

/-- An IPv4 address read anywhere starts with digits and a dot. -/
theorem readIpv4Addr_dot {s s' : List UInt8} {a : Ipv4Addr} (h : readIpv4Addr s = some (a, s')) :
    ∃ ds t, s = ds ++ byte '.' :: t ∧ ∀ b ∈ ds, (toDigit 10 b.toNat).isSome := by
  obtain ⟨r, h4⟩ : ∃ r, readIpv4Groups 0 4 s = some r := by
    cases h4 : readIpv4Groups 0 4 s
    · simp [readIpv4Addr, h4] at h
    · exact ⟨_, rfl⟩
  obtain ⟨g, s1, h1, h2⟩ := readIpv4Groups_succ h4
  obtain ⟨ds, rfl, hds⟩ := readNumber_consumes (by simpa [readSeparator] using h1)
  obtain ⟨r', h2'⟩ := Option.isSome_iff_exists.mp h2
  obtain ⟨g', s1', h3, -⟩ := readIpv4Groups_succ h2'
  cases s1 with
  | nil => simp [readSeparator, readGivenChar] at h3
  | cons b t =>
    simp only [readSeparator, readGivenChar, if_pos Nat.one_pos] at h3
    split_ifs at h3 with hb
    · exact ⟨ds, t, by rw [UInt8.toNat.inj (hb.trans (byte_toNat (by decide)).symm)], hds⟩
    · simp at h3

/-- No IPv4 address starts inside a hex group: one would need a dot before the group ends. -/
theorem readIpv4Addr_none {g t : List UInt8} (hg : ∀ b ∈ g, b ≠ byte '.')
    (ht : ∀ b ∈ t.head?, b ≠ byte '.' ∧ toDigit 10 b.toNat = none) :
    readIpv4Addr (g ++ t) = none := by
  cases h : readIpv4Addr (g ++ t) with
  | none => rfl
  | some r =>
    obtain ⟨ds, u, heq, hds⟩ := readIpv4Addr_dot h
    rcases List.append_eq_append_iff.mp heq with ⟨a', rfl, rfl⟩ | ⟨c', rfl, hc⟩
    · cases a' with
      | nil => exact absurd rfl (ht _ rfl).1
      | cons x xs =>
        have := hds x (by simp)
        simp [(ht x rfl).2] at this
    · cases c' with
      | nil => simp only [List.nil_append] at hc; exact absurd rfl (ht _ (by rw [← hc]; rfl)).1
      | cons x xs =>
        simp only [List.cons_append, List.cons.injEq] at hc
        exact absurd hc.1.symm (hg x (by simp))

/-! ### IPv6 -/

/-- What may follow a hex group: neither a dot nor a hex digit. -/
def Boundary (s : List UInt8) : Prop :=
  ∀ b ∈ s.head?, b ≠ byte '.' ∧ toDigit 16 b.toNat = none

/-- `read_groups` fills no slot at index `i` of `s`. -/
def GroupsEnd (i : Nat) (s : List UInt8) : Prop :=
  readSeparator ':' i readIpv4Addr s = none ∧
    readSeparator ':' i (readNumber 16 16 (some 4) true) s = none

theorem NoDigitAt.decimal {s : List UInt8} (h : NoDigitAt 16 s) : NoDigitAt 10 s := by
  intro b hb
  cases hd : toDigit 10 b.toNat with
  | none => rfl
  | some d =>
    have := toDigit_mono (s := 16) (by norm_num) hd
    rw [h b hb] at this
    cases this

theorem boundary_cons {c : Char} (hc : byte c ≠ byte '.') (h16 : toDigit 16 (byte c).toNat = none)
    (s : List UInt8) : Boundary (byte c :: s) := fun b hb => by
  cases Option.some.inj hb; exact ⟨hc, h16⟩

theorem groupsEnd_of {i : Nat} {s : List UInt8} (h : NoDigitAt 16 s)
    (hsep : ∀ t, readGivenChar ':' s = some ((), t) → NoDigitAt 16 t) : GroupsEnd i s := by
  unfold GroupsEnd readSeparator
  split_ifs
  · cases hs : readGivenChar ':' s with
    | none => simp
    | some r =>
      have ht := hsep r.2 hs
      simp [readIpv4Addr_of_noDigit ht.decimal, readNumber_of_noDigit ht]
  · exact ⟨readIpv4Addr_of_noDigit h.decimal, readNumber_of_noDigit h⟩

theorem hex_ne_dot {g : Nat} : ∀ b ∈ (Nat.toDigits 16 g).map byte, b ≠ byte '.' := by
  intro b hb heq
  obtain ⟨c, hc, rfl⟩ := List.mem_map.mp hb
  obtain ⟨d, hd, rfl⟩ := mem_toDigits (by norm_num) g c hc
  have := congrArg UInt8.toNat heq
  rw [byte_digitChar hd, byte_toNat (by decide)] at this
  split at this <;> simp at this <;> omega

/-- `read_groups` reads back colon-separated hex groups, then stops where they end. -/
theorem readGroups_text (limit : Nat) (gs : List Nat) (hgs : ∀ g ∈ gs, g < 2 ^ 16)
    (rest : List UInt8) (hb : Boundary rest) (i n : Nat) (hn : gs.length ≤ n)
    (hend : gs.length < n → GroupsEnd (i + gs.length) rest) :
    readGroups limit i n ((groupsText ':' i (gs.map (Nat.toDigits 16))).map byte ++ rest) =
      ((i + gs.length, false, gs), rest) := by
  induction gs generalizing i n with
  | nil =>
    cases n with
    | zero => rfl
    | succ n =>
      obtain ⟨h4, h16⟩ := hend (by simp)
      simp only [List.length_nil, Nat.add_zero] at h4 h16
      simp [readGroups, groupsText, h4, h16]
  | cons g gs ih =>
    obtain _ | n := n
    · simp at hn
    have hg := hgs g (List.mem_cons_self g gs)
    have ht : Boundary ((groupsText ':' (i + 1) (gs.map (Nat.toDigits 16))).map byte ++ rest) := by
      cases gs with
      | nil => simpa [groupsText] using hb
      | cons _ _ => simpa [groupsText] using boundary_cons (by decide) (by decide) _
    have hv4 : readIpv4Addr ((Nat.toDigits 16 g).map byte ++
        ((groupsText ':' (i + 1) (gs.map (Nat.toDigits 16))).map byte ++ rest)) = none :=
      readIpv4Addr_none hex_ne_dot fun b hb' =>
        ⟨(ht b hb').1, NoDigitAt.decimal (fun b h => (ht b h).2) b hb'⟩
    have hlen : tooManyDigits (some 4) (Nat.toDigits 16 g).length = false := by
      simpa [tooManyDigits] using
        toDigits_length_le (by norm_num) (by norm_num; omega) (by norm_num)
    have hhex : readNumber 16 16 (some 4) true ((Nat.toDigits 16 g).map byte ++
        ((groupsText ':' (i + 1) (gs.map (Nat.toDigits 16))).map byte ++ rest)) =
        some (g, (groupsText ':' (i + 1) (gs.map (Nat.toDigits 16))).map byte ++ rest) :=
      readNumber_toDigits (by norm_num) (by norm_num) hg hlen (fun b h => (ht b h).2)
    have hrec := ih (fun x h => hgs x (List.mem_cons_of_mem g h)) (i + 1) n (by simpa using hn)
      (fun h => by simpa [Nat.add_assoc, Nat.add_comm 1] using hend (by simpa using h))
    simp only [List.map_cons, groupsText, List.map_append, List.append_assoc, readGroups,
      readSeparator_text (by decide : ':'.toNat < 256), hv4, ite_self, hhex, hrec]
    simp [Nat.add_assoc, Nat.add_comm 1]

theorem fmtSubslice_eq (segments : List UInt16) :
    fmtSubslice segments =
      groupsText ':' 0 ((segments.map UInt16.toNat).map (Nat.toDigits 16)) := by
  simp [fmtSubslice, joinWith_eq_groupsText, Function.comp_def]

theorem segments_lt (a : Ipv6Addr) : ∀ g ∈ a.segments.map UInt16.toNat, g < 2 ^ 16 := by
  simpa using fun g _ => UInt16.toNat_lt_size g

/-- The eight groups written in full read back as the address. -/
theorem readIpv6Addr_full (a : Ipv6Addr) {rest : List UInt8} (hb : Boundary rest) :
    readIpv6Addr ((fmtSubslice a.segments).map byte ++ rest) = some (a, rest) := by
  have h := readGroups_text 8 _ (segments_lt a) rest hb 0 8 (by simp [a.length_segments])
    (by simp [a.length_segments])
  simp only [List.length_map, a.length_segments] at h
  simp only [readIpv6Addr, fmtSubslice_eq, h]
  simp [a.length_segments, Ipv6Addr.ofArray_segments]

theorem readGivenChar_byte {c : Char} (hc : c.toNat < 256) (s : List UInt8) :
    readGivenChar c (byte c :: s) = some ((), s) := by
  simp [readGivenChar, byte_toNat hc]

theorem groupsEnd_colons (i : Nat) (s : List UInt8) : GroupsEnd i (byte ':' :: byte ':' :: s) :=
  groupsEnd_of (noDigitAt_cons (by decide) (by decide) _) fun t ht => by
    rw [readGivenChar_byte (by decide)] at ht
    cases ht
    exact noDigitAt_cons (by decide) (by decide) _

/-- What `read_ipv6_addr` builds from the groups around a run of zeros: the head, zero-filled
and cut where the tail starts, then the tail, which are the segments again. -/
theorem ZeroRun.reassemble {l : List UInt16} {sp : Span} (hz : ZeroRun l sp)
    (h8 : l.length = 8) :
    ((l.take sp.start).map UInt16.toNat ++
        List.replicate (8 - ((l.take sp.start).map UInt16.toNat).length) 0).take
        (8 - (8 - (sp.start + sp.len))) ++
      ((l.drop (sp.start + sp.len)).map UInt16.toNat).take (8 - (sp.start + sp.len)) =
    l.map UInt16.toNat := by
  have hsp := hz.1
  have hsplit := congrArg (List.map UInt16.toNat) hz.split
  simp only [List.map_append, List.map_replicate, UInt16.toNat_zero] at hsplit
  have hhead : ((l.take sp.start).map UInt16.toNat).length = sp.start := by simp; omega
  have htail : ((l.drop (sp.start + sp.len)).map UInt16.toNat).length =
      8 - (sp.start + sp.len) := by simp [h8]
  rw [show 8 - (8 - (sp.start + sp.len)) = sp.start + sp.len by omega, hhead,
    List.take_append_eq_append_take, List.take_of_length_le (by omega : _ ≤ sp.start + sp.len),
    hhead, List.take_replicate,
    show min (sp.start + sp.len - sp.start) (8 - sp.start) = sp.len by omega,
    List.take_of_length_le htail.le, ← hsplit]

/-- The groups around a run of two or more zeros, written with `::`, read back as the address. -/
theorem readIpv6Addr_compressed (a : Ipv6Addr) {sp : Span} (hz : ZeroRun a.segments sp)
    (hlen : 1 < sp.len) {rest : List UInt8} (hb : Boundary rest) (hend : ∀ i, GroupsEnd i rest) :
    readIpv6Addr ((fmtSubslice (a.segments.take sp.start) ++ "::".toList ++
      fmtSubslice (a.segments.drop (sp.start + sp.len))).map byte ++ rest) = some (a, rest) := by
  have h8 := a.length_segments
  have hsp := hz.1
  have hh := readGroups_text 8 ((a.segments.take sp.start).map UInt16.toNat)
    (fun g hg => segments_lt a g
      (by simp only [List.map_take] at hg; exact List.mem_of_mem_take hg))
    (byte ':' :: byte ':' :: ((fmtSubslice (a.segments.drop (sp.start + sp.len))).map byte ++ rest))
    (boundary_cons (by decide) (by decide) _) 0 8 (by simp; omega) (fun _ => groupsEnd_colons _ _)
  have ht := readGroups_text (8 - (sp.start + 1))
    ((a.segments.drop (sp.start + sp.len)).map UInt16.toNat)
    (fun g hg => segments_lt a g
      (by simp only [List.map_drop] at hg; exact List.mem_of_mem_drop hg))
    rest hb 0 (8 - (sp.start + 1)) (by simp; omega) (fun _ => hend _)
  simp only [List.length_map, List.length_take, List.length_drop, h8, Nat.zero_add,
    show min sp.start 8 = sp.start by omega, fmtSubslice_eq] at hh ht
  have hcc : "::".toList.map byte = [byte ':', byte ':'] := rfl
  simp only [fmtSubslice_eq, List.map_append, List.append_assoc, hcc, List.cons_append,
    List.nil_append]
  simp only [readIpv6Addr, hh, if_neg (show sp.start ≠ 8 by omega)]
  simp only [Bool.false_eq_true, if_false, readGivenChar_byte (by decide : ':'.toNat < 256),
    Option.bind_eq_bind, Option.some_bind, ht, hz.reassemble h8, Ipv6Addr.ofArray_segments]
  rfl

theorem readGroups_ipv4 {limit i n : Nat} {s s' : List UInt8} {v : Ipv4Addr}
    (hi : i < limit - 1) (hv : readSeparator ':' i readIpv4Addr s = some (v, s')) :
    readGroups limit i (n + 1) s = ((i + 2, true, v.beGroups), s') := by
  simp [readGroups, hi, hv]

theorem readGroups_group {limit i n g : Nat} {s s' : List UInt8}
    (hv : readSeparator ':' i readIpv4Addr s = none)
    (hg : readSeparator ':' i (readNumber 16 16 (some 4) true) s = some (g, s')) :
    readGroups limit i (n + 1) s =
      (((readGroups limit (i + 1) n s').1.1, (readGroups limit (i + 1) n s').1.2.1,
        g :: (readGroups limit (i + 1) n s').1.2.2), (readGroups limit (i + 1) n s').2) := by
  simp [readGroups, hv, hg]

theorem beGroups_ofArray {g h : Nat} (hg : g < 2 ^ 16) (hh : h < 2 ^ 16) :
    (Ipv4Addr.ofArray [g / 256, g % 256, h / 256, h % 256]).beGroups = [g, h] := by
  have toNat_u8 : ∀ n, n < 256 → (n.toUInt8).toNat = n := fun n hn => UInt8.toNat_ofNat_of_lt hn
  simp [Ipv4Addr.beGroups, Ipv4Addr.ofArray, List.range, List.range.loop,
    toNat_u8 _ (show g / 256 < 256 by omega), toNat_u8 _ (show g % 256 < 256 by omega),
    toNat_u8 _ (show h / 256 < 256 by omega), toNat_u8 _ (show h % 256 < 256 by omega)]
  omega

theorem Ipv6Addr.toIpv4Mapped_eq_some {a : Ipv6Addr} {v4 : Ipv4Addr}
    (h : a.toIpv4Mapped = some v4) :
    ∃ x y : UInt16, a.segments = [0, 0, 0, 0, 0, 0xffff, x, y] ∧
      v4 = Ipv4Addr.ofArray [x.toNat / 256, x.toNat % 256, y.toNat / 256, y.toNat % 256] := by
  unfold Ipv6Addr.toIpv4Mapped at h
  split_ifs at h with htake
  cases h
  have hd : (a.segments.drop 6).length = 2 := by simp [a.length_segments]
  rcases hdrop : a.segments.drop 6 with _ | ⟨x, _ | ⟨y, _ | ⟨z, t⟩⟩⟩ <;>
    simp [hdrop] at hd
  have hs : a.segments = [0, 0, 0, 0, 0, 0xffff, x, y] := by
    rw [← List.take_append_drop 6 a.segments, htake, hdrop]; rfl
  exact ⟨x, y, hs, by simp [hs]⟩

/-- After the `::` of a mapped address, `ffff` and the dotted address fill the last groups. -/
theorem readGroups_mapped (v4 : Ipv4Addr) {rest : List UInt8} (hb : Boundary rest) :
    readGroups 7 0 7 ((Nat.toDigits 16 65535).map byte ++ byte ':' ::
      (v4.fmt.map byte ++ rest)) = ((3, true, 65535 :: v4.beGroups), rest) := by
  have hffff :
      NoDigitAt 10 ((Nat.toDigits 16 65535).map byte ++ byte ':' :: (v4.fmt.map byte ++ rest)) :=
    noDigitAt_cons (c := 'f') (by decide) (by decide) _
  have hg : readNumber 16 16 (some 4) true ((Nat.toDigits 16 65535).map byte ++ byte ':' ::
      (v4.fmt.map byte ++ rest)) = some (65535, byte ':' :: (v4.fmt.map byte ++ rest)) :=
    readNumber_toDigits (by norm_num) (le_refl 16) (by norm_num) (by decide)
      (noDigitAt_cons (by decide) (by decide) _)
  have hv : readSeparator ':' 1 readIpv4Addr (byte ':' :: (v4.fmt.map byte ++ rest)) =
      some (v4, rest) := by
    simp only [readSeparator, if_pos Nat.one_pos,
      readGivenChar_byte (by decide : ':'.toNat < 256), Option.some_bind]
    exact readIpv4Addr_fmt v4 (NoDigitAt.decimal fun b h => (hb b h).2)
  rw [readGroups_group (by simpa [readSeparator] using readIpv4Addr_of_noDigit hffff)
    (by simpa [readSeparator] using hg), readGroups_ipv4 (by norm_num) hv]

/-- An IPv4-mapped address, written `::ffff:a.b.c.d`, reads back as itself. -/
theorem readIpv6Addr_mapped (a : Ipv6Addr) {v4 : Ipv4Addr} (h : a.toIpv4Mapped = some v4)
    {rest : List UInt8} (hb : Boundary rest) :
    readIpv6Addr (("::ffff:".toList ++ v4.fmt).map byte ++ rest) = some (a, rest) := by
  obtain ⟨x, y, hs, hv4⟩ := Ipv6Addr.toIpv4Mapped_eq_some h
  have htext : ("::ffff:".toList ++ v4.fmt).map byte ++ rest = byte ':' :: byte ':' ::
      ((Nat.toDigits 16 65535).map byte ++ byte ':' :: (v4.fmt.map byte ++ rest)) := rfl
  have hhead := readGroups_text 8 [] (by simp) (byte ':' :: byte ':' ::
      ((Nat.toDigits 16 65535).map byte ++ byte ':' :: (v4.fmt.map byte ++ rest)))
    (boundary_cons (by decide) (by decide) _) 0 8 (by simp) (fun _ => groupsEnd_colons 0 _)
  simp only [groupsText, List.map_nil, List.nil_append, List.length_nil, Nat.add_zero] at hhead
  have hbe : v4.beGroups = [x.toNat, y.toNat] := by
    rw [hv4]; exact beGroups_ofArray (UInt16.toNat_lt_size x) (UInt16.toNat_lt_size y)
  simp only [htext, readIpv6Addr, hhead, show (0 : Nat) ≠ 8 by omega, if_false,
    Bool.false_eq_true, readGivenChar_byte (by decide : ':'.toNat < 256), Option.bind_eq_bind,
    Option.some_bind, show 8 - (0 + 1) = 7 from rfl, readGroups_mapped v4 hb, hbe]
  rw [← Ipv6Addr.ofArray_segments a, hs]
  rfl

/-- `read_ipv6_addr` reads back what `Display` writes, up to a following `]` or `%`. -/
theorem readIpv6Addr_fmt (a : Ipv6Addr) {rest : List UInt8} (hb : Boundary rest)
    (hend : ∀ i, GroupsEnd i rest) : readIpv6Addr (a.fmt.map byte ++ rest) = some (a, rest) := by
  unfold Ipv6Addr.fmt
  cases hm : a.toIpv4Mapped with
  | some v4 => exact readIpv6Addr_mapped a hm hb
  | none =>
    dsimp only
    split_ifs with hz
    · exact readIpv6Addr_compressed a (zeroes_run a.segments) hz hb hend
    · exact readIpv6Addr_full a hb

/-! ### Socket addresses -/

theorem readGivenChar_ne {c d : Char} (h : (byte c).toNat ≠ d.toNat) (s : List UInt8) :
    readGivenChar d (byte c :: s) = none := by
  simp [readGivenChar, h]

/-- What closes an IPv6 address in brackets ends its groups. -/
theorem groupsEnd_close {c : Char} (hc : c.toNat < 256) (h10 : toDigit 16 c.toNat = none)
    (hcolon : (byte c).toNat ≠ ':'.toNat) (i : Nat) (s : List UInt8) :
    GroupsEnd i (byte c :: s) :=
  groupsEnd_of (noDigitAt_cons hc h10 _) fun t ht => by rw [readGivenChar_ne hcolon] at ht; cases ht

theorem readNumber_dec {bits n : Nat} (hn : n < 2 ^ bits) {rest : List UInt8}
    (hrest : NoDigitAt 10 rest) :
    readNumber bits 10 none true ((Nat.toDigits 10 n).map byte ++ rest) = some (n, rest) :=
  readNumber_toDigits (by norm_num) (by norm_num) hn (by simp [tooManyDigits]) hrest

theorem readPort_fmt (port : UInt16) :
    readPort (byte ':' :: (Nat.toDigits 10 port.toNat).map byte) = some (port.toNat, []) := by
  simpa [readPort, readGivenChar_byte (by decide : ':'.toNat < 256)] using
    readNumber_dec (UInt16.toNat_lt_size port) (noDigitAt_nil 10)

theorem UInt16.toNat_toUInt16 (x : UInt16) : x.toNat.toUInt16 = x :=
  UInt16.toNat.inj (UInt16.toNat_ofNat_of_lt x.toNat_lt_size)

theorem UInt32.toNat_toUInt32 (x : UInt32) : x.toNat.toUInt32 = x :=
  UInt32.toNat.inj (UInt32.toNat_ofNat_of_lt x.toNat_lt_size)

theorem readSocketAddrV4_fmt (a : SocketAddrV4) :
    readSocketAddrV4 (a.fmt.map byte) = some (a, []) := by
  simp only [SocketAddrV4.fmt, List.map_append, List.map_cons]
  simp [readSocketAddrV4,
    readIpv4Addr_fmt a.ip (noDigitAt_cons (c := ':') (by decide) (by decide) _),
    readPort_fmt, UInt16.toNat_toUInt16]

/-- The IPv6 reader gives the address back with its flow label cleared. -/
theorem readSocketAddrV6_fmt (a : SocketAddrV6) :
    readSocketAddrV6 (a.fmt.map byte) = some ({ a with flowinfo := 0 }, []) := by
  have hclose := groupsEnd_close (c := ']') (by decide) (by decide) (by decide)
  unfold SocketAddrV6.fmt
  split_ifs with hs
  · simp only [List.map_append, List.map_cons, List.cons_append, List.append_assoc]
    have hscope : readScopeId (byte ']' :: byte ':' :: (Nat.toDigits 10 a.port.toNat).map byte) =
        none := by simp [readScopeId, readGivenChar_ne (by decide : (byte ']').toNat ≠ '%'.toNat)]
    simp [readSocketAddrV6, readGivenChar_byte (by decide : '['.toNat < 256),
      readIpv6Addr_fmt a.ip (boundary_cons (c := ']') (by decide) (by decide) _) (hclose · _),
      hscope,
      readGivenChar_byte (by decide : ']'.toNat < 256), readPort_fmt, UInt16.toNat_toUInt16, hs]
    rfl
  · simp only [List.map_append, List.map_cons, List.cons_append, List.append_assoc]
    have hscope : readScopeId (byte '%' :: ((Nat.toDigits 10 a.scopeId.toNat).map byte ++
        byte ']' :: byte ':' :: (Nat.toDigits 10 a.port.toNat).map byte)) =
        some (a.scopeId.toNat,
          byte ']' :: byte ':' :: (Nat.toDigits 10 a.port.toNat).map byte) := by
      simpa [readScopeId, readGivenChar_byte (by decide : '%'.toNat < 256)] using
        readNumber_dec (UInt32.toNat_lt_size a.scopeId)
          (noDigitAt_cons (c := ']') (by decide) (by decide) _)
    simp [readSocketAddrV6, readGivenChar_byte (by decide : '['.toNat < 256),
      readIpv6Addr_fmt a.ip (boundary_cons (c := '%') (by decide) (by decide) _)
        (groupsEnd_close (c := '%') (by decide) (by decide) (by decide) · _), hscope,
      readGivenChar_byte (by decide : ']'.toNat < 256), readPort_fmt, UInt16.toNat_toUInt16,
      UInt32.toNat_toUInt32]

/-- Parsing the text of an address gives the address back, with its flow label cleared. -/
theorem SocketAddr.fromStr_toString_v6 (a : SocketAddrV6) :
    SocketAddr.fromStr (SocketAddr.v6 a).toString = .ok (.v6 { a with flowinfo := 0 }) := by
  have hv4 : readSocketAddrV4 ((SocketAddr.v6 a).fmt.map byte) = none := by
    simp only [SocketAddr.fmt, SocketAddrV6.fmt]
    split_ifs <;> simp [readSocketAddrV4, readIpv4Addr_of_noDigit (noDigitAt_cons (c := '[')
      (by decide) (by decide) _)]
  simp only [SocketAddr.fromStr, SocketAddr.asBytes_toString, parseWith, readSocketAddr, hv4]
  simp [SocketAddr.fmt, readSocketAddrV6_fmt]

theorem SocketAddr.fromStr_toString_v4 (a : SocketAddrV4) :
    SocketAddr.fromStr (SocketAddr.v4 a).toString = .ok (.v4 a) := by
  simp [SocketAddr.fromStr, SocketAddr.asBytes_toString, parseWith, readSocketAddr,
    SocketAddr.fmt, readSocketAddrV4_fmt]

/-- Every address the parser can produce survives printing and parsing. -/
theorem SocketAddr.fromStr_toString (a : SocketAddr) (h : a.flowinfo = 0) :
    SocketAddr.fromStr a.toString = .ok a := by
  cases a with
  | v4 a => exact SocketAddr.fromStr_toString_v4 a
  | v6 a =>
    rw [SocketAddr.fromStr_toString_v6]
    simp only [SocketAddr.flowinfo] at h
    rw [← h]

/-- The address without its IPv6 flow label. -/
def SocketAddr.clearFlowinfo : SocketAddr → SocketAddr
  | .v4 a => .v4 a
  | .v6 a => .v6 { a with flowinfo := 0 }

/-- Printing and parsing gives every address back except for the flow label of an IPv6
address, which its text does not carry. -/
theorem SocketAddr.fromStr_toString_clearFlowinfo (a : SocketAddr) :
    SocketAddr.fromStr a.toString = .ok a.clearFlowinfo := by
  cases a with
  | v4 a => exact SocketAddr.fromStr_toString_v4 a
  | v6 a => exact SocketAddr.fromStr_toString_v6 a

theorem readSocketAddrV6_flowinfo {s rest : List UInt8} {r : SocketAddrV6}
    (h : readSocketAddrV6 s = some (r, rest)) : r.flowinfo = 0 := by
  simp only [readSocketAddrV6, Option.bind_eq_bind, Option.bind_eq_some] at h
  obtain ⟨_, -, _, -, _, -, _, -, h⟩ := h
  cases h
  rfl

/-- What `SocketAddr::from_str` produces has flow label zero. -/
theorem SocketAddr.fromStr_flowinfo {s : String} {a : SocketAddr}
    (h : SocketAddr.fromStr s = .ok a) : a.flowinfo = 0 := by
  simp only [SocketAddr.fromStr, parseWith, readSocketAddr] at h
  split at h
  · rename_i heq
    cases h
    split at heq
    · cases heq; rfl
    · obtain ⟨⟨r, rest⟩, hr, hr'⟩ := Option.map_eq_some'.mp heq
      cases hr'
      exact readSocketAddrV6_flowinfo hr
  · cases h

/-- Every address `SocketAddr::from_str` accepts prints to a text that parses back to it. -/
theorem SocketAddr.fromStr_toString_of_fromStr {s : String} {a : SocketAddr}
    (h : SocketAddr.fromStr s = .ok a) : SocketAddr.fromStr a.toString = .ok a :=
  SocketAddr.fromStr_toString a (SocketAddr.fromStr_flowinfo h)

theorem SocketAddr.fromStr_toString_of_fromStr_mapped :
    let a := SocketAddr.v6 ⟨Ipv6Addr.ofArray [0, 0, 0, 0, 0, 0xffff, 0x102, 0x304], 80, 0, 0⟩
    SocketAddr.fromStr "[::ffff:1.2.3.4]:80" = .ok a ∧ SocketAddr.fromStr a.toString = .ok a :=
  ⟨rfl, SocketAddr.fromStr_toString_of_fromStr (s := "[::ffff:1.2.3.4]:80") rfl⟩

end SozuCtl
