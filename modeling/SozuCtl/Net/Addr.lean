import SozuCtl.Text

/-! Socket addresses and their `Display`, as Rust's standard library writes them: IPv4 in
dotted decimal; IPv6 as lower-case hex segments, the longest run of two or more zero segments
written `::`, an IPv4-mapped address as `::ffff:a.b.c.d`; a non-zero scope id after `%`. The
flow label is not written. -/
namespace SozuCtl

/-- `Ipv4Addr`: the four octets. -/
structure Ipv4Addr where
  octets : List UInt8
  length_octets : octets.length = 4
  deriving DecidableEq

/-- `Ipv6Addr`: the eight segments. -/
structure Ipv6Addr where
  segments : List UInt16
  length_segments : segments.length = 8
  deriving DecidableEq

structure SocketAddrV4 where
  ip : Ipv4Addr
  port : UInt16
  deriving DecidableEq

structure SocketAddrV6 where
  ip : Ipv6Addr
  port : UInt16
  flowinfo : UInt32
  scopeId : UInt32
  deriving DecidableEq

inductive SocketAddr
  | v4 (addr : SocketAddrV4)
  | v6 (addr : SocketAddrV6)
  deriving DecidableEq

/-- `From<[u8; 4]>`: the address whose octets are the array's four cells. -/
def Ipv4Addr.ofArray (l : List Nat) : Ipv4Addr :=
  ⟨(List.range 4).map fun i => (l.getD i 0).toUInt8, by simp⟩

/-- `From<[u16; 8]>`: the address whose segments are the array's eight cells. -/
def Ipv6Addr.ofArray (l : List Nat) : Ipv6Addr :=
  ⟨(List.range 8).map fun i => (l.getD i 0).toUInt16, by simp⟩

theorem Ipv4Addr.ofArray_octets (a : Ipv4Addr) :
    Ipv4Addr.ofArray (a.octets.map UInt8.toNat) = a := by
  obtain ⟨o, ho⟩ := a
  simp only [Ipv4Addr.ofArray, Ipv4Addr.mk.injEq]
  apply List.ext_getElem (by simp [ho])
  intro i h1 h2
  simp only [List.getElem_map, List.getElem_range, List.getD_eq_getElem?_getD,
    List.getElem?_map, List.getElem?_eq_getElem h2, Option.map_some', Option.getD_some]
  exact UInt8.toNat.inj (UInt8.toNat_ofNat_of_lt (UInt8.toNat_lt_size _))

theorem Ipv6Addr.ofArray_segments (a : Ipv6Addr) :
    Ipv6Addr.ofArray (a.segments.map UInt16.toNat) = a := by
  obtain ⟨s, hs⟩ := a
  simp only [Ipv6Addr.ofArray, Ipv6Addr.mk.injEq]
  apply List.ext_getElem (by simp [hs])
  intro i h1 h2
  simp only [List.getElem_map, List.getElem_range, List.getD_eq_getElem?_getD,
    List.getElem?_map, List.getElem?_eq_getElem h2, Option.map_some', Option.getD_some]
  exact UInt16.toNat.inj (UInt16.toNat_ofNat_of_lt (UInt16.toNat_lt_size _))

/-! ### `Display` -/

/-- Items written one after the other with `sep` between them. -/
def joinWith (sep : Char) : List (List Char) → List Char
  | [] => []
  | x :: xs => x ++ xs.flatMap (sep :: ·)

/-- `Display for Ipv4Addr`: `"{}.{}.{}.{}"` over the octets. -/
def Ipv4Addr.fmt (a : Ipv4Addr) : List Char :=
  joinWith '.' (a.octets.map fun o => Nat.toDigits 10 o.toNat)

/-- `fmt_subslice`: segments in `{:x}`, separated by `:`. -/
def fmtSubslice (chunk : List UInt16) : List Char :=
  joinWith ':' (chunk.map fun segment => Nat.toDigits 16 segment.toNat)

/-- `to_ipv4_mapped`: the address `::ffff:a.b.c.d`, read back as `a.b.c.d`. -/
def Ipv6Addr.toIpv4Mapped (a : Ipv6Addr) : Option Ipv4Addr :=
  if a.segments.take 6 = [0, 0, 0, 0, 0, 0xffff] then
    let g := (a.segments.getD 6 0).toNat
    let h := (a.segments.getD 7 0).toNat
    some (Ipv4Addr.ofArray [g / 256, g % 256, h / 256, h % 256])
  else none

/-- A run of segments: `Span` in `Display for Ipv6Addr`. -/
structure Span where
  start : Nat
  len : Nat

/-- One iteration of the search for the longest run of zero segments, at index `i`: the
longest run so far and the current one. -/
def zeroesStep (acc : Span × Span) (i : Nat) (segment : UInt16) : Span × Span :=
  if segment = 0 then
    let current : Span :=
      ⟨if acc.2.len = 0 then i else acc.2.start, acc.2.len + 1⟩
    (if current.len > acc.1.len then current else acc.1, current)
  else (acc.1, ⟨0, 0⟩)

/-- The loop over `segments.iter().enumerate()`, from index `i`. -/
def zeroesLoop : Nat → Span × Span → List UInt16 → Span × Span
  | _, acc, [] => acc
  | i, acc, segment :: rest => zeroesLoop (i + 1) (zeroesStep acc i segment) rest

/-- The longest run of zero segments, the first of equal ones. -/
def zeroes (segments : List UInt16) : Span := (zeroesLoop 0 (⟨0, 0⟩, ⟨0, 0⟩) segments).1

/-- `Display for Ipv6Addr`. -/
def Ipv6Addr.fmt (a : Ipv6Addr) : List Char :=
  match a.toIpv4Mapped with
  | some ipv4 => "::ffff:".toList ++ ipv4.fmt
  | none =>
    let z := zeroes a.segments
    if z.len > 1 then
      fmtSubslice (a.segments.take z.start) ++ "::".toList ++
        fmtSubslice (a.segments.drop (z.start + z.len))
    else fmtSubslice a.segments

/-- `sp` covers zero segments of `l` only. -/
def ZeroRun (l : List UInt16) (sp : Span) : Prop :=
  sp.start + sp.len ≤ l.length ∧
    ∀ k, sp.start ≤ k → k < sp.start + sp.len → l[k]? = some 0

/-- What the search keeps: the longest run is a run of zeros, and so is the current one,
which ends at the index reached. -/
def ZeroesInv (l : List UInt16) (acc : Span × Span) : Prop :=
  ZeroRun l acc.1 ∧ (acc.2.len = 0 ∨ acc.2.start + acc.2.len = l.length ∧ ZeroRun l acc.2)

theorem ZeroRun.snoc {l : List UInt16} {sp : Span} (h : ZeroRun l sp) (x : UInt16) :
    ZeroRun (l ++ [x]) sp :=
  ⟨by have := h.1; simp; omega,
    fun k h1 h2 => by rw [List.getElem?_append_left (by have := h.1; omega)]; exact h.2 k h1 h2⟩

theorem ZeroRun.extend {l : List UInt16} {sp : Span} (h : ZeroRun l sp)
    (he : sp.start + sp.len = l.length) : ZeroRun (l ++ [0]) ⟨sp.start, sp.len + 1⟩ := by
  refine ⟨by simp; omega, fun k h1 h2 => ?_⟩
  dsimp only at h1 h2
  by_cases hk : k < l.length
  · rw [List.getElem?_append_left hk]; exact h.2 k h1 (by omega)
  · simp [show k = l.length by omega]

theorem zeroRun_last (l : List UInt16) : ZeroRun (l ++ [0]) ⟨l.length, 1⟩ :=
  ⟨by simp, fun k h1 h2 => by dsimp only at h1 h2; simp [show k = l.length by omega]⟩

theorem zeroesStep_inv {l : List UInt16} {acc : Span × Span} (h : ZeroesInv l acc)
    (x : UInt16) : ZeroesInv (l ++ [x]) (zeroesStep acc l.length x) := by
  obtain ⟨hl, hc⟩ := h
  by_cases hx : x = 0
  · subst hx
    -- the current run grows by the zero just read
    obtain ⟨cur, heq, hcur, hend⟩ : ∃ cur : Span,
        zeroesStep acc l.length 0 = (if cur.len > acc.1.len then cur else acc.1, cur) ∧
        ZeroRun (l ++ [0]) cur ∧ cur.start + cur.len = (l ++ [0]).length := by
      by_cases h0 : acc.2.len = 0
      · exact ⟨⟨l.length, 1⟩, by simp [zeroesStep, h0], zeroRun_last l, by simp⟩
      · obtain ⟨he, hr⟩ := hc.resolve_left h0
        exact ⟨⟨acc.2.start, acc.2.len + 1⟩, by simp [zeroesStep, h0], hr.extend he,
          by simp; omega⟩
    rw [heq]
    refine ⟨?_, .inr ⟨hend, hcur⟩⟩
    dsimp only
    split_ifs
    exacts [hcur, hl.snoc 0]
  · simp only [zeroesStep, hx, if_false]
    exact ⟨hl.snoc x, .inl rfl⟩

theorem zeroesLoop_inv (rest : List UInt16) :
    ∀ l acc, ZeroesInv l acc → ZeroesInv (l ++ rest) (zeroesLoop l.length acc rest) := by
  induction rest with
  | nil => intro l acc h; simpa [zeroesLoop] using h
  | cons x rest ih =>
    intro l acc h
    have := ih (l ++ [x]) _ (zeroesStep_inv h x)
    simpa [zeroesLoop] using this

theorem zeroes_run (segments : List UInt16) : ZeroRun segments (zeroes segments) :=
  (zeroesLoop_inv segments [] _
    ⟨⟨by simp, fun _ h1 h2 => by dsimp only at h1 h2; omega⟩, .inl rfl⟩).1

/-- A run of zeros splits the segments around it. -/
theorem ZeroRun.split {l : List UInt16} {sp : Span} (h : ZeroRun l sp) :
    l = l.take sp.start ++ List.replicate sp.len 0 ++ l.drop (sp.start + sp.len) := by
  have hz : (l.drop sp.start).take sp.len = List.replicate sp.len 0 := by
    rw [List.eq_replicate_iff]
    refine ⟨by have := h.1; simp; omega, fun b hb => ?_⟩
    obtain ⟨j, hj⟩ := List.mem_iff_getElem?.mp hb
    rw [List.getElem?_take] at hj
    split_ifs at hj with hjl
    · rw [List.getElem?_drop, h.2 _ (by omega) (by omega)] at hj
      exact (Option.some.inj hj).symm
  rw [← hz, List.append_assoc, ← List.drop_drop, List.take_append_drop, List.take_append_drop]

/-- `Display for SocketAddrV4`: `"{}:{}"`. -/
def SocketAddrV4.fmt (a : SocketAddrV4) : List Char :=
  a.ip.fmt ++ ':' :: Nat.toDigits 10 a.port.toNat

/-- `Display for SocketAddrV6`: `"[{}]:{}"`, or `"[{}%{}]:{}"` with a non-zero scope id. -/
def SocketAddrV6.fmt (a : SocketAddrV6) : List Char :=
  if a.scopeId = 0 then '[' :: a.ip.fmt ++ ']' :: ':' :: Nat.toDigits 10 a.port.toNat
  else '[' :: a.ip.fmt ++ '%' :: Nat.toDigits 10 a.scopeId.toNat ++
    ']' :: ':' :: Nat.toDigits 10 a.port.toNat

/-- `Display for SocketAddr`. -/
def SocketAddr.fmt : SocketAddr → List Char
  | .v4 a => a.fmt
  | .v6 a => a.fmt

/-- `to_string` of a `SocketAddr`. -/
def SocketAddr.toString (a : SocketAddr) : String := ⟨a.fmt⟩

/-- The flow label, which only IPv6 addresses carry. -/
def SocketAddr.flowinfo : SocketAddr → UInt32
  | .v4 _ => 0
  | .v6 a => a.flowinfo

/-! ### The text is ASCII -/

theorem joinWith_ascii {sep : Char} (hs : sep.toNat < 128) {xs : List (List Char)}
    (h : ∀ x ∈ xs, IsAscii x) : IsAscii (joinWith sep xs) := by
  cases xs with
  | nil => intro c hc; cases hc
  | cons x xs =>
    refine (h x (List.mem_cons_self _ _)).append fun c hc => ?_
    obtain ⟨y, hy, hcy⟩ := List.mem_flatMap.mp hc
    rcases List.mem_cons.mp hcy with rfl | hcy
    exacts [hs, h y (List.mem_cons_of_mem _ hy) c hcy]

theorem Ipv4Addr.fmt_ascii (a : Ipv4Addr) : IsAscii a.fmt :=
  joinWith_ascii (by decide) fun x hx => by
    obtain ⟨o, -, rfl⟩ := List.mem_map.mp hx
    exact toDigits_ascii (by norm_num) (by norm_num) _

theorem fmtSubslice_ascii (chunk : List UInt16) : IsAscii (fmtSubslice chunk) :=
  joinWith_ascii (by decide) fun x hx => by
    obtain ⟨o, -, rfl⟩ := List.mem_map.mp hx
    exact toDigits_ascii (by norm_num) (by norm_num) _

theorem Ipv6Addr.fmt_ascii (a : Ipv6Addr) : IsAscii a.fmt := by
  unfold Ipv6Addr.fmt
  split
  · exact IsAscii.append (by decide) (Ipv4Addr.fmt_ascii _)
  · dsimp only
    split_ifs
    · exact ((fmtSubslice_ascii _).append (by decide)).append (fmtSubslice_ascii _)
    · exact fmtSubslice_ascii _

theorem SocketAddr.fmt_ascii (a : SocketAddr) : IsAscii a.fmt := by
  have dec := toDigits_ascii (b := 10) (by norm_num) (by norm_num)
  cases a with
  | v4 a => exact a.ip.fmt_ascii.append (IsAscii.cons (by decide) (dec _))
  | v6 a =>
    simp only [SocketAddr.fmt, SocketAddrV6.fmt]
    split_ifs
    · exact (IsAscii.cons (by decide) a.ip.fmt_ascii).append
        (IsAscii.cons (by decide) (IsAscii.cons (by decide) (dec _)))
    · exact ((IsAscii.cons (by decide) a.ip.fmt_ascii).append
        (IsAscii.cons (by decide) (dec _))).append
        (IsAscii.cons (by decide) (IsAscii.cons (by decide) (dec _)))

theorem SocketAddr.asBytes_toString (a : SocketAddr) : asBytes a.toString = a.fmt.map byte :=
  asBytes_of_ascii a.fmt_ascii

end SozuCtl
