import LibreKDE.Qt.Bytes

/-!
# Reading base 64 back

The padded form that `toBase64` writes has one reading, `fromBase64`: four characters make three
bytes, and the last four may end in one or two pads, whose spare bits are zero.  The writer's
output reads back as what was written, for every byte string (`fromBase64_toBase64`).
-/

namespace LibreKDE

/-- The pad. -/
def base64Pad : UInt8 := 0x3D

/-- The six-bit value of a character, where it has one. -/
def base64Value (c : UInt8) : Option ℕ :=
  if 0x41 ≤ c ∧ c ≤ 0x5A then some (c.toNat - 0x41)
  else if 0x61 ≤ c ∧ c ≤ 0x7A then some (c.toNat - 0x61 + 26)
  else if 0x30 ≤ c ∧ c ≤ 0x39 then some (c.toNat - 0x30 + 52)
  else if c = 0x2B then some 62
  else if c = 0x2F then some 63
  else none

/-- The bytes of the last four characters, where they end in pads. -/
def fromBase64Last (c d e : UInt8) : Option QByteArray := do
  let v ← base64Value c
  let w ← base64Value d
  if e = base64Pad then
    if w % 16 = 0 then return [UInt8.ofNat (v * 4 + w / 16)] else none
  else
    let x ← base64Value e
    if x % 4 = 0 then
      return [UInt8.ofNat (v * 4 + w / 16), UInt8.ofNat (w % 16 * 16 + x / 4)]
    else none

/-- The bytes of padded base 64, where the text is that. -/
def fromBase64 : QByteArray → Option QByteArray
  | [] => some []
  | c :: d :: e :: f :: rest =>
      -- Padding may stand in the last group only.
      if f = base64Pad then
        if rest = [] then fromBase64Last c d e else none
      else do
        let v ← base64Value c
        let w ← base64Value d
        let x ← base64Value e
        let y ← base64Value f
        let tail ← fromBase64 rest
        return UInt8.ofNat (v * 4 + w / 16) :: UInt8.ofNat (w % 16 * 16 + x / 4) ::
          UInt8.ofNat (x % 4 * 64 + y) :: tail
  | _ => none

/-! ## The alphabet -/

lemma base64Value_base64Char {n : ℕ} (hn : n < 64) : base64Value (base64Char n) = some n := by
  decide +revert

lemma base64Char_ne_pad {n : ℕ} (hn : n < 64) : base64Char n ≠ base64Pad := by
  decide +revert

/-- No character is the line break or the dash. -/
lemma base64Char_ne_framing {n : ℕ} (hn : n < 64) :
    base64Char n ≠ 0x0A ∧ base64Char n ≠ 0x2D := by
  decide +revert

/-- What `toBase64` writes is of the alphabet or the pad. -/
lemma mem_toBase64 {s : QByteArray} {c : UInt8} (hc : c ∈ toBase64 s) :
    (∃ n, n < 64 ∧ c = base64Char n) ∨ c = base64Pad := by
  induction s using toBase64.induct with
  | case1 => exact absurd hc (by simp [toBase64])
  | case2 a =>
      have ha := a.toNat_lt
      simp only [toBase64, List.mem_cons, List.not_mem_nil, or_false] at hc
      rcases hc with rfl | rfl | rfl | rfl
      · exact .inl ⟨_, by omega, rfl⟩
      · exact .inl ⟨_, by omega, rfl⟩
      · exact .inr rfl
      · exact .inr rfl
  | case3 a b =>
      have ha := a.toNat_lt
      have hb := b.toNat_lt
      simp only [toBase64, List.mem_cons, List.not_mem_nil, or_false] at hc
      rcases hc with rfl | rfl | rfl | rfl
      · exact .inl ⟨_, by omega, rfl⟩
      · exact .inl ⟨_, by omega, rfl⟩
      · exact .inl ⟨_, by omega, rfl⟩
      · exact .inr rfl
  | case4 a b c' rest ih =>
      have ha := a.toNat_lt
      have hb := b.toNat_lt
      have hc' := c'.toNat_lt
      simp only [toBase64, List.mem_cons] at hc
      rcases hc with rfl | rfl | rfl | rfl | hrest
      · exact .inl ⟨_, by omega, rfl⟩
      · exact .inl ⟨_, by omega, rfl⟩
      · exact .inl ⟨_, by omega, rfl⟩
      · exact .inl ⟨_, by omega, rfl⟩
      · exact ih hrest

lemma newline_notMem_toBase64 (s : QByteArray) : 0x0A ∉ toBase64 s := by
  intro hmem
  rcases mem_toBase64 hmem with ⟨n, hn, hchar⟩ | hpad
  · exact (base64Char_ne_framing hn).1 hchar.symm
  · exact absurd hpad (by decide)

lemma dash_notMem_toBase64 (s : QByteArray) : 0x2D ∉ toBase64 s := by
  intro hmem
  rcases mem_toBase64 hmem with ⟨n, hn, hchar⟩ | hpad
  · exact (base64Char_ne_framing hn).2 hchar.symm
  · exact absurd hpad (by decide)

/-! ## Lengths -/

lemma length_toBase64 (s : QByteArray) : (toBase64 s).length = 4 * ((s.length + 2) / 3) := by
  induction s using toBase64.induct with
  | case1 => rfl
  | case2 a => simp [toBase64]
  | case3 a b => simp [toBase64]
  | case4 a b c rest ih =>
      simp only [toBase64, List.length_cons, ih]
      omega

lemma toBase64_eq_nil {s : QByteArray} : toBase64 s = [] ↔ s = [] := by
  rw [← List.length_eq_zero_iff, length_toBase64, ← List.length_eq_zero_iff]
  omega

/-! ## The round trip -/

/-- A byte is read back from its value. -/
private lemma ofNat_eq_byte {n : ℕ} {a : UInt8} (hn : n = a.toNat) : UInt8.ofNat n = a := by
  rw [hn, UInt8.ofNat_toNat]

/-- The first byte of a group is split over two characters. -/
private lemma ofNat_first (a b : UInt8) :
    UInt8.ofNat (a.toNat / 4 * 4 + (a.toNat % 4 * 16 + b.toNat / 16) / 16) = a := by
  have hb := b.toNat_lt
  exact ofNat_eq_byte (by omega)

theorem fromBase64_toBase64 (s : QByteArray) : fromBase64 (toBase64 s) = some s := by
  induction s using toBase64.induct with
  | case1 => rfl
  | case2 a =>
      have ha := a.toNat_lt
      rw [toBase64, fromBase64, if_pos (by rfl), if_pos rfl, fromBase64Last,
        base64Value_base64Char (by omega), base64Value_base64Char (by omega)]
      have hbyte : UInt8.ofNat (a.toNat / 4 * 4 + a.toNat % 4 * 16 / 16) = a :=
        ofNat_eq_byte (by omega)
      have hspare : a.toNat % 4 * 16 % 16 = 0 := by omega
      simp only [Option.bind_eq_bind, Option.bind_some]
      rw [if_pos (by rfl), if_pos hspare, hbyte]
      rfl
  | case3 a b =>
      have ha := a.toNat_lt
      have hb := b.toNat_lt
      rw [toBase64, fromBase64, if_pos (by rfl), if_pos rfl, fromBase64Last,
        base64Value_base64Char (by omega), base64Value_base64Char (by omega),
        base64Value_base64Char (by omega)]
      have hsecond : UInt8.ofNat
          ((a.toNat % 4 * 16 + b.toNat / 16) % 16 * 16 + b.toNat % 16 * 4 / 4) = b :=
        ofNat_eq_byte (by omega)
      have hspare : b.toNat % 16 * 4 % 4 = 0 := by omega
      simp only [Option.bind_eq_bind, Option.bind_some]
      rw [if_neg (base64Char_ne_pad (by omega)), if_pos hspare, ofNat_first, hsecond]
      rfl
  | case4 a b c rest ih =>
      have ha := a.toNat_lt
      have hb := b.toNat_lt
      have hc := c.toNat_lt
      rw [toBase64, fromBase64, if_neg (base64Char_ne_pad (by omega)),
        base64Value_base64Char (by omega), base64Value_base64Char (by omega),
        base64Value_base64Char (by omega), base64Value_base64Char (by omega), ih]
      have hsecond : UInt8.ofNat ((a.toNat % 4 * 16 + b.toNat / 16) % 16 * 16 +
          (b.toNat % 16 * 4 + c.toNat / 64) / 4) = b := ofNat_eq_byte (by omega)
      have hthird : UInt8.ofNat
          ((b.toNat % 16 * 4 + c.toNat / 64) % 4 * 64 + c.toNat % 64) = c :=
        ofNat_eq_byte (by omega)
      simp only [Option.bind_eq_bind, Option.bind_some]
      rw [ofNat_first, hsecond, hthird]
      rfl

end LibreKDE
