import LibreKDE.Qt.Text

/-!
# Byte arrays

`QByteArray` is a list of bytes.  Two encodings of the toolkit are used on the way to one:
UTF-8, in which a surrogate without its partner becomes a question mark, and base 64.
-/

namespace LibreKDE

/-- A byte string. -/
abbrev QByteArray := List UInt8

/-! ## UTF-8 -/

/-- The first half of a surrogate pair. -/
def isHighSurrogate (u : QChar) : Bool := 0xD800 ≤ u ∧ u < 0xDC00

/-- The second half of a surrogate pair. -/
def isLowSurrogate (u : QChar) : Bool := 0xDC00 ≤ u ∧ u < 0xE000

/-- The bytes of a code point, of as many bits as UTF-8 has room for. -/
def utf8Encode (p : ℕ) : QByteArray :=
  let tail (k : ℕ) : UInt8 := UInt8.ofNat (0x80 + p / 64 ^ k % 64)
  if p < 0x80 then [UInt8.ofNat p]
  else if p < 0x800 then [UInt8.ofNat (0xC0 + p / 64), tail 0]
  else if p < 0x10000 then [UInt8.ofNat (0xE0 + p / 64 ^ 2), tail 1, tail 0]
  else [UInt8.ofNat (0xF0 + p / 64 ^ 3), tail 2, tail 1, tail 0]

/-- The bytes of a code unit standing alone. -/
def utf8Unit (u : QChar) : QByteArray :=
  if isHighSurrogate u ∨ isLowSurrogate u then utf8Encode 0x3F else utf8Encode u.toNat

/-- `QString::toUtf8`. -/
def toUtf8 : QString → QByteArray
  | [] => []
  | [u] => utf8Unit u
  | u :: v :: s =>
      if isHighSurrogate u ∧ isLowSurrogate v then
        utf8Encode (0x10000 + (u.toNat - 0xD800) * 0x400 + (v.toNat - 0xDC00)) ++ toUtf8 s
      else utf8Unit u ++ toUtf8 (v :: s)

lemma utf8Encode_ne_nil (p : ℕ) : utf8Encode p ≠ [] := by
  unfold utf8Encode
  split_ifs <;> exact List.cons_ne_nil _ _

lemma utf8Unit_ne_nil (u : QChar) : utf8Unit u ≠ [] := by
  unfold utf8Unit
  split_ifs <;> exact utf8Encode_ne_nil _

/-- Only the empty string has no bytes. -/
lemma toUtf8_eq_nil {s : QString} : toUtf8 s = [] ↔ s = [] := by
  constructor
  · intro hnil
    match s with
    | [] => rfl
    | [u] => exact absurd hnil (utf8Unit_ne_nil u)
    | u :: v :: s =>
        rw [toUtf8] at hnil
        split_ifs at hnil
        · exact absurd (List.append_eq_nil_iff.1 hnil).1 (utf8Encode_ne_nil _)
        · exact absurd (List.append_eq_nil_iff.1 hnil).1 (utf8Unit_ne_nil u)
  · rintro rfl
    rfl

/-! ## Base 64 -/

/-- The character of a six-bit value. -/
def base64Char (n : ℕ) : UInt8 :=
  if n < 26 then UInt8.ofNat (0x41 + n)
  else if n < 52 then UInt8.ofNat (0x61 + (n - 26))
  else if n < 62 then UInt8.ofNat (0x30 + (n - 52))
  else if n = 62 then 0x2B
  else 0x2F

/-- `QByteArray::toBase64`: three bytes make four characters, padded at the end. -/
def toBase64 : QByteArray → QByteArray
  | [] => []
  | [a] =>
      [base64Char (a.toNat / 4), base64Char (a.toNat % 4 * 16), 0x3D, 0x3D]
  | [a, b] =>
      [base64Char (a.toNat / 4), base64Char (a.toNat % 4 * 16 + b.toNat / 16),
        base64Char (b.toNat % 16 * 4), 0x3D]
  | a :: b :: c :: rest =>
      base64Char (a.toNat / 4) :: base64Char (a.toNat % 4 * 16 + b.toNat / 16) ::
        base64Char (b.toNat % 16 * 4 + c.toNat / 64) :: base64Char (c.toNat % 64) ::
        toBase64 rest

/-- The bytes of an ASCII literal. -/
def bytes (s : String) : QByteArray := s.toList.map fun c => UInt8.ofNat c.toNat

example : toBase64 (bytes "light work") = bytes "bGlnaHQgd29yaw==" := by decide

end LibreKDE
