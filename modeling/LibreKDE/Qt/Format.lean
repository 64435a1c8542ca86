import LibreKDE.Framework.PlaceMarkers
import LibreKDE.Qt.Text
import Mathlib.Data.Nat.Digits.Lemmas

/-!
# `QString::arg`

The toolkit substitutes into a format string in two ways.  A call with several arguments
fills the markers in one pass.  A call with one argument replaces every occurrence of the
lowest numbered marker, so that a chain of such calls scans what its earlier links put in.

What counts as a digit of a marker is the character table's business: ASCII has its ten
digits and no others (`CharTable.ascii`), and nothing is assumed of the rest.  A marker
`%L1` takes the number as the session's locale writes it.
-/

namespace LibreKDE

open PlaceMarkers

/-- The value of an ASCII digit. -/
def asciiDigit (c : QChar) : Option ℕ :=
  if qc '0' ≤ c ∧ c ≤ qc '9' then some (c - qc '0').toNat else none

/-- The decimal digits of the character table: `QChar::digitValue`. -/
structure CharTable where
  digitValue : QChar → Option ℕ
  /-- In ASCII, the ten digits and nothing else. -/
  ascii : ∀ c < 128, digitValue c = asciiDigit c

/-- The table that knows no digit outside ASCII. -/
def CharTable.plain : CharTable where
  digitValue c := if c < 128 then asciiDigit c else none
  ascii c hc := by simp [hc]

/-- What a place marker looks like. -/
def CharTable.markers (t : CharTable) : Syntax QChar where
  escape := qc '%'
  localized := qc 'L'
  digit := t.digitValue

/-! ## Numbers as texts -/

lemma numberText_digit {d : ℕ} (hd : d < 10) : (qc '0' + UInt16.ofNat d).toNat = 48 + d := by
  have h0 : (qc '0').toNat = 48 := by decide
  simp only [UInt16.toNat_add, h0, UInt16.toNat_ofNat']
  omega

/-- A number's decimal digits, the lowest first; zero has one. -/
def decimalDigits (n : ℕ) : List ℕ := if n = 0 then [0] else Nat.digits 10 n

lemma numberText_eq (n : ℕ) :
    numberText n = (decimalDigits n).reverse.map fun d => qc '0' + UInt16.ofNat d := by
  unfold numberText decimalDigits
  split
  · rfl
  · rfl

lemma lt_of_mem_decimalDigits {n d : ℕ} (h : d ∈ decimalDigits n) : d < 10 := by
  unfold decimalDigits at h
  split at h
  · simp only [List.mem_singleton] at h
    omega
  · exact Nat.digits_lt_base (by omega) h

lemma ofDigits_decimalDigits (n : ℕ) : Nat.ofDigits 10 (decimalDigits n) = n := by
  unfold decimalDigits
  split
  · next h => simp [h]
  · exact Nat.ofDigits_digits 10 n

/-- Reading the code units back gives the digits. -/
lemma map_numberText (n : ℕ) :
    (numberText n).map (fun c => c.toNat - 48) = (decimalDigits n).reverse := by
  rw [numberText_eq, List.map_map]
  refine (List.map_congr_left fun d hd => ?_).trans (List.map_id _)
  have hlt := lt_of_mem_decimalDigits (List.mem_reverse.1 hd)
  simp [numberText_digit hlt]

lemma numberText_ne_nil (n : ℕ) : numberText n ≠ [] := by
  intro hnil
  rw [numberText_eq, List.map_eq_nil_iff, List.reverse_eq_nil_iff] at hnil
  have hvalue := ofDigits_decimalDigits n
  rw [hnil, Nat.ofDigits_nil] at hvalue
  rw [← hvalue] at hnil
  exact List.cons_ne_nil 0 [] hnil

lemma numberText_injective : Function.Injective numberText := by
  intro n m h
  have hdigits : decimalDigits n = decimalDigits m := by
    apply List.reverse_injective
    rw [← map_numberText n, ← map_numberText m, h]
  rw [← ofDigits_decimalDigits n, hdigits, ofDigits_decimalDigits m]

lemma numberText_length_mono : Monotone fun n => (numberText n).length := by
  intro n m h
  simp only [numberText_eq, List.length_map, List.length_reverse, decimalDigits]
  by_cases hn : n = 0
  · by_cases hm : m = 0
    · simp [hn, hm]
    · have hpos : 0 < (Nat.digits 10 m).length :=
        List.length_pos_iff.2 (Nat.digits_ne_nil_iff_ne_zero.2 hm)
      simp only [hn, hm, if_true, if_false, List.length_singleton]
      omega
  · have hm : m ≠ 0 := by omega
    simp only [hn, hm, if_false]
    exact Nat.le_length_digits_le 10 n m h

/-- A decimal text is made of ASCII digits. -/
lemma digit_of_mem_numberText {n : ℕ} {c : QChar} (h : c ∈ numberText n) :
    48 ≤ c.toNat ∧ c.toNat ≤ 57 := by
  rw [numberText_eq] at h
  obtain ⟨d, hd, rfl⟩ := List.mem_map.1 h
  have hlt := lt_of_mem_decimalDigits (List.mem_reverse.1 hd)
  rw [numberText_digit hlt]
  omega

/-- `s.toULongLong(&ok)`; `none` where the text is not the decimal writing of a number of 64 bits.
White space around the number and a plus sign before it are let pass. -/
def QString.toULongLong (t : CharClasses) (s : QString) : Option ℕ :=
  let s := s.trimmed t
  let digits := if s.head? = some (qc '+') then s.tail else s
  let n := Nat.ofDigits 10 (digits.reverse.map fun c => c.toNat - 48)
  if digits ≠ [] ∧ (digits.all fun c => (asciiDigit c).isSome) ∧ n < 2 ^ 64 then some n else none

/-- No digit is white space, and so trimming leaves a number as it is. -/
def CharClasses.DigitsShow (t : CharClasses) : Prop :=
  ∀ c, qc '0' ≤ c → c ≤ qc '9' → t.isSpace c = false

lemma CharClasses.digitsShow_plain : CharClasses.plain.DigitsShow := by
  intro c hle hge
  have h48 : 48 ≤ c.toNat := UInt16.le_iff_toNat_le.1 hle
  simp only [plain, UInt16.le_iff_toNat_le, ← UInt16.toNat_inj, decide_eq_false_iff_not]
  intro hspace
  rcases hspace with heq | ⟨-, hle13⟩
  · rw [heq] at h48
    revert h48
    decide
  · have h13 : c.toNat ≤ 13 := hle13
    omega

lemma trimmed_of_not_space {t : CharClasses} {s : QString} (hs : ∀ c ∈ s, t.isSpace c = false) :
    s.trimmed t = s := by
  have hdrop : ∀ {l : QString}, (∀ c ∈ l, t.isSpace c = false) → l.dropWhile t.isSpace = l := by
    intro l hl
    cases l with
    | nil => rfl
    | cons c l =>
        rw [List.dropWhile_cons_of_neg]
        simp [hl c List.mem_cons_self]
  rw [QString.trimmed, hdrop hs, hdrop fun c hc => hs c (List.mem_reverse.1 hc),
    List.reverse_reverse]

/-- A number written out reads back, if it has 64 bits. -/
lemma toULongLong_numberText {t : CharClasses} (ht : t.DigitsShow) {n : ℕ} (hn : n < 2 ^ 64) :
    (numberText n).toULongLong t = some n := by
  have hdigit : ∀ c ∈ numberText n, qc '0' ≤ c ∧ c ≤ qc '9' := by
    intro c hc
    obtain ⟨hlo, hhi⟩ := digit_of_mem_numberText hc
    exact ⟨UInt16.le_iff_toNat_le.2 hlo, UInt16.le_iff_toNat_le.2 hhi⟩
  -- toULongLong() trims and takes a sign: a text of digits offers neither.
  have htrim : (numberText n).trimmed t = numberText n :=
    trimmed_of_not_space fun c hc => ht c (hdigit c hc).1 (hdigit c hc).2
  have hne : numberText n ≠ [] := numberText_ne_nil n
  have hsign : (numberText n).head? ≠ some (qc '+') := by
    intro hhead
    have hlo := (digit_of_mem_numberText (List.mem_of_mem_head? hhead)).1
    revert hlo
    decide
  have hvalue : Nat.ofDigits 10 ((numberText n).reverse.map fun c => c.toNat - 48) = n := by
    rw [List.map_reverse, map_numberText, List.reverse_reverse, ofDigits_decimalDigits]
  have hall : (numberText n).all fun c => (asciiDigit c).isSome := by
    rw [List.all_eq_true]
    intro c hc
    rw [asciiDigit, if_pos (hdigit c hc)]
    rfl
  simp only [QString.toULongLong, htrim, if_neg hsign, hvalue]
  rw [if_pos ⟨hne, hall, hn⟩]

/-- `QString::number`, as a numbering. -/
def decimal : PlaceMarkers.Numbering QChar where
  text := numberText
  injective := numberText_injective
  length_mono := numberText_length_mono

/-! ## Substitution -/

/-- `s.arg(a)`. -/
def QString.arg (t : CharTable) (s a : QString) : QString := t.markers.arg a a s

/-- `s.arg(n)` for a number; `loc` is how the session's locale writes it. -/
def QString.argNumber (t : CharTable) (loc : PlaceMarkers.Numbering QChar) (s : QString) (n : ℕ) :
    QString :=
  t.markers.arg (numberText n) (loc.text n) s

/-- `s.arg(a, b, …)`. -/
def QString.args (t : CharTable) (s : QString) (as : List QString) : QString :=
  t.markers.args as s

/-! ## The session -/

/-- What a process draws on from the toolkit's tables and the user's settings. -/
structure Session where
  digits : CharTable
  /-- Numbers as the session's locale writes them. -/
  numbers : PlaceMarkers.Numbering QChar
  /-- The message catalogue. -/
  locale : Locale
  /-- The client library's `installHelpUrl`. -/
  installHelpUrl : QString := []

/-- A session without a catalogue, where numbers are written as programs write them. -/
def Session.plain : Session where
  digits := .plain
  numbers := decimal
  locale := .untranslated

section Literals

variable (t : CharTable)

/-- A string of ASCII characters is cut the same way by every table. -/
lemma pieces_ascii {s : QString} (hs : s.all fun c => c < 128) :
    t.markers.pieces s = CharTable.plain.markers.pieces s := by
  have h : ∀ c ∈ s, t.digitValue c = CharTable.plain.markers.digit c := by
    intro c hc
    have hlt : c < 128 := of_decide_eq_true (List.all_eq_true.1 hs c hc)
    simp [CharTable.markers, t.ascii c hlt, CharTable.plain.ascii c hlt]
  exact Syntax.pieces_congr (x := CharTable.plain.markers) h

end Literals

end LibreKDE
