import LibreKDE.Framework.Chunks
import LibreKDE.Kio.CardRenderers
import LibreKDE.Qt.Base64

/-!
# The PEM export

`derToPem` writes the base 64 of a certificate in lines of 64 characters between two framing
lines.  What it writes reads back as the certificate: without the framing lines and the line
breaks it is the base 64 again (`pemPayload_derToPem`).

The loop that writes the lines counts the characters written in an `int`, while the text it walks
is as long as memory allows.  The counter passes the end by up to 63 before the loop looks at it,
so in the last 63 lengths below `2 ^ 31` the addition already overflows, which has no defined
result.  `derToPem?` is the export with that counter: it is `derToPem` where no addition
overflows (`derToPem?_eq`), and `derToPem?_isPem_iff` says that this is when the text is at most
`2 ^ 31 - 64` long.
-/

namespace LibreKDE.Kio

open Chunks

/-- The greatest `int`. -/
def intMax : ℕ := 2 ^ 31 - 1

/-- The loop of `derToPem` from the counter `i` on, and `none` where the counter overflows. -/
def wrapLoop (b64 : QByteArray) (i : ℕ) (pem : QByteArray) : Option QByteArray :=
  if i < b64.length then
    if i + 64 ≤ intMax then
      wrapLoop b64 (i + 64) (pem ++ (b64.drop i).take 64 ++ bytes "\n")
    else none
  else some pem
termination_by b64.length - i

/-- `derToPem`, and `none` where the `int` of its loop overflows. -/
def derToPem? (der : QByteArray) : Option QByteArray := do
  let pem ← wrapLoop (toBase64 der) 0 (bytes "-----BEGIN CERTIFICATE-----\n")
  return pem ++ bytes "-----END CERTIFICATE-----\n"

/-! ## The lines -/

/-- The line break. -/
def newline : UInt8 := 0x0A

/-- The two framing lines, without their line breaks. -/
def beginLine : QByteArray := bytes "-----BEGIN CERTIFICATE-----"
/-- The last line of the armour. -/
def endLine : QByteArray := bytes "-----END CERTIFICATE-----"

/-- The text without its framing lines and its line breaks. -/
def pemPayload (pem : QByteArray) : QByteArray :=
  ((pem.splitOn newline).filter fun l => l ≠ beginLine ∧ l ≠ endLine).flatten

/-- The text is the PEM of the certificate, with these lines between the framing lines. -/
structure IsPem (der pem : QByteArray) (body : List QByteArray) : Prop where
  text : pem = beginLine ++ [newline] ++ (body.flatMap fun l => l ++ [newline]) ++
    (endLine ++ [newline])
  line : ∀ l ∈ body, newline ∉ l
  full : ∀ l ∈ body.dropLast, l.length = 64
  last : ∀ l ∈ body.getLast?, 1 ≤ l.length ∧ l.length ≤ 64
  empty : body = [] ↔ der = []
  payload : fromBase64 (pemPayload pem) = some der

/-- The lines between the framing lines: 64 characters each, but for the last. -/
def pemLines (der : QByteArray) : List QByteArray := chunks 63 (toBase64 der)

lemma pemBody_eq (b64 : QByteArray) :
    pemBody b64 = (chunks 63 b64).flatMap fun l => l ++ [newline] := by
  induction b64 using pemBody.induct with
  | case1 => simp [pemBody]
  | case2 c rest ih =>
      rw [pemBody, ih, chunks_cons, List.flatMap_cons]
      rfl

lemma derToPem_eq (der : QByteArray) :
    derToPem der = beginLine ++ [newline] ++ ((pemLines der).flatMap fun l => l ++ [newline]) ++
      (endLine ++ [newline]) := by
  rw [derToPem, pemBody_eq]
  rfl

lemma newline_notMem_pemLines {der l : QByteArray} (hl : l ∈ pemLines der) : newline ∉ l :=
  fun hmem => newline_notMem_toBase64 der (mem_of_mem_chunks hl hmem)

/-- A line of the body is not a framing line: those have dashes. -/
lemma ne_framing_of_mem_pemLines {der l : QByteArray} (hl : l ∈ pemLines der) :
    l ≠ beginLine ∧ l ≠ endLine := by
  have hdash : 0x2D ∉ l := fun hmem => dash_notMem_toBase64 der (mem_of_mem_chunks hl hmem)
  constructor
  · rintro rfl
    exact hdash (by decide)
  · rintro rfl
    exact hdash (by decide)

lemma splitOn_derToPem (der : QByteArray) :
    (derToPem der).splitOn newline = beginLine :: (pemLines der ++ [endLine, []]) := by
  have hlines : derToPem der =
      (beginLine :: (pemLines der ++ [endLine])).flatMap fun l => l ++ [newline] := by
    rw [derToPem_eq, List.flatMap_cons, List.flatMap_append, List.flatMap_singleton,
      List.append_assoc]
  rw [hlines, splitOn_lines]
  · simp
  -- Neither the armour nor the base64 alphabet holds a newline.
  · intro l hl
    rcases List.mem_cons.1 hl with rfl | hl
    · decide
    · rcases List.mem_append.1 hl with hbody | hend
      · exact newline_notMem_pemLines hbody
      · rw [List.mem_singleton.1 hend]
        decide

/-- Without its framing the export is the base 64 of the certificate. -/
lemma pemPayload_derToPem (der : QByteArray) : pemPayload (derToPem der) = toBase64 der := by
  have hbody : (pemLines der).filter (fun l => l ≠ beginLine ∧ l ≠ endLine) = pemLines der :=
    List.filter_eq_self.2 fun l hl => by simpa using ne_framing_of_mem_pemLines hl
  have hframe : ([endLine, []] : List QByteArray).filter
      (fun l => l ≠ beginLine ∧ l ≠ endLine) = [[]] := by decide
  rw [pemPayload, splitOn_derToPem, List.filter_cons_of_neg (by simp), List.filter_append, hbody,
    hframe, List.flatten_append, pemLines, flatten_chunks]
  simp

lemma derToPem_isPem (der : QByteArray) : IsPem der (derToPem der) (pemLines der) where
  text := derToPem_eq der
  line := fun _ hl => newline_notMem_pemLines hl
  full := fun _ hl => length_of_mem_dropLast_chunks hl
  last := fun _ hl => length_of_mem_chunks (List.mem_of_getLast? hl)
  empty := chunks_eq_nil.trans toBase64_eq_nil
  payload := by rw [pemPayload_derToPem, fromBase64_toBase64]

/-! ## The counter -/

lemma pemBody_drop {b64 : QByteArray} {i : ℕ} (hi : i < b64.length) :
    pemBody (b64.drop i) =
      (b64.drop i).take 64 ++ bytes "\n" ++ pemBody (b64.drop (i + 64)) := by
  rw [← List.drop_drop]
  cases hrest : b64.drop i with
  | nil => exact absurd (List.drop_eq_nil_iff.1 hrest) (by omega)
  | cons c rest => rw [pemBody]

/-- Where no addition overflows the loop writes the lines of what is left. -/
lemma wrapLoop_eq_some {b64 : QByteArray} (hlength : b64.length ≤ 2 ^ 31 - 64) (i : ℕ)
    (pem : QByteArray) : wrapLoop b64 i pem = some (pem ++ pemBody (b64.drop i)) := by
  induction i, pem using wrapLoop.induct b64 with
  | case1 i pem hi hint ih =>
      rw [wrapLoop, if_pos hi, if_pos hint, ih, pemBody_drop hi]
      simp only [List.append_assoc]
  | case2 i pem hi hint =>
      unfold intMax at hint
      omega
  | case3 i pem hi =>
      rw [wrapLoop, if_neg hi, List.drop_eq_nil_of_le (by omega), pemBody, List.append_nil]

/-- A longer text takes the counter to its last multiple of 64, and past it. -/
lemma wrapLoop_eq_none {b64 : QByteArray} (hlength : 2 ^ 31 - 64 < b64.length) {i : ℕ}
    (hi : 64 ∣ i) (hle : i ≤ 2 ^ 31 - 64) (pem : QByteArray) : wrapLoop b64 i pem = none := by
  induction i, pem using wrapLoop.induct b64 with
  | case1 i pem hlt hint ih =>
      rw [wrapLoop, if_pos hlt, if_pos hint]
      unfold intMax at hint
      exact ih (by omega) (by omega)
  | case2 i pem hlt hint => rw [wrapLoop, if_pos hlt, if_neg hint]
  | case3 i pem hlt => omega

lemma derToPem?_eq {der : QByteArray} (hlength : (toBase64 der).length ≤ 2 ^ 31 - 64) :
    derToPem? der = some (derToPem der) := by
  rw [derToPem?, wrapLoop_eq_some hlength]
  rfl

lemma derToPem?_eq_none {der : QByteArray} (hlength : 2 ^ 31 - 64 < (toBase64 der).length) :
    derToPem? der = none := by
  rw [derToPem?, wrapLoop_eq_none hlength (Nat.dvd_zero 64) (Nat.zero_le _)]
  rfl

/-- The export is the PEM of the certificate exactly when its base 64 is no longer than the
greatest multiple of 64 that an `int` holds. -/
theorem derToPem?_isPem_iff (der : QByteArray) :
    (∃ pem body, derToPem? der = some pem ∧ IsPem der pem body) ↔
      (toBase64 der).length ≤ 2 ^ 31 - 64 := by
  constructor
  · rintro ⟨pem, body, hpem, -⟩
    by_contra hlong
    rw [derToPem?_eq_none (by omega)] at hpem
    exact absurd hpem (by simp)
  · intro hlength
    exact ⟨derToPem der, pemLines der, derToPem?_eq hlength, derToPem_isPem der⟩

/-- Below `2 ^ 31`, and too long. -/
theorem derToPem?_overflow :
    (toBase64 (List.replicate (3 * (2 ^ 29 - 15)) 0)).length < 2 ^ 31 ∧
      ¬ ∃ pem body, derToPem? (List.replicate (3 * (2 ^ 29 - 15)) 0) = some pem ∧
        IsPem (List.replicate (3 * (2 ^ 29 - 15)) 0) pem body := by
  have hlength : (toBase64 (List.replicate (3 * (2 ^ 29 - 15)) 0)).length = 2 ^ 31 - 60 := by
    rw [length_toBase64, List.length_replicate]
    norm_num
  refine ⟨by rw [hlength]; norm_num, ?_⟩
  rintro ⟨pem, body, hpem, -⟩
  rw [derToPem?_eq_none (by rw [hlength]; norm_num)] at hpem
  exact absurd hpem (by simp)

end LibreKDE.Kio
