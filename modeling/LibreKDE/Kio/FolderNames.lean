import LibreKDE.Kio.CardWorkerLogic

/-!
# What a certificate folder is called

`buildCertFolders` glues a folder's name from three parts: a purpose, the short id in
brackets, and for a repeated name an ordinal.  This file takes it apart again.

The base name is substituted in one pass, and an id in it is never scanned
(`stableCertFolderName_eq`).  The ordinal comes in a second pass over the finished base name,
and so replaces the lowest marker *there*: the one meant for it only as long as the short id
holds no marker as low (`suffixedName_eq`).
-/

namespace LibreKDE.Kio

open PlaceMarkers

namespace CardWorkerLogic

variable (q : Session)

/-- The first eight characters of the id. -/
def shortId (c : CertificateInfo) : QString := c.id.take 8

/-- What precedes the short id in the base name. -/
def namePrefix (c : CertificateInfo) : QString :=
  let purpose := primaryPurpose c.keyUsageBits defaultRenderLabels
  if purpose = [] then qs "Certificate (" else purpose ++ qs " ("

/-- The number of the marker that the ordinal replaces in a short id: its own lowest below
`%2`, and else the one meant for it. -/
def target (x : QString) : ℕ := ((lowest (q.digits.markers.pieces x)).map (min 2)).getD 2

/-- A short id, after an ordinal was substituted into the name around it. -/
def fillShort (x : QString) (k : ℕ) : QString :=
  fill (target q x) (numberText k) (q.numbers.text k) (q.digits.markers.pieces x)

/-- What the ordinal's own marker has become: the ordinal, or the bare marker where the id had a
lower one. -/
def ordinalText (x : QString) (k : ℕ) : QString :=
  if target q x = 2 then numberText k else qs "%2"

/-! ## Purposes -/

/-- The purposes a base name can have. -/
def purposes : List QString :=
  [qs "Digital Signature", qs "Authentication", qs "Key Encipherment", qs "Data Encipherment",
    qs "Key Agreement", qs "Certificate Signing", qs "CRL Signing", qs "Encipher Only",
    qs "Decipher Only"]

lemma primaryPurpose_mem (bits : UInt32) :
    primaryPurpose bits defaultRenderLabels = [] ∨
      primaryPurpose bits defaultRenderLabels ∈ purposes := by
  -- Seven usage bits have a name; signing and authentication are tested before them.
  have husage : ∀ i ∈ List.range' 2 7, usageName i defaultRenderLabels ∈ purposes := by decide
  unfold primaryPurpose
  split
  · exact .inr (by decide)
  · split
    · exact .inr (by decide)
    · split
      · next i hi => exact .inr (husage i (List.mem_of_find?_eq_some hi))
      · exact .inl rfl

/-- The bracket before the short id is the first, and nothing before it is a marker. -/
lemma namePrefix_eq (c : CertificateInfo) :
    ∃ p, namePrefix c = p ++ [qc '('] ∧ qc '(' ∉ p ∧ qc '%' ∉ p := by
  have hpurpose : ∀ p ∈ purposes, qc '(' ∉ p ++ qs " " ∧ qc '%' ∉ p ++ qs " " := by decide
  unfold namePrefix
  dsimp only
  split
  · exact ⟨qs "Certificate ", by decide, by decide, by decide⟩
  · next hne =>
      have hmem := (primaryPurpose_mem c.keyUsageBits).resolve_left hne
      refine ⟨primaryPurpose c.keyUsageBits defaultRenderLabels ++ qs " ", ?_, hpurpose _ hmem⟩
      rw [List.append_assoc]
      rfl

/-! ## The two passes -/

/-- Brackets and blanks can stand in no marker. -/
lemma plain_of_ascii {c : QChar} (hc : c < 128)
    (hplain : CharTable.plain.markers.Plain c) : q.digits.markers.Plain c where
  not_escape := hplain.not_escape
  not_localized := hplain.not_localized
  not_digit := by
    have hd := hplain.not_digit
    simp only [CharTable.markers, CharTable.plain.ascii c hc] at hd
    simp only [CharTable.markers, q.digits.ascii c hc, hd]

lemma plain_open : q.digits.markers.Plain (qc '(') :=
  plain_of_ascii q (by decide) ⟨by decide, by decide, by decide⟩

lemma plain_close : q.digits.markers.Plain (qc ')') :=
  plain_of_ascii q (by decide) ⟨by decide, by decide, by decide⟩

/-- The base name: the short id is substituted as it is. -/
lemma stableCertFolderName_eq (c : CertificateInfo) :
    stableCertFolderName q c = namePrefix c ++ (shortId c ++ [qc ')']) := by
  have hfallback : q.digits.markers.pieces (qs "Certificate (%1)") =
      (qs "Certificate (").map .char ++ [.marker 1 false (qs "%1"), .char (qc ')')] := by
    rw [pieces_ascii _ (by decide)]
    decide
  have hnamed : q.digits.markers.pieces (qs "%1 (%2)") =
      [.marker 1 false (qs "%1"), .char (qc ' '), .char (qc '('), .marker 2 false (qs "%2"),
        .char (qc ')')] := by
    rw [pieces_ascii _ (by decide)]
    decide
  unfold stableCertFolderName namePrefix
  dsimp only
  split
  · have hlowest : lowest ((qs "Certificate (").map .char ++
        [Piece.marker 1 false (qs "%1"), .char (qc ')')]) = some 1 := by decide
    simp only [QString.arg, Syntax.arg, hfallback, hlowest]
    rw [fill_append, fill_map_char, fill_marker, if_pos rfl]
    rfl
  -- The two-argument arg() fills both places in one pass, so an id with a marker in it stays.
  · have hargs : ∀ p x : QString, (qs "%1 (%2)").args q.digits [p, x] =
        p ++ ([qc ' ', qc '('] ++ (x ++ [qc ')'])) := by
      intro p x
      simp only [QString.args, Syntax.args, hnamed]
      rfl
    rw [hargs, ← List.append_assoc]
    rfl

/-- The first half of the ordinal's pass appends to the base name. -/
lemma arg_ordinal (base : QString) :
    (qs "%1 ~%2").arg q.digits base = base ++ qs " ~%2" := by
  have hpieces : q.digits.markers.pieces (qs "%1 ~%2") =
      .marker 1 false (qs "%1") :: (qs " ~").map .char ++ [.marker 2 false (qs "%2")] := by
    rw [pieces_ascii _ (by decide)]
    decide
  have hlowest : lowest (Piece.marker 1 false (qs "%1") :: (qs " ~").map .char ++
      [Piece.marker 2 false (qs "%2")]) = some 1 := by decide
  simp only [QString.arg, Syntax.arg, hpieces, hlowest]
  rfl

/-- The finished base name, with the ordinal's marker behind it, as the second pass scans
it. -/
lemma pieces_ordinal (c : CertificateInfo) :
    q.digits.markers.pieces (stableCertFolderName q c ++ qs " ~%2") =
      (namePrefix c).map .char ++ (q.digits.markers.pieces (shortId c) ++
        ((qs ") ~").map .char ++ [.marker 2 false (qs "%2")])) := by
  have hrest : q.digits.markers.pieces (qs " ~%2") =
      (qs " ~").map .char ++ [.marker 2 false (qs "%2")] := by
    rw [pieces_ascii _ (by decide)]
    decide
  -- Neither the words nor the brackets can join a marker of the id, so the scan splits at them.
  obtain ⟨p, hp, -, hescape⟩ := namePrefix_eq c
  have hshort : q.digits.markers.pieces (shortId c ++ qc ')' :: qs " ~%2") =
      q.digits.markers.pieces (shortId c) ++
        ((qs ") ~").map .char ++ [.marker 2 false (qs "%2")]) := by
    rw [Syntax.pieces_append (plain_close q), hrest]
    rfl
  have hbase : stableCertFolderName q c ++ qs " ~%2" =
      p ++ qc '(' :: (shortId c ++ qc ')' :: qs " ~%2") := by
    rw [stableCertFolderName_eq, hp]
    simp
  rw [hbase, Syntax.pieces_of_not_escape hescape, ← List.nil_append (qc '(' :: _),
    Syntax.pieces_append (plain_open q), hshort, hp]
  simp [Syntax.pieces, Syntax.scan]

lemma lowest_ordinal (c : CertificateInfo) :
    lowest (q.digits.markers.pieces (stableCertFolderName q c ++ qs " ~%2")) =
      some (target q (shortId c)) := by
  have hmarker : lowest ((qs ") ~").map .char ++ [Piece.marker 2 false (qs "%2")]) = some 2 := by
    decide
  rw [pieces_ordinal, lowest_append, lowest_map_char, lowest_append, hmarker]
  unfold target
  cases lowest (q.digits.markers.pieces (shortId c)) with
  | none => rfl
  | some n => simp [Nat.min_comm]

lemma suffixedName_zero (base : QString) : suffixedName q base 0 = base := if_pos rfl

/-- A repeated name: what the ordinal made of the short id, and of its own marker. -/
lemma suffixedName_eq (c : CertificateInfo) {n : ℕ} (hn : n ≠ 0) :
    suffixedName q (stableCertFolderName q c) n =
      namePrefix c ++ (fillShort q (shortId c) (n + 1) ++
        qc ')' :: (qs " ~" ++ ordinalText q (shortId c) (n + 1))) := by
  rw [suffixedName, if_neg hn, arg_ordinal, QString.argNumber, Syntax.arg, lowest_ordinal]
  have hown : fill (target q (shortId c)) (numberText (n + 1)) (q.numbers.text (n + 1))
      [.marker 2 false (qs "%2")] = ordinalText q (shortId c) (n + 1) := by
    rw [fill_marker, fill_nil, List.append_nil, ordinalText]
    exact if_congr eq_comm rfl rfl
  simp only [pieces_ordinal, fill_append, fill_map_char, hown]
  rfl

/-! ## Taking a name apart -/

/-- The last character of its kind cuts a string in one way. -/
lemma append_cons_inj_last {a : QChar} {x x' z z' : QString} (hz : a ∉ z) (hz' : a ∉ z')
    (h : x ++ a :: z = x' ++ a :: z') : x = x' ∧ z = z' := by
  have hrev : z.reverse ++ a :: x.reverse = z'.reverse ++ a :: x'.reverse := by
    simpa using congrArg List.reverse h
  have htake := congrArg (List.takeWhile (· ≠ a)) hrev
  -- Read from behind: both sides stop at their last `a`.
  have hstop : ∀ y w : QString, a ∉ y → (y.reverse ++ a :: w).takeWhile (· ≠ a) = y.reverse := by
    intro y w hy
    have hall : ∀ c ∈ y.reverse, (c ≠ a : Bool) = true := by
      intro c hc
      have hca : c ≠ a := fun hca => hy (hca ▸ List.mem_reverse.1 hc)
      simpa using hca
    rw [List.takeWhile_append_of_pos hall]
    simp
  rw [hstop z _ hz, hstop z' _ hz'] at htake
  have hzz : z = z' := List.reverse_injective htake
  subst hzz
  exact ⟨List.append_cancel_right h, rfl⟩

/-- The first character of its kind cuts a string in one way. -/
lemma append_cons_inj_first {a : QChar} {x x' z z' : QString} (hx : a ∉ x) (hx' : a ∉ x')
    (h : x ++ a :: z = x' ++ a :: z') : x = x' ∧ z = z' := by
  have hrev : z.reverse ++ a :: x.reverse = z'.reverse ++ a :: x'.reverse := by
    simpa using congrArg List.reverse h
  obtain ⟨hz, hx⟩ := append_cons_inj_last (by simpa using hx) (by simpa using hx') hrev
  exact ⟨List.reverse_injective hx, List.reverse_injective hz⟩

/-- No closing bracket comes after the short id's. -/
lemma close_notMem_ordinalText (x : QString) (k : ℕ) :
    qc ')' ∉ qs " ~" ++ ordinalText q x k := by
  have hnumber : qc ')' ∉ numberText k := fun h => by
    have hdigit := (digit_of_mem_numberText h).1
    exact absurd hdigit (by decide)
  rw [List.mem_append, not_or]
  refine ⟨by decide, ?_⟩
  unfold ordinalText
  split
  · exact hnumber
  · decide

/-- The prefix, and what follows it, can be read off a name. -/
lemma namePrefix_inj {c c' : CertificateInfo} {y y' : QString}
    (h : namePrefix c ++ y = namePrefix c' ++ y') : namePrefix c = namePrefix c' ∧ y = y' := by
  obtain ⟨p, hp, hopen, -⟩ := namePrefix_eq c
  obtain ⟨p', hp', hopen', -⟩ := namePrefix_eq c'
  rw [hp, hp', List.append_assoc, List.append_assoc] at h
  obtain ⟨rfl, hy⟩ := append_cons_inj_first hopen hopen' h
  exact ⟨hp.trans hp'.symm, hy⟩

/-- A base name determines its prefix and its short id. -/
lemma stableCertFolderName_inj {c c' : CertificateInfo} :
    stableCertFolderName q c = stableCertFolderName q c' ↔
      namePrefix c = namePrefix c' ∧ shortId c = shortId c' := by
  rw [stableCertFolderName_eq, stableCertFolderName_eq]
  constructor
  · intro h
    obtain ⟨hp, hy⟩ := namePrefix_inj h
    exact ⟨hp, List.append_cancel_right hy⟩
  · rintro ⟨hp, hx⟩
    rw [hp, hx]

/-- A repeated name is no base name: it does not end in a bracket. -/
lemma suffixedName_ne_base (c c' : CertificateInfo) {n : ℕ} (hn : n ≠ 0) :
    suffixedName q (stableCertFolderName q c) n ≠ stableCertFolderName q c' := by
  rw [suffixedName_eq q c hn, stableCertFolderName_eq]
  intro h
  have hcut : (namePrefix c ++ fillShort q (shortId c) (n + 1)) ++
      qc ')' :: (qs " ~" ++ ordinalText q (shortId c) (n + 1)) =
      (namePrefix c' ++ shortId c') ++ qc ')' :: [] := by
    simpa using h
  obtain ⟨-, hnil⟩ := append_cons_inj_last (close_notMem_ordinalText q _ _) (by simp) hcut
  exact absurd hnil (by simp [qs])

/-- One base name's repeated names are told apart by their ordinals. -/
lemma suffixedName_injective (c : CertificateInfo) {n n' : ℕ} (hn : n ≠ 0) (hn' : n' ≠ 0)
    (h : suffixedName q (stableCertFolderName q c) n =
      suffixedName q (stableCertFolderName q c) n') : n = n' := by
  rw [suffixedName, suffixedName, if_neg hn, if_neg hn', arg_ordinal] at h
  simp only [QString.argNumber, Syntax.arg, lowest_ordinal] at h
  have hk := fill_injective decimal q.numbers (lowest_ordinal q c) h
  omega

/-- Two repeated names are the same exactly when prefix, filled short id and ordinal are. -/
lemma suffixedName_inj {c c' : CertificateInfo} {n n' : ℕ} (hn : n ≠ 0) (hn' : n' ≠ 0) :
    suffixedName q (stableCertFolderName q c) n = suffixedName q (stableCertFolderName q c') n' ↔
      namePrefix c = namePrefix c' ∧
        fillShort q (shortId c) (n + 1) = fillShort q (shortId c') (n' + 1) ∧
        ordinalText q (shortId c) (n + 1) = ordinalText q (shortId c') (n' + 1) := by
  rw [suffixedName_eq q c hn, suffixedName_eq q c' hn']
  constructor
  · intro h
    -- The bracket ends the prefix, and the last closing one ends the id: the three parts are
    -- unique.
    obtain ⟨hp, hy⟩ := namePrefix_inj h
    obtain ⟨hx, ht⟩ := append_cons_inj_last (close_notMem_ordinalText q _ _)
      (close_notMem_ordinalText q _ _) hy
    exact ⟨hp, hx, List.append_cancel_left ht⟩
  · rintro ⟨hp, hx, ht⟩
    rw [hp, hx, ht]

/-! ## Slashes -/

lemma slash_notMem_namePrefix (c : CertificateInfo) : qc '/' ∉ namePrefix c := by
  have hpurpose : ∀ p ∈ purposes, qc '/' ∉ p ++ qs " (" := by decide
  unfold namePrefix
  dsimp only
  split
  · decide
  · next hne => exact hpurpose _ ((primaryPurpose_mem c.keyUsageBits).resolve_left hne)

lemma slash_notMem_numberText (k : ℕ) : qc '/' ∉ numberText k := fun h =>
  absurd (digit_of_mem_numberText h).1 (by decide)

/-- A folder's name holds a slash exactly when its short id does, in a locale that writes numbers
without one. -/
lemma slash_mem_suffixedName (hq : ∀ k, qc '/' ∉ q.numbers.text k) (c : CertificateInfo) (n : ℕ) :
    qc '/' ∈ suffixedName q (stableCertFolderName q c) n ↔ qc '/' ∈ shortId c := by
  have hprefix := slash_notMem_namePrefix c
  by_cases hn : n = 0
  · rw [hn, suffixedName_zero, stableCertFolderName_eq]
    simp only [List.mem_append, List.mem_singleton, hprefix, false_or]
    exact or_iff_left (by decide)
  -- A marker has no slash and neither has a number, so filling moves none.
  · have hfill : qc '/' ∈ fillShort q (shortId c) (n + 1) ↔ qc '/' ∈ shortId c :=
      mem_fill_pieces_iff (plain_of_ascii q (by decide) ⟨by decide, by decide, by decide⟩)
        (slash_notMem_numberText _) (hq _)
    have hordinal : qc '/' ∉ ordinalText q (shortId c) (n + 1) := by
      unfold ordinalText
      split_ifs
      · exact slash_notMem_numberText _
      · decide
    have hclose : qc '/' ≠ qc ')' := by decide
    have hmiddle : qc '/' ∉ qs " ~" := by decide
    rw [suffixedName_eq q c hn]
    simp only [List.mem_append, List.mem_cons, hprefix, hfill, hclose, hmiddle, hordinal,
      false_or, or_false]

/-- No folder is called `.`, or nothing. -/
lemma open_mem_suffixedName (c : CertificateInfo) (n : ℕ) :
    qc '(' ∈ suffixedName q (stableCertFolderName q c) n := by
  have hprefix : qc '(' ∈ namePrefix c := by
    obtain ⟨p, hp, -, -⟩ := namePrefix_eq c
    simp [hp]
  by_cases hn : n = 0
  · rw [hn, suffixedName_zero, stableCertFolderName_eq]
    exact List.mem_append_left _ hprefix
  · rw [suffixedName_eq q c hn]
    exact List.mem_append_left _ hprefix

end CardWorkerLogic

end LibreKDE.Kio
