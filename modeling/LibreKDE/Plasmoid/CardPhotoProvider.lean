import LibreKDE.Plasmoid.SmartCardHandler

/-!
# The photo provider

A view loads a photo by the URL its handler publishes, `image://librekde/cardphoto/<slot>?<token>`.
The engine takes off the scheme and the provider's name and asks the provider for the rest, the
image's id; the provider reads the slot out of the id and looks it up in the store the widgets
share.  The token is there for the view's cache alone.

`slotFromImageId_imageId` says that the provider reads back the slot the handler wrote.
-/

namespace LibreKDE.Plasmoid

open PlaceMarkers

/-! ## The id of an image -/

/-- What the engine asks a provider for: a URL without `image://librekde/`. -/
def imageId (url : QString) : QString := url.drop 17

namespace CardPhotoProvider

/-- The slot an id names; 0 for an id that names none. -/
def slotFromImageId (t : CharClasses) (id : QString) : ℕ :=
  match QString.indexOf (qc '/') id 0 with
  | none => 0
  | some slash =>
      let stop := (QString.indexOf (qc '?') id (slash + 1)).getD id.length
      (QString.toULongLong t (QString.mid id (slash + 1) (stop - slash - 1))).getD 0

/-! ## Requests -/

/-- A size in pixels. -/
structure QSize where
  width : ℤ
  height : ℤ
  deriving DecidableEq, Repr

/-- `QSize::isValid`. -/
def QSize.isValid (q : QSize) : Prop := 0 ≤ q.width ∧ 0 ≤ q.height

instance (q : QSize) : Decidable q.isValid := inferInstanceAs (Decidable (_ ∧ _))

/-- What the toolkit knows of an image. -/
structure ImageOps where
  size : QImage → QSize
  /-- `scaled(size, Qt::KeepAspectRatio, Qt::SmoothTransformation)`. -/
  scaled : QImage → QSize → QImage

/-- The image at the size a view asks for, where it asks for one. -/
def ImageOps.fitted (o : ImageOps) (requestedSize : QSize) (image : QImage) : QImage :=
  if requestedSize.isValid ∧ 0 < requestedSize.width ∧ 0 < requestedSize.height then
    o.scaled image requestedSize
  else image

/-- The provider's answer, the image and its size; the null image is `none`. -/
def requestImage (t : CharClasses) (o : ImageOps) (m_store : Option CardPhotoStore) (id : QString)
    (requestedSize : QSize) : Option QImage × QSize :=
  let image := m_store.bind fun p => p.images (slotFromImageId t id)
  (image.map (o.fitted requestedSize), (image.map o.size).getD ⟨0, 0⟩)

/-- An id that names no slot: there is no slash in it, or what stands between its first slash and
the question mark that follows, or its end, is no number of 64 bits. -/
def NamesNoSlot (t : CharClasses) (id : QString) : Prop :=
  qc '/' ∉ id ∨ ∃ before after, id = before ++ qc '/' :: after ∧ qc '/' ∉ before ∧
    QString.toULongLong t (after.takeWhile fun c => c ≠ qc '?') = none

/-! ## Reading ids -/

variable {t : CharClasses} {id before after : QString}

lemma indexOf_append {c : QChar} (hbefore : c ∉ before) :
    QString.indexOf c (before ++ c :: after) 0 = some before.length := by
  have hnone : before.findIdx? (fun d => d = c) = none := by
    rw [List.findIdx?_eq_none_iff]
    intro d hd
    simp only [decide_eq_false_iff_not]
    rintro rfl
    exact hbefore hd
  simp [QString.indexOf, List.findIdx?_append, hnone, List.findIdx?_cons]

/-- Cutting at the next occurrence of a character, or at the end. -/
lemma take_indexOf (c : QChar) (s : QString) :
    s.take (((s.findIdx? fun d => d = c)).getD s.length) = s.takeWhile fun d => d ≠ c := by
  induction s with
  | nil => rfl
  | cons d s ih =>
      by_cases hd : d = c
      · simp [hd, List.findIdx?_cons]
      · have hget : (((s.findIdx? fun d => d = c).map fun i => i + 1).getD (s.length + 1)) =
            ((s.findIdx? fun d => d = c)).getD s.length + 1 := by
          cases s.findIdx? fun d => d = c with
          | none => rfl
          | some i => rfl
        simp only [List.findIdx?_cons, hd, decide_false, Bool.false_eq_true, if_false,
          List.length_cons, hget, List.take_succ_cons, ih, ne_eq, not_false_iff, decide_true,
          List.takeWhile_cons_of_pos]

/-- The provider reads what stands between the first slash and the question mark. -/
lemma slotFromImageId_append (hbefore : qc '/' ∉ before) :
    slotFromImageId t (before ++ qc '/' :: after) =
      (QString.toULongLong t (after.takeWhile fun c => c ≠ qc '?')).getD 0 := by
  have hdrop : (before ++ qc '/' :: after).drop (before.length + 1) = after := by
    rw [List.drop_append]
    simp
  simp only [slotFromImageId, indexOf_append hbefore]
  congr 2
  rw [← take_indexOf]
  simp only [QString.mid, QString.indexOf, hdrop]
  congr 1
  cases after.findIdx? fun d => d = qc '?' with
  | none =>
      simp only [Option.map_none, Option.getD_none, List.length_append, List.length_cons]
      omega
  | some i =>
      simp only [Option.map_some, Option.getD_some]
      omega

lemma slotFromImageId_of_notMem (hid : qc '/' ∉ id) : slotFromImageId t id = 0 := by
  have hnone : id.findIdx? (fun d => d = qc '/') = none := by
    rw [List.findIdx?_eq_none_iff]
    intro d hd
    simp only [decide_eq_false_iff_not]
    rintro rfl
    exact hid hd
  simp [slotFromImageId, QString.indexOf, hnone]

/-- An id that names no slot is read as one that was never given out. -/
lemma slotFromImageId_of_namesNoSlot (hid : NamesNoSlot t id) : slotFromImageId t id = 0 := by
  rcases hid with hslash | ⟨before, after, rfl, hbefore, hnumber⟩
  · exact slotFromImageId_of_notMem hslash
  · rw [slotFromImageId_append hbefore, hnumber]
    rfl

/-! ## The handler's URLs -/

variable (h : PlasmoidHost)

/-- The numbers of a URL stand where its markers stood. -/
lemma cardPhotoUrl_eq (slot token : ℕ) :
    cardPhotoUrl h slot token =
      qs "image://librekde/cardphoto/" ++ (numberText slot ++ qc '?' :: numberText token) := by
  have hpath : h.digits.markers.escape ∉ qs "image://librekde/cardphoto/" := by
    show qc '%' ∉ _
    decide
  -- The number put in first holds no marker, so the second one finds its own.
  have hslot : h.digits.markers.escape ∉ numberText slot ++ [qc '?'] := by
    rw [List.mem_append, List.mem_singleton, not_or]
    refine ⟨fun hmem => ?_, show qc '%' ≠ qc '?' by decide⟩
    have hlo := (digit_of_mem_numberText hmem).1
    revert hlo
    show ¬ 48 ≤ (qc '%').toNat
    decide
  have hfirst : h.digits.markers.arg (numberText slot) (h.numbers.text slot) (qs "%1?%2") =
      numberText slot ++ [qc '?'] ++ qs "%2" := by
    have hpieces : h.digits.markers.pieces (qs "%1?%2") =
        [.marker 1 false (qs "%1"), .char (qc '?'), .marker 2 false (qs "%2")] := by
      rw [pieces_ascii _ (by decide)]
      decide
    have hlowest : lowest [Piece.marker 1 false (qs "%1"), .char (qc '?'),
      .marker 2 false (qs "%2")] = some 1 := by decide
    simp only [Syntax.arg, hpieces, hlowest]
    simp [fill]
  have hsecond : h.digits.markers.arg (numberText token) (h.numbers.text token) (qs "%2") =
      numberText token := by
    have hpieces : h.digits.markers.pieces (qs "%2") = [.marker 2 false (qs "%2")] := by
      rw [pieces_ascii _ (by decide)]
      decide
    have hlowest : lowest [Piece.marker 2 false (qs "%2")] = some 2 := by decide
    simp only [Syntax.arg, hpieces, hlowest]
    simp [fill]
  have hformat : qs "image://librekde/cardphoto/%1?%2" =
      qs "image://librekde/cardphoto/" ++ qs "%1?%2" := by decide
  unfold cardPhotoUrl QString.argNumber
  rw [hformat, Syntax.arg_append hpath, hfirst, Syntax.arg_append hpath, Syntax.arg_append hslot,
    hsecond]
  simp

/-- A slot's URLs differ in their tokens. -/
lemma cardPhotoUrl_injective (slot : ℕ) : Function.Injective (cardPhotoUrl h slot) := by
  intro token token' heq
  rw [cardPhotoUrl_eq, cardPhotoUrl_eq] at heq
  have htoken := List.append_cancel_left (List.append_cancel_left heq)
  exact numberText_injective (List.cons.inj htoken).2

/-- **The provider reads back the slot a handler wrote.** -/
lemma slotFromImageId_imageId {slot : ℕ} (ht : t.DigitsShow) (hslot : slot < 2 ^ 64) (token : ℕ) :
    slotFromImageId t (imageId (cardPhotoUrl h slot token)) = slot := by
  have hid : imageId (cardPhotoUrl h slot token) =
      qs "cardphoto" ++ qc '/' :: (numberText slot ++ qc '?' :: numberText token) := by
    rw [cardPhotoUrl_eq]
    rfl
  have hcut : (numberText slot ++ qc '?' :: numberText token).takeWhile (fun c => c ≠ qc '?') =
      numberText slot := by
    rw [List.takeWhile_append_of_pos, List.takeWhile_cons_of_neg, List.append_nil]
    · simp
    · intro c hc
      have hhi := (digit_of_mem_numberText hc).2
      rw [decide_eq_true_iff]
      rintro rfl
      revert hhi
      decide
  rw [hid, slotFromImageId_append (by decide), hcut, toULongLong_numberText ht hslot]
  rfl

end CardPhotoProvider

end LibreKDE.Plasmoid
