import LibreKDE.Plasmoid.Moves

/-!
# Whose data is shown

The widget holds a stranger's data only while that stranger's card is bound.  `Scrubbed` says
so of one state, in terms of the operations ever minted: what is shown is what an `Ok` read
brought, and that read was minted on the bound card after it was bound.  The photo a widget
leaves in the store all widgets share goes with the widget.
-/

namespace LibreKDE.Plasmoid

open Reactive CardReads

variable {h : PlasmoidHost}

/-- What is shown is the bound card's; `b` is the number it was bound under. -/
structure Scrubbed (h : PlasmoidHost) (b : ℕ) (s : SmartCardHandler) : Prop where
  /-- An identity shown is that of an `Ok` identity read of the bound card. -/
  identity : s.destroyed = false → s.identity.Shows →
    ∃ t, s.Answered b .readIdentity t ∧ s.identity = .rebuild h.rules h.chars t.identityResult
  /-- A photo shown, here or in the store, is that of an `Ok` photo read of the bound card. -/
  photo : s.destroyed = false → (s.photo.Shows ∨ s.photoStore.images s.photoSlot ≠ none) →
    ∃ t bytes image, s.Answered b .getPhoto t ∧ photoOf h t = some (bytes, image) ∧
      s.photo.photoBytes = bytes ∧
      s.photo.photoSuggestedFileName = suggestedPhotoFileName h bytes ∧
      s.photoStore.images s.photoSlot = some image
  /-- A destroyed widget leaves no photo behind. -/
  photoStore : s.destroyed = true → s.photoStore.images s.photoSlot = none

/-- A step that changes the bound card leaves nothing of the holder before. -/
def ScrubsOnRebind (h : PlasmoidHost) (s : SmartCardHandler) (e : Event) : Prop :=
  (step h s e).card ≠ s.card → Blank (step h s e).toCardReads

lemma Kept.scrubbed {b : ℕ} {s : SmartCardHandler} (hk : Kept h b s) : Scrubbed h b s := by
  rcases hk with ho | ⟨hgone, hstore⟩
  · have halive : s.destroyed = false := ho.alive
    exact ⟨fun _ => ho.identityShown, fun _ => ho.photoShown, by simp [halive]⟩
  · exact ⟨by simp [hgone], by simp [hgone], fun _ => hstore⟩

/-- Where no card is bound nothing is shown. -/
lemma Scrubbed.blank {b : ℕ} {s : SmartCardHandler} (hs : Scrubbed h b s)
    (halive : s.destroyed = false) (hnone : s.card = none) : Blank s.toCardReads := by
  have hno : ∀ {q t}, ¬ s.Answered b q t := by
    rintro q t ⟨i, -, -, -, hcard, -⟩
    have hbound : s.card = some (s.client.ops i).card := hcard
    rw [hnone] at hbound
    cases hbound
  refine ⟨fun hshows => ?_, fun hshows => ?_, ?_⟩
  · obtain ⟨t, ha, -⟩ := hs.identity halive hshows
    exact hno ha
  · obtain ⟨t, bytes, image, ha, -⟩ := hs.photo halive (.inl hshows)
    exact hno ha
  · by_contra hstore
    obtain ⟨t, bytes, image, ha, -⟩ := hs.photo halive (.inr hstore)
    exact hno ha

lemma scrubsOnRebind_of_kept {b : ℕ} {s : SmartCardHandler} {e : Event} (hk : Kept h b s)
    (hal : allows s e) : ScrubsOnRebind h s e := by
  intro hne
  by_cases hdestroy : e = .destroy
  · subst hdestroy
    exact absurd rfl hne
  · rcases hk with ho | ⟨hgone, -⟩
    · exact (movesTo_step ho hal hdestroy).blank.resolve_left hne
    · obtain ⟨slot, image, rfl⟩ := eq_sibling_of_destroyed hgone hal
      exact absurd rfl hne

/-- **What a widget shows is its bound card's.**  In every state of every run what is held of an
identity or a photo was read from the bound card since it was bound, and nothing is held when
there is none; a change of the card leaves nothing, and neither does a widget that is gone. -/
theorem reads_scrubbed (h : PlasmoidHost) {s : SmartCardHandler} {es : List Event}
    (hs : Start h s) (ha : (machine h).Admits s es) :
    (boundMachine h).Always
        (fun x => Scrubbed h x.2 x.1 ∧
          (x.1.destroyed = false → x.1.card = none → Blank x.1.toCardReads)) (s, 0) es ∧
      (machine h).EachStep (ScrubsOnRebind h) s es := by
  have hkept : (boundMachine h).Kept fun x => Kept h x.2 x.1 := fun _ _ hk hal => kept_step hk hal
  have hstart : Kept h 0 s := .inl hs.owned.1
  have hadmits : (boundMachine h).Admits (s, 0) es := Machine.admits_watch.2 ha
  constructor
  · refine (hkept.always hstart hadmits).mono fun x hk => ⟨hk.scrubbed, ?_⟩
    exact hk.scrubbed.blank
  · have hsteps : (boundMachine h).EachStep (fun x e => ScrubsOnRebind h x.1 e) (s, 0) es :=
      hkept.eachStep hstart hadmits fun _ _ hk hal => scrubsOnRebind_of_kept hk hal
    exact Machine.eachStep_watch.1 hsteps

/-- The view opens, the card is read, and another card takes its place. -/
def readAndSwapped : List Event :=
  [.setViewActive true,
    .finished 0 { identityResult :=
      [⟨qs "personal", [{ key := qs "surname", value := qs "Ana" }]⟩] },
    .finished 1 { photos := [⟨some [1, 2]⟩] },
    .registryChanged (.desk (qs "r") 2 (.eid true))]

theorem reads_scrubbed_readAndSwapped :
    ((machine .plain).exec widget (readAndSwapped.take 3)).identity.Shows ∧
      ((machine .plain).exec widget readAndSwapped).card = some 2 ∧
      ((boundMachine .plain).Always
          (fun x => Scrubbed .plain x.2 x.1 ∧
            (x.1.destroyed = false → x.1.card = none → Blank x.1.toCardReads))
          (widget, 0) readAndSwapped ∧
        (machine .plain).EachStep (ScrubsOnRebind .plain) widget readAndSwapped) := by
  refine ⟨.inl ?_, by decide, reads_scrubbed .plain start_widget (by decide)⟩
  decide

end LibreKDE.Plasmoid
