import LibreKDE.Plasmoid.BoundReader
import LibreKDE.Plasmoid.SignIsolation

/-!
# The reader a widget shows

A widget shows its card together with a reader's name, and hands the name on: to the file manager,
as a URL, and to the chips of the other readers, as the one that is highlighted.  The name is only
written by `refresh`, which takes both from one pick (`Displays`).

A name need not be unique.  The pick is nevertheless the first reader of its name that holds a
card, in each of the ways it is come by (`find?_of_pickActiveReader`), so whoever looks for the
name in the same order finds the same card.
-/

namespace LibreKDE.Plasmoid

open Reactive SmartCardHandler

variable {h : PlasmoidHost} {s u : SmartCardHandler} {seen : Registry} {e : Event}

/-! ## The first reader of a name -/

section First

variable {t : CharClasses} {r : Registry} {bound selected : QString} {x : AgentReader}

/-- What is found by its name alone is the first of its name. -/
lemma find?_of_name {p : QString → Bool} {l : List AgentReader}
    (hx : l.find? (fun y => p y.name ∧ y.card.isSome) = some x) :
    l.find? (fun y => y.name = x.name ∧ y.card.isSome) = some x := by
  have hp : p x.name = true ∧ x.card.isSome = true := by simpa using List.find?_some hx
  induction l with
  | nil => cases hx
  | cons y l ih =>
      rw [List.find?_cons] at hx ⊢
      by_cases hy : p y.name = true ∧ y.card.isSome = true
      · obtain rfl : y = x := by simpa [hy] using hx
        simp [hp.2]
      · rw [decide_eq_false hy] at hx
        -- A reader that was passed over has another name, or no card.
        have hother : ¬ (y.name = x.name ∧ y.card.isSome = true) := fun hsame =>
          hy ⟨hsame.1 ▸ hp.1, hsame.2⟩
        rw [decide_eq_false hother]
        exact ih hx

lemma find?_of_readerWithCardByName (hx : readerWithCardByName r bound = some x) :
    r.readers.find? (fun y => y.name = x.name ∧ y.card.isSome) = some x :=
  find?_of_name (p := fun name => name = bound) (by simpa [readerWithCardByName] using hx)

lemma find?_of_firstReaderWithCard (hx : Readers.firstReaderWithCard r = some x) :
    r.readers.find? (fun y => y.name = x.name ∧ y.card.isSome) = some x :=
  find?_of_name (p := fun _ => true) (by simpa [Readers.firstReaderWithCard] using hx)

/-- **The pick is the first reader of its name that holds a card.** -/
lemma find?_of_pickActiveReader (hx : pickActiveReader t r bound selected = some x) :
    r.readers.find? (fun y => y.name = x.name ∧ y.card.isSome) = some x := by
  unfold pickActiveReader at hx
  by_cases hbound : bound ≠ []
  · rw [if_pos hbound] at hx
    split at hx
    · next hexact => exact find?_of_readerWithCardByName (hexact.trans hx)
    -- Bound and listed but without a card: nothing is picked, the unit rule is for an unlisted
    -- name.
    · by_cases hlisted : (r.readers.any fun y => y.name = bound) = true
      · simp [hlisted] at hx
      · rw [if_neg hlisted] at hx
        exact find?_of_name (p := fun name => sameReaderUnit t bound name) hx
  · rw [if_neg hbound] at hx
    by_cases hselected : selected ≠ []
    · rw [if_pos hselected] at hx
      split at hx
      · next hsel => exact find?_of_readerWithCardByName (hsel.trans hx)
      · exact find?_of_firstReaderWithCard hx
    · rw [if_neg hselected] at hx
      exact find?_of_firstReaderWithCard hx

/-- Where nothing is picked no reader of the bound name holds a card, and in auto mode none
does. -/
lemma card_of_not_picked (hnone : pickActiveReader t r bound selected = none) {y : AgentReader}
    (hy : y ∈ r.readers) (hname : bound = [] ∨ y.name = bound) : y.card = none := by
  have hfirst : Readers.firstReaderWithCard r = none → y.card = none := by
    intro hf
    simpa using List.find?_eq_none.1 hf y hy
  unfold pickActiveReader at hnone
  by_cases hbound : bound ≠ []
  · rw [if_pos hbound] at hnone
    split at hnone
    · cases hnone
    · next hexact =>
        -- A bound name is matched exactly first, so a reader of that name with a card would be
        -- picked.
        have hcard := List.find?_eq_none.1 hexact y hy
        simpa [hname.resolve_left hbound] using hcard
  · rw [if_neg hbound] at hnone
    by_cases hselected : selected ≠ []
    · rw [if_pos hselected] at hnone
      split at hnone
      · cases hnone
      · exact hfirst hnone
    · rw [if_neg hselected] at hnone
      exact hfirst hnone

end First

/-! ## The name -/

/-- The name `refresh` shows in a registry: that of the reader it picks, and the bound one where it
picks none. -/
def nameShown (h : PlasmoidHost) (s : SmartCardHandler) (r : Registry) : QString :=
  if r.available then
    ((pickActiveReader h.chars r s.boundReaderName s.selectedReaderName).map
      AgentReader.name).getD s.boundReaderName
  else []

lemma bindCard_readerName (c : Option CardRef) : (s.bindCard c).readerName = s.readerName := by
  unfold bindCard
  split_ifs <;> rfl

lemma refresh_readerName : (s.refresh h).readerName = nameShown h s s.client.registry := by
  unfold SmartCardHandler.refresh nameShown
  by_cases hav : s.client.registry.available = true
  · rw [if_neg (by simp [hav]), if_pos hav]
    dsimp only
    have hsame : pickActiveReader h.chars (s.updateReaderRosters h).client.registry
        (s.updateReaderRosters h).boundReaderName (s.updateReaderRosters h).selectedReaderName =
        pickActiveReader h.chars s.client.registry s.boundReaderName s.selectedReaderName := rfl
    rw [hsame]
    cases hpick : pickActiveReader h.chars s.client.registry s.boundReaderName
        s.selectedReaderName with
    | none =>
        show ((s.updateReaderRosters h).bindCard none).boundReaderName = _
        rw [(SameRoster.bindCard _ none).bound]
        rfl
    | some x =>
        show SmartCardHandler.readerName (classifyActiveCard h _) = _
        rw [(classifyActiveCard_aside _).readerName, bindCard_readerName]
        rfl
  · rw [if_pos hav, if_neg hav]
    rfl

/-- Nothing but a refresh writes the name. -/
lemma readerName_of_not_refreshes (hn : s.refreshes e = none) :
    (step h s e).readerName = s.readerName := by
  cases e with
  | registry r => rfl
  | registryChanged r => cases hn
  | refresh => cases hn
  | cardChanged c => exact (s.cardChanged_aside c).readerName
  | setBoundReaderName name =>
      simp only [refreshes, ite_eq_left_iff, reduceCtorEq, imp_false, not_not] at hn
      simp [step, setBoundReaderName, hn]
  | selectReader friendlyName =>
      simp only [refreshes, ite_eq_left_iff, reduceCtorEq, imp_false, not_not] at hn
      rcases hn with hbound | hsame
      · simp [step, selectReader, hbound]
      · simp [step, selectReader, hsame]
  | setViewActive active => exact (s.setViewActive_aside active).readerName
  | readIdentity => exact s.readIdentity_aside.readerName
  | ensureFreeRead => exact s.ensureFreeRead_aside.readerName
  | openInFiles => exact s.openInFiles_aside.readerName
  | startAgent => exact s.startAgent_aside.readerName
  | agentStartFinished result =>
      simp only [refreshes, ite_eq_right_iff, reduceCtorEq, imp_false, Bool.not_eq_true] at hn
      simp [step, onAgentStartFinished, hn]
  | finished i t => exact (s.finished_aside i t).readerName
  | phaseChanged i phase => exact (s.phaseChanged_aside i phase).readerName
  | signFile fileUrl =>
      simp only [step, signFile]
      split_ifs
      · rfl
      · split <;> rfl
  | dismissSignResult =>
      simp only [step, dismissSignResult]
      split
      · rfl
      · split_ifs <;> rfl
  | jobChooses j cands =>
      simp only [step, pickFirstCert]
      split <;> rfl
  | jobPhaseChanged j phase =>
      simp only [step, SmartCardHandler.onPhaseChanged]
      split <;> rfl
  | jobSucceeded j outputPath level => rfl
  | jobFailed j message => rfl
  | sibling slot image => rfl
  | destroy => rfl

/-! ## The invariant -/

/-- Card and name are of one pick in the registry last seen. -/
structure Displays (h : PlasmoidHost) (s : SmartCardHandler) (seen : Registry) : Prop
    extends Follows h s seen where
  readerName : s.readerName = nameShown h s seen

lemma displays_refresh (hf : Follows h (u.refresh h) u.client.registry) :
    Displays h (u.refresh h) u.client.registry := by
  have hsame : SameRoster (u.updateReaderRosters h) (u.refresh h) := .refresh
  refine ⟨hf, ?_⟩
  rw [refresh_readerName, nameShown, nameShown, hsame.bound, hsame.selected]
  rfl

/-- **Every step keeps card and name together.** -/
lemma displays_step (hd : Displays h s seen) (hal : allows s e) :
    Displays h (step h s e) (noteSeen seen s e) := by
  have hf := hd.toFollows.step hal
  unfold noteSeen at hf ⊢
  cases hu : s.refreshes e with
  | some u =>
      rw [hu] at hf
      rw [step_of_refreshes hu] at hf ⊢
      exact displays_refresh hf
  | none =>
      rw [hu] at hf
      -- No refresh(): neither the roster nor the name on show has moved.
      have hsame := sameRoster_of_not_refreshes (h := h) hu
      refine ⟨hf, ?_⟩
      rw [readerName_of_not_refreshes hu, nameShown, hsame.bound, hsame.selected]
      exact hd.readerName

lemma displays_start (hs : Start h s) : Displays h s s.client.registry := by
  have hf := follows_start hs
  obtain ⟨client, photoStore, photoSlot, -, -, rfl⟩ := hs
  have hregistry : (construct h client photoStore photoSlot).client.registry = client.registry :=
    refresh_registry _
  rw [hregistry] at hf ⊢
  exact displays_refresh (u := { client, photoStore, photoSlot }) hf

lemma displays_kept (h : PlasmoidHost) : (seenMachine h).Kept fun x => Displays h x.1 x.2 :=
  fun _ _ hd hal => displays_step hd hal

/-- The pick behind a card that is shown. -/
lemma Displays.picked {c : CardRef} (hd : Displays h s seen) (hc : s.card = some c) :
    ∃ x, pickActiveReader h.chars seen s.boundReaderName s.selectedReaderName = some x ∧
      x.card = some c ∧ s.readerName = x.name ∧ seen.available = true := by
  have hcard := hd.card
  have hname := hd.readerName
  rw [hc] at hcard
  rw [nameShown] at hname
  split_ifs at hcard hname with hav
  obtain ⟨x, hx, hxc⟩ := Option.bind_eq_some_iff.1 hcard.symm
  refine ⟨x, hx, hxc, ?_, hav⟩
  rw [hname, hx]
  rfl

end LibreKDE.Plasmoid
