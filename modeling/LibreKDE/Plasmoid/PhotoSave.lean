import LibreKDE.Plasmoid.EmptyPopup
import LibreKDE.Plasmoid.Popup

/-!
# Saving the photo

The button that saves the cardholder's photo is in the action bar, so its file dialog outlives the
view, and the card, it was opened over.  What is saved is the photo the widget holds when the dialog
is accepted.  Therefore the dialog closes whenever the state or the reader's name changes, and it
goes with the bar whenever the chips come or go.

None of the three happens when a card is swapped for another of its kind in one announcement.
`SilentSwap` says when that is, by the roster announced, and `photo_saved_own` that nothing else
lets the dialog get hold of another card's photo.
-/

namespace LibreKDE.Plasmoid

open Reactive CardReads SmartCardHandler

namespace Popup

variable (h : PlasmoidHost) (b : Popup)

/-! ## What is promised -/

/-- The card over which the photo's dialog was last opened. -/
def openedOver (opened : Option CardRef) (b : Popup) : PopupEvent → Option CardRef
  | .click (.savePhoto _) => b.widget.card
  | _ => opened

/-- The popup, and the card over which its photo's dialog was last opened. -/
def openedMachine : Machine (Popup × Option CardRef) PopupEvent :=
  (machine h).watch none openedOver

instance (x : Popup × Option CardRef) (e : PopupEvent) : Decidable ((openedMachine h).allows x e) :=
  inferInstanceAs (Decidable (x.1.allows e))

/-- An open dialog is over the card that is shown. -/
def OverItsCard (x : Popup × Option CardRef) : Prop :=
  x.1.photoDialog.isSome = true → x.1.widget.card = x.2

/-- Under an open dialog another card comes to be shown, with the same state, under the same name
and with the chips as they were. -/
def SilentSwap (b : Popup) (e : PopupEvent) : Prop :=
  b.photoDialog.isSome = true ∧ ∃ e' u c, PopupEvent.call e = some e' ∧
    b.widget.refreshes e' = some u ∧ u.target h = some c ∧ b.widget.card ≠ some c ∧
    freshState h u.client.registry c = b.widget.state ∧
    nameShown h u u.client.registry = b.widget.readerName ∧
    (u.updateReaderRosters h).masterDetail = b.widget.masterDetail

/-- What is saved is a photo that the card over which the dialog was opened brought. -/
def SavesOwn (x : Popup × Option CardRef) : PopupEvent → Prop
  | .click (.photoAccepted selectedFile taken) => ∀ path bytes,
      x.1.widget.savePhoto selectedFile taken = some (path, bytes) →
        ∃ c t image, x.2 = some c ∧ x.1.widget.Answered 0 .getPhoto t ∧
          photoOf h t = some (bytes, image) ∧ x.1.widget.card = some c
  | _ => True

/-! ## One step -/

/-- What carries the promise along a run: an open dialog still has the card it was opened over. -/
structure Held (x : Popup × Option CardRef) : Prop where
  kept : ∃ n, Kept h n x.1.widget
  living : x.1.photoDialog.isSome = true → x.1.widget.destroyed = false
  about : x.1.photoDialog.isSome = true → x.1.widget.hasIdentityActions = true
  rightly : OverItsCard x

section Steps

variable {h : PlasmoidHost} {b : Popup} {s u : SmartCardHandler} {e : PopupEvent} {e' : Event}
  {c : CardRef}

/-- On the way to a refresh a card may go, and none comes. -/
lemma card_of_refreshes (hu : s.refreshes e' = some u) (hc : u.card = some c) :
    s.card = some c := by
  cases e' <;> simp only [refreshes, Option.some.injEq, reduceCtorEq] at hu
  case registryChanged r =>
    rw [← hu] at hc
    exact (Option.filter_eq_some_iff.1 hc).1
  case refresh => exact hu ▸ hc
  case setBoundReaderName name =>
    split_ifs at hu
    rw [← Option.some.inj hu] at hc
    exact hc
  case selectReader friendlyName =>
    split_ifs at hu
    rw [← Option.some.inj hu] at hc
    exact hc
  case agentStartFinished result =>
    split_ifs at hu
    rw [← Option.some.inj hu] at hc
    exact hc

/-- The chips after a refresh go by the rosters it took over. -/
lemma refresh_masterDetail :
    (u.refresh h).masterDetail = (u.updateReaderRosters h).masterDetail := by
  have hbound : (u.refresh h).boundReaderName = (u.updateReaderRosters h).boundReaderName :=
    (SameRoster.refresh : SameRoster (u.updateReaderRosters h) (u.refresh h)).bound
  have hnames : (u.refresh h).readersWithCards = namesWithCards u.client.registry := by
    have hnotes := congrArg (fun n : Bool × Bool × List QString => n.2.2)
      (refresh_notes (h := h) (u := u))
    by_cases hav : u.client.registry.available = true <;>
      simpa [notesOf, hav, SmartCardHandler.notes] using hnotes
  unfold masterDetail
  rw [hbound, hnames]
  rfl

/-- **Nothing but a silent swap brings another card under an open dialog.** -/
lemma card_of_open {n : ℕ} (hk : Kept h n b.widget) (hal : b.allows e)
    (habout : b.widget.hasIdentityActions = true)
    (hbefore : b.photoDialog.isSome = true)
    (hopen : (b.step h e).photoDialog.isSome = true) (hquiet : ¬ SilentSwap h b e) :
    (b.moved h e).card = b.widget.card := by
  obtain ⟨-, -, hchips, hstate, hname⟩ := step_open hopen
  cases hcall : PopupEvent.call e with
  | none => rw [moved_of_not_call hcall]
  | some e' =>
      rw [moved_of_call hcall] at hchips hstate hname ⊢
      cases hu : b.widget.refreshes e' with
      | none => exact card_of_not_refreshes_of_kept hk (allows_of_call hal hcall) hu
      | some u =>
          rw [step_of_refreshes hu] at hchips hstate hname ⊢
          cases htarget : u.target h with
          | none =>
              -- Without a card the state is not one the photo's button is shown in.
              exfalso
              rw [hasIdentityActions, ← hstate, refresh_state_of_target_none htarget] at habout
              cases hav : u.client.registry.available <;> simp [hav] at habout
          | some c =>
              rw [u.refresh_card, htarget]
              by_contra hother
              refine hquiet ⟨hbefore, e', u, c, hcall, hu, htarget,
                fun hsame => hother hsame.symm, ?_, ?_, ?_⟩
              · rw [← hstate]
                refine (refresh_state htarget fun hbound => ?_).symm
                exact hother (card_of_refreshes hu hbound).symm
              · rw [← hname, refresh_readerName]
              · rw [← hchips, refresh_masterDetail]

/-- A silent swap leaves the dialog open over another card. -/
lemma open_of_silentSwap {n : ℕ} (ho : Owned h n b.widget.toCardReads) (hal : b.allows e)
    (hswap : SilentSwap h b e) :
    (b.step h e).photoDialog.isSome = true ∧ (b.step h e).widget.card ≠ b.widget.card := by
  obtain ⟨hopen, e', u, c, hcall, hu, htarget, hother, hstate, hname, hchips⟩ := hswap
  have hbound : u.card ≠ some c := fun hbound => hother (card_of_refreshes hu hbound)
  have hmoved : b.moved h e = u.refresh h := by rw [moved_of_call hcall, step_of_refreshes hu]
  have hliving : (b.moved h e).destroyed = false := by
    rw [moved_of_call hcall]
    refine (movesTo_step ho (allows_of_call hal hcall) ?_).owned.alive
    rintro rfl
    cases hu
  have hstays : ¬ (b.answered e).swapped (b.moved h e) := by
    rw [swapped, not_or, not_not, answered_widget, hliving]
    refine ⟨by simp, ?_⟩
    rw [hmoved, refresh_masterDetail]
    exact hchips
  have hcontext : ¬ (b.answered e).contextChanged (b.moved h e) := by
    rw [contextChanged, not_or, not_not, not_not, answered_widget, hmoved]
    exact ⟨(refresh_state htarget hbound).trans hstate, refresh_readerName.trans hname⟩
  refine ⟨?_, ?_⟩
  · rw [step, follow, if_neg hstays, if_neg hcontext]
    show (b.answered e).photoDialog.isSome = true
    rw [answered_photoDialog_of_call hcall]
    exact hopen
  · rw [step_widget, hmoved, u.refresh_card, htarget]
    exact hother.symm

/-- Every step but a silent swap keeps the promise. -/
lemma held_step {x : Popup × Option CardRef} (hx : Held h x) (hal : x.1.allows e)
    (hquiet : ¬ SilentSwap h x.1 e) : Held h ((openedMachine h).step x e) := by
  obtain ⟨b, opened⟩ := x
  obtain ⟨n, hk⟩ := hx.kept
  have hwidget : ((openedMachine h).step (b, opened) e).1.widget = b.moved h e := step_widget
  have hkept : ∃ n, Kept h n (b.moved h e) := by
    cases hcall : PopupEvent.call e with
    | none => exact ⟨n, by rwa [moved_of_not_call hcall]⟩
    | some e' =>
        exact ⟨_, by rw [moved_of_call hcall]; exact kept_step hk (allows_of_call hal hcall)⟩
  refine ⟨hwidget ▸ hkept, fun hopen => ?_, fun hopen => ?_, fun hopen => ?_⟩ <;>
    obtain ⟨hbefore, hliving, -, hstate, -⟩ := step_open (h := h) (b := b) hopen <;>
    rw [hwidget]
  · exact hliving
  · rw [hasIdentityActions, hstate]
    rcases hbefore with hbefore | ⟨currentFolder, rfl⟩
    · exact hx.about hbefore
    · exact hal.2.1
  · show (b.moved h e).card = openedOver opened b e
    rcases hbefore with hbefore | ⟨currentFolder, rfl⟩
    · rw [card_of_open hk hal (hx.about hbefore) hbefore hopen hquiet]
      -- A click that opens it again opens it over the card that is shown.
      cases e with
      | widget e => exact hx.rightly hbefore
      | click c => cases c <;> first | rfl | exact hx.rightly hbefore
    · rfl

/-- A silent swap breaks it. -/
lemma not_overItsCard_step {x : Popup × Option CardRef} (hx : Held h x) (hal : x.1.allows e)
    (hswap : SilentSwap h x.1 e) : ¬ OverItsCard ((openedMachine h).step x e) := by
  obtain ⟨b, opened⟩ := x
  obtain ⟨n, ho | ⟨hgone, -⟩⟩ := hx.kept
  · obtain ⟨hstill, hother⟩ := open_of_silentSwap ho hal hswap
    have hsame : openedOver opened b e = opened := by
      obtain ⟨-, e', -, -, hcall, -⟩ := hswap
      cases e with
      | widget e => rfl
      | click c => cases c <;> first | rfl | cases hcall
    intro hover
    refine hother ((hover hstill).trans ?_)
    exact hsame.trans (hx.rightly hswap.1).symm
  · rw [hx.living hswap.1] at hgone
    cases hgone

/-- What is saved was brought by the card the dialog is over. -/
lemma savesOwn {x : Popup × Option CardRef} (hx : Held h x) (hal : x.1.allows e) :
    SavesOwn h x e := by
  obtain ⟨b, opened⟩ := x
  cases e with
  | widget e => trivial
  | click c =>
      cases c with
      | photoAccepted selectedFile taken =>
          intro path bytes hsaved
          have hopen : b.photoDialog.isSome = true := hal.2
          have hover : b.widget.card = opened := hx.rightly hopen
          unfold SmartCardHandler.savePhoto at hsaved
          dsimp only at hsaved
          split_ifs at hsaved with hnone hlost
          obtain ⟨-, rfl⟩ := Prod.mk.inj (Option.some.inj hsaved)
          have hshows : b.widget.photo.Shows := .inl (not_or.1 hnone).1
          obtain ⟨n, ho | ⟨hgone, -⟩⟩ := hx.kept
          · obtain ⟨t, bytes, image, hanswered, hphoto, hbytes, -⟩ := ho.photoShown (.inl hshows)
            obtain ⟨i, -, hlt, hreq, hcard, hended⟩ := hanswered
            refine ⟨_, t, image, hover.symm.trans hcard, ⟨i, i.zero_le, hlt, hreq, hcard, hended⟩,
              ?_, hcard⟩
            show photoOf h t = some (b.widget.photo.photoBytes, image)
            rw [hbytes, hphoto]
          · rw [show b.widget.destroyed = false from hal.1] at hgone
            cases hgone
      | _ => trivial

end Steps

/-! ## Runs -/

/-- **A photo is saved of the card the dialog was opened over.**  In every run of a widget and its
popup the dialog that saves the photo is open only over the card it was opened over, exactly as long
as nothing swaps that card for one of the same state, under the same name and with the chips as they
were; and as long as nothing does every file that is written holds a photo which that very card
brought. -/
theorem photo_saved_own {b : Popup} {es : List PopupEvent} (hs : Start h b)
    (ha : (machine h).Admits b es) :
    ((openedMachine h).Always OverItsCard (b, none) es ↔
        (machine h).EachStep (fun b e => ¬ SilentSwap h b e) b es) ∧
      ((machine h).EachStep (fun b e => ¬ SilentSwap h b e) b es →
        (openedMachine h).EachStep (SavesOwn h) (b, none) es) := by
  have hclosed : ¬ b.photoDialog.isSome = true := by simp [hs.photoDialog]
  have hstart : Held h (b, none) := ⟨⟨0, .inl hs.widget.owned.1⟩, fun hopen => absurd hopen hclosed,
    fun hopen => absurd hopen hclosed, fun hopen => absurd hopen hclosed⟩
  have hwatched : (openedMachine h).EachStep (fun x e => ¬ SilentSwap h x.1 e) (b, none) es ↔
      (machine h).EachStep (fun b e => ¬ SilentSwap h b e) b es :=
    Machine.eachStep_watch (p := fun b e => ¬ SilentSwap h b e)
  have hadmits : (openedMachine h).Admits (b, none) es := Machine.admits_watch.2 ha
  refine ⟨Iff.trans ?_ hwatched, fun hquiet => ?_⟩
  · refine Machine.always_iff_eachStep (J := Held h) (fun _ _ hx hal hq => held_step hx hal hq)
      (fun _ hx => hx.rightly) (fun _ _ hx hal hswap => ?_) hstart hadmits
    exact not_overItsCard_step hx hal (not_not.1 hswap)
  · have hkept : ((openedMachine h).restrict fun x e => ¬ SilentSwap h x.1 e).Kept (Held h) :=
      fun _ _ hx hal => held_step hx hal.1 hal.2
    have hrun := hkept.eachStep hstart (Machine.admits_restrict.2 ⟨hadmits, hwatched.2 hquiet⟩)
      fun x e hx hal => savesOwn hx hal.1
    exact Machine.eachStep_restrict.1 hrun

/-- What brings a card's photo. -/
def portrait : Terminal := { photos := [{ payload := some [65] }] }

/-- A card is read with the view open, and its photo comes. -/
def photographed : List PopupEvent :=
  [.widget (.registryChanged (.desk (qs "r") 1 (.eid true))), .widget (.setViewActive true),
    .widget (.finished 0 {}), .widget (.finished 1 portrait)]

/-- The dialog is opened and answered over one card. -/
def saved : List PopupEvent :=
  photographed ++ [.click (.savePhoto (qs "/home")),
    .click (.photoAccepted { localFile := some (qs "/home/card-photo.jpg") } true)]

theorem photo_saved_own_answered :
    ((openedMachine .plain).Always OverItsCard (new, none) saved ↔
        (machine .plain).EachStep (fun b e => ¬ SilentSwap .plain b e) new saved) ∧
      ((machine .plain).EachStep (fun b e => ¬ SilentSwap .plain b e) new saved →
        (openedMachine .plain).EachStep (SavesOwn .plain) (new, none) saved) :=
  photo_saved_own .plain start_new (by decide)

/-- Swapped in one announcement, under an open dialog, the other card's photo is saved. -/
def swappedUnderDialog : List PopupEvent :=
  photographed ++ [.click (.savePhoto (qs "/home")),
    .widget (.registryChanged (.desk (qs "r") 2 (.eid true))), .widget (.finished 2 {}),
    .widget (.finished 3 portrait)]

example : ((openedMachine .plain).exec (new, none) swappedUnderDialog).2 = some 1 ∧
    ((openedMachine .plain).exec (new, none) swappedUnderDialog).1.widget.card = some 2 ∧
    ((openedMachine .plain).exec (new, none) swappedUnderDialog).1.photoDialog.isSome = true := by
  decide

end Popup

end LibreKDE.Plasmoid
