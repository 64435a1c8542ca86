import LibreKDE.Plasmoid.Moves

/-!
# The popup of a widget

The popup shows the views of one card, with an action bar below them.  A widget bound to no reader
puts a row of chips above them, one for each reader that holds a card, once there are two
(`masterDetail`).  The bar has two file dialogs of its own: one picks the file to sign, the other
the file to save the cardholder's photo in.

The bar stands outside the Loader that swaps the views with the state, so its dialogs outlive the
card they were opened over.  It stands inside the Loader that puts up the chips and takes them away,
which destroys the bar, and both dialogs, each time it does.  `Popup.follow` is what all of this
makes of the bar when the widget moves.

The two dialogs are not taken to be modal: whatever else the popup shows can be clicked under them.
-/

namespace LibreKDE.Plasmoid

open Reactive CardReads

/-! ## What the views go by -/

/-- A file chosen in a dialog. -/
structure ChosenFile where
  isValid : Bool := true
  /-- `toLocalFile`, of a local one. -/
  localFile : Option QString
  path : QString := []
  /-- Its name, as the banner shows it. -/
  fileName : QString := []
  deriving DecidableEq

namespace SmartCardHandler

variable (s : SmartCardHandler)

/-- `main.qml`'s choice of the chips: a widget bound to no reader, with two cards to show. -/
def masterDetail : Bool := s.boundReaderName = [] ∧ 2 ≤ s.readersWithCards.length

/-- `CardActionBar`'s `canSign`. -/
def canSign : Bool := s.state = .pkiOnly ∨ s.state = .hybrid

/-- The actions of a card with an identity are on the bar. -/
def hasIdentityActions : Bool := s.state = .identityOnly ∨ s.state = .hybrid

/-- In the error state the card's PINs can still be managed. -/
def offersManageInError : Bool := s.state = .error ∧ s.pinManagementAvailable

/-- The bar is there at all. -/
def hasAnyAction : Bool := s.canSign ∨ s.hasIdentityActions ∨ s.offersManageInError

/-- `savePhoto`: the file written and what is in it.  `taken` says whether the disk takes it. -/
def savePhoto (destination : ChosenFile) (taken : Bool) : Option (QString × QByteArray) :=
  if s.photo.photoBytes = [] ∨ destination.isValid = false then none
  else
    let path := destination.localFile.getD destination.path
    if path = [] ∨ taken = false then none else some (path, s.photo.photoBytes)

end SmartCardHandler

/-! ## The popup -/

/-- The widget, and the dialogs of its action bar. -/
structure Popup where
  widget : SmartCardHandler
  /-- `signFileDialog` is open. -/
  signFileDialog : Bool := false
  /-- `photoDialog`, with the file preselected, while it is open. -/
  photoDialog : Option QString := none
  /-- The banner of a photo that could not be saved. -/
  photoError : Option QString := none

/-- What is clicked in it, and how its dialogs are answered. -/
inductive Click
  /-- A chip of `MultiCardState`. -/
  | readerChip (name : QString)
  | readCard
  | signFile
  | signAccepted (selectedFile : QString)
  | signRejected
  | dismiss
  | openInFiles
  | savePhoto (currentFolder : QString)
  | photoAccepted (selectedFile : ChosenFile) (taken : Bool)
  | photoRejected
  | manageCredentials
  | startService
  deriving DecidableEq

/-- What can happen to a popup: something to its widget, or a click in it. -/
inductive PopupEvent
  /-- Something happens to the widget. -/
  | widget (e : Event)
  | click (c : Click)

/-- The method of the widget that is called. -/
def PopupEvent.call : PopupEvent → Option Event
  | .widget e => some e
  | .click (.readerChip name) => some (.selectReader name)
  | .click .readCard => some .readIdentity
  | .click (.signAccepted selectedFile) => some (.signFile selectedFile)
  | .click .dismiss => some .dismissSignResult
  | .click .openInFiles => some .openInFiles
  | .click .startService => some .startAgent
  -- `savePhoto` moves nothing in the widget, and the launch itself is `manageCredentials`.
  | .click .signFile | .click .signRejected | .click (.savePhoto _)
  | .click (.photoAccepted _ _) | .click .photoRejected | .click .manageCredentials => none

namespace Popup

variable (h : PlasmoidHost) (b : Popup)

/-- What is clicked is there and enabled, and what is answered is open. -/
def Offered : Click → Prop
  | .readerChip name => b.widget.masterDetail = true ∧ name ∈ b.widget.readersWithCards
  | .readCard => b.widget.state = .preAuthRequired ∧ b.widget.busy = false
  | .signFile => b.widget.canSign = true ∧ b.widget.publishedSigningBusy = false
  | .signAccepted _ | .signRejected => b.signFileDialog = true
  | .dismiss => b.widget.canSign = true ∧ b.widget.signResult.outcome ≠ .none
  | .openInFiles => b.widget.hasIdentityActions = true
  | .savePhoto _ => b.widget.hasIdentityActions = true ∧ b.widget.photo.hasCardPhoto = true
  | .photoAccepted _ _ | .photoRejected => b.photoDialog.isSome = true
  | .manageCredentials => b.widget.hasAnyAction = true ∧ b.widget.pinManagementAvailable = true
  | .startService => b.widget.state = .agentUnavailable ∧ b.widget.agentInstalled = true ∧
      b.widget.agentStarting = false

instance : (c : Click) → Decidable (b.Offered c)
  | .startService => inferInstanceAs (Decidable (_ ∧ _ ∧ _))
  | .readerChip _ | .readCard | .signFile | .dismiss | .savePhoto _ | .manageCredentials =>
      inferInstanceAs (Decidable (_ ∧ _))
  | .signAccepted _ | .signRejected | .openInFiles | .photoAccepted _ _ | .photoRejected =>
      inferInstanceAs (Decidable (_ = true))

/-- What the event does to the bar itself. -/
def answered : PopupEvent → Popup
  | .click .signFile => { b with signFileDialog := true }
  | .click (.signAccepted _) | .click .signRejected => { b with signFileDialog := false }
  | .click (.savePhoto currentFolder) =>
      { b with
        photoDialog := some (currentFolder ++ [qc '/'] ++ b.widget.photo.photoSuggestedFileName) }
  | .click (.photoAccepted selectedFile taken) =>
      { b with
        photoDialog := none
        photoError := if (b.widget.savePhoto selectedFile taken).isSome then none
          else some selectedFile.fileName }
  | .click .photoRejected => { b with photoDialog := none }
  | _ => b

/-- `onStateChanged`, `onReaderNameChanged`: what the action that saves the photo takes for a change
of the card. -/
def contextChanged (s : SmartCardHandler) : Prop :=
  s.state ≠ b.widget.state ∨ s.readerName ≠ b.widget.readerName

/-- The bar goes with its widget, and when the chips come or go. -/
def swapped (s : SmartCardHandler) : Prop :=
  s.destroyed = true ∨ s.masterDetail ≠ b.widget.masterDetail

instance (s : SmartCardHandler) : Decidable (b.contextChanged s) :=
  inferInstanceAs (Decidable (_ ∨ _))

instance (s : SmartCardHandler) : Decidable (b.swapped s) :=
  inferInstanceAs (Decidable (_ ∨ _))

/-- The bar follows its widget.  The chips go by the configured reader and by the names the widget
lists; the widget is told of a reconfiguration first, so they come or go once. -/
def follow (s : SmartCardHandler) : Popup :=
  if b.swapped s then { widget := s }
  else if b.contextChanged s then
    { widget := s
      signFileDialog := b.signFileDialog }
  else { b with widget := s }

/-- What the widget becomes. -/
def moved (e : PopupEvent) : SmartCardHandler :=
  (PopupEvent.call e).elim b.widget (Plasmoid.step h b.widget)

/-- The bar answers first, the widget moves, and the bar follows it. -/
def step (e : PopupEvent) : Popup := (b.answered e).follow (b.moved h e)

/-- The widget's events come as they may; a click needs the widget, and what is clicked on the
screen. -/
def allows : PopupEvent → Prop
  | .widget e => Plasmoid.allows b.widget e
  | .click c => b.widget.destroyed = false ∧ b.Offered c

instance : (e : PopupEvent) → Decidable (b.allows e)
  | .widget e => inferInstanceAs (Decidable (Plasmoid.allows b.widget e))
  | .click _ => inferInstanceAs (Decidable (_ ∧ _))

/-- A new widget, with its dialogs closed. -/
structure Start (b : Popup) : Prop where
  widget : Plasmoid.Start h b.widget
  signFileDialog : b.signFileDialog = false
  photoDialog : b.photoDialog = none

/-- The popup in its environment. -/
def machine : Machine Popup PopupEvent where
  start := Start h
  allows := allows
  step := step h

instance (b : Popup) (e : PopupEvent) : Decidable ((machine h).allows b e) :=
  inferInstanceAs (Decidable (b.allows e))

/-! ### What a step leaves of it -/

section Step

variable {h b} {s : SmartCardHandler} {e : PopupEvent} {e' : Event}

@[simp] lemma follow_widget : (b.follow s).widget = s := by
  unfold follow
  split_ifs <;> rfl

@[simp] lemma step_widget : (b.step h e).widget = b.moved h e := follow_widget

@[simp] lemma answered_widget : (b.answered e).widget = b.widget := by
  cases e with
  | widget e => rfl
  | click c => cases c <;> rfl

lemma moved_of_call (hcall : PopupEvent.call e = some e') :
    b.moved h e = Plasmoid.step h b.widget e' := by
  rw [moved, hcall]
  rfl

lemma moved_of_not_call (hcall : PopupEvent.call e = none) : b.moved h e = b.widget := by
  rw [moved, hcall]
  rfl

/-- The widget's method finds a widget that is there. -/
lemma allows_of_call (hal : b.allows e) (hcall : PopupEvent.call e = some e') :
    Plasmoid.allows b.widget e' := by
  cases e with
  | widget e => exact Option.some.inj hcall ▸ hal
  | click c => cases c <;> cases hcall <;> exact ⟨.inl hal.1, trivial⟩

/-- A method that is called leaves the photo's dialog to the widget. -/
lemma answered_photoDialog_of_call (hcall : PopupEvent.call e = some e') :
    (b.answered e).photoDialog = b.photoDialog := by
  cases e with
  | widget e => rfl
  | click c => cases c <;> first | rfl | cases hcall

/-- The photo's dialog stays open only under a widget that is there, and whose state, name and chips
are what they were. -/
lemma follow_open (hopen : (b.follow s).photoDialog.isSome = true) :
    b.photoDialog.isSome = true ∧ s.destroyed = false ∧ s.masterDetail = b.widget.masterDetail ∧
      s.state = b.widget.state ∧ s.readerName = b.widget.readerName := by
  unfold follow at hopen
  split_ifs at hopen with hswapped hchanged
  · cases hopen
  · cases hopen
  · rw [swapped, not_or, not_not] at hswapped
    rw [contextChanged, not_or, not_not, not_not] at hchanged
    exact ⟨hopen, by simpa using hswapped.1, hswapped.2, hchanged.1, hchanged.2⟩

/-- A dialog that is open after a step was open before it, or has just been opened. -/
lemma step_open (hopen : (b.step h e).photoDialog.isSome = true) :
    (b.photoDialog.isSome = true ∨ ∃ currentFolder, e = .click (.savePhoto currentFolder)) ∧
      (b.moved h e).destroyed = false ∧ (b.moved h e).masterDetail = b.widget.masterDetail ∧
      (b.moved h e).state = b.widget.state ∧ (b.moved h e).readerName = b.widget.readerName := by
  obtain ⟨hanswered, hliving, hchips, hstate, hname⟩ := follow_open hopen
  rw [answered_widget] at hchips hstate hname
  refine ⟨?_, hliving, hchips, hstate, hname⟩
  cases e with
  | widget e => exact .inl hanswered
  | click c => cases c <;> first | exact .inr ⟨_, rfl⟩ | exact .inl hanswered | cases hanswered

/-- A widget that stays as it was leaves the bar as the click made it. -/
lemma step_of_not_call (hliving : b.widget.destroyed = false)
    (hcall : PopupEvent.call e = none) : b.step h e = b.answered e := by
  have hsame := answered_widget (b := b) (e := e)
  have hstays : ¬ (b.answered e).swapped b.widget := by simp [swapped, hliving]
  have hcontext : ¬ (b.answered e).contextChanged b.widget := by simp [contextChanged]
  rw [step, moved_of_not_call hcall, follow, if_neg hstays, if_neg hcontext, ← hsame]

end Step

/-- A widget, and its popup. -/
def new : Popup := { widget := Plasmoid.widget }

lemma start_new : Start .plain new := ⟨start_widget, rfl, rfl⟩

end Popup

end LibreKDE.Plasmoid
