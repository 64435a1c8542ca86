import LibreKDE.Credentials.Controller

/-!
# The window around the controller

The window shows a dashboard of rows while the controller is `Ready`, `Working` or `Result`, and a
message otherwise.  A row has a button for each verb its record allows; the dashboard owns the
sheet that asks before a PIN is unblocked.  The sheet is a modal dialog: while it is open nothing
else in the window can be reached.  Whenever the dashboard gives way to the message it is destroyed,
and its sheet with it.

`Window` is the controller with the sheet, and `machine` what its user and the world around it can
do.  The controller is reached in two ways: past the window (`outside`), or by a button that is
there.
-/

namespace LibreKDE.Credentials

open Reactive

/-! ## What the window is made of -/

/-- The roles of a row that the controller does not read. -/
structure RowRoles where
  canChange : Bool := false
  unblockable : Bool := false
  activatable : Bool := false
  keyActivatable : Bool := false

/-- What the window draws on from outside this repository, beside the locale: which buttons a
record's row has. -/
structure WindowHost extends Host where
  roles : CredentialRecord → RowRoles

/-- The buttons of a row. -/
inductive RowButton
  | change | unblock | activate | activateKey
  deriving DecidableEq, Repr

namespace RowButton

/-- The button is there for this record. -/
def visible (h : WindowHost) (r : CredentialRecord) : RowButton → Bool
  | .change => (h.roles r).canChange
  | .unblock => (h.roles r).unblockable
  | .activate => (h.roles r).activatable
  | .activateKey => (h.roles r).keyActivatable && r.keyActivationPending

/-- `onClicked`: the row's button calls the controller with the id of the row's record. -/
def onClicked (r : CredentialRecord) : RowButton → Event
  | .change => .changePin r.id
  | .unblock => .requestUnblock r.id
  | .activate => .activate r.id
  | .activateKey => .activateSigningKey r.id

end RowButton

/-- The states in which the rows are on display. -/
def showDashboard (st : State) : Bool := st = .ready ∨ st = .working ∨ st = .result

/-- The open confirm sheet: the PIN it asks about, and the budget as it was when it was opened. -/
structure UnblockConfirmSheet where
  pinId : QString
  budgetText : QString
  deriving DecidableEq, Repr

/-- The window: its controller, and the sheet the dashboard may have open. -/
structure Window where
  controller : Controller
  /-- The dashboard's sheet, while it is open. -/
  sheet : Option UnblockConfirmSheet := none

/-- What can happen to the window. -/
inductive WindowEvent
  /-- The controller is reached past the window. -/
  | outside (e : Event)
  /-- A button of a row. -/
  | clicked (row : ℕ) (button : RowButton)
  /-- The sheet's Continue. -/
  | proceed
  /-- The sheet is closed. -/
  | dismiss
  /-- The scrim's Cancel, or that of the message while a list is read. -/
  | cancel
  | startService

namespace Window

variable (h : WindowHost) (w : Window)

/-- The sheets asked for on the way to `u`. -/
def asked (u : Controller) : List UnblockConfirmSheet :=
  (u.unblockConfirmRequested.drop w.controller.unblockConfirmRequested.length).map
    fun x => ⟨x.1, x.2⟩

/-- The window follows its controller.  No method of the controller leaves the dashboard's states
and comes back to them. -/
def follow (u : Controller) : Window where
  controller := u
  sheet := if showDashboard u.state then (w.asked u).getLast?.or w.sheet else none

/-- The controller is called. -/
def call (e : Event) : Window := w.follow (Credentials.step h.toHost w.controller e)

/-- What each event makes of the window: all of them reach the controller but the two answers of the
sheet, of which Continue does. -/
def step : WindowEvent → Window
  | .outside e => w.call h e
  | .clicked row button => match w.controller.model[row]? with
      | none => w
      | some r => w.call h (button.onClicked r)
  | .proceed => match w.sheet with
      | none => w
      | some x => { w.call h (.confirmUnblock x.pinId) with sheet := none }
  | .dismiss => { w with sheet := none }
  | .cancel => w.call h .cancel
  | .startService => w.call h .startAgent

/-- The events that reach the controller past the window. -/
def Outside : Event → Prop
  | .registry _ | .refresh | .cardChanged _ | .finished _ _ | .bindReader _
  | .agentStartFinished _ => True
  | _ => False

instance : DecidablePred Outside
  | .registry _ | .refresh | .cardChanged _ | .finished _ _ | .bindReader _
  | .agentStartFinished _ => isTrue trivial
  | .cancel | .startAgent | .changePin _ | .activate _ | .activateSigningKey _
  | .requestUnblock _ | .confirmUnblock _ => isFalse id

/-- What can be reached.  A row is clicked on a dashboard without the scrim, on a button that is
there, and neither a row nor a Cancel of the window is reached under the modal sheet.  The message
that starts the service has no sheet over it: it took the dashboard's place. -/
def allows : WindowEvent → Prop
  | .outside e => Outside e ∧ Credentials.allows w.controller e
  | .clicked row button => w.sheet = none ∧ showDashboard w.controller.state = true ∧
      w.controller.state ≠ .working ∧ ∃ r ∈ w.controller.model[row]?, button.visible h r = true
  | .proceed | .dismiss => w.sheet ≠ none
  | .cancel => w.sheet = none ∧ (w.controller.state = .working ∨ w.controller.state = .loading)
  | .startService => w.controller.state = .agentUnavailable ∧
      w.controller.client.registry.agentState ≠ .missing ∧ w.controller.agentStarting = false

instance decidableAllows : (e : WindowEvent) → Decidable (w.allows h e)
  | .outside e => inferInstanceAs (Decidable (Outside e ∧ Credentials.allows w.controller e))
  | .clicked row button => inferInstanceAs (Decidable (_ ∧ _ ∧ _ ∧
      ∃ r ∈ w.controller.model[row]?, button.visible h r = true))
  | .proceed | .dismiss => inferInstanceAs (Decidable (w.sheet ≠ none))
  | .cancel => inferInstanceAs (Decidable (_ ∧ (_ ∨ _)))
  | .startService => inferInstanceAs (Decidable (_ ∧ _ ∧ _))

/-- A new window, over a new controller. -/
structure Start (w : Window) : Prop where
  controller : Credentials.Start w.controller
  sheet : w.sheet = none

/-- The window in its environment. -/
def machine : Machine Window WindowEvent where
  start := Start
  allows w := w.allows h
  step w := w.step h

instance (w : Window) (e : WindowEvent) : Decidable ((machine h).allows w e) :=
  decidableAllows h w e

end Window

end LibreKDE.Credentials
