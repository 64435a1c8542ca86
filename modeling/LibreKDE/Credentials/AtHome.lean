import LibreKDE.Credentials.RowsHome

/-!
# What the window asks of a card

Every verb goes to whatever card is bound.  `verbs_at_home` says that this is the right one: in
every run of the window, a verb went to a card that itself listed the record whose button was
pressed, through the sheet or not.  `clicks_answered` is the other half: what the window offers is
not refused, but by a card that is gone already.

The sheet outlives the rows it was opened over: a list may land under it, and the sheet keeps the
budget it was given.  What it was given is what an observer of the run remembers (`noteUnblock`):
the controller as it was when the row was clicked.
-/

namespace LibreKDE.Credentials

open Reactive

/-! ## What may be asked of a card -/

section Asked

variable (h : WindowHost) (k : Client) (c : CardRef)

/-- The card listed a record of this id that shows the button. -/
def Shows (id : QString) (button : RowButton) : Prop :=
  ∃ r, Listed k c r ∧ r.id = id ∧ button.visible h r = true

/-- What a card may be asked for: what a button on a record of its own stands for. -/
def MayAsk : Request → Prop
  | .managePin id .change _ => Shows h k c id .change
  | .managePin id .unblock _ => Shows h k c id .unblock
  | .managePin id .activatePin options => Shows h k c id .activate ∧
      (options.activateKey = true →
        ∃ r, Listed k c r ∧ r.id = id ∧ r.keyActivationPending = true)
  | .activateSigningKey => ∃ id, Shows h k c id .activateKey
  | _ => True

/-- The sheet asks about a row of `s`, with the budget its rows give; and every row of `s` was
listed by the card, which was bound to it. -/
structure Offered (s : Controller) (x : UnblockConfirmSheet) : Prop where
  row : ∃ r ∈ s.model, r.id = x.pinId ∧ RowButton.unblock.visible h r = true
  budget : x.budgetText = s.pukBudget h.toHost
  card : s.card = some c
  listed : ∀ r ∈ s.model, Listed k c r

end Asked

/-- The controller as it was when the last row was asked to be unblocked. -/
def noteUnblock (asked : Controller) (w : Window) : WindowEvent → Controller
  | .clicked _ button => if button = .unblock then w.controller else asked
  | .outside _ | .proceed | .dismiss | .cancel | .startService => asked

/-- The window, and the controller its last unblock was asked of. -/
def askedMachine (h : WindowHost) : Machine (Window × Controller) WindowEvent :=
  (Window.machine h).watch .new noteUnblock

/-- The rows, the sheet and the requests of a window belong to the card they are for; `asked` is the
controller whose row was last asked to be unblocked. -/
structure AtHome (h : WindowHost) (w : Window) (asked : Controller) : Prop where
  /-- What the dashboard shows was listed by the card that is bound. -/
  rows : showDashboard w.controller.state = true → ∀ c, w.controller.card = some c →
    ∀ r ∈ w.controller.model, Listed w.controller.client c r
  /-- The sheet is open over the dashboard only, about a row it showed for the card that is bound
  still, with the budget the rows gave when it was asked for. -/
  sheet : ∀ x, w.sheet = some x → showDashboard w.controller.state = true ∧
    ∀ c, w.controller.card = some c → Offered h w.controller.client c asked x
  /-- Every verb was sent to the card whose record shows its button. -/
  asked : ∀ i < w.controller.client.minted,
    MayAsk h w.controller.client (w.controller.client.ops i).card
      (w.controller.client.ops i).request

section Grows

variable {h : WindowHost} {k k' : Client} {c : CardRef}

lemma Shows.grows {id : QString} {button : RowButton} (hs : Shows h k c id button)
    (hk : Grows k k') : Shows h k' c id button := by
  obtain ⟨r, hr, hid, hvisible⟩ := hs
  exact ⟨r, hr.grows hk, hid, hvisible⟩

lemma MayAsk.grows {q : Request} (hq : MayAsk h k c q) (hk : Grows k k') : MayAsk h k' c q := by
  cases q with
  | managePin id verb options =>
      cases verb with
      | change => exact Shows.grows hq hk
      | unblock => exact Shows.grows hq hk
      | activatePin =>
          refine ⟨hq.1.grows hk, fun hkey => ?_⟩
          obtain ⟨r, hr, hid, hpending⟩ := hq.2 hkey
          exact ⟨r, hr.grows hk, hid, hpending⟩
  | activateSigningKey =>
      obtain ⟨id, hid⟩ := hq
      exact ⟨id, hid.grows hk⟩
  | listCredentials | readIdentity | getPhoto | readCertificates | sign certId options => trivial

lemma Offered.grows {s : Controller} {x : UnblockConfirmSheet} (hx : Offered h k c s x)
    (hk : Grows k k') : Offered h k' c s x where
  row := hx.row
  budget := hx.budget
  card := hx.card
  listed r hr := (hx.listed r hr).grows hk

/-- The sheet stands for a button on a record of the card. -/
lemma Offered.shows {s : Controller} {x : UnblockConfirmSheet} (hx : Offered h k c s x) :
    Shows h k c x.pinId .unblock := by
  obtain ⟨r, hr, hid, hvisible⟩ := hx.row
  exact ⟨r, hx.listed r hr, hid, hvisible⟩

end Grows

/-! ## What the calls ask for -/

section Calls

variable {h : Host} {s : Controller} {e : Event}

lemma Controller.classify_requested :
    s.classify.unblockConfirmRequested = s.unblockConfirmRequested := by
  rcases s.classify_cases with ⟨-, heq⟩ | ⟨-, -, heq⟩ | ⟨-, -, heq⟩ | ⟨c, -, -, -, -, -, heq⟩ <;>
    rw [heq] <;> rfl

lemma Controller.refresh_requested :
    (s.refresh h).unblockConfirmRequested = s.unblockConfirmRequested := by
  have hunbind : ∀ st, (s.unbind st).unblockConfirmRequested = s.unblockConfirmRequested := by
    intro st
    rw [Controller.unbind, Controller.bindCard_none]
    rfl
  rcases s.refresh_cases (h := h) with ⟨-, heq⟩ | ⟨-, -, heq⟩ | ⟨-, -, -, heq⟩ | ⟨x, -, -, -, heq⟩
  · rw [heq, hunbind]
  · rw [heq]
  · rw [heq, hunbind]
  · rw [heq, Controller.classify_requested]
    rcases (s.showReader h x).bindCard_cases x.card with ⟨-, -, hbind⟩ | ⟨-, hbind⟩ <;>
      rw [hbind] <;> rfl

lemma Controller.relistAfterMutation_requested :
    s.relistAfterMutation.unblockConfirmRequested = s.unblockConfirmRequested := by
  unfold Controller.relistAfterMutation Controller.startListCredentials
  split
  · rfl
  · split
    · rfl
    · split <;> rfl

lemma Controller.beginMutation_requested {c : CardRef} {q : Request} {kind : CredentialKind} :
    (s.beginMutation c q kind).unblockConfirmRequested = s.unblockConfirmRequested := by
  by_cases hl : s.listOp = none <;> simp [beginMutation, resetListState, hl]

lemma Controller.verb_requested {q : Request} {kind : CredentialKind} :
    (s.verb q kind).unblockConfirmRequested = s.unblockConfirmRequested := by
  rcases @s.verb_cases q kind with ⟨-, heq⟩ | ⟨c, -, -, heq⟩
  · rw [heq]
  · rw [heq, Controller.beginMutation_requested]

lemma Controller.onMutationDone_requested {t : Terminal} :
    (s.onMutationDone h t).unblockConfirmRequested = s.unblockConfirmRequested := by
  rcases s.onMutationDone_cases (h := h) t with ⟨-, e, m, heq⟩ | ⟨-, e, m, n, heq⟩
  · rw [heq, Controller.relistAfterMutation_requested]
    rfl
  · rw [heq]
    rfl

/-- Only `requestUnblock` asks for a sheet. -/
lemma step_requested (he : ∀ id, e ≠ .requestUnblock id) :
    (step h s e).unblockConfirmRequested = s.unblockConfirmRequested := by
  -- A refresh never asks for a sheet; of the other calls only one does.
  cases hu : s.refreshes e with
  | some u =>
      rw [Controller.step_of_refreshes hu, Controller.refresh_requested]
      cases e <;> simp only [Controller.refreshes, Option.some.injEq, reduceCtorEq] at hu
      case refresh => rw [hu]
      case bindReader id =>
        rw [← hu]
        split <;> rfl
      case startAgent =>
        split at hu
        · rw [Option.some.inj hu]
        · cases hu
      case agentStartFinished =>
        split at hu
        · rw [← Option.some.inj hu]
        · cases hu
  | none =>
      cases e with
      | registry r => rfl
      | refresh => cases hu
      | bindReader id => cases hu
      | cardChanged c =>
          rw [step]
          split
          · exact Controller.classify_requested
          · rfl
      | finished i t =>
          rw [step, Controller.finished]
          split
          · split
            · unfold Controller.onListFinished
              split <;> rfl
            · exact Controller.onMutationDone_requested
          · rfl
      | cancel =>
          cases hm : s.mutationOp <;> cases hl : s.listOp <;>
            simp [step, Controller.cancel, hm, hl]
      | startAgent =>
          rw [step, Controller.startAgent]
          split
          · rfl
          · split
            · exact Controller.refresh_requested
            · rfl
      | agentStartFinished res =>
          rw [step, Controller.onAgentStartFinished]
          split
          · exact Controller.refresh_requested
          · rfl
      | changePin id => exact Controller.verb_requested
      | activate id => exact Controller.verb_requested
      | activateSigningKey id => exact Controller.verb_requested
      | requestUnblock id => exact absurd rfl (he id)
      | confirmUnblock id => exact Controller.verb_requested

/-- Past the window, and by Cancel and the service's start, lists alone are asked for. -/
lemma mintsLists_step (hw : Wired s) (ha : allows s e)
    (he : Window.Outside e ∨ e = .cancel ∨ e = .startAgent) :
    Controller.MintsLists s (step h s e) := by
  -- What reaches the controller past the rows may ask for a list, and for nothing else.
  cases hu : s.refreshes e with
  | some u =>
      rw [Controller.step_of_refreshes hu]
      intro j hj hlt
      exact Controller.mintsLists_refresh j (by rwa [Controller.refreshes_minted hu]) hlt
  | none =>
      cases e with
      | registry r => exact .of_minted rfl
      | refresh => cases hu
      | bindReader id => cases hu
      | cardChanged c =>
          rw [step]
          split
          · exact Controller.mintsLists_classify
          · exact .of_minted rfl
      | finished i t =>
          rcases hw.finished_cases (h := h) ha with ⟨-, heq⟩ | ⟨-, heq⟩ | ⟨-, -, -, heq⟩
          · rw [step, heq]
            refine .of_minted ?_
            unfold Controller.onListFinished
            split <;> rfl
          · rw [step, heq]
            exact fun j hj hlt => Controller.mintsLists_onMutationDone (h := h) (t := t)
              (s := { s with client := s.client.finish i t }) j hj hlt
          · rw [step, heq]
            exact .of_minted rfl
      | cancel => exact .of_minted Controller.cancel_minted
      | startAgent =>
          rw [step, Controller.startAgent]
          split
          · exact .of_minted rfl
          · split
            · exact Controller.mintsLists_refresh
            · exact .of_minted rfl
      | agentStartFinished res =>
          rw [step, Controller.onAgentStartFinished]
          split
          · exact fun j hj hlt => Controller.mintsLists_refresh j hj hlt
          · exact .of_minted rfl
      | changePin id | activate id | activateSigningKey id | requestUnblock id
      | confirmUnblock id => rcases he with he | he | he <;> cases he

end Calls

/-! ## Every verb is at home -/

/-- What carries it along a run: the rows are at home, and so is whatever was asked of them. -/
structure Housed (h : WindowHost) (w : Window) (asked : Controller) : Prop where
  wired : Wired w.controller
  rows : RowsHome w.controller
  scrim : ScrimUp w.controller
  /-- No verb runs under the sheet. -/
  idle : w.sheet ≠ none → w.controller.mutationOp = none
  home : AtHome h w asked

section Housed

variable {h : WindowHost} {w u : Window} {asked asked' : Controller} {e : Event}

/-- No verb runs under a dashboard without the scrim. -/
lemma Housed.idle_of_shown (hw : Housed h w asked)
    (hshown : showDashboard w.controller.state = true) (hstate : w.controller.state ≠ .working) :
    w.controller.mutationOp = none := by
  by_contra hm
  rcases hw.scrim hm with heq | heq
  · exact hstate heq
  · rw [heq] at hshown
    cases hshown

/-- A call that asks for lists alone, or for what a row on display shows.  `hsheet` is about the
sheet that is open afterwards, and `hasked` about what was sent meanwhile. -/
lemma Housed.of_call (hw : Housed h w asked) (ha : Credentials.allows w.controller e)
    (hu : u.controller = Credentials.step h.toHost w.controller e)
    (hverb : Controller.MintsLists w.controller u.controller ∨
      showDashboard w.controller.state = true)
    (hsheet : ∀ x, u.sheet = some x → showDashboard u.controller.state = true ∧
      u.controller.mutationOp = none ∧
        ∀ c, w.controller.card = some c → Offered h w.controller.client c asked' x)
    (hasked : ∀ i, w.controller.client.minted ≤ i → i < u.controller.client.minted →
      MayAsk h u.controller.client (u.controller.client.ops i).card
        (u.controller.client.ops i).request) :
    Housed h u asked' := by
  have hmove : Move h.toHost w.controller e u.controller := hu ▸ hw.wired.move ha
  have hgrows := hmove.grows ha
  have hrows := hw.rows.of_move hw.wired hmove hverb
  refine ⟨hw.wired.of_move hmove, hrows, hw.scrim.of_move hw.wired hmove, fun hopen => ?_,
    fun hshown => hrows (.inl hshown), fun x hx => ?_, fun i hi => ?_⟩
  · obtain ⟨x, hx⟩ := Option.ne_none_iff_exists'.1 hopen
    exact (hsheet x hx).2.1
  · obtain ⟨hshown, -, hoffered⟩ := hsheet x hx
    exact ⟨hshown, fun c hc =>
      (hoffered c (hmove.card_of_shown hw.wired hshown hc)).grows hgrows⟩
  · by_cases hlt : i < w.controller.client.minted
    · have hold := (hw.home.asked i hlt).grows hgrows
      rwa [← hgrows.card i hlt, ← hgrows.request i hlt] at hold
    · exact hasked i (not_lt.1 hlt) hi

lemma shown_of_sheet {x : UnblockConfirmSheet} (hx : (w.call h e).sheet = some x) :
    showDashboard (Credentials.step h.toHost w.controller e).state = true := by
  by_contra hhidden
  rw [Window.call, Window.follow, if_neg hhidden] at hx
  cases hx

/-- A call that asks for no sheet leaves the sheet as it is, or takes it away. -/
lemma sheet_of_call (hsame : (Credentials.step h.toHost w.controller e).unblockConfirmRequested =
    w.controller.unblockConfirmRequested) {x : UnblockConfirmSheet}
    (hx : (w.call h e).sheet = some x) : w.sheet = some x := by
  rw [Window.call, Window.follow, if_pos (shown_of_sheet hx), Window.asked, hsame,
    List.drop_length] at hx
  exact hx

/-- A call that asks for lists alone, and for no sheet. -/
lemma Housed.call_lists (hw : Housed h w asked) (ha : Credentials.allows w.controller e)
    (he : Window.Outside e ∨ e = .cancel ∨ e = .startAgent) : Housed h (w.call h e) asked := by
  have hlists := mintsLists_step (h := h.toHost) hw.wired ha he
  have hsame : (Credentials.step h.toHost w.controller e).unblockConfirmRequested =
      w.controller.unblockConfirmRequested := by
    refine step_requested fun id => ?_
    rintro rfl
    rcases he with he | he | he <;> cases he
  refine hw.of_call ha rfl (.inl hlists) (fun x hx => ?_) fun i hi hlt => ?_
  · have hopen := sheet_of_call hsame hx
    have hidle := (hw.wired.move (h := h.toHost) ha).idle hw.wired hlists
      (hw.idle (by simp [hopen]))
    exact ⟨shown_of_sheet hx, hidle, (hw.home.sheet x hopen).2⟩
  · have hlist : ((w.call h e).controller.client.ops i).request = .listCredentials :=
      hlists i hi hlt
    rw [hlist]
    trivial

/-- A verb over rows on display, asking what the bound card may be asked; no sheet is open over
it. -/
lemma Housed.call_verb (hw : Housed h w asked) {q : Request} {kind : CredentialKind}
    (hstep : Credentials.step h.toHost w.controller e = w.controller.verb q kind)
    (hu : u.controller = Credentials.step h.toHost w.controller e) (hsheet : u.sheet = none)
    (ha : Credentials.allows w.controller e)
    (hshown : showDashboard w.controller.state = true)
    (hmay : ∀ c, w.controller.card = some c → MayAsk h w.controller.client c q) :
    Housed h u asked' := by
  have hgrows := (hw.wired.move (h := h.toHost) ha).grows ha
  refine hw.of_call ha hu (.inr hshown) (fun x hx => ?_) fun i hi hlt => ?_
  · rw [hsheet] at hx
    cases hx
  · rw [← hu] at hgrows
    rw [hu, hstep] at hlt hgrows ⊢
    rcases @w.controller.verb_cases q kind with ⟨-, heq⟩ | ⟨c, hc, -, heq⟩
    · rw [heq] at hlt
      exact absurd hlt (not_lt.2 hi)
    · rw [heq] at hlt hgrows ⊢
      obtain rfl : i = w.controller.client.minted := by
        rw [Controller.beginMutation_minted] at hlt
        omega
      rw [Controller.beginMutation_request, Controller.beginMutation_opCard, Client.mint_ops_self]
      exact (hmay c hc).grows hgrows

lemma mem_of_row {row : ℕ} {r : CredentialRecord} (hr : r ∈ w.controller.model[row]?) :
    r ∈ w.controller.model :=
  List.mem_of_getElem? hr

/-- A row on display is asked to be unblocked: the controller keeps its state, and the sheet is one
about that row, with what the rows say of the PUK. -/
lemma Housed.call_requestUnblock (hw : Housed h w asked) {r : CredentialRecord}
    (hmem : r ∈ w.controller.model) (hclosed : w.sheet = none)
    (hshown : showDashboard w.controller.state = true) (hstate : w.controller.state ≠ .working)
    (hvisible : RowButton.unblock.visible h r = true) :
    Housed h (w.call h (.requestUnblock r.id)) w.controller := by
  have hidle := hw.idle_of_shown hshown hstate
  have hsame : Credentials.step h.toHost w.controller (.requestUnblock r.id) = w.controller ∨
      Credentials.step h.toHost w.controller (.requestUnblock r.id) = { w.controller with
        unblockConfirmRequested := w.controller.unblockConfirmRequested ++
          [(r.id, w.controller.pukBudget h.toHost)] } := by
    rw [Credentials.step, Controller.requestUnblock]
    split
    · exact .inr rfl
    · exact .inl rfl
  refine hw.of_call (e := .requestUnblock r.id) trivial rfl (.inr hshown)
    (fun x hx => ⟨shown_of_sheet hx, ?_, fun c hc => ?_⟩)
    fun i hi hlt => ?_
  · rcases hsame with heq | heq <;> rw [Window.call, Window.follow, heq] <;> exact hidle
  · rcases hsame with heq | heq
    · rw [sheet_of_call (by rw [heq]) hx] at hclosed
      cases hclosed
    · have hnew := hx
      rw [Window.call, Window.follow, if_pos (shown_of_sheet hx), Window.asked, heq,
        List.drop_left] at hnew
      obtain rfl := Option.some.inj hnew
      exact ⟨⟨r, hmem, rfl, hvisible⟩, rfl, hc, hw.home.rows hshown c hc⟩
  · have hminted : (w.call h (.requestUnblock r.id)).controller.client.minted =
        w.controller.client.minted := by
      rcases hsame with heq | heq <;> rw [Window.call, Window.follow, heq]
    rw [hminted] at hlt
    exact absurd hlt (not_lt.2 hi)

/-- A click keeps everything at home. -/
lemma Housed.clicked (hw : Housed h w asked) {row : ℕ} {button : RowButton}
    (ha : w.allows h (.clicked row button)) :
    Housed h (w.step h (.clicked row button)) (noteUnblock asked w (.clicked row button)) := by
  obtain ⟨hclosed, hshown, hstate, r, hr, hvisible⟩ := ha
  have hmem := mem_of_row hr
  have hrows := hw.home.rows hshown
  have hshows : ∀ c, w.controller.card = some c → Shows h w.controller.client c r.id button :=
    fun c hc => ⟨r, hrows c hc r hmem, rfl, hvisible⟩
  have hstep : w.step h (.clicked row button) = w.call h (button.onClicked r) := by
    rw [Window.step, Option.mem_def.1 hr]
  have hnone : ∀ {e : Event} {q : Request} {kind : CredentialKind},
      Credentials.step h.toHost w.controller e = w.controller.verb q kind →
        (w.call h e).sheet = none := by
    intro e q kind heq
    by_contra hopen
    obtain ⟨x, hx⟩ := Option.ne_none_iff_exists'.1 hopen
    rw [sheet_of_call (by rw [heq, Controller.verb_requested]) hx] at hclosed
    cases hclosed
  rw [hstep]
  cases button with
  | change =>
      exact hw.call_verb (e := .changePin r.id) rfl rfl (hnone rfl) trivial hshown hshows
  | unblock => exact hw.call_requestUnblock hmem hclosed hshown hstate hvisible
  | activate =>
      refine hw.call_verb (e := .activate r.id) rfl rfl (hnone rfl) trivial hshown fun c hc =>
        ⟨hshows c hc, fun hkey => ?_⟩
      -- The key is brought up along for a record of the id that has it pending.
      cases hrec : CredentialModel.recordById w.controller.model r.id with
      | none => simp [hrec] at hkey
      | some r' =>
          exact ⟨r', hrows c hc r' (CredentialModel.mem_of_recordById hrec),
            CredentialModel.id_of_recordById hrec, by simpa [hrec] using hkey⟩
  | activateKey =>
      exact hw.call_verb (e := .activateSigningKey r.id) rfl rfl (hnone rfl) trivial hshown
        fun c hc => ⟨r.id, hshows c hc⟩

/-- Every event keeps everything at home. -/
lemma Housed.step (hw : Housed h w asked) {e : WindowEvent} (ha : w.allows h e) :
    Housed h (w.step h e) (noteUnblock asked w e) := by
  cases e with
  | outside e => exact hw.call_lists ha.2 (.inl ha.1)
  | cancel => exact hw.call_lists (e := .cancel) trivial (.inr (.inl rfl))
  | startService => exact hw.call_lists (e := .startAgent) trivial (.inr (.inr rfl))
  | clicked row button => exact hw.clicked ha
  | dismiss =>
      exact ⟨hw.wired, hw.rows, hw.scrim, fun hopen => absurd rfl hopen, hw.home.rows,
        fun x hx => (by cases hx), hw.home.asked⟩
  | proceed =>
      obtain ⟨x, hx⟩ := Option.ne_none_iff_exists'.1 ha
      obtain ⟨hshown, hoffered⟩ := hw.home.sheet x hx
      have hstep : w.step h .proceed = { w.call h (.confirmUnblock x.pinId) with sheet := none } :=
        by rw [Window.step, hx]
      rw [hstep]
      exact hw.call_verb (e := .confirmUnblock x.pinId) rfl rfl rfl trivial hshown
        fun c hc => (hoffered c hc).shows

lemma Window.Start.housed (hs : Window.Start w) : Housed h w .new where
  wired := hs.controller.wired
  rows := .of_empty hs.controller.model
  scrim hm := absurd hs.controller.mutationOp hm
  idle _ := hs.controller.mutationOp
  home :=
    { rows := fun _ c _ r hr => by
        rw [hs.controller.model] at hr
        cases hr
      sheet := fun x hx => by
        rw [hs.sheet] at hx
        cases hx
      asked := fun i hi => by
        rw [hs.controller.minted] at hi
        cases hi }

end Housed

/-- Every state of a run is housed. -/
theorem housed_invariant (h : WindowHost) :
    (askedMachine h).Invariant fun x => Housed h x.1 x.2 where
  start _ hs := hs.2 ▸ hs.1.housed
  kept _ _ hw ha := hw.step ha

/-- **Every verb is at home.**  In every run of the window the rows on display were listed by the
card that is bound; an open sheet asks about a row the dashboard showed when its button was pressed,
with the budget the rows gave then, all of them listed by the card that is bound; and every verb
ever sent went to a card that itself listed the record whose button was pressed. -/
theorem verbs_at_home (h : WindowHost) {w : Window} {es : List WindowEvent}
    (hs : Window.Start w) (ha : (Window.machine h).Admits w es) :
    (askedMachine h).Always (fun x => AtHome h x.1 x.2) (w, .new) es :=
  ((housed_invariant h).kept.always hs.housed (Machine.admits_watch.2 ha)).mono fun _ hw => hw.home

/-- What a card lists: a PIN, and its PUK with two uses left. -/
def pinAndPuk : List CredentialRecord :=
  [{ id := qs "pin", kind := .sign }, { id := qs "puk", kind := .puk, usesLeft := some 2 }]

/-- The sheet over the rows of one card, that card pulled before the user goes on, and the same with
the next. -/
def pulledUnderSheet : List WindowEvent :=
  [.outside (.registry (.desk (qs "r") 1 (.eid true))), .outside .refresh,
    .outside (.finished 0 { credentialsResult := pinAndPuk }),
    .clicked 0 .unblock, .outside (.registry (.desk (qs "r") 2 (.eid true))), .proceed,
    .outside .refresh, .outside (.finished 1 { credentialsResult := pinAndPuk }),
    .clicked 0 .unblock, .proceed]

/-- A window whose records show every button. -/
def WindowHost.plain : WindowHost where
  toHost := .plain
  roles _ := ⟨true, true, true, true⟩

/-- A window as it opens. -/
def Window.new : Window := { controller := .new }

lemma Window.start_new : Window.Start .new := ⟨Credentials.start_new, rfl⟩

/-- The second card is asked to unblock its own PIN, and the first never was. -/
theorem verbs_at_home_pulled :
    (askedMachine .plain).Always (fun x => AtHome .plain x.1 x.2) (.new, .new) pulledUnderSheet ∧
      ((Window.machine .plain).exec .new pulledUnderSheet).controller.client.minted = 3 ∧
      (((Window.machine .plain).exec .new pulledUnderSheet).controller.client.ops 2).card = 2 :=
  ⟨verbs_at_home .plain Window.start_new (by decide), by decide, by decide⟩

/-! ## What is offered is answered -/

/-- The request a button stands for; the sheet's comes later. -/
def RowButton.request (s : Controller) (r : CredentialRecord) : RowButton → Option Request
  | .change => some (.managePin r.id .change {})
  | .unblock => none
  | .activate => some (.managePin r.id .activatePin
      { activateKey := (CredentialModel.recordById s.model r.id).any
          CredentialRecord.keyActivationPending })
  | .activateKey => some .activateSigningKey

/-- The one operation minted on the way from `w` to `u` asks the card for this, under the scrim. -/
structure Sent (w u : Window) (c : CardRef) (q : Request) : Prop where
  minted : u.controller.client.minted = w.controller.client.minted + 1
  request : (u.controller.client.ops w.controller.client.minted).request = q
  card : (u.controller.client.ops w.controller.client.minted).card = c
  live : u.controller.mutationOp = some w.controller.client.minted
  scrim : u.controller.state = .working

/-- What the user's own events do, unless the card is gone. -/
def Answered (h : WindowHost) (w : Window) : WindowEvent → Prop
  | .clicked row button => ∀ r ∈ w.controller.model[row]?, ∀ c, w.controller.card = some c →
      (∀ q ∈ button.request w.controller r, Sent w (w.step h (.clicked row button)) c q) ∧
        (button = .unblock →
          (w.step h (.clicked row button)).sheet = some ⟨r.id, w.controller.pukBudget h.toHost⟩ ∧
            (w.step h (.clicked row button)).controller.client = w.controller.client)
  | .proceed => (w.step h .proceed).sheet = none ∧
      ∀ x, w.sheet = some x → ∀ c, w.controller.card = some c →
        Sent w (w.step h .proceed) c (.managePin x.pinId .unblock {})
  | .cancel => ∀ i, w.controller.mutationOp = some i ∨ w.controller.listOp = some i →
      ((w.step h .cancel).controller.client.ops i).cancelled = true
  | .outside _ | .dismiss | .startService => True

section Answered

variable {h : WindowHost} {w : Window} {asked : Controller}

lemma sent_of_verb {u : Window} {c : CardRef} {q : Request} {kind : CredentialKind}
    (hu : u.controller = w.controller.verb q kind) (hc : w.controller.card = some c)
    (hm : w.controller.mutationOp = none) : Sent w u c q := by
  have hbegin : u.controller = w.controller.beginMutation c q kind := by
    rw [hu, Controller.verb, hc]
    exact if_pos (by simp [Controller.canStartMutation, hc, hm])
  constructor
  · rw [hbegin, Controller.beginMutation_minted]
  · rw [hbegin, Controller.beginMutation_request, Client.mint_ops_self]
  · rw [hbegin, Controller.beginMutation_opCard, Client.mint_ops_self]
  · rw [hbegin, Controller.beginMutation_mutationOp]
  · rw [hbegin, Controller.beginMutation_state]

lemma Housed.answered_clicked (hw : Housed h w asked) {row : ℕ} {button : RowButton}
    (ha : w.allows h (.clicked row button)) : Answered h w (.clicked row button) := by
  intro r hr c hc
  obtain ⟨-, hshown, hstate, -⟩ := ha
  have hm := hw.idle_of_shown hshown hstate
  have hstep : w.step h (.clicked row button) = w.call h (button.onClicked r) := by
    rw [Window.step, Option.mem_def.1 hr]
  rw [hstep]
  cases button with
  | change | activate | activateKey =>
      exact ⟨fun q hq => Option.some.inj hq ▸ sent_of_verb rfl hc hm, fun he => (by cases he)⟩
  | unblock =>
      refine ⟨fun q hq => (by cases hq), fun _ => ?_⟩
      have hcan : w.controller.canStartMutation = true := by
        simp [Controller.canStartMutation, hc, hm]
      have hreq : Credentials.step h.toHost w.controller (.requestUnblock r.id) =
          { w.controller with unblockConfirmRequested := w.controller.unblockConfirmRequested ++
            [(r.id, w.controller.pukBudget h.toHost)] } := if_pos hcan
      rw [RowButton.onClicked, Window.call, hreq]
      refine ⟨?_, rfl⟩
      rw [Window.follow, if_pos hshown, Window.asked, List.drop_left]
      rfl

lemma Housed.answered_proceed (hw : Housed h w asked) (ha : w.allows h .proceed) :
    Answered h w .proceed := by
  obtain ⟨x, hx⟩ := Option.ne_none_iff_exists'.1 ha
  have hstep : w.step h .proceed = { w.call h (.confirmUnblock x.pinId) with sheet := none } := by
    rw [Window.step, hx]
  rw [Answered, hstep]
  refine ⟨rfl, fun y hy c hc => ?_⟩
  obtain rfl : x = y := Option.some.inj (hx.symm.trans hy)
  exact sent_of_verb rfl hc (hw.idle ha)

lemma cancelled_cancel {k : Client} {i j : ℕ} :
    ((k.cancel j).ops i).cancelled = true ↔ i = j ∨ (k.ops i).cancelled = true := by
  by_cases hij : i = j <;> simp [Client.cancel, Client.modifyOp_ops, hij]

/-- Cancel reaches whatever is in flight. -/
lemma answered_cancel : Answered h w .cancel := by
  rintro i (hi | hi)
  · cases hl : w.controller.listOp <;>
      simp [Window.step, Window.call, Window.follow, step, Controller.cancel, hi, hl,
        cancelled_cancel]
  · cases hm : w.controller.mutationOp <;>
      simp [Window.step, Window.call, Window.follow, step, Controller.cancel, hi, hm,
        cancelled_cancel]

end Answered

/-- **What the window offers is answered.**  In every run a click on a button that is there sends
the one request the button stands for to the bound card and raises the scrim, or opens the sheet
about that row; going on in the sheet sends the unblock the sheet is about; and Cancel reaches
whatever is in flight.  Only a card that is gone already gives no answer. -/
theorem clicks_answered (h : WindowHost) {w : Window} {es : List WindowEvent}
    (hs : Window.Start w) (ha : (Window.machine h).Admits w es) :
    (Window.machine h).EachStep (Answered h) w es := by
  refine Machine.eachStep_watch.1 ((housed_invariant h).kept.eachStep hs.housed
    (Machine.admits_watch.2 ha) fun x e hw hal => ?_)
  cases e with
  | clicked row button => exact hw.answered_clicked hal
  | proceed => exact hw.answered_proceed hal
  | cancel => exact answered_cancel
  | outside _ | dismiss | startService => trivial

theorem clicks_answered_pulled :
    (Window.machine .plain).EachStep (Answered .plain) .new pulledUnderSheet :=
  clicks_answered .plain Window.start_new (by decide)

end LibreKDE.Credentials
