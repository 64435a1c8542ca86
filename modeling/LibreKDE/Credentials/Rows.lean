import LibreKDE.Credentials.Wiring

/-!
# Whose rows the window shows

Credential ids are opaque and meaningful to the card that issued them only, and every verb
sends the id of a row to the *bound* card.  So each row has to have been delivered by a list
operation that finished `Ok` on the card bound now, since it was bound (`Delivered`).

The controller empties its model where a re-bind ends without a listing to wait for: in the
branches of `classify` for no card and for a card without PIN management, and on a failed
read.  It does not empty it where `refresh` moves the binding away altogether (the agent
unavailable, no reader left to show) or on to another manageable card, whose own listing
replaces the rows only when it lands.  `rows_belong_iff` is exact about this: the rows belong
to the bound card throughout a run exactly when every turn `KeepsRows`.

The client drops a card and announces the change in one, so that nobody sees the controller in
between.  A run is therefore one of whole turns of the event loop (`LoopTurn`), each one event of
the controller's machine, or a change of the registry and the refresh that answers it.

"Since it was bound" is what an observer of the run remembers (`noteBinding`): how many
operations had been minted when the binding last moved.
-/

namespace LibreKDE.Credentials

open Reactive

/-! ## Turns -/

/-- What the controller is sent in one turn of the event loop. -/
inductive LoopTurn
  /-- The client drops and adds readers and cards, and says so. -/
  | registryChanged (r : Registry)
  /-- Something else.  A registry that moves unannounced keeps the cards there are. -/
  | event (e : Event)

/-- The event, as it comes to a controller whose client drops nothing. -/
def Event.keeping (s : Controller) : Event → Event
  | .registry r => .registry (r.keeping s.client.registry)
  | e => e

/-- The events of a turn: what the client destroys and what it announces of it come in one. -/
def LoopTurn.events (s : Controller) : LoopTurn → List Event
  | .registryChanged r => [.registry r, .refresh]
  | .event e => [e.keeping s]

/-- The controller, sent whole turns, which is how the client's loop sends it anything. -/
def turnMachine (h : Host) : Machine Controller LoopTurn where
  start := Start
  allows s t := (machine h).Admits s (t.events s)
  step s t := (machine h).exec s (t.events s)

/-- The state the refresh of a turn starts from, if it has one. -/
def LoopTurn.refreshed (s : Controller) : LoopTurn → Option Controller
  | .registryChanged r => some (s.setRegistry r)
  | .event e => s.refreshes e

/-! ## The property -/

/-- The observer notes, whenever the binding moves, how many operations there were. -/
def noteBinding (h : Host) (boundAt : ℕ) (s : Controller) (t : LoopTurn) : ℕ :=
  if ((turnMachine h).step s t).card = s.card then boundAt else s.client.minted

/-- The controller, with the note of when its card was bound. -/
def boundMachine (h : Host) : Machine (Controller × ℕ) LoopTurn :=
  (turnMachine h).watch 0 (noteBinding h)

instance (h : Host) (x : Controller × ℕ) (t : LoopTurn) :
    Decidable ((boundMachine h).allows x t) :=
  inferInstanceAs (Decidable ((machine h).EachStep (fun s e => allows s e) x.1 (t.events x.1)))

/-- The record was listed by an operation that finished `Ok` on the bound card, minted since
`boundAt`. -/
def Delivered (s : Controller) (boundAt : ℕ) (r : CredentialRecord) : Prop :=
  ∃ i t, boundAt ≤ i ∧ i < s.client.minted ∧ (s.client.ops i).request = .listCredentials ∧
    s.card = some (s.client.ops i).card ∧ (s.client.ops i).ended = some t ∧ t.status = .ok ∧
    r ∈ t.credentialsResult

/-- A verb on a listed id goes to the card that listed it, with that card's own record. -/
structure VerbsAtHome (s : Controller) (boundAt : ℕ) : Prop where
  changePin : ∀ id r, CredentialModel.recordById s.model id = some r →
    s.canStartMutation = true → ∃ c, s.card = some c ∧ Delivered s boundAt r ∧
      s.changePin id = s.beginMutation c (.managePin r.id .change {}) r.kind
  activate : ∀ id r, CredentialModel.recordById s.model id = some r →
    s.canStartMutation = true → ∃ c, s.card = some c ∧ Delivered s boundAt r ∧
      s.activate id = s.beginMutation c
        (.managePin r.id .activatePin { activateKey := r.keyActivationPending }) r.kind
  confirmUnblock : ∀ id r, CredentialModel.recordById s.model id = some r →
    s.canStartMutation = true → ∃ c, s.card = some c ∧ Delivered s boundAt r ∧
      s.confirmUnblock id = s.beginMutation c (.managePin r.id .unblock {}) .puk

/-- The rows belong to the bound card, and so do the verbs launched from them. -/
structure RowsBelong (x : Controller × ℕ) : Prop where
  delivered : ∀ r ∈ x.1.model, Delivered x.1 x.2 r
  unbound : x.1.card = none → x.1.model = []
  verbs : VerbsAtHome x.1 x.2

/-- The refresh leaves the binding where it is, or ends in a branch that clears the rows: a
reader without a card, or with a card this window does not manage. -/
def RefreshKeepsRows (u : Controller) : Prop :=
  u.available = true ∧
    (u.mutationOp ≠ none ∨
      ∃ x, u.resolvedReader = some x ∧
        (x.card = u.card ∨
          ∀ c, x.card = some c → (u.client.registry.cards c).any AgentCard.pinManagement = false))

/-- There are no rows to keep, or the turn neither takes the binding off them nor leaves
them behind. -/
def KeepsRows (s : Controller) (t : LoopTurn) : Prop :=
  s.model = [] ∨ ∀ u, t.refreshed s = some u → RefreshKeepsRows u

/-! ## What carries it -/

/-- The rows come from the bound card's listing, and so will the next ones. -/
structure Sourced (s : Controller) (boundAt : ℕ) : Prop where
  delivered : ∀ r ∈ s.model, Delivered s boundAt r
  list : ∀ i, s.listOp = some i → boundAt ≤ i

section Sourced

variable {h : Host} {s u : Controller} {c : CardRef} {b b' i : ℕ} {t : Terminal} {e : Event}

lemma Event.keeping_refreshes (s : Controller) (e : Event) :
    s.refreshes (e.keeping s) = s.refreshes e := by
  cases e <;> rfl

lemma Event.keeping_live (hw : Wired s) {r : Registry} (hr : e.keeping s = .registry r) :
    ∀ c, s.card = some c → r.live c = true := by
  intro c hc
  cases e with
  | registry r' =>
      obtain rfl := Event.registry.inj hr
      exact Registry.live_keeping (hw.seated c hc)
  | _ => cases hr

lemma Delivered.card_ne_none {r : CredentialRecord} (hr : Delivered s b r) :
    s.card ≠ none := by
  obtain ⟨i, t, -, -, -, hc, -⟩ := hr
  simp [hc]

/-- Nothing is delivered by operations that still run. -/
lemma Delivered.lt {r : CredentialRecord} (hr : Delivered u b r)
    (hext : Controller.Extends s u) : b < s.client.minted := by
  obtain ⟨i, t, hb, hi, -, -, ht, -⟩ := hr
  by_contra hle
  rw [hext.running i (by omega) hi] at ht
  cases ht

/-- A delivery outlives every move that keeps the binding. -/
lemma Delivered.extends {r : CredentialRecord} (hr : Delivered s b r)
    (hext : Controller.Extends s u) (hc : u.card = s.card) : Delivered u b r := by
  obtain ⟨i, t, hb, hi, hq, hcard, ht, hok, hmem⟩ := hr
  exact ⟨i, t, hb, hi.trans_le hext.minted, (hext.request i hi).trans hq,
    by rw [hc, hext.card i hi, hcard], (hext.ended i hi).trans ht, hok, hmem⟩

/-- A delivery outlives the terminal of an operation still running. -/
lemma Delivered.finish {r : CredentialRecord} (hr : Delivered s b r)
    (hrun : (s.client.ops i).ended = none) :
    Delivered { s with client := s.client.finish i t } b r := by
  obtain ⟨j, t', hb, hj, hq, hcard, ht, hok, hmem⟩ := hr
  have hne : j ≠ i := by
    rintro rfl
    rw [hrun] at ht
    cases ht
  have hsame : (s.client.finish i t).ops j = s.client.ops j := Client.finish_ops_of_ne _ _ hne
  exact ⟨j, t', hb, hj, by rw [hsame, hq], by rw [hsame, hcard], by rw [hsame, ht], hok, hmem⟩

lemma Sourced.of_empty (hmodel : s.model = []) (hl : s.listOp = none) : Sourced s b :=
  ⟨by simp [hmodel], by simp [hl]⟩

lemma Sourced.mono (hs : Sourced s b) (hle : b' ≤ b) : Sourced s b' where
  delivered r hr := by
    obtain ⟨i, t, hb, hrest⟩ := hs.delivered r hr
    exact ⟨i, t, hle.trans hb, hrest⟩
  list i hi := hle.trans (hs.list i hi)

/-- The moves that keep the binding, the rows and the list pointer. -/
lemma Sourced.extends (hs : Sourced s b) (hext : Controller.Extends s u)
    (hc : u.card = s.card) (hmodel : u.model = s.model)
    (hl : ∀ i, u.listOp = some i → s.listOp = some i ∨ i = s.client.minted)
    (hb : b ≤ s.client.minted) : Sourced u b where
  delivered r hr := (hs.delivered r (hmodel ▸ hr)).extends hext hc
  list i hi := by
    rcases hl i hi with h | rfl
    · exact hs.list i h
    · exact hb

lemma Sourced.clearRows (st : State) : Sourced (s.clearRows st) b := .of_empty rfl rfl

lemma Sourced.classify (hs : Sourced s b) (hb : b ≤ s.client.minted) :
    Sourced s.classify b := by
  rcases s.classify_cases with ⟨-, heq⟩ | ⟨-, -, heq⟩ | ⟨-, -, heq⟩ | ⟨c, -, -, -, -, -, heq⟩
  · rw [heq]
    exact .clearRows _
  · rw [heq]
    exact .clearRows _
  · rwa [heq]
  · rw [heq]
    refine hs.extends (.of_mint rfl) rfl rfl (fun i hi => .inr ?_) hb
    have hnew : some s.client.minted = some i := hi
    exact (Option.some.inj hnew).symm

/-- Binding another card scrubs the rows, unless it is manageable, which must find none. -/
lemma Sourced.classify_rebind {c : Option CardRef}
    (hempty : ∀ d, c = some d →
      (s.client.registry.cards d).any AgentCard.pinManagement = true → s.model = [])
    (hb : b ≤ s.client.minted) : Sourced (s.rebind c).classify b := by
  rcases (s.rebind c).classify_cases with
    ⟨-, heq⟩ | ⟨-, -, heq⟩ | ⟨-, hbusy, -⟩ | ⟨d, hcard, hman, -, -, -, heq⟩
  · rw [heq]
    exact .clearRows _
  · rw [heq]
    exact .clearRows _
  · simp [Controller.rebind, Controller.detachMutation, Controller.resetListState] at hbusy
  · have hd : c = some d := hcard
    have hmodel : s.model = [] := by
      apply hempty d hd
      simpa only [Controller.manageable, Controller.boundCard, Controller.rebind, hd,
        Controller.detachMutation_registry, Controller.resetListState_registry,
        Option.bind_some] using hman
    have hsrc : Sourced (s.rebind c) b := .of_empty hmodel rfl
    exact hsrc.classify (by simpa [Controller.rebind] using hb)

/-- A refresh that keeps the rows leaves them with the bound card: the one it was bound to, or
a newly bound one that has none. -/
lemma Sourced.refresh (hs : Sourced u b)
    (hkeep : u.model = [] ∨ RefreshKeepsRows u) (hb : b ≤ u.client.minted) :
    ((u.refresh h).card = u.card → Sourced (u.refresh h) b) ∧
      ((u.refresh h).card ≠ u.card → Sourced (u.refresh h) u.client.minted) := by
  -- With no card bound there are no rows, and a refresh that unbinds keeps none.
  have hnone : u.card = none → u.model = [] := by
    intro hc
    by_contra hne
    obtain ⟨r, hr⟩ := List.exists_mem_of_ne_nil _ hne
    exact (hs.delivered r hr).card_ne_none hc
  have hgone : ∀ st b', u.model = [] → Sourced (u.unbind st) b' := by
    intro st b' hm
    obtain ⟨-, hmodel, hl, -⟩ := u.unbind_frame st
    exact .of_empty (hmodel.trans hm) hl
  rcases u.refresh_cases (h := h) with ⟨hav, heq⟩ | ⟨-, -, heq⟩ | ⟨-, hm, hr, heq⟩ |
    ⟨x, -, hm, hr, heq⟩
  · have hempty : u.model = [] := hkeep.resolve_right fun hk => by
      have hav' := hk.1
      simp [hav] at hav'
    rw [heq]
    exact ⟨fun _ => hgone _ _ hempty, fun _ => hgone _ _ hempty⟩
  · rw [heq]
    exact ⟨fun _ => hs, fun hne => absurd rfl hne⟩
  · have hempty : u.model = [] := hkeep.resolve_right fun hk => by
      rcases hk.2 with hn | ⟨x, hx, -⟩
      · exact hn hm
      · simp [hr] at hx
    rw [heq]
    exact ⟨fun _ => hgone _ _ hempty, fun _ => hgone _ _ hempty⟩
  · rw [heq]
    have hshow : Sourced (u.showReader h x) b :=
      hs.extends (.of_eq rfl) rfl rfl (fun i hi => .inl hi) hb
    rcases (u.showReader h x).bindCard_cases x.card with ⟨-, hc, hbind⟩ | ⟨hc, hbind⟩
    · -- The card already bound: its listing goes on.
      rw [hbind]
      refine ⟨fun _ => hshow.classify hb, fun hne => absurd ?_ hne⟩
      exact Controller.classify_card
    · rw [hbind]
      have hrows : ∀ d, x.card = some d →
          (u.client.registry.cards d).any AgentCard.pinManagement = true → u.model = [] := by
        intro d hd hman
        refine hkeep.resolve_right fun hk => ?_
        rcases hk.2 with hn | ⟨y, hy, hyc⟩
        · exact hn hm
        · obtain rfl : x = y := by simpa [hr] using hy
          rcases hyc with hsame | hunman
          · rcases hc with hcn | hcn
            · simp [hcn] at hd
            · exact hcn hsame.symm
          · simp [hunman d hd] at hman
      exact ⟨fun _ => .classify_rebind hrows hb, fun _ => .classify_rebind hrows le_rfl⟩

/-- Where the bound card is gone, a refresh that keeps the rows empties the model: it is over a
reader without a card, or with one that is not managed here. -/
lemma Sourced.refresh_of_gone (hc : u.card = none) (hm : u.mutationOp = none)
    (hkeep : RefreshKeepsRows u) : Sourced (u.refresh h) b := by
  obtain ⟨hav, hbusy | ⟨x, hx, hcard⟩⟩ := hkeep
  · exact absurd hm hbusy
  · rcases u.refresh_cases (h := h) with ⟨hno, -⟩ | ⟨-, hbusy, -⟩ | ⟨-, -, hnone, -⟩ |
      ⟨y, -, -, hy, heq⟩
    · rw [hav] at hno
      cases hno
    · exact absurd hm hbusy
    · rw [hx] at hnone
      cases hnone
    · obtain rfl : x = y := Option.some.inj (hx.symm.trans hy)
      have hun : ∀ c, x.card = some c →
          (u.client.registry.cards c).any AgentCard.pinManagement = false := by
        rcases hcard with hsame | hun
        · intro c hxc
          rw [hsame, hc] at hxc
          cases hxc
        · exact hun
      rw [heq]
      -- No card was bound, so this binding is new, and classifying what it binds empties the rows.
      rcases (u.showReader h x).bindCard_cases x.card with ⟨hsome, hbound, -⟩ | ⟨-, hbind⟩
      · exact absurd (hbound.symm.trans hc) hsome
      · rw [hbind]
        rcases ((u.showReader h x).rebind x.card).classify_cases with
          ⟨-, hcl⟩ | ⟨-, -, hcl⟩ | ⟨-, hbusy, -⟩ | ⟨d, hd, hman, -⟩
        · rw [hcl]
          exact .clearRows _
        · rw [hcl]
          exact .clearRows _
        · simp [Controller.rebind, Controller.detachMutation, Controller.resetListState] at hbusy
        · have hxd : x.card = some d := hd
          simp only [Controller.manageable, Controller.boundCard, Controller.rebind, hxd,
            Controller.detachMutation_registry, Controller.resetListState_registry,
            Option.bind_some] at hman
          have hfalse : ((u.showReader h x).client.registry.cards d).any
              AgentCard.pinManagement = false := hun d hxd
          rw [hfalse] at hman
          cases hman

/-- A refresh that does not keep the rows leaves them without the card that listed them. -/
lemma not_belong_of_refresh (hkeep : ¬ RefreshKeepsRows u) :
    (u.refresh h).model = u.model ∧ ((u.refresh h).card = none ∨
      ∃ c, (u.refresh h).card = some c ∧ u.client.registry.live c = true ∧ u.card ≠ some c) := by
  rcases u.refresh_cases (h := h) with ⟨-, heq⟩ | ⟨hav, hm, heq⟩ | ⟨-, -, -, heq⟩ |
    ⟨x, hav, -, hr, heq⟩
  · rw [heq]
    exact ⟨(u.unbind_frame _).2.1, .inl (u.unbind_frame _).1⟩
  · exact absurd ⟨hav, .inl hm⟩ hkeep
  · rw [heq]
    exact ⟨(u.unbind_frame _).2.1, .inl (u.unbind_frame _).1⟩
  · have hx : ¬ (x.card = u.card ∨ ∀ c, x.card = some c →
        (u.client.registry.cards c).any AgentCard.pinManagement = false) :=
      fun hyes => hkeep ⟨hav, .inr ⟨x, hr, hyes⟩⟩
    push Not at hx
    obtain ⟨hne, c, hc, hman⟩ := hx
    rw [heq]
    rcases (u.showReader h x).bindCard_cases x.card with ⟨-, hsame, -⟩ | ⟨-, hbind⟩
    · exact absurd hsame.symm hne
    · rw [hbind]
      -- Another card that can be managed: its list is asked for, and the rows stay until it comes.
      refine ⟨?_, .inr ⟨c, ?_, Wired.live_of_resolvedReader hr hc, ?_⟩⟩
      · rcases ((u.showReader h x).rebind x.card).classify_cases with
          ⟨hn, -⟩ | ⟨-, hf, -⟩ | ⟨-, -, hcl⟩ | ⟨d, -, -, -, -, -, hcl⟩
        · have hn' : x.card = none := hn
          simp [hc] at hn'
        · simp only [Controller.manageable, Controller.boundCard, Controller.rebind, hc,
            Controller.detachMutation_registry, Controller.resetListState_registry,
            Option.bind_some] at hf
          exact absurd hf hman
        · rw [hcl]
          rfl
        · rw [hcl]
          rfl
      · rw [Controller.classify_card]
        exact hc
      · exact fun hbound => hne (hc.trans hbound.symm)

/-- The re-list after a verb is on the card the rows are from. -/
lemma Sourced.relistAfterMutation (hs : Sourced s b) (hc : s.card = some c)
    (hm : s.mutationOp = none) (hb : b ≤ s.client.minted) : Sourced s.relistAfterMutation b := by
  have hreset : Sourced { s.resetListState with showingResult := true } b :=
    hs.extends (Controller.Extends.resetListState.trans (.of_eq rfl)) rfl rfl
      (fun j hj => by cases hj) hb
  rw [Controller.relistAfterMutation_of_card hc hm]
  refine hreset.extends (.of_mint rfl) rfl rfl (fun j hj => .inr ?_) (by simpa using hb)
  exact (Option.some.inj hj).symm

/-- The list's terminal replaces the rows by those it delivers, or by none. -/
lemma Sourced.onListFinished (hs : Sourced s b) (hw : Wired s) {i : ℕ} {t : Terminal}
    (hi : s.listOp = some i) :
    Sourced ({ s with client := s.client.finish i t }.onListFinished t) b := by
  obtain ⟨hp, hq, hic⟩ := hw.list i hi
  unfold Controller.onListFinished
  split
  · next hok =>
      refine ⟨fun r hr => ⟨i, t, hs.list i hi, hp.minted, by simpa using hq,
        by simpa using hic, by simp [Client.finish_ended], hok, hr⟩, fun j hj => ?_⟩
      simp at hj
  · exact .of_empty rfl rfl

/-- The mutation's terminal keeps card and rows; the re-list is new. -/
lemma Sourced.onMutationDone (hs : Sourced s b) (hw : Wired s) (hb : b ≤ s.client.minted) {i : ℕ}
    {t : Terminal} (hi : s.mutationOp = some i) :
    Sourced ({ s with client := s.client.finish i t }.onMutationDone h t) b := by
  have hrun := (hw.mutation i hi).1.running
  obtain ⟨c, hc⟩ : ∃ c, s.card = some c := ⟨_, (hw.mutation i hi).2.2⟩
  have hfin : Sourced { s with client := s.client.finish i t } b :=
    ⟨fun r hr => (hs.delivered r hr).finish hrun, hs.list⟩
  rcases Controller.onMutationDone_cases (h := h) { s with client := s.client.finish i t } t
    with ⟨-, isError, message, heq⟩ | ⟨-, isError, message, notice, heq⟩
  · have hshown : Sourced ({ s with
        client := s.client.finish i t }.releaseMutation.showResult isError message) b :=
      ⟨hfin.delivered, hfin.list⟩
    rw [heq]
    exact hshown.relistAfterMutation (c := c) hc rfl hb
  · rw [heq]
    exact ⟨hfin.delivered, hfin.list⟩

/-- Every event that keeps the rows, and the bound card there, keeps them sourced. -/
lemma Sourced.of_move (hs : Sourced s b) (hw : Wired s) (hb : b ≤ s.client.minted)
    (hok : s.model = [] ∨ ∀ v, s.refreshes e = some v → RefreshKeepsRows v)
    (hlive : ∀ r, e = .registry r → ∀ c, s.card = some c → r.live c = true)
    (hmove : Move h s e u) :
    Sourced u (if u.card = s.card then b else s.client.minted) := by
  cases hmove with
  | @refreshed _ v hu =>
      obtain ⟨hc, hmodel, hl⟩ := Controller.refreshes_frame hu
      have hn := Controller.refreshes_minted hu
      have hv : Sourced v b := by
        refine hs.extends (.of_refreshes hu) hc hmodel (fun i hi => .inl ?_) hb
        rcases hl with hl | hl
        · rwa [← hl]
        · simp [hl] at hi
      -- A refresh is the one call that moves the binding while rows are shown.
      have hkeep : v.model = [] ∨ RefreshKeepsRows v := by
        rw [hmodel]
        exact hok.imp_right fun hk => hk v hu
      obtain ⟨hsame, hmoved⟩ := hv.refresh (h := h) hkeep (by omega)
      rw [← hc, ← hn]
      split
      · next hc' => exact hsame hc'
      · next hc' => exact hmoved hc'
  -- The card is not lost here: that takes a turn, which brings the refresh with it.
  | registry r =>
      rcases hw.setRegistry_cases r with ⟨-, hc, hl, -⟩ | ⟨c, hcard, hdead, hc, hl, -⟩
      · rw [if_pos hc]
        refine hs.extends (.of_same rfl (fun _ => rfl) (fun _ => rfl) fun _ => rfl) hc rfl
          (fun i hi => .inl ?_) hb
        rwa [← hl]
      · rw [hlive r rfl c hcard] at hdead
        cases hdead
  | classified hc =>
      rw [if_pos Controller.classify_card]
      exact hs.classify hb
  | listed hi =>
      rw [if_pos (Move.card_finished (h := h) (.listed hi))]
      exact hs.onListFinished hw hi
  | mutated hi =>
      rw [if_pos (Move.card_finished (.mutated hi))]
      exact hs.onMutationDone hw hb hi
  | @unheard i t hcon hrun hl hm =>
      rw [if_pos rfl]
      exact ⟨fun r hr => (hs.delivered r hr).finish hrun, hs.list⟩
  | cancelled =>
      rw [if_pos (by simp)]
      exact hs.extends .cancel (by simp) (by simp) (fun i hi => .inl (by simpa using hi)) hb
  | verb _ hc hm hq _ =>
      rw [if_pos (by simp)]
      exact hs.extends .beginMutation (by simp) (by simp) (fun i hi => by simp at hi) hb
  | quiet _ hq =>
      rw [if_pos hq.card]
      refine hs.extends (.of_eq hq.client) hq.card hq.model (fun i hi => .inl ?_) hb
      rw [← hq.listOp, hi]

/-- The rows are the bound card's as long as they are sourced. -/
lemma Sourced.rowsBelong (hs : Sourced s b) : RowsBelong (s, b) where
  delivered := hs.delivered
  unbound hc := by
    by_contra hne
    obtain ⟨r, hr⟩ := List.exists_mem_of_ne_nil _ hne
    exact (hs.delivered r hr).card_ne_none hc
  verbs := by
    have hverb : ∀ id r, CredentialModel.recordById s.model id = some r →
        s.canStartMutation = true → ∃ c, s.card = some c ∧ Delivered s b r ∧ r.id = id ∧
          ∀ q kind, s.verb q kind = s.beginMutation c q kind := by
      intro id r hr hcan
      have hdel := hs.delivered r (CredentialModel.mem_of_recordById hr)
      obtain ⟨c, hc⟩ := Option.ne_none_iff_exists'.1 hdel.card_ne_none
      exact ⟨c, hc, hdel, CredentialModel.id_of_recordById hr, fun q kind => by
        simp [Controller.verb, hc, hcan]⟩
    refine ⟨fun id r hr hcan => ?_, fun id r hr hcan => ?_, fun id r hr hcan => ?_⟩ <;>
      obtain ⟨c, hc, hdel, rfl, hv⟩ := hverb id r hr hcan <;>
      refine ⟨c, hc, hdel, ?_⟩
    · simp [Controller.changePin, hv, Controller.kindOf, hr]
    · simp [Controller.activate, hv, Controller.kindOf, hr]
    · simp [Controller.confirmUnblock, hv]

end Sourced

/-! ## The exact condition -/

section Exact

variable {h : Host} {s u v : Controller} {t : LoopTurn} {b : ℕ}

lemma Wired.turn (hw : Wired s) (hal : (turnMachine h).allows s t) :
    Wired ((turnMachine h).step s t) :=
  Machine.Kept.exec (m := machine h) (I := Wired)
    (fun _ _ hs ha => hs.of_move (hs.move ha)) hw hal

/-- A move of the registry asks nothing and ends nothing. -/
lemma Controller.Extends.setRegistry (s : Controller) (r : Registry) :
    Controller.Extends s (s.setRegistry r) :=
  .of_same rfl (fun _ => rfl) (fun _ => rfl) fun _ => rfl

/-- A turn that refreshes, and the state it refreshes from: that has the rows there were, and a card
it does not have bound was not bound before, if it is there. -/
lemma LoopTurn.refreshed_frame (hw : Wired s) (hu : t.refreshed s = some u) :
    (turnMachine h).step s t = u.refresh h ∧ u.model = s.model ∧ Controller.Extends s u ∧
      ∀ c, u.client.registry.live c = true → u.card ≠ some c → s.card ≠ some c := by
  cases t with
  | registryChanged r =>
      obtain rfl := Option.some.inj hu
      refine ⟨rfl, rfl, .setRegistry s r, fun c hlive hne hbound => ?_⟩
      rcases hw.setRegistry_cases r with ⟨-, hc, -⟩ | ⟨d, hcard, hdead, -⟩
      · exact hne (hc.trans hbound)
      · obtain rfl : d = c := Option.some.inj (hcard.symm.trans hbound)
        rw [show r.live d = true from hlive] at hdead
        cases hdead
  | event e =>
      have hre : s.refreshes (e.keeping s) = some u := (e.keeping_refreshes s).trans hu
      obtain ⟨hc, hm, -⟩ := Controller.refreshes_frame hre
      exact ⟨Controller.step_of_refreshes hre, hm, .of_refreshes hre,
        fun c _ hne hbound => hne (hc.trans hbound)⟩

/-- Every turn that keeps the rows keeps them sourced. -/
lemma Sourced.of_turn (hs : Sourced s b) (hw : Wired s) (hb : b ≤ s.client.minted)
    (hal : (turnMachine h).allows s t) (hok : KeepsRows s t) :
    Sourced ((turnMachine h).step s t) (noteBinding h b s t) := by
  cases t with
  | event e =>
      refine hs.of_move hw hb (hok.imp_right fun hk v hv => hk v ?_)
        (fun r hr => Event.keeping_live hw hr) (hw.move hal.1)
      rw [← hv, e.keeping_refreshes s]
      rfl
  | registryChanged r =>
      have hkeep : (s.setRegistry r).model = [] ∨ RefreshKeepsRows (s.setRegistry r) :=
        hok.imp_right fun hk => hk _ rfl
      rcases hw.setRegistry_cases r with ⟨-, hc, hl, -⟩ | ⟨c, hcard, -, hnone, hl, hm⟩
      -- The bound card lives on, and the refresh finds what it finds without the event.
      · have hv : Sourced (s.setRegistry r) b := by
          refine hs.extends (.setRegistry s r) hc rfl (fun i hi => .inl ?_) hb
          rwa [← hl]
        obtain ⟨hsame, hmoved⟩ := hv.refresh (h := h) hkeep hb
        rw [hc] at hsame hmoved
        show Sourced ((s.setRegistry r).refresh h)
          (if ((s.setRegistry r).refresh h).card = s.card then b else s.client.minted)
        split_ifs with hcard
        · exact hsame hcard
        · exact hmoved hcard
      · -- The bound card is gone: what it listed goes with it, or there was nothing.
        have hnew : Sourced ((s.setRegistry r).refresh h) s.client.minted := by
          rcases hkeep with hempty | hkeep
          · have hv : Sourced (s.setRegistry r) s.client.minted := .of_empty hempty hl
            obtain ⟨hsame, hmoved⟩ := hv.refresh (h := h) (.inl hempty) le_rfl
            by_cases hcard : ((s.setRegistry r).refresh h).card = (s.setRegistry r).card
            · exact hsame hcard
            · exact hmoved hcard
          · exact .refresh_of_gone hnone hm hkeep
        refine hnew.mono ?_
        unfold noteBinding
        split_ifs
        · exact hb
        · exact le_rfl

/-- The rows right after the binding moved cannot have been delivered on the new card. -/
lemma RowsBelong.model_of_moved (hrows : RowsBelong (v, s.client.minted))
    (hext : Controller.Extends s v) : v.model = [] := by
  by_contra hne
  obtain ⟨r, hr⟩ := List.exists_mem_of_ne_nil _ hne
  exact lt_irrefl _ ((hrows.delivered r hr).lt hext)

/-- A turn that does not keep the rows leaves some behind. -/
lemma not_rowsBelong_of_turn (hw : Wired s) (hlose : ¬ KeepsRows s t) :
    ¬ RowsBelong ((turnMachine h).step s t, noteBinding h b s t) := by
  intro hrows
  unfold KeepsRows at hlose
  push Not at hlose
  obtain ⟨hne, u, hu, hkeep⟩ := hlose
  obtain ⟨heq, hm, hext, hother⟩ := LoopTurn.refreshed_frame (h := h) hw hu
  obtain ⟨hmodel, hcard⟩ := not_belong_of_refresh (h := h) hkeep
  rw [← heq, hm] at hmodel
  rw [← heq] at hcard
  rcases hcard with hnone | ⟨c, hc, hlive, hnew⟩
  · exact hne (hmodel ▸ hrows.unbound hnone)
  · have hmoved : ((turnMachine h).step s t).card ≠ s.card :=
      fun hsame => hother c hlive hnew (hsame.symm.trans hc)
    have hgrown : Controller.Extends s ((turnMachine h).step s t) := by
      rw [heq]
      exact hext.trans .refresh
    rw [noteBinding, if_neg hmoved] at hrows
    exact hne (hmodel ▸ hrows.model_of_moved hgrown)

end Exact

lemma Start.sourced {s : Controller} (hs : Start s) : Sourced s 0 := .of_empty hs.model hs.listOp

/-- What carries the rows along a run, for the number their card was bound under. -/
structure RowsCarried (x : Controller × ℕ) : Prop where
  wired : Wired x.1
  sourced : Sourced x.1 x.2
  bound : x.2 ≤ x.1.client.minted

lemma Start.rowsCarried {s : Controller} (hs : Start s) : RowsCarried (s, 0) :=
  ⟨hs.wired, hs.sourced, Nat.zero_le _⟩

section Carried

variable {h : Host} {x : Controller × ℕ} {t : LoopTurn}

/-- A turn that moves the binding ends no operation. -/
lemma extends_of_moved (hw : Wired x.1) (hal : (turnMachine h).allows x.1 t)
    (hmoved : ((turnMachine h).step x.1 t).card ≠ x.1.card) :
    Controller.Extends x.1 ((turnMachine h).step x.1 t) := by
  cases t with
  | registryChanged r => exact (Controller.Extends.setRegistry x.1 r).trans .refresh
  | event e =>
      have hmove := hw.move (h := h) hal.1
      refine hmove.extends fun i terminal he => hmoved ?_
      rw [he] at hmove
      have hcard := hmove.card_finished
      show (step h x.1 (e.keeping x.1)).card = x.1.card
      rw [he]
      exact hcard

lemma minted_turn (hw : Wired x.1) (hal : (turnMachine h).allows x.1 t) :
    x.1.client.minted ≤ ((turnMachine h).step x.1 t).client.minted := by
  cases t with
  | registryChanged r => exact ((Controller.Extends.setRegistry x.1 r).trans .refresh).minted
  | event e => exact (hw.move (h := h) hal.1).minted_le

lemma RowsCarried.next (hx : RowsCarried x) (hal : (boundMachine h).allows x t)
    (hok : KeepsRows x.1 t) : RowsCarried ((boundMachine h).step x t) := by
  refine ⟨hx.wired.turn hal, hx.sourced.of_turn hx.wired hx.bound hal hok, ?_⟩
  have hle := minted_turn hx.wired hal
  show noteBinding h x.2 x.1 t ≤ ((turnMachine h).step x.1 t).client.minted
  unfold noteBinding
  split
  · exact hx.bound.trans hle
  · exact hle

/-- Where the rows are kept, what a moved binding leaves belongs to the new card: nothing. -/
lemma RowsCarried.model_of_moved (hx : RowsCarried x) (hal : (boundMachine h).allows x t)
    (hok : KeepsRows x.1 t) (hmoved : ((turnMachine h).step x.1 t).card ≠ x.1.card) :
    ((turnMachine h).step x.1 t).model = [] := by
  have hnext : RowsBelong ((turnMachine h).step x.1 t, noteBinding h x.2 x.1 t) :=
    (hx.next hal hok).sourced.rowsBelong
  rw [noteBinding, if_neg hmoved] at hnext
  exact hnext.model_of_moved (extends_of_moved hx.wired hal hmoved)

end Carried

/-- The machine whose turns keep the rows. -/
def keepingMachine (h : Host) : Machine (Controller × ℕ) LoopTurn :=
  (boundMachine h).restrict fun x t => KeepsRows x.1 t

lemma rowsCarried_kept (h : Host) : (keepingMachine h).Kept RowsCarried :=
  fun _ _ hx hal => hx.next hal.1 hal.2

/-- **The rows belong to the bound card**, after every turn of a run, exactly when each of its
turns keeps the rows; and where they do, a turn that moves the binding leaves none. -/
theorem rows_belong_iff (h : Host) {s : Controller} {ts : List LoopTurn} (hs : Start s)
    (ha : (boundMachine h).Admits (s, 0) ts) :
    ((boundMachine h).Always RowsBelong (s, 0) ts ↔
      (boundMachine h).EachStep (fun x t => KeepsRows x.1 t) (s, 0) ts) ∧
    ((boundMachine h).Always RowsBelong (s, 0) ts →
      (boundMachine h).EachStep (fun x t => ((turnMachine h).step x.1 t).card ≠ x.1.card →
        ((turnMachine h).step x.1 t).model = []) (s, 0) ts) := by
  have hexact : (boundMachine h).Always RowsBelong (s, 0) ts ↔
      (boundMachine h).EachStep (fun x t => KeepsRows x.1 t) (s, 0) ts :=
    Machine.always_iff_eachStep (fun _ _ hx hal hok => hx.next hal hok)
      (fun _ hx => hx.sourced.rowsBelong)
      (fun _ _ hx _ hno => not_rowsBelong_of_turn hx.wired hno) hs.rowsCarried ha
  refine ⟨hexact, fun hrows => ?_⟩
  have hadmits : (keepingMachine h).Admits (s, 0) ts :=
    Machine.admits_restrict.2 ⟨ha, hexact.1 hrows⟩
  apply Machine.eachStep_restrict.1
  exact (rowsCarried_kept h).eachStep hs.rowsCarried hadmits fun _ _ hx hal hmoved =>
    hx.model_of_moved hal.1 hal.2 hmoved

/-- A reader without a card. -/
def emptyDesk : Registry where
  available := true
  agentState := .ready
  readers := [{ id := qs "r", name := qs "r", model := qs "r" }]
  cards _ := none
  seated := by simp

/-- A listed card, a PIN change, and the card pulled while its rows are shown; and its successor. -/
def keptRows : List LoopTurn :=
  [.event (.bindReader (qs "r")), .registryChanged (.desk (qs "r") 1 (.eid true)),
    .event (.finished 0 { credentialsResult := [{ id := qs "pin" }] }),
    .event (.changePin (qs "pin")), .event (.finished 1 {}),
    .event (.finished 2 { credentialsResult := [{ id := qs "pin" }] }),
    .registryChanged emptyDesk, .registryChanged (.desk (qs "r") 2 (.eid true))]

/-- A card swapped for another in the same reader. -/
def swappedCard : List LoopTurn :=
  [.registryChanged (.desk (qs "r") 1 (.eid true)),
    .event (.finished 0 { credentialsResult := [{ id := qs "pin" }] }),
    .registryChanged (.desk (qs "r") 2 (.eid true))]

theorem rows_belong_iff_kept :
    ((boundMachine .plain).Always RowsBelong (.new, 0) keptRows ↔
      (boundMachine .plain).EachStep (fun x t => KeepsRows x.1 t) (.new, 0) keptRows) ∧
    ((boundMachine .plain).Always RowsBelong (.new, 0) keptRows →
      (boundMachine .plain).EachStep (fun x t =>
        ((turnMachine .plain).step x.1 t).card ≠ x.1.card →
          ((turnMachine .plain).step x.1 t).model = []) (.new, 0) keptRows) :=
  rows_belong_iff .plain start_new (by decide)

/-- The second card is bound and asked for its PINs, over the rows of the first. -/
theorem rows_of_swapped_card :
    ∃ s ts, Start s ∧ (boundMachine .plain).Admits (s, 0) ts ∧
      ¬ (boundMachine .plain).Always RowsBelong (s, 0) ts := by
  refine ⟨.new, swappedCard, start_new, by decide, fun h => ?_⟩
  obtain ⟨i, t, hb, hi, -, -, ht, -⟩ := h.last.delivered { id := qs "pin" } (by decide)
  have hbound : ((boundMachine .plain).exec (.new, 0) swappedCard).2 = 1 := by decide
  have hminted : ((boundMachine .plain).exec (.new, 0) swappedCard).1.client.minted = 2 := by
    decide
  have hrun : (((boundMachine .plain).exec (.new, 0) swappedCard).1.client.ops 1).ended = none := by
    decide
  obtain rfl : i = 1 := by omega
  simp [hrun] at ht

end LibreKDE.Credentials
