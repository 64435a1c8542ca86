import LibreKDE.Credentials.Intents

/-!
# The latch of a cancelled list

A list that the holder cancelled must not prompt for the CAN again; a list that failed for
another reason must.  Both are decided by `listSettled`, which `onListFinished` sets and which
is dropped, together with the list in flight, in half a dozen places.

`LatchStep` is what a step other than the list's own terminal does to the two: it keeps them,
drops them because the binding, the capability or a verb gave reason to (`Disturbed`), or
fetches a list.  `Held` (nothing is minted while the card stays) and `Retriable` (the next
refresh fetches) are each kept by it.
-/

namespace LibreKDE.Credentials

open Reactive

/-! ## One step, for the latch -/

/-- The step from `s` to `u` gave reason to forget what is known of the listing. -/
def Disturbed (s u : Controller) : Prop :=
  u.card ≠ s.card ∨ u.manageable = false ∨ s.mutationOp ≠ none ∨ u.mutationOp ≠ none

/-- What a step other than the list's own terminal makes of the latch. -/
inductive LatchStep (s u : Controller) : Prop
  /-- The latch is as it was, and nothing but a verb has been minted. -/
  | kept (hc : u.card = s.card) (hl : u.listOp = s.listOp)
      (hset : u.listSettled = s.listSettled)
      (hn : u.client.minted = s.client.minted ∨ u.mutationOp ≠ none)
  /-- There is nothing to list. -/
  | unbound (hc : u.card = none)
  | dropped (hl : u.listOp = none) (hset : u.listSettled = false) (hd : Disturbed s u)
  /-- A list is fetched of the card bound by now. -/
  | fetched (hl : u.listOp = some s.client.minted) (hn : s.client.minted < u.client.minted)
      (hq : (u.client.ops s.client.minted).request = .listCredentials)
      (hc : u.card = some (u.client.ops s.client.minted).card)
      (hwhy : Disturbed s u ∨ s.listOp = none ∧ s.listSettled = false)

namespace LatchStep

variable {h : Host} {s u v : Controller} {c : CardRef} {q : Request} {kind : CredentialKind}

/-- The step reads five fields of the state it starts from. -/
lemma congr (hvu : LatchStep v u) (hc : v.card = s.card) (hl : v.listOp = s.listOp)
    (hset : v.listSettled = s.listSettled) (hm : v.mutationOp = s.mutationOp)
    (hn : v.client.minted = s.client.minted) : LatchStep s u := by
  have hdist : Disturbed v u → Disturbed s u := by
    unfold Disturbed
    rw [hc, hm]
    exact id
  cases hvu with
  | kept hc' hl' hset' hn' =>
      exact .kept (hc'.trans hc) (hl'.trans hl) (hset'.trans hset) (hn ▸ hn')
  | unbound hc' => exact .unbound hc'
  | dropped hl' hset' hd => exact .dropped hl' hset' (hdist hd)
  | fetched hl' hn' hq hc' hwhy =>
      rw [hn] at hl' hn' hq hc'
      rw [hl, hset] at hwhy
      exact .fetched hl' hn' hq hc' (hwhy.imp_left hdist)

/-- With the latch dropped first, the step is disturbed whatever it goes on to do. -/
lemma of_dropped (hvu : LatchStep v u) (hl : v.listOp = none) (hset : v.listSettled = false)
    (hn : v.client.minted = s.client.minted) (hd : Disturbed s u) : LatchStep s u := by
  cases hvu with
  | kept _ hl' hset' _ => exact .dropped (hl'.trans hl) (hset'.trans hset) hd
  | unbound hc => exact .unbound hc
  | dropped hl' hset' _ => exact .dropped hl' hset' hd
  | fetched hl' hn' hq hc _ =>
      rw [hn] at hl' hn' hq hc
      exact .fetched hl' hn' hq hc (.inl hd)

lemma mintList (hc : s.card = some c)
    (hwhy : Disturbed s (s.mintList c) ∨ s.listOp = none ∧ s.listSettled = false) :
    LatchStep s (s.mintList c) :=
  .fetched rfl (Nat.lt_succ_self _) (by simp [Controller.mintList])
    (by simpa [Controller.mintList] using hc) hwhy

lemma clearRows_manageable (st : State) : (s.clearRows st).manageable = s.manageable := by
  simp [Controller.manageable, Controller.boundCard, Controller.clearRows,
    Controller.resetListState_registry, show s.resetListState.card = s.card from rfl]

lemma classify : LatchStep s s.classify := by
  rcases s.classify_cases with ⟨hc, heq⟩ | ⟨-, hm, heq⟩ | ⟨-, -, heq⟩ | ⟨c, hc, -, -, hl, hset, heq⟩
  · rw [heq]
    exact .unbound hc
  · rw [heq]
    exact .dropped rfl rfl (.inr (.inl ((clearRows_manageable _).trans hm)))
  · rw [heq]
    exact .kept rfl rfl rfl (.inl rfl)
  · rw [heq]
    exact .mintList hc (.inr ⟨hl, hset⟩)

/-- A card bound in place of another is classified afresh. -/
lemma classify_rebind {c : Option CardRef} (hc : c = none ∨ s.card ≠ c) :
    LatchStep s (s.rebind c).classify := by
  have hcard : (s.rebind c).classify.card = c := Controller.classify_card
  cases c with
  | none => exact .unbound hcard
  | some c =>
      have hne : s.card ≠ some c := hc.resolve_left (by simp)
      refine LatchStep.classify.of_dropped rfl rfl (by simp) (.inl ?_)
      rw [hcard]
      exact hne.symm

lemma refresh : LatchStep s (s.refresh h) := by
  rcases s.refresh_cases (h := h) with ⟨-, heq⟩ | ⟨-, -, heq⟩ | ⟨-, -, -, heq⟩ | ⟨x, -, -, -, heq⟩
  · rw [heq]
    exact .unbound (Controller.unbind_frame _).1
  · rw [heq]
    exact .kept rfl rfl rfl (.inl rfl)
  · rw [heq]
    exact .unbound (Controller.unbind_frame _).1
  · rw [heq]
    have hshow : LatchStep (s.showReader h x) ((s.showReader h x).bindCard x.card).classify := by
      rcases (s.showReader h x).bindCard_cases x.card with ⟨-, -, hb⟩ | ⟨hne, hb⟩
      · rw [hb]
        exact .classify
      · rw [hb]
        exact .classify_rebind hne
    exact hshow.congr rfl rfl rfl rfl rfl

lemma of_refreshes {e : Event} (hv : s.refreshes e = some v) : LatchStep s (v.refresh h) := by
  rcases Controller.refreshes_cases hv with ⟨hk, -, hc, -, hl, hm, -, hi⟩ | ⟨id, -, hm, -, rfl⟩
  · exact LatchStep.refresh.congr hc hl hi.listSettled hm (by rw [hk])
  · exact LatchStep.refresh.of_dropped rfl rfl (by simp) (.inr (.inr (.inl hm)))

lemma setRegistry (hs : Wired s) (r : Registry) : LatchStep s (s.setRegistry r) := by
  rcases hs.setRegistry_cases r with ⟨-, hc, hl, -⟩ | ⟨-, -, -, hc, -, -⟩
  · exact .kept hc hl rfl (.inl rfl)
  · exact .unbound hc

lemma cancel : LatchStep s s.cancel := by
  have hset : s.cancel.listSettled = s.listSettled := by
    cases hm : s.mutationOp <;> cases hl : s.listOp <;> simp [Controller.cancel, hm, hl]
  exact .kept (by simp) (by simp) hset (.inl (by simp))

lemma beginMutation : LatchStep s (s.beginMutation c q kind) := by
  have hverb : (s.beginMutation c q kind).mutationOp ≠ none := by simp
  by_cases hl : s.listOp = none
  · have hset : (s.beginMutation c q kind).listSettled = s.listSettled := by
      simp [Controller.beginMutation, hl]
    exact .kept (by simp) (by simp [hl]) hset (.inr hverb)
  · have hset : (s.beginMutation c q kind).listSettled = false := by
      simp [Controller.beginMutation, Controller.resetListState, hl]
    exact .dropped (by simp) hset (.inr (.inr (.inr hverb)))

/-- The mandatory re-list fetches whatever was settled. -/
lemma relistAfterMutation (hc : v.card = some c) (hm : v.mutationOp = none)
    (hn : v.client.minted = s.client.minted) (hd : Disturbed s v.relistAfterMutation) :
    LatchStep s v.relistAfterMutation := by
  have hmint : LatchStep { v.resetListState with showingResult := true } v.relistAfterMutation := by
    rw [Controller.relistAfterMutation_of_card hc hm]
    exact .mintList hc (.inr ⟨rfl, rfl⟩)
  exact hmint.of_dropped rfl rfl (by simpa using hn) hd

/-- The terminal of a verb re-lists its card, or leaves the latch as it was. -/
lemma onMutationDone {i : ℕ} (hs : Wired s) (hi : s.mutationOp = some i) (t : Terminal) :
    LatchStep s ({ s with client := s.client.finish i t }.onMutationDone h t) := by
  have hc : s.card = some (s.client.ops i).card := (hs.mutation i hi).2.2
  have hbusy : s.mutationOp ≠ none := by simp [hi]
  rcases Controller.onMutationDone_cases (h := h) { s with client := s.client.finish i t } t with
    ⟨-, isError, message, heq⟩ | ⟨-, isError, message, notice, heq⟩
  · rw [heq]
    exact .relistAfterMutation hc rfl rfl (.inr (.inr (.inl hbusy)))
  · rw [heq]
    exact .kept rfl rfl rfl (.inl rfl)

end LatchStep

/-- Every move but the list's own terminal is a step of the latch. -/
lemma Move.latchStep {h : Host} {s u : Controller} {e : Event} (hmove : Move h s e u)
    (hs : Wired s) (hne : ∀ i t, e = .finished i t → s.listOp ≠ some i) : LatchStep s u := by
  cases hmove with
  | refreshed hv => exact .of_refreshes hv
  | registry r => exact .setRegistry hs r
  | classified hc => exact .classify
  | @listed i t hi => exact absurd hi (hne i t rfl)
  | mutated hi => exact .onMutationDone hs hi _
  | unheard hcon hrun hl hm => exact .kept rfl rfl rfl (.inl rfl)
  | cancelled => exact .cancel
  | verb he hc hm hq hk => exact .beginMutation
  | quiet he hq =>
      exact .kept hq.card hq.listOp hq.intents.listSettled (.inl (by rw [hq.client]))

/-! ## A cancelled list stays cancelled -/

/-- The card is still bound, still manages PINs, and no verb has been started. -/
structure StaysOn (c : CardRef) (s : Controller) : Prop where
  card : s.card = some c
  manageable : s.manageable = true
  noVerb : s.mutationOp = none

/-- The latch is closed over a card, with so many operations minted. -/
structure Held (c : CardRef) (n : ℕ) (s : Controller) : Prop where
  wired : Wired s
  card : s.card = some c
  listOp : s.listOp = none
  noVerb : s.mutationOp = none
  settled : s.listSettled = true
  minted : s.client.minted = n

variable {h : Host} {s u : Controller} {o : Intents} {c : CardRef} {i n : ℕ} {t : Terminal}
  {e : Event} {es : List Event}

/-- **While the card stays, no step opens the latch.** -/
lemma Held.step (hs : Held c n s) (ha : allows s e) (hu : StaysOn c (step h s e)) :
    Held c n (step h s e) := by
  have hmove := hs.wired.move (h := h) ha
  have hwired := hs.wired.of_move hmove
  have hcalm : ¬ Disturbed s (LibreKDE.Credentials.step h s e) := by
    rintro (hcard | hman | hbusy | hbusy)
    · exact hcard (hu.card.trans hs.card.symm)
    · rw [hu.manageable] at hman
      cases hman
    · exact hbusy hs.noVerb
    · exact hbusy hu.noVerb
  cases hmove.latchStep hs.wired (fun _ _ _ => by simp [hs.listOp]) with
  | kept _ hl hset hn =>
      have hn' := hn.resolve_right (not_not.2 hu.noVerb)
      exact ⟨hwired, hu.card, hl.trans hs.listOp, hu.noVerb, hset.trans hs.settled,
        hn'.trans hs.minted⟩
  | unbound hc =>
      rw [hu.card] at hc
      cases hc
  | dropped _ _ hd => exact absurd hd hcalm
  | fetched _ _ _ _ hwhy =>
      have hset := (hwhy.resolve_left hcalm).2
      rw [hs.settled] at hset
      cases hset

lemma Held.exec (hs : Held c n s) (ha : (machine h).Admits s es)
    (hstay : (machine h).EachStep (fun s e => StaysOn c ((machine h).step s e)) s es) :
    Held c n ((machine h).exec s es) := by
  have hkept : ((machine h).restrict fun s e => StaysOn c ((machine h).step s e)).Kept (Held c n) :=
    fun _ _ hs ha => hs.step ha.1 ha.2
  exact hkept.exec hs (Machine.admits_restrict.2 ⟨ha, hstay⟩)

/-! ## A list that failed is asked for again -/

/-- No list of the card has been minted since `n` operations were. -/
def Unlisted (c : CardRef) (n : ℕ) (s : Controller) : Prop :=
  ∀ j, n ≤ j → j < s.client.minted → (s.client.ops j).request = .listCredentials →
    (s.client.ops j).card ≠ c

/-- Until the card is listed again, nothing stands in the way of doing so. -/
structure Retriable (c : CardRef) (n : ℕ) (s : Controller) : Prop where
  wired : Wired s
  minted : n ≤ s.client.minted
  unsettled : Unlisted c n s → s.card = some c → s.listOp = none ∧ s.listSettled = false

lemma Move.opCard {j : ℕ} (hmove : Move h s e u) (hlt : j < s.client.minted) :
    (u.client.ops j).card = (s.client.ops j).card := by
  by_cases he : ∀ i t, e ≠ .finished i t
  · exact (hmove.extends he).card j hlt
  · push Not at he
    obtain ⟨i, t, rfl⟩ := he
    exact (hmove.extends_finish.card j hlt).trans (by simp)

lemma Unlisted.of_move (hu : Unlisted c n u) (hmove : Move h s e u) : Unlisted c n s := by
  intro j hj hlt hq
  obtain ⟨hlt', hreq⟩ := hmove.request hlt
  rw [← hmove.opCard hlt]
  exact hu j hj hlt' (hreq.trans hq)

lemma Retriable.step (hs : Retriable c n s) (ha : allows s e) :
    Retriable c n (step h s e) := by
  have hmove := hs.wired.move (h := h) ha
  refine ⟨hs.wired.of_move hmove, hs.minted.trans hmove.minted_le, fun hun hcard => ?_⟩
  have hfree := hs.unsettled (hun.of_move hmove)
  have hne : ∀ i t, e = .finished i t → s.listOp ≠ some i := by
    rintro i t rfl hi
    have hnone := (hfree (hmove.card_finished.symm.trans hcard)).1
    rw [hi] at hnone
    cases hnone
  cases hmove.latchStep hs.wired hne with
  | kept hc hl hset _ =>
      obtain ⟨hnone, hfalse⟩ := hfree (hc.symm.trans hcard)
      exact ⟨hl.trans hnone, hset.trans hfalse⟩
  | unbound hc =>
      rw [hcard] at hc
      cases hc
  | dropped hl hset _ => exact ⟨hl, hset⟩
  | fetched _ hn hq hc _ =>
      exact absurd (Option.some.inj (hc.symm.trans hcard)) (hun _ hs.minted hn hq)

lemma retriable_kept (h : Host) (c : CardRef) (n : ℕ) : (machine h).Kept (Retriable c n) :=
  fun _ _ hs ha => hs.step ha

/-- `refresh`, run here, resolves to the card, with nothing in its way. -/
structure ResolvesTo (c : CardRef) (s : Controller) : Prop where
  available : s.available = true
  noVerb : s.mutationOp = none
  card : s.resolvedReader.bind AgentReader.card = some c
  manageable : (s.client.registry.cards c).any AgentCard.pinManagement = true

/-- The next operation minted is a list of the card. -/
structure Fetches (c : CardRef) (s u : Controller) : Prop where
  listOp : u.listOp = some s.client.minted
  minted : u.client.minted = s.client.minted + 1
  request : (u.client.ops s.client.minted).request = .listCredentials
  card : (u.client.ops s.client.minted).card = c

/-- Only the number of operations minted before counts. -/
lemma Fetches.congr {v : Controller} (hvu : Fetches c v u)
    (hn : v.client.minted = s.client.minted) : Fetches c s u := by
  obtain ⟨hop, hminted, hreq, hcard⟩ := hvu
  rw [hn] at hop hminted hreq hcard
  exact ⟨hop, hminted, hreq, hcard⟩

/-- Classifying a manageable card whose list is neither in flight nor settled fetches it. -/
lemma fetches_classify (hc : s.card = some c) (hman : s.manageable = true)
    (hm : s.mutationOp = none) (hl : s.listOp = none) (hset : s.listSettled = false) :
    Fetches c s s.classify := by
  have heq : s.classify = s.mintList c := by
    simp [Controller.classify, Controller.startListCredentials, hc, hman, hm, hl, hset]
  rw [heq]
  exact ⟨rfl, rfl, by simp [Controller.mintList], by simp [Controller.mintList]⟩

lemma ResolvesTo.fetches (hr : ResolvesTo c s)
    (hfree : s.card = some c → s.listOp = none ∧ s.listSettled = false) :
    Fetches c s (s.refresh h) := by
  obtain ⟨x, hx, hxc⟩ := Option.bind_eq_some_iff.1 hr.card
  have heq : s.refresh h = ((s.showReader h x).bindCard x.card).classify := by
    simp [Controller.refresh, hr.available, hr.noVerb, hx]
  rw [heq, hxc]
  -- The card is bound already, and its latch free; or it is bound now, and the latch comes with it.
  rcases (s.showReader h x).bindCard_cases (some c) with ⟨-, hcard, hb⟩ | ⟨-, hb⟩
  · obtain ⟨hl, hset⟩ := hfree hcard
    have hman : (s.showReader h x).manageable = true := by
      have hbound : (s.showReader h x).boundCard = s.client.registry.cards c := by
        unfold Controller.boundCard
        rw [hcard]
        rfl
      rw [Controller.manageable, hbound]
      exact hr.manageable
    rw [hb]
    exact (fetches_classify hcard hman hr.noVerb hl hset).congr rfl
  · have hman : ((s.showReader h x).rebind (some c)).manageable = true := by
      simpa [Controller.manageable, Controller.boundCard, Controller.rebind,
        Controller.showReader] using hr.manageable
    have hfetch : Fetches c ((s.showReader h x).rebind (some c))
        ((s.showReader h x).rebind (some c)).classify := fetches_classify rfl hman rfl rfl rfl
    have hn : ((s.showReader h x).rebind (some c)).client.minted = s.client.minted := by
      rw [Controller.rebind_minted]
      rfl
    rw [hb]
    exact hfetch.congr hn

/-- The way to a refresh leaves nothing more in its way. -/
lemma Retriable.of_refreshes (hs : Retriable c n s) (hun : Unlisted c n s)
    (hu : s.refreshes e = some u) (hcard : u.card = some c) :
    u.listOp = none ∧ u.listSettled = false := by
  rcases Controller.refreshes_cases hu with ⟨-, -, hc, -, hl, -, -, hi⟩ | ⟨id, -, -, -, rfl⟩
  · obtain ⟨hnone, hfalse⟩ := hs.unsettled hun (hc.symm.trans hcard)
    exact ⟨hl.trans hnone, hi.listSettled.trans hfalse⟩
  · exact ⟨rfl, rfl⟩

/-! ## The latch -/

/-- What is promised of the lists of a run that has come this far. -/
structure Latching (h : Host) (x : Controller × Intents) : Prop where
  /-- Once a list ends as cancelled, nothing is minted while its card stays. -/
  latch : ∀ i t fs, x.1.client.Pending i → (x.1.client.ops i).request = .listCredentials →
    t.status ≠ .ok → (x.2.cancelled i = true ∨ t.status = .cancelled) →
    (machine h).Admits (step h x.1 (.finished i t)) fs →
    (machine h).EachStep (fun s e => StaysOn (x.1.client.ops i).card ((machine h).step s e))
      (step h x.1 (.finished i t)) fs →
    ((machine h).exec (step h x.1 (.finished i t)) fs).client.minted = x.1.client.minted
  /-- Once a list ends in an error that nobody asked for, and as long as its card has not been
  listed since, a refresh that resolves to the card lists it. -/
  retry : ∀ i t fs e u, x.1.client.Pending i →
    (x.1.client.ops i).request = .listCredentials →
    t.status = .error → x.2.cancelled i = false →
    (machine h).Admits (step h x.1 (.finished i t)) fs →
    Unlisted (x.1.client.ops i).card x.1.client.minted
      ((machine h).exec (step h x.1 (.finished i t)) fs) →
    ((machine h).exec (step h x.1 (.finished i t)) fs).refreshes e = some u →
    ResolvesTo (x.1.client.ops i).card u →
    Fetches (x.1.client.ops i).card u
      (step h ((machine h).exec (step h x.1 (.finished i t)) fs) e)
  /-- One list is in flight at most. -/
  single : ∀ i j, x.1.client.Pending i → x.1.client.Pending j →
    (x.1.client.ops i).request = .listCredentials →
    (x.1.client.ops j).request = .listCredentials → i = j

/-- A pending list is the list in flight. -/
lemma Wired.listOp_of_pending (hs : Wired s) (hp : s.client.Pending i)
    (hq : (s.client.ops i).request = .listCredentials) : s.listOp = some i :=
  (step_finished_list (h := .plain) (t := {}) hs hp hq).1

namespace Attributed

/-- The terminal of a pending list is the list in flight's. -/
lemma listEnds (ho : Attributed s o) (hp : s.client.Pending i)
    (hq : (s.client.ops i).request = .listCredentials) :
    s.listOp = some i ∧ Wired ({ s with client := s.client.finish i t }.onListFinished t) ∧
      LibreKDE.Credentials.step h s (.finished i t) =
        { s with client := s.client.finish i t }.onListFinished t := by
  obtain ⟨hi, heq⟩ := step_finished_list (h := h) (t := t) ho.wired hp hq
  exact ⟨hi, ho.wired.onListFinished hi, heq⟩

/-- A list that ended as cancelled closes the latch. -/
lemma held (ho : Attributed s o) (hp : s.client.Pending i)
    (hq : (s.client.ops i).request = .listCredentials) (ht : t.status ≠ .ok)
    (hcancelled : o.cancelled i = true ∨ t.status = .cancelled) :
    Held (s.client.ops i).card s.client.minted
      (LibreKDE.Credentials.step h s (.finished i t)) := by
  obtain ⟨hi, hwired, heq⟩ := ho.listEnds (h := h) (t := t) hp hq
  have hset : ({ s with client := s.client.finish i t }.onListFinished t).listSettled = true := by
    have hreq : s.listCancelRequested = o.cancelled i := ho.list i hi
    rw [onListFinished_settled _ ht]
    simpa [hreq] using hcancelled
  have hm : s.mutationOp = none := ho.wired.exclusive.resolve_left (by simp [hi])
  rw [heq]
  refine ⟨hwired, ?_, ?_, ?_, hset, ?_⟩ <;> unfold Controller.onListFinished <;> rw [if_neg ht]
  · exact (ho.wired.list i hi).2.2
  · exact hm
  · rfl

/-- A list that failed leaves the latch open. -/
lemma retriable (ho : Attributed s o) (hp : s.client.Pending i)
    (hq : (s.client.ops i).request = .listCredentials) (ht : t.status = .error)
    (hcancelled : o.cancelled i = false) :
    Retriable (s.client.ops i).card s.client.minted
      (LibreKDE.Credentials.step h s (.finished i t)) := by
  obtain ⟨hi, hwired, heq⟩ := ho.listEnds (h := h) (t := t) hp hq
  have hreq : s.listCancelRequested = false := (ho.list i hi).trans hcancelled
  rw [heq]
  refine ⟨hwired, ?_, fun _ _ => ⟨?_, ?_⟩⟩
  · unfold Controller.onListFinished
    split <;> exact le_rfl
  · unfold Controller.onListFinished
    split <;> rfl
  · rw [onListFinished_settled _ (by simp [ht])]
    simp [hreq, ht]

lemma latching (ho : Attributed s o) : Latching h (s, o) where
  latch i t fs hp hq ht hcancelled ha hstay :=
    ((ho.held hp hq ht hcancelled).exec ha hstay).minted
  retry i t fs e u hp hq ht hcancelled ha hun hu hr := by
    have hs := (retriable_kept h _ _).exec (ho.retriable (h := h) hp hq ht hcancelled) ha
    rw [Controller.step_of_refreshes hu]
    exact hr.fetches (hs.of_refreshes hun hu)
  single i j hi hj hqi hqj := by
    have hli := ho.wired.listOp_of_pending hi hqi
    rw [ho.wired.listOp_of_pending hj hqj] at hli
    exact (Option.some.inj hli).symm

end Attributed

/-- **A cancelled list is latched, a failed one is not.**  In every state of a run: once a list ends
as cancelled nothing is minted while its card stays; once one ends in an error of its own, the next
refresh that resolves to the card lists it again; and one list is in flight at most. -/
theorem lists_latched (h : Host) (hs : Start s) (ha : (machine h).Admits s es) :
    Latching h ((intentMachine h).exec (s, {}) es) :=
  ((attributed_kept h).exec (Attributed.start hs) (Machine.admits_watch.2 ha)).latching

/-- A card's list is cancelled without an answer, and not asked for again; the next card's fails,
and its second attempt is on its way. -/
def cancelledThenRetried : List Event :=
  [.registry (.desk (qs "r") 1 (.eid true)), .refresh, .cancel,
    .finished 0 { status := .error, errorCode := .communicationError }, .refresh,
    .registry (.desk (qs "r") 2 (.eid true)), .refresh,
    .finished 1 { status := .error, errorCode := .communicationError }, .refresh]

theorem lists_latched_cancelled :
    Latching .plain ((intentMachine .plain).exec (.new, {}) cancelledThenRetried) ∧
      ((intentMachine .plain).exec (.new, {}) cancelledThenRetried).1.listOp = some 2 :=
  ⟨lists_latched .plain start_new (by decide), by decide⟩

end LibreKDE.Credentials
