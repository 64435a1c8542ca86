import LibreKDE.Credentials.Mutation
import LibreKDE.Credentials.Window

/-!
# Rows on display

The controller does not always drop the rows when the binding moves.  The window makes up for it:
it hides the dashboard whenever the rows could be another card's.

`RowsHome` speaks of rows on display only, and of those under a running verb, which will be on
display again when it ends; `RowsHome.of_move` keeps it across every step but a verb over hidden
rows, which no window sends.  `Move.card_of_shown` says that no step moves the binding under a
dashboard that stays.
-/

namespace LibreKDE.Credentials

open Reactive

/-! ## What a card listed -/

/-- The record was listed by the card: a list operation on it ended `Ok` and delivered it. -/
def Listed (k : Client) (c : CardRef) (r : CredentialRecord) : Prop :=
  ∃ i < k.minted, (k.ops i).request = .listCredentials ∧ (k.ops i).card = c ∧
    ∃ t, (k.ops i).ended = some t ∧ t.status = .ok ∧ r ∈ t.credentialsResult

/-! ## The table of operations only grows -/

/-- The later table has the earlier one's operations, asked the same, and those that ended ended
the same. -/
structure Grows (k k' : Client) : Prop where
  minted : k.minted ≤ k'.minted
  request : ∀ i < k.minted, (k'.ops i).request = (k.ops i).request
  card : ∀ i < k.minted, (k'.ops i).card = (k.ops i).card
  ended : ∀ i < k.minted, ∀ t, (k.ops i).ended = some t → (k'.ops i).ended = some t

section Grows

variable {k k' : Client} {c : CardRef}

lemma Grows.refl (k : Client) : Grows k k := ⟨le_rfl, by simp, by simp, by simp⟩

lemma Grows.trans {k'' : Client} (hk : Grows k k') (hk' : Grows k' k'') : Grows k k'' where
  minted := hk.minted.trans hk'.minted
  request i hi := (hk'.request i (hi.trans_le hk.minted)).trans (hk.request i hi)
  card i hi := (hk'.card i (hi.trans_le hk.minted)).trans (hk.card i hi)
  ended i hi t ht := hk'.ended i (hi.trans_le hk.minted) t (hk.ended i hi t ht)

lemma Controller.Extends.grows {s u : Controller} (hsu : Controller.Extends s u) :
    Grows s.client u.client where
  minted := hsu.minted
  request := hsu.request
  card := hsu.card
  ended i hi _ ht := (hsu.ended i hi).trans ht

/-- An operation that still ran ends. -/
lemma grows_finish {i : ℕ} {t : Terminal} (hrun : (k.ops i).ended = none) :
    Grows k (k.finish i t) where
  minted := by simp
  request := by simp
  card := by simp
  ended j _ t' ht := by
    have hne : j ≠ i := by
      rintro rfl
      rw [hrun] at ht
      cases ht
    rwa [Client.finish_ops_of_ne _ _ hne]

lemma Listed.grows {r : CredentialRecord} (hr : Listed k c r) (hk : Grows k k') :
    Listed k' c r := by
  obtain ⟨i, hi, hq, hc, t, ht, hok, hmem⟩ := hr
  exact ⟨i, hi.trans_le hk.minted, (hk.request i hi).trans hq, (hk.card i hi).trans hc, t,
    hk.ended i hi t ht, hok, hmem⟩

end Grows

section Moves

variable {h : Host} {s u : Controller} {e : Event}

/-- The table grows at every step. -/
lemma Move.grows (hmove : Move h s e u) (ha : allows s e) : Grows s.client u.client := by
  by_cases hfin : ∀ i t, e ≠ .finished i t
  · exact (hmove.extends hfin).grows
  · push Not at hfin
    obtain ⟨i, t, rfl⟩ := hfin
    have hext := hmove.extends_finish
    exact (grows_finish ha.2.2).trans hext.grows

end Moves

/-! ## Rows are shown at home -/

/-- While the rows are shown, and under a running verb, they are the bound card's. -/
def RowsHome (s : Controller) : Prop :=
  showDashboard s.state = true ∨ s.mutationOp ≠ none →
    ∀ c, s.card = some c → ∀ r ∈ s.model, Listed s.client c r

/-- A verb runs under the scrim, unless its card lost PIN management meanwhile. -/
def ScrimUp (s : Controller) : Prop :=
  s.mutationOp ≠ none → s.state = .working ∨ s.state = .notManageable

section RowsHome

variable {h : Host} {s u : Controller} {e : Event}

/-- A move that shows the same rows of the same card. -/
lemma RowsHome.keep (hs : RowsHome s) (hk : Grows s.client u.client) (hc : u.card = s.card)
    (hmodel : u.model = s.model)
    (hshown : showDashboard u.state = true ∨ u.mutationOp ≠ none →
      showDashboard s.state = true ∨ s.mutationOp ≠ none) : RowsHome u := by
  intro hu c hcard r hr
  rw [hc] at hcard
  rw [hmodel] at hr
  exact (hs (hshown hu) c hcard r hr).grows hk

lemma RowsHome.of_hidden (hstate : showDashboard u.state = false) (hm : u.mutationOp = none) :
    RowsHome u := by
  rintro (hu | hu)
  · rw [hstate] at hu
    cases hu
  · exact absurd hm hu

lemma RowsHome.of_empty (hmodel : u.model = []) : RowsHome u := by
  intro _ c _ r hr
  rw [hmodel] at hr
  cases hr

lemma RowsHome.of_unbound (hc : u.card = none) : RowsHome u := by
  intro _ c hcard
  rw [hc] at hcard
  cases hcard

lemma RowsHome.classify (hs : RowsHome s) : RowsHome s.classify := by
  rcases s.classify_cases with ⟨-, heq⟩ | ⟨-, -, heq⟩ | ⟨-, -, heq⟩ | ⟨c, -, -, hm, -, -, heq⟩
  · rw [heq]
    exact .of_empty rfl
  · rw [heq]
    exact .of_empty rfl
  · rwa [heq]
  · rw [heq]
    refine hs.keep (Controller.Extends.of_mint rfl).grows rfl rfl fun hu => .inl ?_
    rcases hu with hu | hu
    · unfold Controller.mintList at hu
      cases hres : s.showingResult with
      | true => simpa [hres] using hu
      | false => simp [hres, showDashboard] at hu
    · exact absurd hm hu

/-- A fresh binding hides the rows. -/
lemma hidden_rebind (c : Option CardRef) :
    showDashboard (s.rebind c).classify.state = false ∧
      (s.rebind c).classify.mutationOp = none := by
  rcases (s.rebind c).classify_cases with
    ⟨-, heq⟩ | ⟨-, -, heq⟩ | ⟨-, hbusy, -⟩ | ⟨d, -, -, -, -, -, heq⟩
  · rw [heq]
    exact ⟨rfl, rfl⟩
  · rw [heq]
    exact ⟨rfl, rfl⟩
  · simp [Controller.rebind, Controller.detachMutation, Controller.resetListState] at hbusy
  · rw [heq]
    exact ⟨rfl, rfl⟩

/-- A refresh keeps the card, or hides the rows with no verb running. -/
lemma refresh_keeps_or_hides (s : Controller) :
    (s.refresh h = s) ∨
      (∃ x, s.refresh h = (s.showReader h x).classify ∧ s.mutationOp = none) ∨
      (showDashboard (s.refresh h).state = false ∧ (s.refresh h).mutationOp = none) := by
  have hunbind : ∀ st, showDashboard st = false → showDashboard (s.unbind st).state = false ∧
      (s.unbind st).mutationOp = none := by
    intro st hst
    obtain ⟨-, -, -, hm, hstate⟩ := s.unbind_frame st
    exact ⟨hstate ▸ hst, hm⟩
  rcases s.refresh_cases (h := h) with ⟨-, heq⟩ | ⟨-, -, heq⟩ | ⟨-, -, -, heq⟩ | ⟨x, -, hm, -, heq⟩
  · exact .inr (.inr (heq ▸ hunbind _ rfl))
  · exact .inl heq
  · exact .inr (.inr (heq ▸ hunbind _ rfl))
  · rw [heq]
    rcases (s.showReader h x).bindCard_cases x.card with ⟨-, -, hbind⟩ | ⟨-, hbind⟩
    · rw [hbind]
      exact .inr (.inl ⟨x, rfl, hm⟩)
    · rw [hbind]
      exact .inr (.inr (hidden_rebind x.card))

lemma RowsHome.refresh (hs : RowsHome s) : RowsHome (s.refresh h) := by
  rcases refresh_keeps_or_hides (h := h) s with heq | ⟨x, heq, -⟩ | ⟨hstate, hm⟩
  · rwa [heq]
  · rw [heq]
    have hshow : RowsHome (s.showReader h x) := hs.keep (.refl _) rfl rfl id
    exact hshow.classify
  · exact .of_hidden hstate hm

lemma RowsHome.of_refreshes {v : Controller} (hs : RowsHome s) (hv : s.refreshes e = some v) :
    RowsHome v := by
  have hk := (Controller.Extends.of_refreshes hv).grows
  rcases Controller.refreshes_cases hv with
    ⟨-, -, hc, hmodel, -, hm, hstate, -⟩ | ⟨id, -, -, -, rfl⟩
  · exact hs.keep hk hc hmodel fun hu => by rwa [hstate, hm] at hu
  · exact hs.keep hk rfl rfl fun hu => hu.imp_right fun hu => absurd rfl hu

/-- The rows of a list that ended `Ok` were listed by its card. -/
lemma RowsHome.onListFinished (hw : Wired s) {i : ℕ} {t : Terminal} (hi : s.listOp = some i) :
    RowsHome ({ s with client := s.client.finish i t }.onListFinished t) := by
  obtain ⟨hp, hq, hic⟩ := hw.list i hi
  unfold Controller.onListFinished
  split
  · next hok =>
      intro _ c hc r hr
      have hcard : (s.client.ops i).card = c := Option.some.inj (hic.symm.trans hc)
      exact ⟨i, hp.minted, by simpa using hq, by simpa using hcard, t,
        by simp [Client.finish_ended], hok, hr⟩
  · exact .of_empty rfl

lemma RowsHome.onMutationDone (hs : RowsHome s) (hw : Wired s) {i : ℕ} {t : Terminal}
    (hi : s.mutationOp = some i) :
    RowsHome ({ s with client := s.client.finish i t }.onMutationDone h t) := by
  have hrows := hs (.inr (by simp [hi]))
  have hk : Grows s.client (s.client.finish i t) := grows_finish (hw.mutation i hi).1.running
  obtain ⟨c, hc⟩ : ∃ c, s.card = some c := ⟨_, (hw.mutation i hi).2.2⟩
  have hrelist : ∀ v : Controller, v.client = s.client.finish i t → v.card = s.card →
      v.model = s.model → v.mutationOp = none → RowsHome v.relistAfterMutation := by
    intro v hclient hcard hmodel hm _ d hd r hr
    have hlist := (Controller.Extends.relistAfterMutation (s := v)).grows
    rw [Controller.relistAfterMutation_card, hcard] at hd
    rw [Controller.relistAfterMutation_of_card (hcard.trans hc) hm] at hr
    have hmem : r ∈ s.model := hmodel ▸ hr
    exact (hrows d hd r hmem).grows (hk.trans (hclient ▸ hlist))
  rcases Controller.onMutationDone_cases (h := h) { s with client := s.client.finish i t } t
    with ⟨-, isError, message, heq⟩ | ⟨-, isError, message, notice, heq⟩
  · rw [heq]
    exact hrelist _ rfl rfl rfl rfl
  · rw [heq]
    exact fun _ d hd r hr => (hrows d hd r hr).grows hk

/-- A verb asks for more than a list. -/
lemma not_mintsLists_beginMutation {c : CardRef} {q : Request} {kind : CredentialKind}
    (hq : q.isMutation = true) : ¬ Controller.MintsLists s (s.beginMutation c q kind) := by
  intro hlists
  have hlist : q = .listCredentials := by simpa using hlists s.client.minted le_rfl (by simp)
  rw [hlist] at hq
  cases hq

/-- A verb over rows on display aside, no step shows a row that is not at home. -/
lemma RowsHome.of_move (hs : RowsHome s) (hw : Wired s) (hmove : Move h s e u)
    (hverb : Controller.MintsLists s u ∨ showDashboard s.state = true) : RowsHome u := by
  cases hmove with
  | refreshed hv => exact (hs.of_refreshes hv).refresh
  | registry r =>
      rcases hw.setRegistry_cases r with ⟨-, hc, -, hm⟩ | ⟨c, -, -, hc, -⟩
      · have hext : Controller.Extends s (s.setRegistry r) :=
          .of_same rfl (fun _ => rfl) (fun _ => rfl) fun _ => rfl
        exact hs.keep hext.grows hc rfl fun hu => by rwa [hm] at hu
      · exact .of_unbound hc
  | classified hc => exact hs.classify
  | listed hi => exact .onListFinished hw hi
  | mutated hi => exact hs.onMutationDone hw hi
  | unheard hcon hrun hl hm => exact hs.keep (grows_finish hrun) rfl rfl id
  | cancelled =>
      exact hs.keep Controller.Extends.cancel.grows (by simp) (by simp) (by simp)
  | @verb _ c q kind _ hc hm hq _ =>
      have hshown : showDashboard s.state = true :=
        hverb.resolve_left (not_mintsLists_beginMutation hq)
      exact hs.keep Controller.Extends.beginMutation.grows (by simp) (by simp) fun _ => .inl hshown
  | quiet _ hq =>
      refine hs.keep (Controller.Extends.of_eq hq.client).grows hq.card hq.model fun hu => ?_
      rwa [hq.state, hq.mutationOp] at hu

/-- The bound card moves only behind the dashboard's back: where rows are shown after a step, the
card is the one of before. -/
lemma Move.card_of_shown {c : CardRef} (hmove : Move h s e u) (hw : Wired s)
    (hshown : showDashboard u.state = true) (hc : u.card = some c) : s.card = some c := by
  cases hmove with
  | @refreshed _ v hv =>
      rw [← (Controller.refreshes_frame hv).1]
      rcases refresh_keeps_or_hides (h := h) v with heq | ⟨x, heq, -⟩ | ⟨hstate, -⟩
      · rwa [heq] at hc
      · rwa [heq, Controller.classify_card] at hc
      · rw [hstate] at hshown
        cases hshown
  | registry r =>
      rcases hw.setRegistry_cases r with ⟨-, heq, -⟩ | ⟨d, -, -, heq, -⟩
      · rwa [heq] at hc
      · rw [heq] at hc
        cases hc
  | classified _ => rwa [Controller.classify_card] at hc
  | listed hi => rwa [Move.card_finished (h := h) (.listed hi)] at hc
  | mutated hi => rwa [Move.card_finished (.mutated hi)] at hc
  | unheard hcon hrun hl hm => exact hc
  | cancelled => simpa using hc
  | verb _ _ _ _ _ => simpa using hc
  | quiet _ hq => rwa [hq.card] at hc

lemma Controller.classify_mutationOp : s.classify.mutationOp = s.mutationOp := by
  rcases s.classify_cases with ⟨-, heq⟩ | ⟨-, -, heq⟩ | ⟨-, -, heq⟩ | ⟨c, -, -, -, -, -, heq⟩ <;>
    rw [heq] <;> rfl

/-- Where no verb runs, only a verb starts one. -/
lemma Move.idle (hmove : Move h s e u) (hw : Wired s) (hlists : Controller.MintsLists s u)
    (hm : s.mutationOp = none) : u.mutationOp = none := by
  cases hmove with
  | @refreshed _ v hv =>
      have hidle : v.mutationOp = none := by
        rcases Controller.refreshes_cases hv with ⟨-, -, -, -, -, heq, -⟩ | ⟨id, -, -, -, rfl⟩
        · rw [heq, hm]
        · rfl
      rcases refresh_keeps_or_hides (h := h) v with heq | ⟨x, heq, -⟩ | ⟨-, hnone⟩
      · rw [heq, hidle]
      · rw [heq, Controller.classify_mutationOp]
        exact hidle
      · exact hnone
  | registry r =>
      rcases hw.setRegistry_cases r with ⟨-, -, -, heq⟩ | ⟨c, -, -, -, -, hnone⟩
      · rw [heq, hm]
      -- The registry took the card the verb was on, and the slot with it.
      · exact hnone
  | classified _ => rw [Controller.classify_mutationOp, hm]
  | listed _ =>
      unfold Controller.onListFinished
      split <;> exact hm
  | mutated hi =>
      rw [hm] at hi
      cases hi
  | unheard _ _ _ _ => exact hm
  | cancelled => rw [Controller.cancel_mutationOp, hm]
  | verb _ _ _ hq _ => exact absurd hlists (not_mintsLists_beginMutation hq)
  | quiet _ hq => rw [hq.mutationOp, hm]

lemma ScrimUp.classify (hs : ScrimUp s) (hw : Wired s) : ScrimUp s.classify := by
  intro hm
  rw [Controller.classify_mutationOp] at hm
  rcases s.classify_cases with ⟨hc, -⟩ | ⟨-, -, heq⟩ | ⟨-, -, heq⟩ | ⟨c, -, -, hnone, -, -, -⟩
  · obtain ⟨i, hi⟩ := Option.ne_none_iff_exists'.1 hm
    rw [(hw.mutation i hi).2.2] at hc
    cases hc
  · exact .inr (by rw [heq]; rfl)
  · rw [heq]
    exact hs hm
  · exact absurd hnone hm

lemma ScrimUp.of_move (hs : ScrimUp s) (hw : Wired s) (hmove : Move h s e u) : ScrimUp u := by
  have hdone : u.mutationOp = none → ScrimUp u := fun hm hne => absurd hm hne
  cases hmove with
  | @refreshed _ v hv =>
      have hup : ScrimUp v := by
        rcases Controller.refreshes_cases hv with
          ⟨-, -, -, -, -, hm, hstate, -⟩ | ⟨id, -, -, -, rfl⟩
        · intro hne
          rw [hstate]
          exact hs (hm ▸ hne)
        · exact fun hne => absurd rfl hne
      rcases refresh_keeps_or_hides (h := h) v with heq | ⟨x, heq, hm⟩ | ⟨-, hm⟩
      · rwa [heq]
      · exact hdone (by rw [heq, Controller.classify_mutationOp]; exact hm)
      · exact hdone hm
  | registry r =>
      rcases hw.setRegistry_cases r with ⟨-, -, -, hm⟩ | ⟨c, -, -, -, -, hm⟩
      · intro hne
        exact hs (hm ▸ hne)
      · exact hdone hm
  | classified hc => exact hs.classify hw
  | listed hi =>
      refine hdone ?_
      have hnone := hw.exclusive.resolve_left (by simp [hi])
      unfold Controller.onListFinished
      split <;> exact hnone
  -- The verb is over: either its list is asked for, or its card is gone and nothing runs.
  | @mutated i t hi =>
      refine hdone ?_
      have hrelist : ∀ v : Controller, v.card = s.card → v.mutationOp = none →
          v.relistAfterMutation.mutationOp = none := by
        intro v hcard hm
        rw [Controller.relistAfterMutation_of_card (hcard.trans (hw.mutation i hi).2.2) hm]
        exact hm
      rcases Controller.onMutationDone_cases (h := h) { s with client := s.client.finish i t } t
        with ⟨-, isError, message, heq⟩ | ⟨-, isError, message, notice, heq⟩
      · rw [heq]
        exact hrelist _ rfl rfl
      · rw [heq]
        rfl
  | unheard hcon hrun hl hm => exact hs
  | cancelled =>
      intro hne
      rw [Controller.cancel_mutationOp] at hne
      rw [Controller.cancel_state]
      exact hs hne
  | verb _ _ _ _ _ => exact fun _ => .inl (by simp)
  | quiet _ hq =>
      intro hne
      rw [hq.state]
      exact hs (hq.mutationOp ▸ hne)

end RowsHome

end LibreKDE.Credentials
