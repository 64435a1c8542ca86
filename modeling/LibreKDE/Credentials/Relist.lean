import LibreKDE.Credentials.Wiring

/-!
# The re-list every mutation owes

A mutation that may have changed the card leaves the agent's listing cache invalid, and the
controller re-lists before it lets go of it.  `noteOwed` is an observer that keeps the books:
such a *dirtying* terminal opens a debt, and a list minted from then on, a change of the
binding, or the model emptied for a card that is no longer manageable settles it.  The debt is
honoured (`DebtCarried`) while a list or a mutation minted since is still in flight.

A verb launched from `Result` discards the re-list that carries the debt and takes it over.
It can only pay it back by dirtying the listing itself: the refusals that leave a listing
valid, and a verb that ends with its card, rest in `Result` without listing.
`debt_carried_iff` says that these terminals, coming while a debt is open, are the only way to
drop it.
-/

namespace LibreKDE.Credentials

open Reactive

/-! ## The books -/

/-- The event is the terminal of a mutation the controller listens to, and the listing may no
longer be true after it. -/
def Dirtying (s : Controller) : Event → Prop
  | .finished i t =>
      (s.client.ops i).connected = true ∧ (s.client.ops i).request.isMutation = true ∧
        s.dirties t = true
  | _ => False

/-- The event is the terminal of a list minted as number `k` or later. -/
def ListsSince (s : Controller) (k : ℕ) : Event → Prop
  | .finished i _ => k ≤ i ∧ (s.client.ops i).request = .listCredentials
  | _ => False

instance (s : Controller) : (e : Event) → Decidable (Dirtying s e)
  | .finished i t => inferInstanceAs (Decidable ((s.client.ops i).connected = true ∧
      (s.client.ops i).request.isMutation = true ∧ s.dirties t = true))
  | .registry _ | .refresh | .cardChanged _ | .bindReader _ | .cancel | .startAgent
  | .agentStartFinished _ | .changePin _ | .activate _ | .activateSigningKey _
  | .requestUnblock _ | .confirmUnblock _ => isFalse id

instance (s : Controller) (k : ℕ) : (e : Event) → Decidable (ListsSince s k e)
  | .finished i _ => inferInstanceAs (Decidable
      (k ≤ i ∧ (s.client.ops i).request = .listCredentials))
  | .registry _ | .refresh | .cardChanged _ | .bindReader _ | .cancel | .startAgent
  | .agentStartFinished _ | .changePin _ | .activate _ | .activateSigningKey _
  | .requestUnblock _ | .confirmUnblock _ => isFalse id

/-- What settles a debt open since number `k`. -/
def Settles (h : Host) (s : Controller) (k : ℕ) (e : Event) : Prop :=
  ListsSince s k e ∨ (step h s e).card ≠ s.card ∨
    (step h s e).state = .notManageable ∧ (step h s e).model = []

instance (h : Host) (s : Controller) (k : ℕ) (e : Event) : Decidable (Settles h s k e) :=
  inferInstanceAs (Decidable (_ ∨ _ ∨ _ ∧ _))

/-- The debt after an event: the number from which on a list would settle it. -/
def noteOwed (h : Host) (owed : Option ℕ) (s : Controller) (e : Event) : Option ℕ :=
  if Dirtying s e then some s.client.minted
  else owed.filter fun k => ¬ Settles h s k e

/-- The controller, with its debt. -/
def owingMachine (h : Host) : Machine (Controller × Option ℕ) Event :=
  (machine h).watch none (noteOwed h)

instance (h : Host) (x : Controller × Option ℕ) (e : Event) :
    Decidable ((owingMachine h).allows x e) :=
  inferInstanceAs (Decidable (allows x.1 e))

/-- While a debt is open, a list or a mutation minted since is in flight. -/
def DebtCarried (x : Controller × Option ℕ) : Prop :=
  ∀ k, x.2 = some k → ∃ i, k ≤ i ∧ x.1.client.Pending i ∧
    ((x.1.client.ops i).request = .listCredentials ∨
      (x.1.client.ops i).request.isMutation = true)

/-- A verb that ends under an open debt renews it. -/
def RenewsDebt (x : Controller × Option ℕ) : Event → Prop
  | .finished i t => x.2 ≠ none → x.1.mutationOp = some i → x.1.dirties t = true
  | _ => True

/-! ## Who carries it -/

/-- The list or the mutation in flight carries the debt. -/
def Carried (s : Controller) (owed : Option ℕ) : Prop :=
  ∀ k, owed = some k → ∃ i, k ≤ i ∧ (s.listOp = some i ∨ s.mutationOp = some i)

section Carried

variable {h : Host} {s u : Controller} {e : Event} {owed : Option ℕ} {k i : ℕ} {t : Terminal}

lemma Carried.debtCarried (hc : Carried s owed) (hw : Wired s) : DebtCarried (s, owed) := by
  intro k hk
  obtain ⟨i, hki, hi | hi⟩ := hc k hk
  · exact ⟨i, hki, (hw.list i hi).1, .inl (hw.list i hi).2.1⟩
  · exact ⟨i, hki, (hw.mutation i hi).1, .inr (hw.mutation i hi).2.1⟩

lemma DebtCarried.carried (hd : DebtCarried (s, owed)) (hw : Wired s) : Carried s owed := by
  intro k hk
  obtain ⟨i, hki, hp, -⟩ := hd k hk
  exact ⟨i, hki, hw.tracked i hp⟩

/-- The book after an event that dirties nothing. -/
lemma noteOwed_eq_some (hd : ¬ Dirtying s e) :
    noteOwed h owed s e = some k ↔ owed = some k ∧ ¬ Settles h s k e := by
  simp [noteOwed, if_neg hd, Option.filter_eq_some_iff]

/-- A carrier is minted, and runs on the bound card. -/
lemma Wired.carrier (hw : Wired s) (hi : s.listOp = some i ∨ s.mutationOp = some i) :
    i < s.client.minted ∧ s.card ≠ none := by
  rcases hi with hi | hi
  · exact ⟨(hw.list i hi).1.minted, by simp [(hw.list i hi).2.2]⟩
  · exact ⟨(hw.mutation i hi).1.minted, by simp [(hw.mutation i hi).2.2]⟩

/-- Classification on the card still bound empties the model, lets the carrier run, or
fetches the list. -/
lemma carrier_of_classify (hlt : k ≤ s.client.minted) (hcard : s.card ≠ none)
    (hbusy : s.mutationOp ≠ none ∨ s.listOp ≠ none ∨ s.listSettled = true →
      ∃ i, k ≤ i ∧ (s.listOp = some i ∨ s.mutationOp = some i)) :
    (s.classify.state = .notManageable ∧ s.classify.model = []) ∨
      ∃ i, k ≤ i ∧ (s.classify.listOp = some i ∨ s.classify.mutationOp = some i) := by
  rcases s.classify_cases with ⟨hn, -⟩ | ⟨-, -, heq⟩ | ⟨-, hb, heq⟩ | ⟨c, -, -, -, -, -, heq⟩
  · exact absurd hn hcard
  · rw [heq]
    exact .inl ⟨rfl, rfl⟩
  · rw [heq]
    exact .inr (hbusy hb)
  · rw [heq]
    exact .inr ⟨_, hlt, .inl rfl⟩

/-- A refresh that keeps the binding empties the model, lets the carrier run, or fetches the
list. -/
lemma carrier_of_refresh (hlt : k ≤ u.client.minted) (hcard : u.card ≠ none)
    (hbusy : u.mutationOp ≠ none ∨ u.listOp ≠ none ∨ u.listSettled = true →
      ∃ i, k ≤ i ∧ (u.listOp = some i ∨ u.mutationOp = some i))
    (hsame : (u.refresh h).card = u.card) :
    ((u.refresh h).state = .notManageable ∧ (u.refresh h).model = []) ∨
      ∃ i, k ≤ i ∧ ((u.refresh h).listOp = some i ∨ (u.refresh h).mutationOp = some i) := by
  rcases u.refresh_cases (h := h) with ⟨-, heq⟩ | ⟨-, hm, heq⟩ | ⟨-, -, -, heq⟩ |
    ⟨x, -, -, -, heq⟩
  · rw [heq, (u.unbind_frame _).1] at hsame
    exact absurd hsame.symm hcard
  · rw [heq]
    exact .inr (hbusy (.inl hm))
  · rw [heq, (u.unbind_frame _).1] at hsame
    exact absurd hsame.symm hcard
  · rw [heq] at hsame ⊢
    rcases (u.showReader h x).bindCard_cases x.card with ⟨-, -, hb⟩ | ⟨hne, hb⟩
    · rw [hb]
      exact carrier_of_classify (s := u.showReader h x) hlt hcard hbusy
    · -- A re-bind moves the binding.
      have hx : x.card = u.card := by
        rw [hb, Controller.classify_card] at hsame
        exact hsame
      rcases hne with hn | hn
      · exact absurd (hx ▸ hn) hcard
      · exact absurd hx.symm hn

/-- A terminal of the mutation in flight is processed, and dirties the listing or leaves it
valid. -/
lemma Wired.dirtying_iff (hw : Wired s) (hi : s.mutationOp = some i) :
    Dirtying s (.finished i t) ↔ s.dirties t = true := by
  obtain ⟨hp, hq, -⟩ := hw.mutation i hi
  simp [Dirtying, hp.connected, hq]

/-- A dirtying terminal leaves the new list in flight. -/
lemma listOp_of_dirtying (hw : Wired s) (hd : Dirtying s e) (hmove : Move h s e u) :
    u.listOp = some s.client.minted := by
  cases hmove with
  | @listed i t hi => simpa [(hw.list i hi).2.1, Request.isMutation] using hd.2.1
  | @mutated i t hi =>
      obtain ⟨c, hc⟩ : ∃ c, s.card = some c := ⟨_, (hw.mutation i hi).2.2⟩
      rcases Controller.onMutationDone_cases (h := h)
        { s with client := s.client.finish i t } t with
        ⟨-, isError, message, heq⟩ | ⟨hvalid, -⟩
      · rw [heq]
        exact Controller.relistAfterMutation_listOp (c := c) hc rfl
      · have hfalse : s.dirties t = false := hvalid
        simp [hd.2.2] at hfalse
  | @unheard i t hcon => simp [Dirtying, hcon] at hd
  | refreshed hu => cases e <;> first | exact absurd hd id | simp [Controller.refreshes] at hu
  | verb he | quiet he =>
      cases e with
      | finished i t => exact absurd rfl (he i t)
      | _ => exact absurd hd id
  | registry | classified | cancelled => exact absurd hd id

/-- Every step but the one in question leaves the debt carried. -/
lemma Carried.of_move (hc : Carried s owed) (hw : Wired s) (hok : RenewsDebt (s, owed) e)
    (hmove : Move h s e (step h s e)) : Carried (step h s e) (noteOwed h owed s e) := by
  by_cases hd : Dirtying s e
  · -- The debt is new, and so is the list that carries it.
    intro k hk
    obtain rfl : s.client.minted = k := by simpa [noteOwed, hd] using hk
    exact ⟨_, le_rfl, .inl (listOp_of_dirtying hw hd hmove)⟩
  intro k hk
  obtain ⟨howed, hopen⟩ := (noteOwed_eq_some hd).1 hk
  obtain ⟨i, hki, hi⟩ := hc k howed
  obtain ⟨hlt, hcard⟩ := hw.carrier hi
  unfold Settles at hopen
  push Not at hopen
  obtain ⟨hlists, hsame, hfull⟩ := hopen
  generalize hu : step h s e = u at hmove hsame hfull ⊢
  cases hmove with
  | @refreshed _ v hv =>
      obtain ⟨hvc, -⟩ := Controller.refreshes_frame hv
      refine (carrier_of_refresh (h := h) (k := k) ?_ ?_ (fun hb => ?_) ?_).resolve_left
        fun hempty => hfull hempty.1 hempty.2
      · rw [Controller.refreshes_minted hv]
        omega
      · rwa [hvc]
      · rcases Controller.refreshes_cases hv with ⟨-, -, -, -, hl, hm, -⟩ | ⟨id, -, -, -, rfl⟩
        · exact ⟨i, hki, by rwa [hl, hm]⟩
        · simp [Controller.resetListState, Controller.detachMutation] at hb
      · rwa [hvc]
  | registry r =>
      rcases hw.setRegistry_cases r with ⟨-, -, hl, hm⟩ | ⟨c, hc', -, hn, -⟩
      · exact ⟨i, hki, by rwa [hl, hm]⟩
      · rw [hn, hc'] at hsame
        cases hsame
  | classified hc' =>
      exact (carrier_of_classify (by omega) hcard fun _ => ⟨i, hki, hi⟩).resolve_left
        fun hempty => hfull hempty.1 hempty.2
  | @listed j t hj =>
      -- The list in flight carries the debt, and its terminal settles it.
      obtain rfl : i = j := by
        rcases hi with hi | hi
        · simpa [hj, eq_comm] using hi
        · exact (hw.list_ne_mutation hj hi).elim
      exact absurd ⟨hki, (hw.list i hj).2.1⟩ hlists
  | @mutated j t hj =>
      have hdirty := hok (by simp [howed]) hj
      exact absurd ((hw.dirtying_iff hj).2 hdirty) hd
  | unheard => exact ⟨i, hki, hi⟩
  | cancelled => exact ⟨i, hki, by simpa using hi⟩
  | verb => exact ⟨_, hki.trans hlt.le, .inr (by simp)⟩
  | quiet _ hq => exact ⟨i, hki, by rwa [hq.listOp, hq.mutationOp]⟩

/-- A verb that ends under an open debt without renewing it leaves nothing in flight, and the
debt open. -/
lemma not_carried_of_step (hw : Wired s) (hal : allows s e) (hok : ¬ RenewsDebt (s, owed) e) :
    ¬ Carried (step h s e) (noteOwed h owed s e) := by
  cases e with
  | finished i t =>
      simp only [RenewsDebt, not_forall] at hok
      obtain ⟨howed, hi, hvalid⟩ := hok
      obtain ⟨k, rfl⟩ := Option.ne_none_iff_exists'.1 howed
      -- The verb ran alone, so the debt it took over is not in a list slot.
      have hl : s.listOp = none := hw.exclusive.resolve_right (by simp [hi])
      have hstep : step h s (.finished i t) =
          { s with client := s.client.finish i t }.onMutationDone h t := by
        rcases hw.finished_cases (h := h) hal with ⟨hi', -⟩ | ⟨-, heq⟩ | ⟨-, -, hne, -⟩
        · simp [hl] at hi'
        · exact heq
        · exact absurd hi hne
      rcases Controller.onMutationDone_cases (h := h)
        { s with client := s.client.finish i t } t with
        ⟨hdirty, -⟩ | ⟨-, isError, message, notice, heq⟩
      · exact absurd hdirty hvalid
      · rw [heq] at hstep
        have hopen : noteOwed h (some k) s (.finished i t) = some k := by
          rw [noteOwed_eq_some (mt (hw.dirtying_iff hi).1 hvalid)]
          refine ⟨rfl, ?_⟩
          rintro (⟨-, hq⟩ | hcard | ⟨hst, -⟩)
          · simpa [hq, Request.isMutation] using (hw.mutation i hi).2.1
          · exact hcard (by rw [hstep]; rfl)
          · rw [hstep] at hst
            cases hst
        rw [hopen, hstep]
        -- Refused for being early, the verb asks for no list: nothing carries the older debt on.
        intro hcarried
        obtain ⟨j, -, hj | hj⟩ := hcarried k rfl
        · have hj' : s.listOp = some j := hj
          simp [hl] at hj'
        · cases hj
  | _ => exact absurd trivial hok

end Carried

/-- **The re-list obligation.**  In every state of a run a list or a later mutation is in
flight for each debt still open, exactly when no verb that ends under an open debt leaves the
listing as it was. -/
theorem debt_carried_iff (h : Host) {s : Controller} {es : List Event} (hs : Start s)
    (ha : (owingMachine h).Admits (s, none) es) :
    (owingMachine h).Always DebtCarried (s, none) es ↔
      (owingMachine h).EachStep RenewsDebt (s, none) es := by
  refine Machine.always_iff_eachStep
    (J := fun x : Controller × Option ℕ => Wired x.1 ∧ Carried x.1 x.2)
    (fun x e hx hal hok => ?_) (fun x hx => hx.2.debtCarried hx.1)
    (fun x e hx hal hok hsafe => ?_) ⟨hs.wired, fun k hk => (by cases hk)⟩ ha
  · have hmove := hx.1.move (h := h) hal
    exact ⟨hx.1.of_move hmove, hx.2.of_move hx.1 hok hmove⟩
  · have hwired := hx.1.of_move (hx.1.move (h := h) hal)
    exact not_carried_of_step hx.1 hal hok (hsafe.carried hwired)

/-- A PIN change and its re-list. -/
def relisted : List Event :=
  [.registry (.desk (qs "r") 1 (.eid true)), .refresh,
    .finished 0 { credentialsResult := [{ id := qs "pin" }] }, .changePin (qs "pin"),
    .finished 1 {}, .finished 2 { credentialsResult := [{ id := qs "pin" }] }]

/-- A second PIN change, launched while the first one's re-list runs, and refused. -/
def refusedUnderDebt : List Event :=
  [.registry (.desk (qs "r") 1 (.eid true)), .refresh,
    .finished 0 { credentialsResult := [{ id := qs "pin" }] }, .changePin (qs "pin"),
    .finished 1 {}, .changePin (qs "pin"),
    .finished 3 { status := .error, syncError := some .rateLimited }]

theorem debt_carried_iff_relisted :
    (owingMachine .plain).Always DebtCarried (.new, none) relisted ↔
      (owingMachine .plain).EachStep RenewsDebt (.new, none) relisted :=
  debt_carried_iff .plain start_new (by decide)

/-- The window rests in `Result`, with nothing in flight and the rows listed before the first
change. -/
theorem debt_dropped :
    ∃ s es, Start s ∧ (owingMachine .plain).Admits (s, none) es ∧
      ((owingMachine .plain).exec (s, none) es).1.state = .result ∧
      ((owingMachine .plain).exec (s, none) es).1.model = [{ id := qs "pin" }] ∧
      ¬ (owingMachine .plain).Always DebtCarried (s, none) es := by
  refine ⟨.new, refusedUnderDebt, start_new, by decide, by decide, by decide, fun h => ?_⟩
  obtain ⟨i, hi, hp, -⟩ := h.last 2 (by decide)
  have hminted :
      ((owingMachine .plain).exec (.new, none) refusedUnderDebt).1.client.minted = 4 := by
    decide
  have hlt := hp.minted
  rw [hminted] at hlt
  obtain rfl | rfl : i = 2 ∨ i = 3 := by omega
  · exact absurd hp (by decide)
  · exact absurd hp (by decide)

end LibreKDE.Credentials
