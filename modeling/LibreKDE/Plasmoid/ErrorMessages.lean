import LibreKDE.Plasmoid.FreeReads

/-!
# Whose error is shown

The widget has one error message.  It is composed from the terminal of a failed identity read, and
the page that shows it is about the bound card.  `noteSource` keeps the read the message came
from, and `MessageBelongs` asks that it be the last one of the bound card.

`Speaks` is what a step does to the message: it keeps or clears it, clears it for a new read, or
composes it anew.  The one way out is a refresh that binds another card under the message and
does not read it at once (`carriesMessage`).
-/

namespace LibreKDE.Plasmoid

open Reactive CardReads SmartCardHandler

variable {h : PlasmoidHost}

/-- The text a failed read leaves, by the shared rule for both axes of a failure. -/
def failureText (h : PlasmoidHost) (t : Terminal) : QString :=
  ErrorText.forOutcome h.toHost t.errorCode t.callError t.messageKey t.messageFallback

/-- The terminal of the identity read in flight, and a failure. -/
def failsRead (s : SmartCardHandler) (i : ℕ) (t : Terminal) : Bool :=
  s.identityOp = some i ∧ isDismissed t = false ∧ t.status ≠ .ok

/-- The identity read that failed last, and so the one a message on show is of. -/
def noteSource (source : Option ℕ) (s : SmartCardHandler) : Event → Option ℕ
  | .finished i t => if failsRead s i t then some i else source
  | _ => source

/-- The handler, and the read its message came from. -/
def sourceMachine (h : PlasmoidHost) : Machine (SmartCardHandler × Option ℕ) Event :=
  (machine h).watch none noteSource

instance (x : SmartCardHandler × Option ℕ) (e : Event) :
    Decidable ((sourceMachine h).allows x e) :=
  inferInstanceAs (Decidable (allows x.1 e))

/-- Operation `i` is the last identity read minted on its card. -/
def LastRead (k : Client) (i : ℕ) : Prop :=
  i < k.minted ∧ (k.ops i).request = .readIdentity ∧
    ∀ j, i < j → j < k.minted → (k.ops j).request = .readIdentity →
      (k.ops j).card ≠ (k.ops i).card

/-- A message is composed from the terminal of the last identity read of the bound card. -/
def MessageBelongs (h : PlasmoidHost) (x : SmartCardHandler × Option ℕ) : Prop :=
  x.1.errorMessage ≠ [] → ∃ i t, x.2 = some i ∧ LastRead x.1.client i ∧
    x.1.card = some (x.1.client.ops i).card ∧ (x.1.client.ops i).ended = some t ∧
    x.1.errorMessage = failureText h t

/-- Under a message a refresh binds another card, and does not read it at once. -/
def carriesMessage (h : PlasmoidHost) (s : SmartCardHandler) (e : Event) : Bool :=
  (s.refreshes e).any fun u =>
    s.errorMessage ≠ [] ∧ u.target h ≠ none ∧ u.target h ≠ s.card ∧ u.refreshReads h = none

/-! ## What a step leaves of the table -/

/-- Whatever was asked and answered still is: the table of operations only grows. -/
structure Retains (k k' : Client) : Prop where
  minted : k.minted ≤ k'.minted
  request : ∀ j < k.minted, (k'.ops j).request = (k.ops j).request
  card : ∀ j < k.minted, (k'.ops j).card = (k.ops j).card
  ended : ∀ j < k.minted, ∀ t, (k.ops j).ended = some t → (k'.ops j).ended = some t

namespace Retains

variable {k k' k'' : Client} {i : ℕ} {t : Terminal} {c : CardRef} {q : Request} {r : Registry}

lemma refl (k : Client) : Retains k k := ⟨le_rfl, fun _ _ => rfl, fun _ _ => rfl, fun _ _ _ => id⟩

lemma trans (h₁ : Retains k k') (h₂ : Retains k' k'') : Retains k k'' where
  minted := h₁.minted.trans h₂.minted
  request j hj := (h₂.request j (hj.trans_le h₁.minted)).trans (h₁.request j hj)
  card j hj := (h₂.card j (hj.trans_le h₁.minted)).trans (h₁.card j hj)
  ended j hj t ht := h₂.ended j (hj.trans_le h₁.minted) t (h₁.ended j hj t ht)

lemma mint (k : Client) (c : CardRef) (q : Request) : Retains k (k.mint c q) where
  minted := Nat.le_succ _
  request j hj := by rw [Client.mint_ops_of_lt hj]
  card j hj := by rw [Client.mint_ops_of_lt hj]
  ended j hj t ht := by rwa [Client.mint_ops_of_lt hj]

lemma setRegistry (k : Client) (r : Registry) : Retains k (k.setRegistry r) :=
  ⟨le_rfl, fun _ _ => rfl, fun _ _ => rfl, fun _ _ _ => id⟩

lemma drop (k : Client) (op : Option ℕ) : Retains k (drop k op) := by
  cases op with
  | none => exact refl k
  | some i => exact ⟨le_rfl, by simp [CardReads.drop], by simp [CardReads.drop],
      by simp [CardReads.drop]⟩

lemma bindCard (s : CardReads) (c : Option CardRef) : Retains s.client (s.bindCard c).client := by
  unfold CardReads.bindCard
  split_ifs
  · exact refl _
  · rw [rebind_eq]
    exact (drop _ _).trans (drop _ _)

lemma deleteLater (k : Client) (i : ℕ) : Retains k (k.deleteLater i) :=
  ⟨le_rfl, by simp, by simp, by simp⟩

lemma finish (hrun : (k.ops i).ended = none) (t : Terminal) : Retains k (k.finish i t) where
  minted := le_rfl
  request := by simp
  card := by simp
  ended j _ u hu := by
    have hne : j ≠ i := by
      rintro rfl
      rw [hrun] at hu
      cases hu
    rwa [Client.finish_ended, if_neg hne]

lemma reaped (hrun : (k.ops i).ended = none) (t : Terminal) : Retains k (reaped k i t) :=
  (finish hrun t).trans (deleteLater _ i)

end Retains

/-! ## What a step does to the message -/

/-- No identity read has been minted in between. -/
def NoReadSince (n : ℕ) (k : Client) : Prop :=
  ∀ j, n ≤ j → j < k.minted → (k.ops j).request ≠ .readIdentity

lemma NoReadSince.of_minted {n : ℕ} {k : Client} (hn : k.minted ≤ n) : NoReadSince n k :=
  fun j hj hlt => by omega

/-- What a step does to the message, with the read that it is of written down beside it. -/
inductive Speaks (h : PlasmoidHost) (s : SmartCardHandler) (source : Option ℕ) (e : Event)
    (s' : SmartCardHandler) : Prop
  /-- The message is cleared, or stays with its card. -/
  | keeps : noteSource source s e = source → Retains s.client s'.client →
      NoReadSince s.client.minted s'.client →
      (∀ i, s'.identityOp = some i → s.identityOp = some i) →
      (s'.errorMessage = [] ∨ s'.errorMessage = s.errorMessage ∧ s'.card = s.card) →
      Speaks h s source e s'
  /-- A new read starts, without a message. -/
  | asks (i : ℕ) : s'.identityOp = some i → NoReadSince (i + 1) s'.client →
      s'.errorMessage = [] → Speaks h s source e s'
  /-- The read in flight fails. -/
  | fails (b i : ℕ) (t : Terminal) : noteSource source s e = some i →
      Owned h b s.toCardReads → s.identityOp = some i → s'.client = reaped s.client i t →
      s'.identityOp = none → s'.card = s.card →
      s'.errorMessage = failureText h t → Speaks h s source e s'

/-- What holds between two events of the message, the read it is of, and the one that may come
next. -/
structure Told (h : PlasmoidHost) (s : SmartCardHandler) (source : Option ℕ) : Prop where
  kept : ∃ b, Kept h b s
  /-- While a read is in flight nothing is said of the last one. -/
  silent : s.identityOp ≠ none → s.errorMessage = []
  /-- The read in flight is the last. -/
  latest : ∀ i, s.identityOp = some i → NoReadSince (i + 1) s.client
  belongs : MessageBelongs h (s, source)

section Steps

variable {s s' : SmartCardHandler} {source : Option ℕ} {e : Event} {b : ℕ}

/-- The last read of a card is so as long as no other is minted. -/
lemma LastRead.of_retains {k k' : Client} {i : ℕ} (hl : LastRead k i) (hr : Retains k k')
    (hnew : NoReadSince k.minted k') : LastRead k' i := by
  obtain ⟨hi, hq, hlast⟩ := hl
  refine ⟨hi.trans_le hr.minted, (hr.request i hi).trans hq, fun j hij hj hjq => ?_⟩
  by_cases hold : j < k.minted
  · rw [hr.card j hold, hr.card i hi]
    exact hlast j hij hold ((hr.request j hold).symm.trans hjq)
  · exact absurd hjq (hnew j (by omega) hj)

/-- **What a step that speaks leaves.** -/
lemma Told.of_speaks (ht : Told h s source) (hk : ∃ b, Kept h b s')
    (hs : Speaks h s source e s') : Told h s' (noteSource source s e) := by
  cases hs with
  | keeps hsource hr hnew hop hmessage =>
      rw [hsource]
      refine ⟨hk, fun hbusy => ?_, fun i hi j hij hj => ?_, fun hne => ?_⟩
      · obtain ⟨i, hi⟩ := Option.ne_none_iff_exists'.1 hbusy
        rcases hmessage with hclear | ⟨hsame, -⟩
        · exact hclear
        · rw [hsame]
          exact ht.silent (by simp [hop i hi])
      · by_cases hold : j < s.client.minted
        · rw [hr.request j hold]
          exact ht.latest i (hop i hi) j hij hold
        · exact hnew j (by omega) hj
      · rcases hmessage with hclear | ⟨hsame, hcard⟩
        · exact absurd hclear hne
        · obtain ⟨i, t, hi, hlast, hc, hended, htext⟩ := ht.belongs (by rwa [← hsame])
          have hlt := hlast.1
          refine ⟨i, t, hi, hlast.of_retains hr hnew, ?_, hr.ended i hlt t hended,
            hsame.trans htext⟩
          show s'.card = some (s'.client.ops i).card
          rw [hcard, hr.card i hlt]
          exact hc
  | asks i hi hlatest hclear =>
      refine ⟨hk, fun _ => hclear, fun j hj => ?_, fun hne => absurd hclear hne⟩
      obtain rfl : i = j := Option.some.inj (hi.symm.trans hj)
      exact hlatest
  -- The read that failed is the last one of its card, and its text is the message.
  | fails b i t hsource ho hop hclient hnone hcard htext =>
      obtain ⟨hp, hreq⟩ := ho.identity i hop
      rw [hsource]
      refine ⟨hk, fun hbusy => absurd hnone hbusy, fun j hj => ?_, fun _ => ⟨i, t, rfl, ?_⟩⟩
      · rw [hnone] at hj
        cases hj
      · have hr : Retains s.client s'.client := by
          rw [hclient]
          exact .reaped hp.running t
        have hn : s'.client.minted = s.client.minted := by
          rw [hclient]
          rfl
        have hlast : LastRead s.client i :=
          ⟨hp.minted, hreq, fun j hij hj hjq => absurd hjq (ht.latest i hop j hij hj)⟩
        refine ⟨hlast.of_retains hr (.of_minted hn.le), ?_, ?_, htext⟩
        · show s'.card = some (s'.client.ops i).card
          rw [hcard, hr.card i hp.minted]
          exact (ho.identityOwn i hop).2
        · show (s'.client.ops i).ended = some t
          rw [hclient, reaped_ended, if_pos rfl]

/-! ## Every step speaks -/

/-- The reads are as they were, and the message at most cleared. -/
lemma Speaks.of_same (hsource : noteSource source s e = source)
    (hclient : s'.client = s.client) (hcard : s'.card = s.card)
    (hop : s'.identityOp = s.identityOp)
    (hmessage : s'.errorMessage = [] ∨ s'.errorMessage = s.errorMessage) :
    Speaks h s source e s' := by
  refine .keeps hsource ?_ (.of_minted (by rw [hclient])) (fun i hi => hop ▸ hi) ?_
  · rw [hclient]
    exact .refl _
  · exact hmessage.imp_right fun hm => ⟨hm, hcard⟩

/-- A new read, on whatever reads it is minted. -/
lemma Speaks.of_mint {base : CardReads} {c : CardRef}
    (hreads : s'.toCardReads = base.mintIdentity c) (hclear : s'.errorMessage = []) :
    Speaks h s source e s' := by
  refine .asks base.client.minted (by rw [hreads]; rfl) (.of_minted ?_) hclear
  rw [hreads]
  exact le_rfl

/-- Classifying keeps the message, or clears it for the free read. -/
lemma Speaks.of_classified {v : SmartCardHandler} (hc : Classified h v s')
    (hsource : noteSource source s e = source) (hr : Retains s.client v.client)
    (hn : v.client.minted = s.client.minted)
    (hop : ∀ i, v.identityOp = some i → s.identityOp = some i)
    (hmessage : v.errorMessage = [] ∨ v.errorMessage = s.errorMessage ∧ v.card = s.card) :
    Speaks h s source e s' := by
  cases hc with
  | unread _ heq hkeep =>
      refine .keeps hsource ?_ (.of_minted ?_) ?_ ?_
      · rwa [heq]
      · rw [heq, hn]
      · rwa [heq]
      · rwa [heq, hkeep]
  | reads c _ heq hclear => exact .of_mint heq hclear

lemma speaks_aside (hsource : noteSource source s e = source) (hb : Beside s s') :
    Speaks h s source e s' :=
  .of_same hsource (by rw [hb.reads]) (by rw [hb.reads]) (by rw [hb.reads]) hb.message

lemma speaks_ensureFreeRead {v : SmartCardHandler} (hsource : noteSource source s e = source)
    (hb : Beside s v) : Speaks h s source e v.ensureFreeRead := by
  cases hdue : v.freeReadDue with
  | false =>
      rw [ensureFreeRead_of_not_due hdue]
      exact speaks_aside hsource hb
  | true =>
      obtain ⟨c, -, hmint, hclear⟩ := ensureFreeRead_reads hdue
      exact .of_mint hmint hclear

/-- A photo that follows an answer is no identity read. -/
lemma noReadSince_startPhotoRead (base : CardReads) :
    NoReadSince base.client.minted base.startPhotoRead.client ∧
      Retains base.client base.startPhotoRead.client := by
  rcases base.startPhotoRead_cases with hsame | ⟨c, -, -, hmint⟩
  · rw [hsame]
    exact ⟨.of_minted le_rfl, .refl _⟩
  · rw [hmint]
    refine ⟨fun j hj hlt => ?_, .mint _ c _⟩
    have hlt' : j < base.client.minted + 1 := hlt
    obtain rfl : j = base.client.minted := by omega
    simp [CardReads.mintPhoto]

lemma startPhotoRead_frame (base : CardReads) :
    base.startPhotoRead.identityOp = base.identityOp ∧ base.startPhotoRead.card = base.card := by
  rcases base.startPhotoRead_cases with hsame | ⟨c, -, -, hmint⟩
  · rw [hsame]
    exact ⟨rfl, rfl⟩
  · rw [hmint]
    exact ⟨rfl, rfl⟩

lemma speaks_identityFinished (ho : Owned h b s.toCardReads) {i : ℕ} (hop : s.identityOp = some i)
    (t : Terminal) : Speaks h s source (.finished i t) (s.finished h i t) := by
  have hrun : (s.client.ops i).ended = none := (ho.identity i hop).1.running
  have hends : Retains s.client (s.identityEnds i t).client := .reaped hrun t
  -- A dismissed prompt is no failure: only the second case has a message.
  cases identityEnded_spec (h := h) ho.toWired hop t with
  | dismissed hdismissed hc =>
      have hsource : noteSource source s (.finished i t) = source := by
        simp [noteSource, failsRead, hdismissed]
      exact .of_classified hc hsource hends rfl (fun j hj => by cases hj) (.inl rfl)
  | failed hdismissed hok heq htext =>
      have hsource : noteSource source s (.finished i t) = some i := by
        simp [noteSource, failsRead, hop, hdismissed, hok]
      refine .fails b i t hsource ho hop ?_ ?_ ?_ htext
      · rw [heq]
        rfl
      · rw [heq]
        rfl
      · rw [heq]
        rfl
  | answered s₁ hok hs₁ heq hkeep =>
      have hsource : noteSource source s (.finished i t) = source := by
        simp [noteSource, failsRead, hok]
      obtain ⟨hnew, hphoto⟩ := noReadSince_startPhotoRead s₁
      obtain ⟨hframe, hcard⟩ := startPhotoRead_frame s₁
      rw [hs₁] at hnew hphoto hframe hcard heq
      refine .keeps hsource ?_ ?_ (fun j hj => ?_) (.inr ⟨hkeep, ?_⟩)
      · rw [heq]
        exact hends.trans hphoto
      · rw [heq]
        exact hnew
      · rw [heq, hframe] at hj
        cases hj
      · rw [heq, hcard]
        rfl

lemma speaks_photoFinished (ho : Owned h b s.toCardReads) {i : ℕ} (hop : s.photoOp = some i)
    (t : Terminal) (heq : s.finished h i t = { s with
      toCardReads :=
        CardReads.onPhotoFinished h { s.toCardReads with client := s.client.finish i t } t }) :
    Speaks h s source (.finished i t) (s.finished h i t) := by
  obtain ⟨hp, hreq⟩ := ho.photo i hop
  have hne : s.identityOp ≠ some i := fun hid => by
    rw [(ho.identity i hid).2] at hreq
    cases hreq
  have hsource : noteSource source s (.finished i t) = source := by
    simp [noteSource, failsRead, hne]
  have hends : (s.finished h i t).client = reaped s.client i t ∧
      (s.finished h i t).card = s.card ∧ (s.finished h i t).identityOp = s.identityOp := by
    rw [heq]
    exact onPhotoFinished_frame hop t
  obtain ⟨hclient, hcard, hidentity⟩ := hends
  refine .keeps hsource ?_ (.of_minted ?_) (fun j hj => ?_) (.inr ⟨by rw [heq], hcard⟩)
  · rw [hclient]
    exact .reaped hp.running t
  · rw [hclient]
    exact le_rfl
  · rwa [← hidentity]

lemma bindCard_identityOp {r : CardReads} {c : Option CardRef} {i : ℕ}
    (hi : (r.bindCard c).identityOp = some i) : r.identityOp = some i := by
  unfold CardReads.bindCard at hi
  split_ifs at hi
  · exact hi
  · rw [rebind_eq] at hi
    cases hi

/-- A refresh runs on the handler as it is, up to cards that are gone. -/
structure RunsOn (s u : SmartCardHandler) : Prop where
  retains : Retains s.client u.client
  minted : u.client.minted = s.client.minted
  identityOp : ∀ i, u.identityOp = some i → s.identityOp = some i
  message : u.errorMessage = s.errorMessage
  card : ∀ c, s.card = some c → u.client.registry.live c = true → u.card = some c

lemma runsOn_of_refreshes {u : SmartCardHandler} (hu : s.refreshes e = some u) : RunsOn s u := by
  have hsame : ∀ v : SmartCardHandler, v.toCardReads = s.toCardReads →
      v.errorMessage = s.errorMessage → RunsOn s v := by
    intro v hreads hmessage
    refine ⟨?_, by rw [hreads], fun i hi => ?_, hmessage, fun c hc _ => ?_⟩
    · rw [hreads]
      exact .refl _
    · rwa [hreads] at hi
    · rwa [hreads]
  -- What comes before a refresh touches the names it looks for, or the registry.
  cases e <;> simp only [refreshes, Option.some.injEq, reduceCtorEq] at hu
  case registryChanged r =>
    rw [← hu]
    refine ⟨.setRegistry _ r, rfl, fun i hi => (Option.filter_eq_some_iff.1 hi).1, rfl, ?_⟩
    intro c hc hlive
    exact Option.filter_eq_some_iff.2 ⟨hc, hlive⟩
  case refresh =>
    rw [← hu]
    exact hsame s rfl rfl
  case setBoundReaderName name =>
    split_ifs at hu
    rw [← Option.some.inj hu]
    exact hsame _ rfl rfl
  case selectReader name =>
    split_ifs at hu
    rw [← Option.some.inj hu]
    exact hsame _ rfl rfl
  case agentStartFinished result =>
    split_ifs at hu
    rw [← Option.some.inj hu]
    exact hsame _ rfl rfl

lemma noteSource_of_refreshes {u : SmartCardHandler} (hu : s.refreshes e = some u) :
    noteSource source s e = source := by
  cases e <;> first | rfl | cases hu

/-- A refresh that does not carry the message to another card. -/
lemma speaks_refresh {u : SmartCardHandler} (hu : s.refreshes e = some u)
    (hok : carriesMessage h s e = false) : Speaks h s source e (u.refresh h) := by
  have hrun := runsOn_of_refreshes hu
  have hsource : noteSource source s e = source := noteSource_of_refreshes hu
  have hbind : ∀ c, Retains s.client (u.toCardReads.bindCard c).client ∧
      NoReadSince s.client.minted (u.toCardReads.bindCard c).client ∧
      ∀ i, (u.toCardReads.bindCard c).identityOp = some i → s.identityOp = some i := by
    intro c
    refine ⟨hrun.retains.trans (.bindCard _ c), .of_minted ?_, fun i hi => ?_⟩
    · rw [bindCard_minted, hrun.minted]
    · exact hrun.identityOp i (bindCard_identityOp hi)
  cases u.refreshOutcome (h := h) with
  | unbound _ heq hclear =>
      obtain ⟨hr, hnew, hop⟩ := hbind none
      rw [← heq] at hr hnew hop
      exact .keeps hsource hr hnew hop (.inl hclear)
  | unread c htarget hnone heq hkeep =>
      obtain ⟨hr, hnew, hop⟩ := hbind (some c)
      rw [← heq] at hr hnew hop
      refine .keeps hsource hr hnew hop ?_
      by_cases hm : s.errorMessage = []
      · exact .inl ((hkeep.trans hrun.message).trans hm)
      -- Not cleared, and not carried to another card: so the card is the one it was.
      · have hcard : s.card = some c := by
          simp only [carriesMessage, hu, Option.any_some, htarget, hnone] at hok
          by_contra hne
          simp [hm, Ne.symm hne] at hok
        have hstay : (u.refresh h).card = s.card := by
          rw [u.refresh_card, htarget, hcard]
        exact .inr ⟨hkeep.trans hrun.message, hstay⟩
  | reads c _ _ heq hclear => exact .of_mint heq hclear

lemma noteSource_of_not_finished (hend : ¬ ∃ i t, e = .finished i t) :
    noteSource source s e = source := by
  cases e with
  | finished i t => exact absurd ⟨i, t, rfl⟩ hend
  | _ => rfl

/-- **Every step but one that carries the message speaks.** -/
lemma speaks_step (ho : Owned h b s.toCardReads) (hal : allows s e)
    (hok : carriesMessage h s e = false) : Speaks h s source e (step h s e) := by
  by_cases hend : ∃ i t, e = .finished i t
  · obtain ⟨i, t, rfl⟩ := hend
    rcases s.finished_cases (h := h) ho.toWired hal.2 with ⟨hop, -⟩ | ⟨hop, heq⟩
    · exact speaks_identityFinished ho hop t
    · exact speaks_photoFinished ho hop t heq
  · have hsource : noteSource source s e = source := noteSource_of_not_finished hend
    cases turn h s e with
    | aside hb => exact speaks_aside hsource hb
    | refreshes u hu _ _ heq =>
        rw [heq]
        exact speaks_refresh hu hok
    | moves r heq =>
        have hstay : (s.setRegistry (r.keeping s.client.registry)).card = s.card :=
          setRegistry_card_of_live fun c hc => Registry.live_keeping (ho.live c hc)
        rw [heq]
        exact .keeps hsource (.setRegistry _ _) (.of_minted le_rfl)
          (fun i hi => (Option.filter_eq_some_iff.1 hi).1) (.inr ⟨rfl, hstay⟩)
    | swaps r he heq =>
        subst he
        rw [heq]
        exact speaks_refresh rfl hok
    | classifies heq =>
        rw [heq]
        exact .of_classified (classified s) hsource (.refl _) rfl (fun _ => id) (.inr ⟨rfl, rfl⟩)
    | frees v hb _ heq =>
        rw [heq]
        exact speaks_ensureFreeRead hsource hb
    | asks _ heq =>
        rw [heq]
        rcases s.readIdentity_cases with hquiet | ⟨c, -, -, hreads⟩
        · rw [hquiet]
          exact speaks_aside hsource (.refl s)
        · rw [hreads]
          exact .of_mint rfl rfl
    | warms c _ _ heq =>
        rw [heq]
        exact .of_same hsource rfl rfl rfl (.inr rfl)
    | ends i t he _ => exact absurd ⟨i, t, he⟩ hend
    | sibling slot image _ heq =>
        rw [heq]
        exact .of_same hsource rfl rfl rfl (.inr rfl)
    | goes _ heq =>
        rw [heq]
        exact .of_same hsource rfl rfl rfl (.inr rfl)

lemma Told.step (ht : Told h s source) (hal : allows s e) (hok : carriesMessage h s e = false) :
    Told h (step h s e) (noteSource source s e) := by
  obtain ⟨b, hk⟩ := ht.kept
  have hkept : ∃ b, Kept h b (LibreKDE.Plasmoid.step h s e) := ⟨_, kept_step hk hal⟩
  apply ht.of_speaks hkept
  rcases hk with ho | ⟨hgone, -⟩
  · exact speaks_step ho hal hok
  · obtain ⟨slot, image, rfl⟩ := eq_sibling_of_destroyed hgone hal
    exact .of_same rfl rfl rfl rfl (.inr rfl)

/-- A step that carries the message shows it with a card it does not come from. -/
lemma Told.not_belongs (ht : Told h s source) (hcarries : carriesMessage h s e = true) :
    ¬ MessageBelongs h (LibreKDE.Plasmoid.step h s e, noteSource source s e) := by
  intro hbelongs
  obtain ⟨u, hu⟩ : ∃ u, s.refreshes e = some u := by
    apply Option.ne_none_iff_exists'.1
    intro hnone
    simp [carriesMessage, hnone] at hcarries
  obtain ⟨hm, htarget, hother, hnone⟩ : s.errorMessage ≠ [] ∧ u.target h ≠ none ∧
      u.target h ≠ s.card ∧ u.refreshReads h = none := by
    simpa [carriesMessage, hu] using hcarries
  have hrun := runsOn_of_refreshes hu
  obtain ⟨i, t, hi, hlast, hcard, -⟩ := ht.belongs hm
  rw [step_of_refreshes hu, noteSource_of_refreshes hu] at hbelongs
  cases u.refreshOutcome (h := h) with
  | unbound hno _ _ => exact htarget hno
  | reads c _ hread _ _ =>
      rw [hnone] at hread
      cases hread
  -- The message is still shown, over a card whose last read it is not about.
  | unread c hc _ heq hkeep =>
      have hshown : (u.refresh h).errorMessage ≠ [] := by
        rw [hkeep, hrun.message]
        exact hm
      obtain ⟨i', -, hi', -, hcard', -⟩ := hbelongs hshown
      obtain rfl : i = i' := Option.some.inj (hi.symm.trans hi')
      have hr : Retains s.client (u.refresh h).client := by
        rw [heq]
        exact hrun.retains.trans (.bindCard _ _)
      have hsame : (u.refresh h).card = s.card := by
        have hthen : (u.refresh h).card = some ((u.refresh h).client.ops i).card := hcard'
        rw [hthen, hr.card i hlast.1]
        exact hcard.symm
      rw [u.refresh_card] at hsame
      exact hother hsame

end Steps

/-- A new widget has nothing to say. -/
lemma told_start {s : SmartCardHandler} (hs : Start h s) : Told h s none := by
  obtain ⟨ho, hminted⟩ := hs.owned
  have hfree : s.identityOp = none := by
    cases hop : s.identityOp with
    | none => rfl
    | some i =>
        have hlt := (ho.identity i hop).1.minted
        omega
  have hblank : s.errorMessage = [] := by
    obtain ⟨client, photoStore, photoSlot, -, -, rfl⟩ := hs
    unfold construct
    cases ({ client, photoStore, photoSlot } : SmartCardHandler).refreshOutcome (h := h) with
    | unbound _ _ hclear => exact hclear
    | unread c _ _ _ hkeep => exact hkeep
    | reads c _ _ _ hclear => exact hclear
  refine ⟨⟨0, .inl ho⟩, fun _ => hblank, fun i hi => ?_, fun hm => absurd hblank hm⟩
  rw [hfree] at hi
  cases hi

/-- **The message belongs to the bound card** throughout exactly the runs that never carry it to
another: no step of theirs swaps the card under a message and keeps it. -/
theorem message_belongs_iff (h : PlasmoidHost) {s : SmartCardHandler} {es : List Event}
    (hs : Start h s) (ha : (machine h).Admits s es) :
    (sourceMachine h).Always (MessageBelongs h) (s, none) es ↔
      (sourceMachine h).EachStep (fun x e => carriesMessage h x.1 e = false) (s, none) es := by
  refine Machine.always_iff_eachStep (J := fun x : SmartCardHandler × Option ℕ => Told h x.1 x.2)
    (fun x e ht hal hok => ht.step hal hok) (fun x ht => ht.belongs) (fun x e ht hal hok => ?_)
    (told_start hs) (Machine.admits_watch.2 ha)
  exact ht.not_belongs (by simpa using hok)

/-- A read fails, and another card is put into the reader. -/
def failedAndSwapped : List Event :=
  [.readIdentity, .finished 0 { status := .error },
    .registryChanged (.desk (qs "r") 2 (.eid true))]

/-- A read fails, and the card is taken out before another one is put in. -/
def failedAndRemoved : List Event :=
  [.readIdentity, .finished 0 { status := .error }, .registryChanged .blank,
    .registryChanged (.desk (qs "r") 2 (.eid true))]

theorem message_belongs_iff_removed :
    (sourceMachine .plain).Always (MessageBelongs .plain) (widget, none) failedAndRemoved ↔
      (sourceMachine .plain).EachStep (fun x e => carriesMessage .plain x.1 e = false)
        (widget, none) failedAndRemoved :=
  message_belongs_iff .plain start_widget (by decide)

/-- The message of the first card is shown with the second, which was never read. -/
theorem message_carried :
    ∃ s es, Start .plain s ∧ (machine .plain).Admits s es ∧
      ((machine .plain).exec s es).errorMessage ≠ [] ∧
      ((machine .plain).exec s es).card = some 2 ∧
      (∀ i < ((machine .plain).exec s es).client.minted,
        (((machine .plain).exec s es).client.ops i).card ≠ 2) ∧
      ¬ (sourceMachine .plain).Always (MessageBelongs .plain) (s, none) es := by
  refine ⟨widget, failedAndSwapped, start_widget, by decide, by decide, by decide, by decide,
    fun hall => ?_⟩
  obtain ⟨i, t, hi, -, hcard, -⟩ := hall.last (by decide)
  have hsource : ((sourceMachine .plain).exec (widget, none) failedAndSwapped).2 = some 0 := by
    decide
  obtain rfl : i = 0 := Option.some.inj (hi.symm.trans hsource)
  exact absurd hcard (by decide)

end LibreKDE.Plasmoid
