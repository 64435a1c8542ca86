import LibreKDE.Credentials.Custody
import LibreKDE.Signing.Custody
import LibreKDE.Plasmoid.Moves

/-!
# No operation outlives its owner

Three kinds of object mint operations: the handler of a widget, the credential controller, and the
job a handler starts to sign.  As long as one of them lives, each operation it minted is in its
hands, or its terminal was delivered to it, or it stopped listening to it and cancelled it
(`Client.Accounted`); and a handler is busy exactly while its identity read is live.

None of the three destructors cancels anything, as every re-target does.  The operations are
children of a card the object does not own, so one that is pending when the object goes stays
behind, and its prompt with it: `operations_accounted_iff` says that this is the only way to lose
one.
-/

namespace LibreKDE.Plasmoid

open Reactive CardReads SmartCardHandler
open Client (Handles)

variable {h : PlasmoidHost} {b : ℕ}

/-! ## The client's sweep -/

/-- The client ends every operation still listened to before it destroys its card. -/
def Swept (s : SmartCardHandler) : Event → Prop
  | .registryChanged r =>
      ∀ i < s.client.minted, s.client.Pending i → r.live (s.client.ops i).card = true
  | _ => True

instance (s : SmartCardHandler) : (e : Event) → Decidable (Swept s e)
  | .registryChanged r => inferInstanceAs (Decidable
      (∀ i < s.client.minted, s.client.Pending i → r.live (s.client.ops i).card = true))
  | .registry _ | .refresh | .cardChanged _ | .setBoundReaderName _ | .selectReader _
  | .setViewActive _ | .readIdentity | .ensureFreeRead | .openInFiles | .startAgent
  | .agentStartFinished _ | .finished .. | .phaseChanged .. | .signFile _ | .dismissSignResult
  | .jobChooses .. | .jobPhaseChanged .. | .jobSucceeded .. | .jobFailed .. | .sibling ..
  | .destroy => isTrue trivial

/-- The handler over a client that sweeps a card's operations before destroying it. -/
def sweptMachine (h : PlasmoidHost) : Machine SmartCardHandler Event := (machine h).restrict Swept

instance (s : SmartCardHandler) (e : Event) : Decidable ((sweptMachine h).allows s e) :=
  inferInstanceAs (Decidable (allows s e ∧ Swept s e))

/-! ## Handling -/

namespace SmartCardHandler

variable {s u v : SmartCardHandler}

/-- The busy flag agrees with the pointer to the identity read. -/
def Busied (s : SmartCardHandler) : Prop := s.busy = s.identityOp.isSome

/-- The operations were only handled on the way, and the busy flag with them. -/
structure Minds (s u : SmartCardHandler) : Prop where
  handles : Handles s.client u.client
  busied : s.Busied → u.Busied

namespace Minds

lemma refl (s : SmartCardHandler) : Minds s s := ⟨.refl _, id⟩

lemma trans (hsv : Minds s v) (hvu : Minds v u) : Minds s u :=
  ⟨hsv.handles.trans hvu.handles, hvu.busied ∘ hsv.busied⟩

lemma of_eq (hk : u.client = s.client) (hbusy : u.busy = s.busy)
    (hop : u.identityOp = s.identityOp) : Minds s u where
  handles := hk ▸ .refl s.client
  busied hs := by rw [Busied, hbusy, hop, hs]

lemma of_beside (hb : Beside s u) : Minds s u :=
  of_eq (by rw [hb.reads]) hb.busy (by rw [hb.reads])

lemma bindCard (s : SmartCardHandler) (c : Option CardRef) : Minds s (s.bindCard c) := by
  have hdrop : ∀ (k : Client) (op : Option ℕ), Handles k (drop k op) := by
    rintro k (_ | i)
    · exact .refl k
    · exact .drop k i
  unfold SmartCardHandler.bindCard
  by_cases hsame : c ≠ none ∧ s.card = c
  · rw [if_pos hsame]
    exact refl s
  · rw [if_neg hsame]
    refine ⟨?_, fun hs => ?_⟩
    · show Handles s.client (s.rebind c).client
      rw [rebind_eq]
      exact (hdrop _ _).trans (hdrop _ _)
    · show (if s.identityOp.isSome = true then false else s.busy) = (s.rebind c).identityOp.isSome
      rw [hs, rebind_eq]
      cases s.identityOp <;> rfl

lemma readIdentity (s : SmartCardHandler) : Minds s s.readIdentity := by
  rcases s.readIdentity_cases with heq | ⟨c, -, -, heq⟩
  · rw [heq]
    exact refl s
  · rw [heq]
    exact ⟨.mint s.client c _, fun _ => rfl⟩

lemma ensureFreeRead (s : SmartCardHandler) : Minds s s.ensureFreeRead := by
  unfold SmartCardHandler.ensureFreeRead
  split_ifs
  · exact refl s
  · exact refl s
  · exact refl s
  · exact readIdentity s

lemma classifyActiveCard (s : SmartCardHandler) : Minds s (s.classifyActiveCard h) := by
  obtain ⟨s', hb, -, -, -, heq | ⟨-, heq⟩⟩ := s.classifyActiveCard_eq (h := h)
  · rw [heq]
    exact of_beside hb
  · rw [heq]
    exact (of_beside hb).trans (ensureFreeRead s')

lemma refresh (s : SmartCardHandler) : Minds s (s.refresh h) := by
  obtain ⟨s', hs', hto⟩ := s.refresh_eq (h := h)
  have hreads : s'.toCardReads = (s.bindCard (s.target h)).toCardReads := by
    rw [hs'.reads, bindCard_toCardReads]
  have hrebound : Minds s s' :=
    (bindCard s (s.target h)).trans (of_eq (by rw [hreads]) hs'.busy (by rw [hreads]))
  rcases hto with ⟨heq, -⟩ | ⟨heq, -⟩
  · rw [heq]
    exact hrebound.trans (of_eq rfl rfl rfl)
  · rw [heq]
    exact (hrebound.trans (classifyActiveCard s')).trans (of_eq rfl rfl rfl)

/-- The registry moves, and what is pending stays. -/
lemma setRegistry (hw : Wired s.toCardReads) {r : Registry}
    (hlive : ∀ i, s.client.Pending i → r.live (s.client.ops i).card = true) :
    Minds s (s.setRegistry r) := by
  refine ⟨.registry s.client r hlive, fun hs => ?_⟩
  show s.busy = ((s.client.setRegistry r).guardOp s.identityOp).isSome
  rw [hs]
  cases hop : s.identityOp with
  | none => rfl
  | some i =>
      have hp := (hw.identity i hop).1
      simp [Client.guardOp, hp.alive, hlive i hp]

/-- An identity read's terminal is taken note of. -/
lemma identityEnded (s : SmartCardHandler) (i : ℕ) (t : Terminal) : Minds s (s.identityEnded i t) :=
  ⟨.reap s.client i t, fun _ => rfl⟩

lemma startPhotoRead (s : SmartCardHandler) :
    Minds s { s with toCardReads := s.startPhotoRead } := by
  rcases s.startPhotoRead_cases with heq | ⟨c, -, -, heq⟩
  · rw [heq]
    exact refl s
  · rw [heq]
    exact ⟨.mint s.client c _, id⟩

lemma finished (hw : Wired s.toCardReads) {i : ℕ} {t : Terminal}
    (hal : Event.guard s (.finished i t)) : Minds s (s.finished h i t) := by
  rcases s.finished_cases (h := h) hw hal with ⟨hop, hend⟩ | ⟨hop, heq⟩
  · have hended := identityEnded s i t
    cases hend with
    | dismissed _ heq =>
        rw [heq]
        have hdismissed : Minds s (s.identityDismissed i t) := hended.trans (of_eq rfl rfl rfl)
        exact hdismissed.trans (classifyActiveCard _)
    | failed _ heq hbusy =>
        refine ⟨?_, fun _ => ?_⟩
        · rw [heq]
          exact hended.handles
        · rw [Busied, hbusy, heq]
          rfl
    | answered s₁ _ hs₁ heq =>
        have hanswered : Minds s (s.identityAnswered h i t) := hended.trans (of_eq rfl rfl rfl)
        have hclassified : Minds s s₁ := by
          rw [hs₁]
          exact hanswered.trans (classifyActiveCard _)
        rw [heq]
        exact hclassified.trans (startPhotoRead s₁)
  · obtain ⟨hclient, -, hop'⟩ := onPhotoFinished_frame (h := h) hop t
    rw [heq]
    refine ⟨?_, fun hs => ?_⟩
    · show Handles s.client (CardReads.onPhotoFinished h _ t).client
      rw [hclient]
      exact .reap s.client i t
    · show s.busy = (CardReads.onPhotoFinished h _ t).identityOp.isSome
      rw [hop']
      exact hs

end Minds

end SmartCardHandler

open SmartCardHandler

variable {s : SmartCardHandler} {e : Event}

/-- **Each step of a handler only handles its operations, and its busy flag with them.** -/
theorem minds_step (ho : Owned h b s.toCardReads) (hal : allows s e) (hswept : Swept s e) :
    Minds s (step h s e) := by
  cases turn h s e with
  | aside hb => exact .of_beside hb
  | refreshes s₁ _ hsame hbusy heq =>
      have hmoved : Minds s s₁ := .of_eq (by rw [hsame]) hbusy (by rw [hsame])
      rw [heq]
      exact hmoved.trans (.refresh s₁)
  | moves r heq =>
      rw [heq]
      refine .setRegistry ho.toWired fun i hp => ?_
      apply Registry.live_keeping
      rcases ho.pending i hp with hop | hop
      · exact ho.live _ (ho.identityOwn i hop).2
      · exact ho.live _ (ho.photoOwn i hop).2
  | swaps r he heq =>
      subst he
      have hmoved : Minds s (s.setRegistry r) :=
        .setRegistry ho.toWired fun i hp => hswept i hp.minted hp
      rw [heq]
      exact hmoved.trans (.refresh _)
  | classifies heq =>
      rw [heq]
      exact .classifyActiveCard s
  | frees s₁ hb _ heq =>
      rw [heq]
      exact (Minds.of_beside hb).trans (.ensureFreeRead s₁)
  | asks _ heq =>
      rw [heq]
      exact .readIdentity s
  | warms c _ _ heq =>
      rw [heq]
      exact .of_eq rfl rfl rfl
  | ends i t he heq =>
      subst he
      rw [heq]
      exact .finished ho.toWired hal.2
  | sibling slot image _ heq =>
      rw [heq]
      exact .of_eq rfl rfl rfl
  | goes _ heq =>
      rw [heq]
      exact .of_eq rfl rfl rfl

/-! ## Runs -/

/-- The operations of a handler are accounted for, and it is busy exactly while its identity read
is live. -/
structure Tidy (s : SmartCardHandler) : Prop where
  accounted : s.client.Accounted (!s.destroyed)
  busy : s.busy = true ↔ ∃ i, s.client.Pending i ∧ (s.client.ops i).request = .readIdentity

/-- The handler goes only with nothing in its hands. -/
def LeavesNothing (s : SmartCardHandler) (e : Event) : Prop := e = .destroy → s.client.Quiet

lemma Tidy.congr {u : SmartCardHandler} (hs : Tidy s) (hk : u.client = s.client)
    (hbusy : u.busy = s.busy) (hgone : u.destroyed = s.destroyed) : Tidy u :=
  ⟨by rw [hk, hgone]; exact hs.accounted, by rw [hk, hbusy]; exact hs.busy⟩

lemma SmartCardHandler.Busied.iff (hs : s.Busied) (hw : Wired s.toCardReads) :
    s.busy = true ↔ ∃ i, s.client.Pending i ∧ (s.client.ops i).request = .readIdentity := by
  rw [hs, Option.isSome_iff_exists]
  refine exists_congr fun i => ⟨hw.identity i, fun ⟨hp, hreq⟩ => ?_⟩
  rcases hw.pending i hp with hop | hop
  · exact hop
  · exact nomatch hreq.symm.trans (hw.photo i hop).2

/-- What carries the accounting along a handler's run. -/
structure Custody (h : PlasmoidHost) (s : SmartCardHandler) : Prop where
  owned : s.destroyed = false → (∃ b, Owned h b s.toCardReads) ∧ s.Busied
  tidy : Tidy s

/-- Between two events of a handler that lives. -/
lemma custody_of_owned (ho : Owned h b s.toCardReads) (hbusy : s.Busied)
    (hk : s.client.Accounted true) : Custody h s where
  owned _ := ⟨⟨b, ho⟩, hbusy⟩
  tidy := ⟨by rw [ho.alive]; exact hk, hbusy.iff ho.toWired⟩

lemma Custody.step (hs : Custody h s) (hal : (sweptMachine h).allows s e)
    (hok : LeavesNothing s e) : Custody h (Plasmoid.step h s e) := by
  obtain ⟨hallows, hswept⟩ := hal
  cases hgone : s.destroyed with
  | true =>
      obtain ⟨slot, image, rfl⟩ := eq_sibling_of_destroyed hgone hallows
      exact ⟨fun hback => (nomatch hgone.symm.trans hback), hs.tidy.congr rfl rfl rfl⟩
  | false =>
      obtain ⟨⟨b, ho⟩, hbusy⟩ := hs.owned hgone
      have hk : s.client.Accounted true := by simpa [hgone] using hs.tidy.accounted
      by_cases hdestroy : e = .destroy
      · subst hdestroy
        refine ⟨fun hback => (nomatch hback), ?_, hs.tidy.busy⟩
        exact (Client.accounted_false_iff hk).2 (hok rfl)
      · have hminds := minds_step (h := h) ho hallows hswept
        exact custody_of_owned (movesTo_step ho hallows hdestroy).owned (hminds.busied hbusy)
          (hminds.handles.accounted hk)

/-- A handler that goes with an operation in its hands leaves it behind. -/
lemma Custody.not_tidy_step (hs : Custody h s) (hal : allows s e) (hlose : ¬ LeavesNothing s e) :
    ¬ Tidy (Plasmoid.step h s e) := by
  intro htidy
  obtain ⟨rfl, hpending⟩ := Classical.not_imp.1 hlose
  have hgone : s.destroyed = false := by simpa [Event.isSibling] using hal.1
  have hk : s.client.Accounted true := by simpa [hgone] using hs.tidy.accounted
  exact hpending ((Client.accounted_false_iff hk).1 htidy.accounted)

lemma Start.custody (hs : Start h s) : Custody h s := by
  obtain ⟨ho, hminted⟩ := hs.owned
  obtain ⟨client, photoStore, photoSlot, -, -, rfl⟩ := hs
  have hminds := Minds.refresh (h := h)
    { client := client, photoStore := photoStore, photoSlot := photoSlot }
  exact custody_of_owned ho (hminds.busied rfl) (Client.accounted_of_minted hminted)

/-- **No operation outlives its owner.**  Over a client that sweeps, the operations of a credential
controller, of a job and of a handler are accounted for throughout a run, and the handler's busy
flag tells whether its identity read is live, exactly when the object is not destroyed with an
operation in its hands. -/
theorem operations_accounted_iff (g : Host) (k : Signing.SignHost) (h : PlasmoidHost) :
    (∀ s es, Credentials.Start s →
      (Credentials.sweptMachine g).mortal.Admits (s, true) es →
      ((Credentials.sweptMachine g).mortal.Always (fun x => x.1.client.Accounted x.2) (s, true) es ↔
        (Credentials.sweptMachine g).mortal.EachStep (Machine.DiesOnlyIf fun s => s.client.Quiet)
          (s, true) es)) ∧
    (∀ s es, Signing.Start s →
      (Signing.machine k).mortal.Admits (s, true) es →
      ((Signing.machine k).mortal.Always (fun x => x.1.client.Accounted x.2) (s, true) es ↔
        (Signing.machine k).mortal.EachStep (Machine.DiesOnlyIf fun s => s.client.Quiet)
          (s, true) es)) ∧
    ∀ s es, Start h s → (sweptMachine h).Admits s es →
      ((sweptMachine h).Always Tidy s es ↔ (sweptMachine h).EachStep LeavesNothing s es) := by
  refine ⟨fun s es hs ha => ?_, fun s es hs ha => ?_, fun s es hs ha => ?_⟩
  · exact (Credentials.kept_accounted g).always_mortal_iff (fun _ hk => hk)
      (fun _ hk => Client.accounted_false_iff hk) (Client.accounted_of_minted hs.minted) ha
  · exact (Signing.kept_custody k s).always_mortal_iff (fun _ hc => hc.accounted)
      (fun _ hc => Client.accounted_false_iff hc.accounted) hs.custody ha
  · exact Machine.always_iff_eachStep (fun _ _ hc hal hok => hc.step hal hok) (fun _ hc => hc.tidy)
      (fun _ _ hc hal hlose => hc.not_tidy_step hal.1 hlose) hs.custody ha

/-- The widget's identity read is still running when the widget is destroyed. -/
def abandonedRead : List Event := [.readIdentity, .destroy]

/-- The same, and the read ends first. -/
def finishedRead : List Event := [.readIdentity, .finished 0 {}, .destroy]

theorem operations_accounted_iff_finished :
    ((Credentials.sweptMachine .plain).mortal.Always (fun x => x.1.client.Accounted x.2)
          (.new, true)
          [some (.registry (.desk (qs "r") 1 (.eid true))), some .refresh, some (.finished 0 {}),
            none] ↔
        (Credentials.sweptMachine .plain).mortal.EachStep
          (Machine.DiesOnlyIf fun s => s.client.Quiet) (.new, true)
          [some (.registry (.desk (qs "r") 1 (.eid true))), some .refresh, some (.finished 0 {}),
            none]) ∧
      ((Signing.machine .plain).mortal.Always (fun x => x.1.client.Accounted x.2)
          (Signing.SignJob.forFile, true) (Signing.signed.map some ++ [none]) ↔
        (Signing.machine .plain).mortal.EachStep (Machine.DiesOnlyIf fun s => s.client.Quiet)
          (Signing.SignJob.forFile, true) (Signing.signed.map some ++ [none])) ∧
      ((sweptMachine .plain).Always Tidy widget finishedRead ↔
        (sweptMachine .plain).EachStep LeavesNothing widget finishedRead) := by
  obtain ⟨hcontroller, hjob, hhandler⟩ := operations_accounted_iff .plain .plain .plain
  exact ⟨hcontroller _ _ Credentials.start_new (by decide),
    hjob _ _ Signing.start_forFile (by decide), hhandler _ _ start_widget (by decide)⟩

/-- A read that runs when its widget is removed is neither delivered nor cancelled. -/
theorem read_outlives_widget :
    ∃ s es, Start .plain s ∧ (sweptMachine .plain).Admits s es ∧
      ((sweptMachine .plain).exec s es).destroyed = true ∧
      0 < ((sweptMachine .plain).exec s es).client.minted ∧
      ¬ ((sweptMachine .plain).exec s es).client.Processed 0 ∧
      ¬ ((sweptMachine .plain).exec s es).client.Abandoned 0 ∧
      ¬ (sweptMachine .plain).Always Tidy s es := by
  refine ⟨widget, abandonedRead, start_widget, by decide, by decide, by decide, by decide,
    by decide, fun htidy => ?_⟩
  have hlast : ((sweptMachine .plain).exec widget abandonedRead).client.Accounted false :=
    htidy.last.accounted
  rcases Client.accounted_iff.1 hlast 0 (by decide) with ⟨halive, -⟩ | hdone | hab
  · cases halive
  · exact absurd hdone (by decide)
  · exact absurd hab (by decide)

end LibreKDE.Plasmoid
