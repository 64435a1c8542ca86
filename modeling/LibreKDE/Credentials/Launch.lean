import LibreKDE.AgentClient.Custody
import LibreKDE.Bursts
import LibreKDE.Credentials.RowsHome

/-!
# Launching the credentials window

The window is a single instance.  Its first launch takes the reader from the option parser, a later
one hands its arguments to the instance that runs, and either way the reader is bound by its id.

A verb in flight pins the binding when it runs on the very reader that is asked for.  That this is
then the right card is a fact about runs: while the agent tells the truth about which reader holds
which card, the bound card sits in the reader the window has resolved to (`Sits`), so the pinned
card is the one the reader holds (`bindReader_shows`).
-/

namespace LibreKDE.Credentials

open Reactive

/-! ## The arguments -/

/-- The option that names the reader. -/
def readerFlag : QString := qs "--reader"

/-- `QCommandLineParser::value` of the option: the argument behind it, the last time it is given. -/
def readerOption : List QString → Option QString
  | name :: value :: rest =>
      if name = readerFlag then (readerOption rest).or (some value)
      else readerOption (value :: rest)
  | _ => none

namespace Controller

variable (h : Host) (s : Controller)

/-- What `main` does with the arguments of the first launch. -/
def firstLaunch (args : List QString) : Controller :=
  match readerOption args with
  | none => s
  | some id => s.bindReader h id

/-- The slot of `KDBusService::activateRequested`: every flag that has an argument behind it binds
that one. -/
def activateRequested (args : List QString) : Controller :=
  (args.zip args.tail).foldl
    (fun s pair => if pair.1 = readerFlag then s.bindReader h pair.2 else s) s

end Controller

/-! ## What the agent says of its readers -/

/-- The id of a card's reader is the id of the reader that holds it. -/
def Truthful (r : Registry) : Prop :=
  ∀ x ∈ r.readers, ∀ c card, x.card = some c → r.cards c = some card → card.readerId = x.id

/-- The roster is complete: each reader has an id of its own, and each card is in its reader. -/
structure Settled (r : Registry) : Prop where
  distinct : (r.readers.map AgentReader.id).Nodup
  named : ∀ x ∈ r.readers, x.id ≠ []
  housed : ∀ c card, r.cards c = some card →
    ∃ x ∈ r.readers, x.id = card.readerId ∧ x.card = some c

/-- The agent stays truthful, and no card changes its reader. -/
def Lawful (s : Controller) : Event → Prop
  | .registry r => Truthful r ∧ ∀ c card card', s.client.registry.cards c = some card →
      r.cards c = some card' → card'.readerId = card.readerId
  | _ => True

/-- The bound card is in the reader that was resolved. -/
def Sits (s : Controller) : Prop :=
  ∀ c card, s.card = some c → s.client.registry.cards c = some card →
    card.readerId = s.resolvedReaderId

section Readers

variable {r : Registry} {x y : AgentReader} {c : CardRef}

lemma Settled.eq_of_id (hr : Settled r) (hx : x ∈ r.readers) (hy : y ∈ r.readers)
    (hid : x.id = y.id) : x = y :=
  List.inj_on_of_nodup_map hr.distinct hx hy hid

/-- A reader is found by its id. -/
lemma Settled.reader_eq (hr : Settled r) (hx : x ∈ r.readers) : r.reader x.id = some x := by
  unfold Registry.reader
  cases hfind : r.readers.find? fun y => y.id = x.id with
  | none => simpa using List.find?_eq_none.1 hfind x hx
  | some y =>
      have hid : y.id = x.id := by simpa using List.find?_some hfind
      rw [hr.eq_of_id (List.mem_of_find?_eq_some hfind) hx hid]

/-- An existing card is in one reader, which it names. -/
lemma Settled.exists_reader (hr : Settled r) {card : AgentCard} (hc : r.cards c = some card) :
    ∃ x ∈ r.readers, x.id = card.readerId ∧ x.card = some c ∧
      ∀ y ∈ r.readers, y.id = card.readerId → y.card = some c := by
  obtain ⟨x, hx, hid, hcard⟩ := hr.housed c card hc
  refine ⟨x, hx, hid, hcard, fun y hy hy' => ?_⟩
  rw [hr.eq_of_id hy hx (hy'.trans hid.symm), hcard]

end Readers

/-! ## The seat of the bound card -/

section Seat

variable {h : Host} {s u v : Controller} {e : Event}

/-- The binding, and the reader it was resolved to, stay. -/
structure SameSeat (s u : Controller) : Prop where
  card : u.card = s.card
  registry : u.client.registry = s.client.registry
  resolvedReaderId : u.resolvedReaderId = s.resolvedReaderId

lemma SameSeat.sits (hu : SameSeat s u) (hs : Sits s) : Sits u := by
  intro c card hc hcard
  rw [hu.card] at hc
  rw [hu.registry] at hcard
  rw [hu.resolvedReaderId]
  exact hs c card hc hcard

lemma sameSeat_classify (s : Controller) : SameSeat s s.classify :=
  ⟨Controller.classify_card, (Controller.SameReader.classify s).registry,
    (Controller.SameReader.classify s).resolvedReaderId⟩

lemma sameSeat_relistAfterMutation (s : Controller) : SameSeat s s.relistAfterMutation := by
  unfold Controller.relistAfterMutation Controller.startListCredentials
  split
  · exact ⟨rfl, by simp [Controller.clearRows], rfl⟩
  · split_ifs <;> exact ⟨rfl, by simp [Controller.mintList], rfl⟩

lemma sameSeat_finished (i : ℕ) (t : Terminal) : SameSeat s (s.finished h i t) := by
  have hfinish : SameSeat s { s with client := s.client.finish i t } := ⟨rfl, rfl, rfl⟩
  unfold Controller.finished
  dsimp only
  split_ifs
  · unfold Controller.onListFinished
    split <;> exact ⟨rfl, rfl, rfl⟩
  · rcases Controller.onMutationDone_cases (h := h) { s with client := s.client.finish i t } t with
      ⟨-, isError, message, heq⟩ | ⟨-, isError, message, notice, heq⟩
    · rw [heq]
      obtain ⟨hcard, hregistry, hresolved⟩ := sameSeat_relistAfterMutation
        ({ s with client := s.client.finish i t }.releaseMutation.showResult isError message)
      exact ⟨hcard, hregistry, hresolved⟩
    · rw [heq]
      exact ⟨rfl, rfl, rfl⟩
  · exact hfinish

lemma sameSeat_verb (q : Request) (kind : CredentialKind) : SameSeat s (s.verb q kind) := by
  rcases @Controller.verb_cases s q kind with ⟨-, heq⟩ | ⟨c, -, -, heq⟩
  · rw [heq]
    exact ⟨rfl, rfl, rfl⟩
  · rw [heq]
    refine ⟨by simp, by simp, ?_⟩
    unfold Controller.beginMutation
    dsimp only
    split_ifs <;> rfl

lemma sameSeat_cancel : SameSeat s s.cancel := by
  refine ⟨by simp, by simp, ?_⟩
  unfold Controller.cancel
  dsimp only
  split <;> split <;> rfl

/-- Only a refresh and the agent move the binding. -/
lemma sameSeat_step (hn : s.refreshes e = none) (he : ∀ r, e ≠ .registry r) :
    SameSeat s (step h s e) := by
  -- Only a refresh resolves the binding, and only the registry moves what it resolves to.
  have hrefl : SameSeat s s := ⟨rfl, rfl, rfl⟩
  cases e with
  | registry r => exact absurd rfl (he r)
  | refresh => cases hn
  | bindReader id => simp [Controller.refreshes] at hn
  | cardChanged c =>
      simp only [step]
      split_ifs
      · exact sameSeat_classify s
      · exact hrefl
  | finished i t => exact sameSeat_finished i t
  | cancel => exact sameSeat_cancel
  | startAgent =>
      have hquiet : ¬ (s.agentStarting = false ∧ s.hasClient = false) := by
        simpa [Controller.refreshes] using hn
      simp only [step, Controller.startAgent]
      split
      · exact hrefl
      · split
        · next ha hc => exact absurd ⟨by simpa using ha, by simpa using hc⟩ hquiet
        · exact ⟨rfl, rfl, rfl⟩
  | agentStartFinished result =>
      have hquiet : s.agentStarting = false := by simpa [Controller.refreshes] using hn
      simp only [step, Controller.onAgentStartFinished, hquiet]
      exact hrefl
  | changePin id => exact sameSeat_verb _ _
  | activate id => exact sameSeat_verb _ _
  | activateSigningKey id => exact sameSeat_verb _ _
  | requestUnblock id =>
      simp only [step, Controller.requestUnblock]
      split_ifs
      · exact ⟨rfl, rfl, rfl⟩
      · exact hrefl
  | confirmUnblock id => exact sameSeat_verb _ _

lemma mem_of_resolvedReader {x : AgentReader} (hx : s.resolvedReader = some x) :
    x ∈ s.client.registry.readers := by
  rcases Option.or_eq_some_iff.1 hx with hb | ⟨-, hf⟩
  · unfold Controller.boundReader at hb
    split at hb
    · cases hb
    · exact Registry.mem_readers_of_reader hb
  · exact Readers.mem_of_firstReaderWithCard hf

lemma refresh_registry : (s.refresh h).client.registry = s.client.registry := by
  rcases s.refresh_cases (h := h) with ⟨-, heq⟩ | ⟨-, -, heq⟩ | ⟨-, -, -, heq⟩ | ⟨x, -, -, -, heq⟩
  · rw [heq, (Controller.resolves_unbind s _).registry]
  · rw [heq]
  · rw [heq, (Controller.resolves_unbind s _).registry]
  · rw [heq, (sameSeat_classify _).registry, (Controller.SameReader.bindCard _ _).registry]
    rfl

/-- A refresh seats the card it binds. -/
lemma Sits.refresh (hs : Sits s) (hr : Truthful s.client.registry) : Sits (s.refresh h) := by
  have hnone : ∀ st, Sits (s.unbind st) := by
    intro st c card hc
    rw [(s.unbind_frame st).1] at hc
    cases hc
  rcases s.refresh_cases (h := h) with ⟨-, heq⟩ | ⟨-, -, heq⟩ | ⟨-, -, -, heq⟩ | ⟨x, -, -, hx, heq⟩
  · rw [heq]
    exact hnone _
  · rwa [heq]
  · rw [heq]
    exact hnone _
  · rw [heq]
    refine (sameSeat_classify _).sits fun c card hc hcard => ?_
    have hsame := Controller.SameReader.bindCard (s.showReader h x) x.card
    rw [hsame.resolvedReaderId]
    rw [hsame.registry] at hcard
    have hxc : x.card = some c := by
      rw [← hc]
      rcases (s.showReader h x).bindCard_cases x.card with ⟨-, hbound, hb⟩ | ⟨-, hb⟩
      · rw [hb, hbound]
      · rw [hb]
        rfl
    exact hr x (mem_of_resolvedReader hx) c card hxc hcard

/-- The agent moves cards to no other reader. -/
lemma Sits.setRegistry {r : Registry} (hs : Sits s) (hw : Wired s)
    (hstay : ∀ c card card', s.client.registry.cards c = some card → r.cards c = some card' →
      card'.readerId = card.readerId) : Sits (s.setRegistry r) := by
  intro c card' hc hcard'
  have hbound : s.card = some c := by
    rcases hw.setRegistry_cases r with ⟨-, heq, -⟩ | ⟨d, -, -, heq, -⟩
    · rw [← heq, hc]
    · rw [heq] at hc
      cases hc
  obtain ⟨card, hcard⟩ := Option.isSome_iff_exists.1 (hw.seated c hbound)
  rw [hstay c card card' hcard hcard']
  exact hs c card hbound hcard

/-- What runs keep, while the agent keeps to the law. -/
structure Seated (s : Controller) : Prop where
  wired : Wired s
  truthful : Truthful s.client.registry
  sits : Sits s

lemma seated_step (hs : Seated s) (ha : allows s e) (hlaw : Lawful s e) : Seated (step h s e) := by
  have hwired : Wired (step h s e) := hs.wired.of_move (hs.wired.move ha)
  cases hu : s.refreshes e with
  | some u =>
      have hto : SameSeat s u := by
        cases e <;> simp only [Controller.refreshes, Option.some.injEq, reduceCtorEq] at hu
        case refresh => exact hu ▸ ⟨rfl, rfl, rfl⟩
        case bindReader id =>
          rw [← hu]
          split_ifs
          · exact ⟨rfl, by simp, rfl⟩
          · exact ⟨rfl, rfl, rfl⟩
        case startAgent => split at hu <;> cases hu; exact ⟨rfl, rfl, rfl⟩
        case agentStartFinished => split at hu <;> cases hu; exact ⟨rfl, rfl, rfl⟩
      have htruthful : Truthful u.client.registry := hto.registry ▸ hs.truthful
      rw [Controller.step_of_refreshes hu] at hwired ⊢
      refine ⟨hwired, ?_, (hto.sits hs.sits).refresh htruthful⟩
      rwa [refresh_registry]
  | none =>
      by_cases he : ∃ r, e = .registry r
      · obtain ⟨r, rfl⟩ := he
        exact ⟨hwired, hlaw.1, hs.sits.setRegistry hs.wired hlaw.2⟩
      · have hsame := sameSeat_step (h := h) hu (not_exists.1 he)
        exact ⟨hwired, hsame.registry ▸ hs.truthful, hsame.sits hs.sits⟩

lemma Start.seated (hs : Start s) (hr : Truthful s.client.registry) : Seated s :=
  ⟨hs.wired, hr, fun c card hc => by simp [hs.card] at hc⟩

end Seat

/-- The window under an agent that keeps to the law. -/
def lawfulMachine (h : Host) : Machine Controller Event := (machine h).restrict Lawful

lemma seated_kept (h : Host) : (lawfulMachine h).Kept Seated :=
  fun _ _ hs ha => seated_step hs ha.1 ha.2

/-! ## What a launch shows -/

/-- The window `w`, asked for a reader, has become `v` and shows the card that reader holds. -/
structure ShowsCard (w v : Controller) (id : QString) (c : CardRef) : Prop where
  card : v.card = some c
  readerId : v.readerId = id
  resolvedReaderId : v.resolvedReaderId = id
  /-- A verb on that very card goes on, and its operation is left as it is. -/
  kept : w.card = some c → v.mutationOp = w.mutationOp ∧
    ∀ i, w.mutationOp = some i → v.client.ops i = w.client.ops i
  /-- One on another card is abandoned: its operation is cancelled, and no longer listened to. -/
  dropped : w.card ≠ some c → v.mutationOp = none ∧
    ∀ i, w.mutationOp = some i → v.client.Abandoned i

section Shows

variable {h : Host} {s : Controller} {x : AgentReader} {c : CardRef} {card : AgentCard}
  {id : QString}

/-- With no verb running the refresh binds the reader's card. -/
lemma refresh_shows (hm : s.mutationOp = none) (hav : s.available = true)
    (hx : s.boundReader = some x) (hc : x.card = some c) :
    (s.refresh h).card = some c ∧ (s.refresh h).readerId = s.readerId ∧
      (s.refresh h).resolvedReaderId = x.id ∧ (s.refresh h).mutationOp = none := by
  have hresolved : s.resolvedReader = some x := by
    rw [Controller.resolvedReader, hx]
    rfl
  have hsame := (Controller.SameReader.bindCard (s.showReader h x) x.card).trans
    (Controller.SameReader.classify _)
  rw [Controller.refresh, if_neg (by simp [hav]), if_neg (by simp [hm]), hresolved]
  refine ⟨?_, hsame.readerId, hsame.resolvedReaderId, hsame.mutationOp hm⟩
  show ((s.showReader h x).bindCard x.card).classify.card = some c
  rw [Controller.classify_card]
  rcases (s.showReader h x).bindCard_cases x.card with ⟨-, hbound, hb⟩ | ⟨-, hb⟩
  · rw [hb, hbound, hc]
  · rw [hb, ← hc]
    rfl

/-- The verb that is let go of is abandoned, and a refresh leaves it so. -/
lemma abandoned_refresh (hw : Wired s) {u : Controller}
    (hu : u = { s.detachMutation.resetListState with readerId := id }) {i : ℕ}
    (hi : s.mutationOp = some i) : (u.refresh h).client.Abandoned i := by
  have hl : s.listOp = none := by
    refine hw.exclusive.resolve_right fun hm => ?_
    rw [hm] at hi
    cases hi
  have hlist : s.detachMutation.listOp ≠ some i := by
    rw [show s.detachMutation.listOp = s.listOp from rfl, hl]
    simp
  have hminted : i < u.client.minted := by
    rw [hu]
    simpa using (hw.mutation i hi).1.minted
  have hops : (u.refresh h).client.ops i = s.detachMutation.client.ops i := by
    rw [Controller.refresh_ops hminted (by simp [hu, Controller.resetListState])
      (by simp [hu, Controller.resetListState, Controller.detachMutation]), hu]
    exact Controller.resetListState_ops hlist
  rw [Client.Abandoned, hops]
  simp [Controller.detachMutation, hi, Client.cancel, Client.disconnect, Client.modifyOp_ops]

/-- A re-bind is pinned by a verb on the same reader, and refreshes with no verb running
otherwise, having abandoned the one that ran. -/
lemma bindReader_cases (hw : Wired s) (hav : s.available = true) (id : QString) :
    (s.mutationOp ≠ none ∧ id = s.resolvedReaderId ∧
      s.bindReader h id = { s with readerId := id }) ∨
    ((s.mutationOp = none ∨ id ≠ s.resolvedReaderId) ∧
      ∃ u : Controller, u.mutationOp = none ∧ u.client.registry = s.client.registry ∧
        u.readerId = id ∧ u.available = true ∧ s.bindReader h id = u.refresh h ∧
          ∀ i, s.mutationOp = some i → (u.refresh h).client.Abandoned i) := by
  by_cases hrun : s.mutationOp = none
  · refine .inr ⟨.inl hrun, { s with readerId := id }, hrun, rfl, rfl, hav, ?_, fun i hi => ?_⟩
    · rw [Controller.bindReader, if_neg (fun hre => hre.1 hrun)]
    · rw [hrun] at hi
      cases hi
  · by_cases hid : id = s.resolvedReaderId
    · refine .inl ⟨hrun, hid, ?_⟩
      have hav' : ({ s with readerId := id } : Controller).available = true := hav
      rw [Controller.bindReader, if_neg (fun hre => hre.2 hid), Controller.refresh,
        if_neg (by rw [hav']; simp), if_pos hrun]
    · have hav' : s.detachMutation.resetListState.available = true := by
        rw [← hav, Controller.available, Controller.available,
          Controller.resetListState_registry, Controller.detachMutation_registry]
        rfl
      refine .inr ⟨.inr hid, { s.detachMutation.resetListState with readerId := id }, rfl,
        by simp, rfl, hav', ?_, fun i hi => abandoned_refresh hw rfl hi⟩
      rw [Controller.bindReader, if_pos ⟨hrun, hid⟩]

/-- **Asked for the reader a card names, the window shows that card**, whatever it showed before and
whichever verb runs. -/
lemma bindReader_shows (hs : Seated s) (hr : Settled s.client.registry) (hav : s.available = true)
    (hc : s.client.registry.cards c = some card) :
    ShowsCard s (s.bindReader h card.readerId) card.readerId c := by
  obtain ⟨x, hx, hid, hxc, honly⟩ := hr.exists_reader hc
  have hreader : s.client.registry.reader card.readerId = some x := hid ▸ hr.reader_eq hx
  have hne : card.readerId ≠ [] := hid ▸ hr.named x hx
  -- The card bound is the one asked for as soon as the readers are the same.
  have hsame : ∀ d, s.card = some d → (s.resolvedReaderId = card.readerId ↔ d = c) := by
    intro d hd
    obtain ⟨card', hcard'⟩ := Option.isSome_iff_exists.1 (hs.wired.seated d hd)
    rw [← hs.sits d card' hd hcard']
    refine ⟨fun heq => ?_, fun heq => ?_⟩
    · obtain ⟨y, hy, hyid, hyd, -⟩ := hr.exists_reader hcard'
      exact Option.some.inj (hyd.symm.trans (honly y hy (hyid.trans heq)))
    · subst heq
      rw [hc] at hcard'
      rw [Option.some.inj hcard']
  rcases bindReader_cases (h := h) hs.wired hav card.readerId with
    ⟨hrun, hpinned, heq⟩ | ⟨hfree, u, hm, hregistry, hid', hav', heq, habandoned⟩
  · obtain ⟨i, hi⟩ := Option.ne_none_iff_exists'.1 hrun
    have hbound := (hs.wired.mutation i hi).2.2
    have hcard : s.card = some c := by
      rw [hbound, (hsame _ hbound).1 hpinned.symm]
    rw [heq]
    exact ⟨hcard, rfl, hpinned.symm, fun _ => ⟨rfl, fun _ _ => rfl⟩,
      fun hother => absurd hcard hother⟩
  · have hbound : u.boundReader = some x := by
      rw [Controller.boundReader, hid', if_neg hne, hregistry, hreader]
    obtain ⟨hcard, hreaderId, hresolved, hnone⟩ := refresh_shows (h := h) hm hav' hbound hxc
    rw [heq]
    refine ⟨hcard, hreaderId.trans hid', hresolved.trans hid, fun hsc => ?_,
      fun _ => ⟨hnone, habandoned⟩⟩
    -- Asked for the reader it is on, a verb would have been pinned: none runs.
    have hidle : s.mutationOp = none :=
      hfree.resolve_right fun hother => hother ((hsame c hsc).2 rfl).symm
    rw [hnone, hidle]
    exact ⟨rfl, fun i hi => (by cases hi)⟩

/-- The flag in front of an id, with or without the program in front of it. -/
lemma firstLaunch_eq (id : QString) : s.firstLaunch h [readerFlag, id] = s.bindReader h id := by
  simp [Controller.firstLaunch, readerOption]

lemma activateRequested_eq {program : QString} (hprogram : program ≠ readerFlag) :
    s.activateRequested h [program, readerFlag, id] = s.bindReader h id := by
  simp [Controller.activateRequested, hprogram]

end Shows

end LibreKDE.Credentials
