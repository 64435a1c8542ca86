import LibreKDE.AgentClient.Sharing
import LibreKDE.Plasmoid.SignIsolation

/-!
# A widget that shares its client does what it would do alone

`u.onto p` is the widget `u` with operations of its own (`Private`) in the place of those of the
client it shares, and `Fits own u p` says that the two are the same but for the numbers of the
operations: the widget minted `own` of those of the shared client.

A method `f` *plays* when it does the same to both (`Plays`): the two fit again, what was minted
on the way has become the widget's, and nothing that belongs to anybody else was touched.  The
methods of a widget are put together from a few calls, and so are the proofs that they play:
`Plays.aside`, `Plays.comp`, `Plays.of_cases`, and one lemma for each call that reaches the client.
-/

namespace LibreKDE.Plasmoid

open CardReads
open Client (SamePointer Shares)

variable {h : PlasmoidHost}

namespace CardReads

variable {k k' : Client} {own : List ℕ} {q q' : Option ℕ} {i : ℕ}

/-- A host that drops an operation of its own drops the same one in both clients. -/
lemma shares_drop (hk : Shares own k k') (hq : SamePointer own q q') :
    Shares own (drop k q) (drop k' q') := by
  cases hq with
  | none => exact hk
  | some hj => exact ((hk.disconnect hj).cancel hj).deleteLater hj

lemma drop_ops_of_not_mem (hq : SamePointer own q q') (hi : i ∉ own) :
    (drop k q).ops i = k.ops i := by
  cases hq with
  | none => rfl
  | @some j j' hj =>
      have hne : i ≠ j := by
        rintro rfl
        exact hi (List.mem_of_getElem? hj)
      rw [drop, Client.deleteLater_ops_of_ne _ hne, Client.cancel_ops_of_ne _ hne,
        Client.disconnect_ops_of_ne _ hne]

/-- An operation that ended is deleted. -/
def reap (k : Client) (op : Option ℕ) : Client := op.elim k k.deleteLater

lemma reap_registry (k : Client) (op : Option ℕ) : (reap k op).registry = k.registry := by
  cases op <;> rfl

lemma reap_minted (k : Client) (op : Option ℕ) : (reap k op).minted = k.minted := by
  cases op <;> rfl

lemma reap_eq (k : Client) (op : Option ℕ) :
    reap k op = { registry := k.registry, minted := k.minted, ops := (reap k op).ops } :=
  Client.eq_of_parts (reap_registry k op) (reap_minted k op)

lemma shares_reap (hk : Shares own k k') (hq : SamePointer own q q') :
    Shares own (reap k q) (reap k' q') := by
  cases hq with
  | none => exact hk
  | some hj => exact hk.deleteLater hj

lemma reap_ops_of_not_mem (hq : SamePointer own q q') (hi : i ∉ own) :
    (reap k q).ops i = k.ops i := by
  cases hq with
  | none => rfl
  | @some j j' hj =>
      refine Client.deleteLater_ops_of_ne _ ?_
      rintro rfl
      exact hi (List.mem_of_getElem? hj)

end CardReads

/-- What a widget that has its client to itself has of its own. -/
structure Private where
  minted : ℕ
  ops : ℕ → Operation
  identityOp : Option ℕ
  photoOp : Option ℕ
  photoStore : CardPhotoStore

namespace SmartCardHandler

/-- The widget, over operations and a photo store of its own. -/
def onto (u : SmartCardHandler) (p : Private) : SmartCardHandler :=
  { u with
    client := { registry := u.client.registry, minted := p.minted, ops := p.ops }
    identityOp := p.identityOp
    photoOp := p.photoOp
    photoStore := p.photoStore }

/-- Alone, the widget `u` would have `p` in the place of its operations `own`. -/
structure Fits (own : List ℕ) (u : SmartCardHandler) (p : Private) : Prop where
  client : u.client.Shares own (u.onto p).client
  identityOp : SamePointer own u.identityOp p.identityOp
  photoOp : SamePointer own u.photoOp p.photoOp
  image : p.photoStore.images u.photoSlot = u.photoStore.images u.photoSlot

/-- `s` is what the widget `u`, whose operations are `own`, would be alone. -/
def Mirrors (own : List ℕ) (u s : SmartCardHandler) : Prop := ∃ p, s = u.onto p ∧ Fits own u p

/-- From `u` to `u'` a widget worked with its own operations, and alone it would have become
`s'`. -/
structure InStep (own : List ℕ) (u u' s' : SmartCardHandler) : Prop where
  minted : u.client.minted ≤ u'.client.minted
  registry : u'.client.registry = u.client.registry
  slot : u'.photoSlot = u.photoSlot
  mirrors : Mirrors (own ++ u.client.mintedSince u'.client) u' s'
  /-- Nobody else's operation is touched. -/
  frame : ∀ i < u.client.minted, i ∉ own → u'.client.ops i = u.client.ops i
  /-- Nor is anybody else's photo. -/
  images : ∀ slot ≠ u.photoSlot, u'.photoStore.images slot = u.photoStore.images slot

/-- The method does to a widget what it would do to it alone. -/
def Plays (f : SmartCardHandler → SmartCardHandler) : Prop :=
  ∀ own u p, Fits own u p → InStep own u (f u) (f (u.onto p))

/-- The widget's own part is left as it is. -/
structure KeepsOwn (u u' : SmartCardHandler) : Prop where
  client : u'.client = u.client
  identityOp : u'.identityOp = u.identityOp
  photoOp : u'.photoOp = u.photoOp
  photoSlot : u'.photoSlot = u.photoSlot
  photoStore : u'.photoStore = u.photoStore

/-- The widget when `bindCard` went past its short circuit. -/
def rebound (c : Option CardRef) (u : SmartCardHandler) : SmartCardHandler :=
  { u with
    toCardReads := u.rebind c
    busy := if u.identityOp.isSome then false else u.busy }

lemma rebound_eq (c : Option CardRef) (u : SmartCardHandler) :
    u.rebound c = { u with
      client := drop (drop u.client u.identityOp) u.photoOp
      card := c
      identityOp := none
      photoOp := none
      identityRead := false
      identity := .empty
      photo := .empty
      photoStore := u.photoStore.clear u.photoSlot
      busy := if u.identityOp.isSome then false else u.busy } := by
  rw [rebound, rebind_eq]

variable {own : List ℕ} {u : SmartCardHandler} {p : Private}
  {f g : SmartCardHandler → SmartCardHandler}

lemma Fits.congr {u' : SmartCardHandler} (hp : Fits own u p) (hk : KeepsOwn u u') :
    Fits own u' p where
  client := by
    have hclient := hp.client
    simp only [onto, hk.client] at hclient ⊢
    exact hclient
  identityOp := hk.identityOp ▸ hp.identityOp
  photoOp := hk.photoOp ▸ hp.photoOp
  image := by rw [hk.photoSlot, hk.photoStore, hp.image]

/-- One method after what was done before. -/
lemma InStep.andThen {u' s' : SmartCardHandler} (hfirst : InStep own u u' s') (hg : Plays g) :
    InStep own u (g u') (g s') := by
  obtain ⟨p', rfl, hp'⟩ := hfirst.mirrors
  have hsecond := hg _ u' p' hp'
  refine ⟨hfirst.minted.trans hsecond.minted, hsecond.registry.trans hfirst.registry,
    hsecond.slot.trans hfirst.slot, ?_, ?_, ?_⟩
  · have hmirrors := hsecond.mirrors
    rwa [List.append_assoc, Client.mintedSince_trans hfirst.minted hsecond.minted] at hmirrors
  · intro i hi hown
    rw [hsecond.frame i (hi.trans_le hfirst.minted), hfirst.frame i hi hown]
    rw [List.mem_append, Client.mem_mintedSince hfirst.minted]
    exact fun hmem => hmem.elim hown fun hnew => absurd hi (not_lt_of_ge hnew.1)
  · intro slot hslot
    rw [hsecond.images slot (hfirst.slot ▸ hslot), hfirst.images slot hslot]

/-- A step in which nothing is minted. -/
lemma InStep.of_fits {u' : SmartCardHandler} {p' : Private} (hp' : Fits own u' p')
    (hn : u'.client.minted = u.client.minted) (hr : u'.client.registry = u.client.registry)
    (hslot : u'.photoSlot = u.photoSlot) (hframe : ∀ i ∉ own, u'.client.ops i = u.client.ops i)
    (himages : ∀ slot ≠ u.photoSlot, u'.photoStore.images slot = u.photoStore.images slot) :
    InStep own u u' (u'.onto p') where
  minted := hn.ge
  registry := hr
  slot := hslot
  mirrors := by
    rw [Client.mintedSince_of_eq hn, List.append_nil]
    exact ⟨p', rfl, hp'⟩
  frame i _ hi := hframe i hi
  images := himages

/-- A step in which one operation is minted. -/
lemma InStep.mint {u' : SmartCardHandler} {c : CardRef} {q : Request} {a b : Option ℕ}
    (hp : Fits own u p) (hclient : u'.client = u.client.mint c q)
    (hslot : u'.photoSlot = u.photoSlot) (hstore : u'.photoStore = u.photoStore)
    (ha : SamePointer (own ++ [u.client.minted]) u'.identityOp a)
    (hb : SamePointer (own ++ [u.client.minted]) u'.photoOp b) :
    InStep own u u' (u'.onto
      ⟨p.minted + 1, ((u.onto p).client.mint c q).ops, a, b, p.photoStore⟩) where
  minted := by simp [hclient]
  registry := by simp [hclient]
  slot := hslot
  mirrors := by
    refine ⟨_, rfl, ?_, ?_, ?_, ?_⟩
    · rw [hclient, Client.mintedSince_mint]
      have hminted := hp.client.mint c q
      simp only [onto, hclient]
      exact hminted
    · rw [hclient, Client.mintedSince_mint]
      exact ha
    · rw [hclient, Client.mintedSince_mint]
      exact hb
    · rw [hslot, hstore, hp.image]
  frame i hi _ := by rw [hclient, Client.mint_ops_of_lt hi]
  images slot _ := by rw [hstore]

/-- A step in which an operation that ended is deleted. -/
lemma InStep.reap {u' : SmartCardHandler} {q q' a b : Option ℕ} (hp : Fits own u p)
    (hq : SamePointer own q q') (hclient : u'.client = reap u.client q)
    (hslot : u'.photoSlot = u.photoSlot) (hstore : u'.photoStore = u.photoStore)
    (ha : SamePointer own u'.identityOp a) (hb : SamePointer own u'.photoOp b) :
    InStep own u u' (u'.onto
      ⟨p.minted, (CardReads.reap (u.onto p).client q').ops, a, b, p.photoStore⟩) := by
  have hr : u'.client.registry = u.client.registry := by rw [hclient, reap_registry]
  have hreaped := shares_reap hp.client hq
  refine .of_fits ⟨?_, ha, hb, ?_⟩ ?_ hr hslot ?_ ?_
  · rw [hclient]
    exact { hreaped with registry := by simp [onto, hr, reap_registry], minted := hp.client.minted }
  · rw [hslot, hstore, hp.image]
  · rw [hclient, reap_minted]
  · intro i hi
    rw [hclient]
    exact reap_ops_of_not_mem hq hi
  · intro slot _
    rw [hstore]

lemma rebound_onto (c : Option CardRef) (hop : p.identityOp.isSome = u.identityOp.isSome) :
    (u.onto p).rebound c = (u.rebound c).onto
      ⟨p.minted, (drop (drop (u.onto p).client p.identityOp) p.photoOp).ops, none, none,
        p.photoStore.clear u.photoSlot⟩ := by
  have hclient : drop (drop (u.onto p).client p.identityOp) p.photoOp =
      { registry := (drop (drop u.client u.identityOp) u.photoOp).registry
        minted := p.minted
        ops := (drop (drop (u.onto p).client p.identityOp) p.photoOp).ops } :=
    Client.eq_of_parts (by simp [onto]) (by simp [onto])
  have hbusy : (u.onto p).identityOp.isSome = u.identityOp.isSome := hop
  rw [rebound_eq, rebound_eq, hbusy]
  unfold onto at hclient ⊢
  dsimp only at hclient ⊢
  rw [hclient]

/-- What a refresh does, past the rosters, where no reader is picked. -/
def withoutCard (h : PlasmoidHost) (s : SmartCardHandler) : SmartCardHandler :=
  let s := (s.bindCard none).updatePinManagementAvailable
  publishSignSurfaces { s with
    readerName := s.boundReaderName
    cardLabel := []
    errorMessage := []
    cardDetected := computeCardDetected h.chars s.client.registry s.boundReaderName
    identityRead := false
    state := .noCard }

/-- And where one is. -/
def withReader (h : PlasmoidHost) (reader : AgentReader) (s : SmartCardHandler) :
    SmartCardHandler :=
  publishSignSurfaces (({ s with cardDetected := false, readerName := reader.name }.bindCard
    reader.card).classifyActiveCard h)

lemma refresh_of_none (havail : u.client.registry.available = true)
    (hpick : pickActiveReader h.chars u.client.registry u.boundReaderName u.selectedReaderName =
      none) : u.refresh h = (u.updateReaderRosters h).withoutCard h := by
  unfold refresh
  rw [if_neg (not_not.2 havail)]
  dsimp only
  split
  · rfl
  · next hsome => exact nomatch hpick.symm.trans hsome

lemma refresh_of_some {reader : AgentReader} (havail : u.client.registry.available = true)
    (hpick : pickActiveReader h.chars u.client.registry u.boundReaderName u.selectedReaderName =
      some reader) : u.refresh h = (u.updateReaderRosters h).withReader h reader := by
  unfold refresh
  rw [if_neg (not_not.2 havail)]
  dsimp only
  split
  · next hnone => exact nomatch hpick.symm.trans hnone
  · next reader' hsome =>
      obtain rfl : reader = reader' := Option.some.inj (hpick.symm.trans hsome)
      rfl

/-- The rest of `classifyActiveCard`, once the sheet has been weighed. -/
def classifyBound (h : PlasmoidHost) (s : SmartCardHandler) : SmartCardHandler :=
  match s.boundCard with
  | none => { s with state := .noCard }
  | some c =>
      let s := s.classify h c
      if s.viewActive then s.ensureFreeRead else s

lemma classifyActiveCard_classifyBound (s : SmartCardHandler) :
    s.classifyActiveCard h = s.updatePinManagementAvailable.classifyBound h :=
  rfl

namespace Plays

/-- A method that leaves the widget's own part alone. -/
lemma aside (hcomm : ∀ u p, f (u.onto p) = (f u).onto p) (hkeeps : ∀ u, KeepsOwn u (f u)) :
    Plays f := by
  intro own u p hp
  have hk := hkeeps u
  rw [hcomm]
  exact .of_fits (hp.congr hk) (by rw [hk.client]) (by rw [hk.client]) hk.photoSlot
    (fun i _ => by rw [hk.client]) fun slot _ => by rw [hk.photoStore]

protected lemma id : Plays fun u => u :=
  aside (fun _ _ => rfl) fun _ => ⟨rfl, rfl, rfl, rfl, rfl⟩

/-- One method after the other. -/
lemma comp (hg : Plays g) (hf : Plays f) : Plays fun u => g (f u) :=
  fun own u p hp => (hf own u p hp).andThen hg

/-- A method that goes on by what both widgets have in common. -/
lemma of_cases (hf : ∀ u, ∃ g, Plays g ∧ f u = g u ∧
    ∀ own p, Fits own u p → f (u.onto p) = g (u.onto p)) : Plays f := by
  intro own u p hp
  obtain ⟨g, hg, heq, heq'⟩ := hf u
  rw [heq, heq' own p hp]
  exact hg own u p hp

lemma ite {c : SmartCardHandler → Prop} [DecidablePred c] (hc : ∀ u p, c (u.onto p) ↔ c u)
    (hf : Plays f) (hg : Plays g) : Plays fun u => if c u then f u else g u := by
  refine of_cases fun u => ?_
  by_cases hu : c u
  · exact ⟨f, hf, if_pos hu, fun _ p _ => if_pos ((hc u p).2 hu)⟩
  · exact ⟨g, hg, if_neg hu, fun _ p _ => if_neg (mt (hc u p).1 hu)⟩

/-! ### The sign surfaces, the rosters and the binding -/

lemma publishSignSurfaces : Plays publishSignSurfaces :=
  aside (fun _ _ => rfl) fun _ => ⟨rfl, rfl, rfl, rfl, rfl⟩

lemma updateReaderRosters : Plays (updateReaderRosters h) :=
  aside (fun _ _ => rfl) fun _ => ⟨rfl, rfl, rfl, rfl, rfl⟩

lemma updatePinManagementAvailable : Plays updatePinManagementAvailable :=
  aside (fun _ _ => rfl) fun _ => ⟨rfl, rfl, rfl, rfl, rfl⟩

/-- The bound card is let go of: both reads are dropped, and what they brought is scrubbed. -/
lemma rebound (c : Option CardRef) : Plays (rebound c) := by
  intro own u p hp
  have hdropped : Shares own (drop (drop u.client u.identityOp) u.photoOp)
      (drop (drop (u.onto p).client p.identityOp) p.photoOp) :=
    shares_drop (shares_drop hp.client hp.identityOp) hp.photoOp
  rw [rebound_onto c hp.identityOp.isSome, u.rebound_eq c]
  refine .of_fits ⟨?_, .none, .none, by simp⟩ (by simp) (by simp) rfl ?_ ?_
  · exact { hdropped with registry := rfl, minted := hp.client.minted }
  · intro i hi
    exact (drop_ops_of_not_mem hp.photoOp hi).trans (drop_ops_of_not_mem hp.identityOp hi)
  · intro slot hslot
    simp [CardPhotoStore.clear, Function.update_of_ne hslot]

lemma bindCard (c : Option CardRef) : Plays fun u => u.bindCard c :=
  .ite (fun _ _ => Iff.rfl) .id (rebound c)

/-! ### Reads that start -/

lemma readIdentity : Plays readIdentity := by
  intro own u p hp
  have hop : (u.onto p).identityOp.isSome = u.identityOp.isSome := hp.identityOp.isSome
  cases hc : u.card with
  | none =>
      have hc' : (u.onto p).card = none := hc
      rw [SmartCardHandler.readIdentity, SmartCardHandler.readIdentity, hc, hc']
      exact Plays.id own u p hp
  | some c =>
      have hc' : (u.onto p).card = some c := hc
      rw [SmartCardHandler.readIdentity, SmartCardHandler.readIdentity, hc, hc']
      dsimp only
      rw [hop]
      split_ifs
      · exact Plays.id own u p hp
      · have hlast := SamePointer.last own u.client.minted
        rw [← hp.client.minted] at hlast
        exact .mint hp rfl rfl rfl hlast (hp.photoOp.append _)

/-- The photo read that follows an identity read. -/
lemma startPhotoRead : Plays fun u => { u with toCardReads := u.startPhotoRead } := by
  intro own u p hp
  have hop : (u.onto p).photoOp.isSome = u.photoOp.isSome := hp.photoOp.isSome
  have hlast := SamePointer.last own u.client.minted
  rw [← hp.client.minted] at hlast
  unfold CardReads.startPhotoRead
  cases hc : u.card with
  | none =>
      have hc' : (u.onto p).card = none := hc
      simp only [hc, hc']
      exact Plays.id own u p hp
  | some c =>
      have hc' : (u.onto p).card = some c := hc
      simp only [hc, hc', hop]
      split_ifs
      · exact Plays.id own u p hp
      · exact .mint hp rfl rfl rfl (hp.identityOp.append _) hlast

lemma ensureFreeRead : Plays ensureFreeRead := by
  refine .ite (fun _ _ => Iff.rfl) .id (.of_cases fun u => ?_)
  by_cases hguard : u.unlockRequired ∨ u.identityRead ∨ u.identityOp.isSome
  · refine ⟨_, .id, if_pos hguard, fun own p hp => if_pos ?_⟩
    have hop : (u.onto p).identityOp.isSome = u.identityOp.isSome := hp.identityOp.isSome
    rw [hop]
    exact hguard
  · refine ⟨_, .ite (c := fun u => u.state ≠ .identityOnly ∧ u.state ≠ .hybrid)
      (fun _ _ => Iff.rfl) .id readIdentity, if_neg hguard, fun own p hp => if_neg ?_⟩
    have hop : (u.onto p).identityOp.isSome = u.identityOp.isSome := hp.identityOp.isSome
    rw [hop]
    exact hguard

/-! ### Classifying and refreshing -/

lemma classify (c : AgentCard) : Plays fun u => u.classify h c :=
  aside (fun _ _ => rfl) fun _ => ⟨rfl, rfl, rfl, rfl, rfl⟩

lemma classifyBound : Plays (classifyBound h) := by
  refine .of_cases fun u => ?_
  cases hc : u.boundCard with
  | none =>
      refine ⟨fun s => { s with state := .noCard }, ?_, ?_, fun own p _ => ?_⟩
      · exact aside (fun _ _ => rfl) fun _ => ⟨rfl, rfl, rfl, rfl, rfl⟩
      · rw [SmartCardHandler.classifyBound, hc]
      · have hc' : (u.onto p).boundCard = none := hc
        rw [SmartCardHandler.classifyBound, hc']
  | some c =>
      have hfree : Plays fun s => if s.viewActive then s.ensureFreeRead else s :=
        .ite (fun _ _ => Iff.rfl) ensureFreeRead .id
      refine ⟨_, hfree.comp (classify (h := h) c), ?_, fun own p _ => ?_⟩
      · rw [SmartCardHandler.classifyBound, hc]
      · have hc' : (u.onto p).boundCard = some c := hc
        rw [SmartCardHandler.classifyBound, hc']

lemma classifyActiveCard : Plays (classifyActiveCard h) := by
  have hweighed := (classifyBound (h := h)).comp updatePinManagementAvailable
  refine .of_cases fun u => ⟨_, hweighed, ?_, ?_⟩
  · exact u.classifyActiveCard_classifyBound
  · exact fun own p _ => (u.onto p).classifyActiveCard_classifyBound

lemma withoutCard : Plays (withoutCard h) := by
  have hblank : Plays fun s => { s with
      readerName := s.boundReaderName
      cardLabel := []
      errorMessage := []
      cardDetected := computeCardDetected h.chars s.client.registry s.boundReaderName
      identityRead := false
      state := .noCard } :=
    aside (fun _ _ => rfl) fun _ => ⟨rfl, rfl, rfl, rfl, rfl⟩
  exact publishSignSurfaces.comp
    (hblank.comp (updatePinManagementAvailable.comp (bindCard none)))

lemma withReader (reader : AgentReader) : Plays (withReader h reader) := by
  have hnamed : Plays fun s => { s with cardDetected := false, readerName := reader.name } :=
    aside (fun _ _ => rfl) fun _ => ⟨rfl, rfl, rfl, rfl, rfl⟩
  exact publishSignSurfaces.comp (classifyActiveCard.comp ((bindCard reader.card).comp hnamed))

lemma refresh : Plays (refresh h) := by
  have hrosters := updateReaderRosters (h := h)
  refine .of_cases fun u => ?_
  by_cases havail : u.client.registry.available = true
  · cases hpick : pickActiveReader h.chars u.client.registry u.boundReaderName
        u.selectedReaderName with
    | none =>
        refine ⟨_, withoutCard.comp hrosters, refresh_of_none havail hpick, fun own p _ => ?_⟩
        exact (refresh_of_none (u := u.onto p) havail hpick)
    | some reader =>
        refine ⟨_, (withReader reader).comp hrosters, refresh_of_some havail hpick,
          fun own p _ => ?_⟩
        exact (refresh_of_some (u := u.onto p) havail hpick)
  · have hblank : Plays fun s => { s with
        readerName := []
        cardLabel := []
        errorMessage := []
        cardDetected := false
        identityRead := false
        agentInstalled := s.client.registry.agentState ≠ .missing
        state := .agentUnavailable } :=
      aside (fun _ _ => rfl) fun _ => ⟨rfl, rfl, rfl, rfl, rfl⟩
    exact ⟨_, publishSignSurfaces.comp (hblank.comp (updatePinManagementAvailable.comp
      ((bindCard none).comp hrosters))), if_pos havail, fun own p _ => if_pos havail⟩

lemma of_aside (hf : ∀ u, Beside u (f u)) (hcomm : ∀ u p, f (u.onto p) = (f u).onto p) : Plays f :=
  aside hcomm fun u => by
    have hreads := (hf u).reads
    exact ⟨by rw [hreads], by rw [hreads], by rw [hreads], by rw [hreads], by rw [hreads]⟩

/-! ### What the user does -/

lemma setBoundReaderName (name : QString) : Plays fun u => u.setBoundReaderName h name := by
  have hbound : Plays fun u => { u with boundReaderName := name, selectedReaderName := [] } :=
    aside (fun _ _ => rfl) fun _ => ⟨rfl, rfl, rfl, rfl, rfl⟩
  exact .ite (fun _ _ => Iff.rfl) .id (refresh.comp hbound)

lemma selectReader (friendlyName : QString) : Plays fun u => u.selectReader h friendlyName := by
  have hselected : Plays fun u => { u with selectedReaderName := friendlyName } :=
    aside (fun _ _ => rfl) fun _ => ⟨rfl, rfl, rfl, rfl, rfl⟩
  exact .ite (fun _ _ => Iff.rfl) .id (.ite (fun _ _ => Iff.rfl) .id (refresh.comp hselected))

lemma setViewActive (active : Bool) : Plays fun u => u.setViewActive active := by
  have hview : Plays fun u => { u with viewActive := active } :=
    aside (fun _ _ => rfl) fun _ => ⟨rfl, rfl, rfl, rfl, rfl⟩
  refine .ite (fun _ _ => Iff.rfl) .id ?_
  cases active with
  | true => exact ensureFreeRead.comp hview
  | false => exact hview

lemma openInFiles : Plays openInFiles := by
  refine .ite (fun _ _ => Iff.rfl) .id (.of_cases fun u => ?_)
  cases hc : u.card with
  | none =>
      refine ⟨_, .id, ?_, fun own p _ => ?_⟩
      · rw [warmCertificateCache, hc]
      · have hc' : (u.onto p).card = none := hc
        rw [warmCertificateCache, hc']
  | some c =>
      have hwarm : Plays fun s => { s with warmed := s.warmed ++ [c] } :=
        aside (fun _ _ => rfl) fun _ => ⟨rfl, rfl, rfl, rfl, rfl⟩
      refine ⟨_, .ite (c := fun s => s.unlockRequired) (fun _ _ => Iff.rfl) .id hwarm, ?_,
        fun own p _ => ?_⟩
      · rw [warmCertificateCache, hc]
      · have hc' : (u.onto p).card = some c := hc
        rw [warmCertificateCache, hc']

lemma startAgent : Plays startAgent := by
  refine .ite (fun _ _ => Iff.rfl) .id ?_
  exact aside (fun _ _ => rfl) fun _ => ⟨rfl, rfl, rfl, rfl, rfl⟩

lemma onAgentStartFinished (result : AgentStartResult) :
    Plays fun u => u.onAgentStartFinished h result := by
  have hanswered : Plays fun u =>
      { u with agentStarting := false, agentStartFailed := result = .failed } :=
    aside (fun _ _ => rfl) fun _ => ⟨rfl, rfl, rfl, rfl, rfl⟩
  exact .ite (fun _ _ => Iff.rfl) .id (refresh.comp hanswered)

lemma cardChanged (c : CardRef) : Plays fun u => u.cardChanged h c :=
  .ite (fun _ _ => Iff.rfl) classifyActiveCard .id

/-! ### Signs -/

lemma onSucceeded (j : ℕ) (path level : QString) : Plays fun u => u.onSucceeded j path level :=
  of_aside (fun u => .onSucceeded u j path level) fun _ _ => rfl

lemma onFailed (j : ℕ) (message : QString) : Plays fun u => u.onFailed j message :=
  of_aside (fun u => .onFailed u j message) fun _ _ => rfl

lemma onPhaseChanged (j : ℕ) (phase : OperationPhase) :
    Plays fun u => u.onPhaseChanged j phase := by
  refine of_aside (fun u => .onPhaseChanged u j phase) fun u p => ?_
  have hentry : (u.onto p).signStates ((u.onto p).jobs j).reader = u.signStates (u.jobs j).reader :=
    rfl
  unfold SmartCardHandler.onPhaseChanged
  dsimp only
  rw [hentry]
  split <;> rfl

lemma pickFirstCert (j : ℕ) (cands : List CertificateInfo) :
    Plays fun u => u.pickFirstCert j cands :=
  of_aside (fun u => .pickFirstCert u j cands) fun u p => by cases cands <;> rfl

lemma dismissSignResult : Plays dismissSignResult := by
  refine of_aside Beside.dismissSignResult fun u p => ?_
  have hentry : (u.onto p).signStates (u.onto p).readerName = u.signStates u.readerName := rfl
  unfold SmartCardHandler.dismissSignResult
  rw [hentry]
  cases u.signStates u.readerName with
  | none => rfl
  | some e =>
      dsimp only
      split_ifs <;> rfl

/-- What a job reports before its `start` returns does not depend on the operations. -/
lemma startSignals_onto (u : SmartCardHandler) (p : Private) (inputPath : QString) :
    (u.onto p).startSignals h inputPath = u.startSignals h inputPath := by
  show (Signing.SignJob.start h.toSignHost
      { client := (u.onto p).client, card := u.card, inputPath := inputPath }).signals = _
  unfold startSignals Signing.SignJob.start
  cases u.card with
  | none => rfl
  | some c =>
      have hpki : ((u.onto p).client.registry.cards c).any (fun card => card.capabilities.pki) =
          (u.client.registry.cards c).any (fun card => card.capabilities.pki) := rfl
      dsimp only
      rw [hpki]
      split_ifs
      · unfold Signing.SignJob.startOn
        dsimp only [Signing.SignJob.resolveChoice, Signing.SignJob.mime]
        split
        · next hnone =>
            rw [hnone]
            rfl
        · next options hsome =>
            rw [hsome]
      · rfl

lemma failsAtOnce_onto (u : SmartCardHandler) (p : Private) (fileUrl : QString) :
    (u.onto p).failsAtOnce h fileUrl = u.failsAtOnce h fileUrl := by
  unfold failsAtOnce
  rw [startSignals_onto]

lemma signFile (fileUrl : QString) : Plays fun u => u.signFile h fileUrl := by
  have hstarted : Plays signStarted := aside (fun _ _ => rfl) fun _ => ⟨rfl, rfl, rfl, rfl, rfl⟩
  have hfailed : ∀ message, Plays fun u => u.signStarted.onFailed u.jobsStarted message :=
    fun message => aside (fun _ _ => rfl) fun _ => ⟨rfl, rfl, rfl, rfl, rfl⟩
  simp only [signFile_eq]
  refine .ite (fun _ _ => Iff.rfl) .id (.of_cases fun u => ?_)
  cases hfails : u.failsAtOnce h fileUrl with
  | none => exact ⟨_, hstarted, rfl, fun own p _ => by rw [failsAtOnce_onto, hfails]⟩
  | some message =>
      exact ⟨_, hfailed message, rfl, fun own p _ => by rw [failsAtOnce_onto, hfails]⟩

/-! ### Photos -/

/-- A method that changes the widget's own photo. -/
lemma photo (change : CardPhotoStore → ℕ → CardPhotoStore)
    (hcomm : ∀ u p,
      f (u.onto p) = (f u).onto { p with photoStore := change p.photoStore u.photoSlot })
    (hself : ∀ (store store' : CardPhotoStore) slot,
      (change store slot).images slot = (change store' slot).images slot)
    (hother : ∀ (store : CardPhotoStore) slot slot', slot' ≠ slot →
      (change store slot).images slot' = store.images slot')
    (hkeeps : ∀ u, KeepsOwn u { f u with photoStore := u.photoStore })
    (hstore : ∀ u, (f u).photoStore = change u.photoStore u.photoSlot) : Plays f := by
  intro own u p hp
  have hk := hkeeps u
  have hclient : (f u).client = u.client := hk.client
  have hslot : (f u).photoSlot = u.photoSlot := hk.photoSlot
  have hfits := hp.congr hk
  rw [hcomm]
  refine .of_fits ⟨hfits.client, hfits.identityOp, hfits.photoOp, ?_⟩ (by rw [hclient])
    (by rw [hclient]) hslot (fun i _ => by rw [hclient]) fun slot hne => ?_
  · rw [hslot, hstore]
    exact hself _ _ _
  · rw [hstore]
    exact hother _ _ _ hne

lemma setPhoto (bytes : QByteArray) (image : QImage) :
    Plays fun u => { u with toCardReads := u.setPhoto h bytes image } :=
  photo (fun store slot => store.setImage slot image) (fun _ _ => rfl) (by simp)
    (fun store slot slot' hne => Function.update_of_ne hne _ _)
    (fun _ => ⟨rfl, rfl, rfl, rfl, rfl⟩) fun _ => rfl

lemma destroy : Plays destroy :=
  photo (fun store slot => store.clear slot) (fun _ _ => rfl) (by simp)
    (fun store slot slot' hne => Function.update_of_ne hne _ _)
    (fun _ => ⟨rfl, rfl, rfl, rfl, rfl⟩) fun _ => rfl

end Plays

/-! ## Terminals -/

/-- The identity read is not in flight any more. -/
def identityReaped (u : SmartCardHandler) : SmartCardHandler :=
  { u with identityOp := none, busy := false, client := reap u.client u.identityOp }

/-- What follows, by the terminal. -/
def identityEndedBy (h : PlasmoidHost) (t : Terminal) (u : SmartCardHandler) : SmartCardHandler :=
  if t.status = .cancelled ∧ t.errorCode = .none ∧ t.callError = .none then
    classifyActiveCard h { u with errorMessage := [] }
  else if t.status ≠ .ok then
    { u with
      errorMessage := ErrorText.forOutcome h.toHost t.errorCode t.callError t.messageKey
        t.messageFallback
      state := .error }
  else
    let u := classifyActiveCard h { u with
      identityRead := true
      identity := .rebuild h.rules h.chars t.identityResult }
    { u with toCardReads := u.startPhotoRead }

lemma onOperationFinished_eq (u : SmartCardHandler) (t : Terminal) :
    u.onOperationFinished h t =
      if u.identityOp = none then u.identityReaped else u.identityReaped.identityEndedBy h t := by
  unfold onOperationFinished identityReaped
  cases u.identityOp with
  | none => rfl
  | some i => rfl

/-- The photo read is not in flight any more. -/
def photoReaped (u : SmartCardHandler) : SmartCardHandler :=
  { u with photoOp := none, client := reap u.client u.photoOp }

/-- What follows, by the terminal. -/
def photoEndedBy (h : PlasmoidHost) (t : Terminal) (u : SmartCardHandler) : SmartCardHandler :=
  if t.status ≠ .ok then u
  else
    match photoOf h t with
    | none => u
    | some (bytes, image) => { u with toCardReads := u.setPhoto h bytes image }

lemma onPhotoFinished_eq (u : SmartCardHandler) (t : Terminal) :
    { u with toCardReads := u.onPhotoFinished h t } =
      if u.photoOp = none then u else u.photoReaped.photoEndedBy h t := by
  unfold CardReads.onPhotoFinished photoReaped photoEndedBy
  cases u.photoOp with
  | none => rfl
  | some i =>
      rw [if_neg (Option.some_ne_none i)]
      dsimp only
      split_ifs
      · rfl
      · cases photoOf h t with
        | none => rfl
        | some brought => rfl

namespace Plays

lemma identityReaped : Plays identityReaped := by
  intro own u p hp
  have hover : (u.onto p).identityReaped = u.identityReaped.onto
      ⟨p.minted, (reap (u.onto p).client p.identityOp).ops, none, p.photoOp, p.photoStore⟩ := by
    have hclient := reap_eq (u.onto p).client p.identityOp
    unfold SmartCardHandler.identityReaped
    simp only [onto, reap_registry] at hclient ⊢
    rw [hclient]
  rw [hover]
  exact .reap hp hp.identityOp rfl rfl rfl .none hp.photoOp

lemma photoReaped : Plays photoReaped := by
  intro own u p hp
  have hover : (u.onto p).photoReaped = u.photoReaped.onto
      ⟨p.minted, (reap (u.onto p).client p.photoOp).ops, p.identityOp, none, p.photoStore⟩ := by
    have hclient := reap_eq (u.onto p).client p.photoOp
    unfold SmartCardHandler.photoReaped
    simp only [onto, reap_registry] at hclient ⊢
    rw [hclient]
  rw [hover]
  exact .reap hp hp.photoOp rfl rfl rfl hp.identityOp .none

lemma identityEndedBy (t : Terminal) : Plays (identityEndedBy h t) := by
  have hdismissed : Plays fun u => { u with errorMessage := [] } :=
    aside (fun _ _ => rfl) fun _ => ⟨rfl, rfl, rfl, rfl, rfl⟩
  have hfailed : Plays fun u => { u with
      errorMessage := ErrorText.forOutcome h.toHost t.errorCode t.callError t.messageKey
        t.messageFallback
      state := .error } :=
    aside (fun _ _ => rfl) fun _ => ⟨rfl, rfl, rfl, rfl, rfl⟩
  have hanswered : Plays fun u => { u with
      identityRead := true
      identity := .rebuild h.rules h.chars t.identityResult } :=
    aside (fun _ _ => rfl) fun _ => ⟨rfl, rfl, rfl, rfl, rfl⟩
  exact .ite (fun _ _ => Iff.rfl) (classifyActiveCard.comp hdismissed)
    (.ite (fun _ _ => Iff.rfl) hfailed (startPhotoRead.comp (classifyActiveCard.comp hanswered)))

lemma onOperationFinished (t : Terminal) : Plays fun u => u.onOperationFinished h t := by
  simp only [onOperationFinished_eq]
  refine .of_cases fun u => ?_
  by_cases hop : u.identityOp = none
  · exact ⟨_, identityReaped, if_pos hop, fun own p hp => if_pos (hp.identityOp.isNone_iff.2 hop)⟩
  · exact ⟨_, (identityEndedBy t).comp identityReaped, if_neg hop,
      fun own p hp => if_neg (mt hp.identityOp.isNone_iff.1 hop)⟩

lemma photoEndedBy (t : Terminal) : Plays (photoEndedBy h t) := by
  refine .ite (fun _ _ => Iff.rfl) .id ?_
  cases photoOf h t with
  | none => exact .id
  | some brought => exact setPhoto brought.1 brought.2

/-- The photo read's terminal. -/
lemma onPhotoFinished (t : Terminal) :
    Plays fun u => { u with toCardReads := u.onPhotoFinished h t } := by
  simp only [onPhotoFinished_eq]
  refine .of_cases fun u => ?_
  by_cases hop : u.photoOp = none
  · exact ⟨_, .id, if_pos hop, fun own p hp => if_pos (hp.photoOp.isNone_iff.2 hop)⟩
  · exact ⟨_, (photoEndedBy t).comp photoReaped, if_neg hop,
      fun own p hp => if_neg (mt hp.photoOp.isNone_iff.1 hop)⟩

end Plays

/-! ## Every event -/

/-- An event of a shared client, with the operation under the number the widget alone knows. -/
def onOwn (own : List ℕ) : Event → Event
  | .finished i t => .finished (own.idxOf i) t
  | .phaseChanged i phase => .phaseChanged (own.idxOf i) phase
  | e => e

/-- The registry moves, for a widget that shares its client as for one alone. -/
lemma Fits.setRegistry (hp : Fits own u p) (r : Registry) :
    ∃ p', (u.onto p).setRegistry r = (u.setRegistry r).onto p' ∧ Fits own (u.setRegistry r) p' := by
  refine ⟨⟨p.minted, ((u.onto p).client.setRegistry r).ops,
    ((u.onto p).client.setRegistry r).guardOp p.identityOp,
    ((u.onto p).client.setRegistry r).guardOp p.photoOp, p.photoStore⟩, rfl, ?_⟩
  have hclient := hp.client.setRegistry r
  exact ⟨hclient, hclient.guardOp hp.identityOp, hclient.guardOp hp.photoOp, hp.image⟩

/-- An event that reaches one widget, and does not come from the registry. -/
def Concerns (own : List ℕ) : Event → Prop
  | .finished i _ | .phaseChanged i _ => i ∈ own
  | .registry _ | .registryChanged _ | .sibling .. => False
  | _ => True

/-- An operation of the widget that can still end, alone. -/
lemma Fits.running (hp : Fits own u p) {i : ℕ} (hi : i ∈ own)
    (hrun : (u.client.ops i).destroyed = false ∧ (u.client.ops i).ended = none) :
    own.idxOf i < (u.onto p).client.minted ∧
      ((u.onto p).client.ops (own.idxOf i)).destroyed = false ∧
      ((u.onto p).client.ops (own.idxOf i)).ended = none := by
  rw [hp.client.minted, hp.client.ops _ _ (List.getElem?_idxOf hi)]
  exact ⟨List.idxOf_lt_length_iff.2 hi, hrun⟩

/-- What an event needs of the state it comes in, a widget alone has too. -/
lemma Fits.guard (hp : Fits own u p) {e : Event} (he : Concerns own e) (hg : e.guard u) :
    (onOwn own e).guard (u.onto p) := by
  cases e with
  | finished i t => exact hp.running he hg.2
  | phaseChanged i phase => exact hp.running he hg.2
  | sibling slot image => exact he.elim
  | _ => exact hg

/-- An operation ends: nobody but its widget sees. -/
lemma InStep.finish (hp : Fits own u p) {i : ℕ} (hi : i ∈ own) (t : Terminal) :
    InStep own u { u with client := u.client.finish i t }
      { u.onto p with client := (u.onto p).client.finish (own.idxOf i) t } := by
  have hj : own[own.idxOf i]? = some i := List.getElem?_idxOf hi
  have hfits : Fits own { u with client := u.client.finish i t }
      ⟨p.minted, ((u.onto p).client.finish (own.idxOf i) t).ops, p.identityOp, p.photoOp,
        p.photoStore⟩ :=
    ⟨hp.client.finish hj t, hp.identityOp, hp.photoOp, hp.image⟩
  refine .of_fits hfits rfl rfl rfl (fun i' hi' => ?_) fun _ _ => rfl
  refine Client.finish_ops_of_ne _ _ ?_
  rintro rfl
  exact hi' hi

/-- An operation's terminal. -/
lemma InStep.finished (hp : Fits own u p) {i : ℕ} (hi : i ∈ own) (t : Terminal) :
    InStep own u (u.finished h i t) ((u.onto p).finished h (own.idxOf i) t) := by
  have hop : (u.onto p).client.ops (own.idxOf i) = u.client.ops i :=
    hp.client.ops _ _ (List.getElem?_idxOf hi)
  have hfinish := InStep.finish hp hi t
  unfold SmartCardHandler.finished
  dsimp only
  rw [hop]
  split_ifs
  · exact hfinish.andThen (Plays.onOperationFinished t)
  · exact hfinish.andThen (Plays.onPhotoFinished t)
  · exact hfinish

/-- An operation moves on. -/
lemma InStep.phaseChanged (hp : Fits own u p) {i : ℕ} (hi : i ∈ own) (phase : OperationPhase) :
    InStep own u (u.phaseChanged i phase) ((u.onto p).phaseChanged (own.idxOf i) phase) := by
  have hop : (u.onto p).client.ops (own.idxOf i) = u.client.ops i :=
    hp.client.ops _ _ (List.getElem?_idxOf hi)
  have hphase : Plays fun u => { u with operationPhase := phase } :=
    .aside (fun _ _ => rfl) fun _ => ⟨rfl, rfl, rfl, rfl, rfl⟩
  unfold SmartCardHandler.phaseChanged
  rw [hop]
  split_ifs
  · exact hphase own u p hp
  · exact Plays.id own u p hp

/-- **An event does to a widget that shares its client what it does to it alone.** -/
theorem inStep_step (hp : Fits own u p) {e : Event} (he : Concerns own e) :
    InStep own u (step h u e) (step h (u.onto p) (onOwn own e)) := by
  cases e with
  | registry r => exact he.elim
  | registryChanged r => exact he.elim
  | refresh => exact Plays.refresh own u p hp
  | cardChanged c => exact Plays.cardChanged c own u p hp
  | setBoundReaderName name => exact Plays.setBoundReaderName name own u p hp
  | selectReader friendlyName => exact Plays.selectReader friendlyName own u p hp
  | setViewActive active => exact Plays.setViewActive active own u p hp
  | readIdentity => exact Plays.readIdentity own u p hp
  | ensureFreeRead => exact Plays.ensureFreeRead own u p hp
  | openInFiles => exact Plays.openInFiles own u p hp
  | startAgent => exact Plays.startAgent own u p hp
  | agentStartFinished result => exact Plays.onAgentStartFinished result own u p hp
  | finished i t => exact .finished hp he t
  | phaseChanged i phase => exact .phaseChanged hp he phase
  | signFile fileUrl => exact Plays.signFile fileUrl own u p hp
  | dismissSignResult => exact Plays.dismissSignResult own u p hp
  | jobChooses j cands => exact Plays.pickFirstCert j cands own u p hp
  | jobPhaseChanged j phase => exact Plays.onPhaseChanged j phase own u p hp
  | jobSucceeded j path level => exact Plays.onSucceeded j path level own u p hp
  | jobFailed j message => exact Plays.onFailed j message own u p hp
  | sibling slot image => exact he.elim
  | destroy => exact Plays.destroy own u p hp

end SmartCardHandler

end LibreKDE.Plasmoid
