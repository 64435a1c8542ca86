import LibreKDE.AgentClient.Client
import LibreKDE.Framework.View

/-!
# Which card signs

`chooseSigningCard` settles on the card of a sign flow.  With two candidates or more it asks
an injected chooser, which is modal: while it is up the client's registry moves, cards are
deleted, and an agent that restarts mints its ids anew.  Only values cross the question, and
the answer is resolved in the registry as it stands afterwards.

`Desk` is the registry with the ids of its cards.  A chooser is any function from the choices
and the desk to an answer and the desk it leaves, so that nothing is assumed of what happens
under it.  `Contract` is what the caller may rely on.
-/

namespace LibreKDE.Signing

open Stateful

/-! ## The desk -/

/-- The registry, with the ids its cards are found by. -/
structure Desk extends Registry where
  /-- `card->id()`. -/
  cardId : CardRef → QString
  /-- `card->cardType()`. -/
  cardType : CardRef → QString
  /-- `client.card(id)`. -/
  card : QString → Option CardRef
  /-- An id finds an existing card that has it. -/
  found : ∀ id c, card id = some c → toRegistry.live c = true ∧ cardId c = id

/-- One card of the question, in values: a chooser holds no pointer, so that a card may go while it
is up. -/
structure CardChoice where
  cardId : QString
  /-- What a person tells the cards apart by. -/
  readerName : QString
  cardType : QString
  deriving DecidableEq, Repr

/-- `CardChooser`: the answer, and the desk after the dialog's own event loop. -/
abbrev CardChooser := List CardChoice → Desk → Option QString × Desk

/-- `SigningCardSelection`. -/
structure SigningCardSelection where
  card : Option CardRef := none
  cancelled : Bool := false
  deriving DecidableEq, Repr

/-- `Cards::hasCapability(*card, Cap::Pki)`. -/
def hasPki (r : Registry) (c : CardRef) : Bool := (r.cards c).any fun card => card.capabilities.pki

/-- `Cards::cardsWithCapability(client, Cap::Pki)`. -/
def cardsWithPki (r : Registry) : List CardRef :=
  r.readers.filterMap fun x => x.card.filter (hasPki r)

/-- `client.reader(card->readerId())`: the reader a card says it is in, if that is still there. -/
def readerOf (r : Registry) (c : CardRef) : Option AgentReader :=
  (r.cards c).bind fun card => r.reader card.readerId

/-- The name of the reader a card is in, "" where the registry has no such reader. -/
def readerName (r : Registry) (c : CardRef) : QString :=
  ((readerOf r c).map AgentReader.name).getD []

namespace Desk

variable (d : Desk)

/-- A row of the chooser. -/
def choice (c : CardRef) : CardChoice where
  cardId := d.cardId c
  readerName := Signing.readerName d.toRegistry c
  cardType := d.cardType c

/-- What the chooser is offered. -/
def choices : List CardChoice := (cardsWithPki d.toRegistry).map d.choice

/-- The card an answer stands for, on the desk as it is now. -/
def resolve (choices : List CardChoice) (chosen : QString) : SigningCardSelection :=
  match d.card chosen with
  | none => {}
  | some card =>
      if ¬ hasPki d.toRegistry card then {}
      else
        -- Ids are minted per process: the reader's name is what was picked by.
        match choices.find? fun c => c.cardId = chosen with
        | none => {}
        | some c =>
            if Signing.readerName d.toRegistry card ≠ c.readerName then {}
            else { card := some card }

end Desk

/-! ## The function -/

/-- The desk, and the questions asked so far. -/
structure Dialogue where
  desk : Desk
  asked : List (List CardChoice) := []

/-- A program that may ask the user. -/
abbrev DialogueM := StateM Dialogue

/-- Put the question; the dialog runs until it is answered. -/
def ask (chooser : CardChooser) (choices : List CardChoice) : DialogueM (Option QString) :=
  fun x =>
    let (chosen, desk) := chooser choices x.desk
    (chosen, { desk := desk, asked := x.asked ++ [choices] })

/-- The desk as it stands. -/
def currentDesk : DialogueM Desk := fun x => (x.desk, x)

/-- The rest of `chooseSigningCard`, over the desk it finds. -/
def chooseOn (desk : Desk) (chooser : Option CardChooser) : DialogueM SigningCardSelection := do
  let candidates := cardsWithPki desk.toRegistry
  if candidates.length ≤ 1 then return { card := candidates[0]? }
  match chooser with
  | none => return { cancelled := true }
  | some chooser =>
      match ← ask chooser desk.choices with
      | none => return { cancelled := true }
      | some chosen => return (← currentDesk).resolve desk.choices chosen

/-- The card to sign with.  One that is alone is taken without a question, and where there is none
the answer is none; of several the chooser's answer decides, resolved on the desk as it is when the
dialog closes. -/
def chooseSigningCard (chooser : Option CardChooser) : DialogueM SigningCardSelection := do
  chooseOn (← currentDesk) chooser

/-! ## What the caller may rely on -/

/-- Two cards or more could serve, and there is something to ask. -/
def Desk.Ambiguous (d : Desk) : Prop := 2 ≤ (cardsWithPki d.toRegistry).length

instance (d : Desk) : Decidable d.Ambiguous := inferInstanceAs (Decidable (_ ≤ _))

/-- What a chooser answers on a desk. -/
def Desk.answer (d : Desk) (chooser : CardChooser) : Option QString := (chooser d.choices d).1

/-- A reader the card names is there, under this name. -/
def SitsIn (r : Registry) (c : CardRef) (name : QString) : Prop :=
  ∃ x, readerOf r c = some x ∧ x.name = name

/-- A card returned after a question: the choice that was picked names it, on the desk it is
returned from. -/
structure Picked (chooser : CardChooser) (before after : Desk) (c : CardRef) (picked : CardChoice) :
    Prop where
  offered : picked ∈ before.choices
  chosen : before.answer chooser = some picked.cardId
  id : after.cardId c = picked.cardId
  pki : hasPki after.toRegistry c = true

/-- The contract of `chooseSigningCard`; `Sits` is what it says of the reader. -/
structure Contract (Sits : Registry → CardRef → QString → Prop) (chooser : Option CardChooser)
    (x : Dialogue) (result : SigningCardSelection) (y : Dialogue) : Prop where
  /-- The chooser is called at most once, and exactly when there is something to ask. -/
  asked : y.asked = x.asked ++
    if x.desk.Ambiguous ∧ chooser.isSome then [x.desk.choices] else []
  live : ∀ c, result.card = some c → y.desk.live c = true
  picked : ∀ chooser', chooser = some chooser' → x.desk.Ambiguous →
    ∀ c, result.card = some c → ∃ p, Picked chooser' x.desk y.desk c p ∧
      Sits y.desk.toRegistry c p.readerName
  cancelled : result.cancelled = true ↔
    x.desk.Ambiguous ∧ ∀ chooser' ∈ chooser, x.desk.answer chooser' = none
  declined : result.cancelled = true → result.card = none
  /-- Without a choice to make nothing happens. -/
  silent : ¬ x.desk.Ambiguous →
    result = { card := (cardsWithPki x.desk.toRegistry)[0]? } ∧ y = x

/-- The reader a card sits in has the name; only a card that was offered without one may be in
a reader that is not there. -/
def SitsInNamed (r : Registry) (c : CardRef) (name : QString) : Prop :=
  readerName r c = name ∧ (name ≠ [] → SitsIn r c name)

section Proof

variable {chooser : Option CardChooser} {x : Dialogue} {d : Desk} {c : CardRef}

lemma sitsInNamed_readerName (r : Registry) (c : CardRef) :
    SitsInNamed r c (readerName r c) := by
  refine ⟨rfl, fun hne => ?_⟩
  cases hreader : readerOf r c with
  | none => simp [readerName, hreader] at hne
  | some y => exact ⟨y, hreader, by simp [readerName, hreader]⟩

/-- A candidate is the card of one of the client's readers. -/
lemma live_of_mem_cardsWithPki (hc : c ∈ cardsWithPki d.toRegistry) : d.live c = true := by
  obtain ⟨y, hy, hcard⟩ := List.mem_filterMap.1 hc
  exact Registry.live_of_mem hy (Option.filter_eq_some_iff.1 hcard).1

/-- What an answer resolves to is the card that has the id, and was offered with the name of the
reader it is in. -/
lemma resolve_spec {choices : List CardChoice} {chosen : QString}
    (h : (d.resolve choices chosen).card = some c) :
    d.card chosen = some c ∧ hasPki d.toRegistry c = true ∧
      ∃ p ∈ choices, p.cardId = chosen ∧ readerName d.toRegistry c = p.readerName := by
  unfold Desk.resolve at h
  split at h
  · cases h
  · next card hcard =>
      split_ifs at h with hpki
      split at h
      · cases h
      · next p hp =>
          split_ifs at h with hname
          obtain rfl : card = c := Option.some.inj h
          refine ⟨hcard, by simpa using hpki, p, List.mem_of_find?_eq_some hp, ?_, ?_⟩
          · simpa using List.find?_some hp
          · simpa using hname

/-- No refusal is a cancel. -/
lemma resolve_cancelled (d : Desk) (choices : List CardChoice) (chosen : QString) :
    (d.resolve choices chosen).cancelled = false := by
  unfold Desk.resolve
  split
  · rfl
  · split_ifs
    · split
      · rfl
      · split_ifs <;> rfl
    · rfl

lemma length_le_of_not_ambiguous (h : ¬ d.Ambiguous) : (cardsWithPki d.toRegistry).length ≤ 1 := by
  unfold Desk.Ambiguous at h
  omega

/-- With at most one candidate it is returned and nothing else happens. -/
lemma chooseSigningCard_silent (h : ¬ x.desk.Ambiguous) :
    chooseSigningCard chooser x = ({ card := (cardsWithPki x.desk.toRegistry)[0]? }, x) := by
  show chooseOn x.desk chooser x = _
  unfold chooseOn
  rw [if_pos (length_le_of_not_ambiguous h)]
  rfl

/-- Nobody can be asked. -/
lemma chooseSigningCard_none (h : x.desk.Ambiguous) :
    chooseSigningCard none x = ({ cancelled := true }, x) := by
  have hgt : ¬ (cardsWithPki x.desk.toRegistry).length ≤ 1 := Nat.not_le.2 h
  show chooseOn x.desk none x = _
  unfold chooseOn
  rw [if_neg hgt]
  rfl

/-- The question is put, and its answer resolved on the desk the dialog leaves. -/
lemma chooseSigningCard_some (h : x.desk.Ambiguous) (chooser : CardChooser) :
    chooseSigningCard (some chooser) x =
      ((x.desk.answer chooser).elim { cancelled := true }
          ((chooser x.desk.choices x.desk).2.resolve x.desk.choices),
        { desk := (chooser x.desk.choices x.desk).2
          asked := x.asked ++ [x.desk.choices] }) := by
  have hgt : ¬ (cardsWithPki x.desk.toRegistry).length ≤ 1 := Nat.not_le.2 h
  show chooseOn x.desk (some chooser) x = _
  unfold chooseOn Desk.answer
  rw [if_neg hgt]
  simp only
  rw [run_bind]
  simp only [ask]
  cases (chooser x.desk.choices x.desk).1 with
  | none => rfl
  | some chosen => rfl

/-- A question that nobody answers is a cancel. -/
lemma contract_cancelled {y : Dialogue} (hmany : x.desk.Ambiguous)
    (hasked : y.asked = x.asked ++ if chooser.isSome then [x.desk.choices] else [])
    (hnone : ∀ chooser' ∈ chooser, x.desk.answer chooser' = none) :
    Contract SitsInNamed chooser x { cancelled := true } y where
  asked := by simpa [hmany] using hasked
  live := by simp
  picked := by simp
  cancelled := ⟨fun _ => ⟨hmany, hnone⟩, fun _ => rfl⟩
  declined _ := rfl
  silent h := absurd hmany h

/-- An answer is resolved on the desk that the dialog leaves. -/
lemma contract_resolved {chooser : CardChooser} {chosen : QString} (hmany : x.desk.Ambiguous)
    (hanswer : x.desk.answer chooser = some chosen) :
    Contract SitsInNamed (some chooser) x
      ((chooser x.desk.choices x.desk).2.resolve x.desk.choices chosen)
      { desk := (chooser x.desk.choices x.desk).2, asked := x.asked ++ [x.desk.choices] } where
  asked := by simp [hmany]
  live := by
    intro c hc
    exact ((chooser x.desk.choices x.desk).2.found _ _ (resolve_spec hc).1).1
  picked := by
    intro chooser' heq _ c hc
    obtain rfl : chooser = chooser' := Option.some.inj heq
    obtain ⟨hcard, hpki, p, hp, rfl, hname⟩ := resolve_spec hc
    refine ⟨p, ⟨hp, hanswer, ?_, hpki⟩, ?_⟩
    · exact ((chooser x.desk.choices x.desk).2.found _ _ hcard).2
    · rw [← hname]
      exact sitsInNamed_readerName _ c
  cancelled := by simp [resolve_cancelled, hanswer]
  declined := by simp [resolve_cancelled]
  silent h := absurd hmany h

/-- Without a choice to make the card there is, if any, is returned. -/
lemma contract_silent (hfew : ¬ x.desk.Ambiguous) :
    Contract SitsInNamed chooser x { card := (cardsWithPki x.desk.toRegistry)[0]? } x where
  asked := by simp [hfew]
  live := by
    intro c hc
    exact live_of_mem_cardsWithPki (List.mem_of_getElem? hc)
  picked _ _ h := absurd h hfew
  cancelled := by simp [hfew]
  declined := by simp
  silent _ := ⟨rfl, rfl⟩

end Proof

/-- **The contract of `chooseSigningCard`**, for every desk and every chooser: whether and what the
user is asked, that the card given is the one picked, still there and in the reader it was offered
under, and when the choice counts as cancelled. -/
theorem chooseSigningCard_contract (chooser : Option CardChooser) (x : Dialogue) :
    Contract SitsInNamed chooser x (chooseSigningCard chooser x).1
      (chooseSigningCard chooser x).2 := by
  by_cases hmany : x.desk.Ambiguous
  · cases chooser with
    | none =>
        rw [chooseSigningCard_none hmany]
        exact contract_cancelled hmany (by simp) (by simp)
    | some chooser =>
        rw [chooseSigningCard_some hmany]
        cases hanswer : x.desk.answer chooser with
        | none => exact contract_cancelled hmany (by simp) (by simpa using hanswer)
        | some chosen => exact contract_resolved hmany hanswer
  · rw [chooseSigningCard_silent hmany]
    exact contract_silent hmany

/-! ## A reader without a name -/

/-- A card that can sign, in a reader. -/
def signingCard (readerId : QString) : AgentCard :=
  { AgentCard.eid false with readerId := readerId }

/-- Two cards that can sign; the first one's reader is there unless it has been pulled. -/
def twoCards (pulled : Bool) : Desk where
  available := true
  agentState := .ready
  -- The reader of card 0 has no name; with it gone, the card's reader reads as the empty text too.
  readers :=
    (if pulled then []
      else [{ id := qs "/reader/0", name := [], hasCard := true, card := some 0 }]) ++
      [{ id := qs "/reader/1", name := qs "left", hasCard := true, card := some 1 }]
  cards c :=
    if c = 0 then some (signingCard (qs "/reader/0"))
    else if c = 1 then some (signingCard (qs "/reader/1"))
    else none
  seated := by cases pulled <;> decide
  cardId c := if c = 0 then qs "/card/0" else qs "/card/1"
  cardType _ := []
  card id := if id = qs "/card/0" then some 0 else if id = qs "/card/1" then some 1 else none
  found := by
    intro id c h
    split_ifs at h with h₀ h₁
    · obtain rfl := Option.some.inj h
      exact ⟨rfl, h₀.symm⟩
    · obtain rfl := Option.some.inj h
      exact ⟨rfl, h₁.symm⟩

/-- The user picks the first card, and its reader goes while the dialog is up; the card's object
is still there when it closes. -/
def pullsReader : CardChooser := fun _ _ => (some (qs "/card/0"), twoCards true)

/-- A card that was offered under no name may come back from no reader. -/
theorem chooseSigningCard_unnamed :
    ¬ Contract SitsIn (some pullsReader) { desk := twoCards false }
      (chooseSigningCard (some pullsReader) { desk := twoCards false }).1
      (chooseSigningCard (some pullsReader) { desk := twoCards false }).2 := by
  intro h
  have hmany : (twoCards false).Ambiguous := by decide
  have hcard :
      (chooseSigningCard (some pullsReader) { desk := twoCards false }).1.card = some 0 := by
    decide
  -- The card is given although its reader is gone: no reader, and one without a name, read alike.
  obtain ⟨p, -, y, hy, -⟩ := h.picked pullsReader rfl hmany 0 hcard
  have hnone : readerOf (twoCards true).toRegistry 0 = none := by decide
  have hsome : readerOf (twoCards true).toRegistry 0 = some y := hy
  rw [hnone] at hsome
  cases hsome

end LibreKDE.Signing
