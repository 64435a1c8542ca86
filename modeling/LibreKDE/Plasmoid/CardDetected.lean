import LibreKDE.Plasmoid.BoundReader

/-!
# A card that is being read

A reader reports a card before the agent has exported an object for it.  While no reader resolves
one, a widget says that a card is there if a reader reports it, and the reader it goes by is to be
the one it will show: `computeCardDetected` and `pickActiveReader` scan the roster each on its own.

`WouldBePicked` is that reader, by what the widget shows once the card's object is there and nothing
else has changed.  The two scans stop at the same entry but where the bound name is carried twice,
and `cardDetected_iff` says how they then differ.
-/

namespace LibreKDE.Plasmoid

/-- The registry in which the card of a reader has become resolvable. -/
def resolved (r : Registry) {before after : List AgentReader} {x : AgentReader}
    (hsplit : r.readers = before ++ x :: after) (c : CardRef) (card : AgentCard) : Registry where
  available := r.available
  agentState := r.agentState
  readers := before ++ { x with card := some c } :: after
  cards := Function.update r.cards c (some card)
  seated := by
    intro y hy d hd
    by_cases hdc : d = c
    · simp [hdc]
    · rw [Function.update_of_ne hdc]
      have hne : y ≠ { x with card := some c } := by
        rintro rfl
        exact hdc (Option.some.inj hd).symm
      apply r.seated y _ d hd
      rw [hsplit]
      simp only [List.mem_append, List.mem_cons, hne, false_or] at hy ⊢
      exact hy.imp_right .inr

variable {t : CharClasses} {r : Registry} {bound selected : QString} {x : AgentReader}

/-- A reader reports a card, and the widget shows that card once it is resolvable. -/
def WouldBePicked (t : CharClasses) (r : Registry) (bound selected : QString) (c : CardRef)
    (card : AgentCard) : Prop :=
  ∃ before x after, ∃ hsplit : r.readers = before ++ x :: after, x.hasCard = true ∧ x.card = none ∧
    ∃ y, pickActiveReader t (resolved r hsplit c card) bound selected = some y ∧ y.card = some c

/-! ## The readers a widget looks at -/

/-- The readers a widget looks at: all of them, if it is bound to none. -/
def candidates (t : CharClasses) (bound : QString) (readers : List AgentReader) :
    List AgentReader :=
  if bound = [] then readers else claimed t bound readers

/-- Whether a reader is looked at is a matter of the names. -/
lemma mem_candidates {readers : List AgentReader} :
    x ∈ candidates t bound readers ↔
      x ∈ readers ∧ (bound = [] ∨ x.name = bound ∨
        bound ∉ readers.map AgentReader.name ∧ sameReaderUnit t bound x.name = true) := by
  unfold candidates
  split_ifs with hbound
  · simp [hbound]
  · rw [mem_claimed]
    simp [hbound]

lemma pickActiveReader_candidate {y : AgentReader}
    (hy : pickActiveReader t r bound selected = some y) :
    y ∈ candidates t bound r.readers ∧ y.card.isSome = true := by
  refine ⟨?_, (pickActiveReader_spec hy).2⟩
  unfold candidates
  split_ifs with hbound
  · exact (pickActiveReader_spec hy).1
  · rw [pickActiveReader_of_bound hbound] at hy
    exact List.mem_of_find?_eq_some hy

/-- A widget shows a reader as soon as one that it looks at holds a card. -/
lemma pickActiveReader_eq_none :
    pickActiveReader t r bound selected = none ↔
      ∀ y ∈ candidates t bound r.readers, y.card = none := by
  constructor
  · intro hpick
    by_cases hbound : bound = []
    · have hfirst : Readers.firstReaderWithCard r = none := by
        subst hbound
        unfold pickActiveReader at hpick
        rw [if_neg (by simp)] at hpick
        split_ifs at hpick with hselected
        · split at hpick
          · exact absurd hpick (by simp)
          · exact hpick
        · exact hpick
      rw [candidates, if_pos hbound]
      simpa [Readers.firstReaderWithCard] using hfirst
    · rw [pickActiveReader_of_bound hbound] at hpick
      rw [candidates, if_neg hbound]
      simpa using hpick
  · intro hnone
    cases hpick : pickActiveReader t r bound selected with
    | none => rfl
    | some y =>
        obtain ⟨hy, hcard⟩ := pickActiveReader_candidate hpick
        rw [hnone y hy] at hcard
        exact absurd hcard (by simp)

/-- With the card of one of them resolved it looks at the same readers. -/
lemma mem_candidates_resolved {before after : List AgentReader}
    (hsplit : r.readers = before ++ x :: after) (c : CardRef) (card : AgentCard)
    {y : AgentReader} :
    y ∈ candidates t bound (resolved r hsplit c card).readers ↔
      x ∈ candidates t bound r.readers ∧ y = { x with card := some c } ∨
        y ∈ candidates t bound r.readers ∧ y ∈ before ++ after := by
  have hnames : (resolved r hsplit c card).readers.map AgentReader.name =
      r.readers.map AgentReader.name := by simp [resolved, hsplit]
  have hmem : y ∈ (resolved r hsplit c card).readers ↔
      y = { x with card := some c } ∨ y ∈ before ++ after := by
    simp only [resolved, List.mem_append, List.mem_cons]
    tauto
  have hold : y ∈ before ++ after → y ∈ r.readers := by
    rw [hsplit]
    simp only [List.mem_append, List.mem_cons]
    tauto
  have hx : x ∈ r.readers := by simp [hsplit]
  rw [mem_candidates, mem_candidates, mem_candidates, hmem, hnames]
  constructor
  · rintro ⟨rfl | hy, hlooked⟩
    · exact .inl ⟨⟨hx, hlooked⟩, rfl⟩
    · exact .inr ⟨⟨hold hy, hlooked⟩, hy⟩
  · rintro (⟨⟨-, hlooked⟩, rfl⟩ | ⟨⟨-, hlooked⟩, hy⟩)
    · exact ⟨.inl rfl, hlooked⟩
    · exact ⟨.inr hy, hlooked⟩

/-- The reader to come is any that is looked at and reports a card. -/
lemma wouldBePicked_iff (hpick : pickActiveReader t r bound selected = none) (c : CardRef)
    (card : AgentCard) :
    WouldBePicked t r bound selected c card ↔
      ∃ x ∈ candidates t bound r.readers, x.hasCard = true := by
  have hnone := pickActiveReader_eq_none.mp hpick
  constructor
  · rintro ⟨before, x, after, hsplit, hhas, -, y, hy, hcard⟩
    obtain ⟨hy, -⟩ := pickActiveReader_candidate hy
    rw [mem_candidates_resolved] at hy
    rcases hy with ⟨hx, -⟩ | ⟨hy, -⟩
    · exact ⟨x, hx, hhas⟩
    · rw [hnone y hy] at hcard
      exact absurd hcard (by simp)
  · rintro ⟨x, hx, hhas⟩
    obtain ⟨before, after, hsplit⟩ := List.append_of_mem (mem_candidates.mp hx).1
    refine ⟨before, x, after, hsplit, hhas, hnone x hx, ?_⟩
    -- With its card resolved, the reader is the only candidate that holds one.
    cases hy : pickActiveReader t (resolved r hsplit c card) bound selected with
    | none =>
        have hself : { x with card := some c } ∈
            candidates t bound (resolved r hsplit c card).readers :=
          (mem_candidates_resolved hsplit c card).mpr (.inl ⟨hx, rfl⟩)
        have hnocard := pickActiveReader_eq_none.mp hy _ hself
        exact absurd hnocard (by simp)
    | some y =>
        obtain ⟨hmem, hsome⟩ := pickActiveReader_candidate hy
        rw [mem_candidates_resolved] at hmem
        rcases hmem with ⟨-, rfl⟩ | ⟨hmem, -⟩
        · exact ⟨_, rfl, rfl⟩
        · rw [hnone y hmem] at hsome
          exact absurd hsome (by simp)

/-! ## The two scans -/

/-- The bound name is carried twice, by an empty reader and by a later one that reports a card. -/
def EmptyTwinFirst (bound : QString) (readers : List AgentReader) : Prop :=
  bound ≠ [] ∧ ∃ x, (readers.find? fun y => y.name = bound) = some x ∧ x.hasCard = false ∧
    ∃ y ∈ readers, y.name = bound ∧ y.hasCard = true

/-- What a widget says is what the first of its readers says, where it is bound to a name that is
listed, and what any of them says otherwise. -/
lemma computeCardDetected_iff :
    computeCardDetected t r bound = true ↔
      (∃ x ∈ candidates t bound r.readers, x.hasCard = true) ∧
        ¬ EmptyTwinFirst bound r.readers := by
  unfold computeCardDetected
  by_cases hbound : bound = []
  · simp [hbound, candidates, EmptyTwinFirst]
  · rw [if_pos hbound]
    cases hfirst : r.readers.find? fun y => y.name = bound with
    | none =>
        -- The bound name is not in the roster: its unit's other names are looked through, all of
        -- them.
        have habsent : ∀ y ∈ r.readers, y.name ≠ bound := by simpa using hfirst
        have hlooked : ∀ y, y ∈ candidates t bound r.readers ↔
            y ∈ r.readers ∧ sameReaderUnit t bound y.name = true := by
          intro y
          rw [candidates, if_neg hbound, mem_claimed]
          refine and_congr_right fun hy => ⟨fun hor => ?_, fun hunit => .inr ⟨habsent, hunit⟩⟩
          exact (hor.resolve_left (habsent y hy)).2
        simp only [EmptyTwinFirst, hfirst, hlooked]
        simp [and_assoc]
    | some x =>
        -- The name is there, and the first reader of it answers for every other one.
        have hx := List.mem_of_find?_eq_some hfirst
        have hname : x.name = bound := by simpa using List.find?_some hfirst
        have hlooked : ∀ y ∈ candidates t bound r.readers, y ∈ r.readers ∧ y.name = bound := by
          intro y hy
          rw [candidates, if_neg hbound, mem_claimed] at hy
          exact ⟨hy.1, hy.2.resolve_right fun hor => hor.1 x hx hname⟩
        constructor
        · intro hhas
          refine ⟨⟨x, mem_candidates.mpr ⟨hx, .inr (.inl hname)⟩, hhas⟩, ?_⟩
          rintro ⟨-, z, hz, hempty, -⟩
          rw [hfirst] at hz
          obtain rfl := Option.some.inj hz
          exact absurd (hhas.symm.trans hempty) (by simp)
        · rintro ⟨⟨y, hy, hhas⟩, htwin⟩
          by_contra hempty
          obtain ⟨hmem, hyname⟩ := hlooked y hy
          exact htwin ⟨hbound, x, hfirst, by simpa using hempty, y, hmem, hyname, hhas⟩

/-- While a widget shows no reader, it says that a card is there exactly if a reader reports the
card it would show, unless the bound name is carried by an empty reader first. -/
theorem cardDetected_iff (t : CharClasses) (r : Registry) (bound selected : QString)
    (c : CardRef) (card : AgentCard) (hpick : pickActiveReader t r bound selected = none) :
    (computeCardDetected t r bound = true ↔ WouldBePicked t r bound selected c card) ↔
      ¬ EmptyTwinFirst bound r.readers := by
  rw [wouldBePicked_iff hpick, computeCardDetected_iff]
  constructor
  · rintro hiff ⟨hbound, x, hx, hempty, y, hy, hname, hhas⟩
    have hlooked : y ∈ candidates t bound r.readers :=
      mem_candidates.mpr ⟨hy, .inr (.inl hname)⟩
    exact (hiff.mpr ⟨y, hlooked, hhas⟩).2 ⟨hbound, x, hx, hempty, y, hy, hname, hhas⟩
  · exact fun htwin => ⟨And.left, fun hsome => ⟨hsome, htwin⟩⟩

/-- A roster of two readers, neither of which resolves a card. -/
def twoReaders (first second : AgentReader) (hfirst : first.card = none)
    (hsecond : second.card = none) : Registry where
  available := true
  agentState := .ready
  readers := [first, second]
  cards _ := none
  seated := by simp [hfirst, hsecond]

/-- A reader that has been plugged in anew, behind the entry it left. -/
def staleTwin : Registry :=
  twoReaders { id := qs "r1", name := qs "Reader 00 00" }
    { id := qs "r2", name := qs "Reader 00 00", hasCard := true } rfl rfl

/-- Two readers of one name, the first of which has a card that is not resolved yet. -/
def freshTwin : Registry :=
  twoReaders { id := qs "r2", name := qs "Reader 00 00", hasCard := true }
    { id := qs "r1", name := qs "Reader 00 00" } rfl rfl

theorem cardDetected_freshTwin :
    (computeCardDetected .plain freshTwin (qs "Reader 00 00") = true ↔
        WouldBePicked .plain freshTwin (qs "Reader 00 00") [] 0 (.eid true)) ↔
      ¬ EmptyTwinFirst (qs "Reader 00 00") freshTwin.readers :=
  cardDetected_iff .plain freshTwin (qs "Reader 00 00") [] 0 (.eid true) (by decide)

/-- Behind the entry it left the reader's card is not detected, but it is the one to come. -/
theorem staleTwin_undetected :
    pickActiveReader .plain staleTwin (qs "Reader 00 00") [] = none ∧
      computeCardDetected .plain staleTwin (qs "Reader 00 00") = false ∧
      WouldBePicked .plain staleTwin (qs "Reader 00 00") [] 0 (.eid true) := by
  have hpick : pickActiveReader .plain staleTwin (qs "Reader 00 00") [] = none := by decide
  refine ⟨hpick, by decide, (wouldBePicked_iff hpick 0 (.eid true)).mpr ?_⟩
  refine ⟨{ id := qs "r2", name := qs "Reader 00 00", hasCard := true }, ?_, rfl⟩
  exact mem_candidates.mpr ⟨by simp [staleTwin, twoReaders], .inr (.inl rfl)⟩

end LibreKDE.Plasmoid
