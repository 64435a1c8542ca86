import LibreKDE.AgentClient.Text

/-!
# Which reader a card is in

The widget follows one reader.  It is either *bound* to a reader by name or follows the active
card; in the first case a reader that was enumerated anew under another name still counts
(`sameReaderUnit`), as long as no reader carries the bound name itself.

A PC/SC name reads `model (serial) NN NN`: the model, the unit's serial number, and two indices
that depend on the order of plugging in.
-/

namespace LibreKDE.Plasmoid

/-! ## Names -/

/-- The positions of the parentheses of a name's last group. -/
def lastGroup (name : QString) : Option (ℕ × ℕ) :=
  match name.lastIndexOf (qc ')') with
  | none => none
  | some close =>
      if close < 1 then none
      else (QString.lastIndexOf (qc '(') (name.take close)).map fun start => (start, close)

/-- The unit's serial number, when the name carries one: the last group, of four characters or
more, with a digit among them. -/
def readerSerialKey (t : CharClasses) (name : QString) : QString :=
  match lastGroup name with
  | none => []
  | some (start, close) =>
      let key := QString.trimmed t ((name.take close).drop (start + 1))
      if key.length < 4 then [] else if key.any t.isDigit then key else []

/-- A hexadecimal digit. -/
def isHexDigit (c : QChar) : Bool :=
  (qc '0' ≤ c ∧ c ≤ qc '9') ∨ (qc 'A' ≤ c ∧ c ≤ qc 'F') ∨ (qc 'a' ≤ c ∧ c ≤ qc 'f')

/-- The expression `^[0-9A-Fa-f]{2}$`, whose `$` also matches before a final line feed. -/
def slotIndexToken : QString → Bool
  | [c, d] => isHexDigit c ∧ isHexDigit d
  | [c, d, e] => isHexDigit c ∧ isHexDigit d ∧ e = qc '\n'
  | _ => false

/-- Drop up to `n` enumeration indices from the end of a name's words, last word first. -/
def dropIndices : ℕ → List QString → List QString
  | 0, tokens => tokens
  | _, [] => []
  | n + 1, token :: tokens =>
      if slotIndexToken token then dropIndices n tokens else token :: tokens

/-- The model: the name without its last group and its enumeration indices. -/
def readerBaseName (name : QString) : QString :=
  let base := match lastGroup name with
    | none => name
    | some (start, close) => name.take start ++ name.drop (close + 1)
  let tokens := (base.splitOn (qc ' ')).filter fun token => token ≠ []
  [qc ' '].intercalate (dropIndices 2 tokens.reverse).reverse

/-- Two names of one unit: the serial numbers are the same, and so are the names less their
enumeration indices. -/
def sameReaderUnit (t : CharClasses) (a b : QString) : Bool :=
  readerSerialKey t a ≠ [] ∧ readerSerialKey t a = readerSerialKey t b ∧
    readerBaseName a = readerBaseName b

example :
    sameReaderUnit .plain (qs "Gemalto PC Twin Reader (69988A87) 00 00")
      (qs "Gemalto PC Twin Reader (69988A87) 01 00") = true := by
  decide

/-! ## Picking a reader -/

/-- The first reader of a name that holds a resolvable card. -/
def readerWithCardByName (r : Registry) (name : QString) : Option AgentReader :=
  r.readers.find? fun x => x.name = name ∧ x.card.isSome

/-- The reader a widget shows; "" stands for no binding and for no selection. -/
def pickActiveReader (t : CharClasses) (r : Registry)
    (boundReaderName selectedReaderName : QString) : Option AgentReader :=
  if boundReaderName ≠ [] then
    match readerWithCardByName r boundReaderName with
    | some exact => some exact
    | none =>
        if r.readers.any fun x => x.name = boundReaderName then none
        else r.readers.find? fun x => sameReaderUnit t boundReaderName x.name ∧ x.card.isSome
  else if selectedReaderName ≠ [] then
    match readerWithCardByName r selectedReaderName with
    | some selected => some selected
    | none => Readers.firstReaderWithCard r
  else Readers.firstReaderWithCard r

/-- A card is there that no reader resolves yet: in the bound reader, or in any. -/
def computeCardDetected (t : CharClasses) (r : Registry) (boundReaderName : QString) : Bool :=
  if boundReaderName ≠ [] then
    match r.readers.find? fun x => x.name = boundReaderName with
    | some x => x.hasCard
    | none => r.readers.any fun x => sameReaderUnit t boundReaderName x.name ∧ x.hasCard
  else r.readers.any fun x => x.hasCard

/-- The bound reader, or the same unit under another name, is in the roster. -/
def computeBoundReaderPresent (t : CharClasses) (boundReaderName : QString) (names : List QString) :
    Bool :=
  boundReaderName ≠ [] ∧
    (boundReaderName ∈ names ∨ names.any fun name => sameReaderUnit t boundReaderName name)

/-- The reader shown is one of the client's and holds a card. -/
lemma pickActiveReader_spec {t : CharClasses} {r : Registry} {bound selected : QString}
    {x : AgentReader} (h : pickActiveReader t r bound selected = some x) :
    x ∈ r.readers ∧ x.card.isSome = true := by
  have hname : ∀ {name y}, readerWithCardByName r name = some y →
      y ∈ r.readers ∧ y.card.isSome = true := by
    intro name y hy
    exact ⟨List.mem_of_find?_eq_some hy, (by simpa using List.find?_some hy : _ ∧ _).2⟩
  have hfirst : ∀ {y}, Readers.firstReaderWithCard r = some y →
      y ∈ r.readers ∧ y.card.isSome = true := by
    intro y hy
    have hcard := List.find?_some (p := fun x : AgentReader => x.card.isSome) hy
    exact ⟨Readers.mem_of_firstReaderWithCard hy, hcard⟩
  unfold pickActiveReader at h
  by_cases hbound : bound ≠ []
  · rw [if_pos hbound] at h
    split at h
    · next hexact => exact Option.some.inj h ▸ hname hexact
    · by_cases hlisted : (r.readers.any fun x => x.name = bound) = true
      · simp [hlisted] at h
      · rw [if_neg hlisted] at h
        exact ⟨List.mem_of_find?_eq_some h, (by simpa using List.find?_some h : _ ∧ _).2⟩
  · rw [if_neg hbound] at h
    split_ifs at h
    · split at h
      · next hsel => exact Option.some.inj h ▸ hname hsel
      · exact hfirst h
    · exact hfirst h

/-- The card of the reader shown exists. -/
lemma live_of_pickActiveReader {t : CharClasses} {r : Registry} {bound selected : QString}
    {x : AgentReader} {c : CardRef} (h : pickActiveReader t r bound selected = some x)
    (hc : x.card = some c) : r.live c = true :=
  Registry.live_of_mem (pickActiveReader_spec h).1 hc

end LibreKDE.Plasmoid
