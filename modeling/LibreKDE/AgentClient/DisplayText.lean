import LibreKDE.Qt.Text

/-!
# Values in sinks that promote markup

Some of the hosts' sinks cannot be told that a text is plain.  They promote a text that looks
like markup, by `Qt::mightBeRichText`, and show its entities decoded; any other text they show
as it stands.  `plainDisplay` escapes what would be promoted, and counts on the escaped text
being promoted in turn.

It is promoted when the scan meets an escaped `<`, so when there was a `<` on the first line of
the value.  A value that was promoted for an entity it holds, with no `<` on that line, is
escaped and then shown with the escapes (`plainDisplay_shown_iff`).
-/

namespace LibreKDE

/-! ## The sink -/

/-- What a sink shows: the characters, and whether some of the text was read as markup. -/
structure Shown where
  text : QString
  markup : Bool
  deriving DecidableEq

/-- The toolkit's part in a sink. -/
structure AutoText where
  chars : CharClasses
  /-- A recognised tag opens at the `<` that the text begins with. -/
  tagOpens : QString → Bool
  /-- The text an entity stands for. -/
  entity : QString → Option QString
  isSpace_amp : chars.isSpace (qc '&') = false
  isSpace_lt : chars.isSpace (qc '<') = false
  isSpace_gt : chars.isSpace (qc '>') = false
  isSpace_quot : chars.isSpace (qc '"') = false
  entity_amp : entity (qs "amp") = some (qs "&")
  entity_lt : entity (qs "lt") = some (qs "<")
  entity_gt : entity (qs "gt") = some (qs ">")
  entity_quot : entity (qs "quot") = some (qs "\"")

/-- A sink that knows a few tags and the four entities. -/
def AutoText.plain : AutoText where
  chars := .plain
  tagOpens s := [qs "<a ", qs "<b>", qs "<i>", qs "<img "].any fun tag => tag.isPrefixOf s
  entity name :=
    if name = qs "amp" then some (qs "&")
    else if name = qs "lt" then some (qs "<")
    else if name = qs "gt" then some (qs ">")
    else if name = qs "quot" then some (qs "\"")
    else none
  isSpace_amp := by decide
  isSpace_lt := by decide
  isSpace_gt := by decide
  isSpace_quot := by decide
  entity_amp := by decide
  entity_lt := by decide
  entity_gt := by decide
  entity_quot := by decide

namespace AutoText

variable (a : AutoText)

/-- What `mightBeRichText` does from the first character that is not white space. -/
def scan : QString → Bool
  | [] => false
  | c :: s =>
      if c = qc '<' then a.tagOpens (c :: s)
      else if c = qc '\n' then false
      else if c = qc '&' ∧ qs "lt;" <+: s then true
      else scan s

/-- `Qt::mightBeRichText`. -/
def mightBeRichText (s : QString) : Bool := a.scan (s.dropWhile a.chars.isSpace)

/-- The text with its entities replaced; what is not an entity stays. -/
def decodeEntities : QString → QString
  | [] => []
  | c :: s =>
      if c = qc '&' ∧ qc ';' ∈ s then
        match a.entity (s.takeWhile (· ≠ qc ';')) with
        | some d => d ++ decodeEntities ((s.dropWhile (· ≠ qc ';')).drop 1)
        | none => c :: decodeEntities s
      else c :: decodeEntities s
termination_by s => s.length
decreasing_by
  · have := (List.dropWhile_sublist (l := s) (· ≠ qc ';')).length_le
    simp only [List.length_drop, List.length_cons]
    omega
  · simp
  · simp

/-- What the sink shows. -/
def shown (s : QString) : Shown :=
  if a.mightBeRichText s then ⟨a.decodeEntities s, qc '<' ∈ s⟩ else ⟨s, false⟩

end AutoText

/-! ## The neutralised text -/

/-- The entity that `toHtmlEscaped` writes for a character, by name. -/
def escapeName (c : QChar) : Option QString :=
  if c = qc '<' then some (qs "lt")
  else if c = qc '>' then some (qs "gt")
  else if c = qc '&' then some (qs "amp")
  else if c = qc '"' then some (qs "quot")
  else none

/-- What `toHtmlEscaped` writes for a character. -/
def htmlEscape (c : QChar) : QString :=
  match escapeName c with
  | some name => qc '&' :: (name ++ [qc ';'])
  | none => [c]

/-- `QString::toHtmlEscaped`. -/
def toHtmlEscaped (s : QString) : QString := s.flatMap htmlEscape

/-- A text made safe for a sink that guesses its format: where the guess would be rich text, the
characters that markup begins with are escaped, and else it is left alone. -/
def plainDisplay (a : AutoText) (text : QString) : QString :=
  if a.mightBeRichText text then toHtmlEscaped text else text

/-- The first line of a text after its leading white space. -/
def AutoText.firstLine (a : AutoText) (s : QString) : QString :=
  (s.dropWhile a.chars.isSpace).takeWhile (· ≠ qc '\n')

/-! ## Escaping -/

variable {a : AutoText} {c : QChar} {s name : QString}

lemma escapeName_eq_some (hname : escapeName c = some name) :
    (c = qc '<' ∧ name = qs "lt") ∨ (c = qc '>' ∧ name = qs "gt") ∨
      (c = qc '&' ∧ name = qs "amp") ∨ (c = qc '"' ∧ name = qs "quot") := by
  unfold escapeName at hname
  split_ifs at hname with hlt hgt hamp hquot
  · exact .inl ⟨hlt, (Option.some.inj hname).symm⟩
  · exact .inr (.inl ⟨hgt, (Option.some.inj hname).symm⟩)
  · exact .inr (.inr (.inl ⟨hamp, (Option.some.inj hname).symm⟩))
  · exact .inr (.inr (.inr ⟨hquot, (Option.some.inj hname).symm⟩))

/-- The name of an entity has letters only. -/
lemma notMem_of_escapeName (hname : escapeName c = some name) :
    qc ';' ∉ name ∧ qc '<' ∉ name ∧ qc '&' ∉ name ∧ qc '\n' ∉ name := by
  rcases escapeName_eq_some hname with ⟨-, rfl⟩ | ⟨-, rfl⟩ | ⟨-, rfl⟩ | ⟨-, rfl⟩ <;> decide

/-- Only the entity of `<` begins like it. -/
lemma ltName_not_opens (hname : escapeName c = some name) (hc : c ≠ qc '<') (s : QString) :
    ¬ qs "lt;" <+: name ++ s := by
  rcases escapeName_eq_some hname with ⟨hlt, -⟩ | ⟨-, rfl⟩ | ⟨-, rfl⟩ | ⟨-, rfl⟩
  · exact absurd hlt hc
  · exact fun h => absurd (List.cons_prefix_cons.1 h).1 (by decide)
  · exact fun h => absurd (List.cons_prefix_cons.1 h).1 (by decide)
  · exact fun h => absurd (List.cons_prefix_cons.1 h).1 (by decide)

lemma ne_of_escapeName_eq_none (hname : escapeName c = none) : c ≠ qc '<' ∧ c ≠ qc '&' := by
  constructor
  · rintro rfl
    exact absurd hname (by decide)
  · rintro rfl
    exact absurd hname (by decide)

lemma htmlEscape_of_name (hname : escapeName c = some name) :
    htmlEscape c = qc '&' :: (name ++ [qc ';']) := by rw [htmlEscape, hname]

lemma htmlEscape_of_none (hname : escapeName c = none) : htmlEscape c = [c] := by
  rw [htmlEscape, hname]

lemma toHtmlEscaped_cons (c : QChar) (s : QString) :
    toHtmlEscaped (c :: s) = htmlEscape c ++ toHtmlEscaped s := List.flatMap_cons

/-- No tag opens in an escaped text. -/
lemma lt_notMem_toHtmlEscaped (s : QString) : qc '<' ∉ toHtmlEscaped s := by
  intro hmem
  obtain ⟨c, -, hc⟩ := List.mem_flatMap.1 hmem
  cases hname : escapeName c with
  | none =>
      rw [htmlEscape_of_none hname] at hc
      exact (ne_of_escapeName_eq_none hname).1 (List.mem_singleton.1 hc).symm
  | some name =>
      rw [htmlEscape_of_name hname, List.mem_cons, List.mem_append, List.mem_singleton] at hc
      rcases hc with hamp | hletter | hend
      · exact absurd hamp (by decide)
      · exact (notMem_of_escapeName hname).2.1 hletter
      · exact absurd hend (by decide)

/-- A text with an ampersand is not its own escape. -/
lemma toHtmlEscaped_ne (hamp : qc '&' ∈ s) : toHtmlEscaped s ≠ s := by
  have hle : ∀ s, s.length ≤ (toHtmlEscaped s).length := by
    intro s
    induction s with
    | nil => exact Nat.le_refl 0
    | cons c s ih =>
        have hc : 1 ≤ (htmlEscape c).length := by
          unfold htmlEscape
          cases escapeName c <;> simp
        rw [toHtmlEscaped_cons, List.length_append, List.length_cons]
        omega
  obtain ⟨before, after, rfl⟩ := List.append_of_mem hamp
  have hescape : (htmlEscape (qc '&')).length = 5 := by decide
  have hsplit : (toHtmlEscaped (before ++ qc '&' :: after)).length =
      (toHtmlEscaped before).length + (5 + (toHtmlEscaped after).length) := by
    rw [toHtmlEscaped, List.flatMap_append, List.flatMap_cons, List.length_append,
      List.length_append, hescape]
    rfl
  intro heq
  have hbefore := hle before
  have hafter := hle after
  rw [heq, List.length_append, List.length_cons] at hsplit
  omega

/-! ## Decoding -/

namespace AutoText

/-- The table names what the escapes stand for. -/
lemma entity_escapeName (a : AutoText) (hname : escapeName c = some name) :
    a.entity name = some [c] := by
  rcases escapeName_eq_some hname with ⟨rfl, rfl⟩ | ⟨rfl, rfl⟩ | ⟨rfl, rfl⟩ | ⟨rfl, rfl⟩
  · exact a.entity_lt
  · exact a.entity_gt
  · exact a.entity_amp
  · exact a.entity_quot

/-- A character that begins no entity is read as it stands. -/
lemma decodeEntities_cons (hc : c ≠ qc '&') :
    a.decodeEntities (c :: s) = c :: a.decodeEntities s := by
  rw [decodeEntities, if_neg fun h => hc h.1]

/-- An entity of the table is read as what it stands for. -/
lemma decodeEntities_entity {d : QString} (hname : qc ';' ∉ name) (hd : a.entity name = some d)
    (s : QString) :
    a.decodeEntities (qc '&' :: (name ++ [qc ';']) ++ s) = d ++ a.decodeEntities s := by
  have hall : ∀ x ∈ name, decide (x ≠ qc ';') = true := fun x hx =>
    decide_eq_true fun heq => hname (heq ▸ hx)
  have htake : (name ++ qc ';' :: s).takeWhile (· ≠ qc ';') = name := by
    rw [List.takeWhile_append_of_pos hall, List.takeWhile_cons_of_neg (by simp), List.append_nil]
  have hdrop : (name ++ qc ';' :: s).dropWhile (· ≠ qc ';') = qc ';' :: s := by
    rw [List.dropWhile_append_of_pos hall, List.dropWhile_cons_of_neg (by simp)]
  rw [List.cons_append, List.append_assoc, List.singleton_append, decodeEntities,
    if_pos ⟨rfl, by simp⟩, htake, hdrop, hd]
  rfl

/-- The entities of an escaped text are decoded to the text. -/
lemma decodeEntities_toHtmlEscaped (a : AutoText) (s : QString) :
    a.decodeEntities (toHtmlEscaped s) = s := by
  induction s with
  | nil => rw [toHtmlEscaped, List.flatMap_nil, decodeEntities]
  | cons c s ih =>
      rw [toHtmlEscaped_cons]
      cases hname : escapeName c with
      | none =>
          rw [htmlEscape_of_none hname, List.singleton_append,
            decodeEntities_cons (ne_of_escapeName_eq_none hname).2, ih]
      | some name =>
          rw [htmlEscape_of_name hname, decodeEntities_entity (notMem_of_escapeName hname).1
            (a.entity_escapeName hname), ih, List.singleton_append]

/-! ## Detection -/

lemma isSpace_of_escapeName (a : AutoText) (hname : escapeName c = some name) :
    a.chars.isSpace c = false := by
  rcases escapeName_eq_some hname with ⟨rfl, -⟩ | ⟨rfl, -⟩ | ⟨rfl, -⟩ | ⟨rfl, -⟩
  · exact a.isSpace_lt
  · exact a.isSpace_gt
  · exact a.isSpace_amp
  · exact a.isSpace_quot

/-- Escaping keeps the leading white space. -/
lemma dropWhile_toHtmlEscaped (a : AutoText) (s : QString) :
    (toHtmlEscaped s).dropWhile a.chars.isSpace =
      toHtmlEscaped (s.dropWhile a.chars.isSpace) := by
  induction s with
  | nil => rfl
  | cons c s ih =>
      rw [toHtmlEscaped_cons]
      cases hname : escapeName c with
      | none =>
          rw [htmlEscape_of_none hname, List.singleton_append]
          by_cases hspace : a.chars.isSpace c = true
          · rw [List.dropWhile_cons_of_pos hspace, List.dropWhile_cons_of_pos hspace, ih]
          · rw [List.dropWhile_cons_of_neg hspace, List.dropWhile_cons_of_neg hspace,
              toHtmlEscaped_cons, htmlEscape_of_none hname, List.singleton_append]
      | some name =>
          have hspace := a.isSpace_of_escapeName hname
          rw [htmlEscape_of_name hname, List.cons_append,
            List.dropWhile_cons_of_neg (by simp [a.isSpace_amp]),
            List.dropWhile_cons_of_neg (by simp [hspace]), toHtmlEscaped_cons,
            htmlEscape_of_name hname, List.cons_append]

lemma scan_cons (hlt : c ≠ qc '<') (hbreak : c ≠ qc '\n') (hamp : c ≠ qc '&') :
    a.scan (c :: s) = a.scan s := by
  rw [scan, if_neg hlt, if_neg hbreak, if_neg fun h => hamp h.1]

lemma scan_amp (hentity : ¬ qs "lt;" <+: s) : a.scan (qc '&' :: s) = a.scan s := by
  rw [scan, if_neg (by decide), if_neg (by decide), if_neg fun h => hentity h.2]

lemma scan_append (hlt : qc '<' ∉ name) (hbreak : qc '\n' ∉ name) (hamp : qc '&' ∉ name) :
    a.scan (name ++ s) = a.scan s := by
  induction name with
  | nil => rfl
  | cons c name ih =>
      rw [List.mem_cons, not_or] at hlt hbreak hamp
      rw [List.cons_append, scan_cons (Ne.symm hlt.1) (Ne.symm hbreak.1) (Ne.symm hamp.1),
        ih hlt.2 hbreak.2 hamp.2]

/-- The scan meets the escape of a `<` exactly when there is a `<` on the first line. -/
lemma scan_toHtmlEscaped (a : AutoText) (s : QString) :
    a.scan (toHtmlEscaped s) = true ↔ qc '<' ∈ s.takeWhile (· ≠ qc '\n') := by
  induction s with
  | nil => simp [toHtmlEscaped, scan]
  | cons c s ih =>
      rw [toHtmlEscaped_cons]
      cases hname : escapeName c with
      -- A character without an entity is copied: a newline ends the scan, any other is skipped.
      | none =>
          obtain ⟨hlt, hamp⟩ := ne_of_escapeName_eq_none hname
          rw [htmlEscape_of_none hname, List.singleton_append]
          by_cases hbreak : c = qc '\n'
          · rw [scan, if_neg hlt, if_pos hbreak, List.takeWhile_cons_of_neg (by simp [hbreak])]
            simp
          · rw [scan_cons hlt hbreak hamp, ih, List.takeWhile_cons_of_pos (by simpa using hbreak),
              List.mem_cons, or_iff_right (Ne.symm hlt)]
      | some name =>
          obtain ⟨-, hlt, hamp, hbreak⟩ := notMem_of_escapeName hname
          have hchar : c ≠ qc '\n' := by
            rintro rfl
            have hnone : escapeName (qc '\n') = none := by decide
            exact absurd (hnone.symm.trans hname) (by simp)
          rw [htmlEscape_of_name hname, List.cons_append, List.append_assoc,
            List.takeWhile_cons_of_pos (by simpa using hchar), List.mem_cons]
          -- The entity of a less-than sign is what the scan looks for; that of another character is
          -- not.
          by_cases hc : qc '<' = c
          · subst hc
            obtain rfl : qs "lt" = name := Option.some.inj hname
            rw [scan, if_neg (by decide), if_neg (by decide), if_pos ⟨rfl, _, rfl⟩]
            simp
          · rw [scan_amp (ltName_not_opens hname (Ne.symm hc) _), scan_append hlt hbreak hamp,
              scan_append (by decide) (by decide) (by decide), ih, or_iff_right hc]

/-- What has no line break begins the text when it begins its first line. -/
lemma prefix_takeWhile_iff (hbreak : qc '\n' ∉ name) :
    name <+: s.takeWhile (· ≠ qc '\n') ↔ name <+: s := by
  constructor
  · intro hprefix
    exact hprefix.trans (List.takeWhile_prefix _)
  · rintro ⟨rest, rfl⟩
    have hall : ∀ x ∈ name, decide (x ≠ qc '\n') = true := fun x hx =>
      decide_eq_true fun heq => hbreak (heq ▸ hx)
    rw [List.takeWhile_append_of_pos hall]
    exact List.prefix_append _ _

/-- Where no tag opens on the line, the scan answers by the escaped `<` it meets. -/
lemma scan_of_lt_notMem (hlt : qc '<' ∉ s.takeWhile (· ≠ qc '\n')) :
    a.scan s = true ↔ qs "&lt;" <:+: s.takeWhile (· ≠ qc '\n') := by
  induction s with
  | nil =>
      constructor
      · intro hscan
        exact absurd hscan (by simp [scan])
      · intro hinfix
        exact absurd (List.eq_nil_of_infix_nil hinfix) (by decide)
  | cons c s ih =>
      by_cases hbreak : c = qc '\n'
      · rw [scan, if_neg (by rw [hbreak]; decide), if_pos hbreak,
          List.takeWhile_cons_of_neg (by simp [hbreak])]
        constructor
        · intro hscan
          exact absurd hscan (by simp)
        · intro hinfix
          exact absurd (List.eq_nil_of_infix_nil hinfix) (by decide)
      · rw [List.takeWhile_cons_of_pos (by simpa using hbreak)] at hlt ⊢
        rw [List.mem_cons, not_or] at hlt
        have hword : qs "&lt;" = qc '&' :: qs "lt;" := rfl
        rw [scan, if_neg (Ne.symm hlt.1), if_neg hbreak, hword, List.infix_cons_iff,
          List.cons_prefix_cons, prefix_takeWhile_iff (by decide)]
        -- Without a less-than sign the scan stops at an ampersand that begins the entity of one.
        by_cases hentity : c = qc '&' ∧ qs "lt;" <+: s
        · rw [if_pos hentity]
          exact iff_of_true rfl (.inl ⟨hentity.1.symm, hentity.2⟩)
        · rw [if_neg hentity, ih hlt.2, hword]
          exact (or_iff_right fun h => hentity ⟨h.1.symm, h.2⟩).symm

end AutoText

/-! ## The display -/

lemma AutoText.shown_of_plain (hplain : a.mightBeRichText s = false) :
    a.shown s = ⟨s, false⟩ := by
  rw [AutoText.shown, if_neg (by simp [hplain])]

/-- An escaped text that is promoted is shown as the text it was made from. -/
lemma AutoText.shown_toHtmlEscaped (hrich : a.mightBeRichText (toHtmlEscaped s) = true) :
    a.shown (toHtmlEscaped s) = ⟨s, false⟩ := by
  rw [AutoText.shown, if_pos hrich, a.decodeEntities_toHtmlEscaped,
    decide_eq_false (lt_notMem_toHtmlEscaped s)]

/-- **A neutralised value is shown as itself.**  A sink that guesses the format of a text shows what
`plainDisplay` made of it as the original, and as plain text, exactly when the value's first line
has a `<`, or does not spell the entity for one. -/
theorem plainDisplay_shown_iff (a : AutoText) (t : QString) :
    (a.shown (plainDisplay a t) = ⟨t, false⟩ ∧
        (a.mightBeRichText t = false → plainDisplay a t = t)) ↔
      (qc '<' ∈ a.firstLine t ∨ ¬ qs "&lt;" <:+: a.firstLine t) := by
  have hescaped : a.mightBeRichText (toHtmlEscaped t) = true ↔ qc '<' ∈ a.firstLine t := by
    rw [AutoText.mightBeRichText, a.dropWhile_toHtmlEscaped, a.scan_toHtmlEscaped]
    rfl
  cases hrich : a.mightBeRichText t with
  -- Text that is not promoted is handed over as it is, and shown as it is.
  | false =>
      have hplain : plainDisplay a t = t := if_neg (by simp [hrich])
      rw [hplain, AutoText.shown_of_plain hrich]
      refine iff_of_true ⟨rfl, fun _ => rfl⟩ ?_
      by_cases hlt : qc '<' ∈ a.firstLine t
      · exact .inl hlt
      · exact .inr fun hentity => absurd ((AutoText.scan_of_lt_notMem hlt).2 hentity)
          (by rw [← AutoText.mightBeRichText, hrich]; simp)
  | true =>
      have hplain : plainDisplay a t = toHtmlEscaped t := if_pos hrich
      rw [hplain]
      by_cases hlt : qc '<' ∈ a.firstLine t
      · rw [AutoText.shown_toHtmlEscaped (hescaped.2 hlt)]
        exact iff_of_true ⟨rfl, fun h => absurd h (by simp)⟩ (.inl hlt)
      · -- promoted for an entity, and the escape of that is not promoted again
        have hentity : qs "&lt;" <:+: a.firstLine t := (AutoText.scan_of_lt_notMem hlt).1 hrich
        have hamp : qc '&' ∈ t :=
          (List.dropWhile_sublist _).subset ((List.takeWhile_prefix _).subset
            (hentity.subset (by decide)))
        have hverbatim : a.mightBeRichText (toHtmlEscaped t) = false := by
          simpa using fun h => hlt (hescaped.1 h)
        rw [AutoText.shown_of_plain hverbatim]
        refine iff_of_false (fun h => toHtmlEscaped_ne hamp (congrArg Shown.text h.1)) ?_
        rintro (hmem | hno)
        · exact hlt hmem
        · exact hno hentity

/-- The entity of `<` is shown with its escape. -/
theorem plainDisplay_entity :
    AutoText.plain.shown (plainDisplay .plain (qs "&lt;")) = ⟨qs "&amp;lt;", false⟩ ∧
      AutoText.plain.shown (plainDisplay .plain (qs "&lt;")) ≠ ⟨qs "&lt;", false⟩ := by
  have hshown : AutoText.plain.shown (plainDisplay .plain (qs "&lt;")) =
      ⟨qs "&amp;lt;", false⟩ := by
    have hdisplay : plainDisplay .plain (qs "&lt;") = qs "&amp;lt;" := by decide
    rw [hdisplay, AutoText.shown_of_plain (by decide)]
  exact ⟨hshown, by rw [hshown]; decide⟩

end LibreKDE
