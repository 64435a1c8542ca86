import LibreKDE.Framework.Machine
import LibreKDE.Framework.TwoWay
import LibreKDE.Plasmoid.SmartCardHandler

/-!
# The reader chooser of the configuration page

The page holds the name a widget is bound to (`cfgBoundReaderName`, "" for Auto) and shows a label
in an editable field.  Each is written when the other changes, except that a field being edited is
left alone.  The list behind the labels is swapped whenever a reader comes, goes or is relabelled,
and the swap makes the box put a text of its own into the field, which passes through to the
binding; `refreshFromRoster` saves both and puts them back.

What the box puts there belongs to the toolkit: an event of the roster carries it, and it may be
anything.  `binding_said` says that none of it matters: the binding is what was last said about it,
by typing, by picking or by the configuration itself, exactly as long as each of these is taken.
`field_tells` is about the other cell, what the field shows.
-/

namespace LibreKDE.Plasmoid

open Reactive

/-! ## Labels -/

namespace SmartCardHandler

variable (h : PlasmoidHost) (readers : List AgentReader)

/-- `m_readerDisplayNames`, as `updateReaderRosters` rebuilds it: raw names and labels, of two
readers of a name the later one's. -/
def readerDisplayNames : QString → Option QString :=
  readers.foldl
    (fun labels x => Function.update labels x.name (some (Readers.readerLabel h.toHost x)))
    fun _ => none

/-- The label of a reader by its raw name, and the name itself where no reader has it. -/
def readerDisplayName (rawName : QString) : QString :=
  (readerDisplayNames h readers rawName).getD rawName

variable {h} {readers}

/-- A name in the roster is labelled as one of the readers that carry it. -/
lemma readerDisplayName_of_mem {x : AgentReader} (hx : x ∈ readers) :
    ∃ y ∈ readers, y.name = x.name ∧
      readerDisplayName h readers x.name = Readers.readerLabel h.toHost y := by
  induction readers using List.reverseRecOn with
  | nil => cases hx
  | append_singleton readers y ih =>
      rw [readerDisplayName, readerDisplayNames, List.foldl_append, List.foldl_cons, List.foldl_nil]
      by_cases hxy : x.name = y.name
      · rw [hxy, Function.update_self]
        exact ⟨y, by simp, rfl, rfl⟩
      · rw [Function.update_of_ne hxy]
        have hmem : x ∈ readers := by
          rcases List.mem_append.1 hx with hx | hx
          · exact hx
          · exact absurd (congrArg AgentReader.name (List.mem_singleton.1 hx)) hxy
        obtain ⟨z, hz, hname, hlabel⟩ := ih hmem
        exact ⟨z, List.mem_append_left _ hz, hname, hlabel⟩

end SmartCardHandler

/-! ## The page -/

/-- An item of the box: the label, and the name the binding is keyed on. -/
structure ReaderItem where
  text : QString
  value : QString
  deriving DecidableEq, Repr

/-- The page: the binding, the items of the box, the text of its field, and whether the field has
the focus. -/
structure ConfigGeneral where
  cfgBoundReaderName : QString := []
  model : List ReaderItem := []
  editText : QString := []
  activeFocus : Bool := false
  deriving DecidableEq, Repr

namespace ConfigGeneral

/-- The item that binds the widget to no reader. -/
def autoLabel (h : PlasmoidHost) : QString :=
  i18nc h.locale (qs "@item:inlistbox reader binding follows the active card")
    (qs "Auto (follow active card)") []

/-- The items: the automatic one first, and then a label for each reader. -/
def rosterModel (h : PlasmoidHost) (readers : List AgentReader) : List ReaderItem :=
  ⟨autoLabel h, []⟩ ::
    readers.map fun x => ⟨SmartCardHandler.readerDisplayName h readers x.name, x.name⟩

/-- The label a binding is shown under; an unknown name is shown as it is. -/
def displayForValue (h : PlasmoidHost) (m : List ReaderItem) (value : QString) : QString :=
  if value = [] then autoLabel h
  else match m.find? fun item => item.value = value with
    | some item => item.text
    | none => value

/-- The binding a text stands for; an unknown text is a name. -/
def valueForText (h : PlasmoidHost) (m : List ReaderItem) (text : QString) : QString :=
  if text = autoLabel h ∨ text = [] then []
  else match m.find? fun item => item.text = text with
    | some item => item.value
    | none => text

/-- The field and the binding, as the page ties them. -/
def link (h : PlasmoidHost) (m : List ReaderItem) : Link QString QString where
  read := valueForText h m
  render := displayForValue h m

variable (h : PlasmoidHost) (s : ConfigGeneral)

/-- The two values that the page keeps in step. -/
def cells : Cells QString QString := ⟨s.editText, s.cfgBoundReaderName⟩

/-- The page with the two values written. -/
def withCells (c : Cells QString QString) : ConfigGeneral :=
  { s with editText := c.shown, cfgBoundReaderName := c.held }

/-- How deep the handlers may nest. -/
def depth : ℕ := 5

/-- The field is written: `onEditTextChanged`, and what it sets off. -/
def setEditText (text : QString) : Option ConfigGeneral :=
  (Link.writeShown (link h s.model) (!s.activeFocus) depth s.cells text).map s.withCells

/-- The binding is written: `onCfg_boundReaderNameChanged`, and what it sets off. -/
def setCfgBoundReaderName (name : QString) : Option ConfigGeneral :=
  (Link.writeHeld (link h s.model) (!s.activeFocus) depth s.cells name).map s.withCells

/-- The list is swapped; the box may put a text of its own into the field at that. -/
def swap (m : List ReaderItem) (reset : Option QString) : Option ConfigGeneral :=
  match reset with
  | none => some { s with model := m }
  | some text => setEditText h { s with model := m } text

/-- The roster is read anew, past whatever the box makes of it. -/
def refreshFromRoster (readers : List AgentReader) (reset : Option QString) :
    Option ConfigGeneral := do
  let saved := s.cfgBoundReaderName
  let savedText := s.editText
  let wasFocused := s.activeFocus
  let s ← s.swap h (rosterModel h readers) reset
  let s ← s.setEditText h (if wasFocused then savedText else displayForValue h s.model saved)
  s.setCfgBoundReaderName h saved

end ConfigGeneral

/-- What can happen to the page. -/
inductive ConfigEvent
  /-- The field gains or loses the focus. -/
  | focus (on : Bool)
  /-- The user edits the field. -/
  | typed (text : QString)
  /-- An item is picked. -/
  | picked (i : ℕ)
  /-- The configuration writes the stored binding into the page. -/
  | injected (name : QString)
  /-- A reader comes, goes or is relabelled. -/
  | availableReaderNamesChanged (readers : List AgentReader) (reset : Option QString)

namespace ConfigGeneral

variable (h : PlasmoidHost) (s : ConfigGeneral)

/-- What the page makes of an event; `none` when its handlers keep calling each other. -/
def answer : ConfigEvent → Option ConfigGeneral
  | .focus on => some { s with activeFocus := on }
  | .typed text => s.setEditText h text
  | .picked i => match s.model[i]? with
      | none => some s
      | some item => s.setEditText h item.text
  | .injected name => s.setCfgBoundReaderName h name
  | .availableReaderNamesChanged readers reset => s.refreshFromRoster h readers reset

/-- What each event makes of the page; it stays as it was where the handlers do not come to rest,
which `binding_said` excludes. -/
def step (e : ConfigEvent) : ConfigGeneral := (s.answer h e).getD s

/-- A reader of the agent has a name, and a label. -/
def Named (readers : List AgentReader) : Prop :=
  ∀ x ∈ readers, x.name ≠ [] ∧ Readers.readerLabel h.toHost x ≠ []

instance decidableNamed (readers : List AgentReader) : Decidable (Named h readers) :=
  inferInstanceAs (Decidable (∀ x ∈ readers, _ ∧ _))

/-- Who edits the field is in it and changes it; who picks, picks an item. -/
def allows : ConfigEvent → Prop
  | .focus _ | .injected _ => True
  | .typed text => s.activeFocus = true ∧ text ≠ s.editText
  | .picked i => i < s.model.length
  | .availableReaderNamesChanged readers _ => Named h readers

instance decidableAllows : (e : ConfigEvent) → Decidable (s.allows h e)
  | .focus _ | .injected _ => isTrue trivial
  | .typed text => inferInstanceAs (Decidable (_ ∧ text ≠ s.editText))
  | .picked i => inferInstanceAs (Decidable (i < s.model.length))
  | .availableReaderNamesChanged readers _ => decidableNamed h readers

/-- The page as it opens, seeded from the roster; the stored binding may be in it or not. -/
def Start (s : ConfigGeneral) : Prop :=
  ∃ name readers reset, Named h readers ∧
    refreshFromRoster h { cfgBoundReaderName := name } readers reset = some s

/-- The page in its environment. -/
def machine : Machine ConfigGeneral ConfigEvent where
  start := Start h
  allows s := s.allows h
  step s := s.step h

instance (s : ConfigGeneral) (e : ConfigEvent) : Decidable ((machine h).allows s e) :=
  decidableAllows h s e

/-! ## Labels and names -/

/-- A list to choose from: a name has one label, the name "" the Auto label, and no other label is
empty. -/
structure Legible (m : List ReaderItem) : Prop where
  auto : ∀ item ∈ m, item.value = [] → item.text = autoLabel h
  labelled : ∀ item ∈ m, item.value ≠ [] → item.text ≠ []
  one : ∀ x ∈ m, ∀ y ∈ m, x.value = y.value → x.text = y.text

section Labels

variable {h} {s} {m : List ReaderItem} {readers : List AgentReader} {item : ReaderItem}
  {text value : QString}

lemma mem_rosterModel : item ∈ rosterModel h readers ↔
    item = ⟨autoLabel h, []⟩ ∨
      ∃ x ∈ readers, item = ⟨SmartCardHandler.readerDisplayName h readers x.name, x.name⟩ := by
  simp [rosterModel, eq_comm]

lemma legible_rosterModel (hnamed : Named h readers) : Legible h (rosterModel h readers) where
  auto item hitem hvalue := by
    rcases mem_rosterModel.1 hitem with rfl | ⟨x, hx, rfl⟩
    · rfl
    · exact absurd hvalue (hnamed x hx).1
  labelled item hitem hvalue := by
    rcases mem_rosterModel.1 hitem with rfl | ⟨x, hx, rfl⟩
    · exact absurd rfl hvalue
    · obtain ⟨y, hy, -, hlabel⟩ := SmartCardHandler.readerDisplayName_of_mem (h := h) hx
      exact hlabel ▸ (hnamed y hy).2
  one x hx y hy hvalue := by
    rcases mem_rosterModel.1 hx with rfl | ⟨x, hmem, rfl⟩ <;>
      rcases mem_rosterModel.1 hy with rfl | ⟨y, hmem', rfl⟩
    · rfl
    · exact absurd hvalue.symm (hnamed y hmem').1
    · exact absurd hvalue (hnamed x hmem).1
    · exact congrArg (SmartCardHandler.readerDisplayName h readers) hvalue

lemma displayForValue_nil : displayForValue h m [] = autoLabel h := if_pos rfl

lemma valueForText_autoLabel : valueForText h m (autoLabel h) = [] := if_pos (.inl rfl)

/-- An item's name is shown under the item's label. -/
lemma displayForValue_of_mem (hm : Legible h m) (hitem : item ∈ m) :
    displayForValue h m item.value = item.text := by
  by_cases hvalue : item.value = []
  · rw [hvalue, displayForValue_nil, hm.auto item hitem hvalue]
  · rw [displayForValue, if_neg hvalue]
    cases hfind : m.find? fun y => y.value = item.value with
    | none => simpa using List.find?_eq_none.1 hfind item hitem
    | some y =>
        have hy : y.value = item.value := by simpa using List.find?_some hfind
        exact hm.one y (List.mem_of_find?_eq_some hfind) item hitem hy

/-- A label among the items is read as a name with that label. -/
lemma displayForValue_valueForText (hm : Legible h m) (hitem : item ∈ m) :
    displayForValue h m (valueForText h m item.text) = item.text := by
  by_cases hauto : item.text = autoLabel h
  · rw [hauto, valueForText_autoLabel, displayForValue_nil]
  · have htext : item.text ≠ [] := hm.labelled item hitem fun hvalue =>
      hauto (hm.auto item hitem hvalue)
    rw [valueForText, if_neg (not_or.2 ⟨hauto, htext⟩)]
    cases hfind : m.find? fun y => y.text = item.text with
    | none => simpa using List.find?_eq_none.1 hfind item hitem
    | some y =>
        have hy : y.text = item.text := by simpa using List.find?_some hfind
        exact (displayForValue_of_mem hm (List.mem_of_find?_eq_some hfind)).trans hy

/-- A name is shown under an item's label or, where no item has it, as it is. -/
lemma displayForValue_cases (m : List ReaderItem) (value : QString) :
    (∃ item ∈ m, displayForValue h m value = item.text) ∨ value = [] ∨
      displayForValue h m value = value := by
  by_cases hvalue : value = []
  · exact .inr (.inl hvalue)
  · rw [displayForValue, if_neg hvalue]
    cases hfind : m.find? fun y => y.value = value with
    | none => exact .inr (.inr rfl)
    | some y => exact .inl ⟨y, List.mem_of_find?_eq_some hfind, rfl⟩

/-- The labels are steady: what a label is read as is shown under that label. -/
lemma steady_link (hm : Legible h m) : (link h m).Steady := by
  intro value
  change displayForValue h m (valueForText h m (displayForValue h m value)) =
    displayForValue h m value
  rcases displayForValue_cases (h := h) m value with ⟨item, hitem, hshown⟩ | rfl | hshown
  · rw [hshown, displayForValue_valueForText hm hitem]
  · rw [displayForValue_nil, valueForText_autoLabel, displayForValue_nil]
  · rw [hshown]
    -- No item has the name, so the text is the name itself; it may yet be some item's label.
    by_cases hauto : value = autoLabel h ∨ value = []
    · rw [valueForText, if_pos hauto, displayForValue_nil]
      rcases hauto with hauto | rfl
      · exact hauto.symm
      · exact displayForValue_nil.symm.trans hshown
    · rw [valueForText, if_neg hauto]
      cases hfind : m.find? fun y => y.text = value with
      | none => exact hshown
      | some y =>
          have hy : y.text = value := by simpa using List.find?_some hfind
          exact (displayForValue_of_mem hm (List.mem_of_find?_eq_some hfind)).trans hy

end Labels

/-! ## One event -/

section Events

variable {h} {s} {readers : List AgentReader} {reset : Option QString} {text name : QString}

@[simp] lemma cells_withCells (c : Cells QString QString) : (s.withCells c).cells = c := rfl

@[simp] lemma withCells_cells : s.withCells s.cells = s := rfl

@[simp] lemma withCells_withCells (c d : Cells QString QString) :
    (s.withCells c).withCells d = s.withCells d := rfl

@[simp] lemma withCells_model (c : Cells QString QString) : (s.withCells c).model = s.model := rfl

@[simp] lemma withCells_activeFocus (c : Cells QString QString) :
    (s.withCells c).activeFocus = s.activeFocus := rfl

/-- The handlers come to rest on a new text. -/
lemma setEditText_eq (hm : Legible h s.model) :
    s.setEditText h text =
      some (s.withCells ((link h s.model).afterShown (!s.activeFocus) s.cells text)) := by
  rw [setEditText, depth, Link.writeShown_eq (steady_link hm), Option.map_some]

/-- The handlers come to rest on a new binding. -/
lemma setCfgBoundReaderName_eq (hm : Legible h s.model) :
    s.setCfgBoundReaderName h name =
      some (s.withCells ((link h s.model).afterHeld (!s.activeFocus) s.cells name)) := by
  rw [setCfgBoundReaderName, depth, Link.writeHeld_eq (steady_link hm),
    Option.map_some]

/-- The box may put what it likes into the field. -/
lemma swap_eq {m : List ReaderItem} (hm : Legible h m) :
    ∃ c, s.swap h m reset = some ({ s with model := m }.withCells c) := by
  cases reset with
  | none => exact ⟨s.cells, rfl⟩
  | some text => exact ⟨_, setEditText_eq (s := { s with model := m }) hm⟩

/-- **A roster read anew.**  The binding stays, whatever the box puts into the field; a field in
use stays as well, and another one shows the binding. -/
lemma refreshFromRoster_eq (hnamed : Named h readers) :
    s.refreshFromRoster h readers reset = some { s with
      model := rosterModel h readers
      editText := if s.activeFocus then s.editText
        else displayForValue h (rosterModel h readers) s.cfgBoundReaderName } := by
  have hm := legible_rosterModel hnamed
  obtain ⟨c, hswap⟩ : ∃ c, s.swap h (rosterModel h readers) reset =
      some ({ s with model := rosterModel h readers }.withCells c) := swap_eq hm
  generalize hu : ({ s with model := rosterModel h readers } : ConfigGeneral) = u at hswap
  have hmodel : u.model = rosterModel h readers := hu ▸ rfl
  have hfocus : u.activeFocus = s.activeFocus := hu ▸ rfl
  have hlegible : ∀ d, Legible h (u.withCells d).model := fun _ => hmodel ▸ hm
  rw [refreshFromRoster, hswap, Option.bind_eq_bind, Option.bind_some,
    setEditText_eq (hlegible c), Option.bind_some, withCells_withCells,
    setCfgBoundReaderName_eq (hlegible _)]
  simp only [cells_withCells, withCells_withCells, withCells_model, withCells_activeFocus, hfocus]
  cases hon : s.activeFocus with
  | true =>
      -- The field is in use: the text is put back, and no one answers.
      rw [Bool.not_true, Link.afterHeld_shut, if_pos rfl, if_pos rfl]
      have hshown : ((link h u.model).afterShown false c s.editText).shown = s.editText := by
        by_cases htext : s.editText = c.shown
        · rw [htext, Link.afterShown_same]
        · rw [Link.afterShown_shut htext]
      rw [hshown, ← hu, ← hon]
      rfl
  | false =>
      rw [Bool.not_false, if_neg Bool.false_ne_true, if_neg Bool.false_ne_true]
      have hcells := Link.afterHeld_afterShown (p := c) (b := s.cfgBoundReaderName)
        (steady_link (hmodel ▸ hm : Legible h u.model))
      rw [show displayForValue h u.model s.cfgBoundReaderName =
        (link h u.model).render s.cfgBoundReaderName from rfl, hcells, ← hu, ← hon]
      rfl

/-- Every event that may come is answered, and leaves a list to choose from. -/
lemma answer_step {e : ConfigEvent} (hm : Legible h s.model) (he : s.allows h e) :
    s.answer h e = some (s.step h e) ∧ Legible h (s.step h e).model := by
  have hsome : ∀ {u}, s.answer h e = some u → Legible h u.model →
      s.answer h e = some (s.step h e) ∧ Legible h (s.step h e).model := by
    intro u hu hlegible
    rw [step, hu, Option.getD_some]
    exact ⟨rfl, hlegible⟩
  cases e with
  | focus on => exact hsome rfl hm
  | typed text => exact hsome (setEditText_eq hm) hm
  | injected name => exact hsome (setCfgBoundReaderName_eq hm) hm
  | picked i =>
      obtain ⟨item, hitem⟩ : ∃ item, s.model[i]? = some item := ⟨_, List.getElem?_eq_getElem he⟩
      have hanswer : s.answer h (.picked i) = s.setEditText h item.text := by rw [answer, hitem]
      exact hsome (hanswer.trans (setEditText_eq hm)) hm
  | availableReaderNamesChanged readers reset =>
      exact hsome (refreshFromRoster_eq he) (legible_rosterModel he)

lemma step_typed (hm : Legible h s.model) (hfocus : s.activeFocus = true)
    (htext : text ≠ s.editText) :
    s.step h (.typed text) = s.withCells ⟨text, valueForText h s.model text⟩ := by
  rw [step, answer, setEditText_eq hm, hfocus, Bool.not_true, Link.afterShown_shut htext]
  rfl

lemma step_picked {i : ℕ} {item : ReaderItem} (hm : Legible h s.model)
    (hitem : s.model[i]? = some item) :
    s.step h (.picked i) =
      s.withCells ((link h s.model).afterShown (!s.activeFocus) s.cells item.text) := by
  rw [step, answer, hitem]
  exact congrArg (Option.getD · s) (setEditText_eq hm)

lemma step_injected (hm : Legible h s.model) :
    s.step h (.injected name) =
      s.withCells ((link h s.model).afterHeld (!s.activeFocus) s.cells name) := by
  rw [step, answer, setCfgBoundReaderName_eq hm, Option.getD_some]

lemma step_roster (hnamed : Named h readers) :
    s.step h (.availableReaderNamesChanged readers reset) = { s with
      model := rosterModel h readers
      editText := if s.activeFocus then s.editText
        else displayForValue h (rosterModel h readers) s.cfgBoundReaderName } := by
  rw [step, answer, refreshFromRoster_eq hnamed, Option.getD_some]

end Events

/-- The page keeps a list to choose from. -/
theorem invariant_legible : (machine h).Invariant fun s => Legible h s.model where
  start s hs := by
    obtain ⟨name, readers, reset, hnamed, hseed⟩ := hs
    rw [refreshFromRoster_eq hnamed] at hseed
    exact Option.some.inj hseed ▸ legible_rosterModel hnamed
  kept s e hm he := (answer_step hm he).2

/-! ## The binding -/

/-- What is last said about the binding: the text typed, read against the list of the moment, the
item picked, or the name the configuration writes. -/
def lastSaid (said : QString) (s : ConfigGeneral) : ConfigEvent → QString
  | .typed text => valueForText h s.model text
  | .picked i => (s.model[i]?.map ReaderItem.value).getD said
  | .injected name => name
  | .focus _ | .availableReaderNamesChanged _ _ => said

/-- When the page takes what it is told.  A label already in the field is not heard; another is
read as the first name under it.  A name the configuration writes is taken while the field is in
use, and otherwise when its label is in the field already or reads as the name. -/
def Taken (s : ConfigGeneral) : ConfigEvent → Prop
  | .picked i => ∀ item ∈ s.model[i]?,
      if item.text = s.editText then item.value = s.cfgBoundReaderName
      else valueForText h s.model item.text = item.value
  | .injected name => name = s.cfgBoundReaderName ∨ s.activeFocus = true ∨
      displayForValue h s.model name = s.editText ∨
      valueForText h s.model (displayForValue h s.model name) = name
  | _ => True

instance decidableTaken (s : ConfigGeneral) : (e : ConfigEvent) → Decidable (Taken h s e)
  | .picked i => inferInstanceAs (Decidable (∀ item ∈ s.model[i]?,
      if item.text = s.editText then item.value = s.cfgBoundReaderName
      else valueForText h s.model item.text = item.value))
  | .injected name => inferInstanceAs (Decidable (name = s.cfgBoundReaderName ∨ _ ∨ _ ∨ _))
  | .focus _ | .typed _ | .availableReaderNamesChanged _ _ => isTrue trivial

section Binding

variable {h} {s}

/-- One event leaves the binding as it was last said, exactly when it is taken. -/
lemma cfg_step {e : ConfigEvent} (hm : Legible h s.model) (he : s.allows h e) :
    (s.step h e).cfgBoundReaderName = lastSaid h s.cfgBoundReaderName s e ↔ Taken h s e := by
  cases e with
  | focus on => exact iff_of_true rfl trivial
  | typed text =>
      rw [step_typed hm he.1 he.2]
      exact iff_of_true rfl trivial
  | availableReaderNamesChanged readers reset =>
      rw [step_roster he]
      exact iff_of_true rfl trivial
  | injected name =>
      rw [step_injected hm]
      change ((link h s.model).afterHeld (!s.activeFocus) s.cells name).held = name ↔ _ ∨ _ ∨ _ ∨ _
      by_cases hsame : name = s.cfgBoundReaderName
      · rw [show name = s.cells.held from hsame, Link.afterHeld_same]
        exact iff_of_true rfl (.inl rfl)
      · rw [or_iff_right hsame]
        -- While the user is in the field the binding does not write it, and nothing comes back.
        cases hfocus : s.activeFocus with
        | true =>
            rw [Bool.not_true, Link.afterHeld_shut]
            exact iff_of_true rfl (.inl rfl)
        | false =>
            rw [Bool.not_false, Link.held_afterHeld_iff hsame, or_iff_right Bool.false_ne_true]
            exact Iff.rfl
  | picked i =>
      obtain ⟨item, hitem⟩ : ∃ item, s.model[i]? = some item := ⟨_, List.getElem?_eq_getElem he⟩
      have hmem : item ∈ s.model := List.mem_of_getElem? hitem
      rw [step_picked hm hitem, lastSaid, hitem, Option.map_some, Option.getD_some, Taken]
      simp only [hitem, Option.mem_some_iff, forall_eq']
      by_cases hsame : item.text = s.editText
      · rw [if_pos hsame, show item.text = s.cells.shown from hsame, Link.afterShown_same]
        exact eq_comm
      · rw [if_neg hsame]
        have hlabel := displayForValue_valueForText hm hmem
        rw [Link.afterShown_label hsame hlabel]
        exact Iff.rfl

end Binding

/-- Where no label stands for two names, what an item says is taken: its label is read as its
name, and its name survives being shown. -/
theorem reads_back {m : List ReaderItem} (hm : Legible h m)
    (hauto : ∀ x ∈ m, x.text = autoLabel h → x.value = [])
    (hapart : ∀ x ∈ m, ∀ y ∈ m, x.text = y.text → x.value = y.value) {item : ReaderItem}
    (hitem : item ∈ m) :
    valueForText h m item.text = item.value ∧
      valueForText h m (displayForValue h m item.value) = item.value := by
  have hread : valueForText h m item.text = item.value := by
    by_cases hlabel : item.text = autoLabel h
    · rw [hlabel, valueForText_autoLabel, hauto item hitem hlabel]
    · have htext : item.text ≠ [] := hm.labelled item hitem fun hvalue =>
        hlabel (hm.auto item hitem hvalue)
      rw [valueForText, if_neg (not_or.2 ⟨hlabel, htext⟩)]
      cases hfind : m.find? fun y => y.text = item.text with
      | none => simpa using List.find?_eq_none.1 hfind item hitem
      | some y =>
          have hy : y.text = item.text := by simpa using List.find?_some hfind
          exact hapart y (List.mem_of_find?_eq_some hfind) item hitem hy
  exact ⟨hread, (congrArg (valueForText h m) (displayForValue_of_mem hm hitem)).trans hread⟩

/-- **The binding is what was last said about it.**  In every run the handlers come to rest on
each event; and the binding stays what was last said, whatever readers come, go and are relabelled
and whatever the box puts into the field meanwhile, exactly as long as what is said is taken. -/
theorem binding_said {s : ConfigGeneral} {es : List ConfigEvent} (hs : Start h s)
    (ha : (machine h).Admits s es) :
    ((machine h).EachStep (fun s e => (s.answer h e).isSome = true) s es) ∧
      (((machine h).watch [] (lastSaid h)).Always (fun x => x.1.cfgBoundReaderName = x.2)
          (s, s.cfgBoundReaderName) es ↔
        (machine h).EachStep (Taken h) s es) := by
  have hlegible := (invariant_legible h).start s hs
  refine ⟨(invariant_legible h).kept.eachStep hlegible ha fun s e hm he => ?_, ?_⟩
  · exact Option.isSome_iff_exists.2 ⟨_, (answer_step hm he).1⟩
  · have hwatched : ((machine h).watch [] (lastSaid h)).EachStep (fun x e => Taken h x.1 e)
        (s, s.cfgBoundReaderName) es ↔ (machine h).EachStep (Taken h) s es :=
      Machine.eachStep_watch
    refine Iff.trans ?_ hwatched
    refine Machine.always_iff_eachStep
      (J := fun x => Legible h x.1.model ∧ x.1.cfgBoundReaderName = x.2)
      ?_ (fun x hx => hx.2) ?_ ⟨hlegible, rfl⟩ (Machine.admits_watch.2 ha)
    · rintro ⟨u, said⟩ e ⟨hm, hsaid⟩ he htaken
      refine ⟨(answer_step hm he).2, ?_⟩
      have hstep := (cfg_step hm he).2 htaken
      rwa [show u.cfgBoundReaderName = said from hsaid] at hstep
    · rintro ⟨u, said⟩ e ⟨hm, hsaid⟩ he htaken hsafe
      refine htaken ((cfg_step hm he).1 ?_)
      rw [show u.cfgBoundReaderName = said from hsaid]
      exact hsafe

/-- A reader whose label is not its name. -/
def omnikey : AgentReader :=
  { id := qs "1", name := qs "OMNIKEY 5422 00 00", model := qs "OMNIKEY", interface := .contact }

/-- The page opens on a roster without readers, with a stored binding that is not there. -/
def opened : ConfigGeneral where
  cfgBoundReaderName := qs "OMNIKEY 5422 00 00"
  model := [⟨qs "Auto (follow active card)", []⟩]
  editText := qs "OMNIKEY 5422 00 00"

lemma start_opened : Start .plain opened :=
  ⟨qs "OMNIKEY 5422 00 00", [], some (qs "Auto (follow active card)"), by decide, by decide⟩

/-- The bound reader is plugged in; the user clears the field, types, and picks the reader. -/
def session : List ConfigEvent :=
  [.availableReaderNamesChanged [omnikey] (some (qs "Auto (follow active card)")), .focus true,
    .typed [], .typed (qs "OM"), .availableReaderNamesChanged [omnikey] (some []), .picked 1,
    .focus false]

/-- The binding is the reader picked, under its label. -/
theorem binding_said_session :
    (((machine .plain).watch [] (lastSaid .plain)).Always (fun x => x.1.cfgBoundReaderName = x.2)
        (opened, opened.cfgBoundReaderName) session) ∧
      ((machine .plain).exec opened session).editText = qs "OMNIKEY — contact" :=
  ⟨(@binding_said .plain opened session start_opened (by decide)).2.2 (by decide), by decide⟩

/-! ## The field -/

/-- Where the text in the field comes from. -/
inductive FieldText
  /-- It is the label of the binding. -/
  | shown
  /-- The user put it there, and it was read. -/
  | edited
  /-- The list or the binding changed under a field in use. -/
  | kept
  deriving DecidableEq, Repr

/-- What becomes of the text. -/
def fieldText (f : FieldText) (s : ConfigGeneral) : ConfigEvent → FieldText
  | .typed _ => .edited
  | .picked i => if s.model[i]?.map ReaderItem.text = some s.editText then f else .shown
  | .injected name =>
      if name = s.cfgBoundReaderName then f else if s.activeFocus then .kept else .shown
  | .availableReaderNamesChanged _ _ => if s.activeFocus then .kept else .shown
  | .focus _ => f

/-- What the field tells of the binding. -/
def Tells (s : ConfigGeneral) : FieldText → Prop
  | .shown => s.editText = displayForValue h s.model s.cfgBoundReaderName
  | .edited => s.cfgBoundReaderName = valueForText h s.model s.editText
  | .kept => True

/-- The events at which the user writes the field. -/
def WritesField : ConfigEvent → Prop
  | .typed _ | .picked _ => True
  | _ => False

section Field

variable {h} {s}

lemma tells_step {f : FieldText} {e : ConfigEvent} (hm : Legible h s.model) (hf : Tells h s f)
    (he : s.allows h e) : Tells h (s.step h e) (fieldText f s e) := by
  cases e with
  | focus on => cases f <;> exact hf
  | typed text =>
      rw [step_typed hm he.1 he.2]
      rfl
  | availableReaderNamesChanged readers reset =>
      rw [step_roster he, fieldText]
      cases hfocus : s.activeFocus with
      | true => trivial
      | false => rfl
  | injected name =>
      rw [step_injected hm, fieldText]
      by_cases hsame : name = s.cfgBoundReaderName
      · rwa [if_pos hsame, show name = s.cells.held from hsame, Link.afterHeld_same,
          withCells_cells]
      · rw [if_neg hsame]
        cases hfocus : s.activeFocus with
        | true => trivial
        | false => exact Link.shown_afterHeld (steady_link hm) hsame
  | picked i =>
      obtain ⟨item, hitem⟩ : ∃ item, s.model[i]? = some item := ⟨_, List.getElem?_eq_getElem he⟩
      have hmem : item ∈ s.model := List.mem_of_getElem? hitem
      rw [step_picked hm hitem, fieldText, hitem, Option.map_some]
      by_cases hsame : item.text = s.editText
      · rwa [if_pos (congrArg some hsame), show item.text = s.cells.shown from hsame,
          Link.afterShown_same, withCells_cells]
      · rw [if_neg fun htext => hsame (Option.some.inj htext)]
        -- A label among the items is the label of what it is read as.
        have hlabel := displayForValue_valueForText hm hmem
        rw [Link.afterShown_label hsame hlabel]
        exact hlabel.symm

/-- A field in use is left as the user has it. -/
lemma editText_step {e : ConfigEvent} (hm : Legible h s.model) (he : s.allows h e)
    (hfocus : s.activeFocus = true) (hwrites : ¬ WritesField e) :
    (s.step h e).editText = s.editText := by
  cases e with
  | focus on => rfl
  | typed text => exact absurd trivial hwrites
  | picked i => exact absurd trivial hwrites
  | injected name =>
      rw [step_injected hm, hfocus, Bool.not_true, Link.afterHeld_shut]
      rfl
  | availableReaderNamesChanged readers reset =>
      rw [step_roster he, hfocus, if_pos rfl]

end Field

/-- **What the field tells.**  In every run the field shows the label of the binding or, since the
user wrote it, reads as the binding, except where the list or the binding changed while the field
was in use; and a field in use is written by nobody but the user. -/
theorem field_tells {s : ConfigGeneral} {es : List ConfigEvent} (hs : Start h s)
    (ha : (machine h).Admits s es) :
    ((machine h).watch .shown fieldText).Always (fun x => Tells h x.1 x.2) (s, .shown) es ∧
      (machine h).EachStep (fun s e => s.activeFocus = true → ¬ WritesField e →
        (s.step h e).editText = s.editText) s es := by
  have hlegible := (invariant_legible h).start s hs
  constructor
  · have hkept : ((machine h).watch .shown fieldText).Kept fun x =>
        Legible h x.1.model ∧ Tells h x.1 x.2 :=
      fun x e hx he => ⟨(answer_step hx.1 he).2, tells_step hx.1 hx.2 he⟩
    have hstart : Tells h s .shown := by
      obtain ⟨name, readers, reset, hnamed, hseed⟩ := hs
      rw [refreshFromRoster_eq hnamed] at hseed
      rw [← Option.some.inj hseed]
      rfl
    exact (hkept.always ⟨hlegible, hstart⟩ (Machine.admits_watch.2 ha)).mono fun x hx => hx.2
  · exact (invariant_legible h).kept.eachStep hlegible ha fun s e hm he => editText_step hm he

/-- The same session, with the field typed into in its middle. -/
theorem field_tells_session :
    ((machine .plain).watch .shown fieldText).Always (fun x => Tells .plain x.1 x.2)
      (opened, .shown) session :=
  (@field_tells .plain opened session start_opened (by decide)).1

end ConfigGeneral

end LibreKDE.Plasmoid
