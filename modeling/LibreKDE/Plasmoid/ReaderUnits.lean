import LibreKDE.Framework.Words
import LibreKDE.Plasmoid.ReaderNames

/-!
# Readers enumerated anew

A PC/SC name is `model (serial) NN NN`.  The model may itself hold parentheses and words that look
like an index; the serial number holds no parentheses, so the last group is always its own
(`lastGroup_text`), and at most the two indices are stripped from the words (`readerBaseName_text`).

`sameReaderUnit` therefore says of two such names that the models have the same words and the
serial numbers are equal, whatever the indices are, and on all names it is a partial equivalence
(`sameReaderUnit_spec`).
-/

namespace LibreKDE.Plasmoid

open Words

/-- The name of a reader whose serial number qualifies as a key. -/
structure PcscName (t : CharClasses) where
  model : QString
  serial : QString
  slot : QString
  interface : QString
  opening_notMem : qc '(' ∉ serial
  closing_notMem : qc ')' ∉ serial
  long : 4 ≤ (QString.trimmed t serial).length
  digit : (QString.trimmed t serial).any t.isDigit = true
  slot_hex : slot.length = 2 ∧ ∀ c ∈ slot, isHexDigit c = true
  interface_hex : interface.length = 2 ∧ ∀ c ∈ interface, isHexDigit c = true

namespace PcscName

variable {t : CharClasses} (n : PcscName t)

/-- `model (serial) NN NN`. -/
def text : QString :=
  n.model ++ qs " (" ++ n.serial ++ qs ") " ++ n.slot ++ qs " " ++ n.interface

end PcscName

/-! ## Searching from the end -/

/-- The last place of a character is before what does not hold it. -/
lemma lastIndexOf_append {c : QChar} {before after : QString} (hafter : c ∉ after) :
    QString.lastIndexOf c (before ++ c :: after) = some before.length := by
  have hreverse : (before ++ c :: after).reverse = after.reverse ++ c :: before.reverse := by
    rw [List.reverse_append, List.reverse_cons, List.append_assoc, List.singleton_append]
  have hfind : (after.reverse ++ c :: before.reverse).findIdx? (fun d => d = c) =
      some after.length := by
    rw [List.findIdx?_append, List.findIdx?_eq_none_iff.2, List.findIdx?_cons]
    · simp
    · intro d hd
      exact decide_eq_false fun heq => hafter (heq ▸ List.mem_reverse.1 hd)
  rw [QString.lastIndexOf, hreverse, hfind, Option.map_some, List.length_append, List.length_cons]
  congr 1
  omega

/-- A name's last group, where the text in it opens none and the text after it closes none. -/
lemma lastGroup_append {before group after : QString} (hgroup : qc '(' ∉ group)
    (hafter : qc ')' ∉ after) :
    lastGroup ((before ++ qc '(' :: group) ++ qc ')' :: after) =
      some (before.length, (before ++ qc '(' :: group).length) := by
  have hpos : ¬ (before ++ qc '(' :: group).length < 1 := by
    rw [List.length_append, List.length_cons]
    omega
  rw [lastGroup, lastIndexOf_append hafter]
  simp only [if_neg hpos, List.take_left, lastIndexOf_append hgroup, Option.map_some]

/-! ## Indices -/

variable {w : QString}

lemma isHexDigit_ne {c : QChar} (hc : isHexDigit c = true) :
    c ≠ qc '(' ∧ c ≠ qc ')' ∧ c ≠ qc ' ' := by
  refine ⟨?_, ?_, ?_⟩
  · rintro rfl
    exact absurd hc (by decide)
  · rintro rfl
    exact absurd hc (by decide)
  · rintro rfl
    exact absurd hc (by decide)

/-- An index is one word, and no part of a group. -/
lemma notMem_of_hex (hw : w.length = 2 ∧ ∀ c ∈ w, isHexDigit c = true) :
    qc '(' ∉ w ∧ qc ')' ∉ w ∧ qc ' ' ∉ w :=
  ⟨fun h => (isHexDigit_ne (hw.2 _ h)).1 rfl, fun h => (isHexDigit_ne (hw.2 _ h)).2.1 rfl,
    fun h => (isHexDigit_ne (hw.2 _ h)).2.2 rfl⟩

lemma slotIndexToken_of_hex (hw : w.length = 2 ∧ ∀ c ∈ w, isHexDigit c = true) :
    slotIndexToken w = true := by
  obtain ⟨c, d, rfl⟩ := List.length_eq_two.1 hw.1
  have hc := hw.2 c (by simp)
  have hd := hw.2 d (by simp)
  simp [slotIndexToken, hc, hd]

/-- Two indices at the end are stripped, and nothing before them. -/
lemma dropIndices_two {i j : QString} (hi : slotIndexToken i = true) (hj : slotIndexToken j = true)
    (tokens : List QString) : dropIndices 2 (j :: i :: tokens) = tokens := by
  rw [dropIndices, if_pos hj, dropIndices, if_pos hi, dropIndices]

/-! ## The two keys -/

namespace PcscName

variable {t : CharClasses} (n : PcscName t)

lemma words_slot : words (qc ' ') n.slot = [n.slot] :=
  words_of_notMem (List.ne_nil_of_length_pos (by rw [n.slot_hex.1]; omega))
    (notMem_of_hex n.slot_hex).2.2

lemma words_interface : words (qc ' ') n.interface = [n.interface] :=
  words_of_notMem (List.ne_nil_of_length_pos (by rw [n.interface_hex.1]; omega))
    (notMem_of_hex n.interface_hex).2.2

/-- What follows the group. -/
def indices : QString := qc ' ' :: (n.slot ++ qc ' ' :: n.interface)

/-- The name, at the parenthesis that opens its last group and at the one that closes it. -/
lemma text_eq :
    n.text = ((n.model ++ [qc ' ']) ++ qc '(' :: n.serial) ++ qc ')' :: n.indices := by
  have hopen : qs " (" = [qc ' ', qc '('] := rfl
  have hclose : qs ") " = [qc ')', qc ' '] := rfl
  have hspace : qs " " = [qc ' '] := rfl
  rw [text, indices, hopen, hclose, hspace]
  simp only [List.append_assoc, List.cons_append, List.nil_append]

lemma lastGroup_text :
    lastGroup n.text =
       some ((n.model ++ [qc ' ']).length,
          ((n.model ++ [qc ' ']) ++ qc '(' :: n.serial).length) := by
  have hafter : qc ')' ∉ n.indices := by
    have hslot := (notMem_of_hex n.slot_hex).2.1
    have hinterface := (notMem_of_hex n.interface_hex).2.1
    have hspace : qc ')' ≠ qc ' ' := by decide
    simp [indices, hslot, hinterface, hspace]
  rw [text_eq, lastGroup_append n.opening_notMem hafter]

/-- The key is the serial number. -/
lemma readerSerialKey_text : readerSerialKey t n.text = QString.trimmed t n.serial := by
  have hlong : ¬ (QString.trimmed t n.serial).length < 4 := Nat.not_lt.2 n.long
  have hkey : (n.text.take ((n.model ++ [qc ' ']) ++ qc '(' :: n.serial).length).drop
      ((n.model ++ [qc ' ']).length + 1) = n.serial := by
    rw [text_eq, List.take_left, ← List.drop_drop, List.drop_left]
    rfl
  rw [readerSerialKey, lastGroup_text]
  simp only [hkey, if_neg hlong, n.digit, if_true]

/-- The base name has the words of the model. -/
lemma readerBaseName_text :
    readerBaseName n.text = [qc ' '].intercalate (words (qc ' ') n.model) := by
  have hbase : n.text.take (n.model ++ [qc ' ']).length ++
      n.text.drop (((n.model ++ [qc ' ']) ++ qc '(' :: n.serial).length + 1) =
        n.model ++ qc ' ' :: n.indices := by
    rw [text_eq, ← List.drop_drop, List.drop_left, List.append_assoc, List.take_left]
    simp
  have hwords : words (qc ' ') (n.model ++ qc ' ' :: n.indices) =
      words (qc ' ') n.model ++ [n.slot, n.interface] := by
    rw [words_append, indices, words_cons, words_append, words_slot, words_interface]
    rfl
  have htokens : ((n.model ++ qc ' ' :: n.indices).splitOn (qc ' ')).filter (fun w => w ≠ []) =
      words (qc ' ') n.model ++ [n.slot, n.interface] := hwords
  rw [readerBaseName, lastGroup_text]
  simp only [hbase, htokens, List.reverse_append, List.reverse_cons, List.reverse_nil,
    List.nil_append, List.cons_append]
  rw [dropIndices_two (slotIndexToken_of_hex n.slot_hex)
    (slotIndexToken_of_hex n.interface_hex), List.reverse_reverse]

lemma readerSerialKey_text_ne_nil : readerSerialKey t n.text ≠ [] := by
  rw [readerSerialKey_text]
  intro hnil
  have hlong := n.long
  rw [hnil, List.length_nil] at hlong
  omega

/-- Two names are of one unit when the models have the same words and the serials are equal. -/
lemma sameReaderUnit_text (n n' : PcscName t) :
    sameReaderUnit t n.text n'.text = true ↔
      words (qc ' ') n.model = words (qc ' ') n'.model ∧
        QString.trimmed t n.serial = QString.trimmed t n'.serial := by
  have hkey := n.readerSerialKey_text_ne_nil
  rw [sameReaderUnit, decide_eq_true_iff, and_iff_right hkey, readerSerialKey_text,
    readerSerialKey_text, readerBaseName_text, readerBaseName_text, intercalate_words_inj]
  exact and_comm

end PcscName

/-! ## All names -/

variable {t : CharClasses} {a b c : QString}

lemma sameReaderUnit_eq_true :
    sameReaderUnit t a b = true ↔
      readerSerialKey t a ≠ [] ∧ readerSerialKey t a = readerSerialKey t b ∧
        readerBaseName a = readerBaseName b := by
  rw [sameReaderUnit, decide_eq_true_iff]

lemma sameReaderUnit_symm (hab : sameReaderUnit t a b = true) : sameReaderUnit t b a = true := by
  obtain ⟨hkey, hkeys, hbase⟩ := sameReaderUnit_eq_true.1 hab
  exact sameReaderUnit_eq_true.2 ⟨hkeys ▸ hkey, hkeys.symm, hbase.symm⟩

lemma sameReaderUnit_trans (hab : sameReaderUnit t a b = true)
    (hbc : sameReaderUnit t b c = true) : sameReaderUnit t a c = true := by
  obtain ⟨hkey, hkeys, hbase⟩ := sameReaderUnit_eq_true.1 hab
  obtain ⟨-, hkeys', hbase'⟩ := sameReaderUnit_eq_true.1 hbc
  exact sameReaderUnit_eq_true.2 ⟨hkey, hkeys.trans hkeys', hbase.trans hbase'⟩

/-- A name without a key is of no unit. -/
lemma sameReaderUnit_eq_false (hkey : readerSerialKey t a = [] ∨ readerSerialKey t b = []) :
    sameReaderUnit t a b = false := by
  rw [Bool.eq_false_iff]
  intro hab
  obtain ⟨hne, hkeys, -⟩ := sameReaderUnit_eq_true.1 hab
  rcases hkey with ha | hb
  · exact hne ha
  · exact hne (hkeys.trans hb)

/-- On PC/SC names `sameReaderUnit` compares the words of the models and the serial numbers; on
all names it is symmetric and transitive, and fails where either has no serial number. -/
theorem sameReaderUnit_spec (t : CharClasses) :
    (∀ n n' : PcscName t, sameReaderUnit t n.text n'.text = true ↔
      words (qc ' ') n.model = words (qc ' ') n'.model ∧
        QString.trimmed t n.serial = QString.trimmed t n'.serial) ∧
    (∀ a b, sameReaderUnit t a b = sameReaderUnit t b a) ∧
    (∀ a b c, sameReaderUnit t a b = true → sameReaderUnit t b c = true →
      sameReaderUnit t a c = true) ∧
    (∀ a b, readerSerialKey t a = [] ∨ readerSerialKey t b = [] →
      sameReaderUnit t a b = false) := by
  refine ⟨PcscName.sameReaderUnit_text, fun a b => ?_, fun _ _ _ => sameReaderUnit_trans,
    fun _ _ => sameReaderUnit_eq_false⟩
  rw [Bool.eq_iff_iff]
  exact ⟨sameReaderUnit_symm, sameReaderUnit_symm⟩

/-- A reader in a slot. -/
def PcscName.gemalto (slot : QString)
    (slot_hex : slot.length = 2 ∧ ∀ c ∈ slot, isHexDigit c = true) : PcscName .plain where
  model := qs "Gemalto PC Twin Reader"
  serial := qs "69988A87"
  slot := slot
  interface := qs "00"
  opening_notMem := by decide
  closing_notMem := by decide
  long := by decide
  digit := by decide
  slot_hex := slot_hex
  interface_hex := ⟨rfl, List.all_eq_true.1 (by decide)⟩

/-- The reader under another index, and another reader of its model. -/
theorem sameReaderUnit_gemalto :
    sameReaderUnit .plain (qs "Gemalto PC Twin Reader (69988A87) 02 00")
        (qs "Gemalto PC Twin Reader (69988A87) 00 00") = true ∧
      sameReaderUnit .plain (qs "Gemalto PC Twin Reader (AAAA1111) 00 00")
        (qs "Gemalto PC Twin Reader") = false :=
  ⟨((sameReaderUnit_spec .plain).1 (.gemalto (qs "02") ⟨rfl, List.all_eq_true.1 (by decide)⟩)
      (.gemalto (qs "00") ⟨rfl, List.all_eq_true.1 (by decide)⟩)).2 ⟨rfl, rfl⟩,
    (sameReaderUnit_spec .plain).2.2.2 _ _ (.inr (by decide))⟩

end LibreKDE.Plasmoid
