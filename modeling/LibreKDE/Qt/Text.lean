import Mathlib.Data.List.Basic
import Mathlib.Data.Nat.Digits.Defs

/-!
# Strings as the toolkit has them

`QString` is a list of UTF-16 code units, compared, sliced and searched by code unit.  The
source's literals are all in the basic multilingual plane, so `qs` turns one into its code
units character by character.

Localized copy goes through `ki18nd(…)`: a message id looked up in a catalogue, the
numbered arguments substituted in *one* pass, so that an argument is never rescanned for
placeholders.  `Locale` is what the catalogue and the number formatter of the running
session contribute; `Locale.untranslated` is the session without a catalogue, where each
message is its own id.
-/

namespace LibreKDE

/-- One UTF-16 code unit. -/
abbrev QChar := UInt16

/-- A string, as its code units. -/
abbrev QString := List QChar

instance (s : QString) (l : List QString) : Decidable (s ∈ l) :=
  List.instDecidableMemOfLawfulBEq s l

/-- The code unit of a character of the basic multilingual plane. -/
def qc (c : Char) : QChar := UInt16.ofNat c.toNat

/-- A string literal of the source. -/
def qs (s : String) : QString := s.toList.map qc

/-! ## Characters -/

/-- The categories of the toolkit's character table. -/
structure CharClasses where
  isSpace : QChar → Bool
  isDigit : QChar → Bool

/-- The table that knows ASCII only. -/
def CharClasses.plain : CharClasses where
  isSpace c := c = 32 ∨ (9 ≤ c ∧ c ≤ 13)
  isDigit c := qc '0' ≤ c ∧ c ≤ qc '9'

/-- `QString::trimmed`. -/
def QString.trimmed (t : CharClasses) (s : QString) : QString :=
  ((s.dropWhile t.isSpace).reverse.dropWhile t.isSpace).reverse

/-- `s.indexOf(c, start)`. -/
def QString.indexOf (c : QChar) (s : QString) (start : ℕ) : Option ℕ :=
  ((s.drop start).findIdx? fun d => d = c).map fun i => start + i

/-- `s.mid(pos, n)`. -/
def QString.mid (s : QString) (pos n : ℕ) : QString := (s.drop pos).take n

/-- `s.lastIndexOf(c)`. -/
def QString.lastIndexOf (c : QChar) (s : QString) : Option ℕ :=
  (s.reverse.findIdx? fun d => d = c).map fun i => s.length - 1 - i

/-! ## Numbers -/

/-- Decimal digits of a number, without grouping: `QString::number`. -/
def numberText (n : ℕ) : QString :=
  if n = 0 then [qc '0'] else (Nat.digits 10 n).reverse.map fun d => qc '0' + UInt16.ofNat d

/-! ## Localized copy -/

/-- What the session's language contributes to a text. -/
structure Locale where
  /-- The catalogue's text for a message id; the id itself where it has none. -/
  translate : QString → QString
  /-- The catalogue's text for a message id under a context. -/
  translateContext : QString → QString → QString
  /-- The catalogue's text for a counted message under a context, from its singular and plural
  ids. -/
  translatePlural : QString → QString → QString → ℤ → QString
  /-- An integer as the locale writes it. -/
  number : ℤ → QString

/-- The session without a catalogue. -/
def Locale.untranslated : Locale where
  translate msgid := msgid
  translateContext _ msgid := msgid
  translatePlural _ singular plural n := if n = 1 then singular else plural
  number n := if n < 0 then qc '-' :: numberText n.natAbs else numberText n.natAbs

/-- Replace every `%1` … `%9` by its argument, in one pass; a placeholder with no argument
stays as it is. -/
def substitute (args : List QString) : QString → QString
  | [] => []
  | [c] => [c]
  | c :: d :: rest =>
      if c = qc '%' ∧ qc '1' ≤ d ∧ d ≤ qc '9' then
        (args[(d - qc '1').toNat]?).getD [c, d] ++ substitute args rest
      else
        c :: substitute args (d :: rest)

/-- `ki18nd("librekde", msgid).subs(…)….toString()`. -/
def ki18nd (loc : Locale) (msgid : QString) (args : List QString) : QString :=
  substitute args (loc.translate msgid)

/-- `ki18ndc("librekde", context, msgid).subs(…)….toString()`. -/
def ki18ndc (loc : Locale) (context msgid : QString) (args : List QString) : QString :=
  substitute args (loc.translateContext context msgid)

/-- `i18nc(context, msgid, …)`: the same, in the domain of the program. -/
def i18nc (loc : Locale) (context msgid : QString) (args : List QString) : QString :=
  ki18ndc loc context msgid args

/-- `ki18ndcp("librekde", context, singular, plural).subs(…)….toString()`: the first integer
argument picks the form. -/
def ki18ndcp (loc : Locale) (context singular plural : QString) (n : ℤ) (args : List QString) :
    QString :=
  substitute args (loc.translatePlural context singular plural n)

/-- `i18ncp(context, singular, plural, n)`. -/
def i18ncp (loc : Locale) (context singular plural : QString) (n : ℤ) : QString :=
  ki18ndcp loc context singular plural n [loc.number n]

example :
    ki18nd .untranslated (qs "%1: %2 of %3 left") [qs "%2", qs "1", qs "3"] =
      qs "%2: 1 of 3 left" := by
  decide

end LibreKDE
