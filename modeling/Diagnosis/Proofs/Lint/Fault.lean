import Diagnosis.Lint.Linter
import Diagnosis.Proofs.Lists
import Diagnosis.Proofs.Syntax.Site
import Diagnosis.Proofs.Text.Blank
import Mathlib.Data.List.Chain
import Mathlib.Data.List.GetD

/-!
# The message for a text that does not parse

Such a text gets one message, and here is which one.

* `IsOpenQuote` says, as a grammar of a line, which quote is left open at its end, if any. What follows a
  grave accent or a comment is not looked at. The same is said by taking the line apart (`LeavesOpen`),
  and the search accepts that grammar and nothing else (`openQuote?_iff_leavesOpen`).
* `IsFirstFault` says which node the message is about: of the nodes that stand for a fault the one that
  begins first, and of several the first in document order.
* `Describes` says what a fault is called when no quote is open on its rows, and `Explains` what the
  message says and where it points.

**The message** (`verifyTree_of_hasError`): a tree with an error gives one message; there is exactly one
first fault, exactly one explanation of it, and the message consists of that explanation.
-/

namespace Diagnosis.Lint

open Diagnosis.Text Diagnosis.Syntax

namespace SyntaxError

/-! ## Open quotes -/

/-- Whether a character opens a literal that has to end on its line. -/
def IsQuote (c : Char) : Prop := c = '\'' ∨ c = '"'

/-- Whether the characters behind an opening quote leave its literal open. A backslash takes the next
character along. -/
inductive StaysOpen (quote : Char) : List Char → Prop
  | nil : StaysOpen quote []
  | cut : StaysOpen quote ['\\']
  | escape {c : Char} {rest : List Char} : StaysOpen quote rest → StaysOpen quote ('\\' :: c :: rest)
  | char {c : Char} {rest : List Char} : c ≠ '\\' → c ≠ quote → StaysOpen quote rest →
      StaysOpen quote (c :: rest)

/-- Whether the characters behind an opening quote make up the rest of its literal: they end with the
quote that closes it. -/
inductive Closes (quote : Char) : List Char → Prop
  | close : Closes quote [quote]
  | escape {c : Char} {rest : List Char} : Closes quote rest → Closes quote ('\\' :: c :: rest)
  | char {c : Char} {rest : List Char} : c ≠ '\\' → c ≠ quote → Closes quote rest →
      Closes quote (c :: rest)

/-- Whether the quote with the given index is left open at the end of a line. Literals in front of it are
closed, and neither a grave accent nor a comment stands between them. -/
inductive IsOpenQuote : List Char → Nat → Prop
  | opens {quote : Char} {body : List Char} : IsQuote quote → StaysOpen quote body →
      IsOpenQuote (quote :: body) 0
  | literal {quote : Char} {body rest : List Char} {k : Nat} : IsQuote quote → Closes quote body →
      IsOpenQuote rest k → IsOpenQuote (quote :: (body ++ rest)) (body.length + k + 1)
  | char {c : Char} {rest : List Char} {k : Nat} : ¬ IsQuote c →
      ¬ (c = '\x60' ∨ c = '/' ∧ rest.head? = some '/') → IsOpenQuote rest k →
      IsOpenQuote (c :: rest) (k + 1)

section quotes

variable {quote : Char} {body line rest : List Char} {i k start : Nat} {opened : Option (Char × Nat)}

/-- A quote is no backslash. -/
lemma IsQuote.ne_backslash (h : IsQuote quote) : quote ≠ '\\' := by
  rintro rfl
  exact absurd h (by simp [IsQuote])

/-- Outside of literals, a quote opens one. -/
lemma openQuoteFrom_opens (hquote : IsQuote quote) :
    openQuoteFrom i none (quote :: rest) = openQuoteFrom (i + 1) (some (quote, i)) rest := by
  rw [openQuoteFrom]
  exact if_pos hquote

/-- Outside of literals, nothing else matters, but for a backtick and a comment. -/
lemma openQuoteFrom_outside {c : Char} (hquote : ¬ IsQuote c)
    (hstop : ¬ (c = '\x60' ∨ c = '/' ∧ rest.head? = some '/')) :
    openQuoteFrom i none (c :: rest) = openQuoteFrom (i + 1) none rest := by
  rw [openQuoteFrom]
  exact (if_neg hquote).trans (if_neg hstop)

/-- In a literal, a backslash takes the next character with it. -/
lemma openQuoteFrom_escape {c : Char} :
    openQuoteFrom i (some (quote, start)) ('\\' :: c :: rest) =
      openQuoteFrom (i + 2) (some (quote, start)) rest := by
  rw [openQuoteFrom.eq_def]
  exact if_pos rfl

/-- In a literal, any other character is passed over, and its quote closes it. -/
lemma openQuoteFrom_inside {c : Char} (hback : c ≠ '\\') :
    openQuoteFrom i (some (quote, start)) (c :: rest) =
      openQuoteFrom (i + 1) (if c = quote then none else some (quote, start)) rest := by
  rw [openQuoteFrom.eq_def]
  exact if_neg hback

/-- A literal that nothing closes leaves its quote open. -/
lemma openQuoteFrom_of_staysOpen (h : StaysOpen quote body) :
    openQuoteFrom i (some (quote, start)) body = some start := by
  induction h generalizing i with
  | nil | cut => rfl
  | escape _ ih => rw [openQuoteFrom_escape, ih]
  | char hback hquote _ ih => rw [openQuoteFrom_inside hback, if_neg hquote, ih]

/-- A literal that is closed is passed over. -/
lemma openQuoteFrom_of_closes (hquote : quote ≠ '\\') (h : Closes quote body) :
    openQuoteFrom i (some (quote, start)) (body ++ rest) =
      openQuoteFrom (i + body.length) none rest := by
  induction h generalizing i with
  | close => rw [List.singleton_append, openQuoteFrom_inside hquote, if_pos rfl, List.length_singleton]
  | @escape c body _ ih =>
    have hlen : i + 2 + body.length = i + ('\\' :: c :: body).length := by
      simp only [List.length_cons]
      omega
    rw [List.cons_append, List.cons_append, openQuoteFrom_escape, ih, hlen]
  | @char c body hback hne _ ih =>
    have hlen : i + 1 + body.length = i + (c :: body).length := by
      rw [List.length_cons]
      omega
    rw [List.cons_append, openQuoteFrom_inside hback, if_neg hne, ih, hlen]

/-- What it means for the search to come to an index, from the index `i` on. In a literal, either the
literal stays open or the search goes on behind it. -/
def ComesTo (i : Nat) : Option (Char × Nat) → List Char → Nat → Prop
  | none, line, k => ∃ n, IsOpenQuote line n ∧ k = i + n
  | some (quote, start), line, k => StaysOpen quote line ∧ k = start ∨
      ∃ body rest n, line = body ++ rest ∧ Closes quote body ∧ IsOpenQuote rest n ∧
        k = i + body.length + n

/-- An open quote that is found is one that the line comes to. -/
lemma comesTo_of_openQuoteFrom (h : openQuoteFrom i opened line = some k) :
    ComesTo i opened line k := by
  fun_induction openQuoteFrom i opened line with
  | case1 i opened =>
    obtain ⟨⟨quote, start⟩, rfl, rfl⟩ := Option.map_eq_some_iff.mp h
    exact .inl ⟨.nil, rfl⟩
  | case2 i quote start => exact .inl ⟨.cut, (Option.some.inj h).symm⟩
  | case3 i quote start c rest ih =>
    rcases ih h with ⟨hopen, hk⟩ | ⟨body, rest, n, rfl, hclose, hn, hk⟩
    · exact .inl ⟨.escape hopen, hk⟩
    · refine .inr ⟨'\\' :: c :: body, rest, n, rfl, .escape hclose, hn, ?_⟩
      simp only [List.length_cons]
      omega
  | case4 i c rest quote start hback ih =>
    have hnext := ih h
    by_cases hquote : c = quote
    · -- the literal ends here
      rw [if_pos hquote] at hnext
      obtain ⟨n, hn, hk⟩ := hnext
      subst hquote
      exact .inr ⟨[c], rest, n, rfl, .close, hn, hk⟩
    · rw [if_neg hquote] at hnext
      rcases hnext with ⟨hopen, hk⟩ | ⟨body, rest, n, rfl, hclose, hn, hk⟩
      · exact .inl ⟨.char hback hquote hopen, hk⟩
      · refine .inr ⟨c :: body, rest, n, rfl, .char hback hquote hclose, hn, ?_⟩
        rw [List.length_cons]
        omega
  | case5 i c rest hquote ih =>
    rcases ih h with ⟨hopen, hk⟩ | ⟨body, rest, n, rfl, hclose, hn, hk⟩
    · exact ⟨0, .opens hquote hopen, hk⟩
    · exact ⟨_, .literal hquote hclose hn, by omega⟩
  | case6 => cases h
  | case7 i c rest hquote hstop ih =>
    obtain ⟨n, hn, hk⟩ := ih h
    exact ⟨n + 1, .char hquote hstop hn, by omega⟩

/-- An open quote is found. -/
lemma openQuoteFrom_of_isOpenQuote (h : IsOpenQuote line k) :
    openQuoteFrom i none line = some (i + k) := by
  induction h generalizing i with
  | opens hquote hopen => rw [openQuoteFrom_opens hquote, openQuoteFrom_of_staysOpen hopen, Nat.add_zero]
  | literal hquote hclose _ ih =>
    rw [openQuoteFrom_opens hquote, openQuoteFrom_of_closes hquote.ne_backslash hclose, ih]
    exact congrArg some (by omega)
  | char hquote hstop _ ih =>
    rw [openQuoteFrom_outside hquote hstop, ih]
    exact congrArg some (by omega)

/-- The search finds the quote that is left open. -/
theorem openQuote?_eq_some_iff : openQuote? line = some k ↔ IsOpenQuote line k := by
  constructor
  · intro h
    obtain ⟨n, hn, hk⟩ := comesTo_of_openQuoteFrom h
    rwa [hk, Nat.zero_add]
  · intro h
    rw [openQuote?, openQuoteFrom_of_isOpenQuote h, Nat.zero_add]

/-- A quote that is left open is one of the characters. -/
lemma IsOpenQuote.lt (h : IsOpenQuote line k) : k < line.length := by
  induction h with
  | opens => exact Nat.succ_pos _
  | literal _ _ _ ih =>
    rw [List.length_cons, List.length_append]
    omega
  | char _ _ _ ih => exact Nat.succ_lt_succ ih

end quotes

/-! ## Lines taken apart -/

/-- What may stand in a line in front of a quote that is left open. -/
inductive Item where
  /-- A quote and the rest of its literal. -/
  | literal (quote : Char) (rest : List Char)
  /-- A character outside of literals. -/
  | outside (c : Char)
  deriving Repr, DecidableEq

namespace Item

/-- The characters of an item. -/
def text : Item → List Char
  | literal quote rest => quote :: rest
  | outside c => [c]

/-- Whether an item is a literal up to the quote that closes it, or a character that begins neither a
literal nor a template. -/
def IsComplete : Item → Prop
  | literal quote rest => IsQuote quote ∧ Closes quote rest
  | outside c => ¬ IsQuote c ∧ c ≠ '\x60'

/-- Whether two items in a row are anything but the beginning of a comment. -/
def Apart (a b : Item) : Prop := ¬ (a = outside '/' ∧ b = outside '/')

end Item

/-- Whether a line consists of complete items without a comment, so many characters of them, and a
literal that stays open. -/
def LeavesOpen (line : List Char) (k : Nat) : Prop :=
  ∃ (items : List Item) (quote : Char) (rest : List Char),
    line = items.flatMap Item.text ++ quote :: rest ∧ (items.flatMap Item.text).length = k ∧
    (∀ item ∈ items, item.IsComplete) ∧ items.IsChain Item.Apart ∧ IsQuote quote ∧
    StaysOpen quote rest

section items

variable {quote : Char} {items : List Item} {line rest : List Char} {k : Nat}

/-- A quote is no slash. -/
lemma IsQuote.ne_slash (h : IsQuote quote) : quote ≠ '/' := by
  rintro rfl
  exact absurd h (by simp [IsQuote])

/-- A slash comes next only as a character outside of literals. -/
lemma head?_eq_slash_iff (hitems : ∀ item ∈ items, item.IsComplete) (hquote : IsQuote quote) :
    (items.flatMap Item.text ++ quote :: rest).head? = some '/' ↔
      items.head? = some (.outside '/') := by
  cases items with
  | nil => simp [hquote.ne_slash]
  | cons item items =>
    cases item with
    | literal quote' rest' =>
      have hquote' := (hitems _ List.mem_cons_self).1
      simp [Item.text, hquote'.ne_slash]
    | outside c => simp [Item.text]

/-- In front of complete items, the scan goes on behind a character outside of literals exactly if that
character may stand there. -/
lemma not_stops_iff {c : Char} (hitems : ∀ item ∈ items, item.IsComplete) (hquote : IsQuote quote) :
    ¬ (c = '\x60' ∨ c = '/' ∧ (items.flatMap Item.text ++ quote :: rest).head? = some '/') ↔
      c ≠ '\x60' ∧ ∀ item ∈ items.head?, (Item.outside c).Apart item := by
  rw [head?_eq_slash_iff hitems hquote, not_or]
  refine and_congr_right fun _ => ?_
  cases items <;> simp [Item.Apart]

/-- What comes before an open quote are complete items. -/
lemma IsOpenQuote.leavesOpen (h : IsOpenQuote line k) : LeavesOpen line k := by
  induction h with
  | @opens quote body hquote hopen =>
    exact ⟨[], quote, body, rfl, rfl, List.forall_mem_nil _, .nil, hquote, hopen⟩
  | @literal quote body rest k hquote hclose _ ih =>
    obtain ⟨items, quote', rest', rfl, rfl, hitems, hapart, hquote', hopen⟩ := ih
    refine ⟨.literal quote body :: items, quote', rest', ?_, ?_,
      List.forall_mem_cons.mpr ⟨⟨hquote, hclose⟩, hitems⟩, ?_, hquote', hopen⟩
    · rw [List.flatMap_cons, Item.text, List.cons_append, List.cons_append, List.append_assoc]
    · rw [List.flatMap_cons, Item.text, List.length_append, List.length_cons]
      omega
    · exact List.isChain_cons.mpr ⟨fun _ _ hslashes => (nomatch hslashes.1), hapart⟩
  | @char c rest k hc hstop _ ih =>
    obtain ⟨items, quote, rest', rfl, rfl, hitems, hapart, hquote, hopen⟩ := ih
    obtain ⟨hgrave, hnext⟩ := (not_stops_iff hitems hquote).mp hstop
    exact ⟨.outside c :: items, quote, rest', rfl, rfl,
      List.forall_mem_cons.mpr ⟨⟨hc, hgrave⟩, hitems⟩, List.isChain_cons.mpr ⟨hnext, hapart⟩, hquote,
      hopen⟩

/-- A quote behind complete items is open if nothing closes it. -/
lemma isOpenQuote_of_items (hitems : ∀ item ∈ items, item.IsComplete)
    (hapart : items.IsChain Item.Apart) (hquote : IsQuote quote) (hopen : StaysOpen quote rest) :
    IsOpenQuote (items.flatMap Item.text ++ quote :: rest) (items.flatMap Item.text).length := by
  induction items with
  | nil => exact .opens hquote hopen
  | cons item items ih =>
    obtain ⟨hitem, hbehind⟩ := List.forall_mem_cons.mp hitems
    obtain ⟨hnext, hafter⟩ := List.isChain_cons.mp hapart
    have hrest := ih hbehind hafter
    cases item with
    | literal quote' body =>
      have hlen : body.length + (items.flatMap Item.text).length + 1 =
          ((Item.literal quote' body :: items).flatMap Item.text).length := by
        rw [List.flatMap_cons, Item.text, List.length_append, List.length_cons]
        omega
      rw [← hlen, List.flatMap_cons, Item.text, List.cons_append, List.cons_append, List.append_assoc]
      exact .literal hitem.1 hitem.2 hrest
    | outside c =>
      exact .char hitem.1 ((not_stops_iff hbehind hquote).mpr ⟨hitem.2, hnext⟩) hrest

/-- A quote is open if the line leaves it open behind complete items. -/
lemma isOpenQuote_iff_leavesOpen : IsOpenQuote line k ↔ LeavesOpen line k := by
  refine ⟨IsOpenQuote.leavesOpen, ?_⟩
  rintro ⟨items, quote, rest, rfl, rfl, hitems, hapart, hquote, hopen⟩
  exact isOpenQuote_of_items hitems hapart hquote hopen

/-- **A quote is found exactly in the lines that complete items and a literal left open make up**, and
behind those items. In any other line none is found. -/
theorem openQuote?_iff_leavesOpen (line : List Char) :
    (∀ k, openQuote? line = some k ↔ LeavesOpen line k) ∧
      (openQuote? line = none ↔ ∀ k, ¬ LeavesOpen line k) := by
  have hsome : ∀ k, openQuote? line = some k ↔ LeavesOpen line k := fun _ =>
    openQuote?_eq_some_iff.trans isOpenQuote_iff_leavesOpen
  refine ⟨hsome, ?_⟩
  rw [Option.eq_none_iff_forall_ne_some]
  exact forall_congr' fun k => not_congr (hsome k)

end items

/-! ## The rows of a fault -/

/-- Whether a row is one of those that a node covers. Its first row always is. -/
def IsRowOf (src : Source) (t : Tree) (row : Nat) : Prop :=
  (src.startPoint t).row ≤ row ∧ (row = (src.startPoint t).row ∨ row ≤ (src.stopPoint t).row)

/-- Whether the quote with the given index is left open on a row that a node covers. -/
def OpensAt (src : Source) (t : Tree) (row k : Nat) : Prop :=
  IsRowOf src t row ∧ IsOpenQuote (decode (src.line row)) k

/-- Whether a place is that of the open quote on the first row of a node that has one. -/
def IsFirstOpenQuote (src : Source) (t : Tree) (p : Place) : Prop :=
  ∃ row k, OpensAt src t row k ∧ p = ⟨row + 1, k + 1⟩ ∧ ∀ row' < row, ∀ k', ¬ OpensAt src t row' k'

section rows

variable {src : Source} {t : Tree} {p : Place} {row k : Nat}

/-- The rows of a node that are searched. -/
def rows (src : Source) (t : Tree) : List Nat :=
  (List.range' (src.startPoint t).row
    (max (src.startPoint t).row (src.stopPoint t).row + 1 - (src.startPoint t).row)).takeWhile
      (· < src.lines.length)

/-- The rows of a node grow. -/
lemma pairwise_rows (src : Source) (t : Tree) : (rows src t).Pairwise (· < ·) :=
  (List.pairwise_lt_range' 1).sublist (List.takeWhile_sublist _)

/-- Which rows come from a first one, so many of them and below a limit. -/
lemma mem_takeWhile_range' {start n limit : Nat} :
    row ∈ (List.range' start n).takeWhile (· < limit) ↔ start ≤ row ∧ row < start + n ∧ row < limit := by
  induction n generalizing start with
  | zero =>
    refine iff_of_false List.not_mem_nil ?_
    rintro ⟨hle, hlt, -⟩
    exact Nat.not_lt.mpr hle hlt
  | succ n ih =>
    rw [List.range'_succ]
    by_cases hlt : start < limit
    · rw [List.takeWhile_cons_of_pos (by simpa using hlt), List.mem_cons, ih]
      omega
    · rw [List.takeWhile_cons_of_neg (by simpa using hlt)]
      refine iff_of_false List.not_mem_nil ?_
      omega

/-- The rows that are searched are those that the text has. -/
lemma mem_rows_iff : row ∈ rows src t ↔ IsRowOf src t row ∧ row < src.lines.length := by
  rw [rows, mem_takeWhile_range']
  unfold IsRowOf
  omega

/-- A row on which a quote is open is one that the text has. -/
lemma OpensAt.lt (h : OpensAt src t row k) : row < src.lines.length := by
  by_contra hge
  have hline : src.line row = [] := List.getD_eq_default _ _ (Nat.not_lt.mp hge)
  obtain ⟨-, hopen⟩ := h
  rw [hline, ← openQuote?_eq_some_iff] at hopen
  cases hopen

/-- The place of the quote that is left open on a row. -/
def quotePlace? (src : Source) (row : Nat) : Option Place :=
  (openQuote? (decode (src.line row))).map fun i => ⟨row + 1, i + 1⟩

/-- The place of an open quote is the one of its column, counted from one. -/
lemma quotePlace?_eq_some_iff : quotePlace? src row = some p ↔
    ∃ k, IsOpenQuote (decode (src.line row)) k ∧ p = ⟨row + 1, k + 1⟩ := by
  simp only [quotePlace?, Option.map_eq_some_iff, openQuote?_eq_some_iff, eq_comm (a := p)]

/-- There is no such place if no quote of the row is open. -/
lemma quotePlace?_eq_none_iff :
    quotePlace? src row = none ↔ ∀ k, ¬ IsOpenQuote (decode (src.line row)) k := by
  rw [quotePlace?, Option.map_eq_none_iff, Option.eq_none_iff_forall_ne_some]
  exact forall_congr' fun k => not_congr openQuote?_eq_some_iff

/-- The place of the first quote that is left open on the rows of a node. -/
def openPlace? (src : Source) (t : Tree) : Option Place := (rows src t).findSome? (quotePlace? src)

/-- The search over the rows finds the first quote that is left open. -/
lemma openPlace?_eq_some_iff : openPlace? src t = some p ↔ IsFirstOpenQuote src t p := by
  rw [openPlace?, findSome?_eq_some_iff_of_pairwise (pairwise_rows src t)]
  constructor
  · rintro ⟨row, hmem, hrow, hbefore⟩
    obtain ⟨k, hk, rfl⟩ := quotePlace?_eq_some_iff.mp hrow
    refine ⟨row, k, ⟨(mem_rows_iff.mp hmem).1, hk⟩, rfl, fun row' hlt k' hopen => ?_⟩
    exact quotePlace?_eq_none_iff.mp (hbefore row' (mem_rows_iff.mpr ⟨hopen.1, hopen.lt⟩) hlt) k' hopen.2
  · rintro ⟨row, k, hopen, rfl, hbefore⟩
    refine ⟨row, mem_rows_iff.mpr ⟨hopen.1, hopen.lt⟩, quotePlace?_eq_some_iff.mpr ⟨k, hopen.2, rfl⟩, ?_⟩
    intro row' hmem hlt
    exact quotePlace?_eq_none_iff.mpr fun k' hk' => hbefore row' hlt k' ⟨(mem_rows_iff.mp hmem).1, hk'⟩

/-- No place is found if no row of the node has an open quote. -/
lemma openPlace?_eq_none_iff : openPlace? src t = none ↔ ∀ row k, ¬ OpensAt src t row k := by
  rw [openPlace?, List.findSome?_eq_none_iff]
  constructor
  · intro h row k hopen
    exact quotePlace?_eq_none_iff.mp (h row (mem_rows_iff.mpr ⟨hopen.1, hopen.lt⟩)) k hopen.2
  · intro h row hmem
    exact quotePlace?_eq_none_iff.mpr fun k hk => h row k ⟨(mem_rows_iff.mp hmem).1, hk⟩

end rows

/-! ## The first fault -/

/-- Whether a site is the fault of a list of sites that begins first, of several the first listed. -/
def IsEarliest (sites : List Site) (c : Site) : Prop :=
  ∃ before after, sites = before ++ c :: after ∧ isCulprit c.node = true ∧
    (∀ s ∈ before, isCulprit s.node = true → c.node.start < s.node.start) ∧
    ∀ s ∈ after, isCulprit s.node = true → c.node.start ≤ s.node.start

/-- Whether a site is the one that the message about a tree is on: the first fault in document order of
those that begin first; the root if there is none. -/
def IsFirstFault (tree : Tree) (c : Site) : Prop :=
  IsEarliest (Site.walk tree) c ∨
    c = .root tree ∧ ∀ s ∈ Site.walk tree, isCulprit s.node = false

section fault

variable {tree t : Tree} {ts : List Tree} {c c' : Site} {sites : List Site}

/-- There is an earliest node unless there are none. -/
lemma earliest?_eq_none_iff : earliest? ts = none ↔ ts = [] := by
  cases ts with
  | nil => exact iff_of_true rfl rfl
  | cons t ts =>
    refine iff_of_false ?_ (List.cons_ne_nil t ts)
    unfold earliest?
    split
    · exact nofun
    · split <;> exact nofun

/-- The earliest node starts before those that come before it, and no later than the others. -/
lemma exists_of_earliest? (h : earliest? ts = some t) :
    ∃ before after, ts = before ++ t :: after ∧ (∀ u ∈ before, t.start < u.start) ∧
      ∀ u ∈ after, t.start ≤ u.start := by
  induction ts generalizing t with
  | nil => cases h
  | cons u ts ih =>
    rw [earliest?] at h
    cases hlater : earliest? ts with
    | none =>
      rw [hlater] at h
      obtain rfl := Option.some.inj h
      obtain rfl := earliest?_eq_none_iff.mp hlater
      exact ⟨[], [], rfl, nofun, nofun⟩
    | some v =>
      rw [hlater] at h
      obtain ⟨before, after, rfl, hbefore, hafter⟩ := ih hlater
      by_cases hlt : v.start < u.start
      · obtain rfl := Option.some.inj ((if_pos hlt).symm.trans h)
        exact ⟨u :: before, after, rfl, List.forall_mem_cons.mpr ⟨hlt, hbefore⟩, hafter⟩
      · obtain rfl := Option.some.inj ((if_neg hlt).symm.trans h)
        have hle := Nat.not_lt.mp hlt
        refine ⟨[], before ++ v :: after, rfl, nofun, ?_⟩
        rw [List.forall_mem_append, List.forall_mem_cons]
        exact ⟨fun w hw => hle.trans (hbefore w hw).le, hle, fun w hw => hle.trans (hafter w hw)⟩

/-- The faults of a list of sites, divided at one of them. -/
lemma exists_of_filter_eq {before after : List Tree}
    (h : (sites.map (·.node)).filter isCulprit = before ++ t :: after) :
    ∃ front c back, sites = front ++ c :: back ∧ c.node = t ∧ isCulprit t = true ∧
      (∀ s ∈ front, isCulprit s.node = true → s.node ∈ before) ∧
      ∀ s ∈ back, isCulprit s.node = true → s.node ∈ after := by
  obtain ⟨front, back, hsplit, rfl, hback⟩ := List.filter_eq_append_iff.mp h
  obtain ⟨gap, back, rfl, hgap, ht, rfl⟩ := List.filter_eq_cons_iff.mp hback
  obtain ⟨front, rest, rfl, rfl, hrest⟩ := List.map_eq_append_iff.mp hsplit
  obtain ⟨gap, rest, rfl, rfl, htail⟩ := List.map_eq_append_iff.mp hrest
  obtain ⟨c, back, rfl, rfl, rfl⟩ := List.map_eq_cons_iff.mp htail
  refine ⟨front ++ gap, c, back, by rw [List.append_assoc], rfl, ht, ?_, fun s hs hfault => ?_⟩
  · intro s hs hfault
    rcases List.mem_append.mp hs with hs | hs
    · exact List.mem_filter.mpr ⟨List.mem_map_of_mem hs, hfault⟩
    · exact absurd hfault (hgap s.node (List.mem_map_of_mem hs))
  · exact List.mem_filter.mpr ⟨List.mem_map_of_mem hs, hfault⟩

/-- The message is about a first fault. -/
lemma exists_isFirstFault (tree : Tree) :
    ∃ c, IsFirstFault tree c ∧ culprit (Site.walk tree) tree = c.node := by
  unfold culprit
  cases h : earliest? (((Site.walk tree).map (·.node)).filter isCulprit) with
  | none =>
    refine ⟨.root tree, .inr ⟨rfl, fun s hs => Bool.eq_false_iff.mpr ?_⟩, rfl⟩
    exact List.filter_eq_nil_iff.mp (earliest?_eq_none_iff.mp h) s.node (List.mem_map_of_mem hs)
  | some t =>
    obtain ⟨before, after, hfaults, hbefore, hafter⟩ := exists_of_earliest? h
    obtain ⟨front, c, back, hwalk, rfl, hc, hfront, hback⟩ := exists_of_filter_eq hfaults
    refine ⟨c, .inl ⟨front, back, hwalk, hc, fun s hs hfault => ?_, fun s hs hfault => ?_⟩, rfl⟩
    · exact hbefore s.node (hfront s hs hfault)
    · exact hafter s.node (hback s hs hfault)

/-- Of two faults of a list each of which comes before all others, the one listed first is the other. -/
lemma eq_of_cons_eq {after gap after' : List Site} (hsplit : c :: after = gap ++ c' :: after')
    (hc : isCulprit c.node = true) (hc' : isCulprit c'.node = true)
    (hafter : ∀ s ∈ after, isCulprit s.node = true → c.node.start ≤ s.node.start)
    (hgap : ∀ s ∈ gap, isCulprit s.node = true → c'.node.start < s.node.start) : c = c' := by
  cases gap with
  | nil => exact (List.cons.inj hsplit).1
  | cons s gap =>
    obtain ⟨rfl, rfl⟩ := List.cons.inj hsplit
    have hlt := hgap c List.mem_cons_self hc
    have hle := hafter c' (List.mem_append_right gap List.mem_cons_self) hc'
    exact absurd hlt (Nat.not_lt.mpr hle)

/-- There is one earliest culprit at most. -/
lemma IsEarliest.unique (h : IsEarliest sites c) (h' : IsEarliest sites c') : c = c' := by
  obtain ⟨before, after, rfl, hc, hbefore, hafter⟩ := h
  obtain ⟨before', after', hsplit, hc', hbefore', hafter'⟩ := h'
  rcases List.append_eq_append_iff.mp hsplit with ⟨gap, rfl, hrest⟩ | ⟨gap, rfl, hrest⟩
  · exact eq_of_cons_eq hrest hc hc' hafter fun s hs => hbefore' s (List.mem_append_right before hs)
  · exact (eq_of_cons_eq hrest hc' hc hafter' fun s hs =>
      hbefore s (List.mem_append_right before' hs)).symm

/-- The earliest culprit is a culprit. -/
lemma IsEarliest.mem (h : IsEarliest sites c) : c ∈ sites ∧ isCulprit c.node = true := by
  obtain ⟨before, after, rfl, hc, -⟩ := h
  exact ⟨List.mem_append_right before List.mem_cons_self, hc⟩

/-- The first fault is a node of the tree. -/
lemma IsFirstFault.isNode (h : IsFirstFault tree c) : tree.IsNode c.node := by
  rcases h with h | ⟨rfl, -⟩
  · exact (Site.mem_walk_iff.mp h.mem.1).isNode
  · exact .self

/-- There is one first fault. -/
lemma IsFirstFault.unique (h : IsFirstFault tree c) (h' : IsFirstFault tree c') : c = c' := by
  rcases h with h | ⟨rfl, hnone⟩ <;> rcases h' with h' | ⟨rfl, hnone'⟩
  · exact h.unique h'
  · exact Bool.noConfusion ((hnone' c h.mem.1).symm.trans h.mem.2)
  · exact Bool.noConfusion ((hnone c' h'.mem.1).symm.trans h'.mem.2)
  · rfl

end fault

/-! ## What is said -/

/-- The text that the word at a fault is taken from: its first token, or all that follows a token that is
missing. -/
def wordText (src : Source) (t : Tree) : List Char :=
  if t.missing then decode (src.data.drop t.start) else src.chars t.firstLeaf

/-- What a fault is called when no quote is open on its rows. -/
inductive Describes (src : Source) (t : Tree) : String → Prop
  /-- Only blanks follow its start. -/
  | endOfInput (blank : ∀ b ∈ src.data.drop t.start, isBlankByte b = true) :
      Describes src t "Unexpected end of input"
  /-- Something follows, and there is a word that is short enough to be quoted. -/
  | token {w : List Char} (more : ∃ b ∈ src.data.drop t.start, isBlankByte b = false)
      (word : IsFirstWord (wordText src t) w) (short : w.length ≤ 20) :
      Describes src t ("Unexpected token " ++ String.ofList w)
  /-- Something follows, but there is no word to quote. -/
  | unquoted (more : ∃ b ∈ src.data.drop t.start, isBlankByte b = false)
      (long : ∀ w, IsFirstWord (wordText src t) w → 20 < w.length) :
      Describes src t "Unexpected token"

/-- What the message about a node says, and where it points. -/
inductive Explains (src : Source) (t : Tree) : String → Place → Prop
  /-- A quote is left open on one of its rows. -/
  | openString {p : Place} (first : IsFirstOpenQuote src t p) :
      Explains src t "Unterminated string constant" p
  /-- No quote is, and the message is about the start of the node. -/
  | atStart {k : String} (closed : ∀ row k, ¬ OpensAt src t row k) (describes : Describes src t k) :
      Explains src t k (src.place (src.startPoint t))

section explains

variable {src : Source} {t : Tree} {k : String} {p : Place}

/-- Two tests for the end of the text come to one: whether only blanks follow. -/
lemma isAtEnd_iff : isAtEnd src t = true ↔ ∀ b ∈ src.data.drop t.start, isBlankByte b = true := by
  rw [isAtEnd, Bool.and_eq_true, List.all_eq_true]
  refine ⟨And.right, fun h => ⟨?_, h⟩⟩
  rw [Bool.or_eq_true, decide_eq_true_eq]
  exact .inr (length_dropEndWhile_le h)

/-- A node is not at the end if something else than blanks comes from its start on. -/
lemma not_isAtEnd_iff :
    ¬ isAtEnd src t = true ↔ ∃ b ∈ src.data.drop t.start, isBlankByte b = false := by
  simp only [isAtEnd_iff, not_forall, Bool.not_eq_true, exists_prop]

/-- The token at a node is the first word of its text. -/
lemma tokenAt?_eq_some_iff {w : List Char} :
    tokenAt? src t = some w ↔ IsFirstWord (wordText src t) w :=
  head?_words_eq_some_iff

/-- A node has one description, the one that is computed. -/
lemma describes_iff : Describes src t k ↔ k = describe src t := by
  unfold describe
  constructor
  · rintro (blank | ⟨more, word, short⟩ | ⟨more, long⟩)
    · rw [if_pos (isAtEnd_iff.mpr blank)]
    · rw [if_neg (not_isAtEnd_iff.mpr more), tokenAt?_eq_some_iff.mpr word]
      exact (if_pos short).symm
    · rw [if_neg (not_isAtEnd_iff.mpr more)]
      split
      case h_1 w hw => exact (if_neg (Nat.not_le.mpr (long w (tokenAt?_eq_some_iff.mp hw)))).symm
      case h_2 => rfl
  · rintro rfl
    by_cases hend : isAtEnd src t = true
    · rw [if_pos hend]
      exact .endOfInput (isAtEnd_iff.mp hend)
    · rw [if_neg hend]
      have more := not_isAtEnd_iff.mp hend
      split
      case h_1 w hw =>
        have word := tokenAt?_eq_some_iff.mp hw
        split
        case isTrue hshort => exact .token more word hshort
        case isFalse hlong =>
          -- the text has no other first word
          refine .unquoted more fun w' hw' => ?_
          obtain rfl := Option.some.inj (hw.symm.trans (tokenAt?_eq_some_iff.mpr hw'))
          exact Nat.not_le.mp hlong
      case h_2 hnone =>
        refine .unquoted more fun w hw => ?_
        cases hnone.symm.trans (tokenAt?_eq_some_iff.mpr hw)

/-- What the message about a node says, and where it points, as the program has it. -/
def explanation (src : Source) (t : Tree) : String × Place :=
  match openPlace? src t with
  | some p => ("Unterminated string constant", p)
  | none => (describe src t, src.place (src.startPoint t))

/-- The message on a syntax error says what is wrong at the culprit, and where. -/
lemma message_eq (src : Source) (sites : List Site) (root : Tree) :
    message src sites root = fatal (explanation src (culprit sites root)).1
      (explanation src (culprit sites root)).2 := by
  generalize ht : culprit sites root = t
  have hopen : openString? src (src.startPoint t).row
      (max (src.startPoint t).row (src.stopPoint t).row) = openPlace? src t := rfl
  rw [message, explanation, ht, hopen]
  cases openPlace? src t <;> rfl

/-- A node has one explanation. -/
lemma explains_iff :
    Explains src t k p ↔ k = (explanation src t).1 ∧ p = (explanation src t).2 := by
  unfold explanation
  constructor
  · rintro (first | ⟨closed, describes⟩)
    · rw [openPlace?_eq_some_iff.mpr first]
      exact ⟨rfl, rfl⟩
    · rw [openPlace?_eq_none_iff.mpr closed]
      exact ⟨describes_iff.mp describes, rfl⟩
  · split
    case h_1 p hsome =>
      rintro ⟨rfl, rfl⟩
      exact .openString (openPlace?_eq_some_iff.mp hsome)
    case h_2 hnone =>
      rintro ⟨rfl, rfl⟩
      exact .atStart (openPlace?_eq_none_iff.mp hnone) (describes_iff.mpr rfl)

end explains

/-- **The message.** Whatever the rules, a text whose tree has an error gets one message. There is exactly
one first fault `c` of the tree, exactly one explanation of it, and the message consists of that. -/
theorem verifyTree_of_hasError (rules : List Rule) (data : Bytes) {tree : Tree}
    (h : tree.hasError = true) :
    ∃ c k p, (∀ c', IsFirstFault tree c' ↔ c' = c) ∧
      (∀ k' p', Explains (.ofBytes data) c.node k' p' ↔ k' = k ∧ p' = p) ∧
      verifyTree rules data tree =
        ⟨[{ rule := none, severity := .error, message := "Parsing error: " ++ k, start := p,
            fatal := true }], false⟩ := by
  obtain ⟨c, hc, hculprit⟩ := exists_isFirstFault tree
  refine ⟨c, _, _, fun c' => ⟨fun hc' => hc'.unique hc, ?_⟩, fun k' p' => explains_iff, ?_⟩
  · rintro rfl
    exact hc
  · rw [verifyTree, if_pos h, message_eq, hculprit]
    rfl

/-- What stands for a literal that is left open in the text `x = 'a`. -/
def openLiteral : Tree := { kind := Tree.errorKind, start := 0, stop := 6 }

/-- A tree whose literal is left open is reported as that, at its quote. -/
theorem verifyTree_of_hasError_openLiteral :
    let tree : Tree := { kind := "program", start := 0, stop := 7, children := [openLiteral] }
    tree.hasError = true ∧
      verifyTree [] (encodeString "x = 'a\n") tree =
        ⟨[{ rule := none, severity := .error,
            message := "Parsing error: " ++ "Unterminated string constant", start := ⟨1, 5⟩,
            fatal := true }], false⟩ := by
  intro tree
  have herror : tree.hasError = true := by decide
  obtain ⟨c, k, p, hc, hk, hverdict⟩ :=
    verifyTree_of_hasError [] (encodeString "x = 'a\n") herror
  have hwalk : Site.walk tree = [.root tree, .child (.root tree) 0 openLiteral] := by
    simp [Site.walk, Site.walkFrom, Site.children, Site.childrenFrom, Site.node, openLiteral, tree]
  have hfirst : IsFirstFault tree (.child (.root tree) 0 openLiteral) := by
    refine .inl ⟨[.root tree], [], hwalk, by decide, ?_, fun s hs => absurd hs List.not_mem_nil⟩
    exact List.forall_mem_singleton.mpr fun hfault => absurd hfault (by decide)
  obtain rfl := (hc _).mp hfirst
  have hopens : OpensAt (.ofBytes (encodeString "x = 'a\n")) openLiteral 0 4 :=
    ⟨⟨Nat.zero_le 0, .inl rfl⟩, openQuote?_eq_some_iff.mp (by decide +kernel)⟩
  obtain ⟨rfl, rfl⟩ := (hk _ _).mp
    (.openString ⟨0, 4, hopens, rfl, fun row hlt => absurd hlt (Nat.not_lt_zero row)⟩)
  exact ⟨herror, hverdict⟩

end SyntaxError

end Diagnosis.Lint
