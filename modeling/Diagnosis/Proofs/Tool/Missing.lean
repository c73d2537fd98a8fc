import Diagnosis.Proofs.Text.Search
import Diagnosis.Text.Blank
import Diagnosis.Tool.Run

/-!
# Which tool is missing

The phrases for a missing tool are looked for anywhere in the error output, so the name of a tool need not end
where the name in the phrase does. Here is what is made of a report that another tool is missing, behind
any text that says nothing of the kind.

All phrases consist of four words. So a phrase and a report meet at a blank, and what is left to compare is
words (`Words.infix_iff`): either the phrase ends inside the first word of the report (`RunsInto`), or its words
are those of the report (`Words.Reaches`).

* **Reports about other tools** (`isMissing_report_iff`): a name between quotes is only taken for the same
  name. Without quotes, a tool counts as missing if its name is a beginning of the one that is reported, or an
  end where the report begins with the name.
* A cross compiler that is missing is thus taken for the compiler, and a plugin for the tool.
-/

namespace Diagnosis.Tool

open Diagnosis.Text

variable {t u p : String}

/-- Whether a character may stand in the name of a tool: it is no blank, quote or colon. -/
def isNameChar (c : Char) : Bool := !isBlank c && c != '\'' && c != '"' && c != ':'

/-- Whether a tool may have a name. -/
def IsName (tool : String) : Prop := ∀ c ∈ tool.toList, isNameChar c = true

instance (tool : String) : Decidable (IsName tool) :=
  decidable_of_iff (tool.toList.all isNameChar = true) List.all_eq_true

/-- Whether a text breaks off in a phrase for a tool, and a word goes on with the rest of the phrase. -/
def RunsInto (tool before word : String) : Prop :=
  ∃ phrase ∈ missingPhrases tool, ∃ front back, phrase.toList = front ++ back ∧
    front <:+ before.toList ∧ back ≠ [] ∧ back <+: word.toList

/-- No name holds a blank. -/
lemma IsName.blank_not_mem (h : IsName t) : ' ' ∉ t.toList :=
  fun hmem => absurd (h ' ' hmem) (by decide)

/-- No name holds a quote. -/
lemma IsName.quote_not_mem (h : IsName t) : '\'' ∉ t.toList :=
  fun hmem => absurd (h '\'' hmem) (by decide)

/-- No name holds a colon. -/
lemma IsName.colon_not_mem (h : IsName t) : ':' ∉ t.toList :=
  fun hmem => absurd (h ':' hmem) (by decide)

/-! ## Word by word -/

/-- Four words. -/
structure Words where
  /-- The first word. -/
  first : String
  /-- The second word. -/
  second : String
  /-- The third word. -/
  third : String
  /-- The last word. -/
  last : String

namespace Words

variable {w r : Words} {before : String}

/-- The words with a blank between each two. -/
def text (w : Words) : String := w.first ++ " " ++ w.second ++ " " ++ w.third ++ " " ++ w.last

/-- Whether no word behind the first one holds a blank. -/
def IsApart (w : Words) : Prop :=
  ' ' ∉ w.second.toList ∧ ' ' ∉ w.third.toList ∧ ' ' ∉ w.last.toList

/-- Whether words that begin in a text and the first word behind it end inside one of the other words
there. -/
def Reaches (w : Words) (before : String) (r : Words) : Prop :=
  (w.first ++ " " ++ w.second ++ " " ++ w.third).toList <:+ (before ++ r.first).toList ∧
      w.last.toList <+: r.second.toList ∨
    (w.first ++ " " ++ w.second).toList <:+ (before ++ r.first).toList ∧ w.third = r.second ∧
      w.last.toList <+: r.third.toList ∨
    w.first.toList <:+ (before ++ r.first).toList ∧ w.second = r.second ∧ w.third = r.third ∧
      w.last.toList <+: r.last.toList

/-- Words stand in front of the first blank of other words, or reach over it. -/
lemma infix_iff (hw : w.IsApart) (hr : r.IsApart) :
    w.text.toList <:+: (before ++ r.text).toList ↔
      w.text.toList <:+: (before ++ r.first).toList ∨ w.Reaches before r := by
  obtain ⟨hw₂, hw₃, hw₄⟩ := hw
  obtain ⟨hr₂, hr₃, hr₄⟩ := hr
  have hsplit : ∀ s v : String, (s ++ " " ++ v).toList = s.toList ++ ' ' :: v.toList := by simp
  have hbefore : before ++ r.text =
      before ++ r.first ++ " " ++ r.second ++ " " ++ r.third ++ " " ++ r.last := by
    simp only [text, String.append_assoc]
  rw [hbefore]
  simp only [text, Reaches, hsplit, append_cons_infix_iff hw₄ hr₄, append_cons_infix_iff hw₄ hr₃,
    append_cons_infix_iff hw₄ hr₂, append_cons_suffix_iff hw₃ hr₃, append_cons_suffix_iff hw₃ hr₂,
    append_cons_suffix_iff hw₂ hr₂, String.toList_inj, or_assoc, and_assoc]

/-- What stands at the end of words and holds no blank stands at the end of the last one. -/
lemma suffix_last {front back : List Char} (h : w.text.toList = front ++ back) (hback : ' ' ∉ back) :
    back <:+ w.last.toList := by
  have hends : back <:+ w.text.toList := h ▸ List.suffix_append front back
  have htext : w.text.toList =
      (w.first ++ " " ++ w.second ++ " " ++ w.third).toList ++ ' ' :: w.last.toList := by simp [text]
  rw [htext] at hends
  rcases List.suffix_or_suffix_of_suffix hends (List.suffix_append _ (' ' :: w.last.toList)) with
    hin | ⟨x, rfl⟩
  · rcases List.suffix_cons_iff.mp hin with rfl | hin
    · exact absurd List.mem_cons_self hback
    · exact hin
  · exact absurd (List.mem_append_right x List.mem_cons_self) hback

end Words

/-- A command is not recognized. -/
def unrecognized (tool : String) : Words := ⟨"'" ++ tool ++ "'", "is", "not", "recognized"⟩

/-- A command is not found, and named behind that. -/
def unknown (tool : String) : Words := ⟨"command", "not", "found:", tool⟩

/-- A command is not found, and named before that. -/
def notFound (tool : String) : Words := ⟨tool ++ ":", "command", "not", "found"⟩

/-- There is no module of a name. -/
def noModule (tool : String) : Words := ⟨"No", "module", "named", tool⟩

/-- The phrases for a missing tool, word by word. -/
def missingWords (tool : String) : List Words :=
  [unrecognized tool, unknown tool, notFound tool, noModule tool]

/-- The words for a missing tool are the phrases. -/
lemma map_text_missingWords (tool : String) :
    (missingWords tool).map Words.text = missingPhrases tool := by
  simp [missingWords, missingPhrases, Words.text, unrecognized, unknown, notFound, noModule,
    String.append_assoc]

/-- So what holds of one of the words holds of one of the phrases. -/
lemma exists_missingWords_iff (tool : String) (holds : String → Prop) :
    (∃ w ∈ missingWords tool, holds w.text) ↔ ∃ phrase ∈ missingPhrases tool, holds phrase := by
  rw [← map_text_missingWords]
  simp

/-- A tool is said to be missing if one of the words stands in the errors. -/
lemma isMissing_iff {tool errors : String} :
    isMissing tool errors = true ↔ ∃ w ∈ missingWords tool, w.text.toList <:+: errors.toList := by
  rw [exists_missingWords_iff tool (·.toList <:+: errors.toList), isMissing, List.any_eq_true]
  exact exists_congr fun phrase => and_congr_right fun _ => occurs_iff

/-- The words for a missing tool begin and end apart from what stands around names. -/
lemma isApart_of_mem (h : IsName t) : ∀ w ∈ missingWords t, w.IsApart := by
  simp [missingWords, Words.IsApart, unrecognized, unknown, notFound, noModule, h.blank_not_mem]

/-! ## Where a phrase ends -/

/-- One of the words may begin in what stands before and end in what follows. -/
lemma runsInto_iff {before word : String} :
    RunsInto t before word ↔ ∃ w ∈ missingWords t, ∃ front back, w.text.toList = front ++ back ∧
      front <:+ before.toList ∧ back ≠ [] ∧ back <+: word.toList :=
  (exists_missingWords_iff t fun phrase => ∃ front back, phrase.toList = front ++ back ∧
    front <:+ before.toList ∧ back ≠ [] ∧ back <+: word.toList).symm

/-- A phrase that stands in a text without phrases and a word behind it runs into the word. -/
lemma exists_infix_append_iff (hp : isMissing t p = false) {word : String}
    (hword : ' ' ∉ word.toList) :
    (∃ w ∈ missingWords t, w.text.toList <:+: (p ++ word).toList) ↔ RunsInto t p word := by
  have hnone : ∀ w ∈ missingWords t, ¬ w.text.toList <:+: p.toList := by
    intro w hw h
    have htrue := isMissing_iff.mpr ⟨w, hw, h⟩
    simp [hp] at htrue
  rw [runsInto_iff, String.toList_append]
  refine exists_congr fun w => and_congr_right fun hw => ?_
  constructor
  · intro h
    rcases List.infix_append_iff.mp h with hin | hin | ⟨front, back, heq, hfront, hback⟩
    · exact absurd hin (hnone w hw)
    · exact absurd (hin.mem (by simp [Words.text])) hword
    · refine ⟨front, back, heq, hfront, ?_, hback⟩
      rintro rfl
      rw [List.append_nil] at heq
      exact hnone w hw (heq ▸ hfront.isInfix)
  · rintro ⟨front, back, heq, ⟨x, hx⟩, -, ⟨y, hy⟩⟩
    exact ⟨x, y, by rw [heq, ← hx, ← hy]; simp⟩

/-- What is found in a report behind a text without phrases runs into the first word of the report, or
reaches further. -/
lemma isMissing_append_iff (ht : IsName t) (hu : IsName u) (hp : isMissing t p = false) {r : Words}
    (hr : r ∈ missingWords u) (hblank : ' ' ∉ r.first.toList) :
    isMissing t (p ++ r.text) = true ↔
      RunsInto t p r.first ∨ ∃ w ∈ missingWords t, w.Reaches p r := by
  rw [isMissing_iff, ← exists_infix_append_iff hp hblank, ← exists_or]
  refine exists_congr fun w => ?_
  rw [← and_or_left]
  exact and_congr_right fun hw => Words.infix_iff (isApart_of_mem ht w hw) (isApart_of_mem hu r hr)

/-- The last word of a phrase holds neither quotes nor colons. -/
lemma not_mem_of_text_eq (ht : IsName t) {w : Words} (hw : w ∈ missingWords t)
    {front back : List Char} (h : w.text.toList = front ++ back) (hback : ' ' ∉ back) :
    '\'' ∉ back ∧ ':' ∉ back := by
  have hlast : '\'' ∉ w.last.toList ∧ ':' ∉ w.last.toList := by
    revert w
    simp [missingWords, unrecognized, unknown, notFound, noModule, ht.quote_not_mem, ht.colon_not_mem]
  have hends := Words.suffix_last h hback
  exact ⟨fun hmem => hlast.1 (hends.mem hmem), fun hmem => hlast.2 (hends.mem hmem)⟩

/-- Nothing runs into a name in quotes. -/
lemma not_runsInto_quoted (ht : IsName t) (hu : IsName u) : ¬ RunsInto t p ("'" ++ u ++ "'") := by
  rw [runsInto_iff]
  rintro ⟨w, hw, front, back, heq, -, hne, hback⟩
  have hblank : ' ' ∉ back := fun h => absurd (hback.mem h) (by simp [hu.blank_not_mem])
  have hquote := (not_mem_of_text_eq ht hw heq hblank).1
  obtain ⟨c, back, rfl⟩ := List.exists_cons_of_ne_nil hne
  rw [String.toList_append, String.toList_append] at hback
  obtain ⟨rfl, -⟩ := List.cons_prefix_cons.mp hback
  exact hquote List.mem_cons_self

/-- A colon behind a name makes no difference. -/
lemma runsInto_colon_iff (ht : IsName t) (hu : IsName u) :
    RunsInto t p (u ++ ":") ↔ RunsInto t p u := by
  rw [runsInto_iff, runsInto_iff, String.toList_append]
  refine exists_congr fun w => and_congr_right fun hw => exists_congr fun front =>
    exists_congr fun back => and_congr_right fun heq => and_congr_right fun _ =>
      and_congr_right fun _ => ?_
  constructor
  · intro hback
    have hblank : ' ' ∉ back := fun h => absurd (hback.mem h) (by simp [hu.blank_not_mem])
    have hcolon := (not_mem_of_text_eq ht hw heq hblank).2
    rcases List.prefix_concat_iff.mp hback with rfl | hback
    · exact absurd (List.mem_append_right _ (List.mem_singleton_self ':')) hcolon
    · exact hback
  · exact fun hback => hback.trans (List.prefix_append _ _)

/-! ## Which words reach which -/

variable {before : String}

/-- What is at least as long as a word and does not end with it is no end of what ends with the word. -/
lemma not_suffix_append {s word : String} (hlength : word.toList.length ≤ s.toList.length)
    (h : ¬ word.toList <:+ s.toList) : ¬ s.toList <:+ (before ++ word).toList := by
  intro hs
  rw [String.toList_append] at hs
  exact h (List.suffix_of_suffix_length_le (List.suffix_append before.toList word.toList) hs hlength)

/-- Texts that end with different characters are no ends of one another. -/
lemma concat_suffix_concat_iff {front back : List Char} {c d : Char} :
    front ++ [c] <:+ back ++ [d] ↔ front <:+ back ∧ c = d := by
  rw [List.suffix_append_inj_of_length_eq (by rfl), List.singleton_inj]

/-- A report of an unrecognized command is about the tool of that name only. -/
lemma exists_reaches_unrecognized (ht : IsName t) (hu : IsName u) :
    (∃ w ∈ missingWords t, w.Reaches before (unrecognized u)) ↔ t = u := by
  have hbefore : (before ++ ("'" ++ u ++ "'")).toList = (before.toList ++ '\'' :: u.toList) ++ ['\''] := by
    simp
  have hcommand : ¬ "command not found".toList ++ [':'] <:+ (before ++ ("'" ++ u ++ "'")).toList := by
    rw [hbefore, concat_suffix_concat_iff]
    exact fun h => absurd h.2 (by decide)
  have hmodule : ¬ "No module name".toList ++ ['d'] <:+ (before ++ ("'" ++ u ++ "'")).toList := by
    rw [hbefore, concat_suffix_concat_iff]
    exact fun h => absurd h.2 (by decide)
  have hnames : ([] ++ '\'' :: t.toList) ++ ['\''] <:+ (before ++ ("'" ++ u ++ "'")).toList ↔ t = u := by
    rw [hbefore, concat_suffix_concat_iff, append_cons_suffix_iff ht.quote_not_mem hu.quote_not_mem,
      String.toList_inj]
    simp
  simp [missingWords, Words.Reaches, unrecognized, unknown, notFound, noModule]
    at hcommand hmodule hnames ⊢
  simp [hcommand, hmodule, hnames]

/-- A report of an unknown command is about tools whose name the command begins with, or that stand before it
with a colon. -/
lemma exists_reaches_unknown :
    (∃ w ∈ missingWords t, w.Reaches before (unknown u)) ↔
      t.toList <+: u.toList ∨ (t ++ ": ").toList <:+ before.toList := by
  have hcommand : ¬ "command not found:".toList <:+ (before ++ "command").toList :=
    not_suffix_append (by decide) (by decide)
  have hmodule : ¬ "No module named".toList <:+ (before ++ "command").toList :=
    not_suffix_append (by decide) (by decide)
  have hlauncher : (t ++ ": ").toList ++ "command".toList <:+ before.toList ++ "command".toList ↔
      (t ++ ": ").toList <:+ before.toList := List.suffix_append_self_iff
  simp [missingWords, Words.Reaches, unrecognized, unknown, notFound, noModule]
    at hcommand hmodule hlauncher ⊢
  simp [hcommand, hmodule, hlauncher]

/-- A report of a command that is not found is about tools that the text ends with up to there, or that its
own words begin with. -/
lemma exists_reaches_notFound :
    (∃ w ∈ missingWords t, w.Reaches before (notFound u)) ↔
      t.toList <:+ (before ++ u).toList ∨
        "command not found".toList <:+ (before ++ u).toList ∧ t.toList <+: "command".toList := by
  have hbefore : (before ++ (u ++ ":")).toList = (before ++ u).toList ++ [':'] := by simp
  have hcolon : ∀ s : List Char,
      s ++ [':'] <:+ (before ++ (u ++ ":")).toList ↔ s <:+ (before ++ u).toList := by
    intro s
    rw [hbefore]
    exact List.suffix_append_self_iff
  have hcommand := hcolon "command not found".toList
  have hmodule : ¬ "No module name".toList ++ ['d'] <:+ (before ++ (u ++ ":")).toList := by
    rw [hbefore, concat_suffix_concat_iff]
    exact fun h => absurd h.2 (by decide)
  simp [missingWords, Words.Reaches, unrecognized, unknown, notFound, noModule]
    at hcolon hcommand hmodule ⊢
  simp [hcolon, hcommand, hmodule, or_comm]

/-- A report of a missing module is about tools whose name the module begins with. -/
lemma exists_reaches_noModule :
    (∃ w ∈ missingWords t, w.Reaches before (noModule u)) ↔ t.toList <+: u.toList := by
  have hcommand : ¬ "command not found:".toList <:+ (before ++ "No").toList :=
    not_suffix_append (by decide) (by decide)
  have hmodule : ¬ "No module named".toList <:+ (before ++ "No").toList :=
    not_suffix_append (by decide) (by decide)
  simp [missingWords, Words.Reaches, unrecognized, unknown, notFound, noModule]
    at hcommand hmodule ⊢
  simp [hcommand, hmodule]

/-! ## Reports about other tools -/

/-- **Which tool counts as missing.** Behind a text without phrases for a tool, a report that another one
is missing is taken for one about it exactly in these cases: between quotes, if the names are the same. If the
name ends the report, where the tool's name is a beginning of it. If the name begins the report, where the
tool's name is an end of it, or of what goes on in it. Apart from that only where the text in front breaks off
in a phrase, or ends with the name of the tool as a shell would write its own. -/
theorem isMissing_report_iff (ht : IsName t) (hu : IsName u) (hp : isMissing t p = false) :
    (isMissing t (p ++ ("'" ++ u ++ "' is not recognized")) = true ↔ t = u) ∧
    (isMissing t (p ++ ("command not found: " ++ u)) = true ↔
      t.toList <+: u.toList ∨ (t ++ ": ").toList <:+ p.toList ∨ RunsInto t p "command") ∧
    (isMissing t (p ++ (u ++ ": command not found")) = true ↔
      t.toList <:+ (p ++ u).toList ∨ RunsInto t p u ∨
        "command not found".toList <:+ (p ++ u).toList ∧ t.toList <+: "command".toList) ∧
    (isMissing t (p ++ ("No module named " ++ u)) = true ↔
      t.toList <+: u.toList ∨ RunsInto t p "No") := by
  have hblank := hu.blank_not_mem
  refine ⟨?_, ?_, ?_, ?_⟩
  · have hreport : "'" ++ u ++ "' is not recognized" = (unrecognized u).text := by
      simp [unrecognized, Words.text, String.append_assoc]
    rw [hreport, isMissing_append_iff ht hu hp (by simp [missingWords]) (by simp [unrecognized, hblank]),
      exists_reaches_unrecognized ht hu]
    exact or_iff_right (not_runsInto_quoted ht hu)
  · have hreport : "command not found: " ++ u = (unknown u).text := by simp [unknown, Words.text]
    rw [hreport, isMissing_append_iff ht hu hp (by simp [missingWords]) (by simp [unknown]),
      exists_reaches_unknown, or_comm, or_assoc]
    rfl
  · have hreport : u ++ ": command not found" = (notFound u).text := by
      simp [notFound, Words.text, String.append_assoc]
    rw [hreport, isMissing_append_iff ht hu hp (by simp [missingWords]) (by simp [notFound, hblank]),
      exists_reaches_notFound, or_left_comm]
    exact or_congr_right (or_congr_left (runsInto_colon_iff ht hu))
  · have hreport : "No module named " ++ u = (noModule u).text := by simp [noModule, Words.text]
    rw [hreport, isMissing_append_iff ht hu hp (by simp [missingWords]) (by simp [noModule]),
      exists_reaches_noModule, or_comm]
    rfl

/-- A cross compiler is taken for the compiler, and a plugin for the tool, but no other compiler is. -/
theorem isMissing_report_iff_crossCompiler :
    (IsName "g++" ∧ IsName "x86_64-w64-mingw32-g++" ∧ isMissing "g++" "bash: " = false ∧
      isMissing "g++" "bash: x86_64-w64-mingw32-g++: command not found" = true) ∧
    (IsName "pylint" ∧ IsName "pylint_django" ∧ isMissing "pylint" "python3: " = false ∧
      isMissing "pylint" "python3: No module named pylint_django" = true) ∧
    ¬ isMissing "g++" "'clang' is not recognized" = true := by
  have hcompiler : IsName "g++" := by decide +kernel
  have hcross : IsName "x86_64-w64-mingw32-g++" := by decide +kernel
  have htool : IsName "pylint" := by decide
  have hplugin : IsName "pylint_django" := by decide
  have hshell : isMissing "g++" "bash: " = false := by decide +kernel
  have hpython : isMissing "pylint" "python3: " = false := by decide +kernel
  obtain ⟨-, -, hfound, -⟩ := isMissing_report_iff hcompiler hcross hshell
  obtain ⟨-, -, -, hmodule⟩ := isMissing_report_iff htool hplugin hpython
  obtain ⟨hquoted, -, -, -⟩ :=
    isMissing_report_iff (t := "g++") (u := "clang") (p := "") hcompiler (by decide +kernel) (by decide +kernel)
  exact ⟨⟨hcompiler, hcross, hshell, hfound.mpr (.inl (by decide +kernel))⟩,
    ⟨htool, hplugin, hpython, hmodule.mpr (.inl (by decide +kernel))⟩, hquoted.not.mpr (by decide +kernel)⟩

end Diagnosis.Tool
