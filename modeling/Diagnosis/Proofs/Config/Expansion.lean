import Diagnosis.Config.Environment
import Diagnosis.Proofs.Steps
import Diagnosis.Proofs.Text.Blank

/-!
# What a configuration file stands for

A line of a configuration file is a comment, or consists of pieces: characters that stand for themselves and
references to variables (`Consists`). What pieces stand for is said one by one (`outcome`), without regard to
how they are found in the text, so what comes in for a reference is not looked at again.

* A piece is read off the front of a line, whatever follows it (`expandLine_piece`), so a line of pieces is
  expanded piece by piece (`expandLine_flatMap`).
* **Expansion** (`substitute_eq_outcome`): a text of comments and pieces becomes what its pieces stand for. It
  fails exactly if one of them stands for nothing, and names the variable of the first such.
-/

namespace Diagnosis.Config

open Diagnosis.Text

/-! ## Pieces -/

/-- A piece of a configuration file. -/
inductive Piece where
  /-- Characters that stand for themselves. -/
  | literal (s : List Char)
  /-- A reference to a variable. -/
  | reference (r : Reference)

/-- How a reference is written. -/
def Reference.text (r : Reference) : List Char :=
  match r.default with
  | none => '$' :: '\x7b' :: (r.name ++ ['\x7d'])
  | some d => '$' :: '\x7b' :: (r.name ++ ':' :: '-' :: (d ++ ['\x7d']))

/-- How a piece is written. -/
def Piece.text : Piece → List Char
  | literal s => s
  | reference r => r.text

/-- Whether a piece can be read back: a literal has no dollar signs, a name is not empty and has neither
colons nor closing braces, and a default has no closing braces. -/
def Piece.IsProper : Piece → Prop
  | literal s => '$' ∉ s
  | reference r => r.name ≠ [] ∧ ':' ∉ r.name ∧ '\x7d' ∉ r.name ∧ ∀ d ∈ r.default, '\x7d' ∉ d

/-- Whether a line is a comment: its first character that is no blank is a number sign. -/
def IsCommentLine (line : List Char) : Prop :=
  ∃ margin rest, line = margin ++ '#' :: rest ∧ ∀ c ∈ margin, isBlank c = true

/-- Whether a line, its end included, consists of pieces. A comment is one literal, whatever it holds. -/
inductive Consists (line : List Char) : List Piece → Prop
  | comment : IsCommentLine line → Consists line [.literal line]
  | pieces {ps : List Piece} : ¬ IsCommentLine line → line = ps.flatMap Piece.text →
      (∀ p ∈ ps, p.IsProper) → Consists line ps

/-! ## What pieces stand for -/

/-- What a piece stands for: a reference for the value of its variable if that is set, else for its
default. -/
def Piece.expansion (env : Environment) : Piece → List Char
  | literal s => s
  | reference r =>
    match env.lookup (String.ofList r.name) with
    | some value => value.toList
    | none => r.default.getD []

/-- The variable of a piece that stands for nothing: the variable is not set, and there is no default. -/
def Piece.unset? (env : Environment) : Piece → Option String
  | literal _ => none
  | reference r =>
    if env.lookup (String.ofList r.name) = none ∧ r.default = none then some (String.ofList r.name)
    else none

/-- What pieces in a row stand for, unless one of them stands for nothing. -/
def outcome (env : Environment) (ps : List Piece) : Except UnsetVariable (List Char) :=
  match ps.findSome? (Piece.unset? env) with
  | some name => .error ⟨name⟩
  | none => .ok (ps.flatMap (Piece.expansion env))

variable {env : Environment} {r : Reference} {p : Piece} {ps qs : List Piece} {s rest : List Char}

/-- Pieces are replaced one after the other, and the first variable without a value is the failure. -/
lemma outcome_append : outcome env (ps ++ qs) = do
    let front ← outcome env ps
    let back ← outcome env qs
    return front ++ back := by
  unfold outcome
  rw [List.findSome?_append, List.flatMap_append]
  cases ps.findSome? (Piece.unset? env) with
  | some name => rfl
  | none => cases qs.findSome? (Piece.unset? env) <;> rfl

/-- Literal text is its own outcome. -/
lemma outcome_literal (s : List Char) : outcome env [.literal s] = .ok s :=
  congrArg Except.ok (List.flatMap_singleton _ _)

/-- The outcome of a reference is its value. -/
lemma outcome_reference (r : Reference) : outcome env [.reference r] = r.value env := by
  simp only [outcome, List.findSome?_singleton, List.flatMap_singleton, Piece.unset?, Piece.expansion,
    Reference.value]
  cases env.lookup (String.ofList r.name) with
  | some value => rfl
  | none => cases r.default <;> rfl

/-! ## Reading pieces -/

/-- What belongs to a reference is passed over. -/
lemma expandFrom_eq_drop (skip : Nat) (s : List Char) :
    expandFrom env skip s = expandLine env (s.drop skip) := by
  induction s generalizing skip with
  | nil => cases skip <;> rfl
  | cons c rest ih =>
    cases skip with
    | zero => rfl
    | succ skip => rw [expandFrom, ih, List.drop_succ_cons]

/-- A character other than a dollar is kept. -/
lemma expandLine_cons {c : Char} (hc : c ≠ '$') :
    expandLine env (c :: rest) = (c :: ·) <$> expandLine env rest := by
  rw [expandLine, expandFrom, if_neg hc]
  rfl

/-- Text without dollars is kept. -/
lemma expandLine_literal (hs : '$' ∉ s) (rest : List Char) :
    expandLine env (s ++ rest) = (s ++ ·) <$> expandLine env rest := by
  induction s with
  | nil => cases h : expandLine env rest <;> simp [h, Functor.map, Except.map]
  | cons c s ih =>
    rw [List.mem_cons, not_or] at hs
    rw [List.cons_append, expandLine_cons (Ne.symm hs.1), ih hs.2]
    cases expandLine env rest <;> rfl

/-- A reference is read off the front of a text. -/
lemma readReference?_text (h : (Piece.reference r).IsProper) (rest : List Char) :
    ∃ tail, r.text = '$' :: tail ∧ readReference? (tail ++ rest) = some (r, rest) := by
  obtain ⟨name, default⟩ := r
  obtain ⟨hne, hcolon, hbrace, hdefault⟩ := h
  dsimp only at hne hcolon hbrace hdefault
  have hname : ∀ c ∈ name, isNameChar c = true := by
    intro c hc
    simp [isNameChar, ne_of_mem_of_not_mem hc hcolon, ne_of_mem_of_not_mem hc hbrace]
  cases default with
  | none =>
    have hstop : ∀ c ∈ ('\x7d' :: rest).head?, isNameChar c = false := by simp [isNameChar]
    obtain ⟨htake, hdrop⟩ := takeWhile_dropWhile_append hname hstop
    refine ⟨'\x7b' :: (name ++ ['\x7d']), rfl, ?_⟩
    simp [readReference?, htake, hdrop, hne]
  | some d =>
    have hd : ∀ c ∈ d, (c != '\x7d') = true := fun c hc =>
      bne_iff_ne.mpr (ne_of_mem_of_not_mem hc (hdefault d rfl))
    have hstop : ∀ c ∈ (':' :: '-' :: (d ++ '\x7d' :: rest)).head?, isNameChar c = false := by
      simp [isNameChar]
    have hstop' : ∀ c ∈ ('\x7d' :: rest).head?, (c != '\x7d') = false := by simp
    obtain ⟨htake, hdrop⟩ := takeWhile_dropWhile_append hname hstop
    obtain ⟨htake', hdrop'⟩ := takeWhile_dropWhile_append hd hstop'
    refine ⟨'\x7b' :: (name ++ ':' :: '-' :: (d ++ ['\x7d'])), rfl, ?_⟩
    simp [readReference?, htake, hdrop, hne, htake', hdrop']

/-- A reference is replaced by its value. -/
lemma expandLine_reference (h : (Piece.reference r).IsProper) (rest : List Char) :
    expandLine env (r.text ++ rest) = do
      let value ← r.value env
      let more ← expandLine env rest
      return value ++ more := by
  obtain ⟨tail, htext, hread⟩ := readReference?_text h rest
  have hdrop : (tail ++ rest).drop ((tail ++ rest).length - rest.length) = rest := by
    rw [List.length_append, Nat.add_sub_cancel, List.drop_left]
  rw [htext, List.cons_append, expandLine, expandFrom, if_pos rfl, hread]
  dsimp only
  rw [expandFrom_eq_drop, hdrop]

/-- A piece at the front of a line is expanded on its own. -/
lemma expandLine_piece (h : p.IsProper) (rest : List Char) :
    expandLine env (p.text ++ rest) = do
      let value ← outcome env [p]
      let more ← expandLine env rest
      return value ++ more := by
  cases p with
  | literal s =>
    rw [outcome_literal]
    exact expandLine_literal h rest
  | reference r =>
    rw [outcome_reference]
    exact expandLine_reference h rest

/-- A line of pieces is expanded piece by piece. -/
lemma expandLine_flatMap (h : ∀ p ∈ ps, p.IsProper) :
    expandLine env (ps.flatMap Piece.text) = outcome env ps := by
  induction ps with
  | nil => rfl
  | cons p ps ih =>
    obtain ⟨hp, hps⟩ := List.forall_mem_cons.mp h
    rw [List.flatMap_cons, expandLine_piece hp, ih hps, ← outcome_append, List.singleton_append]

/-! ## Lines -/

/-- Whether a line is a comment shows in its first character that is no blank. -/
lemma isComment_iff {line : List Char} : isComment line = true ↔ IsCommentLine line := by
  rw [isComment, beq_iff_eq]
  constructor
  · intro h
    obtain ⟨rest, hrest⟩ := List.head?_eq_some_iff.mp h
    refine ⟨line.takeWhile isBlank, rest, ?_, fun c hc => List.mem_takeWhile_imp hc⟩
    rw [← hrest, List.takeWhile_append_dropWhile]
  · rintro ⟨margin, rest, rfl, hmargin⟩
    rw [(takeWhile_dropWhile_append hmargin (by simp [isBlank])).2]
    rfl

/-- A line comes out as its pieces do, and a comment as it stands. -/
lemma expandUnlessComment_eq {line : List Char} (h : Consists line ps) :
    (if isComment line then .ok line else expandLine env line) = outcome env ps := by
  cases h with
  | comment h => rw [if_pos (isComment_iff.mpr h), outcome_literal]
  | pieces hno hline hps => rw [if_neg (mt isComment_iff.mp hno), hline, expandLine_flatMap hps]

/-- **Expansion of a text** of comments and pieces, line by line. -/
theorem substitute_eq_outcome {text : List Char} {doc : List (List Piece)}
    (h : List.Forall₂ (fun l ps => Consists (l.body ++ l.ending) ps) (linesWithEnds text) doc) :
    substitute env text = outcome env doc.flatten := by
  rw [substitute]
  generalize linesWithEnds text = ls at h
  induction h with
  | nil => rfl
  | @cons l ps ls doc hl _ ih =>
    rw [List.flatten_cons, outcome_append, ← ih, flatten_mapM_cons]
    dsimp only
    rw [expandUnlessComment_eq hl]

/-- References next to each other, one in a comment, one whose value is a reference, and one whose variable is
set to nothing; and a line with two references to variables that are not set. -/
theorem substitute_eq_outcome_adjacent :
    let env := [("A", "$\x7bB\x7d#"), ("EMPTY", "")]
    let text := "# $\x7bA\x7d\r\na: $\x7bA\x7d$\x7bB:-$\x7bA\x7d!$\x7bEMPTY:-x\x7d\n".toList
    let doc : List (List Piece) := [[.literal "# $\x7bA\x7d\r\n".toList],
      [.literal "a: ".toList, .reference ⟨['A'], none⟩, .reference ⟨['B'], some "$\x7bA".toList⟩,
        .literal ['!'], .reference ⟨"EMPTY".toList, some ['x']⟩, .literal ['\n']]]
    (List.Forall₂ (fun l ps => Consists (l.body ++ l.ending) ps) (linesWithEnds text) doc ∧
      substitute env text = .ok "# $\x7bA\x7d\r\na: $\x7bB\x7d#$\x7bA!\n".toList) ∧
      substitute env "$\x7bP\x7d$\x7bQ\x7d".toList = .error ⟨"P"⟩ := by
  intro env text doc
  have hdoc : List.Forall₂ (fun l ps => Consists (l.body ++ l.ending) ps) (linesWithEnds text) doc := by
    refine .cons (.comment ⟨[], " $\x7bA\x7d\r\n".toList, rfl, nofun⟩) (.cons (.pieces ?_ rfl ?_) .nil)
    · exact mt isComment_iff.mpr (by decide)
    · simp [Piece.IsProper]
  have hunset : List.Forall₂ (fun l ps => Consists (l.body ++ l.ending) ps)
      (linesWithEnds "$\x7bP\x7d$\x7bQ\x7d".toList) [[.reference ⟨['P'], none⟩, .reference ⟨['Q'], none⟩]] := by
    refine .cons (.pieces ?_ rfl ?_) .nil
    · exact mt isComment_iff.mpr (by decide)
    · simp [Piece.IsProper]
  exact ⟨⟨hdoc, (substitute_eq_outcome hdoc).trans (by decide)⟩, (substitute_eq_outcome hunset).trans (by decide)⟩

end Diagnosis.Config
