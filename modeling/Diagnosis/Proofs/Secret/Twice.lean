import Diagnosis.Proofs.Secret.Detection

/-!
# What redaction finds in its own output

A text that has been redacted holds no secret, save connection strings that a placeholder stands in.
This module says when there are such.

Whether a connection string begins at a place is decided by what comes first (`Credentials`): behind its
scheme a colon, behind that an at sign, and behind that something else than a blank. Placeholders hold
none of these separators, so in a text with placeholders all of them have been kept
(`exists_of_render_eq`). The text before may have had further separators, in what the placeholders stand
for; but then it also had first ones, and in their right places, since secrets are guarded
(`Form.Guarded`): only an at sign before a blank could be in the way (`Form.Guarded.credentials_text`).

* **Redacting twice** (`detect_redact`): whatever is found in a redacted text is a connection string that
  holds a placeholder, and there is one only if an at sign of the text stands before a blank. Redacting
  again changes nothing exactly when nothing is found.
* There are such texts (`detect_redact_nested`): of two connection strings, the inner one keeps the outer
  one from being found, and is then replaced.
-/

namespace Diagnosis.Secret

open Diagnosis.Text Diagnosis.Pattern Diagnosis.Pattern.Regex

variable {f g : Form} {fs : List Form} {s t m : List Char} {ps : List Piece}

/-! ## Where connection strings begin -/

/-- Whether a text begins with a name, a password and a host, as a connection string has them behind
its scheme. -/
inductive Credentials : List Char → Prop
  | intro {name word rest : List Char} {c : Char} : name ≠ [] → ':' ∉ name → word ≠ [] →
      '@' ∉ word → isBlank c = false → Credentials (name ++ ':' :: (word ++ '@' :: c :: rest))

/-- Whether a text begins with a connection string. -/
def BeginsConnection (s : List Char) : Prop :=
  ∃ scheme rest, databaseScheme.Describes scheme ∧ s = scheme ++ "://".toList ++ rest ∧
    Credentials rest

/-- The test for another character accepts all but the given one. -/
lemma accepts_notChar {c d : Char} : (notChar c).accepts false d = true ↔ d ≠ c := by
  have hnot : (notChar c).accepts false d = !(CharTest.only c).accepts false d := rfl
  rw [hnot, Bool.not_eq_true', ← Bool.not_eq_true, accepts_only]

/-- A run of other characters is one without the given one, and is not empty. -/
lemma describes_notChar_iff {c : Char} {x : List Char} :
    (Regex.run (notChar c) 1).Describes x ↔ x ≠ [] ∧ c ∉ x := by
  rw [describes_run_iff, Nat.succ_le_iff, List.length_pos_iff]
  refine and_congr_right fun _ => ⟨fun h hc => ?_, fun h d hd => ?_⟩
  · exact accepts_notChar.mp (h c hc) rfl
  · exact accepts_notChar.mpr (ne_of_mem_of_not_mem hd h)

/-- A text begins with a connection string exactly when one is a part of it from the start on. -/
lemma beginsConnection_iff :
    BeginsConnection s ↔ ∃ m, connectionString.regex.Describes m ∧ m <+: s := by
  constructor
  · rintro ⟨scheme, rest, hscheme, rfl, hrest⟩
    cases hrest with
    | @intro name word rest c hname hcolon hword hat hc =>
      have hhost : (Regex.run (.except .blank) 1).Describes [c] := by
        refine describes_run_iff.mpr ⟨Nat.le_refl _, fun d hd => ?_⟩
        rw [List.mem_singleton.mp hd]
        simpa [CharTest.accepts] using hc
      refine ⟨scheme ++ ("://".toList ++ (name ++ ([':'] ++ (word ++ (['@'] ++ [c]))))), ?_, ?_⟩
      · exact ⟨_, _, rfl, hscheme, _, _, rfl, describes_text_iff.mpr rfl, _, _, rfl,
          describes_notChar_iff.mpr ⟨hname, hcolon⟩, _, _, rfl, describes_text_iff.mpr rfl, _, _, rfl,
          describes_notChar_iff.mpr ⟨hword, hat⟩, _, _, rfl, describes_text_iff.mpr rfl, hhost⟩
      · exact ⟨rest, by simp⟩
  · rintro ⟨m, ⟨scheme, _, rfl, hscheme, colon, _, rfl, hmark, name, _, rfl, hname, _, _, rfl, hcolon,
      word, _, rfl, hword, _, host, rfl, hat, hhost⟩, z, rfl⟩
    rcases describes_notChar_iff.mp hname with ⟨hname, hnone⟩
    rcases describes_notChar_iff.mp hword with ⟨hword, hnoat⟩
    rcases describes_run_iff.mp hhost with ⟨hlength, hblank⟩
    rcases List.exists_cons_of_length_pos hlength with ⟨c, host, rfl⟩
    have hc : isBlank c = false := by simpa [CharTest.accepts] using hblank c List.mem_cons_self
    refine ⟨scheme, name ++ ':' :: (word ++ '@' :: c :: (host ++ z)), hscheme, ?_, ?_⟩
    · rw [describes_text_iff.mp hmark, describes_text_iff.mp hcolon, describes_text_iff.mp hat]
      simp
    · exact .intro hname hnone hword hnoat hc

/-- Whether an at sign stands right before a blank. -/
def HasOpenAt (s : List Char) : Prop := ∃ b, isBlank b = true ∧ ['@', b] <:+: s

/-- What is open in a part of a text is open in the text. -/
lemma HasOpenAt.of_isInfix (h : HasOpenAt s) (hst : s <:+: t) : HasOpenAt t := by
  rcases h with ⟨b, hb, hinfix⟩
  exact ⟨b, hb, hinfix.trans hst⟩

/-- An at sign that is not the last character is there, and a first one. -/
lemma exists_first_at {v tail : List Char} (htail : tail ≠ []) :
    ∃ word c rest, v ++ '@' :: tail = word ++ '@' :: c :: rest ∧ '@' ∉ word := by
  induction v with
  | nil =>
    rcases List.exists_cons_of_ne_nil htail with ⟨c, rest, rfl⟩
    exact ⟨[], c, rest, rfl, List.not_mem_nil⟩
  | cons a v ih =>
    by_cases ha : a = '@'
    · have hne : v ++ '@' :: tail ≠ [] := by simp
      rcases List.exists_cons_of_ne_nil hne with ⟨c, rest, hrest⟩
      exact ⟨[], c, rest, by rw [ha, List.cons_append, hrest]; rfl, List.not_mem_nil⟩
    · rcases ih with ⟨word, c, rest, heq, hword⟩
      refine ⟨a :: word, c, rest, by rw [List.cons_append, heq]; rfl, ?_⟩
      exact List.not_mem_cons_of_ne_of_not_mem (Ne.symm ha) hword

/-- A name, and behind its colon an at sign that is neither first nor last: that is all there has to
be, unless an at sign stands before a blank. -/
lemma Credentials.of_at {name v tail : List Char} {d : Char} (hname : name ≠ []) (hcolon : ':' ∉ name)
    (hd : d ≠ '@') (htail : tail ≠ [])
    (hat : ¬ HasOpenAt (name ++ ':' :: d :: (v ++ '@' :: tail))) :
    Credentials (name ++ ':' :: d :: (v ++ '@' :: tail)) := by
  rcases exists_first_at (v := v) htail with ⟨word, c, rest, heq, hword⟩
  rw [heq] at hat ⊢
  have hc : isBlank c = false := by
    rw [Bool.eq_false_iff]
    intro hblank
    exact hat ⟨c, hblank, name ++ ':' :: d :: word, rest, by simp⟩
  have hnoat : '@' ∉ d :: word := List.not_mem_cons_of_ne_of_not_mem (Ne.symm hd) hword
  rw [← List.cons_append]
  exact .intro hname hcolon (List.cons_ne_nil d word) hnoat hc

/-! ## Replaced secrets inside connection strings -/

/-- Whether secrets of a form that stand inside a connection string leave its parts in order: they
begin with neither of the characters that separate the parts, and behind the first colon of one comes
something else than an at sign. -/
structure Form.Guarded (f : Form) : Prop where
  first : ∀ {x : List Char} {c : Char}, f.regex.Describes (c :: x) → c ≠ ':' ∧ c ≠ '@'
  behindColon : ∀ {p q : List Char}, f.regex.Describes (p ++ ':' :: q) → ':' ∉ p →
    ∃ d q', q = d :: q' ∧ d ≠ '@'

/-- Where colons come from replaced secrets alone, something else than an at sign comes behind the
first one. -/
lemma Form.Guarded.behindColon_text (hg : g.Guarded) {new : List Char}
    (hk : ':' ∉ ps.flatMap (Piece.render new)) (hfound : ∀ x, .found x ∈ ps → g.regex.Describes x) :
    ':' ∉ ps.flatMap Piece.text ∨
      ∃ p d q, ps.flatMap Piece.text = p ++ ':' :: d :: q ∧ ':' ∉ p ∧ d ≠ '@' := by
  induction ps with
  | nil => exact .inl List.not_mem_nil
  | cons q ps ih =>
    rw [List.flatMap_cons, List.mem_append, not_or] at hk
    have hrest := ih hk.2 fun x hx => hfound x (List.mem_cons_of_mem q hx)
    rw [List.flatMap_cons]
    by_cases hcolon : ':' ∈ q.text
    · cases q with
      | kept c => exact absurd hcolon hk.1
      | found x =>
        rcases List.eq_append_cons_of_mem hcolon with ⟨p, q, hx, hp⟩
        have hdescribes := hfound x List.mem_cons_self
        rw [show x = p ++ ':' :: q from hx] at hdescribes
        rcases hg.behindColon hdescribes hp with ⟨d, q, rfl, hd⟩
        refine .inr ⟨p, d, q ++ ps.flatMap Piece.text, ?_, hp, hd⟩
        rw [hx]
        simp
    · rcases hrest with hnone | ⟨p, d, rest, heq, hp, hd⟩
      · exact .inl (List.not_mem_append hcolon hnone)
      · refine .inr ⟨q.text ++ p, d, rest, ?_, List.not_mem_append hcolon hp, hd⟩
        rw [heq, List.append_assoc]

/-- What begins a part of a connection string after secrets have been replaced is no separator before
either. -/
lemma Form.Guarded.exists_text_eq_cons (hg : g.Guarded) (hnull : g.regex.isNullable = false)
    {new : List Char} {k : Char} (hk : k = ':' ∨ k = '@')
    (hfound : ∀ x, .found x ∈ ps → g.regex.Describes x)
    (hne : ps.flatMap (Piece.render new) ≠ []) (hout : k ∉ ps.flatMap (Piece.render new)) :
    ∃ d rest, ps.flatMap Piece.text = d :: rest ∧ d ≠ k := by
  have hnonempty : ∀ x, .found x ∈ ps → x ≠ [] := fun x hx => (hfound x hx).ne_nil hnull
  rcases exists_text_eq_cons_of_render hne hnonempty with ⟨d, rest, heq, hkept | ⟨x, hx⟩⟩
  · exact ⟨d, rest, heq, ne_of_mem_of_not_mem hkept hout⟩
  · have hfirst := hg.first (hfound _ hx)
    rcases hk with rfl | rfl
    · exact ⟨d, rest, heq, hfirst.1⟩
    · exact ⟨d, rest, heq, hfirst.2⟩

/-- **Credentials that stand in a text after secrets have been replaced stood there before**, unless
an at sign stood before a blank. -/
lemma Form.Guarded.credentials_text (hg : g.Guarded) (hnull : g.regex.isNullable = false)
    (hfound : ∀ x, .found x ∈ ps → g.regex.Describes x) (hat : ¬ HasOpenAt (ps.flatMap Piece.text))
    (h : Credentials (ps.flatMap (Piece.render placeholderChars))) :
    Credentials (ps.flatMap Piece.text) := by
  generalize hrender : ps.flatMap (Piece.render placeholderChars) = s at h
  cases h with
  | @intro name word rest c hname hcolon hword hnoat hc =>
    -- the separators have been kept
    rcases exists_of_render_eq (by decide) hrender with ⟨before, after, rfl, rfl, hafter⟩
    rcases exists_of_render_eq (by decide) hafter with ⟨middle, behind, rfl, rfl, hbehind⟩
    have hbefore : ∀ x, .found x ∈ before → g.regex.Describes x :=
      fun x hx => hfound x (by simp [hx])
    have hmiddle : ∀ x, .found x ∈ middle → g.regex.Describes x :=
      fun x hx => hfound x (by simp [hx])
    have hbehind' : ∀ x, .found x ∈ behind → x ≠ [] :=
      fun x hx => (hfound x (by simp [hx])).ne_nil hnull
    -- no part was empty, and none began with a separator
    rcases hg.exists_text_eq_cons hnull (.inl rfl) hbefore hname hcolon with ⟨a, name, ha, hacolon⟩
    rcases hg.exists_text_eq_cons hnull (.inr rfl) hmiddle hword hnoat with ⟨b, word, hb, hbat⟩
    have hhost : behind.flatMap (Piece.render placeholderChars) ≠ [] := by
      rw [hbehind]
      exact List.cons_ne_nil c rest
    rcases exists_text_eq_cons_of_render hhost hbehind' with ⟨e, host, he, -⟩
    have hsplit : (before ++ .kept ':' :: (middle ++ .kept '@' :: behind)).flatMap Piece.text =
        before.flatMap Piece.text ++ ':' :: b :: (word ++ '@' :: e :: host) := by
      simp [Piece.text, hb, he]
    rw [hsplit] at hat ⊢
    rcases hg.behindColon_text hcolon hbefore with hnone | ⟨p, d, q, hp, hpcolon, hd⟩
    · exact .of_at (by simp [ha]) hnone hbat (List.cons_ne_nil e host) hat
    · -- the first colon stood in a secret; the one that has been kept was part of the word
      have hpne : p ≠ [] := by
        rintro rfl
        exact hacolon (List.cons.inj (ha.symm.trans hp)).1
      have hjoin : before.flatMap Piece.text ++ ':' :: b :: (word ++ '@' :: e :: host) =
          p ++ ':' :: d :: ((q ++ ':' :: b :: word) ++ '@' :: e :: host) := by
        simp [hp]
      rw [hjoin] at hat ⊢
      exact .of_at hpne hpcolon hd (List.cons_ne_nil e host) hat

/-- **Connection strings that begin in a text after secrets have been replaced began there before**,
unless an at sign stood before a blank. -/
lemma Form.Guarded.beginsConnection_text (hg : g.Guarded) (hnull : g.regex.isNullable = false)
    (hfound : ∀ x, .found x ∈ ps → g.regex.Describes x) (hat : ¬ HasOpenAt (ps.flatMap Piece.text))
    (h : BeginsConnection (ps.flatMap (Piece.render placeholderChars))) :
    BeginsConnection (ps.flatMap Piece.text) := by
  rcases h with ⟨scheme, rest, hscheme, hrender, hrest⟩
  have hopening : placeholderChars.head? = some '[' := by decide
  have hnone : '[' ∉ scheme ++ "://".toList := by
    have havoids : databaseScheme.avoids '[' = true := by decide
    exact List.not_mem_append (not_mem_of_avoids havoids hscheme) (by decide)
  rcases exists_of_render_eq_append hopening hnone hrender with ⟨after, rfl, rfl⟩
  have htext : ((scheme ++ "://".toList).map Piece.kept ++ after).flatMap Piece.text =
      scheme ++ "://".toList ++ after.flatMap Piece.text := by
    rw [List.flatMap_append, flatMap_text_map_kept]
  rw [htext] at hat ⊢
  refine ⟨scheme, _, hscheme, rfl, ?_⟩
  refine hg.credentials_text hnull (fun x hx => hfound x (List.mem_append_right _ hx)) ?_ hrest
  intro hopen
  exact hat (hopen.of_isInfix (List.suffix_append _ _).isInfix)

/-! ## The default forms are guarded -/

/-- Whether behind the first colon of every described text comes something else than an at sign. -/
def BehindColon (r : Regex) : Prop :=
  ∀ {p q : List Char}, r.Describes (p ++ ':' :: q) → ':' ∉ p → ∃ d q', q = d :: q' ∧ d ≠ '@'

/-- What has no colon has nothing behind one. -/
lemma BehindColon.of_avoids {r : Regex} (h : r.avoids ':' = true) : BehindColon r := by
  intro p q hx
  exact absurd (List.mem_append_right p List.mem_cons_self) (not_mem_of_avoids h hx)

/-- Behind something without colons, colons are those of what follows. -/
lemma BehindColon.both {r r' : Regex} (h : r.avoids ':' = true) (h' : BehindColon r') :
    BehindColon (r.both r') := by
  rintro p q ⟨y, z, heq, hy, hz⟩ hp
  have hycolon : ':' ∉ y := not_mem_of_avoids h hy
  rcases List.append_eq_append_iff.mp heq with ⟨y', rfl, hz'⟩ | ⟨p', rfl, hz'⟩
  · rcases y' with _ | ⟨c, y'⟩
    · exact h' (p := []) (hz' ▸ hz) List.not_mem_nil
    · obtain ⟨rfl, -⟩ := List.cons.inj hz'
      exact absurd (List.mem_append_right p List.mem_cons_self) hycolon
  · exact h' (hz' ▸ hz) fun hmem => hp (List.mem_append_right y hmem)

/-- Behind the colon of an assignment comes the value, blanks and a quote apart. -/
lemma behindColon_assignedSecret : BehindColon assignedSecret.regex := by
  refine BehindColon.both (by decide) (BehindColon.both (by decide) ?_)
  rintro p q ⟨y, z, heq, ⟨c, rfl, -⟩, hz⟩ hp
  rcases p with _ | ⟨a, p⟩
  · obtain ⟨rfl, rfl⟩ := List.cons.inj heq
    rcases hz.exists_eq_cons (by decide) with ⟨d, rest, rfl⟩
    have hat : '@' ∉ d :: rest := not_mem_of_avoids (by decide +kernel) hz
    exact ⟨d, rest, rfl, fun h => hat (h ▸ List.mem_cons_self)⟩
  · have hrest : p ++ ':' :: q = z := (List.cons.inj heq).2
    have hcolon : ':' ∉ z := not_mem_of_avoids (by decide +kernel) hz
    exact absurd (hrest ▸ List.mem_append_right p List.mem_cons_self) hcolon

/-- Behind the first colon of a connection string comes a slash. -/
lemma behindColon_connectionString : BehindColon connectionString.regex := by
  refine BehindColon.both (by decide) ?_
  rintro p q ⟨y, z, heq, hy, -⟩ hp
  rw [describes_text_iff.mp hy] at heq
  rcases p with _ | ⟨a, p⟩
  · obtain ⟨-, rfl⟩ := List.cons.inj heq
    exact ⟨'/', _, rfl, by decide⟩
  · obtain ⟨rfl, -⟩ := List.cons.inj heq
    exact absurd List.mem_cons_self hp

/-- All the forms are guarded. -/
lemma guarded_of_mem (hf : f ∈ forms) : f.Guarded := by
  have hfirst : ∀ g ∈ forms, (g.regex.rests ':').isEmpty ∧ (g.regex.rests '@').isEmpty := by
    decide +kernel
  have havoids : ∀ g ∈ forms, g.kind ≠ assignedSecret.kind → g.kind ≠ connectionString.kind →
      g.regex.avoids ':' = true := by
    decide +kernel
  refine ⟨fun {x c} hx => ?_, ?_⟩
  · rcases exists_mem_rests hx with ⟨r, hr, -⟩
    constructor
    · rintro rfl
      rw [List.isEmpty_iff.mp (hfirst f hf).1] at hr
      cases hr
    · rintro rfl
      rw [List.isEmpty_iff.mp (hfirst f hf).2] at hr
      cases hr
  · by_cases hassigned : f.kind = assignedSecret.kind
    · obtain rfl := eq_of_kind_eq hf (by simp [forms]) hassigned
      exact behindColon_assignedSecret
    · by_cases hconnection : f.kind = connectionString.kind
      · obtain rfl := eq_of_kind_eq hf (by simp [forms]) hconnection
        exact behindColon_connectionString
      · exact BehindColon.of_avoids (havoids f hf hassigned hconnection)

/-! ## Looking for one form -/

/-- No at sign comes to stand before a blank. -/
lemma HasOpenAt.of_replace (h : HasOpenAt (g.regex.replace (fun _ => placeholderChars) s))
    (hg : g.Apart) : HasOpenAt s := by
  rcases h with ⟨b, hb, before, after, heq⟩
  have hopening : placeholderChars.head? = some '[' := by decide
  have hother : '[' ∉ [b] := by
    intro hmem
    rw [← List.mem_singleton.mp hmem] at hb
    cases hb
  rw [replace_eq, List.append_assoc] at heq
  rcases exists_of_render_eq (by decide) heq.symm with ⟨ps, qs, hpieces, -, hrest⟩
  rcases exists_of_render_eq_append hopening hother hrest with ⟨rs, rfl, -⟩
  refine ⟨b, hb, ps.flatMap Piece.text, rs.flatMap Piece.text, ?_⟩
  rw [← (cuts_pieces hg.isLocal hg.notNullable s).flatMap_text, hpieces]
  simp [Piece.text]

/-- Once no connection string is found, or after looking for them, there is none, unless an at sign
stands before a blank. -/
lemma not_occursIn_replace (hg : g ∈ forms) (hat : ¬ HasOpenAt s)
    (h : g = connectionString ∨ connectionString.regex.occursIn s = false) :
    connectionString.regex.occursIn (g.regex.replace (fun _ => placeholderChars) s) = false := by
  have hconnection : connectionString.Apart := apart_of_mem (by simp [forms])
  have hapart := apart_of_mem hg
  have hps := cuts_pieces hapart.isLocal hapart.notNullable s
  rw [Bool.eq_false_iff, ne_eq, occursIn_iff hconnection.isLocal hconnection.notNullable]
  rintro ⟨m, hm, hstands⟩
  rw [replace_eq] at hstands
  rcases exists_of_infix_render (hm.ne_nil hconnection.notNullable) hstands with
    ⟨v, hv, hsuffix, z, hbegins⟩ | ⟨before, c, after, hsplit, hbegins⟩
  · exact hconnection.not_begins hm hv hsuffix z hbegins
  · have hinfix : (Piece.kept c :: after).flatMap Piece.text <:+: s := by
      rw [← hps.flatMap_text, hsplit, List.flatMap_append]
      exact (List.suffix_append _ _).isInfix
    have hfound : ∀ x, .found x ∈ Piece.kept c :: after → g.regex.Describes x := by
      intro x hx
      exact hps.describes_of_mem (hsplit ▸ List.mem_append_right before hx)
    have hbefore := (guarded_of_mem hg).beginsConnection_text hapart.notNullable hfound
      (fun hopen => hat (hopen.of_isInfix hinfix)) (beginsConnection_iff.mpr ⟨m, hm, hbegins⟩)
    rcases beginsConnection_iff.mp hbefore with ⟨m', hm', hbegins'⟩
    rcases h with rfl | h
    · exact (hsplit ▸ hps).not_describes hbegins' hm'
    · have hoccurs : connectionString.regex.occursIn s = true :=
        (occursIn_iff hconnection.isLocal hconnection.notNullable).mpr
          ⟨m', hm', hbegins'.isInfix.trans hinfix⟩
      simp [h] at hoccurs

/-! ## Looking for all forms -/

/-- Redaction makes no connection string where nothing is open. -/
lemma not_occursIn_redactAll (hfs : ∀ f ∈ fs, f ∈ forms) (hat : ¬ HasOpenAt s)
    (h : connectionString ∈ fs ∨ connectionString.regex.occursIn s = false) :
    connectionString.regex.occursIn (redactAll fs s) = false := by
  induction fs generalizing s with
  | nil => exact h.resolve_left List.not_mem_nil
  | cons g fs ih =>
    have hg := hfs g List.mem_cons_self
    refine ih (fun f hf => hfs f (List.mem_cons_of_mem g hf))
      (fun hopen => hat (hopen.of_replace (apart_of_mem hg))) ?_
    rcases h with hmem | hnone
    · rcases List.mem_cons.mp hmem with heq | hmem
      · exact .inr (not_occursIn_replace hg hat (.inl heq.symm))
      · exact .inl hmem
    · exact .inr (not_occursIn_replace hg hat (.inr hnone))

/-- What is detected where all matches are connection strings. -/
lemma detect_cases {t : String}
    (h : ∀ f ∈ forms, f.regex.occursIn t.toList = true → f = connectionString) :
    ({} : Redactor).detect t = [] ∨ ({} : Redactor).detect t = [connectionString.kind] := by
  have hmem : connectionString ∈ forms := by simp [forms]
  cases hoccurs : connectionString.regex.occursIn t.toList with
  | false =>
    refine .inl (detect_eq_nil_iff.mpr fun f hf => ?_)
    rw [Bool.eq_false_iff]
    intro hfound
    obtain rfl := h f hf hfound
    simp [hoccurs] at hfound
  | true =>
    have hsame : ∀ f ∈ forms, f.regex.occursIn t.toList = (f.kind == connectionString.kind) := by
      intro f hf
      cases hfound : f.regex.occursIn t.toList with
      | true => simp [h f hf hfound]
      | false =>
        have hne : f.kind ≠ connectionString.kind := by
          intro hkind
          obtain rfl := eq_of_kind_eq hf hmem hkind
          simp [hoccurs] at hfound
        simp [hne]
    rw [detect_eq, List.filter_congr hsame]
    exact .inr (by decide)

/-- **Redacting twice.** All that is found in a redacted text is connection strings that hold a
placeholder, and these only where an at sign of the text before stood right before a blank. Redacting
again leaves the text alone exactly when nothing is found. -/
theorem detect_redact (t : String) :
    ∃ out, ({} : Redactor).redact t = .ok out ∧
      (∀ f ∈ forms, ∀ m, f.regex.Matches m → m <:+: out.toList →
        f = connectionString ∧ placeholderChars <:+: m) ∧
      (({} : Redactor).detect out = [] ∨
        ({} : Redactor).detect out = [connectionString.kind] ∧ HasOpenAt t.toList) ∧
      (({} : Redactor).redact out = .ok out ↔ ({} : Redactor).detect out = []) := by
  have hwhole : ∀ f ∈ forms, ∀ m, f.regex.Describes m → m <:+: redactAll forms t.toList →
      f = connectionString ∧ placeholderChars <:+: m := by
    intro f hf m hm hstands
    have hholds : placeholderChars <:+: m := by
      by_contra hplain
      exact clean_redactAll (fun g hg => apart_of_mem hg) (apart_of_mem hf) (.inl hf) m hm hplain
        hstands
    exact ⟨eq_connectionString hf hm (hholds.mem (by decide)), hholds⟩
  refine ⟨String.ofList (redactAll forms t.toList), redact_eq t, ?_, ?_, redact_eq_self_iff⟩
  · intro f hf m hm hstands
    rw [String.toList_ofList] at hstands
    exact hwhole f hf m ((matches_iff (apart_of_mem hf).isLocal).mp hm) hstands
  · have hfound : ∀ f ∈ forms, f.regex.occursIn (redactAll forms t.toList) = true →
        f = connectionString := by
      intro f hf hoccurs
      have hapart := apart_of_mem hf
      rcases (occursIn_iff hapart.isLocal hapart.notNullable).mp hoccurs with ⟨m, hm, hstands⟩
      exact (hwhole f hf m hm hstands).1
    rw [← String.toList_ofList (l := redactAll forms t.toList)] at hfound
    by_cases hat : HasOpenAt t.toList
    · rcases detect_cases hfound with hnil | hkind
      · exact .inl hnil
      · exact .inr ⟨hkind, hat⟩
    · refine .inl (detect_eq_nil_iff.mpr fun f hf => ?_)
      rw [Bool.eq_false_iff]
      intro hoccurs
      obtain rfl := hfound f hf hoccurs
      have hnone := not_occursIn_redactAll (fun f hf => hf) hat (.inl hf)
      rw [String.toList_ofList, hnone] at hoccurs
      cases hoccurs

/-- Something may be found: the at sign before the blank keeps the outer connection string from being
one, until a placeholder takes it away. -/
theorem detect_redact_nested :
    let t := "redis://a:redis://u@ v:w@z @q"
    let out := "redis://a:[REDACTED] @q"
    ({} : Redactor).redact t = .ok out ∧ ({} : Redactor).detect out = [connectionString.kind] ∧
      ({} : Redactor).redact out = .ok "[REDACTED]" := by
  dsimp only
  rw [redact_eq, redact_eq]
  decide +kernel

end Diagnosis.Secret
