import ReplSend.Proofs.Text.Lines

/-!
# Lines and lexing

A lexer that reads one character at a time knows of brackets, strings, comments and joined lines
without ever looking ahead (`Lexer`). The scan of lines decides by what follows in its line and
by how the line ends; `Tracks` says which state of the one belongs to which of the other, character
by character, and `Meets` from line to line. They part where a line ends within a string of one
quote in a backslash that is itself escaped (`Lexer.Slips`): the scan takes it for one that escapes
the line end. Down to the first such line they agree (`continues_iff_lexed`).
-/

namespace ReplSend

open Scan (isQuote isOpeningBracket isClosingBracket visible)

/-! ## The lexer -/

/-- Where a lexer is between two characters. -/
inductive Lexer.Mode where
  | code
  /-- In code, behind a backslash. -/
  | backslash
  /-- At the start of a line that a backslash joins to the line above. -/
  | joined
  | comment
  /-- Behind one quote: that of a string, or the first of three. -/
  | opening (mark : Char)
  /-- Behind two quotes: a string that is empty, or the first two of three. -/
  | opened (mark : Char)
  | string (mark : Char) (escaped : Bool)
  /-- In a string with three quotes, behind so many quotes that may begin its end. -/
  | triple (mark : Char) (run : Nat) (escaped : Bool)
  deriving DecidableEq, Repr

structure Lexer where
  depth : Nat
  mode : Lexer.Mode
  deriving DecidableEq, Repr

namespace Lexer

def start : Lexer := ⟨0, .code⟩

/-- A character in code. -/
def outside (depth : Nat) (c : Char) : Lexer :=
  if c = '#' then ⟨depth, .comment⟩
  else if isQuote c then ⟨depth, .opening c⟩
  else if isOpeningBracket c then ⟨depth + 1, .code⟩
  else if isClosingBracket c then ⟨depth - 1, .code⟩
  else if c = '\\' then ⟨depth, .backslash⟩
  else ⟨depth, .code⟩

/-- A character in a string with one quote, which ends at a line end. -/
def inside (depth : Nat) (mark c : Char) : Lexer :=
  if c = '\\' then ⟨depth, .string mark true⟩
  else if c = mark ∨ c = '\n' then ⟨depth, .code⟩
  else ⟨depth, .string mark false⟩

/-- Reads a character. -/
def step (l : Lexer) (c : Char) : Lexer :=
  match l.mode with
  | .code | .joined => outside l.depth c
  | .backslash => if c = '\n' then ⟨l.depth, .joined⟩ else outside l.depth c
  | .comment => if c = '\n' then ⟨l.depth, .code⟩ else l
  | .opening mark => if c = mark then ⟨l.depth, .opened mark⟩ else inside l.depth mark c
  | .opened mark => if c = mark then ⟨l.depth, .triple mark 0 false⟩ else outside l.depth c
  | .string mark false => inside l.depth mark c
  | .string mark true => ⟨l.depth, .string mark false⟩
  | .triple mark run false =>
    if c = '\\' then ⟨l.depth, .triple mark 0 true⟩
    else if c = mark then
      if run = 2 then ⟨l.depth, .code⟩ else ⟨l.depth, .triple mark (run + 1) false⟩
    else ⟨l.depth, .triple mark 0 false⟩
  | .triple mark _ true => ⟨l.depth, .triple mark 0 false⟩

/-- Reads a text. -/
def read (l : Lexer) (t : Text) : Lexer := t.foldl step l

/-- In a bracket or a string, or on a line that is joined to the one above. -/
def isOpen (l : Lexer) : Bool :=
  l.depth > 0 || match l.mode with
    | .joined | .opening _ | .string _ _ | .triple _ _ _ => true
    | .code | .backslash | .comment | .opened _ => false

/-- In a string with one quote, not behind a backslash that escapes what follows. -/
def inString (l : Lexer) : Bool :=
  match l.mode with
  | .string _ false => true
  | _ => false

/-- The line that the lexer has read up to its end stops in a string, in a backslash that is itself
escaped. -/
def Slips (l : Lexer) (line : Text) : Prop := l.inString = true ∧ line.getLast? = some '\\'

instance {l : Lexer} {line : Text} : Decidable (l.Slips line) := inferInstanceAs (Decidable (_ ∧ _))

/-- Reads a line and its end. -/
def next (l : Lexer) (line : Text) : Lexer := (l.read line).step '\n'

/-- Reads a line and its end, but takes any backslash before it to escape it. -/
def nextLax (l : Lexer) (line : Text) : Lexer :=
  if (l.read line).Slips line then l.read line else l.next line

/-! ### Single characters -/

section

variable {depth run : Nat} {c mark : Char}

theorem inside_newline : inside depth mark '\n' = ⟨depth, .code⟩ := by
  rw [inside, if_neg (by decide), if_pos (.inr rfl)]

theorem step_string_newline : step ⟨depth, .string mark false⟩ '\n' = ⟨depth, .code⟩ :=
  inside_newline

theorem step_backslash (h : c ≠ '\n') : step ⟨depth, .backslash⟩ c = outside depth c := if_neg h

theorem step_comment (h : c ≠ '\n') : step ⟨depth, .comment⟩ c = ⟨depth, .comment⟩ := if_neg h

theorem step_opening (h : c ≠ mark) : step ⟨depth, .opening mark⟩ c = inside depth mark c :=
  if_neg h

theorem step_opening_mark : step ⟨depth, .opening mark⟩ mark = ⟨depth, .opened mark⟩ := if_pos rfl

theorem step_opened (h : c ≠ mark) : step ⟨depth, .opened mark⟩ c = outside depth c := if_neg h

theorem step_opened_mark : step ⟨depth, .opened mark⟩ mark = ⟨depth, .triple mark 0 false⟩ :=
  if_pos rfl

theorem step_triple_mark (h : mark ≠ '\\') : step ⟨depth, .triple mark run false⟩ mark =
    if run = 2 then ⟨depth, .code⟩ else ⟨depth, .triple mark (run + 1) false⟩ :=
  (if_neg h).trans (if_pos rfl)

theorem step_triple (h : c ≠ mark) (hc : c ≠ '\\') :
    step ⟨depth, .triple mark run false⟩ c = ⟨depth, .triple mark 0 false⟩ :=
  (if_neg hc).trans (if_neg h)

end

end Lexer

/-! ## From character to character -/

namespace Scan

/-- What the scan has open when it is about to read the rest of a line, and where the lexer is
then. The scan has decided by what the rest starts with, the lexer remembers what came before. -/
inductive Tracks (d : Nat) : Scan → Nat → Text → Lexer → Prop
  | code (cs : Text) : Tracks d ⟨d, none, false⟩ 0 cs ⟨d, .code⟩
  | joined (cs : Text) : Tracks d ⟨d, none, false⟩ 0 cs ⟨d, .joined⟩
  | backslash {cs : Text} (h : cs ≠ []) : Tracks d ⟨d, none, false⟩ 0 cs ⟨d, .backslash⟩
  | last : Tracks d ⟨d, none, true⟩ 0 [] ⟨d, .backslash⟩
  | opening {q : Char} {cs : Text} (hq : isQuote q = true) (h : ¬ [q, q] <+: cs) :
      Tracks d ⟨d, some ⟨q, false⟩, false⟩ 0 cs ⟨d, .opening q⟩
  | opened {q : Char} {cs : Text} (hq : isQuote q = true) (h : ¬ [q] <+: cs) :
      Tracks d ⟨d, none, false⟩ 0 cs ⟨d, .opened q⟩
  | string (q : Char) (cs : Text) :
      Tracks d ⟨d, some ⟨q, false⟩, false⟩ 0 cs ⟨d, .string q false⟩
  | escaped (q : Char) (cs : Text) :
      Tracks d ⟨d, some ⟨q, false⟩, false⟩ 1 cs ⟨d, .string q true⟩
  /-- Two more quotes open a string with three. -/
  | openTwo {q : Char} {cs : Text} (hq : isQuote q = true) (h : [q, q] <+: cs) :
      Tracks d ⟨d, some ⟨q, true⟩, false⟩ 2 cs ⟨d, .opening q⟩
  | openOne {q : Char} {cs : Text} (hq : isQuote q = true) (h : [q] <+: cs) :
      Tracks d ⟨d, some ⟨q, true⟩, false⟩ 1 cs ⟨d, .opened q⟩
  | triple {q : Char} (hq : isQuote q = true) (cs : Text) :
      Tracks d ⟨d, some ⟨q, true⟩, false⟩ 0 cs ⟨d, .triple q 0 false⟩
  | one {q : Char} {cs : Text} (hq : isQuote q = true) (h : ¬ [q, q] <+: cs) :
      Tracks d ⟨d, some ⟨q, true⟩, false⟩ 0 cs ⟨d, .triple q 1 false⟩
  | two {q : Char} {cs : Text} (hq : isQuote q = true) (h : ¬ [q] <+: cs) :
      Tracks d ⟨d, some ⟨q, true⟩, false⟩ 0 cs ⟨d, .triple q 2 false⟩
  | tripleEscaped {q : Char} (hq : isQuote q = true) (cs : Text) :
      Tracks d ⟨d, some ⟨q, true⟩, false⟩ 1 cs ⟨d, .triple q 0 true⟩
  /-- Two more quotes close it. -/
  | closeTwo {q : Char} {cs : Text} (hq : isQuote q = true) (h : [q, q] <+: cs) :
      Tracks d ⟨d, none, false⟩ 2 cs ⟨d, .triple q 1 false⟩
  | closeOne {q : Char} {cs : Text} (hq : isQuote q = true) (h : [q] <+: cs) :
      Tracks d ⟨d, none, false⟩ 1 cs ⟨d, .triple q 2 false⟩

/-- The scan will have come to a state at the end of the line of which the lexer has to read the
rest. -/
inductive Follows (l : Lexer) (cs : Text) : Scan → Prop
  | tracks {s : Scan} {n d : Nat} (h : Tracks d s n cs l) : Follows l cs (read s n cs)
  | comment (d : Nat) (h : l = ⟨d, .comment⟩) : Follows l cs ⟨d, none, false⟩

variable {s : Scan} {l : Lexer} {n d : Nat} {c q : Char} {cs line : Text}

theorem follows_outside (d : Nat) (c : Char) (cs : Text) :
    Follows (.outside d c) cs (read ⟨d, none, false⟩ 0 (c :: cs)) := by
  rw [read, Lexer.outside]
  dsimp only
  by_cases hcomment : c = '#'
  · rw [if_pos hcomment, if_pos hcomment]
    exact .comment d rfl
  rw [if_neg hcomment, if_neg hcomment]
  by_cases hquote : isQuote c = true
  · rw [if_pos hquote, if_pos hquote]
    by_cases htwo : [c, c] <+: cs
    · have htriple : (List.replicate 3 c).isPrefixOf (c :: cs) = true := by
        simpa [List.replicate_succ] using htwo
      rw [htriple]
      exact .tracks (.openTwo hquote htwo)
    · have htriple : (List.replicate 3 c).isPrefixOf (c :: cs) = false := by
        simpa [List.replicate_succ, Bool.eq_false_iff] using htwo
      rw [htriple]
      exact .tracks (.opening hquote htwo)
  rw [if_neg hquote, if_neg hquote]
  by_cases hopen : isOpeningBracket c = true
  · rw [if_pos hopen, if_pos hopen]
    exact .tracks (.code cs)
  rw [if_neg hopen, if_neg hopen]
  by_cases hclose : isClosingBracket c = true
  · rw [if_pos hclose, if_pos hclose]
    exact .tracks (.code cs)
  rw [if_neg hclose, if_neg hclose]
  by_cases hbackslash : c = '\\'
  · rw [if_pos hbackslash]
    cases cs with
    | nil =>
      rw [if_pos (by simp [hbackslash])]
      exact .tracks .last
    | cons c' cs =>
      rw [if_neg (by simp)]
      exact .tracks (.backslash (List.cons_ne_nil c' cs))
  · rw [if_neg hbackslash, if_neg (by simp [hbackslash])]
    exact .tracks (.code cs)

theorem closes_single : (Quote.mk q false).closing.isPrefixOf (c :: cs) = true ↔ c = q := by
  rw [List.isPrefixOf_iff_prefix, show (Quote.mk q false).closing = [q] from rfl,
    List.cons_prefix_cons]
  exact ⟨fun h => h.1.symm, fun h => ⟨h.symm, List.nil_prefix⟩⟩

theorem closes_triple :
    (Quote.mk q true).closing.isPrefixOf (c :: cs) = true ↔ c = q ∧ [q, q] <+: cs := by
  rw [List.isPrefixOf_iff_prefix, show (Quote.mk q true).closing = [q, q, q] from rfl,
    List.cons_prefix_cons, eq_comm]

theorem follows_inside (hc : c ≠ '\n') (d : Nat) (q : Char) (cs : Text) :
    Follows (.inside d q c) cs (read ⟨d, some ⟨q, false⟩, false⟩ 0 (c :: cs)) := by
  rw [read, Lexer.inside]
  dsimp only
  by_cases hbackslash : c = '\\'
  · rw [if_pos hbackslash, if_pos hbackslash]
    exact .tracks (.escaped q cs)
  rw [if_neg hbackslash, if_neg hbackslash]
  by_cases hend : c = q
  · rw [if_pos (.inl hend), if_pos (closes_single.2 hend)]
    exact .tracks (.code cs)
  · rw [if_neg (by simp [hend, hc]), if_neg (mt closes_single.1 hend)]
    exact .tracks (.string q cs)

theorem ne_backslash_of_isQuote (h : isQuote q = true) : q ≠ '\\' := by
  rintro rfl
  exact absurd h (by decide)

/-- The next character of a string with three quotes, if those just read do not begin its end. -/
theorem follows_triple {run : Nat} (hq : isQuote q = true) (hrun : run ≤ 2)
    (h : run = 0 ∨ ¬ List.replicate (3 - run) q <+: c :: cs) :
    Follows (Lexer.step ⟨d, .triple q run false⟩ c) cs
      (read ⟨d, some ⟨q, true⟩, false⟩ 0 (c :: cs)) := by
  rw [read]
  dsimp only
  by_cases hbackslash : c = '\\'
  · subst hbackslash
    rw [if_pos rfl]
    exact .tracks (.tripleEscaped hq cs)
  rw [if_neg hbackslash]
  by_cases hcq : c = q
  · subst hcq
    rw [Lexer.step_triple_mark hbackslash]
    obtain rfl | rfl | rfl : run = 0 ∨ run = 1 ∨ run = 2 := by omega
    · by_cases htwo : [c, c] <+: cs
      · rw [if_pos (closes_triple.2 ⟨rfl, htwo⟩)]
        exact .tracks (.closeTwo hq htwo)
      · rw [if_neg fun hclose => htwo (closes_triple.1 hclose).2]
        exact .tracks (.one hq htwo)
    · have hone : ¬ [c] <+: cs := by simpa [List.replicate_succ] using h
      have htwo : ¬ [c, c] <+: cs := fun h => hone (List.IsPrefix.trans ⟨[c], rfl⟩ h)
      rw [if_neg fun hclose => htwo (closes_triple.1 hclose).2]
      exact .tracks (.two hq hone)
    · simp [List.replicate_succ] at h
  · rw [Lexer.step_triple hcq hbackslash, if_neg fun hclose => hcq (closes_triple.1 hclose).1]
    exact .tracks (.triple hq cs)

theorem Tracks.step (h : Tracks d s n (c :: cs) l) (hc : c ≠ '\n') :
    Follows (l.step c) cs (read s n (c :: cs)) := by
  cases h with
  | code => exact follows_outside d c cs
  | joined => exact follows_outside d c cs
  | backslash =>
    rw [Lexer.step_backslash hc]
    exact follows_outside d c cs
  | @opening q _ hq h =>
    by_cases hcq : c = q
    · subst hcq
      have hone : ¬ [c] <+: cs := by simpa using h
      rw [Lexer.step_opening_mark, read]
      dsimp only
      rw [if_neg (ne_backslash_of_isQuote hq), if_pos (closes_single.2 rfl)]
      exact .tracks (.opened hq hone)
    · rw [Lexer.step_opening hcq]
      exact follows_inside hc d q cs
  | @opened q _ _ h =>
    rw [Lexer.step_opened fun hcq => h (by simp [hcq])]
    exact follows_outside d c cs
  | string q => exact follows_inside hc d q cs
  | escaped q => exact .tracks (.string q cs)
  | openTwo hq h =>
    obtain ⟨rfl, hone⟩ := List.cons_prefix_cons.1 h
    rw [Lexer.step_opening_mark]
    exact .tracks (.openOne hq hone)
  | openOne hq h =>
    obtain ⟨rfl, -⟩ := List.cons_prefix_cons.1 h
    rw [Lexer.step_opened_mark]
    exact .tracks (.triple hq cs)
  | triple hq => exact follows_triple hq (by decide) (.inl rfl)
  | one hq h => exact follows_triple hq (by decide) (.inr h)
  | two hq h => exact follows_triple hq (by decide) (.inr h)
  | tripleEscaped hq => exact .tracks (.triple hq cs)
  | closeTwo hq h =>
    obtain ⟨rfl, hone⟩ := List.cons_prefix_cons.1 h
    rw [Lexer.step_triple_mark (ne_backslash_of_isQuote hq), if_neg (by decide)]
    exact .tracks (.closeOne hq hone)
  | closeOne hq h =>
    obtain ⟨rfl, -⟩ := List.cons_prefix_cons.1 h
    rw [Lexer.step_triple_mark (ne_backslash_of_isQuote hq), if_pos rfl]
    exact .tracks (.code cs)

/-- The lexer reads the rest of the line. -/
theorem Follows.read (h : Follows l cs s) (hcs : '\n' ∉ cs) : Follows (l.read cs) [] s := by
  induction cs generalizing l with
  | nil => exact h
  | cons c cs ih =>
    rw [List.mem_cons, not_or] at hcs
    refine ih ?_ hcs.2
    cases h with
    | tracks h => exact h.step (Ne.symm hcs.1)
    | comment d h =>
      refine .comment d ?_
      rw [h, Lexer.step_comment (Ne.symm hcs.1)]

/-! ## From line to line -/

/-- What the scan has open at the start of a line, and where the lexer is then. -/
inductive Meets : Scan → Lexer → Prop
  | code (d : Nat) : Meets ⟨d, none, false⟩ ⟨d, .code⟩
  | joined (d : Nat) : Meets ⟨d, none, true⟩ ⟨d, .joined⟩
  | string (d : Nat) (q : Char) : Meets ⟨d, some ⟨q, false⟩, false⟩ ⟨d, .string q false⟩
  | triple (d : Nat) {q : Char} (hq : isQuote q = true) :
      Meets ⟨d, some ⟨q, true⟩, false⟩ ⟨d, .triple q 0 false⟩

theorem Meets.isOpen_eq (h : Meets s l) : s.isOpen = l.isOpen := by
  cases h <;> simp [Scan.isOpen, Lexer.isOpen]

theorem Meets.follows (h : Meets s l) (cs : Text) :
    Follows l cs (Scan.read { s with joined := false } 0 cs) := by
  cases h with
  | code d => exact .tracks (.code cs)
  | joined d => exact .tracks (.joined cs)
  | string d q => exact .tracks (.string q cs)
  | triple d hq => exact .tracks (.triple hq cs)

theorem mode_of_step_eq_escaped (h : (l.step c).mode = .string q true) : c = '\\' := by
  unfold Lexer.step Lexer.outside Lexer.inside at h
  grind

theorem mode_of_step_eq_opening (h : (l.step c).mode = .opening q) : c = q := by
  unfold Lexer.step Lexer.outside Lexer.inside at h
  grind

/-- The last character that was read, if the lexer was somewhere else before. -/
theorem exists_last {m : Lexer.Mode} (hm : (l.read cs).mode = m) (hl : l.mode ≠ m) :
    ∃ l' c, cs.getLast? = some c ∧ (Lexer.step l' c).mode = m := by
  rcases List.eq_nil_or_concat cs with rfl | ⟨cs, c, rfl⟩
  · exact absurd hm hl
  · refine ⟨l.read cs, c, by simp, ?_⟩
    rw [← hm, Lexer.read, Lexer.read, List.concat_eq_append, List.foldl_append]
    rfl

theorem ne_newline_of_isQuote (h : isQuote q = true) : '\n' ≠ q := by
  rintro rfl
  exact absurd h (by decide)

/-- Where the lexer is not in a string, no string with one quote is left open. -/
theorem nextLax_of_not_inString (h : (l.read line).inString = false) :
    l.nextLax line = l.next line :=
  if_neg fun hslip => by simp [hslip.1] at h

/-- A line leaves open what the lexer that takes any backslash at its end for an escape has open
behind it. -/
theorem Meets.next (h : Meets s l) (hline : '\n' ∉ line) :
    Meets ((Scan.read { s with joined := false } 0 line).closeLine line) (l.nextLax line) := by
  have hfollows := (h.follows line).read hline
  -- no line starts behind a backslash or a first quote, so the line has a last character there
  have hescaped : ∀ q, l.mode ≠ .string q true := fun q hq => by cases h <;> cases hq
  have hopening : ∀ q, l.mode ≠ .opening q := fun q hq => by cases h <;> cases hq
  generalize Scan.read { s with joined := false } 0 line = s' at hfollows ⊢
  generalize hread : l.read line = l' at hfollows
  have hnext : l'.inString = false → l.nextLax line = l'.step '\n' := fun hout => by
    rw [nextLax_of_not_inString (hread ▸ hout), Lexer.next, hread]
  cases hfollows with
  | comment d h' =>
    rw [hnext (by rw [h']; rfl), h']
    exact .code d
  | @tracks s n d htracks =>
    rw [show Scan.read s n [] = s by cases n <;> rfl]
    cases htracks with
    | code | joined =>
      rw [hnext rfl]
      exact .code d
    | backslash hne => exact absurd rfl hne
    | last =>
      rw [hnext rfl]
      exact .joined d
    | @opening q _ hq _ =>
      obtain ⟨m, c, hlast, hc⟩ := exists_last (congrArg Lexer.mode hread) (hopening q)
      have hne : c ≠ '\\' := mode_of_step_eq_opening hc ▸ ne_backslash_of_isQuote hq
      rw [hnext rfl, Lexer.step_opening (ne_newline_of_isQuote hq), Lexer.inside_newline, closeLine,
        hlast]
      dsimp only
      rw [if_neg (by simp [hne])]
      exact .code d
    | opened hq _ =>
      rw [hnext rfl, Lexer.step_opened (ne_newline_of_isQuote hq)]
      exact .code d
    | string q =>
      rw [closeLine]
      dsimp only
      by_cases hlast : line.getLast? = some '\\'
      · rw [if_pos hlast, Lexer.nextLax, hread, if_pos ⟨rfl, hlast⟩]
        exact .string d q
      · rw [if_neg hlast, Lexer.nextLax, hread, if_neg fun hslip => hlast hslip.2, Lexer.next,
          hread, Lexer.step_string_newline]
        exact .code d
    | escaped q =>
      obtain ⟨m, c, hlast, hc⟩ := exists_last (congrArg Lexer.mode hread) (hescaped q)
      rw [hnext rfl, closeLine]
      dsimp only
      rw [hlast, mode_of_step_eq_escaped hc, if_pos rfl]
      exact .string d q
    -- the quotes that these look ahead to would stand behind the end of the line
    | openTwo _ h' | openOne _ h' | closeTwo _ h' | closeOne _ h' => simp at h'
    | triple hq | one hq | two hq =>
      rw [hnext rfl, Lexer.step_triple (ne_newline_of_isQuote hq) (by decide)]
      exact .triple d hq
    | tripleEscaped hq =>
      rw [hnext rfl]
      exact .triple d hq

theorem Meets.after {ls : List Text} (h : Meets s l) (hls : ∀ line ∈ ls, '\n' ∉ line) :
    Meets (s.after ls) ((ls.map visible).foldl Lexer.nextLax l) := by
  induction ls generalizing s l with
  | nil => exact h
  | cons line ls ih =>
    obtain ⟨hline, hls⟩ := List.forall_mem_cons.1 hls
    have hvisible : '\n' ∉ visible line := fun hmem =>
      hline ((Text.dropEndWhile_prefix _ line).subset hmem)
    exact ih (h.next hvisible) hls

end Scan

/-! ## Texts -/

/-- The text without the carriage returns at the ends of its lines. -/
def Text.withoutReturns (t : Text) : Text := unlines (t.lines.map visible)

namespace Lexer

variable {l : Lexer} {t line : Text} {i k : Nat}

/-- A lexer that has read a text up to an offset. -/
def upTo (t : Text) (offset : Nat) : Lexer := start.read (Text.withoutReturns (t.take offset))

/-- The same up to line `i`, for a lexer that takes any backslash at the end of a line in a string
for one that escapes the line end. -/
def laxUpTo (t : Text) (i : Nat) : Lexer := ((t.lines.map visible).take i).foldl nextLax start

/-- Line `k` ends in a string with one quote, in a backslash that is itself escaped. -/
def SlipsAt (t : Text) (k : Nat) : Prop :=
  (upTo t ((Outline.ofText t).lineStop k)).Slips (visible ((Outline.ofText t).row k).text)

instance : Decidable (SlipsAt t k) := inferInstanceAs (Decidable (Slips _ _))

theorem read_append (l : Lexer) (s t : Text) : l.read (s ++ t) = (l.read s).read t :=
  List.foldl_append

theorem read_unlines (l : Lexer) (ls : List Text) (line : Text) :
    l.read (Text.unlines (ls ++ [line])) = (ls.foldl next l).read line := by
  induction ls generalizing l with
  | nil => rfl
  | cons m ls ih =>
    rw [List.cons_append, Text.unlines_cons (by simp), read_append, List.foldl_cons, ← ih]
    rfl

theorem upTo_lineStop (hline : t.lines[i]? = some line) :
    upTo t ((Outline.ofText t).lineStop i) =
      (((t.lines.map visible).take i).foldl next start).read (visible line) := by
  have hlines := Text.lines_take hline (Nat.le_refl _)
  rw [List.take_length] at hlines
  rw [Outline.lineStop_of_line hline, upTo, Text.withoutReturns, hlines, List.map_append,
    List.map_take]
  exact read_unlines _ _ _

theorem upTo_lineStart (hline : t.lines[i]? = some line) :
    upTo t ((Outline.ofText t).lineStart i) = ((t.lines.map visible).take i).foldl next start := by
  have hlines := Text.lines_take hline (Nat.zero_le _)
  rw [Nat.add_zero, List.take_zero] at hlines
  rw [Outline.lineStart_of_line hline, upTo, Text.withoutReturns, hlines, List.map_append,
    List.map_take]
  exact read_unlines _ _ _

theorem foldl_take_succ (f : Lexer → Text → Lexer) (hline : t.lines[i]? = some line) :
    ((t.lines.map visible).take (i + 1)).foldl f start =
      f (((t.lines.map visible).take i).foldl f start) (visible line) := by
  rw [List.take_add_one, List.foldl_append, List.getElem?_map, hline]
  rfl

/-- Where the line above is read, the lexer comes to the next. -/
theorem upTo_succ (hline : t.lines[i + 1]? = some line) :
    upTo t ((Outline.ofText t).lineStart (i + 1)) =
      (upTo t ((Outline.ofText t).lineStop i)).step '\n' := by
  obtain ⟨hi, -⟩ := List.getElem?_eq_some_iff.1 hline
  have habove : t.lines[i]? = some t.lines[i] := List.getElem?_eq_getElem (by omega)
  rw [upTo_lineStart hline, upTo_lineStop habove, foldl_take_succ next habove]
  rfl

theorem exists_string (h : l.inString = true) : ∃ d mark, l = ⟨d, .string mark false⟩ := by
  obtain ⟨d, mode⟩ := l
  unfold inString at h
  split at h
  · rename_i mark hmode
    exact ⟨d, mark, congrArg (Lexer.mk d) hmode⟩
  · cases h

/-- The two lexers agree as long as no line slips. -/
theorem laxUpTo_eq (hline : t.lines[i]? = some line) (h : ∀ k < i, ¬ SlipsAt t k) :
    laxUpTo t i = upTo t ((Outline.ofText t).lineStart i) := by
  rw [upTo_lineStart hline]
  induction i generalizing line with
  | zero => rfl
  | succ i ih =>
    obtain ⟨hi, -⟩ := List.getElem?_eq_some_iff.1 hline
    have habove : t.lines[i]? = some t.lines[i] := List.getElem?_eq_getElem (by omega)
    have hsame := ih habove fun k hk => h k (by omega)
    have hslip := h i (Nat.lt_succ_self i)
    rw [SlipsAt, upTo_lineStop habove, Outline.row_ofText_of_line habove, ← hsame] at hslip
    rw [laxUpTo, foldl_take_succ nextLax habove, foldl_take_succ next habove, ← hsame]
    exact if_neg hslip

/-- Below the first line that slips, one lexer is still in the string, the other is not. -/
theorem upTo_of_slipsAt (hline : t.lines[k + 1]? = some line) (hslip : SlipsAt t k)
    (h : ∀ j < k, ¬ SlipsAt t j) : ∃ d mark, laxUpTo t (k + 1) = ⟨d, .string mark false⟩ ∧
      upTo t ((Outline.ofText t).lineStart (k + 1)) = ⟨d, .code⟩ := by
  obtain ⟨hk, -⟩ := List.getElem?_eq_some_iff.1 hline
  have habove : t.lines[k]? = some t.lines[k] := List.getElem?_eq_getElem (by omega)
  obtain ⟨d, mark, hstop⟩ := exists_string hslip.1
  refine ⟨d, mark, ?_, ?_⟩
  · have hread : (laxUpTo t k).read (visible t.lines[k]) =
        upTo t ((Outline.ofText t).lineStop k) := by
      rw [laxUpTo_eq habove h, upTo_lineStart habove, upTo_lineStop habove]
    rw [SlipsAt, Outline.row_ofText_of_line habove, ← hread] at hslip
    rw [laxUpTo, foldl_take_succ nextLax habove]
    exact (if_pos hslip).trans (hread.trans hstop)
  · rw [upTo_succ hline, hstop, step_string_newline]

end Lexer

namespace Outline

variable {t : Text} {i : Nat}

/-- Which lines continue the line above is what the lexer says that takes any backslash at the end
of a line in a string for one that escapes the line end. -/
theorem continues_eq_lax (hi : i < (ofText t).count) :
    (ofText t).continues i = (Lexer.laxUpTo t i).isOpen := by
  rw [count_ofText] at hi
  have hlines : ∀ line ∈ t.lines.take i, '\n' ∉ line := fun line hline =>
    Text.newline_not_mem_of_mem_lines (List.mem_of_mem_take hline)
  have hmeets := (Scan.Meets.code 0).after hlines
  rw [continues, row_ofText_of_line (List.getElem?_eq_getElem hi), Lexer.laxUpTo, ← List.map_take]
  exact hmeets.isOpen_eq

/-- A line continues the line above exactly if a lexer is in a bracket, in a string or behind a
joining backslash where it starts, down to the first line that ends in a string with one quote, in
a backslash that is itself escaped. The line below that one counts as continued, although the lexer
is out of the string; from there on lines are read as if the line end had been escaped. -/
theorem continues_iff_lexed (hi : i < (ofText t).count) :
    ((ofText t).continues i = true ↔ (Lexer.laxUpTo t i).isOpen = true) ∧
    ((∀ k < i, ¬ Lexer.SlipsAt t k) → ((ofText t).continues i = true ↔
      (Lexer.upTo t ((ofText t).lineStart i)).isOpen = true)) ∧
    ∀ k, i = k + 1 → Lexer.SlipsAt t k → (∀ j < k, ¬ Lexer.SlipsAt t j) →
      (ofText t).continues i = true ∧
        ((Lexer.upTo t ((ofText t).lineStart i)).isOpen = true ↔
          0 < (Lexer.upTo t ((ofText t).lineStart i)).depth) := by
  rw [continues_eq_lax hi]
  rw [count_ofText] at hi
  have hline : t.lines[i]? = some t.lines[i] := List.getElem?_eq_getElem hi
  refine ⟨Iff.rfl, fun h => by rw [Lexer.laxUpTo_eq hline h], ?_⟩
  rintro k rfl hslip h
  obtain ⟨d, mark, hlax, hstart⟩ := Lexer.upTo_of_slipsAt hline hslip h
  rw [hlax, hstart]
  exact ⟨by simp [Lexer.isOpen], by simp [Lexer.isOpen]⟩

/-- A string with three quotes that holds two and ends a line in an escaped backslash, in a bracket
behind a comment, and a string with one quote that goes on below. -/
def quoted : Text := "f(  # '\n  \"\"\"a\"\"\\\\\n'\"\"\", 'b\\\r\n)')\ny"

theorem continues_iff_lexed_quoted : 4 < (ofText quoted).count ∧
    (∀ k < 4, ¬ Lexer.SlipsAt quoted k) ∧ (ofText quoted).continues 3 = true ∧
    (Lexer.upTo quoted ((ofText quoted).lineStart 3)).mode = .string '\'' false ∧
    ¬ (ofText quoted).continues 4 = true := by
  have hslip : ∀ k < 4, ¬ Lexer.SlipsAt quoted k := by decide +kernel
  have h3 : 3 < (ofText quoted).count := by decide +kernel
  have h4 : 4 < (ofText quoted).count := by decide +kernel
  have hopen := (continues_iff_lexed h3).2.1 fun k hk => hslip k (by omega)
  have hclosed := (continues_iff_lexed h4).2.1 hslip
  exact ⟨h4, hslip, hopen.2 (by decide +kernel), by decide +kernel,
    fun h => absurd (hclosed.1 h) (by decide +kernel)⟩

/-- A string that is not closed, with an escaped backslash at the end of its line. -/
def unclosed : Text := "x = 'a\\\\\ny = 1"

/-- The line below counts as continued, although the string ends with its line. -/
theorem not_lexed_unclosed : (ofText unclosed).continues 1 = true ∧
    Lexer.upTo unclosed ((ofText unclosed).lineStart 1) = .start ∧
    Lexer.start.isOpen = false := by
  decide +kernel

end Outline

end ReplSend
