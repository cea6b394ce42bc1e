import Mathlib.Data.List.Induction
import ReplSend.Loader
import ReplSend.Pattern.Parse
import ReplSend.Proofs.Lexing
import ReplSend.Proofs.Text.Cookie

/-!
# The names in the loading command

The path of the file stands as it is between triple quotes, in four or five places of the loading
command. The interpreter ends such a literal at the first three quotes that no backslash escapes
(`span?`) and then reads the escapes in it (`denote?`). So each literal names the path exactly if
there is nothing in the path that either of the two takes otherwise (`Verbatim`), and the literals
of such a path leave the rest of the command code (`command_names`). A path with a backslash before
a letter such as `n` is taken for another.
-/

namespace ReplSend

namespace Loader

open Pattern (control? hexadecimal? isOctal octalValue)

/-! ## How a literal is read -/

/-- What a literal opens and closes with. -/
def mark : Text := "'''"

/-- The body of a literal up to the first marks that no backslash escapes, and what follows. -/
def span? (escaped : Bool) : Text → Option (Text × Text)
  | [] => none
  | c :: t =>
    if !escaped && mark.isPrefixOf (c :: t) then some ([], t.drop 2)
    else (span? (!escaped && c = '\\') t).map fun (body, rest) => (c :: body, rest)

/-- The name in braces at the start of a text. -/
def bracedName? : Text → Option Text
  | '{' :: t =>
    let name := t.takeWhile (· ≠ '}')
    if name.length < t.length then some name else none
  | _ => none

/-- How many hexadecimal digits an escape letter takes. -/
def hexWidth? : Char → Option Nat
  | 'x' => some 2
  | 'u' => some 4
  | 'U' => some 8
  | _ => none

/-- The code point of an escape of one character. -/
def simpleEscape? (c : Char) : Option Nat :=
  if c = '\'' ∨ c = '"' then some c.toNat
  else if c = 'b' then some 8
  else (control? c).map Char.toNat

/-- A backslash before this character begins an escape. -/
def isEscape (c : Char) : Bool :=
  ['\n', '\r', 'N'].contains c || isOctal c || (hexWidth? c).isSome || (simpleEscape? c).isSome

/-- The code point, if any, that the escape with this character and the text behind it stands for,
and how much of the text belongs to it. The code points of characters with names are given. -/
def escape? (named : Text → Option Nat) (c : Char) (t : Text) : Option (Option Nat × Nat) :=
  if c = '\n' then some (none, 0)
  else if c = '\r' then some (none, if t.head? = some '\n' then 1 else 0)
  else if c = 'N' then
    (bracedName? t).bind fun name => (named name).map fun code => (some code, name.length + 2)
  else if isOctal c then
    let more := (t.take 2).takeWhile isOctal
    some (some (octalValue (c :: more)), more.length)
  else match hexWidth? c with
    | some n => (hexadecimal? n t).map fun (code, _) => (some code, n)
    | none => (simpleEscape? c).map fun code => (some code, 0)

/-- The code points of a body, with `n` more characters to skip (the tail of an escape or of a line
end). A backslash that begins no escape stands for itself. -/
def denote? (named : Text → Option Nat) : (skip : Nat) → Text → Option (List Nat)
  | _, [] => some []
  | n + 1, _ :: t => denote? named n t
  | 0, c :: t =>
    if c = '\\' then
      match t.head? with
      | none => none
      | some d =>
        if isEscape d then
          (escape? named d t.tail).bind fun (code, n) =>
            (denote? named (n + 1) t).map (code.toList ++ ·)
        else (denote? named 0 t).map (c.toNat :: ·)
    else if c = '\r' then
      (denote? named (if t.head? = some '\n' then 1 else 0) t).map ('\n'.toNat :: ·)
    else (denote? named 0 t).map (c.toNat :: ·)

/-- The code points of the literal at the start of a text, and what follows it. -/
def read? (named : Text → Option Nat) (t : Text) : Option (List Nat × Text) :=
  (Text.dropOpening? mark t).bind fun t =>
    (span? false t).bind fun (body, rest) => (denote? named 0 body).map fun codes => (codes, rest)

def codes (t : Text) : List Nat := t.map Char.toNat

/-! ## Bodies that denote themselves -/

variable {named : Text → Option Nat} {c d : Char} {t body rest p : Text} {n : Nat} {l : List Nat}

/-- What is read of a body has no more code points than the body has characters. -/
theorem length_le_of_denote? (h : denote? named n t = some l) : l.length ≤ t.length - n := by
  induction t generalizing n l with
  | nil => cases n <;> cases h <;> exact Nat.zero_le _
  | cons c t ih =>
    have hcons {m k : Nat} (h : (denote? named m t).map (k :: ·) = some l) :
        l.length ≤ (c :: t).length := by
      obtain ⟨l', hl', rfl⟩ := Option.map_eq_some_iff.1 h
      have := ih hl'
      simp only [List.length_cons]
      omega
    cases n with
    | succ n =>
      have := ih h
      rw [List.length_cons]
      omega
    | zero =>
      rw [Nat.sub_zero]
      unfold denote? at h
      split at h
      · split at h
        · cases h
        · split at h
          · obtain ⟨⟨code, k⟩, -, h⟩ := Option.bind_eq_some_iff.1 h
            obtain ⟨l', hl', rfl⟩ := Option.map_eq_some_iff.1 h
            have := ih hl'
            cases code <;> simp <;> omega
          · exact hcons h
      · split at h
        · exact hcons h
        · exact hcons h

/-- A character at the start of a body denotes itself unless it is a line end or begins an
escape. -/
theorem denote?_cons_eq_codes : denote? named 0 (c :: t) = some (codes (c :: t)) ↔
    c ≠ '\r' ∧ (c = '\\' → ∃ d ∈ t.head?, isEscape d = false) ∧
      denote? named 0 t = some (codes t) := by
  have hlength : (codes (c :: t)).length = t.length + 1 := List.length_map _
  by_cases hb : c = '\\'
  · subst hb
    rw [denote?, if_pos rfl]
    cases hd : t.head? with
    | none => simp
    | some d =>
      cases he : isEscape d with
      | false => simp [he, codes]
      | true =>
        refine ⟨fun h => absurd h fun h => ?_, by simp [he]⟩
        -- An escape takes at least one character more than it gives code points.
        obtain ⟨⟨code, k⟩, -, h⟩ := Option.bind_eq_some_iff.1 (by simpa [he] using h)
        obtain ⟨l', hl', hsame⟩ := Option.map_eq_some_iff.1 h
        have hle := length_le_of_denote? hl'
        have hsum : (code.toList ++ l').length = t.length + 1 := by rw [← hlength, ← hsame]
        rw [List.length_append] at hsum
        have hcode : code.toList.length ≤ 1 := by cases code <;> simp
        have hpos : 0 < t.length := List.length_pos_of_mem (List.mem_of_mem_head? hd)
        omega
  by_cases hr : c = '\r'
  · subst hr
    rw [denote?, if_neg hb, if_pos rfl]
    simp only [codes, List.map_cons, ne_eq, not_true_eq_false, false_and, iff_false]
    intro h
    obtain ⟨l', -, hsame⟩ := Option.map_eq_some_iff.1 h
    exact absurd (List.cons.inj hsame).1 (by decide)
  · rw [denote?, if_neg hb, if_neg hr]
    simp [hb, hr, codes]

/-- A body that the literal ends behind and that denotes itself. -/
structure Verbatim (t : Text) : Prop where
  marks : ¬ mark <:+: t
  /-- A quote at the end would end the literal with two of the marks behind it. -/
  last : t.getLast? ≠ some '\''
  escapes : ∀ d, ['\\', d] <:+: t → isEscape d = false
  /-- A backslash at the end would escape the mark behind it. -/
  final : t.getLast? ≠ some '\\'
  /-- A carriage return would be read as a line end. -/
  newline : '\r' ∉ t

theorem mark_prefix_cons : mark <+: c :: t ↔ c = '\'' ∧ ['\'', '\''] <+: t := by
  rw [show mark = ['\'', '\'', '\''] from rfl, List.cons_prefix_cons, eq_comm]

theorem verbatim_nil : Verbatim [] :=
  ⟨by decide, by decide, fun d h => (by simpa using h.length_le), by decide, by decide⟩

theorem getLast?_cons_ne : (c :: t).getLast? ≠ some d ↔
    (c = d → t ≠ []) ∧ t.getLast? ≠ some d := by
  rw [List.getLast?_cons]
  cases t with
  | nil => simp
  | cons x t => simp [List.getLast?_cons]

theorem verbatim_cons : Verbatim (c :: t) ↔ c ≠ '\r' ∧
    (c = '\\' → ∃ d ∈ t.head?, isEscape d = false) ∧
    (c = '\'' → t ≠ [] ∧ ¬ ['\'', '\''] <+: t) ∧ Verbatim t := by
  constructor
  · rintro ⟨hmarks, hlast, hescapes, hfinal, hnewline⟩
    rw [List.infix_cons_iff, mark_prefix_cons, not_or] at hmarks
    rw [getLast?_cons_ne] at hlast hfinal
    rw [List.mem_cons, not_or] at hnewline
    refine ⟨Ne.symm hnewline.1, fun hc => ?_, fun hc => ⟨hlast.1 hc, fun hp => hmarks.1 ⟨hc, hp⟩⟩,
      hmarks.2, hlast.2, fun d h => hescapes d (List.infix_cons h), hfinal.2, hnewline.2⟩
    obtain ⟨d, u, rfl⟩ := List.exists_cons_of_ne_nil (hfinal.1 hc)
    exact ⟨d, rfl, hescapes d ⟨[], u, by rw [hc]; rfl⟩⟩
  · rintro ⟨hreturn, hescape, hquote, hmarks, hlast, hescapes, hfinal, hnewline⟩
    refine ⟨?_, getLast?_cons_ne.2 ⟨fun hc => (hquote hc).1, hlast⟩, fun d h => ?_,
      getLast?_cons_ne.2 ⟨fun hc => ?_, hfinal⟩, ?_⟩
    · rw [List.infix_cons_iff, mark_prefix_cons]
      rintro (⟨hc, hp⟩ | h)
      · exact (hquote hc).2 hp
      · exact hmarks h
    · rcases List.infix_cons_iff.1 h with hp | h
      · obtain ⟨hc, u, rfl⟩ := List.cons_prefix_cons.1 hp
        obtain ⟨d', hd', hfalse⟩ := hescape hc.symm
        obtain rfl : d = d' := Option.some.inj hd'
        exact hfalse
      · exact hescapes d h
    · rintro rfl
      obtain ⟨d, hd, -⟩ := hescape hc
      cases hd
    · rw [List.mem_cons, not_or]
      exact ⟨Ne.symm hreturn, hnewline⟩

instance decidableVerbatim : (t : Text) → Decidable (Verbatim t)
  | [] => .isTrue verbatim_nil
  | _ :: t =>
    have := decidableVerbatim t
    -- Only the next character is looked at, not each one that there is.
    have : Decidable (∃ d ∈ t.head?, isEscape d = false) := Option.decidableExistsMem t.head?
    decidable_of_iff _ verbatim_cons.symm

/-! ## Literals that name what stands in them -/

theorem span?_cons_eq_some {escaped : Bool} :
    span? escaped (c :: t) = some (c :: body, rest) ↔
      ¬ (escaped = false ∧ mark <+: c :: t) ∧
        span? (!escaped && c = '\\') t = some (body, rest) := by
  rw [span?, ← List.isPrefixOf_iff_prefix]
  cases escaped with
  | true => cases span? false t <;> simp
  | false =>
    cases hp : mark.isPrefixOf (c :: t) with
    | true => simp
    | false => cases span? (c = '\\') t <;> simp

/-- Two quotes at the start of a text that goes on with others are in the text, unless it is empty
or ends in a quote. -/
theorem quotes_prefix_of_append (hne : p ≠ []) (hlast : p.getLast? ≠ some '\'')
    (h : ['\'', '\''] <+: p ++ t) : ['\'', '\''] <+: p := by
  obtain ⟨x, q, rfl⟩ := List.exists_cons_of_ne_nil hne
  obtain ⟨hx, h⟩ := List.cons_prefix_cons.1 h
  cases q with
  | nil => exact absurd (hx ▸ rfl) hlast
  | cons y q =>
    obtain ⟨hy, -⟩ := List.cons_prefix_cons.1 h
    rw [← hx, ← hy]
    exact List.prefix_append _ q

/-- A literal is read as what stands in it exactly if its body is verbatim. With `escaped` the body
is read from behind a backslash on. -/
theorem span?_denote?_iff {escaped : Bool}
    (h : escaped = true → ∃ d ∈ p.head?, isEscape d = false) :
    (span? escaped (p ++ (mark ++ rest)) = some (p, rest) ∧
      denote? named 0 p = some (codes p)) ↔ Verbatim p := by
  induction p generalizing escaped with
  | nil =>
    cases escaped with
    | true =>
      obtain ⟨d, hd, -⟩ := h rfl
      cases hd
    | false => exact iff_of_true ⟨rfl, rfl⟩ verbatim_nil
  | cons c p ih =>
    have hc : escaped = true → c ≠ '\'' := by
      rintro he rfl
      obtain ⟨d, hd, hfalse⟩ := h he
      obtain rfl : '\'' = d := Option.some.inj hd
      revert hfalse
      decide
    have hmarks (hp : Verbatim p) : ¬ (escaped = false ∧ mark <+: c :: (p ++ (mark ++ rest))) ↔
        (c = '\'' → p ≠ [] ∧ ¬ ['\'', '\''] <+: p) := by
      rw [mark_prefix_cons]
      constructor
      · rintro hnot rfl
        have he : escaped = false := by cases escaped with
          | false => rfl
          | true => exact absurd rfl (hc rfl)
        refine ⟨?_, fun hq => hnot ⟨he, rfl, hq.trans (List.prefix_append _ _)⟩⟩
        rintro rfl
        exact hnot ⟨he, rfl, ['\''] ++ rest, rfl⟩
      · rintro hq ⟨-, rfl, hprefix⟩
        exact (hq rfl).2 (quotes_prefix_of_append (hq rfl).1 hp.last hprefix)
    have hbackslash : (!escaped && decide (c = '\\')) = true → c = '\\' := fun he =>
      of_decide_eq_true (Bool.and_eq_true_iff.1 he).2
    rw [List.cons_append, span?_cons_eq_some, denote?_cons_eq_codes, verbatim_cons]
    constructor
    · rintro ⟨⟨hnot, hspan⟩, hreturn, hescape, hdenote⟩
      have hp := (ih fun he => hescape (hbackslash he)).1 ⟨hspan, hdenote⟩
      exact ⟨hreturn, hescape, (hmarks hp).1 hnot, hp⟩
    · rintro ⟨hreturn, hescape, hquote, hp⟩
      obtain ⟨hspan, hdenote⟩ := (ih fun he => hescape (hbackslash he)).2 hp
      exact ⟨⟨(hmarks hp).2 hquote, hspan⟩, hreturn, hescape, hdenote⟩

/-- What a body is read up to. -/
theorem append_of_span? {escaped : Bool} (h : span? escaped t = some (body, rest)) :
    t = body ++ (mark ++ rest) := by
  induction t generalizing escaped body with
  | nil => cases h
  | cons c t ih =>
    rw [span?] at h
    split at h
    · rename_i hp
      obtain ⟨u, hu⟩ := List.isPrefixOf_iff_prefix.1 (Bool.and_eq_true_iff.1 hp).2
      cases hu
      cases h
      rfl
    · obtain ⟨⟨body', rest'⟩, hspan, hsame⟩ := Option.map_eq_some_iff.1 h
      cases hsame
      rw [ih hspan]
      rfl

/-- The literal is read as the text that was put in exactly if that text is verbatim. -/
theorem read?_literal : read? named (literal p ++ rest) = some (codes p, rest) ↔ Verbatim p := by
  have hopen : Text.dropOpening? mark (literal p ++ rest) = some (p ++ (mark ++ rest)) := by
    rw [Cookie.dropOpening?_eq_some, literal, List.append_assoc, List.append_assoc]
    rfl
  have hbody : (span? false (p ++ (mark ++ rest)) = some (p, rest) ∧
      denote? named 0 p = some (codes p)) ↔ Verbatim p := span?_denote?_iff nofun
  rw [← hbody, read?, hopen, Option.bind_some]
  constructor
  · intro h
    obtain ⟨⟨body, rest'⟩, hspan, h⟩ := Option.bind_eq_some_iff.1 h
    obtain ⟨l, hl, h⟩ := Option.map_eq_some_iff.1 h
    cases h
    obtain rfl := List.append_cancel_right (append_of_span? hspan)
    exact ⟨hspan, hl⟩
  · rintro ⟨hspan, hdenote⟩
    simp [hspan, hdenote]

/-! ## Nothing in a literal is code -/

theorem read_mark (depth : Nat) :
    Lexer.read ⟨depth, .code⟩ mark = ⟨depth, .triple '\'' 0 false⟩ := rfl

/-- The lexer is in the string behind any part of a verbatim body: it counts the quotes at the end
of the part and knows of a backslash there. -/
theorem read_prefix (hp : Verbatim p) {q : Text} (hq : q <+: p) (depth : Nat) :
    ∃ run escaped, Lexer.read ⟨depth, .triple '\'' 0 false⟩ q =
        ⟨depth, .triple '\'' run escaped⟩ ∧
      List.replicate run '\'' <:+ q ∧ (escaped = true → ['\\'] <:+ q) := by
  induction q using List.reverseRecOn with
  | nil => exact ⟨0, false, rfl, List.nil_suffix, nofun⟩
  | append_singleton q c ih =>
    obtain ⟨run, escaped, hread, hrun, -⟩ := ih ((List.prefix_append q [c]).trans hq)
    have hmarks : ¬ mark <:+: q ++ [c] := fun h => hp.marks (h.trans hq.isInfix)
    rw [Lexer.read_append, hread]
    by_cases hescaped : escaped = true
    · subst hescaped
      exact ⟨0, false, rfl, List.nil_suffix, nofun⟩
    obtain rfl := Bool.eq_false_iff.2 hescaped
    by_cases hb : c = '\\'
    · subst hb
      exact ⟨0, true, rfl, List.nil_suffix, fun _ => List.suffix_append q _⟩
    by_cases hc : c = '\''
    · subst hc
      have hstep : Lexer.read ⟨depth, .triple '\'' run false⟩ ['\''] = _ :=
        Lexer.step_triple_mark hb
      have hsuffix : List.replicate (run + 1) '\'' <:+ q ++ ['\''] := by
        rw [List.replicate_succ', List.suffix_append_inj_of_length_eq rfl]
        exact ⟨hrun, rfl⟩
      rw [hstep]
      by_cases htwo : run = 2
      · subst htwo
        exact absurd hsuffix.isInfix hmarks
      · rw [if_neg htwo]
        exact ⟨run + 1, false, rfl, hsuffix, nofun⟩
    · exact ⟨0, false, Lexer.step_triple hc hb, List.nil_suffix, nofun⟩

/-- Behind the literal of a verbatim text the lexer is where it was before it. -/
theorem read_literal (hp : Verbatim p) (depth : Nat) :
    Lexer.read ⟨depth, .code⟩ (literal p) = ⟨depth, .code⟩ := by
  obtain ⟨run, escaped, hread, hrun, hescaped⟩ := read_prefix hp (List.prefix_refl p) depth
  obtain rfl : run = 0 := by
    obtain ⟨u, hu⟩ := hrun
    cases run with
    | zero => rfl
    | succ run => exact absurd (by simp [← hu, List.replicate_succ']) hp.last
  obtain rfl : escaped = false := by
    cases escaped with
    | false => rfl
    | true =>
      obtain ⟨u, hu⟩ := hescaped rfl
      exact absurd (by simp [← hu]) hp.final
  rw [show literal p = mark ++ p ++ mark from rfl, Lexer.read_append, Lexer.read_append, read_mark,
    hread]
  rfl

/-! ## The command, part by part -/

/-- A part of the loading command. -/
inductive Part where
  | fixed (t : Text)
  | path
  | encoding
  deriving DecidableEq

def Part.text (p : Part) (path encoding : Text) : Text :=
  match p with
  | fixed t => t
  | .path => literal path
  | .encoding => literal encoding

section

variable (path encoding t : Text)

@[simp] theorem Part.text_fixed : (Part.fixed t).text path encoding = t := rfl

@[simp] theorem Part.text_path : Part.path.text path encoding = literal path := rfl

@[simp] theorem Part.text_encoding : Part.encoding.text path encoding = literal encoding := rfl

end

/-- Parts with a path and an encoding put in. -/
def spelled (path encoding : Text) (parts : List Part) : Text :=
  parts.flatMap (·.text path encoding)

/-- The statements that read the file. -/
def reading : List Part :=
  [.fixed "import sys, codecs, os, ast;", .fixed "__pyfile = codecs.open(", .path,
    .fixed ", encoding=", .encoding, .fixed ");", .fixed "__code = __pyfile.read().encode(",
    .encoding, .fixed ");", .fixed "__pyfile.close();"]

def removing : List Part := [.fixed "os.remove(", .path, .fixed ");"]

def parsing : List Part := [.fixed "__block = ast.parse(__code, ", .path, .fixed ", mode='exec');"]

/-- The statements that run the file, and evaluate a last bare expression. -/
def running : List Part :=
  [.fixed "__last = __block.body[-1] if len(__block.body) > 0 else None;",
    .fixed "__isexpr = isinstance(__last, ast.Expr);",
    .fixed "_ = __block.body.pop() if __isexpr else None;", .fixed "exec(compile(__block, ", .path,
    .fixed ", mode='exec'));", .fixed "eval(compile(ast.Expression(__last.value), ", .path,
    .fixed ", mode='eval')) if __isexpr else None"]

def parts (keepMain delete : Bool) : List Part :=
  reading ++ (if delete then removing else []) ++ parsing ++
    (if keepMain then [] else [.fixed mainFilter]) ++ running

theorem path_mem_parts (keepMain delete : Bool) : .path ∈ parts keepMain delete := by
  simp [parts, reading]

theorem command_eq (path encoding : Text) (keepMain delete : Bool) :
    command path encoding keepMain delete = spelled path encoding (parts keepMain delete) := by
  unfold command spelled parts reading removing parsing running
  cases keepMain <;> cases delete <;>
    simp only [Part.text_fixed, Part.text_path, Part.text_encoding, List.flatMap_append,
      List.flatMap_cons, List.flatMap_nil, List.append_assoc, List.append_nil, if_true,
      Bool.false_eq_true, if_false]

/-- Reads parts without the literals, if the lexer is in code where they stand. -/
def readFixed? (l : Lexer) : List Part → Option Lexer
  | [] => some l
  | .fixed t :: ps => readFixed? (l.read t) ps
  | .path :: ps | .encoding :: ps => if l.mode = .code then readFixed? l ps else none

theorem readFixed?_append (l : Lexer) (ps qs : List Part) :
    readFixed? l (ps ++ qs) = (readFixed? l ps).bind (readFixed? · qs) := by
  induction ps generalizing l with
  | nil => rfl
  | cons part ps ih =>
    cases part with
    | fixed t => exact ih _
    | path =>
      simp only [List.cons_append, readFixed?, ih]
      split <;> rfl
    | encoding =>
      simp only [List.cons_append, readFixed?, ih]
      split <;> rfl

/-- Statement by statement, the command without its literals leaves nothing open. -/
theorem readFixed?_parts (keepMain delete : Bool) :
    readFixed? .start (parts keepMain delete) = some .start := by
  have hreading : readFixed? .start reading = some .start := by cbv
  have hremoving : readFixed? .start removing = some .start := by cbv
  have hparsing : readFixed? .start parsing = some .start := by cbv
  have hfilter : Lexer.start.read mainFilter = .start := by cbv
  have hrunning : readFixed? .start running = some .start := by cbv
  unfold parts
  cases keepMain <;> cases delete <;>
    simp only [readFixed?_append, hreading, hremoving, hparsing, hfilter, hrunning, readFixed?,
      Option.bind_some, if_true, Bool.false_eq_true, if_false]

/-- Literals of verbatim texts do not move the lexer: it is in code where each of them starts. -/
theorem mode_of_readFixed? {l l' : Lexer} {path encoding : Text} {above below : List Part}
    (h : readFixed? l (above ++ .path :: below) = some l') (hpath : Verbatim path)
    (hencoding : Verbatim encoding) : (l.read (spelled path encoding above)).mode = .code := by
  have hsame {l : Lexer} (hl : l.mode = .code) {t : Text} (ht : Verbatim t) :
      l.read (literal t) = l := by
    obtain ⟨depth, mode⟩ := l
    obtain rfl : mode = .code := hl
    exact read_literal ht depth
  induction above generalizing l with
  | nil => exact (Option.ite_none_right_eq_some.1 h).1
  | cons part above ih =>
    rw [spelled, List.flatMap_cons, Lexer.read_append, ← spelled]
    cases part with
    | fixed t => exact ih h
    | path =>
      obtain ⟨hmode, h⟩ := Option.ite_none_right_eq_some.1 h
      rw [Part.text_path, hsame hmode hpath]
      exact ih h
    | encoding =>
      obtain ⟨hmode, h⟩ := Option.ite_none_right_eq_some.1 h
      rw [Part.text_encoding, hsame hmode hencoding]
      exact ih h

/-- Each of the literals with the path names it exactly if the path is verbatim. If the encoding is
so too, each of them starts in code, the path is in the string from end to end, and behind the
literal the lexer is where it was before. -/
theorem command_names (named : Text → Option Nat) (path encoding : Text) (keepMain delete : Bool) :
    command path encoding keepMain delete = spelled path encoding (parts keepMain delete) ∧
    (parts keepMain delete).count .path = (if delete then 5 else 4) ∧
    ∀ above below, parts keepMain delete = above ++ .path :: below →
      (read? named (spelled path encoding (.path :: below)) =
        some (codes path, spelled path encoding below) ↔ Verbatim path) ∧
      (Verbatim path → Verbatim encoding →
        let l := Lexer.start.read (spelled path encoding above)
        l.mode = .code ∧ l.read (literal path) = l ∧
        ∀ q, q <+: path → ∃ run escaped, (l.read (mark ++ q)).mode = .triple '\'' run escaped) := by
  refine ⟨command_eq .., ?_, fun above below hparts => ⟨read?_literal, fun hpath hencoding => ?_⟩⟩
  · cases keepMain <;> cases delete <;> decide +kernel
  · intro l
    have hmode : l.mode = .code :=
      mode_of_readFixed? (hparts ▸ readFixed?_parts keepMain delete) hpath hencoding
    obtain ⟨depth, mode⟩ := l
    obtain rfl : mode = .code := hmode
    refine ⟨rfl, read_literal hpath depth, fun q hq => ?_⟩
    obtain ⟨run, escaped, hread, -⟩ := read_prefix hpath hq depth
    refine ⟨run, escaped, ?_⟩
    rw [Lexer.read_append, read_mark, hread]

/-- A quote that is not at the end, and a backslash that escapes nothing. -/
theorem command_names_quote :
    Verbatim "/tmp/it's \\d.py" ∧ ∃ below,
      read? (fun _ => none) (spelled "/tmp/it's \\d.py" "utf-8" (.path :: below)) =
        some (codes "/tmp/it's \\d.py", spelled "/tmp/it's \\d.py" "utf-8" below) := by
  have hpath : Verbatim "/tmp/it's \\d.py" := by decide +kernel
  obtain ⟨above, below, hparts⟩ := List.append_of_mem (path_mem_parts true false)
  have hnames := (command_names (fun _ => none) "/tmp/it's \\d.py" "utf-8" true false).2.2
    above below hparts
  exact ⟨hpath, below, hnames.1.2 hpath⟩

/-- A path with a backslash before a letter is read as another, with a line end in it. -/
theorem not_command_names : ∃ (path encoding : Text) (above below : List Part),
    '\n' ∉ path ∧ '\r' ∉ path ∧ '\n' ∉ encoding ∧
    parts false false = above ++ .path :: below ∧
    read? (fun _ => none) (spelled path encoding (.path :: below)) =
      some (codes "/tmp/a\new.py", spelled path encoding below) ∧
    codes "/tmp/a\new.py" ≠ codes path := by
  have hread (rest : Text) : read? (fun _ => none) (literal "/tmp/a\\new.py" ++ rest) =
      some (codes "/tmp/a\new.py", rest) := by
    rfl
  obtain ⟨above, below, hparts⟩ := List.append_of_mem (path_mem_parts false false)
  exact ⟨"/tmp/a\\new.py", "utf-8", above, below, by decide +kernel, by decide +kernel,
    by decide +kernel, hparts, hread _, by decide +kernel⟩

/-- Three quotes in a path end the literal: what stands behind them is code. -/
example : (Lexer.start.read (spelled "a'''+f()+'''" "utf-8" ((parts true false).take 2) ++
    (mark ++ "a'''"))).mode = .code := by decide +kernel

end Loader

end ReplSend
