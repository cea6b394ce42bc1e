import Mathlib.Logic.Function.Iterate
import ReplSend.Loader
import ReplSend.Proofs.Text.Cookie
import ReplSend.Proofs.Text.Lines

/-!
# What sending adds is removed

`strip` repeats rounds of removals until one changes nothing. The removals at the top of a text
exclude each other, and emptying lines further down does not get in their way, so a removal made
beforehand leads to the same end (`neutral`). Hence nothing that sending adds is left: a cookie, a
guard and a loading command make no difference to what `strip` gives (`strip_sending`).
-/

namespace ReplSend

namespace Text

theorem unlines_append_cons (a l : Text) (ls : List Text) :
    unlines ((a ++ l) :: ls) = a ++ unlines (l :: ls) := by
  cases ls with
  | nil => rfl
  | cons m ms => exact List.append_assoc ..

theorem mem_ofList {c : Char} {l : List Char} : c ∈ (String.ofList l).toList ↔ c ∈ l := by
  rw [String.toList_ofList]

end Text

namespace Loader

open Text (lines unlines)

variable {t r path encoding : Text} {keepMain delete : Bool}

/-! ## Lines that are emptied -/

theorem lines_emptyLines (p : Text → Bool) (t : Text) :
    lines (emptyLines p t) = (lines t).map fun l => if p l then [] else l := by
  refine Text.lines_unlines (by simpa using Text.lines_ne_nil t) fun l hl => ?_
  obtain ⟨m, hm, rfl⟩ := List.mem_map.1 hl
  split
  · exact List.not_mem_nil
  · exact Text.newline_not_mem_of_mem_lines hm

theorem emptyLines_append_newline (p : Text → Bool) (a b : Text) :
    emptyLines p (a ++ '\n' :: b) = emptyLines p a ++ '\n' :: emptyLines p b := by
  unfold emptyLines
  rw [Text.lines_append_newline, List.map_append, Text.unlines_append]
  · simpa using Text.lines_ne_nil a
  · simpa using Text.lines_ne_nil b

/-- The line is a loading command, or the last part of one. -/
def isLoading (line : Text) : Bool := isCommand line || isExec line

/-- The text with its loading commands emptied. -/
def cleared (t : Text) : Text := emptyLines isLoading t

theorem emptyLines_emptyLines (t : Text) :
    emptyLines isExec (emptyLines isCommand t) = cleared t := by
  rw [emptyLines, lines_emptyLines, List.map_map, cleared, emptyLines]
  congr 1
  refine List.map_congr_left fun l _ => ?_
  have hnil : isExec [] = false := by decide
  cases hc : isCommand l <;> simp [isLoading, hc, hnil]

theorem cleared_cleared (t : Text) : cleared (cleared t) = cleared t := by
  rw [cleared, emptyLines, cleared, lines_emptyLines, List.map_map, emptyLines]
  congr 1
  refine List.map_congr_left fun l _ => ?_
  have hnil : isLoading [] = false := by decide
  cases hl : isLoading l <;> simp [hl, hnil]

theorem length_cleared_le (t : Text) : (cleared t).length ≤ t.length := by
  rcases shrinks_emptyLines isLoading t with h | h
  · exact Nat.le_of_eq (congrArg List.length h)
  · exact Nat.le_of_lt h

theorem cleared_line (ht : '\n' ∉ t) : cleared t = if isLoading t then [] else t := by
  rw [cleared, emptyLines, Text.lines_of_newline_not_mem ht]
  rfl

/-- A text that starts with another character does not open that way. -/
theorem isPrefixOf_cons_of_ne {p : Text} {x c : Char} (hp : p.head? = some x) (hc : c ≠ x)
    (t : Text) : p.isPrefixOf (c :: t) = false := by
  obtain ⟨p, rfl⟩ := List.head?_eq_some_iff.1 hp
  simp [List.isPrefixOf, hc.symm]

theorem dropOpening?_cons_of_ne {p : Text} {x c : Char} (hp : p.head? = some x) (hc : c ≠ x)
    (t : Text) : Text.dropOpening? p (c :: t) = none := by
  rw [Text.dropOpening?, isPrefixOf_cons_of_ne hp hc]
  rfl

theorem isLoading_cons {c : Char} (hi : c ≠ 'i') (he : c ≠ 'e') (t : Text) :
    isLoading (c :: t) = false := by
  rw [isLoading, isCommand, dropOpening?_cons_of_ne (x := 'i') (by decide) hi, isExec,
    isPrefixOf_cons_of_ne (x := 'e') (by decide) he]
  rfl

/-- The lines below an opening that is no loading command are cleared by themselves. -/
theorem exists_cleared_append {a : Text} (ha : '\n' ∉ a) (hl : ∀ l, isLoading (a ++ l) = false)
    (r : Text) : ∃ r', cleared (a ++ r) = a ++ r' ∧ cleared r' = cleared r := by
  obtain ⟨l, ls, hr⟩ := List.exists_cons_of_ne_nil (Text.lines_ne_nil r)
  have hline : ∀ m ∈ lines r, '\n' ∉ m := fun m hm => Text.newline_not_mem_of_mem_lines hm
  rw [hr, List.forall_mem_cons] at hline
  have hfirst : '\n' ∉ l := hline.1
  refine ⟨unlines (l :: ls.map fun m => if isLoading m then [] else m), ?_, ?_⟩
  · rw [cleared, emptyLines, Cookie.lines_append ha hr, List.map_cons, hl,
      ← Text.unlines_append_cons]
    rfl
  · have hnil : isLoading [] = false := by decide
    rw [cleared, emptyLines, Text.lines_unlines (List.cons_ne_nil _ _), cleared, emptyLines, hr,
      List.map_cons, List.map_cons, List.map_map]
    · congr 2
      refine List.map_congr_left fun m _ => ?_
      cases hm : isLoading m <;> simp [hm, hnil]
    · refine List.forall_mem_cons.2 ⟨hfirst, fun m hm => ?_⟩
      obtain ⟨k, hk, rfl⟩ := List.mem_map.1 hm
      split
      · exact List.not_mem_nil
      · exact hline.2 k hk

/-! ## What stands at the top -/

theorem dropOptional_append (p t : Text) : dropOptional p (p ++ t) = t := by
  rw [dropOptional, Cookie.dropOpening?_eq_some.2 rfl]
  rfl

theorem dropOptional_eq (p t : Text) : dropOptional p t = t ∨ t = p ++ dropOptional p t := by
  unfold dropOptional
  cases h : Text.dropOpening? p t with
  | none => exact .inl rfl
  | some r => exact .inr (Cookie.dropOpening?_eq_some.1 h)

/-- A name that a cookie can hold. -/
structure IsEncodingName (name : Text) : Prop where
  ne_nil : name ≠ []
  chars : ∀ c ∈ name, isEncodingChar c = true

/-- A cookie without the line end after it. -/
def bareCookie (name : Text) : Text := Cookie.opening ++ (name ++ Cookie.closing)

theorem withCookie_eq (t name : Text) :
    Fragment.withCookie t name = bareCookie name ++ '\n' :: t := by
  have hend : (" -*-\n" : Text) = Cookie.closing ++ ['\n'] := by decide
  have hopen : Fragment.withCookie t name = Cookie.opening ++ name ++ " -*-\n" ++ t := rfl
  rw [hopen, hend, bareCookie]
  simp only [List.append_assoc, List.singleton_append]

theorem dropCookie_append {name : Text} (h : IsEncodingName name) (t : Text) :
    dropCookie (bareCookie name ++ t) = dropOptional ['\n'] t := by
  obtain ⟨closing, hclose⟩ : ∃ closing, Cookie.closing = ' ' :: closing := ⟨_, rfl⟩
  have hspace : ¬ isEncodingChar ' ' = true := by decide
  have htake : (name ++ (Cookie.closing ++ t)).takeWhile isEncodingChar = name := by
    rw [List.takeWhile_append_of_pos h.chars, hclose, List.cons_append,
      List.takeWhile_cons_of_neg hspace, List.append_nil]
  have hdrop : (name ++ (Cookie.closing ++ t)).dropWhile isEncodingChar = Cookie.closing ++ t := by
    rw [List.dropWhile_append_of_pos h.chars, hclose, List.cons_append,
      List.dropWhile_cons_of_neg hspace]
  have hname : name.isEmpty = false := by simpa using h.ne_nil
  show dropNamed Cookie.opening Cookie.closing _ = _
  rw [bareCookie, List.append_assoc, List.append_assoc, dropNamed,
    Cookie.dropOpening?_eq_some.2 rfl]
  dsimp only
  rw [htake, hdrop, hname, Cookie.dropOpening?_eq_some.2 rfl]
  rfl

theorem dropCookie_eq (t : Text) :
    dropCookie t = t ∨ ∃ name r, IsEncodingName name ∧ t = bareCookie name ++ r := by
  change dropNamed Cookie.opening Cookie.closing t = t ∨ _
  unfold dropNamed
  split
  · exact .inl rfl
  rename_i rest hrest
  split
  · exact .inl rfl
  rename_i hname
  split
  · exact .inl rfl
  rename_i r hr
  refine .inr ⟨rest.takeWhile isEncodingChar, r, ⟨by simpa using hname, fun c hc => ?_⟩, ?_⟩
  · exact List.all_eq_true.1 List.all_takeWhile c hc
  · rw [bareCookie, List.append_assoc, List.append_assoc, ← Cookie.dropOpening?_eq_some.1 hr,
      List.takeWhile_append_dropWhile, Cookie.dropOpening?_eq_some.1 hrest]

theorem dropCookie_cons {c : Char} (hc : c ≠ '#') (t : Text) : dropCookie (c :: t) = c :: t := by
  rw [dropCookie, dropNamed, dropOpening?_cons_of_ne (x := '#') (by decide) hc]

theorem dropGuard_cons {c : Char} (hc : c ≠ 'i') (t : Text) : dropGuard (c :: t) = c :: t := by
  rw [dropGuard, dropOptional, dropOpening?_cons_of_ne (x := 'i') (by decide) hc]
  rfl

theorem dropBlankLines_append {b : Text} (hb : ∀ c ∈ b, Text.isTabOrSpace c = true) (t : Text) :
    dropBlankLines (b ++ '\n' :: t) = dropBlankLines t := by
  have hnewline : Text.isTabOrSpace '\n' = false := by decide
  have hdrop : (b ++ '\n' :: t).dropWhile Text.isTabOrSpace = '\n' :: t := by
    rw [List.dropWhile_append_of_pos hb, List.dropWhile_cons_of_neg (by simp [hnewline])]
  rw [dropBlankLines]
  split
  · rename_i rest hrest
    obtain rfl := (List.cons.inj (hdrop.symm.trans hrest)).2
    rfl
  · rename_i hno
    exact absurd hdrop (hno t)

theorem dropBlankLines_eq (t : Text) : dropBlankLines t = t ∨
    ∃ b r, (∀ c ∈ b, Text.isTabOrSpace c = true) ∧ t = b ++ '\n' :: r := by
  rw [dropBlankLines]
  split
  · rename_i rest hrest
    refine .inr ⟨t.takeWhile Text.isTabOrSpace, rest, fun c hc => ?_, ?_⟩
    · exact List.all_eq_true.1 List.all_takeWhile c hc
    · rw [← hrest, List.takeWhile_append_dropWhile]
  · exact .inl rfl

/-! ## One round, and all rounds -/

theorem stripOnce_eq (t : Text) :
    stripOnce t = dropBlankLines (dropGuard (dropCookie (cleared t))) := by
  rw [stripOnce, emptyLines_emptyLines]

theorem strip_stripOnce (t : Text) : strip (stripOnce t) = strip t := by
  by_cases h : stripOnce t = t
  · rw [h]
  · rw [strip.eq_def t, dif_neg h]

theorem stripOnce_strip (t : Text) : stripOnce (strip t) = strip t := by
  fun_induction strip t with
  | case1 t h => exact h
  | case2 t h ih => exact ih

theorem strip_of_stripOnce (h : stripOnce t = t) : strip t = t := by
  rw [strip, dif_pos h]

theorem strip_cleared (t : Text) : strip (cleared t) = strip t := by
  rw [← strip_stripOnce, stripOnce_eq, cleared_cleared, ← stripOnce_eq, strip_stripOnce]

/-- The rounds end with the first that changes nothing, after no more than there are characters. -/
theorem exists_rounds (t : Text) : ∃ k ≤ t.length,
    (∀ j < k, stripOnce^[j + 1] t ≠ stripOnce^[j] t) ∧
      stripOnce^[k + 1] t = stripOnce^[k] t ∧ strip t = stripOnce^[k] t := by
  fun_induction strip t with
  | case1 t h => exact ⟨0, Nat.zero_le _, fun j hj => absurd hj (Nat.not_lt_zero j), h, rfl⟩
  | case2 t h ih =>
    obtain ⟨k, hk, hbefore, hlast, hstrip⟩ := ih
    have hless := (shrinks_stripOnce t).resolve_left h
    refine ⟨k + 1, by omega, fun j hj => ?_, hlast, hstrip⟩
    cases j with
    | zero => exact h
    | succ j => exact hbefore j (by omega)

/-! ## Removals made beforehand -/

/-- A removal at the top of the text, made beforehand, makes no difference. -/
structure Neutral (t : Text) : Prop where
  cookie : strip (dropCookie t) = strip t
  guard : strip (dropGuard t) = strip t
  blank : strip (dropBlankLines t) = strip t

section Shorter

variable (ih : ∀ u : Text, u.length < t.length → Neutral u)

include ih

theorem strip_dropGuard_of_shorter : strip (dropGuard t) = strip t := by
  rcases dropOptional_eq Fragment.guardLine t with h | h
  · exact congrArg strip h
  change t = _ ++ dropGuard t at h
  generalize dropGuard t = r at h ⊢
  subst h
  have hcleared : cleared (Fragment.guardLine ++ r) = Fragment.guardLine ++ cleared r := by
    have hline : emptyLines isLoading "if True:" = ("if True:" : Text) := by decide
    have happend := emptyLines_append_newline isLoading "if True:" r
    rwa [hline] at happend
  have hless : (cleared r).length < (Fragment.guardLine ++ r).length := by
    have := length_cleared_le r
    have hpos : 0 < Fragment.guardLine.length := by decide
    rw [List.length_append]
    omega
  have hcookie : dropCookie (Fragment.guardLine ++ cleared r) = Fragment.guardLine ++ cleared r :=
    dropCookie_cons (by decide) _
  calc strip r = strip (cleared r) := (strip_cleared r).symm
    _ = strip (dropBlankLines (cleared r)) := (ih _ hless).blank.symm
    _ = strip (stripOnce (Fragment.guardLine ++ r)) := by
      rw [stripOnce_eq, hcleared, hcookie, dropGuard, dropOptional_append]
    _ = strip (Fragment.guardLine ++ r) := strip_stripOnce _

theorem strip_dropBlankLines_of_shorter : strip (dropBlankLines t) = strip t := by
  rcases dropBlankLines_eq t with h | ⟨b, r, hb, rfl⟩
  · rw [h]
  have hline : '\n' ∉ b := fun hmem => absurd (hb _ hmem) (by decide)
  have hnot : isLoading b = false := by
    cases b with
    | nil => decide
    | cons c b =>
      have hc := hb c List.mem_cons_self
      exact isLoading_cons (by rintro rfl; cases hc) (by rintro rfl; cases hc) b
  have hcleared : cleared (b ++ '\n' :: r) = b ++ '\n' :: cleared r := by
    have happend := emptyLines_append_newline isLoading b r
    have hb' : emptyLines isLoading b = b := (cleared_line hline).trans (by rw [hnot]; rfl)
    rwa [hb'] at happend
  have htop : dropGuard (dropCookie (b ++ '\n' :: cleared r)) = b ++ '\n' :: cleared r := by
    cases b with
    | nil => rw [List.nil_append, dropCookie_cons (by decide), dropGuard_cons (by decide)]
    | cons c b =>
      have hc := hb c List.mem_cons_self
      rw [List.cons_append, dropCookie_cons (by rintro rfl; cases hc),
        dropGuard_cons (by rintro rfl; cases hc)]
  have hless : r.length < (b ++ '\n' :: r).length := by
    rw [List.length_append, List.length_cons]
    omega
  calc strip (dropBlankLines (b ++ '\n' :: r))
      = strip (dropBlankLines r) := by rw [dropBlankLines_append hb]
    _ = strip r := (ih _ hless).blank
    _ = strip (cleared r) := (strip_cleared r).symm
    _ = strip (dropBlankLines (cleared r)) :=
      (ih _ (Nat.lt_of_le_of_lt (length_cleared_le r) hless)).blank.symm
    _ = strip (stripOnce (b ++ '\n' :: r)) := by
      rw [stripOnce_eq, hcleared, htop, dropBlankLines_append hb]
    _ = strip (b ++ '\n' :: r) := strip_stripOnce _

/-- Nor does a line end that is removed along with a cookie. -/
theorem strip_dropOptional_newline (hr : r.length < t.length) :
    strip (dropOptional ['\n'] r) = strip r := by
  rcases dropOptional_eq ['\n'] r with h | h
  · rw [h]
  generalize dropOptional ['\n'] r = u at h ⊢
  subst h
  have hu : u.length < t.length := Nat.lt_of_le_of_lt (by simp) hr
  calc strip u = strip (dropBlankLines u) := (ih u hu).blank.symm
    _ = strip (dropBlankLines (['\n'] ++ u)) :=
      congrArg strip (dropBlankLines_append (b := []) nofun u).symm
    _ = strip (['\n'] ++ u) := (ih _ hr).blank

theorem strip_dropCookie_of_shorter : strip (dropCookie t) = strip t := by
  rcases dropCookie_eq t with h | ⟨name, r, hname, rfl⟩
  · rw [h]
  have hline : '\n' ∉ bareCookie name := by
    simp only [bareCookie, List.mem_append, not_or]
    exact ⟨by decide, fun hmem => absurd (hname.chars _ hmem) (by decide), by decide⟩
  obtain ⟨r', hcleared, hsame⟩ := exists_cleared_append hline
    (fun l => isLoading_cons (by decide) (by decide) _) r
  have hpos : 0 < (bareCookie name).length := by
    rw [bareCookie, List.length_append]
    exact Nat.add_pos_left (by decide) _
  have hr : r.length < (bareCookie name ++ r).length := by
    rw [List.length_append]
    omega
  have hr' : r'.length < (bareCookie name ++ r).length := by
    have hle := length_cleared_le (bareCookie name ++ r)
    rw [hcleared, List.length_append] at hle
    omega
  have hrest : (dropOptional ['\n'] r').length < (bareCookie name ++ r).length :=
    Nat.lt_of_le_of_lt (dropOptional_length_le _ _) hr'
  calc strip (dropCookie (bareCookie name ++ r))
      = strip r := by rw [dropCookie_append hname, strip_dropOptional_newline ih hr]
    _ = strip r' := by rw [← strip_cleared r, ← hsame, strip_cleared]
    _ = strip (dropOptional ['\n'] r') := (strip_dropOptional_newline ih hr').symm
    _ = strip (dropGuard (dropOptional ['\n'] r')) := (ih _ hrest).guard.symm
    _ = strip (dropBlankLines (dropGuard (dropOptional ['\n'] r'))) :=
      (ih _ (Nat.lt_of_le_of_lt (dropOptional_length_le _ _) hrest)).blank.symm
    _ = strip (stripOnce (bareCookie name ++ r)) := by
      rw [stripOnce_eq, hcleared, dropCookie_append hname]
    _ = strip (bareCookie name ++ r) := strip_stripOnce _

end Shorter

theorem neutral (t : Text) : Neutral t := by
  induction hn : t.length using Nat.strongRecOn generalizing t with
  | ind n ih =>
    have hshorter : ∀ u : Text, u.length < t.length → Neutral u := fun u hu =>
      ih u.length (hn ▸ hu) u rfl
    exact ⟨strip_dropCookie_of_shorter hshorter, strip_dropGuard_of_shorter hshorter,
      strip_dropBlankLines_of_shorter hshorter⟩

/-! ## The loading command -/

theorem newline_not_mem_mainFilter : '\n' ∉ mainFilter := by
  unfold mainFilter
  rw [List.mem_append, not_or]
  exact ⟨mt Text.mem_ofList.1 (by decide), mt Text.mem_ofList.1 (by decide)⟩

theorem newline_mem_literal : '\n' ∈ literal path ↔ '\n' ∈ path := by
  have hquotes : '\n' ∉ ("'''" : Text) := by decide
  simp only [literal, List.mem_append, hquotes, false_or, or_false]

theorem newline_mem_command :
    '\n' ∈ command path encoding keepMain delete ↔ '\n' ∈ path ∨ '\n' ∈ encoding := by
  have hfilter : '\n' ∉ (if keepMain then [] else mainFilter) := by
    split
    · exact List.not_mem_nil
    · exact newline_not_mem_mainFilter
  have hremove : '\n' ∈ (if delete then "os.remove(" ++ literal path ++ ");" else []) →
      '\n' ∈ path := by
    have hopen : '\n' ∉ ("os.remove(" : Text) := by decide
    have hclose : '\n' ∉ (");" : Text) := by decide
    split
    · simp only [List.mem_append, newline_mem_literal, hopen, hclose, false_or, or_false, imp_self]
    · exact fun h => absurd h List.not_mem_nil
  unfold command
  simp only [List.mem_append, or_assoc, newline_mem_literal, hfilter, false_or]
  constructor
  · rintro (h | h | h | h | h | h | h | h | h | h | h | h | h | h | h | h | h | h | h | h | h | h |
        h) <;>
      first
      | exact absurd (Text.mem_ofList.1 h) (by decide)
      | exact .inl h
      | exact .inr h
      | exact .inl (hremove h)
  · rintro (h | h) <;> simp only [h, true_or, or_true]

theorem isCommand_append (rest : Text) : isCommand ("import " ++ ("sys, " ++ ("codecs, os" ++
    (", ast" ++ (";__pyfile = codecs.open" ++ rest))))) = true := by
  rw [isCommand, Cookie.dropOpening?_eq_some.2 rfl]
  dsimp only
  rw [dropOptional_append, Cookie.dropOpening?_eq_some.2 rfl]
  dsimp only
  rw [dropOptional_append]
  exact List.isPrefixOf_iff_prefix.2 (List.prefix_append ..)

theorem isLoading_command : isLoading (command path encoding keepMain delete) = true := by
  have hcommand : ∃ rest, command path encoding keepMain delete = "import " ++ ("sys, " ++
      ("codecs, os" ++ (", ast" ++ (";__pyfile = codecs.open" ++ rest)))) := by
    have himport : ("import sys, codecs, os, ast;" : Text) =
        "import " ++ ("sys, " ++ ("codecs, os" ++ (", ast" ++ (";" : Text)))) := by decide
    have hopen : ("__pyfile = codecs.open(" : Text) = "__pyfile = codecs.open" ++ ("(" : Text) := by
      decide
    have hfile : (";__pyfile = codecs.open" : Text) =
        ";" ++ ("__pyfile = codecs.open" : Text) := by decide
    unfold command
    rw [himport, hopen, hfile]
    simp only [List.append_assoc]
    exact ⟨_, rfl⟩
  obtain ⟨rest, hrest⟩ := hcommand
  rw [isLoading, hrest, isCommand_append, Bool.true_or]

/-! ## What sending adds -/

theorem strip_newline (t : Text) : strip ('\n' :: t) = strip t := by
  rw [← (neutral ('\n' :: t)).blank, ← (neutral t).blank]
  exact congrArg strip (dropBlankLines_append (b := []) nofun t)

theorem strip_withCookie {name : Text} (h : IsEncodingName name) (t : Text) :
    strip (Fragment.withCookie t name) = strip t := by
  rw [withCookie_eq, ← (neutral _).cookie, dropCookie_append h]
  exact congrArg strip (dropOptional_append ['\n'] t)

theorem strip_guarded (t : Text) : strip (Fragment.guarded t) = strip t := by
  rcases Fragment.guarded_eq t with hsame | hguard
  · rw [hsame]
  · rw [hguard, ← (neutral _).guard, dropGuard, dropOptional_append]

theorem strip_command (hpath : '\n' ∉ path) (hencoding : '\n' ∉ encoding)
    (keepMain delete : Bool) (t : Text) :
    strip (command path encoding keepMain delete) = [] ∧
      strip (command path encoding keepMain delete ++ '\n' :: t) = strip t := by
  have hline : '\n' ∉ command path encoding keepMain delete := by
    rw [newline_mem_command, not_or]
    exact ⟨hpath, hencoding⟩
  have hcleared : cleared (command path encoding keepMain delete) = [] := by
    rw [cleared_line hline, isLoading_command]
    rfl
  have hboth := emptyLines_append_newline isLoading (command path encoding keepMain delete) t
  change cleared _ = cleared _ ++ '\n' :: cleared t at hboth
  constructor
  · rw [← strip_cleared, hcleared]
    exact strip_of_stripOnce (by decide +kernel)
  · rw [← strip_cleared, hboth, hcleared, List.nil_append, strip_newline, strip_cleared]

/-- A cookie, a guard and a loading command leave no trace, alone or together, whatever the text
looks like itself; a loading command alone leaves nothing. The rounds come to an end, and what they
lead to is left alone by further ones. -/
theorem strip_sending {name : Text} (hname : IsEncodingName name) (hpath : '\n' ∉ path)
    (keepMain delete : Bool) (t : Text) :
    strip (Fragment.withCookie t name) = strip t ∧
    strip (Fragment.guarded t) = strip t ∧
    strip (Fragment.withCookie (Fragment.guarded t) name) = strip t ∧
    strip (command path name keepMain delete ++ '\n' :: t) = strip t ∧
    strip (command path name keepMain delete) = [] ∧
    (∃ k ≤ t.length, (∀ j < k, stripOnce^[j + 1] t ≠ stripOnce^[j] t) ∧
      stripOnce^[k + 1] t = stripOnce^[k] t ∧ strip t = stripOnce^[k] t) ∧
    strip (strip t) = strip t := by
  have hencoding : '\n' ∉ name := fun hmem => absurd (hname.chars _ hmem) (by decide)
  have hcommand := strip_command hpath hencoding keepMain delete t
  exact ⟨strip_withCookie hname t, strip_guarded t,
    (strip_withCookie hname _).trans (strip_guarded t), hcommand.2, hcommand.1, exists_rounds t,
    strip_of_stripOnce (stripOnce_strip t)⟩

/-- A region that starts like one that has been sent already. -/
def disguised : Text := "# -*- coding: ascii -*-if True:\n    y = 1\nexec(compile(x))"

theorem strip_sending_disguised : IsEncodingName "latin-1" ∧ '\n' ∉ ("/tmp/it's.py" : Text) ∧
    Fragment.guarded disguised ≠ disguised ∧ strip disguised = "    y = 1\n" ∧
    strip (Fragment.withCookie (Fragment.guarded disguised) "latin-1") = "    y = 1\n" ∧
    strip (command "/tmp/it's.py" "latin-1" false true ++ '\n' :: disguised) = "    y = 1\n" := by
  have hname : IsEncodingName "latin-1" := ⟨by decide, List.all_eq_true.1 (by decide)⟩
  have hpath : '\n' ∉ ("/tmp/it's.py" : Text) := by decide
  obtain ⟨-, -, hregion, hcommand, -, -, -⟩ := strip_sending hname hpath false true disguised
  have hend : strip disguised = "    y = 1\n" := by decide +kernel
  exact ⟨hname, hpath, by decide +kernel, hend, hregion.trans hend, hcommand.trans hend⟩

end Loader

end ReplSend
