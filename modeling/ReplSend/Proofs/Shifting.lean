import Mathlib.Data.List.DropRight
import ReplSend.Fragment
import ReplSend.Proofs.Text.Lines

/-!
# Fragments moved sideways

A line that is moved sideways keeps its kind and all that stands behind the tabs and spaces it
starts with (`Shifts`), and `shiftLeft` lowers its indentation by as many columns as it says.
From this follow what `dedent` refuses and what it makes of a fragment (`dedent_spec`), and, where
no line starts with a tab, that it undoes `indent` (`dedent_indent`).
-/

namespace ReplSend

/-! ## What a line starts with -/

namespace Text

theorem isBlank_of_isTabOrSpace {c : Char} (h : isTabOrSpace c = true) : isBlank c = true := by
  simp only [isTabOrSpace, Bool.or_eq_true, beq_iff_eq] at h
  rcases h with rfl | rfl <;> decide

theorem dropBlanks_dropWhile (l : Text) : dropBlanks (l.dropWhile isTabOrSpace) = dropBlanks l := by
  induction l with
  | nil => rfl
  | cons c l ih =>
    cases hc : isTabOrSpace c with
    | true =>
      rw [List.dropWhile_cons_of_pos hc, ih, dropBlanks, dropBlanks,
        List.dropWhile_cons_of_pos (isBlank_of_isTabOrSpace hc)]
    | false => rw [List.dropWhile_cons_of_neg (by simp [hc])]

theorem isTabOrSpace_of_mem_spaces {n : Nat} {c : Char} (h : c ∈ spaces n) :
    isTabOrSpace c = true := by
  rw [List.eq_of_mem_replicate h]
  rfl

theorem not_mem_spaces {n : Nat} {c : Char} (h : c ≠ ' ') : c ∉ spaces n :=
  fun hc => h (List.eq_of_mem_replicate hc)

theorem dropWhile_spaces_append (n : Nat) (t : Text) :
    (spaces n ++ t).dropWhile isTabOrSpace = t.dropWhile isTabOrSpace :=
  List.dropWhile_append_of_pos fun _ => isTabOrSpace_of_mem_spaces

theorem takeWhile_spaces_append (n : Nat) (t : Text) :
    (spaces n ++ t).takeWhile isTabOrSpace = spaces n ++ t.takeWhile isTabOrSpace :=
  List.takeWhile_append_of_pos fun _ => isTabOrSpace_of_mem_spaces

end Text

theorem LineKind.ofLine_congr {l m : Text}
    (h : l.dropWhile Text.isTabOrSpace = m.dropWhile Text.isTabOrSpace) :
    ofLine l = ofLine m := by
  unfold ofLine
  rw [← Text.dropBlanks_dropWhile l, h, Text.dropBlanks_dropWhile]

theorem foldl_columnAfter_spaces (n column : Nat) :
    (Text.spaces n).foldl columnAfter column = column + n := by
  induction n generalizing column with
  | zero => rfl
  | succ n ih =>
    rw [Text.spaces, List.replicate_succ, List.foldl_cons]
    exact (ih (column + 1)).trans (by omega)

theorem indentation_spaces_append (n : Nat) (t : Text) :
    indentation (Text.spaces n ++ t) = (t.takeWhile Text.isTabOrSpace).foldl columnAfter n := by
  rw [indentation, Text.takeWhile_spaces_append, List.foldl_append, foldl_columnAfter_spaces,
    Nat.zero_add]

namespace Fragment

open Text (lines unlines)

variable {t u l first : Text} {ls : List Text} {f i n shift : Nat}

/-! ## Lines moved sideways -/

/-- Lines moved sideways are the same but for the tabs and spaces that they start with. -/
def Shifts (f : Text → Text) : Prop :=
  ∀ l, (f l).dropWhile Text.isTabOrSpace = l.dropWhile Text.isTabOrSpace

theorem Shifts.ofLine {f : Text → Text} (h : Shifts f) (l : Text) :
    LineKind.ofLine (f l) = LineKind.ofLine l :=
  LineKind.ofLine_congr (h l)

theorem Shifts.isCodeLine {f : Text → Text} (h : Shifts f) (l : Text) :
    isCodeLine (f l) = isCodeLine l := by
  rw [Fragment.isCodeLine, h.ofLine, Fragment.isCodeLine]

theorem Shifts.firstCode? {f : Text → Text} (h : Shifts f) (ls : List Text) :
    firstCode? (ls.map f) = (firstCode? ls).map f := by
  rw [Fragment.firstCode?, List.find?_map, Fragment.firstCode?]
  congr 2
  funext l
  exact h.isCodeLine l

theorem shifts_shiftLeft (shift : Nat) : Shifts (shiftLeft shift) := by
  intro l
  rw [shiftLeft_eq, Text.dropWhile_spaces_append]
  exact List.dropWhile_idempotent _ l

theorem indentation_shiftLeft (shift : Nat) (l : Text) :
    indentation (shiftLeft shift l) = indentation l - shift := by
  have hrest : (l.dropWhile Text.isTabOrSpace).takeWhile Text.isTabOrSpace = [] := by
    rw [List.takeWhile_eq_nil_iff]
    intro hpos
    have := List.head_dropWhile_not Text.isTabOrSpace (l := l) (List.ne_nil_of_length_pos hpos)
    rwa [List.head_eq_getElem, Bool.eq_false_iff] at this
  rw [shiftLeft_eq, indentation_spaces_append, hrest]
  rfl

theorem newline_not_mem_shiftLeft (h : '\n' ∉ l) : '\n' ∉ shiftLeft shift l := by
  rw [shiftLeft_eq, List.mem_append, not_or]
  exact ⟨Text.not_mem_spaces (by decide), fun hc => h (List.dropWhile_subset _ hc)⟩

theorem lines_map {f : Text → Text} (hf : ∀ l, '\n' ∉ l → '\n' ∉ f l) (t : Text) :
    lines (unlines ((lines t).map f)) = (lines t).map f := by
  refine Text.lines_unlines (by simpa using t.lines_ne_nil) fun l hl => ?_
  obtain ⟨m, hm, rfl⟩ := List.mem_map.1 hl
  exact hf m (Text.newline_not_mem_of_mem_lines hm)

/-! ## The first code line and those left of it -/

/-- Line `f` is the first code line. -/
structure IsFirstCode (ls : List Text) (f : Nat) (first : Text) : Prop where
  line : ls[f]? = some first
  code : isCodeLine first = true
  above : ∀ j l, j < f → ls[j]? = some l → isCodeLine l = false

theorem firstCode?_eq_some : firstCode? ls = some first ↔ ∃ f, IsFirstCode ls f first := by
  rw [firstCode?, List.find?_eq_some_iff_getElem]
  constructor
  · rintro ⟨hcode, f, hf, rfl, habove⟩
    refine ⟨f, List.getElem?_eq_getElem hf, hcode, fun j l hj hl => ?_⟩
    obtain ⟨hlt, rfl⟩ := List.getElem?_eq_some_iff.1 hl
    simpa using habove j hj
  · rintro ⟨f, hline, hcode, habove⟩
    obtain ⟨hf, rfl⟩ := List.getElem?_eq_some_iff.1 hline
    refine ⟨hcode, f, hf, rfl, fun j hj => ?_⟩
    simpa using habove j _ hj (List.getElem?_eq_getElem (by omega))

/-- Line `i` is a code line and stands left of the column. -/
def ShallowAt (shift : Nat) (ls : List Text) (i : Nat) : Prop :=
  ∃ l, ls[i]? = some l ∧ isCodeLine l = true ∧ indentation l < shift

theorem shallower?_eq_some :
    shallower? shift ls = some i ↔ ShallowAt shift ls i ∧ ∀ j < i, ¬ ShallowAt shift ls j := by
  have hat : ∀ j, (h : j < ls.length) →
      ((isCodeLine ls[j] && decide (indentation ls[j] < shift)) = true ↔ ShallowAt shift ls j) := by
    intro j h
    simp [ShallowAt, List.getElem?_eq_getElem h]
  rw [shallower?, List.findIdx?_eq_some_iff_getElem]
  constructor
  · rintro ⟨hi, hp, hbefore⟩
    exact ⟨(hat i hi).1 hp, fun j hj hs => hbefore j hj ((hat j (by omega)).2 hs)⟩
  · rintro ⟨hs, hbefore⟩
    obtain ⟨hi, -⟩ := List.getElem?_eq_some_iff.1 hs.choose_spec.1
    exact ⟨hi, (hat i hi).2 hs, fun j hj hp => hbefore j hj ((hat j (by omega)).1 hp)⟩

theorem shallower?_eq_none : shallower? shift ls = none ↔ ∀ i, ¬ ShallowAt shift ls i := by
  rw [shallower?, List.findIdx?_eq_none_iff]
  constructor
  · rintro h i ⟨l, hl, hcode, hlt⟩
    have := h l (List.mem_of_getElem? hl)
    simp [hcode, hlt] at this
  · intro h l hl
    obtain ⟨i, hi⟩ := List.getElem?_of_mem hl
    rw [Bool.eq_false_iff]
    intro hp
    rw [Bool.and_eq_true, decide_eq_true_eq] at hp
    exact h i ⟨l, hi, hp⟩

/-- No line left of the first code line stands above it. -/
theorem IsFirstCode.lt_of_shallowAt (h : IsFirstCode ls f first)
    (hi : ShallowAt (indentation first) ls i) : f < i := by
  obtain ⟨l, hl, hcode, hlt⟩ := hi
  rcases Nat.lt_trichotomy i f with hif | rfl | hfi
  · rw [h.above i l hif hl] at hcode
    cases hcode
  · obtain rfl := Option.some.inj (h.line.symm.trans hl)
    omega
  · exact hfi

/-! ## Fragments moved to the margin -/

theorem dedent_eq_self (h : firstCode? (lines t) = none) : dedent t = .ok t := by
  rw [dedent, h]

/-- A fragment is refused at the first code line that stands left of its first code line. -/
theorem dedent_eq_error (hfirst : firstCode? (lines t) = some first) :
    dedent t = .error n ↔
      ∃ i, shallower? (indentation first) (lines t) = some i ∧ n = i + 1 := by
  simp only [dedent, hfirst]
  cases shallower? (indentation first) (lines t) with
  | none => simp
  | some i => simp [eq_comm]

theorem dedent_eq_ok (hfirst : firstCode? (lines t) = some first) :
    dedent t = .ok u ↔ shallower? (indentation first) (lines t) = none ∧
      u = if indentation first = 0 then t
        else unlines ((lines t).map (shiftLeft (indentation first))) := by
  simp only [dedent, hfirst]
  cases shallower? (indentation first) (lines t) with
  | none => simp [eq_comm]
  | some i => simp

/-- A fragment whose first code line stands at the margin is left as it is. -/
theorem dedent_of_margin (hfirst : firstCode? (lines t) = some first) (h : indentation first = 0) :
    dedent t = .ok t := by
  rw [dedent_eq_ok hfirst, shallower?_eq_none, if_pos h, h]
  exact ⟨fun i ⟨l, _, _, hlt⟩ => Nat.not_lt_zero _ hlt, rfl⟩

/-- All lines are moved left alike, by the indentation of the first code line. -/
theorem lines_of_dedent_shift (hfirst : firstCode? (lines t) = some first)
    (h : dedent t = .ok u) : ∃ f, Shifts f ∧ lines u = (lines t).map f ∧
      ∀ l, indentation (f l) = indentation l - indentation first := by
  obtain ⟨-, rfl⟩ := (dedent_eq_ok hfirst).1 h
  split
  · rename_i h0
    exact ⟨id, fun l => rfl, (List.map_id _).symm, fun l => by rw [h0]; rfl⟩
  · exact ⟨_, shifts_shiftLeft _, lines_map (fun _ => newline_not_mem_shiftLeft) t,
      indentation_shiftLeft _⟩

theorem lines_of_dedent (h : dedent t = .ok u) :
    ∃ f, Shifts f ∧ lines u = (lines t).map f := by
  cases hfirst : firstCode? (lines t) with
  | none =>
    rw [dedent_eq_self hfirst] at h
    cases h
    exact ⟨id, fun l => rfl, (List.map_id _).symm⟩
  | some first =>
    obtain ⟨f, hf, hlines, -⟩ := lines_of_dedent_shift hfirst h
    exact ⟨f, hf, hlines⟩

theorem dedent_dedent (h : dedent t = .ok u) : dedent u = .ok u := by
  cases hfirst : firstCode? (lines t) with
  | none =>
    have hself := dedent_eq_self hfirst
    rw [hself] at h
    cases h
    exact hself
  | some first =>
    obtain ⟨f, hf, hlines, hindent⟩ := lines_of_dedent_shift hfirst h
    have hfirst' : firstCode? (lines u) = some (f first) := by
      rw [hlines, hf.firstCode?, hfirst, Option.map_some]
    exact dedent_of_margin hfirst' (by rw [hindent, Nat.sub_self])

theorem exists_dedent_eq_error : (∃ n, dedent t = .error n) ↔
    ∃ f i first, IsFirstCode (lines t) f first ∧ f < i ∧
      ShallowAt (indentation first) (lines t) i := by
  constructor
  · rintro ⟨n, hn⟩
    cases hfirst : firstCode? (lines t) with
    | none =>
      rw [dedent_eq_self hfirst] at hn
      cases hn
    | some first =>
      obtain ⟨f, hf⟩ := firstCode?_eq_some.1 hfirst
      obtain ⟨i, hi, -⟩ := (dedent_eq_error hfirst).1 hn
      have hshallow := (shallower?_eq_some.1 hi).1
      exact ⟨f, i, first, hf, hf.lt_of_shallowAt hshallow, hshallow⟩
  · rintro ⟨f, i, first, hf, -, hi⟩
    have hfirst := firstCode?_eq_some.2 ⟨f, hf⟩
    cases hs : shallower? (indentation first) (lines t) with
    | none => exact absurd hi (shallower?_eq_none.1 hs i)
    | some k => exact ⟨k + 1, (dedent_eq_error hfirst).2 ⟨k, hs, rfl⟩⟩

/-- A code line is moved left by the whole indentation of the first one, another line as far as
its own goes. -/
theorem indentation_of_dedent {m : Text} (hu : dedent t = .ok u)
    (hf : IsFirstCode (lines t) f first) (hl : (lines t)[i]? = some l)
    (hm : (lines u)[i]? = some m) :
    if isCodeLine l then indentation m + indentation first = indentation l
    else indentation m = indentation l - indentation first := by
  have hfirst := firstCode?_eq_some.2 ⟨f, hf⟩
  obtain ⟨g, -, hlines, hindent⟩ := lines_of_dedent_shift hfirst hu
  obtain rfl : g l = m := by simpa [hlines, hl] using hm
  have hnone := shallower?_eq_none.1 ((dedent_eq_ok hfirst).1 hu).1
  rw [hindent]
  split
  · rename_i hcode
    exact Nat.sub_add_cancel (Nat.le_of_not_lt fun hlt => hnone i ⟨l, hl, hcode, hlt⟩)
  · rfl

/-- A fragment is refused exactly if a code line below its first one stands left of that. Otherwise
its lines stay what they are, but for their indentation: that of the first code line is taken from
all, from lines that are not code as far as theirs goes. What comes out is at the margin. -/
theorem dedent_spec (t : Text) :
    ((∃ n, dedent t = .error n) ↔ ∃ f i first, IsFirstCode (lines t) f first ∧ f < i ∧
      ShallowAt (indentation first) (lines t) i) ∧
    ∀ u, dedent t = .ok u → dedent u = .ok u ∧ (lines u).length = (lines t).length ∧
      ∀ (i : Nat) (l m : Text), (lines t)[i]? = some l → (lines u)[i]? = some m →
        LineKind.ofLine m = LineKind.ofLine l ∧
        m.dropWhile Text.isTabOrSpace = l.dropWhile Text.isTabOrSpace ∧
        ∀ f first, IsFirstCode (lines t) f first →
          if isCodeLine l then indentation m + indentation first = indentation l
          else indentation m = indentation l - indentation first := by
  refine ⟨exists_dedent_eq_error, fun u hu => ?_⟩
  obtain ⟨g, hg, hlines⟩ := lines_of_dedent hu
  refine ⟨dedent_dedent hu, by rw [hlines, List.length_map], fun i l m hl hm => ?_⟩
  obtain rfl : g l = m := by simpa [hlines, hl] using hm
  exact ⟨hg.ofLine l, hg l, fun f first hf => indentation_of_dedent hu hf hl hm⟩

/-- A tab among the columns that are taken away leaves spaces behind. -/
example : dedent "    if x:\n\t\ty = 1\n # then\n" = .ok "if x:\n            y = 1\n# then\n" := by
  decide

/-! ## Fragments moved right and back -/

/-- The line does not start with a tab, nor with spaces and a tab. -/
def Untabbed (l : Text) : Prop := '\t' ∉ l.takeWhile Text.isTabOrSpace

instance : Decidable (Untabbed l) := inferInstanceAs (Decidable (¬ _))

theorem Untabbed.takeWhile (h : Untabbed l) :
    l.takeWhile Text.isTabOrSpace = Text.spaces (indentation l) := by
  have hall : ∀ c ∈ l.takeWhile Text.isTabOrSpace, c = ' ' := fun c hc => by
    have hblank := List.all_eq_true.1 List.all_takeWhile c hc
    simp only [Text.isTabOrSpace, Bool.or_eq_true, beq_iff_eq] at hblank
    exact hblank.resolve_right fun htab => h (htab ▸ hc)
  have hspaces := List.eq_replicate_of_mem hall
  have hlength := congrArg (List.foldl columnAfter 0) hspaces
  rw [← Text.spaces, foldl_columnAfter_spaces, Nat.zero_add] at hlength
  rw [indentation, hlength]
  exact hspaces

theorem Untabbed.shiftLeft_zero (h : Untabbed l) : shiftLeft 0 l = l := by
  rw [shiftLeft_eq, Nat.sub_zero, ← h.takeWhile, List.takeWhile_append_dropWhile]

theorem dedent_of_untabbed (hfirst : firstCode? (lines t) = some first)
    (htabs : ∀ l ∈ lines t, Untabbed l) :
    dedent t = match shallower? (indentation first) (lines t) with
      | some i => .error (i + 1)
      | none => .ok (unlines ((lines t).map (shiftLeft (indentation first)))) := by
  cases hs : shallower? (indentation first) (lines t) with
  | some i => exact (dedent_eq_error hfirst).2 ⟨i, hs, rfl⟩
  | none =>
    refine (dedent_eq_ok hfirst).2 ⟨hs, ?_⟩
    split
    · rename_i h0
      have hsame : (lines t).map (shiftLeft 0) = lines t :=
        (List.map_congr_left fun l hl => (htabs l hl).shiftLeft_zero).trans (List.map_id _)
      rw [h0, hsame, Text.unlines_lines]
    · rfl

/-- A line moved right, unless it is empty. -/
def shiftRight (n : Nat) (l : Text) : Text := if l.isEmpty then l else Text.spaces n ++ l

theorem shifts_shiftRight (n : Nat) : Shifts (shiftRight n) := by
  intro l
  unfold shiftRight
  split
  · rfl
  · exact Text.dropWhile_spaces_append n l

theorem lines_indent (n : Nat) (t : Text) : lines (indent n t) = (lines t).map (shiftRight n) := by
  refine lines_map (fun l hl => ?_) t
  split
  · exact hl
  · rw [List.mem_append, not_or]
    exact ⟨Text.not_mem_spaces (by decide), hl⟩

theorem Untabbed.shiftRight (h : Untabbed l) (n : Nat) : Untabbed (shiftRight n l) := by
  unfold Fragment.shiftRight
  split
  · exact h
  · rw [Untabbed, Text.takeWhile_spaces_append, List.mem_append, not_or]
    exact ⟨Text.not_mem_spaces (by decide), h⟩

theorem Untabbed.indentation_shiftRight (h : Untabbed l) (hne : l ≠ []) (n : Nat) :
    indentation (Fragment.shiftRight n l) = n + indentation l := by
  rw [Fragment.shiftRight, if_neg (by simpa using hne), indentation_spaces_append, h.takeWhile,
    foldl_columnAfter_spaces]

/-- What a line was moved right by, it is moved back. -/
theorem Untabbed.shiftLeft_shiftRight (h : Untabbed l) (n shift : Nat) :
    shiftLeft (n + shift) (Fragment.shiftRight n l) = shiftLeft shift l := by
  by_cases hne : l = []
  · subst hne
    simp [Fragment.shiftRight, shiftLeft, Text.expandTabs]
  · rw [shiftLeft_eq, shifts_shiftRight n l, h.indentation_shiftRight hne, shiftLeft_eq,
      Nat.add_sub_add_left]

theorem ne_nil_of_isCodeLine (h : isCodeLine l = true) : l ≠ [] := by
  rintro rfl
  exact absurd h (by decide)

theorem shallower?_shiftRight (htabs : ∀ l ∈ ls, Untabbed l) (n shift : Nat) :
    shallower? (n + shift) (ls.map (shiftRight n)) = shallower? shift ls := by
  induction ls with
  | nil => rfl
  | cons l ls ih =>
    obtain ⟨hl, hls⟩ := List.forall_mem_cons.1 htabs
    have hsame : (isCodeLine (shiftRight n l) &&
        decide (indentation (shiftRight n l) < n + shift)) =
        (isCodeLine l && decide (indentation l < shift)) := by
      rw [(shifts_shiftRight n).isCodeLine]
      cases hcode : isCodeLine l with
      | false => rfl
      | true => simp [hl.indentation_shiftRight (ne_nil_of_isCodeLine hcode)]
    have ih' := ih hls
    rw [shallower?, shallower?] at ih' ⊢
    rw [List.map_cons, List.findIdx?_cons, List.findIdx?_cons, hsame, ih']

/-- A fragment that was moved right is moved to the margin as before, or refused at the same
line. -/
theorem dedent_indent (hcode : ∃ l ∈ lines t, isCodeLine l = true)
    (htabs : ∀ l ∈ lines t, Untabbed l) (n : Nat) :
    dedent (indent n t) = dedent t ∧
      ∀ f first, IsFirstCode (lines t) f first → indentation first = 0 →
        dedent (indent n t) = .ok t := by
  obtain ⟨first, hfirst⟩ : ∃ first, firstCode? (lines t) = some first := by
    obtain ⟨l, hl, hlcode⟩ := hcode
    exact Option.isSome_iff_exists.1 (List.find?_isSome.2 ⟨l, hl, hlcode⟩)
  have hfirst' : firstCode? (lines (indent n t)) = some (shiftRight n first) := by
    rw [lines_indent, (shifts_shiftRight n).firstCode?, hfirst, Option.map_some]
  have htabs' : ∀ l ∈ lines (indent n t), Untabbed l := by
    rw [lines_indent]
    intro l hl
    obtain ⟨m, hm, rfl⟩ := List.mem_map.1 hl
    exact (htabs m hm).shiftRight n
  have hshift : indentation (shiftRight n first) = n + indentation first :=
    (htabs first (List.mem_of_find?_eq_some hfirst)).indentation_shiftRight
      (ne_nil_of_isCodeLine (List.find?_some hfirst)) n
  have hback : (lines t).map (shiftLeft (n + indentation first) ∘ shiftRight n) =
      (lines t).map (shiftLeft (indentation first)) :=
    List.map_congr_left fun l hl => (htabs l hl).shiftLeft_shiftRight n _
  have hsame : dedent (indent n t) = dedent t := by
    rw [dedent_of_untabbed hfirst' htabs', dedent_of_untabbed hfirst htabs, hshift, lines_indent,
      shallower?_shiftRight htabs, List.map_map, hback]
  refine ⟨hsame, fun f first' hf h0 => ?_⟩
  rw [hsame]
  exact dedent_of_margin (firstCode?_eq_some.2 ⟨f, hf⟩) h0

/-- A conditional with an empty line, a line of blanks and a comment that stands out of line. -/
def spaced : Text := "if x:\n\n    y = 1\r\n  \n # then\n"

theorem dedent_indent_spaced : (∃ l ∈ lines spaced, isCodeLine l = true) ∧
    (∀ l ∈ lines spaced, Untabbed l) ∧ IsFirstCode (lines spaced) 0 "if x:" ∧
    indentation "if x:" = 0 ∧ dedent (indent 3 spaced) = .ok spaced := by
  have hcode : ∃ l ∈ lines spaced, isCodeLine l = true := by decide
  have htabs : ∀ l ∈ lines spaced, Untabbed l := by decide
  have hfirst : IsFirstCode (lines spaced) 0 "if x:" := ⟨by decide, by decide, nofun⟩
  exact ⟨hcode, htabs, hfirst, rfl, (dedent_indent hcode htabs 3).2 0 _ hfirst rfl⟩

end Fragment

end ReplSend
