import ReplSend.Proofs.Dedenting

/-!
# Strings in units that are moved

A unit is moved to the margin line by line, and a line that begins inside a string (`Quoted`) is
moved like any other. So the value of a string that spans lines changes, unless the unit stands at
the margin or the lines of the string start with neither a tab nor a space (`dedent_quoted`).
-/

namespace ReplSend

/-- Line `i` begins inside a string that an earlier line opens. -/
def Text.Quoted (t : Text) (i : Nat) : Prop := (Scan.clean.before t.lines i).quote.isSome = true

instance {t : Text} {i : Nat} : Decidable (t.Quoted i) := inferInstanceAs (Decidable (_ = true))

/-! ## Lines that are moved and stay the same -/

namespace Fragment

variable {t u first l : Text} {i shift : Nat}

/-- A line that is moved stays the same only if there is nothing to take away. -/
theorem shiftLeft_eq_self (h : 0 < shift) :
    shiftLeft shift l = l ↔ l.takeWhile Text.isTabOrSpace = [] := by
  have hsplit := List.takeWhile_append_dropWhile (p := Text.isTabOrSpace) (l := l)
  constructor
  · intro hsame
    have hcolumns : indentation l - shift = indentation l :=
      (indentation_shiftLeft shift l).symm.trans (congrArg indentation hsame)
    rw [shiftLeft_eq, show indentation l - shift = 0 by omega] at hsame
    exact (List.append_cancel_right (hsame.trans hsplit.symm)).symm
  · intro hnone
    have hzero : indentation l = 0 := by
      rw [indentation, hnone]
      rfl
    rw [hnone, List.nil_append] at hsplit
    rw [shiftLeft_eq, hzero, Nat.zero_sub, hsplit]
    rfl

/-- The lines of a fragment that is moved to the margin, one by one. -/
theorem getElem?_dedent (hfirst : firstCode? (Text.lines t) = some first)
    (hu : dedent t = .ok u) (hl : (Text.lines t)[i]? = some l) : (Text.lines u)[i]? =
      some (if indentation first = 0 then l else shiftLeft (indentation first) l) := by
  obtain ⟨-, rfl⟩ := (dedent_eq_ok hfirst).1 hu
  split
  · exact hl
  · rw [lines_map (fun _ => newline_not_mem_shiftLeft), List.getElem?_map, hl, Option.map_some]

end Fragment

/-! ## Located units -/

namespace Outline

variable {t l : Text} {e i s : Nat} {kind : BlockKind}

/-- No unit starts inside a string. -/
theorem Whole.lt_of_quoted (hse : (ofText t).Whole s e) (hsi : s ≤ i) (hi : t.Quoted i) :
    s < i := by
  refine Nat.lt_of_le_of_ne hsi ?_
  rintro rfl
  have hs := lt_count_of_start hse.start
  rw [count_ofText] at hs
  have hclosed := (start_iff.1 hse.start).2
  rw [continues, row_ofText_of_line (List.getElem?_eq_getElem hs)] at hclosed
  rw [Text.Quoted, Scan.isOpen_eq_false.1 hclosed] at hi
  cases hi

theorem getElem?_textIn_block (hse : (ofText t).Whole s e) (hsi : s ≤ i) (hie : i ≤ e) :
    (Text.lines (((ofText t).block kind s e).textIn t))[i - s]? = t.lines[i]? := by
  rw [lines_textIn_block hse.le (lt_count_of_isCode hse.last),
    List.getElem?_take_of_lt (by omega), List.getElem?_drop, Nat.add_sub_cancel' hsi]

end Outline

section

variable {τ : Type} {b : Buffer} {blk : Block} {selection : Selection} {u : Text}

/-- What is sent for a statement or a definition that can be moved to the margin holds the lines of
its strings as they are exactly where the unit stands at the margin or the line starts with neither
a tab nor a space; another line is moved by the indentation of the unit's first one, as far as its
own goes, and keeps what stands behind its tabs and spaces. -/
theorem dedent_quoted (w : World τ) (h : b.Locates selection blk)
    (hd : selection.isDedented = true) (hu : Fragment.dedent (blk.textIn b.text) = .ok u) :
    w.fragment b selection = .ok (blk, u) ∧
    ∀ (i : Nat) (l : Text), blk.HasLine i → b.text.Quoted i → b.text.lines[i]? = some l →
      blk.firstLine ≤ i ∧ ∃ m, (Text.lines u)[i + 1 - blk.firstLine]? = some m ∧
        (m = l ↔ b.outline.indent (blk.firstLine - 1) = 0 ∨ l.takeWhile Text.isTabOrSpace = []) ∧
        (m ≠ l → m = Text.spaces (indentation l - b.outline.indent (blk.firstLine - 1)) ++
          l.dropWhile Text.isTabOrSpace) := by
  refine ⟨by rw [World.fragment_of_locates h, if_pos hd, dedented, hu]; rfl, ?_⟩
  obtain ⟨s, e, kind, hse, rfl⟩ := h.whole
  intro i l hline hquoted hl
  obtain ⟨hsi, hie⟩ := Outline.hasLine_block.1 hline
  obtain ⟨first, hfirst, hindent⟩ := Outline.Whole.firstCode? hse kind
  have hm := Fragment.getElem?_dedent hfirst hu
    ((Outline.getElem?_textIn_block hse hsi hie).trans hl)
  rw [hindent, show i - s = i + 1 - (s + 1) by omega] at hm
  refine ⟨hse.lt_of_quoted hsi hquoted, _, hm, ?_⟩
  show (_ ↔ (Outline.ofText b.text).indent s = 0 ∨ _) ∧
    (_ → _ = Text.spaces (_ - (Outline.ofText b.text).indent s) ++ _)
  split
  · rename_i h0
    exact ⟨by simp [h0], fun hne => absurd rfl hne⟩
  · rename_i hpos
    refine ⟨?_, fun _ => Fragment.shiftLeft_eq _ _⟩
    rw [Fragment.shiftLeft_eq_self (Nat.pos_of_ne_zero hpos)]
    simp [hpos]

end

/-- A method that ends in a string: an empty line, two tabs, and a number sign at the margin. -/
def reporting : Buffer :=
  ⟨"class C:\n    def f(self):\n        return '''\n\n\t\tone\n# two'''", 20, "a.py", none, "utf-8"⟩

/-- Of the lines of the string, the one with the tabs is changed. -/
theorem dedent_quoted_method : reporting.Locates .defun ⟨.defun, 9, 60, 2, 6⟩ ∧
    reporting.text.Quoted 4 ∧ reporting.text.Quoted 5 ∧ ∃ u : Text,
      (World.waiting .default).fragment reporting .defun = .ok (⟨.defun, 9, 60, 2, 6⟩, u) ∧
      (Text.lines u)[3]? = some ("            one" : Text) ∧
      (Text.lines u)[4]? = some ("# two'''" : Text) := by
  have hb : reporting.Locates .defun ⟨.defun, 9, 60, 2, 6⟩ := by decide +kernel
  have hquoted : reporting.text.Quoted 4 ∧ reporting.text.Quoted 5 := by decide +kernel
  have hindent : reporting.outline.indent (2 - 1) = 4 := by decide +kernel
  obtain ⟨u, hu⟩ : ∃ u, Fragment.dedent (Block.textIn ⟨.defun, 9, 60, 2, 6⟩ reporting.text) =
      .ok u := ⟨"def f(self):\n    return '''\n\n            one\n# two'''", by decide +kernel⟩
  obtain ⟨hsent, hlines⟩ := dedent_quoted (.waiting .default) hb rfl hu
  obtain ⟨-, m, hm, hkept, hmoved⟩ := hlines 4 "\t\tone" (by decide) hquoted.1 (by decide +kernel)
  obtain ⟨-, m', hm', hkept', -⟩ := hlines 5 "# two'''" (by decide) hquoted.2 (by decide +kernel)
  simp only [hindent] at hkept hmoved
  refine ⟨hb, hquoted.1, hquoted.2, u, hsent, ?_, ?_⟩
  · rw [hmoved fun hsame => absurd (hkept.1 hsame) (by decide)] at hm
    exact hm
  · rw [hkept'.2 (.inr (by decide))] at hm'
    exact hm'

/-- An assignment under a condition, of a string that spans lines. -/
def assigning : Buffer := ⟨"if x:\n    y = '''\n    a'''", 10, "a.py", none, "utf-8"⟩

/-- The string that is sent is not the string of the buffer. -/
theorem not_dedent_quoted : ∃ (blk : Block) (u : Text) (i : Nat),
    assigning.Locates .statement blk ∧ Fragment.dedent (blk.textIn assigning.text) = .ok u ∧
      blk.HasLine i ∧ assigning.text.Quoted i ∧
      (Text.lines u)[i + 1 - blk.firstLine]? ≠ assigning.text.lines[i]? :=
  ⟨⟨.statement, 6, 26, 2, 3⟩, "y = '''\na'''", 2, by decide +kernel⟩

end ReplSend
