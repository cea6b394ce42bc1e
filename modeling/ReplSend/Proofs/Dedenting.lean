import Mathlib.Control.Monad.Basic
import ReplSend.Proofs.Locate.Unit
import ReplSend.Proofs.Sending
import ReplSend.Proofs.Shifting

/-!
# Moving located units to the margin

Locating goes by statement lines, `dedent` by single lines. Within a statement or a definition the
two disagree on the lines that continue the one above and yet stand left of the first line
(`Stray`): nothing else keeps a located unit from being moved to the margin (`dedent_located`).
-/

namespace ReplSend

/-! ## Stray lines -/

namespace Outline

variable {t : Text} {kind : BlockKind} {e i k n s : Nat}

/-- A line of a block that continues the line above, stands left of the first line and, taken by
itself, is code. -/
structure Stray (o : Outline) (blk : Block) (i : Nat) : Prop where
  inside : blk.HasLine i
  continues : o.continues i = true
  code : (o.kind i).isCode = true
  shallow : o.indent i < o.indent (blk.firstLine - 1)

instance {blk : Block} : Decidable (blk.HasLine i) := inferInstanceAs (Decidable (_ ∧ _))

instance {o : Outline} {blk : Block} : Decidable (o.Stray blk i) :=
  decidable_of_iff (blk.HasLine i ∧ o.continues i = true ∧ (o.kind i).isCode = true ∧
      o.indent i < o.indent (blk.firstLine - 1))
    ⟨fun ⟨h1, h2, h3, h4⟩ => ⟨h1, h2, h3, h4⟩, fun ⟨h1, h2, h3, h4⟩ => ⟨h1, h2, h3, h4⟩⟩

/-- Only a line that continues the one above can stand left of a unit. -/
theorem stray_iff {o : Outline} (ha : o.Aligned s e) :
    o.Stray (o.block kind s e) i ↔
      (s ≤ i ∧ i ≤ e) ∧ (o.kind i).isCode = true ∧ o.indent i < o.indent s := by
  have hfirst : (o.block kind s e).firstLine - 1 = s := rfl
  constructor
  · rintro ⟨hinside, -, hcode, hshallow⟩
    exact ⟨hasLine_block.1 hinside, hcode, hfirst ▸ hshallow⟩
  · rintro ⟨hinside, hcode, hshallow⟩
    refine ⟨hasLine_block.2 hinside, ?_, hcode, hfirst ▸ hshallow⟩
    cases hcont : o.continues i with
    | true => rfl
    | false =>
      have hstart : o.isStatementStart i = true :=
        start_iff.2 ⟨Bool.or_eq_true_iff.2 (.inr hcode), hcont⟩
      have := ha i hinside.1 hinside.2 hstart
      omega

/-- The first line of a unit is code. -/
theorem Whole.firstCode? (hse : (ofText t).Whole s e) (kind : BlockKind) : ∃ l,
    Fragment.firstCode? (Text.lines (((ofText t).block kind s e).textIn t)) = some l ∧
      indentation l = (ofText t).indent s := by
  have hle := hse.le
  have hs : s < t.lines.length := by
    rw [← count_ofText]
    exact lt_count_of_start hse.start
  have hrow := row_ofText_of_line (List.getElem?_eq_getElem hs)
  have hcode : Fragment.isCodeLine t.lines[s] = true := by
    have := kind_isCode_of_start hse.start
    rwa [Outline.kind, hrow] at this
  refine ⟨t.lines[s], ?_, by rw [indent, hrow]⟩
  rw [lines_textIn_block hle (lt_count_of_isCode hse.last), List.drop_eq_getElem_cons hs,
    show e + 1 - s = e - s + 1 by omega, List.take_succ_cons, Fragment.firstCode?,
    List.find?_cons_of_pos hcode]

/-- The lines that stand left of a unit are its stray lines. -/
theorem shallowAt_textIn_block (hse : (ofText t).Whole s e) (ha : (ofText t).Aligned s e) :
    Fragment.ShallowAt ((ofText t).indent s)
        (Text.lines (((ofText t).block kind s e).textIn t)) k ↔
      (ofText t).Stray ((ofText t).block kind s e) (s + k) := by
  have hcount := lt_count_of_isCode hse.last
  rw [stray_iff ha, lines_textIn_block hse.le hcount]
  rw [count_ofText] at hcount
  by_cases hk : k < e + 1 - s
  · obtain ⟨l, hl⟩ : ∃ l, t.lines[s + k]? = some l := ⟨_, List.getElem?_eq_getElem (by omega)⟩
    have hinside : s ≤ s + k ∧ s + k ≤ e := by omega
    simp [Fragment.ShallowAt, Fragment.isCodeLine, Outline.kind, indent, row_ofText_of_line hl,
      List.getElem?_take_of_lt hk, hl, hinside]
  · have hnone : ((t.lines.drop s).take (e + 1 - s))[k]? = none :=
      List.getElem?_take_eq_none (by omega)
    simp only [Fragment.ShallowAt, hnone, reduceCtorEq, false_and, exists_false, false_iff]
    omega

/-- A unit is refused at its first stray line. -/
theorem dedent_block (hse : (ofText t).Whole s e) (ha : (ofText t).Aligned s e) :
    Fragment.dedent (((ofText t).block kind s e).textIn t) = .error n ↔
      ∃ i, (ofText t).Stray ((ofText t).block kind s e) i ∧
        (∀ j < i, ¬ (ofText t).Stray ((ofText t).block kind s e) j) ∧ i + 1 = s + n := by
  obtain ⟨first, hfirst, hindent⟩ := hse.firstCode? kind
  simp only [Fragment.dedent_eq_error hfirst, hindent, Fragment.shallower?_eq_some,
    shallowAt_textIn_block hse ha]
  constructor
  · rintro ⟨k, ⟨hk, hbefore⟩, rfl⟩
    refine ⟨s + k, hk, fun j hj hstray => ?_, rfl⟩
    have hsj := (hasLine_block.1 hstray.inside).1
    exact hbefore (j - s) (by omega) (by rwa [Nat.add_sub_cancel' hsj])
  · rintro ⟨i, hi, hbefore, hn⟩
    have hsi := (hasLine_block.1 hi.inside).1
    refine ⟨i - s, ⟨by rwa [Nat.add_sub_cancel' hsi], fun j hj => hbefore _ (by omega)⟩, by omega⟩

end Outline

/-! ## Located units -/

/-- Statements and definitions are moved to the margin before they are sent. -/
def Selection.isDedented : Selection → Bool
  | statement | defun | defclass => true
  | _ => false

/-- The unit of whole statements that a selection stands for. -/
def Buffer.Locates (b : Buffer) : Selection → Block → Prop
  | .statement, blk => b.outline.statement (b.outline.lineAt b.point) = .ok blk
  | .topStatement, blk => b.outline.topStatement (b.outline.lineAt b.point) = .ok blk
  | .defun, blk => b.outline.definition (b.outline.lineAt b.point) .defHeader = .ok (some blk)
  | .defclass, blk => b.outline.definition (b.outline.lineAt b.point) .classHeader = .ok (some blk)
  | .group, blk => b.outline.group (b.outline.lineAt b.point) = .ok blk
  | _, _ => False

section

variable {τ : Type} {w : World τ} {b : Buffer} {blk : Block} {selection : Selection} {n : Nat}

instance : Decidable (b.Locates selection blk) :=
  match selection with
  | .statement | .topStatement | .group => inferInstanceAs (Decidable (_ = Except.ok blk))
  | .defun | .defclass => inferInstanceAs (Decidable (_ = Except.ok (some blk)))
  | .cell | .region _ _ | .buffer _ => instDecidableFalse

theorem Buffer.Locates.whole (h : b.Locates selection blk) :
    ∃ s e kind, b.outline.Whole s e ∧ blk = b.outline.block kind s e := by
  have hw : b.outline.WellFormed := Outline.wellFormed_ofText b.text
  cases selection with
  | statement =>
    obtain ⟨s, e, hse, -, rfl⟩ := hw.whole_of_statement h
    exact ⟨s, e, _, hse, rfl⟩
  | topStatement =>
    obtain ⟨s, e, hse, rfl⟩ := hw.whole_of_topStatement h
    exact ⟨s, e, _, hse, rfl⟩
  | defun =>
    obtain ⟨s, e, kind, hse, -, rfl⟩ := hw.whole_of_definition rfl h
    exact ⟨s, e, kind, hse, rfl⟩
  | defclass =>
    obtain ⟨s, e, kind, hse, -, rfl⟩ := hw.whole_of_definition rfl h
    exact ⟨s, e, kind, hse, rfl⟩
  | group =>
    obtain ⟨s, e, hse, rfl⟩ := hw.whole_of_group h
    exact ⟨s, e, _, hse, rfl⟩
  | cell => cases h
  | region => cases h
  | buffer => cases h

theorem Buffer.Locates.aligned (h : b.Locates selection blk) (hd : selection.isDedented = true) :
    ∃ s e kind, b.outline.Whole s e ∧ b.outline.Aligned s e ∧ blk = b.outline.block kind s e := by
  have hw : b.outline.WellFormed := Outline.wellFormed_ofText b.text
  cases selection with
  | statement =>
    obtain ⟨s, e, hse, ha, rfl⟩ := hw.whole_of_statement h
    exact ⟨s, e, _, hse, ha, rfl⟩
  | defun => exact hw.whole_of_definition rfl h
  | defclass => exact hw.whole_of_definition rfl h
  | _ => cases hd

theorem World.fragment_of_locates (h : b.Locates selection blk) :
    w.fragment b selection = if selection.isDedented then
      (dedented (blk.textIn b.text)).map (blk, ·) else .ok (blk, blk.textIn b.text) := by
  cases selection with
  | statement =>
    have h : b.outline.statement _ = _ := h
    simp only [fragment, h, located, Selection.isDedented, if_true]
    rfl
  | topStatement =>
    have h : b.outline.topStatement _ = _ := h
    simp only [fragment, h, located]
    rfl
  | defun =>
    have h : b.outline.definition _ _ = _ := h
    simp only [fragment, h, required, Selection.isDedented, if_true]
    rfl
  | defclass =>
    have h : b.outline.definition _ _ = _ := h
    simp only [fragment, h, required, Selection.isDedented, if_true]
    rfl
  | group =>
    have h : b.outline.group _ = _ := h
    simp only [fragment, h, located]
    rfl
  | cell => cases h
  | region => cases h
  | buffer => cases h

/-- A statement or definition that was located is refused exactly at its first stray line, and
sending it then does nothing. -/
theorem dedent_located [Clock τ] (w : World τ) (step : Bool) (h : b.Locates selection blk)
    (hd : selection.isDedented = true) :
    (Fragment.dedent (blk.textIn b.text) = .error n ↔ ∃ i, b.outline.Stray blk i ∧
      (∀ j < i, ¬ b.outline.Stray blk j) ∧ i + 2 = blk.firstLine + n) ∧
    (Fragment.dedent (blk.textIn b.text) = .error n →
      Act.send b selection step w = (.error (.shallow n), w)) := by
  constructor
  · obtain ⟨s, e, kind, hse, ha, rfl⟩ := h.aligned hd
    rw [Buffer.outline, Outline.dedent_block hse ha]
    refine exists_congr fun i => and_congr_right fun _ => and_congr_right fun _ => ?_
    simp only [Outline.block]
    omega
  · intro hn
    have hf : w.fragment b selection = .error (.shallow n) := by
      rw [World.fragment_of_locates h, if_pos hd, dedented, hn]
      rfl
    unfold Act.send
    rw [Act.bind_apply, Act.get_apply]
    dsimp only
    rw [hf, Act.bind_apply, Act.ofExcept_apply]

end

/-- A method that ends in a string with text at the margin. -/
def quoting : Buffer :=
  ⟨"class C:\n    def f(self):\n        return '''\nleft\n'''", 20, "a.py", none, "utf-8"⟩

theorem dedent_located_string : quoting.Locates .defun ⟨.defun, 9, 53, 2, 5⟩ ∧
    Act.send quoting .defun true (.waiting .default) =
      (.error (.shallow 3), .waiting .default) := by
  have hb : quoting.Locates .defun ⟨.defun, 9, 53, 2, 5⟩ := by decide +kernel
  have hsend := dedent_located (n := 3) (.waiting .default) true hb rfl
  exact ⟨hb, hsend.2 (hsend.1.2 ⟨3, by decide +kernel, by decide +kernel, rfl⟩)⟩

/-- A call whose second line stands left of the first. -/
def overhanging : Buffer := ⟨"if x:\n    foo(1,\n  2)", 10, "a.py", none, "utf-8"⟩

/-- The statement is located, and yet refused. -/
theorem not_dedent_statement : ∃ blk, overhanging.Locates .statement blk ∧
    ∀ t, Fragment.dedent (blk.textIn overhanging.text) ≠ .ok t := by
  have heval : overhanging.Locates .statement ⟨.statement, 6, 21, 2, 3⟩ ∧
      Fragment.dedent (Block.textIn ⟨.statement, 6, 21, 2, 3⟩ overhanging.text) = .error 2 := by
    decide +kernel
  exact ⟨_, heval.1, fun t => by rw [heval.2]; exact nofun⟩

end ReplSend
