import ReplSend.Proofs.Locate.Statement

/-!
# Statements are nested

The statements and the unindented statements of a text, located from any cursor, form a laminar
family (`Laminar`): each holds the code line that the cursor stands for, any two statements are
disjoint or one lies within the other, a statement lies within the unindented statement of the
same cursor, and locating again from the start of a statement finds it again.
-/

namespace ReplSend

namespace Block

/-- The block holds the line, counted from zero. -/
def HasLine (b : Block) (i : Nat) : Prop := b.firstLine ≤ i + 1 ∧ i + 1 ≤ b.lastLine

/-- The blocks have no line in common. -/
def Disjoint (b c : Block) : Prop := ∀ i, ¬ (b.HasLine i ∧ c.HasLine i)

/-- Every line of the block is a line of the other. -/
def Within (b c : Block) : Prop := ∀ i, b.HasLine i → c.HasLine i

end Block

namespace Outline

variable {o : Outline} {a b c e r s i j : Nat}

theorem hasLine_block {kind : BlockKind} : (o.block kind s e).HasLine i ↔ s ≤ i ∧ i ≤ e := by
  simp only [block, Block.HasLine]
  omega

/-! ## What lies between the start and the end -/

theorem WellFormed.parts_lower (h : o.WellFormed) (hab : o.Parts a b)
    (ha : o.isStatementStart a = true) :
    o.isStatementStart b = true ∧ a ≤ b ∧ o.indent b = o.indent a := by
  induction hab with
  | refl => exact ⟨ha, Nat.le_refl a, rfl⟩
  | tail _ hstep ih =>
    obtain ⟨h1, h2, h3⟩ := ih
    have hsib := ((h.nextPart_eq_some h1).1 hstep).1
    have := hsib.lt
    exact ⟨hsib.lower, by omega, by rw [hsib.indent_eq, h3]⟩

/-- From a statement down to the end of one of its parts nothing is less indented than its first
line, and what is equally indented is one of its parts. -/
theorem WellFormed.indent_of_parts (h : o.WellFormed) (hs : o.isStatementStart s = true)
    (hsc : o.Parts s c) (hi : o.isStatementStart i = true) (hsi : s ≤ i)
    (hic : i ≤ o.blockStop c) : o.indent s < o.indent i ∨ o.Parts s i := by
  induction hsc using Relation.ReflTransGen.head_induction_on with
  | refl =>
    rcases Nat.eq_or_lt_of_le hsi with rfl | hlt
    · exact .inr .refl
    · exact .inl (indent_lt_of_le_blockStop hi hlt hic)
  | @head s b hsb hbc ih =>
    have hsib := ((h.nextPart_eq_some hs).1 hsb).1
    rcases Nat.eq_or_lt_of_le hsi with rfl | hlt
    · exact .inr .refl
    rcases Nat.lt_or_ge i b with hib | hbi
    · exact .inl (hsib.deeper i hlt hib hi)
    · rcases ih hsib.lower hbi with hlt' | hp
      · exact .inl (by rw [← hsib.indent_eq]; exact hlt')
      · exact .inr (.head hsb hp)

theorem WellFormed.indent_of_ends (h : o.WellFormed) (hs : o.isStatementStart s = true)
    (he : o.Ends s e) (hi : o.isStatementStart i = true) (hsi : s ≤ i) (hie : i ≤ e) :
    o.indent s < o.indent i ∨ o.Parts s i := by
  obtain ⟨c, hsc, -, rfl⟩ := he
  exact h.indent_of_parts hs hsc hi hsi hie

/-- A part ends within the whole. -/
theorem WellFormed.blockStop_le_of_parts (h : o.WellFormed) (hab : o.Parts a b)
    (ha : o.isStatementStart a = true) : o.blockStop a ≤ o.blockStop b := by
  rcases Relation.ReflTransGen.cases_head hab with rfl | ⟨d, had, hdb⟩
  · exact Nat.le_refl _
  · have hsib := ((h.nextPart_eq_some ha).1 had).1
    have h1 := blockStop_lt hsib.lower hsib.lt (Nat.le_of_eq hsib.indent_eq)
    have h2 := (h.parts_lower hdb hsib.lower).2.1
    have h3 := o.le_blockStop_self b
    omega

theorem Ends.le (h : o.WellFormed) (hs : o.isStatementStart s = true) (he : o.Ends s e) :
    s ≤ e := by
  obtain ⟨c, hsc, -, rfl⟩ := he
  have := h.blockStop_le_of_parts hsc hs
  have := o.le_blockStop_self s
  omega

theorem Ends.isCode (h : o.WellFormed) (hs : o.isStatementStart s = true) (he : o.Ends s e) :
    o.isCode e = true := by
  obtain ⟨c, hsc, -, rfl⟩ := he
  exact isCode_blockStop (h.parts_lower hsc hs).1

/-- The statement that a code line resolves to holds that line. -/
theorem WellFormed.le_of_resolveStart (h : o.WellFormed) (hi : o.isCode i = true)
    (hs : o.resolveStart i = .ok s) (he : o.Ends s e) : i ≤ e := by
  obtain ⟨-, hparts, -⟩ := h.parts_of_resolveStart hi hs
  have hstart := h.isStatementStart_statementStart hi
  obtain ⟨c, hc, -, rfl⟩ := hparts.ends he
  calc
    i ≤ o.statementStop (o.statementStart i) := o.le_statementStop_statementStart i
    _ ≤ o.blockStop (o.statementStart i) := o.statementStop_le_blockStop _
    _ ≤ o.blockStop c := h.blockStop_le_of_parts hc hstart

/-- A statement that starts within another ends within it. -/
theorem WellFormed.ends_le (h : o.WellFormed) (ha : o.isStatementStart a = true)
    (hb : o.isStatementStart b = true) {e' : Nat} (he : o.Ends a e) (he' : o.Ends b e')
    (hab : a ≤ b) (hbe : b ≤ e) : e' ≤ e := by
  rcases h.indent_of_ends ha he hb hab hbe with hdeep | hparts
  · have hcode := Ends.isCode h hb he'
    obtain ⟨c, hac, hc, rfl⟩ := he
    obtain ⟨hcs, hale, hind⟩ := h.parts_lower hac ha
    rcases Nat.lt_or_ge e' c with hlt | hge
    · have := o.le_blockStop_self c
      omega
    refine h.le_blockStop hcs hcode hge fun k hck hke hk => ?_
    rcases Nat.lt_or_ge b k with hbk | hkb
    · -- `k` lies in the statement at `b`, which is deeper than `a` throughout.
      rcases h.indent_of_ends hb he' hk (by omega) hke with hlt | hp
      · omega
      · have := (h.parts_lower hp hb).2.2
        omega
    · exact indent_lt_of_le_blockStop hk hck (by omega)
  · exact Nat.le_of_eq (he'.unique (hparts.ends he))

/-! ## Unindented statements -/

theorem indent_of_topStartFrom (ht : o.topStartFrom s = .ok r) : o.indent r = 0 := by
  fun_induction topStartFrom o s with
  | case1 s hs =>
    cases ht
    exact hs
  | case2 => cases ht
  | case3 => cases ht
  | case4 s hs j hp t hr ih => exact ih ht

theorem WellFormed.start_of_topStartFrom (h : o.WellFormed) (hs : o.isStatementStart s = true)
    (ht : o.topStartFrom s = .ok r) : o.isStatementStart r = true := by
  fun_induction topStartFrom o s with
  | case1 =>
    cases ht
    exact hs
  | case2 => cases ht
  | case3 => cases ht
  | case4 s hs' j hp t hr ih =>
    exact ih (h.parts_of_resolveStart (lastBefore_eq_some.1 hp).2.1 hr).1 ht

/-- The climb to the left margin ends at a statement that reaches down to where it began. -/
theorem WellFormed.le_of_topStartFrom (h : o.WellFormed) (hs : o.isStatementStart s = true)
    (ht : o.topStartFrom s = .ok r) (he : o.Ends r e) : s ≤ e := by
  have hr := h.start_of_topStartFrom hs ht
  fun_induction topStartFrom o s with
  | case1 =>
    cases ht
    exact Ends.le h hs he
  | case2 => cases ht
  | case3 => cases ht
  | case4 s hs' j hp t hres ih =>
    obtain ⟨hjs, hj, hnone⟩ := lastBefore_eq_some.1 hp
    have ht' := (h.parts_of_resolveStart hj hres).1
    have hte := ih ht' ht
    have hrt := topStartFrom_le ht
    -- The statement above `s` ends within the unindented one.
    have hje : j ≤ e := by
      obtain ⟨e', -, he'⟩ := o.exists_statementEnd t
      have h1 := h.le_of_resolveStart hj hres he'
      have h2 := h.ends_le hr ht' he he' hrt hte
      omega
    have hzero := indent_of_topStartFrom ht
    obtain ⟨c, hrc, hc, rfl⟩ := he
    obtain ⟨hcs, -, hind⟩ := h.parts_lower hrc hr
    rcases Nat.lt_or_ge s c with hlt | hge
    · have := o.le_blockStop_self c
      omega
    refine h.le_blockStop hcs (isCode_of_start hs) hge fun k hck hks hk => ?_
    rcases Nat.eq_or_lt_of_le hks with rfl | hlt
    · omega
    · have hkj : k ≤ j := by
        rcases Nat.lt_or_ge j k with hjk | hkj
        · exact absurd hk (not_start_of_not_isCode (hnone k hjk hlt))
        · exact hkj
      exact indent_lt_of_le_blockStop hk hck (by omega)

/-! ## Located blocks -/

theorem codeLine_eq_ok : o.codeLine i = .ok j ↔ o.nextCode i = some j := by
  unfold codeLine
  cases o.nextCode i <;> simp

theorem bind_eq_ok {α β : Type} {x : Except LocateFault α} {f : α → Except LocateFault β} {y : β} :
    (x >>= f) = .ok y ↔ ∃ u, x = .ok u ∧ f u = .ok y := by
  cases x <;> simp [bind, Except.bind]

theorem bind_eq_error {α β : Type} {x : Except LocateFault α} {f : α → Except LocateFault β}
    {y : LocateFault} : (x >>= f) = .error y ↔ x = .error y ∨ ∃ u, x = .ok u ∧ f u = .error y := by
  cases x <;> simp [bind, Except.bind]

/-- What it takes to locate a statement. -/
theorem statement_eq_ok {blk : Block} :
    o.statement i = .ok blk ↔ ∃ j s e, o.nextCode i = some j ∧ o.resolveStart j = .ok s ∧
      o.Ends s e ∧ blk = o.block .statement s e := by
  simp only [statement, bind_eq_ok, codeLine_eq_ok, statementEnd_eq_ok]
  constructor
  · rintro ⟨j, hj, s, hs, e, he, hblk⟩
    cases hblk
    exact ⟨j, s, e, hj, hs, he, rfl⟩
  · rintro ⟨j, s, e, hj, hs, he, rfl⟩
    exact ⟨j, hj, s, hs, e, he, rfl⟩

theorem topBounds_eq_ok : o.topBounds j = .ok (r, e) ↔
    ∃ s, o.resolveStart j = .ok s ∧ o.topStartFrom s = .ok r ∧ o.Ends r e := by
  simp only [topBounds, bind_eq_ok, statementEnd_eq_ok]
  constructor
  · rintro ⟨s, hs, r', hr, e', he, hre⟩
    cases hre
    exact ⟨s, hs, hr, he⟩
  · rintro ⟨s, hs, hr, he⟩
    exact ⟨s, hs, r, hr, e, he, rfl⟩

/-- What it takes to locate an unindented statement. -/
theorem topStatement_eq_ok {blk : Block} :
    o.topStatement i = .ok blk ↔ ∃ j s r e, o.nextCode i = some j ∧ o.resolveStart j = .ok s ∧
      o.topStartFrom s = .ok r ∧ o.Ends r e ∧ blk = o.block .topStatement r e := by
  simp only [topStatement, bind_eq_ok, codeLine_eq_ok]
  constructor
  · rintro ⟨j, hj, ⟨r, e⟩, hre, hblk⟩
    obtain ⟨s, hs, hr, he⟩ := topBounds_eq_ok.1 hre
    cases hblk
    exact ⟨j, s, r, e, hj, hs, hr, he, rfl⟩
  · rintro ⟨j, s, r, e, hj, hs, hr, he, rfl⟩
    exact ⟨j, hj, (r, e), topBounds_eq_ok.2 ⟨s, hs, hr, he⟩, rfl⟩

/-- Why an unindented statement cannot be located. -/
theorem topStatement_eq_error {f : LocateFault} : o.topStatement i = .error f ↔
    o.codeLine i = .error f ∨ ∃ j, o.codeLine i = .ok j ∧ o.topBounds j = .error f := by
  simp [topStatement, bind_eq_error, pure, Except.pure]

/-- A located statement: its bounds and the code line that it was located from. -/
structure Located (o : Outline) (i j s e : Nat) : Prop where
  next : o.nextCode i = some j
  start : o.isStatementStart s = true
  settled : o.climb s = .ok none
  ends : o.Ends s e
  le : s ≤ j
  ge : j ≤ e

/-- An unindented statement: its bounds, and those of the statement that it was located around. -/
structure LocatedTop (o : Outline) (i j s r e : Nat) : Prop where
  next : o.nextCode i = some j
  resolved : o.resolveStart j = .ok s
  start : o.isStatementStart r = true
  margin : o.indent r = 0
  ends : o.Ends r e
  le : r ≤ s
  ge : s ≤ e

theorem WellFormed.located_of_statement (h : o.WellFormed) {blk : Block}
    (hb : o.statement i = .ok blk) :
    ∃ j s e, o.Located i j s e ∧ o.resolveStart j = .ok s ∧ blk = o.block .statement s e := by
  obtain ⟨j, s, e, hj, hs, he, rfl⟩ := statement_eq_ok.1 hb
  have hcode := (nextCode_eq_some.1 hj).2.1
  obtain ⟨hstart, -, hsettled⟩ := h.parts_of_resolveStart hcode hs
  exact ⟨j, s, e, ⟨hj, hstart, hsettled, he, resolveStart_le hs, h.le_of_resolveStart hcode hs he⟩,
    hs, rfl⟩

theorem WellFormed.located_of_topStatement (h : o.WellFormed) {blk : Block}
    (hb : o.topStatement i = .ok blk) :
    ∃ j s r e, o.LocatedTop i j s r e ∧ blk = o.block .topStatement r e := by
  obtain ⟨j, s, r, e, hj, hs, hr, he, rfl⟩ := topStatement_eq_ok.1 hb
  have hstart := (h.parts_of_resolveStart (nextCode_eq_some.1 hj).2.1 hs).1
  exact ⟨j, s, r, e, ⟨hj, hs, h.start_of_topStartFrom hstart hr, indent_of_topStartFrom hr, he,
    topStartFrom_le hr, h.le_of_topStartFrom hstart hr he⟩, rfl⟩

/-- A statement located within an unindented one ends within it. -/
theorem WellFormed.ends_le_top (h : o.WellFormed) {e' : Nat} (ht : o.LocatedTop i j s r e)
    (he' : o.Ends s e') : e' ≤ e :=
  have hcode := (nextCode_eq_some.1 ht.next).2.1
  h.ends_le ht.start (h.parts_of_resolveStart hcode ht.resolved).1 ht.ends he' ht.le ht.ge

/-- The unindented statement holds the code line that it was located from. -/
theorem WellFormed.hasLine_top (h : o.WellFormed) {kind : BlockKind}
    (ht : o.LocatedTop i j s r e) : (o.block kind r e).HasLine j := by
  have hcode := (nextCode_eq_some.1 ht.next).2.1
  obtain ⟨e', -, he'⟩ := o.exists_statementEnd s
  have h1 := h.le_of_resolveStart hcode ht.resolved he'
  have h2 := h.ends_le_top ht he'
  have h3 := resolveStart_le ht.resolved
  have h4 := ht.le
  exact hasLine_block.2 ⟨by omega, by omega⟩

theorem WellFormed.disjoint_or_within (h : o.WellFormed) (ha : o.isStatementStart a = true)
    (hb : o.isStatementStart b = true) {e' : Nat} (he : o.Ends a e) (he' : o.Ends b e')
    (hab : a ≤ b) (kind : BlockKind) :
    (o.block kind a e).Disjoint (o.block kind b e') ∨
      (o.block kind b e').Within (o.block kind a e) := by
  rcases Nat.lt_or_ge e b with hlt | hge
  · refine .inl fun i => ?_
    simp only [hasLine_block]
    omega
  · have := h.ends_le ha hb he he' hab hge
    refine .inr fun i => ?_
    simp only [hasLine_block]
    omega

/-- Of two unindented statements the lower one is a part of the upper one, or below it. -/
theorem WellFormed.same_end_of_le (h : o.WellFormed) {i' j' s' r' e' : Nat}
    (ht : o.LocatedTop i j s r e) (ht' : o.LocatedTop i' j' s' r' e') (hle : r ≤ r')
    (hre : r' ≤ e) : e = e' := by
  rcases h.indent_of_ends ht.start ht.ends ht'.start hle hre with hlt | hp
  · have := ht.margin
    have := ht'.margin
    omega
  · exact (hp.ends ht.ends).unique ht'.ends

/-- The statements and the unindented statements, located from any cursor, are nested around the
cursor. -/
structure Laminar (o : Outline) : Prop where
  /-- A statement holds the code line that the cursor stands for. -/
  statement_holds : ∀ (p : Int) (blk : Block), o.statement (o.lineAt p) = .ok blk →
    ∃ j, o.nextCode (o.lineAt p) = some j ∧ blk.HasLine j
  /-- So does an unindented statement. -/
  topStatement_holds : ∀ (p : Int) (blk : Block), o.topStatement (o.lineAt p) = .ok blk →
    ∃ j, o.nextCode (o.lineAt p) = some j ∧ blk.HasLine j
  nested : ∀ (p q : Int) (blk blk' : Block), o.statement (o.lineAt p) = .ok blk →
    o.statement (o.lineAt q) = .ok blk' →
    blk.Disjoint blk' ∨ blk.Within blk' ∨ blk'.Within blk
  within_topStatement : ∀ (p : Int) (blk top : Block), o.statement (o.lineAt p) = .ok blk →
    o.topStatement (o.lineAt p) = .ok top → blk.Within top
  unindented : ∀ (p : Int) (top : Block), o.topStatement (o.lineAt p) = .ok top →
    o.indent (top.firstLine - 1) = 0
  /-- Unindented statements with a line in common end together. -/
  same_end : ∀ (p q : Int) (top top' : Block), o.topStatement (o.lineAt p) = .ok top →
    o.topStatement (o.lineAt q) = .ok top' → ¬ top.Disjoint top' → top.lastLine = top'.lastLine
  /-- A statement is found again from its own start. -/
  again : ∀ (p : Int) (blk : Block), o.statement (o.lineAt p) = .ok blk →
    o.statement (o.lineAt blk.start) = .ok blk

theorem WellFormed.laminar (h : o.WellFormed) : o.Laminar := by
  constructor
  · intro p blk hb
    obtain ⟨j, s, e, hl, -, rfl⟩ := h.located_of_statement hb
    exact ⟨j, hl.next, hasLine_block.2 ⟨hl.le, hl.ge⟩⟩
  · intro p blk hb
    obtain ⟨j, s, r, e, hl, rfl⟩ := h.located_of_topStatement hb
    exact ⟨j, hl.next, h.hasLine_top hl⟩
  · intro p q blk blk' hb hb'
    obtain ⟨j, s, e, hl, -, rfl⟩ := h.located_of_statement hb
    obtain ⟨j', s', e', hl', -, rfl⟩ := h.located_of_statement hb'
    rcases Nat.le_total s s' with hle | hle
    · rcases h.disjoint_or_within hl.start hl'.start hl.ends hl'.ends hle .statement with hd | hw
      · exact .inl hd
      · exact .inr (.inr hw)
    · rcases h.disjoint_or_within hl'.start hl.start hl'.ends hl.ends hle .statement with hd | hw
      · exact .inl fun i hi => hd i hi.symm
      · exact .inr (.inl hw)
  · intro p blk top hb ht
    obtain ⟨j, s, e, hl, hs, rfl⟩ := h.located_of_statement hb
    obtain ⟨j', s', r, e', hl', rfl⟩ := h.located_of_topStatement ht
    obtain rfl : j = j' := Option.some.inj (hl.next.symm.trans hl'.next)
    obtain rfl : s = s' := Except.ok.inj (hs.symm.trans hl'.resolved)
    have h1 := h.ends_le_top hl' hl.ends
    have h2 := hl'.le
    intro i
    simp only [hasLine_block]
    omega
  · intro p top ht
    obtain ⟨j, s, r, e, hl, rfl⟩ := h.located_of_topStatement ht
    exact hl.margin
  · intro p q top top' ht ht' hcommon
    obtain ⟨j, s, r, e, hl, rfl⟩ := h.located_of_topStatement ht
    obtain ⟨j', s', r', e', hl', rfl⟩ := h.located_of_topStatement ht'
    obtain ⟨i, hi, hi'⟩ : ∃ i, (o.block .topStatement r e).HasLine i ∧
        (o.block .topStatement r' e').HasLine i := by
      simpa [Block.Disjoint] using hcommon
    rw [hasLine_block] at hi hi'
    have hee : e = e' := by
      rcases Nat.le_total r r' with hle | hle
      · exact h.same_end_of_le hl hl' hle (by omega)
      · exact (h.same_end_of_le hl' hl hle (by omega)).symm
    simp [block, hee]
  · intro p blk hb
    obtain ⟨j, s, e, hl, -, rfl⟩ := h.located_of_statement hb
    have hline : o.lineAt (o.block .statement s e).start = s :=
      h.lineAt_lineStart (lt_count_of_start hl.start)
    rw [hline]
    exact statement_eq_ok.2 ⟨s, s, e, nextCode_self (isCode_of_start hl.start),
      resolveStart_of_settled hl.start hl.settled, hl.ends, rfl⟩

/-- The statements of every text are nested. -/
theorem laminar_ofText (t : Text) : (ofText t).Laminar := (wellFormed_ofText t).laminar

/-- From the clause of a conditional the whole of it is located. -/
example : ((ofText "if x:\n  a\nelse:\n  b\nc").statement 2).toOption =
    some ⟨.statement, 0, 19, 1, 4⟩ := by decide +kernel

end Outline

end ReplSend
