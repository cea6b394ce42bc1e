import Mathlib.Logic.ExistsUnique
import ReplSend.Proofs.Locate.Nesting

/-!
# Stepping through a text

Sending the unindented statement at the cursor and moving on to the next statement, again and
again (`Steps`), covers a text: the run ends, its blocks come one after the other, and every code
line is in exactly one of them (`exists_steps_covering`). The invariant of the run is that the
cursor stands at a statement that nothing above belongs to (`Fresh`).
-/

namespace ReplSend

/-- The block ends above the first line and before the first character of the other. -/
def Block.Before (b c : Block) : Prop := b.lastLine < c.firstLine ∧ b.stop < c.start

namespace Outline

variable {o : Outline} {e q p i j : Nat}

/-- The blocks that stepping takes from an offset on: the unindented statement there, then those
from the next statement on, until the end of the text. -/
inductive Steps (o : Outline) : Nat → List Block → Prop where
  | done : Steps o o.size []
  | step {p : Nat} {blk : Block} {blks : List Block} : p ≠ o.size →
      o.topStatement (o.lineAt p) = .ok blk → Steps o (o.nextStatementStart blk) blks →
      Steps o p (blk :: blks)

theorem Steps.unique {blks blks' : List Block} (h : o.Steps p blks) (h' : o.Steps p blks') :
    blks = blks' := by
  induction h generalizing blks' with
  | done =>
    cases h' with
    | done => rfl
    | step hp => exact absurd rfl hp
  | step hp hb _ ih =>
    cases h' with
    | done => exact absurd rfl hp
    | step _ hb' hrest =>
      obtain rfl := Except.ok.inj (hb.symm.trans hb')
      rw [ih hrest]

/-! ## Fresh statements -/

/-- An unindented statement that goes on with nothing above it. -/
structure Fresh (o : Outline) (q : Nat) : Prop where
  start : o.isStatementStart q = true
  margin : o.indent q = 0
  settled : o.climb q = .ok none

theorem decoratorAbove_eq_none (h : ∀ j, o.previousStatement i = some j →
    ¬ (o.kind j = .decorator ∧ o.indent j = o.indent i)) : o.decoratorAbove i = none := by
  rw [decoratorAbove, topDecorator]
  split
  · rfl
  · rename_i j hj
    rw [if_neg (h j hj)]

theorem climb_eq_none (hk : o.kind i ≠ .clause) (hd : o.decoratorAbove i = none) :
    o.climb i = .ok none := by
  unfold climb
  split
  · rename_i hc
    exact absurd hc hk
  · rw [hd]
  · rw [hd]
  · rfl

/-- A fresh statement is located from its own line and from the blank lines above it. -/
theorem topStatement_of_fresh (hq : o.Fresh q) (hi : o.nextCode i = some q) (he : o.Ends q e) :
    o.topStatement i = .ok (o.block .topStatement q e) := by
  refine topStatement_eq_ok.2 ⟨q, q, q, e, hi, resolveStart_of_settled hq.start hq.settled, ?_,
    he, rfl⟩
  rw [topStartFrom, if_pos hq.margin]

/-- The first code line of a text is fresh, unless it is indented or a clause. -/
theorem WellFormed.fresh_of_first (h : o.WellFormed) (hq : o.nextCode 0 = some q)
    (hm : o.indent q = 0) (hk : o.kind q ≠ .clause) : o.Fresh q := by
  obtain ⟨-, -, hnone⟩ := nextCode_eq_some.1 hq
  refine ⟨h.start_of_nextCode h.first hq, hm, climb_eq_none hk (decoratorAbove_eq_none ?_)⟩
  intro j hj
  obtain ⟨k, hk', -⟩ := Option.map_eq_some_iff.1 hj
  obtain ⟨hkq, hcode, -⟩ := lastBefore_eq_some.1 hk'
  rw [show (o.row k).isCode = false from hnone k (Nat.zero_le k) hkq] at hcode
  cases hcode

/-- What follows an unindented statement is fresh. -/
theorem WellFormed.fresh_next (h : o.WellFormed) (hq : o.isStatementStart q = true)
    (hm : o.indent q = 0) (he : o.Ends q e) (hj : o.nextCode (e + 1) = some j) : o.Fresh j := by
  obtain ⟨c, hqc, hc, rfl⟩ := he
  obtain ⟨hcs, -, hind⟩ := h.parts_lower hqc hq
  rw [hm] at hind
  obtain ⟨hcj, hcode, hnone⟩ := nextCode_eq_some.1 hj
  have hjs := h.start_of_nextCode (not_continues_after_blockStop hcs) hj
  have hce := o.le_blockStop_self c
  have hbetween : ∀ k, c < k → k < j → o.isStatementStart k = true → o.indent c < o.indent k := by
    intro k hck hkj hk
    rcases Nat.lt_or_ge (o.blockStop c) k with hlt | hge
    · exact absurd hk (not_start_of_not_isCode (hnone k hlt hkj))
    · exact indent_lt_of_le_blockStop hk hck hge
  have hmargin : o.indent j = 0 := by
    rcases Nat.eq_zero_or_pos (o.indent j) with h0 | hpos
    · exact h0
    · have : j ≤ o.blockStop c := by
        refine h.le_blockStop hcs hcode (by omega) fun k hck hkj hk => ?_
        rcases Nat.eq_or_lt_of_le hkj with rfl | hlt
        · omega
        · exact hbetween k hck hlt hk
      omega
  have hsib : o.Sibling c j := ⟨by omega, hcs, hjs, by omega, hbetween⟩
  -- The last part has no next one, so `j` is no clause and `c` no decorator.
  have hpart : ¬ (o.kind j = .clause ∨ o.kind c = .decorator) := by
    intro hor
    rw [(h.nextPart_eq_some hcs).2 ⟨hsib, hor⟩] at hc
    cases hc
  refine ⟨hjs, hmargin, climb_eq_none (fun hk => hpart (.inl hk)) (decoratorAbove_eq_none ?_)⟩
  rintro k hk ⟨hdec, hindk⟩
  obtain ⟨hks, hkj, hafter⟩ := h.of_previousStatement hk
  rcases Nat.lt_trichotomy k c with hlt | rfl | hgt
  · rw [hafter c hlt (by omega)] at hcs
    cases hcs
  · exact hpart (.inr hdec)
  · have := hbetween k hgt hkj hks
    omega

/-! ## The run -/

/-- The blocks come one after the other and hold every code line from `q` on once. -/
structure Covers (o : Outline) (q : Nat) (blks : List Block) : Prop where
  ordered : blks.Pairwise Block.Before
  below : ∀ blk ∈ blks, ∃ s e, q ≤ s ∧ s < o.count ∧ blk = o.block .topStatement s e
  once : ∀ i, q ≤ i → o.isCode i = true → ∃! blk, blk ∈ blks ∧ blk.HasLine i

theorem covers_nil (o : Outline) : o.Covers o.count [] := by
  refine ⟨.nil, nofun, fun i hi hcode => ?_⟩
  have := lt_count_of_isCode hcode
  omega

/-- One more block on top, with no code line between it and the others. -/
theorem WellFormed.covers_cons (h : o.WellFormed) {blks : List Block} (hqe : q ≤ e)
    (hec : e < o.count) (hej : e < j) (hgap : ∀ k, e < k → k < j → o.isCode k = false)
    (hc : o.Covers j blks) : o.Covers q (o.block .topStatement q e :: blks) := by
  constructor
  · refine List.pairwise_cons.2 ⟨fun blk hb => ?_, hc.ordered⟩
    obtain ⟨s, e', hjs, hsc, rfl⟩ := hc.below blk hb
    refine ⟨?_, h.ascending e s (by omega) hsc⟩
    simp only [block]
    omega
  · intro blk hb
    rcases List.mem_cons.1 hb with rfl | hb
    · exact ⟨q, e, Nat.le_refl q, by omega, rfl⟩
    · obtain ⟨s, e', hjs, hsc, rfl⟩ := hc.below blk hb
      exact ⟨s, e', by omega, hsc, rfl⟩
  · intro i hqi hi
    rcases Nat.lt_or_ge e i with hlt | hge
    · have hji : j ≤ i := by
        rcases Nat.lt_or_ge i j with hij | hji
        · rw [hgap i hlt hij] at hi
          cases hi
        · exact hji
      obtain ⟨blk, ⟨hb, hline⟩, huniq⟩ := hc.once i hji hi
      refine ⟨blk, ⟨List.mem_cons_of_mem _ hb, hline⟩, ?_⟩
      rintro blk' ⟨hb', hline'⟩
      rcases List.mem_cons.1 hb' with rfl | hb'
      · have := (hasLine_block.1 hline').2
        omega
      · exact huniq blk' ⟨hb', hline'⟩
    · refine ⟨_, ⟨List.mem_cons_self, hasLine_block.2 ⟨hqi, hge⟩⟩, ?_⟩
      rintro blk' ⟨hb', hline'⟩
      rcases List.mem_cons.1 hb' with rfl | hb'
      · rfl
      · obtain ⟨s, e', hjs, -, rfl⟩ := hc.below blk' hb'
        have := (hasLine_block.1 hline').1
        omega

/-- From a fresh statement on, stepping takes every code line once. -/
theorem WellFormed.exists_steps (h : o.WellFormed) (hq : o.Fresh q) (hp : p ≠ o.size)
    (hnext : o.nextCode (o.lineAt p) = some q) : ∃ blks, o.Steps p blks ∧ o.Covers q blks := by
  generalize hn : o.count - q = n
  induction n using Nat.strongRecOn generalizing p q with
  | ind n ih =>
    obtain ⟨e, -, he⟩ := o.exists_statementEnd q
    have hblk := topStatement_of_fresh hq hnext he
    have hqe := Ends.le h hq.start he
    have hec := lt_count_of_isCode (Ends.isCode h hq.start he)
    cases hj : o.nextCode (e + 1) with
    | none =>
      have hoff : o.nextStatementStart (o.block .topStatement q e) = o.size := by
        simp [nextStatementStart, block, hj]
      exact ⟨_, .step hp hblk (by rw [hoff]; exact .done),
        h.covers_cons hqe hec hec (fun k => firstFrom_eq_none.1 hj k) o.covers_nil⟩
    | some j =>
      obtain ⟨hej, hjcode, hgap⟩ := nextCode_eq_some.1 hj
      have hfresh := h.fresh_next hq.start hq.margin he hj
      have hjc := lt_count_of_isCode hjcode
      have hoff : o.nextStatementStart (o.block .topStatement q e) = o.lineStart j := by
        simp [nextStatementStart, block, hj]
      have hend : o.lineStart j ≠ o.size := Nat.ne_of_lt (h.lineStart_lt_size hfresh.start)
      have hline : o.nextCode (o.lineAt (o.lineStart j)) = some j := by
        rw [h.lineAt_lineStart hjc]
        exact nextCode_self hjcode
      obtain ⟨blks, hsteps, hcovers⟩ := ih (o.count - j) (by omega) hfresh hend hline rfl
      exact ⟨_, .step hp hblk (by rw [hoff]; exact hsteps),
        h.covers_cons hqe hec hej hgap hcovers⟩

/-- Stepping through a text whose first code line is unindented and no clause: the run from the
start ends, its blocks come one after the other, and each code line is in exactly one of them. -/
theorem exists_steps_covering (t : Text) {q : Nat} (hq : (ofText t).nextCode 0 = some q)
    (hm : (ofText t).indent q = 0) (hk : (ofText t).kind q ≠ .clause) :
    ∃ blks, (ofText t).Steps 0 blks ∧ blks.Pairwise Block.Before ∧
      ∀ i, (ofText t).isCode i = true → ∃! blk, blk ∈ blks ∧ blk.HasLine i := by
  have h := wellFormed_ofText t
  have hfresh := h.fresh_of_first hq hm hk
  have hqc := lt_count_of_start hfresh.start
  have hzero : (ofText t).lineAt (0 : Nat) = 0 := by
    have := h.lineAt_lineStart (i := 0) (by omega)
    rwa [h.origin] at this
  have hsize := h.lineStart_lt_size hfresh.start
  obtain ⟨blks, hsteps, hcovers⟩ := h.exists_steps hfresh (p := 0) (by omega)
    (by rw [hzero]; exact hq)
  refine ⟨blks, hsteps, hcovers.ordered, fun i hi => hcovers.once i ?_ hi⟩
  rcases Nat.lt_or_ge i q with hlt | hge
  · rw [(nextCode_eq_some.1 hq).2.2 i (Nat.zero_le i) hlt] at hi
    cases hi
  · exact hge

theorem exists_steps_covering_branches :
    ∃ blks, (ofText "if x:\n  a\n\nelse:\n  b\n# c\n@d\ndef f(): pass").Steps 0 blks ∧
      blks.Pairwise Block.Before ∧
      ∀ i, (ofText "if x:\n  a\n\nelse:\n  b\n# c\n@d\ndef f(): pass").isCode i = true →
        ∃! blk, blk ∈ blks ∧ blk.HasLine i :=
  exists_steps_covering _ (q := 0) (by decide +kernel) (by decide +kernel) (by decide +kernel)

end Outline

end ReplSend
