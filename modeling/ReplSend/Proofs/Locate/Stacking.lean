import ReplSend.Proofs.Locate.Definition
import ReplSend.Proofs.Text.Lines

/-!
# One text above another

If the upper of two texts leaves nothing open, the line table of both together is the table of the
one stacked on that of the other (`ofText_append`). If besides nothing in the lower text goes on
with the upper one (`Edge`), no search from a line of the lower text looks past the edge: what is
located there, and why nothing is, does not depend on the text above (`locate_append`).
-/

namespace ReplSend

/-- The row of a line that stands some offsets further on. -/
def Row.moved (r : Row) (offsets : Nat) : Row := { r with start := offsets + r.start }

/-- The block some offsets and lines further on. -/
def Block.moved (b : Block) (offsets lines : Nat) : Block where
  kind := b.kind
  start := offsets + b.start
  stop := offsets + b.stop
  firstLine := lines + b.firstLine
  lastLine := lines + b.lastLine

/-- The fault of the same kind some lines further on. -/
def LocateFault.moved (lines : Nat) : LocateFault → LocateFault
  | noOpener line => noOpener (lines + line)
  | unenclosed line => unenclosed (lines + line)
  | stuck line => stuck (lines + line)
  | unsettled line => unsettled (lines + line)
  | endless line => endless (lines + line)
  | f => f

/-- A search that went astray is told apart from a cursor outside any unit, wherever it is. -/
theorem LocateFault.isOutside_moved (lines : Nat) (f : LocateFault) :
    (f.moved lines).isOutside = f.isOutside := by
  cases f <;> rfl

namespace Outline

/-- The answer to a search some lines further on; what is found is moved by `f`. -/
def displaced {α : Type} (lines : Nat) (f : α → α) (r : Except LocateFault α) :
    Except LocateFault α := (r.map f).mapError (·.moved lines)

@[simp] theorem displaced_ok {α : Type} (lines : Nat) (f : α → α) (a : α) :
    displaced lines f (.ok a) = .ok (f a) := rfl

@[simp] theorem displaced_error {α : Type} (lines : Nat) (f : α → α) (e : LocateFault) :
    displaced lines f (.error e) = .error (e.moved lines) := rfl

/-- Searches one after the other are moved as one. -/
theorem displaced_bind {α β : Type} {lines : Nat} {r : Except LocateFault α} {f : α → α}
    {g : β → β} {k k' : α → Except LocateFault β}
    (hk : ∀ a, r = .ok a → k' (f a) = displaced lines g (k a)) :
    displaced lines f r >>= k' = displaced lines g (r >>= k) := by
  cases r with
  | error e => rfl
  | ok a => exact hk a rfl

/-- The table of two texts, one above the other, with a newline between them. -/
def stack (u o : Outline) : Outline where
  size := u.size + 1 + o.size
  rows := u.rows ++ o.rows.map (·.moved (u.size + 1))

variable {u o : Outline} {p : Row → Bool} {a b e s i j : Nat}

/-! ## The rows -/

@[simp] theorem count_stack : (u.stack o).count = u.count + o.count := by
  simp [stack, count]

theorem row_stack_of_lt (h : i < u.count) : (u.stack o).row i = u.row i := by
  simp only [row, stack, Array.getElem?_append_left (show i < u.rows.size from h)]

theorem row_stack (u : Outline) (h : i < o.count) :
    (u.stack o).row (u.count + i) = (o.row i).moved (u.size + 1) := by
  have h' : i < o.rows.size := h
  simp [row, stack, count, h']

/-- Of a row in the lower table only the offset has changed. -/
theorem of_row_stack {α : Type} {f : Row → α} (hf : ∀ r d, f (r.moved d) = f r) (u o : Outline)
    (i : Nat) : f ((u.stack o).row (u.count + i)) = f (o.row i) := by
  rcases Nat.lt_or_ge i o.count with hi | hi
  · rw [row_stack u hi, hf]
  · rw [row_of_count_le hi, row_of_count_le (by rw [count_stack]; omega)]

@[simp] theorem kind_stack : (u.stack o).kind (u.count + i) = o.kind i :=
  of_row_stack (f := Row.kind) (fun _ _ => rfl) u o i

@[simp] theorem indent_stack : (u.stack o).indent (u.count + i) = o.indent i :=
  of_row_stack (f := Row.indent) (fun _ _ => rfl) u o i

@[simp] theorem continues_stack : (u.stack o).continues (u.count + i) = o.continues i :=
  of_row_stack (f := Row.continues) (fun _ _ => rfl) u o i

@[simp] theorem isCode_stack : (u.stack o).isCode (u.count + i) = o.isCode i :=
  of_row_stack (f := Row.isCode) (fun _ _ => rfl) u o i

@[simp] theorem isStatementStart_stack :
    (u.stack o).isStatementStart (u.count + i) = o.isStatementStart i :=
  of_row_stack (f := Row.isStatementStart) (fun _ _ => rfl) u o i

/-- A block of the lower text, in both texts together. -/
theorem block_stack (kind : BlockKind) (hs : s < o.count) (he : e < o.count) :
    (u.stack o).block kind (u.count + s) (u.count + e) =
      (o.block kind s e).moved (u.size + 1) u.count := by
  simp only [block, Block.moved, lineStart, lineStop, row_stack u hs, row_stack u he, Row.stop,
    Row.moved, Nat.add_assoc]

/-! ## Looking down -/

theorem firstFrom_stack (hp : ∀ r d, p (r.moved d) = p r) :
    (u.stack o).firstFrom p (u.count + i) = (o.firstFrom p i).map (u.count + ·) := by
  cases h : o.firstFrom p i with
  | none =>
    rw [firstFrom_eq_none] at h
    refine firstFrom_eq_none.2 fun k hk hkc => ?_
    obtain ⟨m, rfl⟩ := Nat.exists_eq_add_of_le (show u.count ≤ k by omega)
    rw [count_stack] at hkc
    rw [of_row_stack hp]
    exact h m (by omega) (by omega)
  | some j =>
    obtain ⟨hij, hj, hpj, hnone⟩ := firstFrom_eq_some.1 h
    rw [Option.map_some, firstFrom_eq_some, count_stack]
    refine ⟨by omega, by omega, ?_, fun k hk hkj => ?_⟩
    · rw [of_row_stack hp]
      exact hpj
    · obtain ⟨m, rfl⟩ := Nat.exists_eq_add_of_le (show u.count ≤ k by omega)
      rw [of_row_stack hp]
      exact hnone m (by omega) (by omega)

theorem nextCode_stack : (u.stack o).nextCode (u.count + i) = (o.nextCode i).map (u.count + ·) :=
  firstFrom_stack fun _ _ => rfl

theorem codeLine_stack :
    (u.stack o).codeLine (u.count + i) = displaced u.count (u.count + ·) (o.codeLine i) := by
  unfold codeLine
  rw [nextCode_stack]
  cases o.nextCode i <;> rfl

theorem statementStop_stack :
    (u.stack o).statementStop (u.count + i) = u.count + o.statementStop i := by
  fun_induction statementStop o i with
  | case1 i hi ih =>
    rw [statementStop, if_pos ⟨by rw [count_stack]; omega, by
      rw [Nat.add_assoc, continues_stack]; exact hi.2⟩]
    exact ih
  | case2 i hi =>
    rw [statementStop, if_neg]
    rw [Nat.add_assoc, continues_stack, count_stack]
    exact fun h => hi ⟨by omega, h.2⟩

theorem blockStopFrom_stack {base stop : Nat} :
    (u.stack o).blockStopFrom base (u.count + stop) (u.count + i) =
      u.count + o.blockStopFrom base stop i := by
  fun_induction blockStopFrom o base stop i with
  | case1 stop i hi hs ih =>
    rw [blockStopFrom, if_pos (by rw [count_stack]; omega), isStatementStart_stack, if_pos hs]
    exact ih
  | case2 stop i hi hs hbase =>
    rw [blockStopFrom, if_pos (by rw [count_stack]; omega), isStatementStart_stack, if_neg hs,
      indent_stack, if_pos hbase]
  | case3 stop i hi hs hbase ih =>
    rw [blockStopFrom, if_pos (by rw [count_stack]; omega), isStatementStart_stack, if_neg hs,
      indent_stack, if_neg hbase, statementStop_stack]
    exact ih
  | case4 stop i hi => rw [blockStopFrom, if_neg (by rw [count_stack]; omega)]

theorem blockStop_stack : (u.stack o).blockStop (u.count + i) = u.count + o.blockStop i := by
  rw [blockStop, indent_stack, statementStop_stack, Nat.add_assoc, blockStopFrom_stack, blockStop]

theorem nextSibling_stack :
    (u.stack o).nextSibling (u.count + i) = (o.nextSibling i).map (u.count + ·) := by
  have hfirst := firstFrom_stack (u := u) (o := o) (p := Row.isStatementStart)
    (i := o.blockStop i + 1) fun _ _ => rfl
  rw [nextSibling, nextSibling, blockStop_stack, Nat.add_assoc, hfirst, Option.filter_map]
  simp [Function.comp_def]

theorem nextPart_stack : (u.stack o).nextPart (u.count + i) = (o.nextPart i).map (u.count + ·) := by
  rw [nextPart, nextPart, nextSibling_stack, Option.filter_map]
  simp [Function.comp_def]

theorem Parts.stack (h : o.Parts a b) : (u.stack o).Parts (u.count + a) (u.count + b) := by
  induction h with
  | refl => exact .refl
  | tail _ hstep ih => exact ih.tail (by rw [nextPart_stack, hstep]; rfl)

theorem Ends.stack (h : o.Ends s e) : (u.stack o).Ends (u.count + s) (u.count + e) := by
  obtain ⟨c, hsc, hc, rfl⟩ := h
  exact ⟨u.count + c, hsc.stack, by rw [nextPart_stack, hc]; rfl, blockStop_stack.symm⟩

/-- A statement ends where it ends in the lower text. -/
theorem statementEnd_stack :
    (u.stack o).statementEnd (u.count + s) =
      displaced u.count (u.count + ·) (o.statementEnd s) := by
  obtain ⟨e, h, he⟩ := o.exists_statementEnd s
  rw [h]
  exact statementEnd_eq_ok.2 he.stack

/-! ## Looking up -/

theorem exists_lastBefore (hp : p (o.row i) = true) (hij : i < j) :
    ∃ k, o.lastBefore p j = some k := by
  cases hk : o.lastBefore p j with
  | none =>
    have hnone := lastBefore_eq_none.1 hk i hij
    rw [hp] at hnone
    cases hnone
  | some k => exact ⟨k, rfl⟩

theorem lastBefore_stack (hp : ∀ r d, p (r.moved d) = p r) (h : o.lastBefore p i = some j) :
    (u.stack o).lastBefore p (u.count + i) = some (u.count + j) := by
  obtain ⟨hji, hpj, hnone⟩ := lastBefore_eq_some.1 h
  refine lastBefore_eq_some.2 ⟨by omega, by rw [of_row_stack hp]; exact hpj, fun k hk hki => ?_⟩
  obtain ⟨m, rfl⟩ := Nat.exists_eq_add_of_le (show u.count ≤ k by omega)
  rw [of_row_stack hp]
  exact hnone m (by omega) (by omega)

theorem statementStart_stack (h : o.continues 0 = false) :
    (u.stack o).statementStart (u.count + i) = u.count + o.statementStart i := by
  induction i with
  | zero => exact statementStart_eq_self (by rw [continues_stack]; exact h)
  | succ i ih =>
    rw [← Nat.add_assoc, statementStart, statementStart, Nat.add_assoc, continues_stack]
    split
    · exact ih
    · rfl

theorem statementStart_stack_of_lt (h : i < u.count) :
    (u.stack o).statementStart i = u.statementStart i := by
  induction i with
  | zero => rfl
  | succ i ih =>
    have hcont : (u.stack o).continues (i + 1) = u.continues (i + 1) := by
      rw [continues, row_stack_of_lt h]
      rfl
    rw [statementStart, statementStart, hcont, ih (by omega)]

theorem previousStatement_stack (h : o.continues 0 = false) (hj : o.previousStatement i = some j) :
    (u.stack o).previousStatement (u.count + i) = some (u.count + j) := by
  obtain ⟨m, hm, rfl⟩ := Option.map_eq_some_iff.1 hj
  have hprev := lastBefore_stack (u := u) (p := Row.isCode) (fun _ _ => rfl) hm
  rw [previousStatement, hprev, Option.map_some, statementStart_stack h]

/-- Nothing in the lower table goes on with the upper one: the last statement above is no
decorator, and the first one below is unindented and no clause. -/
structure Edge (u o : Outline) : Prop where
  above : ∀ s, u.previousStatement u.count = some s → u.kind s ≠ .decorator
  margin : ∀ q, o.nextCode 0 = some q → o.indent q = 0
  opens : ∀ q, o.nextCode 0 = some q → o.kind q ≠ .clause

/-- A statement that is found by looking past the edge is no decorator. -/
theorem Edge.kind_ne_decorator (h : u.Edge o) (hi : o.previousStatement i = none)
    (hs : (u.stack o).previousStatement (u.count + i) = some s) :
    (u.stack o).kind s ≠ .decorator := by
  have hnone := lastBefore_eq_none.1 (Option.map_eq_none_iff.1 hi)
  obtain ⟨m, hm, rfl⟩ := Option.map_eq_some_iff.1 hs
  obtain ⟨hmi, hcode, hbetween⟩ := lastBefore_eq_some.1 hm
  have hmu : m < u.count := by
    rcases Nat.lt_or_ge m u.count with hlt | hge
    · exact hlt
    · obtain ⟨k, rfl⟩ := Nat.exists_eq_add_of_le hge
      rw [show ((u.stack o).row (u.count + k)).isCode = o.isCode k from isCode_stack,
        show o.isCode k = false from hnone k (by omega)] at hcode
      cases hcode
  have hlast : u.previousStatement u.count = some (u.statementStart m) := by
    refine Option.map_eq_some_iff.2 ⟨m, lastBefore_eq_some.2 ⟨hmu, ?_, fun k hk hku => ?_⟩, rfl⟩
    · rw [← row_stack_of_lt hmu]
      exact hcode
    · rw [← row_stack_of_lt hku]
      exact hbetween k hk (by omega)
  have hlt : u.statementStart m < u.count := Nat.lt_of_le_of_lt (u.statementStart_le m) hmu
  rw [statementStart_stack_of_lt hmu, kind, row_stack_of_lt hlt]
  exact h.above _ hlast

theorem topDecorator_of_none {column : Nat} {found : Option Nat}
    (h : o.previousStatement i = none) : o.topDecorator column found i = found := by
  rw [topDecorator]
  split
  · rfl
  · rename_i j hj
    rw [h] at hj
    cases hj

theorem topDecorator_of_some {column : Nat} {found : Option Nat}
    (h : o.previousStatement i = some j) :
    o.topDecorator column found i =
      if o.kind j = .decorator ∧ o.indent j = column then o.topDecorator column (some j) j
      else found := by
  rw [topDecorator]
  split
  · rename_i hn
    rw [h] at hn
    cases hn
  · rename_i j' hj
    obtain rfl := Option.some.inj (h.symm.trans hj)
    rfl

/-- Decorators are stacked within the lower text. -/
theorem Edge.topDecorator_stack (h : u.Edge o) (h0 : o.continues 0 = false) (column : Nat)
    (found : Option Nat) :
    (u.stack o).topDecorator column (found.map (u.count + ·)) (u.count + i) =
      (o.topDecorator column found i).map (u.count + ·) := by
  fun_induction topDecorator o column found i with
  | case1 found i hi =>
    cases hs : (u.stack o).previousStatement (u.count + i) with
    | none => exact topDecorator_of_none hs
    | some s =>
      rw [topDecorator_of_some hs]
      exact if_neg fun hdec => h.kind_ne_decorator hi hs hdec.1
  | case2 found i j hj hdec ih =>
    rw [topDecorator_of_some (previousStatement_stack h0 hj), kind_stack, indent_stack,
      if_pos hdec]
    exact ih
  | case3 found i j hj hdec =>
    rw [topDecorator_of_some (previousStatement_stack h0 hj), kind_stack, indent_stack,
      if_neg hdec]

theorem Edge.decoratorAbove_stack (h : u.Edge o) (h0 : o.continues 0 = false) :
    (u.stack o).decoratorAbove (u.count + i) = (o.decoratorAbove i).map (u.count + ·) := by
  rw [decoratorAbove, indent_stack]
  exact h.topDecorator_stack h0 _ none

/-- The first code line below the edge is at or above every other one. -/
theorem WellFormed.exists_first (h : o.WellFormed) (hi : o.isCode i = true) :
    ∃ q, o.nextCode 0 = some q ∧ o.isStatementStart q = true ∧ q ≤ i := by
  cases hq : o.nextCode 0 with
  | none =>
    have hnone := firstFrom_eq_none.1 hq i (Nat.zero_le i) (lt_count_of_isCode hi)
    rw [show (o.row i).isCode = true from hi] at hnone
    cases hnone
  | some q =>
    refine ⟨q, rfl, h.start_of_nextCode h.first hq, ?_⟩
    rcases Nat.lt_or_ge i q with hlt | hge
    · rw [(nextCode_eq_some.1 hq).2.2 i (Nat.zero_le i) hlt] at hi
      cases hi
    · exact hge

/-- A clause goes on with a statement of the lower text, or is found to have no opener there. -/
theorem Edge.previousSibling_stack (h : u.Edge o) (hw : o.WellFormed)
    (hi : o.isStatementStart i = true) (hk : o.kind i = .clause) :
    (u.stack o).previousSibling (u.count + i) = (o.previousSibling i).map (u.count + ·) := by
  obtain ⟨q, hq, hqs, hqi⟩ := hw.exists_first (isCode_of_start hi)
  have hlt : q < i := by
    rcases Nat.eq_or_lt_of_le hqi with rfl | hlt
    · exact absurd hk (h.opens q hq)
    · exact hlt
  -- The search stops at the first code line at the latest, which is unindented.
  have hmargin : (o.row q).indent = 0 := h.margin q hq
  have hstops : ((o.row q).isStatementStart && decide ((o.row q).indent ≤ o.indent i)) = true := by
    rw [show (o.row q).isStatementStart = true from hqs, hmargin]
    rfl
  obtain ⟨j, hj⟩ := exists_lastBefore
    (p := fun r => r.isStatementStart && r.indent ≤ o.indent i) hstops hlt
  have hshift := lastBefore_stack (u := u)
    (p := fun r => r.isStatementStart && r.indent ≤ o.indent i) (fun _ _ => rfl) hj
  rw [previousSibling, previousSibling, indent_stack, hshift, hj, ← Option.map_some,
    Option.filter_map]
  simp [Function.comp_def]

theorem Edge.climb_stack (h : u.Edge o) (hw : o.WellFormed) (hi : o.isStatementStart i = true) :
    (u.stack o).climb (u.count + i) =
      displaced u.count (Option.map (u.count + ·)) (o.climb i) := by
  unfold climb
  rw [kind_stack]
  split
  · rename_i hk
    rw [h.previousSibling_stack hw hi hk]
    cases o.previousSibling i <;> rfl
  · rw [h.decoratorAbove_stack hw.first]
    rfl
  · rw [h.decoratorAbove_stack hw.first]
    rfl
  · rfl

/-- The climb is the same in both texts together, as long as neither limit is met. -/
theorem Edge.settle_stack (h : u.Edge o) (hw : o.WellFormed) {line limit limit' : Nat}
    (hi : o.isStatementStart i = true) (hl : i < limit) (hl' : u.count + i < limit') :
    (u.stack o).settle (u.count + line) limit' (u.count + i) =
      displaced u.count (u.count + ·) (o.settle line limit i) := by
  obtain ⟨limit', rfl⟩ := Nat.exists_eq_succ_of_ne_zero (show limit' ≠ 0 by omega)
  fun_induction settle o line limit i generalizing limit' with
  | case1 => omega
  | case2 limit i e he =>
    rw [settle, h.climb_stack hw hi, he]
    rfl
  | case3 limit i hn =>
    rw [settle, h.climb_stack hw hi, hn]
    rfl
  | case4 limit i j hj hle =>
    have := climb_lt hj
    omega
  | case5 limit i j hj hlt ih =>
    have hji := climb_lt hj
    rw [settle, h.climb_stack hw hi, hj, displaced_ok, Option.map_some]
    simp only [Nat.add_le_add_iff_left, if_neg hlt]
    obtain ⟨limit', rfl⟩ := Nat.exists_eq_succ_of_ne_zero (show limit' ≠ 0 by omega)
    exact ih (hw.parts_of_climb hi hj).1 (by omega) _ (by omega)

theorem Edge.resolveStart_stack (h : u.Edge o) (hw : o.WellFormed) (hi : o.isCode i = true) :
    (u.stack o).resolveStart (u.count + i) =
      displaced u.count (u.count + ·) (o.resolveStart i) := by
  have hs := hw.isStatementStart_statementStart hi
  have hlt := lt_count_of_start hs
  rw [resolveStart, statementStart_stack hw.first, count_stack]
  exact h.settle_stack hw hs (by omega) (by omega)

/-! ## Statements at the left margin -/

theorem topStartFrom_of_indented (hi : o.indent s ≠ 0) (hj : o.lastBefore Row.isCode s = some j) :
    o.topStartFrom s = o.resolveStart j >>= o.topStartFrom := by
  rw [topStartFrom, if_neg hi]
  split
  · rename_i hn
    rw [hj] at hn
    cases hn
  · rename_i j' hj'
    obtain rfl := Option.some.inj (hj.symm.trans hj')
    split
    · rename_i e he
      rw [he]
      rfl
    · rename_i t ht
      rw [ht]
      rfl

/-- The way up to the margin ends at the first code line at the latest. -/
theorem Edge.topStartFrom_stack (h : u.Edge o) (hw : o.WellFormed)
    (hs : o.isStatementStart s = true) :
    (u.stack o).topStartFrom (u.count + s) =
      displaced u.count (u.count + ·) (o.topStartFrom s) := by
  induction s using Nat.strongRecOn with
  | ind s ih =>
    by_cases hmargin : o.indent s = 0
    · rw [topStartFrom, indent_stack, if_pos hmargin, topStartFrom, if_pos hmargin]
      rfl
    obtain ⟨q, hq, hqs, hqs'⟩ := hw.exists_first (isCode_of_start hs)
    have hlt : q < s := by
      rcases Nat.eq_or_lt_of_le hqs' with rfl | hlt
      · exact absurd (h.margin q hq) hmargin
      · exact hlt
    obtain ⟨j, hj⟩ := exists_lastBefore (p := Row.isCode) (isCode_of_start hqs) hlt
    obtain ⟨hjs, hcode, -⟩ := lastBefore_eq_some.1 hj
    have hup := lastBefore_stack (u := u) (p := Row.isCode) (fun _ _ => rfl) hj
    rw [topStartFrom_of_indented hmargin hj,
      topStartFrom_of_indented (by rwa [indent_stack]) hup, h.resolveStart_stack hw hcode]
    refine displaced_bind fun t ht => ?_
    have hle := resolveStart_le ht
    exact ih t (by omega) (hw.parts_of_resolveStart hcode ht).1

theorem Edge.topBounds_stack (h : u.Edge o) (hw : o.WellFormed) (hi : o.isCode i = true) :
    (u.stack o).topBounds (u.count + i) =
      displaced u.count (Prod.map (u.count + ·) (u.count + ·)) (o.topBounds i) := by
  unfold topBounds
  rw [h.resolveStart_stack hw hi]
  refine displaced_bind fun s hs => ?_
  rw [h.topStartFrom_stack hw (hw.parts_of_resolveStart hi hs).1]
  refine displaced_bind fun r hr => ?_
  rw [statementEnd_stack]
  exact displaced_bind fun e he => rfl

/-! ## Definitions -/

theorem underDecorators_stack :
    (u.stack o).underDecorators (u.count + i) = (o.underDecorators i).map (u.count + ·) := by
  have hnext (i : Nat) : (u.stack o).nextCode ((u.stack o).statementStop (u.count + i) + 1) =
      (o.nextCode (o.statementStop i + 1)).map (u.count + ·) := by
    rw [statementStop_stack, Nat.add_assoc, nextCode_stack]
  fun_induction underDecorators o i with
  | case1 i hk hn =>
    rw [underDecorators_of_decorator (by rwa [kind_stack]), hnext, hn]
    rfl
  | case2 i hk j hj hind ih =>
    rw [underDecorators_of_decorator (by rwa [kind_stack]), hnext, hj, Option.map_some,
      Option.bind_some, indent_stack, indent_stack, if_pos hind, ih]
  | case3 i hk j hj hind =>
    rw [underDecorators_of_decorator (by rwa [kind_stack]), hnext, hj, Option.map_some,
      Option.bind_some, indent_stack, indent_stack, if_neg hind]
    rfl
  | case4 i hk =>
    rw [underDecorators, kind_stack, if_neg hk]
    rfl

theorem headerOnLine_stack (header : LineKind) :
    (u.stack o).headerOnLine (u.count + i) header =
      (o.headerOnLine i header).map (u.count + ·) := by
  unfold headerOnLine
  rw [continues_stack, kind_stack, underDecorators_stack]
  split
  · rfl
  split
  · rfl
  · rw [Option.filter_map]
    simp [Function.comp_def]

/-- The search for a header ends at the floor, which is a line of the lower text. -/
theorem headerAbove_stack (header : LineKind) (floor : Nat) (least : Option Nat) :
    (u.stack o).headerAbove header (u.count + floor) least (u.count + i) =
      (o.headerAbove header floor least i).map (u.count + ·) := by
  induction i generalizing least with
  | zero =>
    rw [headerAbove.eq_def, headerAbove.eq_def o]
    simp only [Nat.add_lt_add_iff_left, isStatementStart_stack, kind_stack, indent_stack]
    by_cases hfloor : 0 < floor
    · rw [if_pos hfloor, if_pos hfloor]
      rfl
    rw [if_neg hfloor, if_neg hfloor, apply_ite (Option.map _)]
    congr 1
    cases hc : u.count with
    | zero => rfl
    | succ m =>
      show (u.stack o).headerAbove header _ _ m = none
      rw [headerAbove.eq_def, if_pos (by omega)]
  | succ i ih =>
    rw [headerAbove.eq_def, headerAbove.eq_def o]
    simp only [Nat.add_lt_add_iff_left, isStatementStart_stack, kind_stack, indent_stack]
    by_cases hfloor : i + 1 < floor
    · rw [if_pos hfloor, if_pos hfloor]
      rfl
    rw [if_neg hfloor, if_neg hfloor, apply_ite (Option.map _)]
    congr 1
    exact ih _

theorem Edge.enclosingHeader_stack (h : u.Edge o) (hw : o.WellFormed) (header : LineKind) :
    (u.stack o).enclosingHeader (u.count + i) header =
      displaced u.count (Option.map (u.count + ·)) (o.enclosingHeader i header) := by
  unfold enclosingHeader
  rw [nextCode_stack]
  cases hj : o.nextCode i with
  | none => rfl
  | some j =>
    simp only [Option.map_some, h.topBounds_stack hw (nextCode_eq_some.1 hj).2.1]
    cases o.topBounds j with
    | error e => rfl
    | ok b =>
      simp only [displaced_ok, Prod.map_fst, headerAbove_stack]

/-! ## What is located below the edge -/

theorem Edge.statement_stack (h : u.Edge o) (hw : o.WellFormed) :
    (u.stack o).statement (u.count + i) =
      displaced u.count (·.moved (u.size + 1) u.count) (o.statement i) := by
  unfold statement
  rw [codeLine_stack]
  refine displaced_bind fun j hj => ?_
  have hcode := (nextCode_eq_some.1 (codeLine_eq_ok.1 hj)).2.1
  rw [h.resolveStart_stack hw hcode]
  refine displaced_bind fun s hs => ?_
  have hstart := (hw.parts_of_resolveStart hcode hs).1
  rw [statementEnd_stack]
  refine displaced_bind fun e he => ?_
  have hend := Ends.isCode hw hstart (statementEnd_eq_ok.1 he)
  exact congrArg _ (block_stack _ (lt_count_of_start hstart) (lt_count_of_isCode hend))

theorem Edge.topStatement_stack (h : u.Edge o) (hw : o.WellFormed) :
    (u.stack o).topStatement (u.count + i) =
      displaced u.count (·.moved (u.size + 1) u.count) (o.topStatement i) := by
  unfold topStatement
  rw [codeLine_stack]
  refine displaced_bind fun j hj => ?_
  have hcode := (nextCode_eq_some.1 (codeLine_eq_ok.1 hj)).2.1
  rw [h.topBounds_stack hw hcode]
  refine displaced_bind fun b hb => ?_
  obtain ⟨s, hs, hr, he⟩ := topBounds_eq_ok.1 hb
  have hstart := hw.start_of_topStartFrom (hw.parts_of_resolveStart hcode hs).1 hr
  have hend := Ends.isCode hw hstart he
  exact congrArg _ (block_stack _ (lt_count_of_start hstart) (lt_count_of_isCode hend))

theorem Edge.findHeader_stack (h : u.Edge o) (hw : o.WellFormed) (header : LineKind) :
    (u.stack o).findHeader (u.count + i) header =
      displaced u.count (Option.map (u.count + ·)) (o.findHeader i header) := by
  unfold findHeader
  rw [headerOnLine_stack]
  cases o.headerOnLine i header with
  | some j => rfl
  | none => exact h.enclosingHeader_stack hw header

theorem Edge.definition_stack (h : u.Edge o) (hw : o.WellFormed) {header : LineKind}
    (hc : header.isCode = true) :
    (u.stack o).definition (u.count + i) header =
      displaced u.count (Option.map (·.moved (u.size + 1) u.count)) (o.definition i header) := by
  rw [definition_eq, definition_eq, h.findHeader_stack hw]
  rcases hf : o.findHeader i header with e | _ | j
  · rfl
  · rfl
  have hj := (hw.start_of_findHeader hc hf).1
  have hstart := (hw.parts_headStart hj).1
  have hhead : (u.stack o).headStart (u.count + j) = u.count + o.headStart j := by
    unfold headStart
    rw [h.decoratorAbove_stack hw.first]
    cases o.decoratorAbove j <;> rfl
  simp only [displaced_ok, Option.map_some, Except.map, hhead, blockStop_stack,
    block_stack _ (lt_count_of_start hstart) (lt_count_of_isCode (isCode_blockStop hj))]

/-! ## The table of two texts -/

theorem ofLines_append (offset : Nat) (s : Scan) (ls ms : List Text) :
    Row.ofLines offset s (ls ++ ms) =
      Row.ofLines offset s ls ++ Row.ofLines (offset + Text.extent ls) (s.after ls) ms := by
  induction ls generalizing offset s with
  | nil => rfl
  | cons l ls ih =>
    simp only [List.cons_append, Row.ofLines, ih, Text.extent, Scan.after, List.foldl_cons,
      Nat.add_assoc]

theorem ofLines_add (d offset : Nat) (s : Scan) (ls : List Text) :
    Row.ofLines (d + offset) s ls = (Row.ofLines offset s ls).map (·.moved d) := by
  induction ls generalizing offset s with
  | nil => rfl
  | cons l ls ih =>
    rw [Row.ofLines, Row.ofLines, List.map_cons, ← ih, Nat.add_assoc, Nat.add_assoc]
    rfl

/-- If the upper text leaves nothing open, the lower one is scanned as if it stood alone. -/
theorem ofText_append {a b : Text} (h : (Scan.clean.after a.lines).isOpen = false) :
    ofText (a ++ '\n' :: b) = (ofText a).stack (ofText b) := by
  have hsize : Text.extent a.lines = a.length + 1 := by
    rw [Text.extent_eq_length a.lines_ne_nil, a.unlines_lines]
  simp only [ofText, stack, Text.lines_append_newline, ofLines_append, hsize,
    Scan.isOpen_eq_false.1 h, List.length_append, List.length_cons]
  rw [Nat.zero_add, ← Nat.add_zero (a.length + 1), ofLines_add]
  simp [Nat.add_comm, Nat.add_left_comm]

/-- An offset in the lower text is on the line that it is on there. -/
theorem lineAt_stack (hu : u.WellFormed) (ho : o.WellFormed) (hc : 0 < o.count) (p : Nat) :
    (u.stack o).lineAt ((u.size + 1 + p : Nat) : Int) = u.count + o.lineAt p := by
  have habove : u.rows.toList.countP
      (fun r => decide ((r.start : Int) ≤ ((u.size + 1 + p : Nat) : Int))) = u.count := by
    rw [List.countP_eq_length.2, Array.length_toList, count]
    intro r hr
    obtain ⟨i, hi, rfl⟩ := Array.mem_iff_getElem.1 (Array.mem_toList_iff.1 hr)
    have hle : (u.row i).stop ≤ u.size := hu.inside i hi
    rw [row_eq_getElem hi, Row.stop] at hle
    rw [decide_eq_true_eq]
    omega
  have hbelow : (o.rows.toList.map (·.moved (u.size + 1))).countP
      (fun r => decide ((r.start : Int) ≤ ((u.size + 1 + p : Nat) : Int))) =
      o.rows.toList.countP fun r => decide ((r.start : Int) ≤ (p : Int)) := by
    rw [List.countP_map]
    refine List.countP_congr fun r _ => ?_
    simp only [Function.comp_apply, Row.moved, decide_eq_true_eq]
    omega
  have hpos : 0 < o.rows.toList.countP fun r => decide ((r.start : Int) ≤ (p : Int)) := by
    refine List.countP_pos_iff.2 ⟨o.rows[0], Array.getElem_mem_toList _, ?_⟩
    have h0 : (o.row 0).start = 0 := ho.origin
    rw [row_eq_getElem hc] at h0
    rw [decide_eq_true_eq]
    omega
  simp only [lineAt, stack, Array.toList_append, Array.toList_map, List.countP_append] at *
  rw [habove, hbelow]
  omega

/-- Locating below an edge: if the text above it leaves nothing open, what is located from an
offset of the text below, or why nothing is, is the same as in that text alone, moved by the
length and the lines of the text above. -/
theorem locate_append {a b : Text} (hclosed : (Scan.clean.after a.lines).isOpen = false)
    (hedge : (ofText a).Edge (ofText b)) (p : Nat) :
    let o := ofText (a ++ '\n' :: b)
    let i := o.lineAt ((a.length + 1 + p : Nat) : Int)
    let i' := (ofText b).lineAt p
    let lines := (ofText a).count
    let move : Block → Block := (·.moved (a.length + 1) lines)
    o.statement i = displaced lines move ((ofText b).statement i') ∧
      o.topStatement i = displaced lines move ((ofText b).topStatement i') ∧
      o.definition i .defHeader =
        displaced lines (Option.map move) ((ofText b).definition i' .defHeader) ∧
      o.definition i .classHeader =
        displaced lines (Option.map move) ((ofText b).definition i' .classHeader) := by
  have hw := wellFormed_ofText b
  have hc : 0 < (ofText b).count := by
    rw [count_ofText]
    exact List.length_pos_iff.2 b.lines_ne_nil
  intro o i i' lines move
  have ho : o = (ofText a).stack (ofText b) := ofText_append hclosed
  have hi : i = (ofText a).count + i' := by
    have hline := lineAt_stack (wellFormed_ofText a) hw hc p
    rwa [← ho] at hline
  rw [hi, ho]
  exact ⟨hedge.statement_stack hw, hedge.topStatement_stack hw, hedge.definition_stack hw rfl,
    hedge.definition_stack hw rfl⟩

/-- A function whose last line stands at the left margin, within a bracket. -/
def marginText : Text := "def f(x):\n  return (x,\n1)"

/-- A decorated class, and a clause that nothing opens. -/
def decoratedText : Text := "# c\n@d\nclass C:\n  def g(self): pass\n else: x"

/-- The class is located below the function as it is alone. -/
theorem locate_append_decorated :
    (Scan.clean.after marginText.lines).isOpen = false ∧
      (ofText marginText).Edge (ofText decoratedText) ∧
      (ofText (marginText ++ '\n' :: decoratedText)).statement
          ((ofText (marginText ++ '\n' :: decoratedText)).lineAt
            ((marginText.length + 1 + 4 : Nat) : Int)) =
        displaced (ofText marginText).count
          (·.moved (marginText.length + 1) (ofText marginText).count)
          ((ofText decoratedText).statement ((ofText decoratedText).lineAt (4 : Nat))) := by
  have hclosed : (Scan.clean.after marginText.lines).isOpen = false := by decide +kernel
  have hlast : (ofText marginText).previousStatement (ofText marginText).count = some 1 := by
    decide +kernel
  have hfirst : (ofText decoratedText).nextCode 0 = some 1 := by decide +kernel
  have hedge : (ofText marginText).Edge (ofText decoratedText) := by
    refine ⟨fun s hs => ?_, fun q hq => ?_, fun q hq => ?_⟩
    · cases hlast.symm.trans hs
      decide +kernel
    · cases hfirst.symm.trans hq
      decide +kernel
    · cases hfirst.symm.trans hq
      decide +kernel
  exact ⟨hclosed, hedge, (locate_append hclosed hedge 4).1⟩

end Outline

end ReplSend
