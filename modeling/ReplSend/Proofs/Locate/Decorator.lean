import ReplSend.Proofs.Locate.Enclosing

/-!
# Decorated definitions

Decorators stacked above a header lead down to it one by one (`Decorates`), so the topmost one of
the header is the topmost one of each of them (`topOf_of_stack`). From the header a statement is
located from there on, but from a decorator only from that decorator on (`statement_decorated`). A
definition is found alike from the first lines of the whole stack (`headerOnLine_of_stack`). On a
line that continues one of them it is searched for upwards, and so found from the header only
(`definition_decorated`).
-/

namespace ReplSend.Outline

variable {o : Outline} {header : LineKind} {b c d h i s : Nat}

/-! ## Stacks -/

theorem WellFormed.decorates_unique (hw : o.WellFormed) (hb : o.Decorates b i)
    (hc : o.Decorates c i) : b = c :=
  Option.some.inj <|
    ((hw.decorates_iff hb.lower).1 hb).1.symm.trans ((hw.decorates_iff hc.lower).1 hc).1

theorem WellFormed.topOf_of_stack (hw : o.WellFormed) (htop : o.TopOf s h)
    (hstack : Relation.ReflTransGen o.Decorates d h) : o.TopOf s d := by
  induction hstack using Relation.ReflTransGen.head_induction_on with
  | refl => exact htop
  | @head d b hdb _ ih =>
    rcases Relation.ReflTransGen.cases_tail ih.stack with heq | ⟨c, hsc, hcb⟩
    · subst heq
      exact absurd hdb (ih.top d)
    · obtain rfl := hw.decorates_unique hcb hdb
      exact ⟨hsc, ih.top⟩

/-- A stack is one statement with what it decorates. -/
theorem WellFormed.parts_of_stack (hw : o.WellFormed)
    (hstack : Relation.ReflTransGen o.Decorates d h) : o.Parts d h := by
  refine Relation.ReflTransGen.mono (fun a b hab => ?_) d h hstack
  refine (hw.nextPart_eq_some hab.upper).2 ⟨?_, .inr hab.decorator⟩
  refine ⟨hab.lt, hab.upper, hab.lower, hab.indent_eq.symm, fun k hak hkb hk => ?_⟩
  rw [hab.between k hak hkb] at hk
  cases hk

theorem start_of_stack (hh : o.isStatementStart h = true)
    (hstack : Relation.ReflTransGen o.Decorates d h) : o.isStatementStart d = true := by
  rcases Relation.ReflTransGen.cases_head hstack with rfl | ⟨b, hdb, -⟩
  · exact hh
  · exact hdb.upper

/-- Everything in a stack but the header is a decorator. -/
theorem decorator_of_stack (hstack : Relation.ReflTransGen o.Decorates d h) (hne : d ≠ h) :
    o.kind d = .decorator := by
  rcases Relation.ReflTransGen.cases_head hstack with heq | ⟨b, hdb, -⟩
  · exact absurd heq hne
  · exact hdb.decorator

theorem WellFormed.indent_of_stack (hw : o.WellFormed) (hh : o.isStatementStart h = true)
    (hstack : Relation.ReflTransGen o.Decorates d h) : o.indent h = o.indent d :=
  (hw.parts_lower (hw.parts_of_stack hstack) (start_of_stack hh hstack)).2.2

/-! ## Statements -/

theorem statement_of_resolveStart {e : Nat} (hi : o.isCode i = true)
    (hs : o.resolveStart i = .ok s) (he : o.Ends s e) :
    o.statement i = .ok (o.block .statement s e) :=
  statement_eq_ok.2 ⟨i, s, e, nextCode_self hi, hs, he, rfl⟩

theorem climb_of_decorator (hd : o.kind d = .decorator) : o.climb d = .ok none := by
  unfold climb
  rw [hd]

theorem climb_of_header (hk : (o.kind h).isHeader = true) :
    o.climb h = .ok (o.decoratorAbove h) := by
  unfold climb
  split
  · rename_i hclause
    rw [hclause] at hk
    cases hk
  · rfl
  · rfl
  · rename_i hdef hclass
    cases hkind : o.kind h <;> simp_all [LineKind.isHeader]

/-- The climb from a header ends at its topmost decorator. -/
theorem WellFormed.resolveStart_of_header (hw : o.WellFormed) (hh : o.isStatementStart h = true)
    (hk : (o.kind h).isHeader = true) : o.resolveStart h = .ok (o.headStart h) := by
  have hclimb := climb_of_header hk
  have hstack := (hw.topOf_headStart hh).stack
  unfold headStart at hstack ⊢
  cases hd : o.decoratorAbove h with
  | none => exact resolveStart_of_settled hh (by rw [hclimb, hd])
  | some d =>
    rw [hd, Option.getD_some] at hstack
    rw [hd] at hclimb
    have hlt := climb_lt hclimb
    have hsettled := climb_of_decorator (decorator_of_stack hstack (Nat.ne_of_lt hlt))
    obtain ⟨n, hn⟩ := Nat.exists_eq_add_of_lt (lt_count_of_start hh)
    rw [resolveStart, statementStart_eq_self (start_iff.1 hh).2, hn]
    simp only [settle, hclimb, if_neg (Nat.not_le_of_lt hlt), hsettled, Option.getD_some]

/-- What is located as a statement from a decorated header starts at its topmost decorator, and
ends where what is located from any of the decorators ends. But that starts at the decorator it is
located from, so it is the same for the topmost one only. -/
theorem statement_decorated (t : Text) {d h : Nat} {p q : Int} (hp : (ofText t).lineAt p = d)
    (hq : (ofText t).lineAt q = h) (hk : ((ofText t).kind h).isHeader = true)
    (hstack : Relation.TransGen (ofText t).Decorates d h) :
    ∃ s e, (ofText t).TopOf s h ∧
      (ofText t).statement ((ofText t).lineAt q) = .ok ((ofText t).block .statement s e) ∧
      (ofText t).statement ((ofText t).lineAt p) = .ok ((ofText t).block .statement d e) ∧
      ((ofText t).statement ((ofText t).lineAt p) = (ofText t).statement ((ofText t).lineAt q) ↔
        d = s) := by
  have hw := wellFormed_ofText t
  obtain ⟨b, hbh, hdec⟩ := Relation.TransGen.tail'_iff.1 hstack
  have hh := hdec.lower
  have hd := start_of_stack hh hstack.to_reflTransGen
  have hkd : (ofText t).kind d = .decorator := by
    obtain ⟨c, hdc, -⟩ := Relation.TransGen.head'_iff.1 hstack
    exact hdc.decorator
  have htop := hw.topOf_headStart hh
  -- Both are parts of what starts at the top, so they end together.
  obtain ⟨e, -, he⟩ := (ofText t).exists_statementEnd ((ofText t).headStart h)
  have hends : (ofText t).Ends d e :=
    (hw.parts_of_stack (hw.topOf_of_stack htop hstack.to_reflTransGen).stack).ends he
  have hheader := statement_of_resolveStart (isCode_of_start hh)
    (hw.resolveStart_of_header hh hk) he
  have hdecorator := statement_of_resolveStart (isCode_of_start hd)
    (resolveStart_of_settled hd (climb_of_decorator hkd)) hends
  rw [hp, hq]
  refine ⟨_, e, htop, hheader, hdecorator, ?_⟩
  rw [hheader, hdecorator, Except.ok.injEq]
  constructor
  · intro heq
    exact Nat.succ.inj (congrArg Block.firstLine heq)
  · intro heq
    rw [heq]

/-- A method with two decorators, the upper one on two lines. -/
def decoratedMethod : Text :=
  "class C:\n  @a(1,\n2)\n  # c\n\n  @b\n  def f(self,\nx): pass"

theorem decorates_method : (ofText decoratedMethod).Decorates 1 5 ∧
    (ofText decoratedMethod).Decorates 5 6 := by
  have hw := wellFormed_ofText decoratedMethod
  have heval : ((ofText decoratedMethod).isStatementStart 5 = true ∧
        (ofText decoratedMethod).previousStatement 5 = some 1 ∧
        (ofText decoratedMethod).kind 1 = .decorator ∧
        (ofText decoratedMethod).indent 1 = (ofText decoratedMethod).indent 5) ∧
      (ofText decoratedMethod).isStatementStart 6 = true ∧
        (ofText decoratedMethod).previousStatement 6 = some 5 ∧
        (ofText decoratedMethod).kind 5 = .decorator ∧
        (ofText decoratedMethod).indent 5 = (ofText decoratedMethod).indent 6 := by
    decide +kernel
  obtain ⟨⟨hupper, hone⟩, hlower, htwo⟩ := heval
  exact ⟨(hw.decorates_iff hupper).2 hone, (hw.decorates_iff hlower).2 htwo⟩

theorem statement_decorated_method :
    (ofText decoratedMethod).lineAt 29 = 5 ∧ (ofText decoratedMethod).lineAt 36 = 6 ∧
      ((ofText decoratedMethod).kind 6).isHeader = true ∧
      Relation.TransGen (ofText decoratedMethod).Decorates 5 6 ∧
      ∃ s e, (ofText decoratedMethod).TopOf s 6 ∧
        (ofText decoratedMethod).statement ((ofText decoratedMethod).lineAt 36) =
          .ok ((ofText decoratedMethod).block .statement s e) ∧
        (ofText decoratedMethod).statement ((ofText decoratedMethod).lineAt 29) =
          .ok ((ofText decoratedMethod).block .statement 5 e) ∧
        ((ofText decoratedMethod).statement ((ofText decoratedMethod).lineAt 29) =
          (ofText decoratedMethod).statement ((ofText decoratedMethod).lineAt 36) ↔ 5 = s) := by
  have heval : (ofText decoratedMethod).lineAt 29 = 5 ∧ (ofText decoratedMethod).lineAt 36 = 6 ∧
      ((ofText decoratedMethod).kind 6).isHeader = true := by
    decide +kernel
  obtain ⟨hp, hq, hk⟩ := heval
  have hstack := Relation.TransGen.single decorates_method.2
  exact ⟨hp, hq, hk, hstack, statement_decorated decoratedMethod hp hq hk hstack⟩

/-- From the lower decorator the upper one is left out. -/
theorem statement_without_top :
    ∃ d h, Relation.TransGen (ofText decoratedMethod).Decorates d h ∧
      ((ofText decoratedMethod).kind h).isHeader = true ∧
      (ofText decoratedMethod).lineAt 29 = d ∧ (ofText decoratedMethod).lineAt 36 = h ∧
      (ofText decoratedMethod).statement d ≠ (ofText decoratedMethod).statement h := by
  refine ⟨5, 6, .single decorates_method.2, ?_⟩
  decide +kernel

/-! ## Definitions -/

/-- Below the lines of a decorator the next code line is what it decorates. -/
theorem WellFormed.nextCode_of_decorates (hw : o.WellFormed) (hdi : o.Decorates d i) :
    o.nextCode (o.statementStop d + 1) = some i := by
  have hcode := isCode_of_start hdi.lower
  have hlt := statementStop_lt hdi.lower hdi.lt
  cases hj : o.nextCode (o.statementStop d + 1) with
  | none =>
    have hnone := firstFrom_eq_none.1 hj i hlt (lt_count_of_isCode hcode)
    rw [show (o.row i).isCode = true from hcode] at hnone
    cases hnone
  | some j =>
    obtain ⟨hdj, -, hnone⟩ := nextCode_eq_some.1 hj
    have hstart := hw.start_of_nextCode (o.not_continues_after_statementStop d) hj
    have hstop := o.le_statementStop d
    rcases Nat.lt_trichotomy j i with hji | rfl | hij
    · rw [hdi.between j (by omega) hji] at hstart
      cases hstart
    · rfl
    · rw [hnone i hlt hij] at hcode
      cases hcode

theorem WellFormed.underDecorators_of_stack (hw : o.WellFormed) (hk : o.kind h ≠ .decorator)
    (hstack : Relation.ReflTransGen o.Decorates d h) : o.underDecorators d = some h := by
  induction hstack using Relation.ReflTransGen.head_induction_on with
  | refl => rw [underDecorators, if_neg hk]
  | head hdb _ ih =>
    rw [underDecorators_of_decorator hdb.decorator, hw.nextCode_of_decorates hdb, Option.bind_some,
      if_pos hdb.indent_eq.symm, ih]

/-- Each decorator of a stack shows the header, on its first line. -/
theorem WellFormed.headerOnLine_of_stack (hw : o.WellFormed) (hh : o.isStatementStart h = true)
    (hk : o.kind h = header) (hheader : header.isHeader = true)
    (hstack : Relation.ReflTransGen o.Decorates d h) : o.headerOnLine d header = some h := by
  have hne : o.kind h ≠ .decorator := by
    rintro hdec
    rw [← hk, hdec] at hheader
    cases hheader
  have hcont := (start_iff.1 (start_of_stack hh hstack)).2
  unfold headerOnLine
  rw [hcont, if_neg Bool.false_ne_true, hw.underDecorators_of_stack hne hstack]
  split
  · rename_i hkd
    by_cases heq : d = h
    · rw [heq]
    · rw [decorator_of_stack hstack heq] at hkd
      rw [← hkd] at hheader
      cases hheader
  · rw [Option.filter_some, if_pos (by simpa using hk)]

/-- On a continuation line a definition is searched for upwards. -/
theorem findHeader_of_continues (hi : o.continues i = true) :
    o.findHeader i header = o.enclosingHeader i header := by
  unfold findHeader headerOnLine
  rw [if_pos hi]

theorem enclosingHeader_eq_error (hi : o.isCode i = true) {f : LocateFault} :
    o.enclosingHeader i header = .error f ↔ o.topStatement i = .error f := by
  have hline : o.codeLine i = .ok i := codeLine_eq_ok.2 (nextCode_self hi)
  unfold enclosingHeader topStatement
  rw [hline, nextCode_self hi]
  cases hb : o.topBounds i <;> simp [bind, Except.bind, pure, Except.pure, hb]

/-- What is located around the header of a definition, from its topmost decorator on. -/
def headed (o : Outline) (header : LineKind) (h : Nat) : Block :=
  o.block (if header = .classHeader then .defclass else .defun) (o.headStart h) (o.blockStop h)

theorem definition_of_findHeader (hf : o.findHeader i header = .ok (some h)) :
    o.definition i header = .ok (some (o.headed header h)) :=
  definition_eq_some.2 ⟨h, hf, rfl⟩

/-- From the first line of a decorator or of the header the definition is located. -/
theorem WellFormed.definition_of_stack (hw : o.WellFormed) (hh : o.isStatementStart h = true)
    (hk : o.kind h = header) (hheader : header.isHeader = true)
    (hstack : Relation.ReflTransGen o.Decorates d h) :
    o.definition d header = .ok (some (o.headed header h)) := by
  refine definition_of_findHeader ?_
  unfold findHeader
  rw [hw.headerOnLine_of_stack hh hk hheader hstack]

/-- From a line that continues the header it is located if the unindented statement there is. -/
theorem WellFormed.definition_below_header (hw : o.WellFormed) (hh : o.isStatementStart h = true)
    (hk : o.kind h = header) (hi : h < i) (his : i ≤ o.statementStop h) {top : Block}
    (htop : o.topStatement i = .ok top) :
    o.definition i header = .ok (some (o.headed header h)) := by
  have hcont := continues_of_le_statementStop hi his
  have hcode := isCode_of_continues hcont
  refine definition_of_findHeader ((findHeader_of_continues hcont).trans ?_)
  cases hf : o.enclosingHeader i header with
  | error f =>
    rw [enclosingHeader_eq_error hcode, htop] at hf
    cases hf
  | ok found =>
    have hreach := o.statementStop_le_blockStop h
    have henc : o.Encloses header h i := ⟨hh, hk, Nat.le_of_lt hi, by omega⟩
    refine congrArg _ ((hw.enclosingHeader_eq_some hcode hf).2 ⟨henc, ?_⟩)
    intro k hk
    -- No other statement starts between the header and the line.
    rcases Nat.lt_or_ge h k with hlt | hge
    · have hbelow := statementStop_lt hk.start hlt
      have hle := hk.le
      omega
    · exact hge

/-- From a line that continues a decorator another definition is located, if any. -/
theorem WellFormed.definition_below_decorator (hw : o.WellFormed)
    (hh : o.isStatementStart h = true) (hheader : header.isHeader = true)
    (hstack : Relation.ReflTransGen o.Decorates d h) (hne : d ≠ h) (hi : d < i)
    (his : i ≤ o.statementStop d) : o.definition i header ≠ .ok (some (o.headed header h)) := by
  intro hb
  have hcont := continues_of_le_statementStop hi his
  have hcode := isCode_of_continues hcont
  obtain ⟨g, hg, heq⟩ := definition_eq_some.1 hb
  rw [findHeader_of_continues hcont] at hg
  have henc := ((hw.enclosingHeader_eq_some hcode hg).1 rfl).1
  have hd := start_of_stack hh hstack
  have hgd : g < d := by
    rcases Nat.lt_trichotomy g d with hlt | rfl | hgt
    · exact hlt
    · rw [← henc.kind, decorator_of_stack hstack hne] at hheader
      cases hheader
    · have hbelow := statementStop_lt henc.start hgt
      have hle := henc.le
      omega
  -- It is less indented than the stack, so it does not start where the stack does.
  have hreach := henc.reaches
  have hless := indent_lt_of_le_blockStop hd hgd (by omega)
  have hstart : o.headStart h = o.headStart g := Nat.succ.inj (congrArg Block.firstLine heq)
  have hindh := hw.indent_of_stack hh (hw.topOf_headStart hh).stack
  have hindg := hw.indent_of_stack henc.start (hw.topOf_headStart henc.start).stack
  have hindd := hw.indent_of_stack hh hstack
  rw [hstart] at hindh
  omega

/-- From the lines of a decorated definition, that is of its decorators and of its header, the
whole of it is located exactly if the line is the first one of a decorator or of the header, or
continues the header and the unindented statement there can be located. It is the fault of that
statement if the search fails. -/
theorem definition_decorated (t : Text) {header : LineKind} {d h i : Nat} {p : Int}
    (hp : (ofText t).lineAt p = i) (hheader : header.isHeader = true)
    (hh : (ofText t).isStatementStart h = true) (hk : (ofText t).kind h = header)
    (hstack : Relation.ReflTransGen (ofText t).Decorates d h) (hdi : d ≤ i)
    (his : i ≤ (ofText t).statementStop d) :
    ∃ s blk, (ofText t).TopOf s h ∧ blk = (ofText t).block
        (if header = .classHeader then .defclass else .defun) s ((ofText t).blockStop h) ∧
      ((ofText t).definition ((ofText t).lineAt p) header = .ok (some blk) ↔
        i = d ∨ d = h ∧ ∃ top, (ofText t).topStatement ((ofText t).lineAt p) = .ok top) ∧
      ∀ f, (ofText t).definition ((ofText t).lineAt p) header = .error f ↔
        i ≠ d ∧ (ofText t).topStatement ((ofText t).lineAt p) = .error f := by
  have hw := wellFormed_ofText t
  refine ⟨_, _, hw.topOf_headStart hh, rfl, ?_⟩
  rw [hp]
  rcases Nat.eq_or_lt_of_le hdi with rfl | hlt
  · have hfirst := hw.definition_of_stack hh hk hheader hstack
    refine ⟨iff_of_true hfirst (.inl rfl), fun f => ?_⟩
    rw [hfirst]
    simp
  have hne : i ≠ d := Nat.ne_of_gt hlt
  have hcont := continues_of_le_statementStop hlt his
  have hfault (f : LocateFault) : (ofText t).definition i header = .error f ↔
      (ofText t).topStatement i = .error f := by
    rw [definition_error_iff, findHeader_of_continues hcont,
      enclosingHeader_eq_error (isCode_of_continues hcont)]
  refine ⟨⟨fun hb => ?_, fun hor => ?_⟩, fun f => by rw [hfault, and_iff_right hne]⟩
  · right
    by_cases hdh : d = h
    · refine ⟨hdh, ?_⟩
      cases htop : (ofText t).topStatement i with
      | error f =>
        rw [(hfault f).2 htop] at hb
        cases hb
      | ok top => exact ⟨top, rfl⟩
    · exact absurd hb (hw.definition_below_decorator hh hheader hstack hdh hlt his)
  · rcases hor with heq | ⟨rfl, top, htop⟩
    · exact absurd heq hne
    · exact hw.definition_below_header hh hk hlt his htop

theorem definition_decorated_method :
    (ofText decoratedMethod).lineAt 52 = 7 ∧ (ofText decoratedMethod).isStatementStart 6 = true ∧
      (ofText decoratedMethod).kind 6 = .defHeader ∧ 6 ≤ 7 ∧
      7 ≤ (ofText decoratedMethod).statementStop 6 ∧
      ∃ s blk, (ofText decoratedMethod).TopOf s 6 ∧
        blk = (ofText decoratedMethod).block .defun s ((ofText decoratedMethod).blockStop 6) ∧
        (ofText decoratedMethod).definition ((ofText decoratedMethod).lineAt 52) .defHeader =
          .ok (some blk) := by
  have heval : (ofText decoratedMethod).lineAt 52 = 7 ∧
      (ofText decoratedMethod).isStatementStart 6 = true ∧
      (ofText decoratedMethod).kind 6 = .defHeader ∧
      7 ≤ (ofText decoratedMethod).statementStop 6 ∧
      (ofText decoratedMethod).topStatement ((ofText decoratedMethod).lineAt 52) =
        .ok ⟨.topStatement, 0, 54, 1, 8⟩ := by
    decide +kernel
  obtain ⟨hp, hh, hk, his, htop⟩ := heval
  obtain ⟨s, blk, hs, hblk, hfound, -⟩ :=
    definition_decorated decoratedMethod hp rfl hh hk .refl (Nat.le_succ 6) his
  exact ⟨hp, hh, hk, Nat.le_succ 6, his, s, blk, hs, hblk, hfound.2 (.inr ⟨rfl, _, htop⟩)⟩

/-- From the second line of its decorator the method is not found. -/
theorem definition_not_from_decorator :
    ∃ d h i, Relation.ReflTransGen (ofText decoratedMethod).Decorates d h ∧
      (ofText decoratedMethod).kind h = .defHeader ∧ d ≤ i ∧
      i ≤ (ofText decoratedMethod).statementStop d ∧
      (ofText decoratedMethod).lineAt 18 = i ∧ (ofText decoratedMethod).lineAt 36 = h ∧
      (ofText decoratedMethod).definition h .defHeader = .ok (some ⟨.defun, 9, 54, 2, 8⟩) ∧
      (ofText decoratedMethod).definition i .defHeader = .ok none := by
  refine ⟨1, 6, 2, .head decorates_method.1 (.single decorates_method.2), ?_⟩
  decide +kernel

end ReplSend.Outline
