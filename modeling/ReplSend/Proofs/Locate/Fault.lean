import ReplSend.Proofs.Locate.Definition

/-!
# Why nothing is located

Every step of a climb goes up (`climb_lt`) and every step to the next part goes down
(`nextPart_bounds`), so neither walk meets its limit, and a wider one changes nothing
(`settle_of_lt`, `exists_closing`). What is left for a search to go astray on is in the text
(`Astray`): a clause that goes on with nothing, or an indented statement with no code above it.
-/

namespace ReplSend.Outline

variable {o : Outline} {f : LocateFault} {header : LineKind} {b i j line limit s : Nat}

/-- What a search goes astray on. -/
inductive Astray (o : Outline) : LocateFault → Prop where
  /-- A clause, and no statement above it is its sibling. -/
  | noOpener {c : Nat} : o.isStatementStart c = true → o.kind c = .clause →
      (∀ a, ¬ o.Sibling a c) → Astray o (.noOpener (c + 1))
  /-- An indented statement, and no code above it. -/
  | unenclosed {s : Nat} : o.isStatementStart s = true → 0 < o.indent s →
      (∀ k, k < s → o.isCode k = false) → Astray o (.unenclosed (s + 1))

/-! ## The limit of the climb -/

/-- Two climbs from a line agree if neither limit can be met. -/
theorem settle_of_lt {limit' : Nat} (hl : b < limit) (hl' : b < limit') :
    o.settle line limit b = o.settle line limit' b := by
  induction limit generalizing b limit' with
  | zero => omega
  | succ n ih =>
    obtain ⟨m, rfl⟩ := Nat.exists_eq_add_of_lt hl'
    unfold settle
    cases hc : o.climb b with
    | error f => rfl
    | ok next =>
      cases next with
      | none => rfl
      | some a =>
        have hab := climb_lt hc
        show (if b ≤ a then _ else _) = (if b ≤ a then _ else _)
        rw [if_neg (Nat.not_le_of_lt hab), if_neg (Nat.not_le_of_lt hab)]
        apply ih
        · omega
        · omega

/-! ## Faults -/

theorem astray_of_climb (hb : o.isStatementStart b = true) (hf : o.climb b = .error f) :
    o.Astray f := by
  unfold climb at hf
  split at hf
  · rename_i hk
    split at hf
    · rename_i hnone
      cases hf
      refine .noOpener hb hk ?_
      intro a hab
      rw [(previousSibling_eq_some hb).2 hab] at hnone
      cases hnone
    · cases hf
  all_goals cases hf

theorem WellFormed.astray_of_settle (hw : o.WellFormed) (hb : o.isStatementStart b = true)
    (hl : b < limit) (hf : o.settle line limit b = .error f) : o.Astray f := by
  fun_induction settle o line limit b with
  | case1 => omega
  | case2 limit b f' hc =>
    cases hf
    exact astray_of_climb hb hc
  | case3 => cases hf
  | case4 limit b a hc hle =>
    have hab := climb_lt hc
    omega
  | case5 limit b a hc hlt ih =>
    have hab := climb_lt hc
    exact ih (hw.parts_of_climb hb hc).1 (by omega) hf

theorem WellFormed.astray_of_resolveStart (hw : o.WellFormed) (hi : o.isCode i = true)
    (hf : o.resolveStart i = .error f) : o.Astray f := by
  have hstart := hw.isStatementStart_statementStart hi
  have hlt := lt_count_of_start hstart
  exact hw.astray_of_settle hstart (by omega) hf

theorem WellFormed.astray_of_topStartFrom (hw : o.WellFormed) (hs : o.isStatementStart s = true)
    (hf : o.topStartFrom s = .error f) : o.Astray f := by
  fun_induction topStartFrom o s with
  | case1 => cases hf
  | case2 s hindent hnone =>
    cases hf
    exact .unenclosed hs (Nat.pos_of_ne_zero hindent) (lastBefore_eq_none.1 hnone)
  | case3 s hindent j hj f' hr =>
    cases hf
    exact hw.astray_of_resolveStart (lastBefore_eq_some.1 hj).2.1 hr
  | case4 s hindent j hj r hr ih =>
    exact ih (hw.parts_of_resolveStart (lastBefore_eq_some.1 hj).2.1 hr).1 hf

theorem WellFormed.astray_of_topBounds (hw : o.WellFormed) (hi : o.isCode i = true)
    (hf : o.topBounds i = .error f) : o.Astray f := by
  simp only [topBounds, bind_eq_error] at hf
  rcases hf with hf | ⟨s, hs, hf | ⟨r, hr, hf | ⟨e, he, hf⟩⟩⟩
  · exact hw.astray_of_resolveStart hi hf
  · exact hw.astray_of_topStartFrom (hw.parts_of_resolveStart hi hs).1 hf
  · obtain ⟨e, he, -⟩ := o.exists_statementEnd r
    rw [he] at hf
    cases hf
  · cases hf

/-- Why a code line is not found: there is none. -/
theorem codeLine_eq_error : o.codeLine i = .error f ↔ f = .noStatement ∧ o.nextCode i = none := by
  unfold codeLine
  cases o.nextCode i <;> simp [eq_comm]

theorem WellFormed.fault_of_statement (hw : o.WellFormed) (hf : o.statement i = .error f) :
    f = .noStatement ∧ o.nextCode i = none ∨ o.Astray f := by
  simp only [statement, bind_eq_error] at hf
  rcases hf with hf | ⟨j, hj, hf | ⟨s, hs, hf | ⟨e, he, hf⟩⟩⟩
  · exact .inl (codeLine_eq_error.1 hf)
  · exact .inr (hw.astray_of_resolveStart (nextCode_eq_some.1 (codeLine_eq_ok.1 hj)).2.1 hf)
  · obtain ⟨e, he, -⟩ := o.exists_statementEnd s
    rw [he] at hf
    cases hf
  · cases hf

theorem WellFormed.fault_of_topStatement (hw : o.WellFormed) (hf : o.topStatement i = .error f) :
    f = .noStatement ∧ o.nextCode i = none ∨ o.Astray f := by
  rcases topStatement_eq_error.1 hf with hf | ⟨j, hj, hf⟩
  · exact .inl (codeLine_eq_error.1 hf)
  · exact .inr (hw.astray_of_topBounds (nextCode_eq_some.1 (codeLine_eq_ok.1 hj)).2.1 hf)

theorem WellFormed.astray_of_definition (hw : o.WellFormed)
    (hf : o.definition i header = .error f) : o.Astray f := by
  rw [definition_error_iff] at hf
  unfold findHeader at hf
  split at hf
  · cases hf
  unfold enclosingHeader at hf
  split at hf
  · cases hf
  rename_i j hj
  split at hf
  · cases hf
  · rename_i f' hb
    cases hf
    exact hw.astray_of_topBounds (nextCode_eq_some.1 hj).2.1 hb

end ReplSend.Outline
