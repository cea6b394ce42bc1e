import ReplSend.Proofs.Locate.Fault
import ReplSend.Proofs.Locate.Stepping
import ReplSend.Proofs.Locate.Unit

/-!
# Groups are maximal runs

A group is made of whole unindented statements (`Run`): what follows one of them starts a new one
(`topBounds_below`), and what is above one ends before it or together with it (`end_eq_of_top`). So
the walk down always stops (`groupStop_spec`), and the walk up keeps within the run
(`groupStart_spec`). Both stop only where a blank line stands alone between the group and the next
code line (`grouped_ofText`).
-/

namespace ReplSend.Outline

variable {o : Outline} {blk : Block} {e e' first i j k last r s stop : Nat}

/-! ## Unindented statements -/

/-- An unindented statement from line `r` to line `e`. -/
structure Top (o : Outline) (r e : Nat) : Prop where
  start : o.isStatementStart r = true
  margin : o.indent r = 0
  ends : o.Ends r e

theorem WellFormed.top_of_topBounds (hw : o.WellFormed) (hj : o.isCode j = true)
    (hb : o.topBounds j = .ok (r, e)) : o.Top r e ∧ r ≤ j ∧ j ≤ e := by
  obtain ⟨s, hs, hr, he⟩ := topBounds_eq_ok.1 hb
  have hstart := hw.start_of_topStartFrom (hw.parts_of_resolveStart hj hs).1 hr
  exact ⟨⟨hstart, indent_of_topStartFrom hr, he⟩, (hw.whole_of_topBounds hj hb).2⟩

/-- An unindented statement that starts within another ends with it. -/
theorem WellFormed.end_eq_of_top (hw : o.WellFormed) {r' : Nat} (h : o.Top r e) (h' : o.Top r' e')
    (hle : r ≤ r') (hre : r' ≤ e) : e' = e := by
  rcases hw.indent_of_ends h.start h.ends h'.start hle hre with hlt | hp
  · rw [h.margin, h'.margin] at hlt
    cases hlt
  · exact h'.ends.unique (hp.ends h.ends)

/-- Below an unindented statement a new one starts. -/
theorem WellFormed.topBounds_below (hw : o.WellFormed) (h : o.Top r e)
    (hj : o.nextCode (e + 1) = some j) : ∃ e', o.topBounds j = .ok (j, e') := by
  have hfresh := hw.fresh_next h.start h.margin h.ends hj
  obtain ⟨e', -, he'⟩ := o.exists_statementEnd j
  refine ⟨e', topBounds_eq_ok.2 ⟨j, resolveStart_of_settled hfresh.start hfresh.settled, ?_, he'⟩⟩
  rw [topStartFrom, if_pos hfresh.margin]

/-! ## Lines that stand between -/

theorem hasBlank_eq_true :
    o.hasBlank first stop = true ↔ ∃ b, first ≤ b ∧ b < stop ∧ o.isBlank b = true := by
  simp only [hasBlank, List.any_eq_true, List.mem_range'_1]
  constructor
  · rintro ⟨b, ⟨hle, hlt⟩, hb⟩
    exact ⟨b, hle, by omega, hb⟩
  · rintro ⟨b, hle, hlt, hb⟩
    exact ⟨b, ⟨hle, by omega⟩, hb⟩

theorem hasBlank_eq_false :
    o.hasBlank first stop = false ↔ ∀ k, first ≤ k → k < stop → o.isBlank k = false := by
  rw [← Bool.not_eq_true, hasBlank_eq_true]
  constructor
  · exact fun h k hle hlt => Bool.eq_false_iff.2 fun hk => h ⟨k, hle, hlt, hk⟩
  · rintro h ⟨b, hle, hlt, hb⟩
    rw [h b hle hlt] at hb
    cases hb

theorem not_isBlank_of_isCode (h : o.isCode i = true) : o.isBlank i = false := by
  unfold isCode Row.isCode at h
  unfold isBlank Row.isBlank
  cases hcont : (o.row i).continues with
  | true => rw [Bool.not_true, Bool.and_false]
  | false =>
    rw [hcont, Bool.false_or] at h
    rw [Bool.and_eq_false_iff]
    refine .inl (decide_eq_false fun hblank => ?_)
    rw [hblank] at h
    cases h

theorem ne_of_isBlank (hi : o.isBlank i = true) (hj : o.isCode j = true) : i ≠ j := by
  rintro rfl
  rw [not_isBlank_of_isCode hj] at hi
  cases hi

theorem joinedBelow_eq_some (h : o.joinedBelow stop = some j) :
    o.nextCode (stop + 1) = some j ∧ ∀ k, stop < k → k < j → o.isBlank k = false := by
  unfold joinedBelow at h
  split at h
  · obtain ⟨hj, hnone⟩ := Option.filter_eq_some_iff.1 h
    exact ⟨hj, hasBlank_eq_false.1 (Bool.not_eq_true' _ ▸ hnone)⟩
  · cases h

/-- Where a group goes on no further, a blank line stands between it and the next code line. -/
theorem joinedBelow_eq_none (h : o.joinedBelow stop = none) (hj : o.nextCode (stop + 1) = some j) :
    ∃ b, stop < b ∧ b < j ∧ o.isBlank b = true := by
  obtain ⟨hle, hcode, -⟩ := nextCode_eq_some.1 hj
  have hcount := lt_count_of_isCode hcode
  unfold joinedBelow at h
  split at h
  · rw [hj, Option.filter_some] at h
    split at h
    · cases h
    · rename_i hblank
      exact hasBlank_eq_true.1 (by simpa using hblank)
  · rename_i hnot
    have hblank : o.isBlank (stop + 1) = true := by
      cases hb : o.isBlank (stop + 1) with
      | true => rfl
      | false => exact absurd ⟨by omega, by rw [hb]; rfl⟩ hnot
    have hne := ne_of_isBlank hblank hcode
    exact ⟨stop + 1, by omega, by omega, hblank⟩

theorem joinedAbove_eq_some (h : o.joinedAbove s = some j) :
    o.lastBefore Row.isCode s = some j ∧ ∀ k, j < k → k < s → o.isBlank k = false := by
  unfold joinedAbove at h
  split at h
  · obtain ⟨hj, hnone⟩ := Option.filter_eq_some_iff.1 h
    exact ⟨hj, hasBlank_eq_false.1 (Bool.not_eq_true' _ ▸ hnone)⟩
  · cases h

theorem joinedAbove_eq_none (h : o.joinedAbove s = none)
    (hj : o.lastBefore Row.isCode s = some j) : ∃ b, j < b ∧ b < s ∧ o.isBlank b = true := by
  obtain ⟨hlt, hcode, -⟩ := lastBefore_eq_some.1 hj
  unfold joinedAbove at h
  split at h
  · rw [hj, Option.filter_some] at h
    split at h
    · cases h
    · rename_i hblank
      exact hasBlank_eq_true.1 (by simpa using hblank)
  · rename_i hnot
    have hblank : o.isBlank (s - 1) = true := by
      cases hb : o.isBlank (s - 1) with
      | true => rfl
      | false => exact absurd ⟨by omega, by rw [hb]; rfl⟩ hnot
    have hne := ne_of_isBlank hblank hcode
    exact ⟨s - 1, by omega, by omega, hblank⟩

/-! ## Runs -/

/-- The unindented statement at `r` to `e` is located from one of its lines, and lies within the
lines `s` to `last`. -/
structure Member (o : Outline) (s last r e : Nat) : Prop where
  located : ∃ j, o.isCode j = true ∧ o.topBounds j = .ok (r, e)
  ge : s ≤ r
  le : e ≤ last

/-- Every line from `s` to `last` that is code or blank is in an unindented statement that lies
within these lines. -/
def Run (o : Outline) (s last : Nat) : Prop :=
  ∀ k, s ≤ k → k ≤ last → o.isCode k = true ∨ o.isBlank k = true →
    ∃ r e, o.Member s last r e ∧ r ≤ k ∧ k ≤ e

theorem run_of_topBounds (hj : o.isCode j = true) (hb : o.topBounds j = .ok (r, e)) : o.Run r e :=
  fun _ hrk hke _ => ⟨r, e, ⟨⟨j, hj, hb⟩, Nat.le_refl r, Nat.le_refl e⟩, hrk, hke⟩

/-- Two runs with neither code nor blank lines between them are one. -/
theorem Run.append {last' s' : Nat} (h : o.Run s last) (h' : o.Run s' last') (hs : s ≤ s')
    (hlast : last ≤ last')
    (hgap : ∀ k, last < k → k < s' → o.isCode k = false ∧ o.isBlank k = false) :
    o.Run s last' := by
  intro k hsk hkl hk
  rcases Nat.lt_or_ge last k with hlt | hle
  · rcases Nat.lt_or_ge k s' with hks | hks
    · obtain ⟨hcode, hblank⟩ := hgap k hlt hks
      rw [hcode, hblank] at hk
      simp at hk
    · obtain ⟨r, e, hmember, hrk, hke⟩ := h' k hks hkl hk
      exact ⟨r, e, ⟨hmember.located, Nat.le_trans hs hmember.ge, hmember.le⟩, hrk, hke⟩
  · obtain ⟨r, e, hmember, hrk, hke⟩ := h k hsk hle hk
    exact ⟨r, e, ⟨hmember.located, hmember.ge, Nat.le_trans hmember.le hlast⟩, hrk, hke⟩

/-- The walk down stops, at the end of a run that goes on no further. -/
theorem WellFormed.groupStop_spec (hw : o.WellFormed) {limit : Nat} (hl : o.count - stop < limit)
    (htop : o.Top r stop) (hrs : s ≤ r) (hrun : o.Run s stop) :
    ∃ last, o.groupStop limit stop = .ok last ∧ stop ≤ last ∧ o.Run s last ∧
      o.joinedBelow last = none := by
  induction limit generalizing stop r with
  | zero => omega
  | succ limit ih =>
    unfold groupStop
    cases hj : o.joinedBelow stop with
    | none => exact ⟨stop, rfl, Nat.le_refl stop, hrun, hj⟩
    | some j =>
      obtain ⟨hnext, hblank⟩ := joinedBelow_eq_some hj
      obtain ⟨hsj, hcode, hgap⟩ := nextCode_eq_some.1 hnext
      obtain ⟨e, he⟩ := hw.topBounds_below htop hnext
      obtain ⟨htop', -, hje⟩ := hw.top_of_topBounds hcode he
      have hstop := Ends.le hw htop.start htop.ends
      have hlonger : o.Run s e := hrun.append (run_of_topBounds hcode he) (by omega) (by omega)
        fun k hk hkj => ⟨hgap k hk hkj, hblank k hk hkj⟩
      have hcount := lt_count_of_isCode hcode
      obtain ⟨last, hlast, hle, hspec⟩ := ih (by omega) htop' (by omega) hlonger
      refine ⟨last, ?_, by omega, hspec⟩
      simp only [he]
      exact hlast

/-- The walk up stops at the start of a run that goes on no further. -/
theorem WellFormed.groupStart_spec (hw : o.WellFormed) (htop : o.Top s e) (hel : e ≤ last)
    (hrun : o.Run s last) (hf : o.groupStart s = .ok first) :
    first ≤ s ∧ o.Run first last ∧ o.joinedAbove first = none := by
  fun_induction groupStart o s generalizing e with
  | case1 s hj =>
    obtain rfl := Except.ok.inj hf
    exact ⟨Nat.le_refl s, hrun, hj⟩
  | case2 s j hj s' e' hb ih =>
    obtain ⟨hup, hblank⟩ := joinedAbove_eq_some hj
    obtain ⟨hjs, hcode, hgap⟩ := lastBefore_eq_some.1 hup
    obtain ⟨htop', hsj, hje⟩ := hw.top_of_topBounds hcode hb
    -- The statement above ends before this one or together with it.
    have hel' : e' ≤ last := by
      rcases Nat.lt_or_ge e' s with hlt | hge
      · have := Ends.le hw htop.start htop.ends
        omega
      · rw [← hw.end_eq_of_top htop' htop (by omega) hge]
        exact hel
    have hlonger : o.Run s' last := (run_of_topBounds hcode hb).append hrun (by omega) hel'
      fun k hk hks => ⟨hgap k (by omega) hks, hblank k (by omega) hks⟩
    obtain ⟨hle, hspec⟩ := ih htop' hel' hlonger hf
    exact ⟨by omega, hspec⟩
  | case3 => cases hf

/-! ## Groups -/

/-- What it takes to locate a group, and what there is around it. -/
theorem WellFormed.group_eq_ok (hw : o.WellFormed) (hb : o.group i = .ok blk) :
    ∃ r e first last, o.topStatement i = .ok (o.block .topStatement r e) ∧
      blk = o.block .group first last ∧ first ≤ r ∧ e ≤ last ∧ o.Run first last ∧
      o.joinedBelow last = none ∧ o.joinedAbove first = none := by
  simp only [group, bind_eq_ok, codeLine_eq_ok] at hb
  obtain ⟨j, hj, ⟨r, e⟩, hre, last, hlast, first, hfirst, hblk⟩ := hb
  cases hblk
  have hcode := (nextCode_eq_some.1 hj).2.1
  obtain ⟨htop, -, -⟩ := hw.top_of_topBounds hcode hre
  obtain ⟨last', hlast', hel, hrun, hbelow⟩ :=
    hw.groupStop_spec (Nat.lt_succ_of_le (Nat.sub_le ..)) htop (Nat.le_refl r)
      (run_of_topBounds hcode hre)
  obtain rfl := Except.ok.inj (hlast.symm.trans hlast')
  obtain ⟨hfr, hrun', habove⟩ := hw.groupStart_spec htop hel hrun hfirst
  have htopStatement : o.topStatement i = .ok (o.block .topStatement r e) := by
    simp only [topStatement, bind_eq_ok, codeLine_eq_ok]
    exact ⟨j, hj, (r, e), hre, rfl⟩
  exact ⟨r, e, first, last, htopStatement, rfl, hfr, hel, hrun', hbelow, habove⟩

theorem groupStart_eq_error {f : LocateFault} (h : o.groupStart s = .error f) :
    ∃ j, j < s ∧ o.isCode j = true ∧ o.topBounds j = .error f := by
  fun_induction groupStart o s with
  | case1 => cases h
  | case2 s j hj s' e hb ih =>
    obtain ⟨k, hk, hcode, hfault⟩ := ih h
    have hjs := joinedAbove_lt hj
    have hsj := topBounds_le hb
    exact ⟨k, by omega, hcode, hfault⟩
  | case3 s j hj f' hb =>
    cases h
    exact ⟨j, joinedAbove_lt hj, (lastBefore_eq_some.1 (joinedAbove_eq_some hj).1).2.1, hb⟩

/-- A group cannot be located only if an unindented statement cannot, at the line or above it. -/
theorem WellFormed.group_eq_error (hw : o.WellFormed) {f : LocateFault}
    (hb : o.group i = .error f) : ∃ j, j ≤ i ∧ o.topStatement j = .error f := by
  simp only [group, bind_eq_error] at hb
  rcases hb with hline | ⟨j, hline, hbounds | ⟨⟨r, e⟩, hbounds, hb⟩⟩
  · exact ⟨i, Nat.le_refl i, topStatement_eq_error.2 (.inl hline)⟩
  · exact ⟨i, Nat.le_refl i, topStatement_eq_error.2 (.inr ⟨j, hline, hbounds⟩)⟩
  obtain ⟨hij, hcode, hnone⟩ := nextCode_eq_some.1 (codeLine_eq_ok.1 hline)
  obtain ⟨htop, hrj, -⟩ := hw.top_of_topBounds hcode hbounds
  obtain ⟨last, hlast, -⟩ := hw.groupStop_spec (Nat.lt_succ_of_le (Nat.sub_le ..)) htop
    (Nat.le_refl r) (run_of_topBounds hcode hbounds)
  rcases hb with hstop | ⟨last', -, hstart | ⟨first, -, hblock⟩⟩
  · cases hlast.symm.trans hstop
  · obtain ⟨k, hkr, hk, hfault⟩ := groupStart_eq_error hstart
    -- No code line is between the line and the statement that it stands for.
    have hki : k < i := by
      rcases Nat.lt_or_ge k i with hlt | hge
      · exact hlt
      · rw [hnone k hge (by omega)] at hk
        cases hk
    have hself : o.codeLine k = .ok k := codeLine_eq_ok.2 (nextCode_self hk)
    exact ⟨k, Nat.le_of_lt hki, topStatement_eq_error.2 (.inr ⟨k, hself, hfault⟩)⟩
  · cases hblock

theorem WellFormed.fault_of_group (hw : o.WellFormed) {f : LocateFault}
    (hb : o.group i = .error f) : f = .noStatement ∧ o.nextCode i = none ∨ o.Astray f := by
  obtain ⟨j, hji, hfault⟩ := hw.group_eq_error hb
  rcases hw.fault_of_topStatement hfault with ⟨hf, hnone⟩ | hastray
  · left
    refine ⟨hf, firstFrom_eq_none.2 ?_⟩
    intro k hik
    exact firstFrom_eq_none.1 hnone k (Nat.le_trans hji hik)
  · exact .inr hastray

/-- The search does not run out of its limit. -/
def Stops {α : Type} (r : Except LocateFault α) : Prop := ∀ line, r ≠ .error (.endless line)

/-- Groups are the maximal runs of unindented statements. -/
structure Grouped (o : Outline) : Prop where
  /-- The search stops. -/
  stops : ∀ p : Int, Stops (o.group (o.lineAt p))
  /-- It fails only where an unindented statement cannot be located, at the cursor or above it. -/
  refused : ∀ (p : Int) (f : LocateFault), o.group (o.lineAt p) = .error f →
    ∃ i, i ≤ o.lineAt p ∧ o.topStatement i = .error f
  /-- A group holds the unindented statement at the cursor. -/
  holds : ∀ (p : Int) (blk : Block), o.group (o.lineAt p) = .ok blk →
    ∃ top, o.topStatement (o.lineAt p) = .ok top ∧ top.Within blk
  /-- Every code line of a group is in an unindented statement that is in the group. -/
  whole : ∀ (p : Int) (blk : Block), o.group (o.lineAt p) = .ok blk →
    ∀ k, blk.HasLine k → o.isCode k = true →
      ∃ (q : Int) (top : Block), o.topStatement (o.lineAt q) = .ok top ∧ top.Within blk ∧
        top.HasLine k
  /-- Every blank line of a group that stands alone is strictly inside such a statement. -/
  blank : ∀ (p : Int) (blk : Block), o.group (o.lineAt p) = .ok blk →
    ∀ k, blk.HasLine k → o.isBlank k = true →
      ∃ (q : Int) (top : Block), o.topStatement (o.lineAt q) = .ok top ∧ top.Within blk ∧
        top.firstLine < k + 1 ∧ k + 1 < top.lastLine
  /-- A blank line stands alone between a group and the next code line below. -/
  below : ∀ (p : Int) (blk : Block), o.group (o.lineAt p) = .ok blk →
    ∀ j, o.nextCode blk.lastLine = some j → ∃ b, blk.lastLine ≤ b ∧ b < j ∧ o.isBlank b = true
  /-- So it does between a group and the code line above. -/
  above : ∀ (p : Int) (blk : Block), o.group (o.lineAt p) = .ok blk →
    ∀ j, o.lastBefore Row.isCode (blk.firstLine - 1) = some j →
      ∃ b, j < b ∧ b < blk.firstLine - 1 ∧ o.isBlank b = true

/-- A member of a run is the unindented statement at one of its lines. -/
theorem WellFormed.topStatement_of_member (hw : o.WellFormed) (h : o.Member s last r e) :
    ∃ q : Int, o.topStatement (o.lineAt q) = .ok (o.block .topStatement r e) := by
  obtain ⟨j, hj, hb⟩ := h.located
  refine ⟨o.lineStart j, ?_⟩
  rw [hw.lineAt_lineStart (lt_count_of_isCode hj)]
  simp only [topStatement, bind_eq_ok, codeLine_eq_ok]
  exact ⟨j, nextCode_self hj, (r, e), hb, rfl⟩

theorem Member.within {kind kind' : BlockKind} (h : o.Member s last r e) :
    (o.block kind r e).Within (o.block kind' s last) := by
  have hge := h.ge
  have hle := h.le
  intro i
  simp only [hasLine_block]
  omega

theorem WellFormed.grouped (hw : o.WellFormed) : o.Grouped := by
  constructor
  · intro p line hb
    rcases hw.fault_of_group hb with ⟨hnone, -⟩ | hastray
    · cases hnone
    · cases hastray
  · exact fun p f hb => hw.group_eq_error hb
  · intro p blk hb
    obtain ⟨r, e, first, last, htop, rfl, hfr, hel, -⟩ := hw.group_eq_ok hb
    refine ⟨_, htop, fun i => ?_⟩
    simp only [hasLine_block]
    omega
  · intro p blk hb k hk hcode
    obtain ⟨r, e, first, last, -, rfl, -, -, hrun, -⟩ := hw.group_eq_ok hb
    obtain ⟨hfk, hkl⟩ := hasLine_block.1 hk
    obtain ⟨r', e', hmember, hrk, hke⟩ := hrun k hfk hkl (.inl hcode)
    obtain ⟨q, hq⟩ := hw.topStatement_of_member hmember
    exact ⟨q, _, hq, hmember.within, hasLine_block.2 ⟨hrk, hke⟩⟩
  · intro p blk hb k hk hblank
    obtain ⟨r, e, first, last, -, rfl, -, -, hrun, -⟩ := hw.group_eq_ok hb
    obtain ⟨hfk, hkl⟩ := hasLine_block.1 hk
    obtain ⟨r', e', hmember, hrk, hke⟩ := hrun k hfk hkl (.inr hblank)
    obtain ⟨q, hq⟩ := hw.topStatement_of_member hmember
    -- Both ends of a statement are code.
    obtain ⟨j, hj, hre⟩ := hmember.located
    obtain ⟨htop, -, -⟩ := hw.top_of_topBounds hj hre
    have hr := ne_of_isBlank hblank (isCode_of_start htop.start)
    have he := ne_of_isBlank hblank (Ends.isCode hw htop.start htop.ends)
    refine ⟨q, _, hq, hmember.within, ?_, ?_⟩
    · show r' + 1 < k + 1
      omega
    · show k + 1 < e' + 1
      omega
  · intro p blk hb j hj
    obtain ⟨r, e, first, last, -, rfl, -, -, -, hbelow, -⟩ := hw.group_eq_ok hb
    exact joinedBelow_eq_none hbelow hj
  · intro p blk hb j hj
    obtain ⟨r, e, first, last, -, rfl, -, -, -, -, habove⟩ := hw.group_eq_ok hb
    exact joinedAbove_eq_none habove hj

/-- The groups of every text are its maximal runs of unindented statements. -/
theorem grouped_ofText (t : Text) : (ofText t).Grouped := (wellFormed_ofText t).grouped

/-- The blank line in the function does not end the group, but the one below it does. -/
example : ((ofText "x = 1\n# c\ndef f():\n  a\n\n  b\n\ny").group 0).toOption =
    some ⟨.group, 0, 27, 1, 6⟩ := by decide +kernel

end ReplSend.Outline
