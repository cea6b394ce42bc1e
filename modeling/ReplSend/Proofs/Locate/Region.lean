import ReplSend.Proofs.Offsets
import ReplSend.Sending

/-!
# Regions are the lines that a selection touches

A character is on the line that has as many lines above it as newlines stand before the character,
so a newline is on the line that it ends (`Text.lineOf`); that is also the line at its offset
(`lineAt_eq_lineOf`). A region reaches from the line of the first character that is selected to the
line of the last one (`region_eq`). So it holds the lines that the selection touches and no others,
and of what is selected it leaves out at most a newline at the end (`region_touched`).
-/

namespace ReplSend

/-! ## The line of a character -/

namespace Text

/-- The line of the character at an offset, counted from zero. -/
def lineOf (t : Text) (k : Nat) : Nat := (t.take k).count '\n'

/-- Line `i` has one of the characters between two offsets, or the offset itself if there are no
characters between them. -/
def Touches (t : Text) (a b i : Nat) : Prop :=
  (∃ k, a ≤ k ∧ k < b ∧ t.lineOf k = i) ∨ a = b ∧ t.lineOf a = i

theorem length_lines (t : Text) : (lines t).length = t.count '\n' + 1 := by
  induction t with
  | nil => rfl
  | cons c t ih =>
    rw [lines]
    split
    · rename_i hc
      rw [hc, List.count_cons_self, List.length_cons, ih]
    · rename_i hc
      obtain ⟨l, ls, hl⟩ := List.exists_cons_of_ne_nil (lines_ne_nil t)
      rw [List.count_cons_of_ne hc, ← ih, hl]
      rfl

theorem lineOf_extent_add {t l : Text} {i m : Nat} (hl : (lines t)[i]? = some l)
    (hm : m ≤ l.length) : t.lineOf (extent ((lines t).take i) + m) = i := by
  have hlt := (List.getElem?_eq_some_iff.1 hl).1
  have hcount := length_lines (t.take (extent ((lines t).take i) + m))
  rw [lines_take hl hm, List.length_append, List.length_take_of_le (Nat.le_of_lt hlt)] at hcount
  exact (Nat.succ.inj hcount).symm

end Text

namespace Outline

variable {o : Outline} {t : Text} {a b i k : Nat}

theorem lineAt_eq_lineOf (hk : k ≤ t.length) : (ofText t).lineAt k = t.lineOf k := by
  have hspans := (lineAt_natCast_eq_iff hk).1 rfl
  generalize (ofText t).lineAt k = i at hspans ⊢
  have hi := hspans.inside
  rw [count_ofText] at hi
  have hl := List.getElem?_eq_getElem hi
  have hstarts := hspans.starts
  have hstops := hspans.stops
  rw [lineStart_of_line hl] at hstarts
  rw [lineStop_of_line hl] at hstops
  obtain ⟨m, hm⟩ := Nat.exists_eq_add_of_le (Int.ofNat_le.1 hstarts)
  rw [hm, Text.lineOf_extent_add hl (by omega)]

/-! ## The lines of a region -/

theorem region_comm (o : Outline) (p q : Int) : o.region p q = o.region q p := by
  rw [region, region, Int.min_comm, Int.max_comm]

/-- A region ends with the line of the last character before the later offset. -/
theorem region_eq (hab : a ≤ b) (hb : b ≤ t.length) : (ofText t).region a b =
    (ofText t).block .region ((ofText t).lineAt a) ((ofText t).lineAt (max a (b - 1) : Nat)) := by
  have hw := wellFormed_ofText t
  have hmin : min (a : Int) b = a := by omega
  have hmax : max (a : Int) b = b := by omega
  rw [region, hmin, hmax]
  refine congrArg _ ?_
  rcases Nat.eq_or_lt_of_le hab with rfl | hlt
  · rw [if_neg fun h => Nat.lt_irrefl _ h.1, Nat.max_eq_left (Nat.sub_le a 1)]
  have hspans := (lineAt_natCast_eq_iff hb).1 rfl
  rw [Nat.max_eq_right (by omega), eq_comm, lineAt_natCast_eq_iff (by omega)]
  generalize (ofText t).lineAt b = last at hspans
  have hstarts := hspans.starts
  have hstops := hspans.stops
  by_cases hstart : (b : Int) = (ofText t).lineStart last
  · have h0 : 0 < last := by
      rcases Nat.eq_zero_or_pos last with rfl | h0
      · rw [hw.origin] at hstart
        omega
      · exact h0
    have hbelow := mt (hw.le_lineAt_iff h0 hspans.inside a).1 (by omega)
    have hsucc := lineStart_succ (t := t) (i := last - 1) (by have := hspans.inside; omega)
    rw [Nat.sub_add_cancel h0] at hsucc
    have hends := (ofText t).lineStart_le_lineStop (last - 1)
    have hinside := hspans.inside
    rw [if_pos ⟨by omega, hstart⟩]
    exact ⟨by omega, by omega, by omega⟩
  · rw [if_neg fun h => hstart h.2]
    exact ⟨hspans.inside, by omega, by omega⟩

/-- The lines that are touched are those from the first character's to the last one's. -/
theorem touches_iff (hab : a ≤ b) (hb : b ≤ t.length) : t.Touches a b i ↔
    (ofText t).lineAt a ≤ i ∧ i ≤ (ofText t).lineAt (max a (b - 1) : Nat) := by
  have hw := wellFormed_ofText t
  constructor
  · rintro (⟨k, hak, hkb, rfl⟩ | ⟨rfl, rfl⟩)
    · rw [← lineAt_eq_lineOf (by omega)]
      exact ⟨hw.lineAt_mono (by omega), hw.lineAt_mono (by omega)⟩
    · rw [← lineAt_eq_lineOf hb, Nat.max_eq_left (Nat.sub_le a 1)]
      exact ⟨Nat.le_refl _, Nat.le_refl _⟩
  · rintro ⟨hai, hib⟩
    rcases Nat.eq_or_lt_of_le hab with rfl | hlt
    · rw [Nat.max_eq_left (Nat.sub_le a 1)] at hib
      exact .inr ⟨rfl, by rw [← lineAt_eq_lineOf hb]; exact Nat.le_antisymm hai hib⟩
    · rw [Nat.max_eq_right (by omega)] at hib
      rcases Nat.eq_or_lt_of_le hai with rfl | hlower
      · exact .inl ⟨a, Nat.le_refl a, hlt, (lineAt_eq_lineOf (by omega)).symm⟩
      -- A line below that of the first character is touched at its own start.
      · have hcount : i < (ofText t).count := Nat.lt_of_le_of_lt hib (lineAt_lt_count t _)
        have h0 := Nat.zero_lt_of_lt hlower
        have hfirst := mt (hw.le_lineAt_iff h0 hcount a).2 (Nat.not_le_of_lt hlower)
        have hlast := (hw.le_lineAt_iff h0 hcount _).1 hib
        refine .inl ⟨(ofText t).lineStart i, by omega, by omega, ?_⟩
        rw [← lineAt_eq_lineOf (by omega), hw.lineAt_lineStart hcount]

/-- The block is what is selected between two offsets of a text, in whole lines. -/
structure Selected (t : Text) (a b : Nat) (blk : Block) : Prop where
  kind : blk.kind = .region
  /-- The lines of the block are those that the selection touches. -/
  lines : ∀ i, blk.HasLine i ↔ t.Touches a b i
  text : blk.textIn t =
    Text.unlines ((t.lines.drop (blk.firstLine - 1)).take (blk.lastLine + 1 - blk.firstLine))
  starts : blk.start ≤ a
  /-- A newline at the end of the selection may lie behind the block, and nothing else. -/
  stops : b ≤ blk.stop ∨ b = blk.stop + 1 ∧ t[blk.stop]? = some '\n'

theorem selected_region (hab : a ≤ b) (hb : b ≤ t.length) :
    Selected t a b ((ofText t).region a b) := by
  have hw := wellFormed_ofText t
  have hlower : (ofText t).lineAt a ≤ (ofText t).lineAt (max a (b - 1) : Nat) :=
    hw.lineAt_mono (by omega)
  have hcount := lineAt_lt_count t (max a (b - 1) : Nat)
  have hfirst := (lineAt_natCast_eq_iff (Nat.le_trans hab hb)).1 rfl
  have hlast := (lineAt_natCast_eq_iff (t := t) (k := max a (b - 1)) (by omega)).1 rfl
  rw [region_eq hab hb]
  refine ⟨rfl, fun i => ?_, ?_, ?_, ?_⟩
  · rw [hasLine_block, touches_iff hab hb]
  · rw [textIn_block hlower hcount]
    show _ = Text.unlines ((t.lines.drop _).take (_ + 1 + 1 - (_ + 1)))
    rw [Nat.add_sub_add_right]
    rfl
  · have := hfirst.starts
    show (ofText t).lineStart _ ≤ a
    omega
  · show b ≤ (ofText t).lineStop _ ∨ b = (ofText t).lineStop _ + 1 ∧ _
    have hstops := hlast.stops
    generalize (ofText t).lineAt (max a (b - 1) : Nat) = i at hcount hstops ⊢
    rcases Nat.lt_or_ge ((ofText t).lineStop i) b with hlt | hge
    · have hnext : i + 1 ≠ (ofText t).count := fun h => by
        rw [lineStop_of_last h] at hlt
        omega
      exact .inr ⟨by omega, getElem?_lineStop (Nat.lt_of_le_of_ne hcount hnext)⟩
    · exact .inl hge

end Outline

/-! ## What is sent for a region -/

variable {b : Buffer} {x y : Nat}

/-- A region is the same from either end: the lines that the selection touches. They are what is
sent for it, behind the cookie and, where the region is indented, a guard. -/
theorem region_touched (hxy : x ≤ y) (hy : y ≤ b.text.length) :
    b.outline.region y x = b.outline.region x y ∧
      Outline.Selected b.text x y (b.outline.region x y) ∧
      ∃ lead, (lead = Fragment.cookie b.encoding ∨
          lead = Fragment.cookie b.encoding ++ Fragment.guardLine) ∧
        ∀ {τ : Type} (w : World τ), w.fragment b (.region x y) =
          .ok (b.outline.region x y, lead ++ (b.outline.region x y).textIn b.text) := by
  refine ⟨b.outline.region_comm y x, Outline.selected_region hxy hy, ?_⟩
  simp only [World.fragment, Fragment.withCookie]
  rcases Fragment.guarded_eq ((b.outline.region x y).textIn b.text) with hsame | hguard
  · rw [hsame]
    exact ⟨_, .inl rfl, fun _ => rfl⟩
  · rw [hguard, ← List.append_assoc]
    exact ⟨_, .inr rfl, fun _ => rfl⟩

/-- An empty line, and an indented one that ends at the start of another. -/
def gapped : Buffer := ⟨"x = 1\n\n  y = 2\nz = 3", 0, "a.py", none, "utf-8"⟩

/-- The selection reaches from the newline of the empty line to the start of the last line, of which
nothing is sent. -/
theorem region_touched_newlines : 6 ≤ 15 ∧ 15 ≤ gapped.text.length ∧
    gapped.outline.region 15 6 = ⟨.region, 6, 14, 2, 3⟩ ∧
    Outline.Selected gapped.text 6 15 ⟨.region, 6, 14, 2, 3⟩ := by
  have hlength : 15 ≤ gapped.text.length := by decide +kernel
  have hregion : gapped.outline.region 6 15 = ⟨.region, 6, 14, 2, 3⟩ := by decide +kernel
  have htouched := region_touched (b := gapped) (show 6 ≤ 15 by decide) hlength
  refine ⟨by decide, hlength, htouched.1.trans hregion, ?_⟩
  rw [← hregion]
  exact htouched.2.1

end ReplSend
