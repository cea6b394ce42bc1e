import ReplSend.Proofs.Dedenting
import ReplSend.Proofs.Loader

/-!
# The line that is transmitted

Whatever is transmitted is one line, unless the name of the encoding holds a newline. For a located
unit that is transmitted as it is, that line is the unit's first: the unit has further lines only
if they are empty and the first leaves something open, and then the interpreter is left waiting
for them (`transmit_located`).
-/

namespace ReplSend

/-! ## The ends of lines -/

namespace Text

theorem dropEndWhile_append {p : Char → Bool} {s : Text} (hs : ∀ c ∈ s, p c = false) (t : Text) :
    dropEndWhile p (s ++ t) = s ++ dropEndWhile p t := by
  induction s with
  | nil => rfl
  | cons c s ih =>
    obtain ⟨hc, hs⟩ := List.forall_mem_cons.1 hs
    rw [List.cons_append, ← List.nil_append (c :: (s ++ t)), dropEndWhile_append_cons hc, ih hs]
    rfl

theorem exists_replicate_newline (t : Text) :
    ∃ k, t = dropEndWhile (· == '\n') t ++ List.replicate k '\n' := by
  refine ⟨(t.reverse.takeWhile (· == '\n')).length, ?_⟩
  have hall : ∀ c ∈ t.reverse.takeWhile (· == '\n'), c = '\n' := fun c hc => by
    simpa using List.all_eq_true.1 List.all_takeWhile c hc
  have hsplit := congrArg List.reverse
    (List.takeWhile_append_dropWhile (p := (· == '\n')) (l := t.reverse))
  rw [List.reverse_append, List.reverse_reverse, List.eq_replicate_of_mem hall,
    List.reverse_replicate] at hsplit
  simpa [dropEndWhile] using hsplit.symm

end Text

namespace Scan

/-- The tabs and spaces that a line starts with open and close nothing. -/
theorem next_dropWhile (l : Text) : clean.next (l.dropWhile Text.isTabOrSpace) = clean.next l := by
  have hsplit := List.takeWhile_append_dropWhile (p := Text.isTabOrSpace) (l := l)
  generalize l.dropWhile Text.isTabOrSpace = m at hsplit ⊢
  have hblank : ∀ c ∈ l.takeWhile Text.isTabOrSpace, Text.isTabOrSpace c = true := fun c hc =>
    List.all_eq_true.1 List.all_takeWhile c hc
  generalize l.takeWhile Text.isTabOrSpace = b at hsplit hblank
  subst hsplit
  have hvisible : visible (b ++ m) = b ++ visible m :=
    Text.dropEndWhile_append (fun c hc => by
      have := hblank c hc
      simp only [Text.isTabOrSpace, Bool.or_eq_true, beq_iff_eq] at this
      rcases this with rfl | rfl <;> rfl) m
  have hread : read clean 0 (b ++ visible m) = read clean 0 (visible m) :=
    read_blanks (fun c hc => Text.isBlank_of_isTabOrSpace (hblank c hc)) _
  have hjoined : { clean with joined := false } = clean := rfl
  rw [next, next, hvisible, hjoined, hread]
  -- the last character matters only after an open quote, and then there is one
  cases hm : visible m with
  | nil => rfl
  | cons c cs => simp [closeLine, List.getLast?_append]

end Scan

section

variable {τ : Type} {w : World τ} {b : Buffer} {blk : Block} {selection : Selection} {t : Text}

/-- What is sent for a located unit is its text, moved to the margin or as it is. -/
theorem World.lines_of_fragment (hb : b.Locates selection blk)
    (hf : w.fragment b selection = .ok (blk, t)) :
    ∃ f, Fragment.Shifts f ∧ Text.lines t = (Text.lines (blk.textIn b.text)).map f := by
  rw [fragment_of_locates hb] at hf
  split at hf
  · cases hd : Fragment.dedent (blk.textIn b.text) with
    | error n =>
      rw [dedented, hd] at hf
      cases hf
    | ok u =>
      rw [dedented, hd] at hf
      cases hf
      exact Fragment.lines_of_dedent hd
  · cases hf
    exact ⟨id, fun l => rfl, (List.map_id _).symm⟩

end

/-! ## Units of a single line -/

namespace Outline

variable {t : Text} {e s : Nat}

theorem continues_of_blank {o : Outline} {i : Nat} (hc : o.isCode i = true)
    (hk : o.kind i = .blank) : o.continues i = true := by
  rw [isCode, Row.isCode, show (o.row i).kind = .blank from hk] at hc
  exact (Bool.or_eq_true_iff.1 hc).resolve_right Bool.false_ne_true

/-- Blank lines above a code line continue the lines above them. -/
theorem WellFormed.continues_of_blanks {o : Outline} (hw : o.WellFormed) (he : o.isCode e = true)
    (hblank : ∀ i, s < i → i ≤ e → o.kind i = .blank) {i : Nat} (hsi : s < i) (hie : i ≤ e) :
    o.continues i = true := by
  induction hd : e - i generalizing i with
  | zero =>
    obtain rfl : i = e := by omega
    exact continues_of_blank he (hblank i hsi hie)
  | succ d ih =>
    have hnext := ih (i := i + 1) (by omega) (by omega) (by omega)
    exact continues_of_blank (hw.opened i hnext) (hblank i hsi hie)

/-- A unit with nothing but blank lines below its first has such lines exactly if the first leaves
something open. -/
theorem isOpen_next_iff (hclosed : (Scan.clean.after t.lines).isOpen = false)
    (hse : (ofText t).Whole s e) (hblank : ∀ i, s < i → i ≤ e → (ofText t).kind i = .blank)
    {l : Text} (hl : t.lines[s]? = some l) :
    (Scan.clean.next l).isOpen = true ↔ s < e := by
  have hcount := lt_count_of_isCode hse.last
  have hle := hse.le
  have hclean : Scan.clean.before t.lines s = .clean := by
    rw [← Scan.isOpen_eq_false, isOpen_before (by omega)]
    exact (start_iff.1 hse.start).2
  rw [← hclean, ← Scan.before_succ hl]
  constructor
  · intro hopen
    refine Nat.lt_of_le_of_ne hle fun h => ?_
    rcases Nat.lt_or_ge (s + 1) (ofText t).count with hlt | hge
    · rw [isOpen_before hlt, h, hse.closed] at hopen
      cases hopen
    · rw [count_ofText] at hge
      rw [Scan.before, List.take_of_length_le hge, hclosed] at hopen
      cases hopen
  · intro hlt
    rw [isOpen_before (by omega)]
    exact (wellFormed_ofText t).continues_of_blanks hse.last hblank (Nat.lt_succ_self s) hlt

end Outline

/-! ## What is written -/

theorem lines_of_isSimpleLine {t : Text} (h : isSimpleLine t = true) :
    '\n' ∉ withoutLineEnds t ∧
      ∃ k, Text.lines t = withoutLineEnds t :: List.replicate k [] := by
  simp only [isSimpleLine, Bool.and_eq_true, Bool.not_eq_true'] at h
  have hline : '\n' ∉ withoutLineEnds t := by simpa using h.1
  obtain ⟨k, hk⟩ := t.exists_replicate_newline
  refine ⟨hline, k, ?_⟩
  rw [← Text.lines_append_replicate hline, withoutLineEnds, ← hk]

theorem LineKind.ofLine_of_blanks {l : Text} (h : l.dropWhile Text.isTabOrSpace = []) :
    LineKind.ofLine l = .blank := by
  have hall : ∀ c ∈ l, Text.isTabOrSpace c = true := by simpa using h
  have hblank : Text.dropBlanks l = [] :=
    List.dropWhile_eq_nil_iff.2 fun c hc => Text.isBlank_of_isTabOrSpace (hall c hc)
  rw [ofLine, hblank]
  decide

section

variable {τ : Type} {w w' w₀ : World τ} {b : Buffer} {blk : Block} {selection : Selection}
  {n : Nat} {encoding t : Text} {keepMain : Bool}

/-- A unit that can be transmitted as it is leaves something open in its first line exactly if it
has more than one. -/
theorem isOpen_of_isSimpleLine (hclosed : (Scan.clean.after b.text.lines).isOpen = false)
    (hb : b.Locates selection blk) (hf : w.fragment b selection = .ok (blk, t))
    (hsimple : isSimpleLine t = true) :
    (Scan.clean.after [withoutLineEnds t]).isOpen = true ↔ blk.firstLine < blk.lastLine := by
  obtain ⟨f, hshift, hlines⟩ := World.lines_of_fragment hb hf
  obtain ⟨s, e, kind, hse, rfl⟩ := hb.whole
  obtain ⟨-, k, hk⟩ := lines_of_isSimpleLine hsimple
  have hle := hse.le
  have hcount := Outline.lt_count_of_isCode hse.last
  rw [Buffer.outline, Outline.lines_textIn_block hle hcount, hk] at hlines
  rw [Buffer.outline, Outline.count_ofText] at hcount
  have hline : ∀ i, s ≤ i → (hi : i ≤ e) →
      (withoutLineEnds t :: List.replicate k [])[i - s]? = some (f (b.text.lines[i])) := by
    intro i hsi hie
    rw [hlines, List.getElem?_map, List.getElem?_take_of_lt (by omega), List.getElem?_drop,
      Nat.add_sub_cancel' hsi, List.getElem?_eq_getElem (by omega), Option.map_some]
  have hfirst : withoutLineEnds t = f b.text.lines[s] := by
    have := hline s (Nat.le_refl s) hle
    rwa [Nat.sub_self, List.getElem?_cons_zero, Option.some.injEq] at this
  have hblank : ∀ i, s < i → i ≤ e → (Outline.ofText b.text).kind i = .blank := by
    intro i hsi hie
    have hempty : f b.text.lines[i] = [] := by
      have := hline i (Nat.le_of_lt hsi) hie
      rw [show i - s = i - s - 1 + 1 by omega, List.getElem?_cons_succ] at this
      exact List.eq_of_mem_replicate (List.mem_of_getElem? this)
    rw [Outline.kind, Outline.row_ofText_of_line (List.getElem?_eq_getElem (by omega))]
    refine LineKind.ofLine_of_blanks ?_
    rw [← hshift, hempty]
    rfl
  have hnext : Scan.clean.after [withoutLineEnds t] = Scan.clean.next b.text.lines[s] := by
    rw [hfirst, ← Scan.next_dropWhile b.text.lines[s], ← hshift, Scan.next_dropWhile]
    rfl
  rw [hnext, Outline.isOpen_next_iff hclosed hse hblank (List.getElem?_eq_getElem (by omega))]
  simp only [Outline.block]
  omega

/-- Of a located unit of a text that leaves nothing open, a line is written that holds a newline
only if the name of the encoding does. If it is the unit's own text, something is left open at its
end exactly if the unit has more than one line. -/
theorem transmit_located (hclosed : (Scan.clean.after b.text.lines).isOpen = false)
    (hb : b.Locates selection blk) (hf : w₀.fragment b selection = .ok (blk, t))
    (htemporary : '\n' ∉ w.host.temporary)
    (h : Act.transmit n encoding keepMain t w = (.ok (), w')) :
    ∃ s c line bytes file, w'.writes = (n, bytes, file) :: w.writes ∧
      w.sessions[n]? = some s ∧ w.host.codecs.find? s.encoding = some c ∧
      c.encode? (line ++ ['\n']) = some bytes ∧
      ('\n' ∈ line ↔ file.isSome = true ∧ '\n' ∈ encoding) ∧
      match file with
      | none => line = withoutLineEnds t ∧
        ((Scan.clean.after [line]).isOpen = true ↔ blk.firstLine < blk.lastLine)
      | some _ => line = Loader.command w.host.temporary encoding keepMain true := by
  rw [Act.transmit_apply] at h
  cases ht : w.transmission n encoding keepMain t with
  | error e =>
    rw [ht] at h
    cases h
  | ok sent =>
    obtain ⟨bytes, file⟩ := sent
    rw [ht] at h
    cases h
    obtain ⟨s, c, line, hs, hc, hencode, hline⟩ := World.line_of_transmission ht
    refine ⟨s, c, line, bytes, file, World.writes_wrote hs, hs, hc, hencode, ?_⟩
    cases file with
    | none =>
      obtain ⟨hsimple, rfl⟩ := hline
      refine ⟨?_, rfl, isOpen_of_isSimpleLine hclosed hb hf hsimple⟩
      simpa using (lines_of_isSimpleLine hsimple).1
    | some f =>
      have hcommand := hline.1
      refine ⟨?_, hcommand⟩
      rw [hcommand, Loader.newline_mem_command]
      simp [htemporary]

end

/-- An assignment with a bracket in a comment. -/
def commented : Buffer := ⟨"if x:\n    y = [1]  # [\n", 10, "a.py", none, "utf-8"⟩

/-- The bracket in the comment is not waited for. -/
theorem transmit_located_commented : ∃ line bytes w',
    Act.transmit 0 "utf-8" true "y = [1]  # [" (.waiting .default) = (.ok (), w') ∧
      w'.writes = [(0, bytes, none)] ∧ Encoding.utf8.encode? (line ++ ['\n']) = some bytes ∧
      '\n' ∉ line ∧ (Scan.clean.after [line]).isOpen = false := by
  have hclosed : (Scan.clean.after commented.text.lines).isOpen = false := by decide +kernel
  have hb : commented.Locates .statement ⟨.statement, 6, 22, 2, 2⟩ := by decide +kernel
  have hf : (World.waiting .default).fragment commented .statement =
      .ok (⟨.statement, 6, 22, 2, 2⟩, "y = [1]  # [") := by
    decide +kernel
  have heval : (Act.transmit 0 "utf-8" true "y = [1]  # [" (.waiting .default)).1.toOption.isSome ∧
      (Act.transmit 0 "utf-8" true "y = [1]  # [" (.waiting .default)).2.writes.map (·.2.2) =
        [none] := by
    decide +kernel
  obtain ⟨_, hok⟩ := Act.eq_ok_of_isSome heval.1
  obtain ⟨⟨m, bytes, file⟩, hwrite, rfl⟩ := List.map_eq_singleton_iff.1 heval.2
  obtain ⟨s, c, line, _, file, hwrites, hs, hc, hencode, hnewline, hline⟩ :=
    transmit_located hclosed hb hf (by decide) hok
  have hutf8 : Codecs.basic.find? "utf-8" = some Encoding.utf8.codec :=
    Codecs.known _ (by decide +kernel)
  cases hwrites.symm.trans hwrite
  cases hs
  cases hutf8.symm.trans hc
  refine ⟨line, bytes, _, hok, hwrite, hencode, fun h => ?_, Bool.eq_false_iff.2 fun h => ?_⟩
  · exact absurd (hnewline.1 h).1 Bool.false_ne_true
  · exact absurd (hline.2.1 h) (Nat.lt_irrefl 2)

/-- A line that is joined to an empty line below it. -/
def joined : Buffer := ⟨"x = 1 \\\n", 0, "a.py", none, "utf-8"⟩

/-- The line is written alone, and the interpreter waits for the line that it is joined to. -/
theorem not_closed_joined : (Scan.clean.after joined.text.lines).isOpen = false ∧
    joined.Locates .statement ⟨.statement, 0, 8, 1, 2⟩ ∧
    (World.waiting .default).fragment joined .statement =
      .ok (⟨.statement, 0, 8, 1, 2⟩, "x = 1 \\\n") ∧
    (Act.transmit 0 "utf-8" true "x = 1 \\\n" (.waiting .default)).1 = .ok () ∧
    (Act.transmit 0 "utf-8" true "x = 1 \\\n" (.waiting .default)).2.writes =
      [(0, (Encoding.utf8.encode? "x = 1 \\\n").getD [], none)] ∧
    (Scan.clean.after ["x = 1 \\"]).isOpen = true := by
  decide +kernel

end ReplSend
