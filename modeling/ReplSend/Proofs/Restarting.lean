import ReplSend.Proofs.Source

/-!
# Where a scan can begin afresh

A scan takes the lines one by one and carries along what they leave open (`Scan.states_append`). So
whether a line continues the one above depends on the lines above it alone, and where a line
continues nothing there is nothing to carry: brackets, strings and joined lines are closed all at
once, and the lines from there on are scanned as they would be by themselves
(`continuations_restart`).
-/

namespace ReplSend

namespace Scan

variable {s : Scan} {ls : List Text} {i : Nat}

theorem length_states (s : Scan) (ls : List Text) : (s.states ls).length = ls.length := by
  induction ls generalizing s with
  | nil => rfl
  | cons l ls ih => rw [states, List.length_cons, ih, List.length_cons]

theorem states_append (s : Scan) (ls ms : List Text) :
    s.states (ls ++ ms) = s.states ls ++ (s.after ls).states ms := by
  induction ls generalizing s with
  | nil => rfl
  | cons l ls ih =>
    rw [List.cons_append, states, ih]
    rfl

/-- The lines from a place on are scanned with what the lines above it leave open. -/
theorem drop_states (hi : i ≤ ls.length) :
    (s.states ls).drop i = (s.before ls i).states (ls.drop i) := by
  have hsplit := states_append s (ls.take i) (ls.drop i)
  have hlength := length_states s (ls.take i)
  rw [List.length_take_of_le hi] at hlength
  rw [List.take_append_drop] at hsplit
  rw [hsplit, List.drop_left' hlength]
  rfl

/-- Down to a line the states come of the lines above it. -/
theorem take_states (hi : i < ls.length) :
    (s.states ls).take (i + 1) = s.states (ls.take i) ++ [s.after (ls.take i)] := by
  have hsplit := states_append s (ls.take i) (ls.drop i)
  have hlength := length_states s (ls.take i)
  rw [List.length_take_of_le (Nat.le_of_lt hi)] at hlength
  rw [List.take_append_drop, List.drop_eq_getElem_cons hi, states] at hsplit
  rw [hsplit, List.take_append, hlength, Nat.add_sub_cancel_left,
    List.take_of_length_le (by omega)]
  rfl

end Scan

namespace Outline

/-- For each line of the table, whether it continues the one above. -/
def flags (o : Outline) : List Bool := o.rows.toList.map Row.continues

theorem flags_ofText (t : Text) : (ofText t).flags = continuations t.lines := by
  have hrows : ∀ (offset : Nat) (s : Scan) (ls : List Text),
      (Row.ofLines offset s ls).map Row.continues = (s.states ls).map Scan.isOpen := by
    intro offset s ls
    induction ls generalizing offset s with
    | nil => rfl
    | cons l ls ih => rw [Row.ofLines, Scan.states, List.map_cons, List.map_cons, ih]
  exact hrows 0 .clean t.lines

variable {t : Text} {i : Nat}

/-- A line continues nothing exactly if nothing is open above it, and exactly if the lines from it
on by themselves are flagged as they are in the text. Other lines from it on change neither its own
flag nor any above it. -/
theorem continuations_restart (hi : i < (ofText t).count) :
    ((ofText t).continues i = false ↔ Scan.clean.before t.lines i = .clean) ∧
      ((ofText t).continues i = false ↔
        continuations (t.lines.drop i) = (ofText t).flags.drop i) ∧
      ∀ ls : List Text, i < ls.length → ls.take i = t.lines.take i →
        (continuations ls).take (i + 1) = (ofText t).flags.take (i + 1) := by
  have hclean : (ofText t).continues i = false ↔ Scan.clean.before t.lines i = .clean := by
    rw [← isOpen_before hi, Scan.isOpen_eq_false]
  have hlt : i < t.lines.length := by rwa [← count_ofText]
  have hdrop : (ofText t).flags.drop i =
      ((Scan.clean.before t.lines i).states (t.lines.drop i)).map Scan.isOpen := by
    rw [flags_ofText, continuations, ← List.map_drop, Scan.drop_states (Nat.le_of_lt hlt)]
  refine ⟨hclean, ⟨fun h => ?_, fun h => ?_⟩, fun ls hls hsame => ?_⟩
  · rw [hdrop, hclean.1 h]
    rfl
  -- Of the lines by themselves the first continues nothing.
  · rw [hdrop, List.drop_eq_getElem_cons hlt] at h
    have hhead := (List.cons.inj h).1
    rw [← isOpen_before hi, ← hhead]
    rfl
  · rw [flags_ofText, continuations, continuations, ← List.map_take, ← List.map_take,
      Scan.take_states hls, Scan.take_states hlt, hsame]

/-- A bracket and a string that are open together, one bracket too many and a string that is not
closed, above a line that continues nothing. -/
def tangled : Text := "f('a',\n\"\"\"\n\"\"\"))\ng = 'b\nh = [\n1]"

theorem continuations_restart_tangled : 4 < (ofText tangled).count ∧
    continuations (tangled.lines.drop 4) = (ofText tangled).flags.drop 4 ∧
    (ofText tangled).flags = [false, true, true, false, false, true] := by
  have hcount : 4 < (ofText tangled).count := by decide +kernel
  have hflags : (ofText tangled).continues 4 = false ∧
      (ofText tangled).flags = [false, true, true, false, false, true] := by decide +kernel
  exact ⟨hcount, (continuations_restart hcount).2.1.1 hflags.1, hflags.2⟩

end Outline

end ReplSend
