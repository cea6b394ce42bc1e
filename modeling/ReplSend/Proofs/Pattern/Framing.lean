import ReplSend.Proofs.Pattern.Turn
import ReplSend.Proofs.Prompt

/-!
# The frame of a prompt pattern

A prompt pattern is read within a frame: the line end before the prompt and the blanks after it.
Within the frame a pattern is read as it is by itself, but for one kind of pattern: options for the
whole pattern do not stand at the start any more, and the frame around them is no pattern
(`pattern_of_parse`).
-/

namespace ReplSend.Prompt

open Pattern

variable {named : Text → Option Char} {n : Nat} {p : Pattern} {s : Seen} {regexp t : Text}

/-- A character that may be missing. -/
def optional (x : Char) : Pattern := .many (char x) 0 (some 1) .greedy

/-- The blanks after a prompt. -/
def blanks : Pattern := .many (.one ⟨false, [.range 32 32, .range 9 9], .exact⟩) 0 none .greedy

/-- A pattern with the line end before it and the blanks after it. -/
def framed (p : Pattern) : Pattern :=
  .seq (optional '\r') <| .seq (optional '\n') <| .seq p <| .seq blanks (.anchor .textEnd)

/-- What has been read when the pattern itself begins. -/
def lineEnd : Reading :=
  { Reading.start .plain true with
    pieces := [⟨optional '\n', .repeated⟩, ⟨optional '\r', .repeated⟩] }

/-- What stands behind the pattern and its parenthesis. -/
def behind : Text := "[ \\t]*\\Z"

theorem close_behind : (")[ \\t]*\\Z" : Text) = ')' :: behind := by decide +kernel

theorem embedded_eq : embedded regexp = "\\r?\\n?(?:" ++ (regexp ++ ')' :: behind) := by
  rw [← close_behind]
  exact List.append_assoc _ _ _

theorem length_embedded : (embedded regexp).length = regexp.length + 18 := by
  have hbefore : ("\\r?\\n?(?:" : Text).length = 9 := rfl
  have hbehind : behind.length = 8 := rfl
  rw [embedded_eq, List.length_append, List.length_append, List.length_cons, hbefore, hbehind]
  omega

theorem readGroup_lineEnd :
    readGroup named (n + 4) (.start .plain true) .start ("\\r?\\n?(?:" ++ t) =
      readGroup named n lineEnd .start ('(' :: '?' :: ':' :: t) := rfl

theorem turn_pattern (t : Text) : lineEnd.turn named .start '(' ('?' :: ':' :: t) =
    .ok (.enter .plain (.start .plain false) .start t) := rfl

theorem readGroup_behind :
    readGroup named (n + 3) (lineEnd.push ⟨p, .plain⟩) s behind = .ok (framed p, s, []) := by
  have hread : readGroup named (n + 3) (lineEnd.push ⟨p, .plain⟩) s behind =
      .ok (framed p, { s with flawed := s.flawed || false }, []) := by
    cases n <;> rfl
  rw [hread, Bool.or_false]

/-- Without a fault the whole text has been read. -/
theorem eq_nil_of_fault?_eq_none (h : s.fault? t = none) : t = [] := by
  refine Decidable.byContradiction fun hne => ?_
  have hrest : (!t.isEmpty) = true := by simp [hne]
  unfold Seen.fault? at h
  rw [hrest] at h
  split at h <;> cases h

/-- A pattern is read within its frame as it is by itself, unless options for the whole pattern
stand at its start: the frame is then not a pattern. -/
theorem pattern_of_parse (h : parse named regexp = .ok p) : pattern named regexp =
    if SetsOptions regexp then .error .malformed else .ok (framed p) := by
  unfold parse at h
  split at h
  · cases h
  rename_i s rest hread
  split at h
  · cases h
  rename_i hfault
  cases h
  obtain rfl := eq_nil_of_fault?_eq_none hfault
  unfold pattern parse
  rw [length_embedded, embedded_eq, readGroup_lineEnd (n := regexp.length + 15)]
  by_cases hsets : SetsOptions regexp
  · have hrefused : readGroup named (regexp.length + 14) (.start .plain false) .start
        (regexp ++ ')' :: behind) = .error .malformed :=
      readGroup_eq_malformed (opensWithOptions_iff.2 hsets) rfl behind
    rw [readGroup_of_inner_error _ _ (turn_pattern _) hrefused, if_pos hsets]
  · have hopens : opensWithOptions regexp = false :=
      Bool.eq_false_iff.2 fun h => hsets (opensWithOptions_iff.1 h)
    have hf : Embeds (.start .plain true) regexp [] :=
      ⟨fun hspaced => absurd hspaced Bool.false_ne_true, fun _ => rfl, fun _ _ _ => hopens⟩
    have hgroup : readGroup named (regexp.length + 14) (.start .plain false) .start
        (regexp ++ ')' :: behind) = .ok (p, s, ')' :: behind) :=
      readGroup_append hread hf (Nat.le_add_right _ 12) behind
    rw [readGroup_of_enter _ _ (turn_pattern _) hgroup, if_neg hsets]
    simp only [Enclosure.close, readGroup_behind, hfault]

end ReplSend.Prompt
