import ReplSend.Capture

/-!
# Captures and how output is cut

A capture is fed with output in chunks that may be cut anywhere. Until the boundary shows up in
what has been collected it says nothing (`feedAll_silent`), with the chunk that completes a boundary
it gives its one message, and afterwards chunks change nothing (`feedAll_endsAt`). So the message
does not depend on the cutting, as long as no boundary shows up before the output is complete
(`feedAll_spec`).
-/

namespace ReplSend.Capture

variable {boundary : Text → Option Nat} {c : Capture} {chunk : Text} {chunks : List Text}
  {k o : Nat}

/-! ## One chunk -/

theorem feed_flushed (h : c.flushed = true) : c.feed boundary chunk = (c, []) := by
  rw [feed, if_pos h]

theorem feed_none (h : c.flushed = false) (hb : boundary (c.text ++ chunk) = none) :
    c.feed boundary chunk = (⟨c.text ++ chunk, false⟩, []) := by
  simp [feed, h, hb]

theorem feed_some (h : c.flushed = false) (hb : boundary (c.text ++ chunk) = some o) :
    c.feed boundary chunk =
      (⟨[], true⟩, [.flush, .summary (.ofOutput ((c.text ++ chunk).take o))]) := by
  simp [feed, h, hb]

/-! ## Chunks one after the other -/

/-- What becomes of a capture that is fed with chunks, and what each of them leads to. -/
def feedAll (boundary : Text → Option Nat) (c : Capture) : List Text → Capture × List (List Signal)
  | [] => (c, [])
  | chunk :: chunks =>
    let fed := c.feed boundary chunk
    let rest := feedAll boundary fed.1 chunks
    (rest.1, fed.2 :: rest.2)

theorem feedAll_append (c : Capture) (xs ys : List Text) :
    feedAll boundary c (xs ++ ys) =
      ((feedAll boundary (feedAll boundary c xs).1 ys).1,
        (feedAll boundary c xs).2 ++ (feedAll boundary (feedAll boundary c xs).1 ys).2) := by
  induction xs generalizing c with
  | nil => rfl
  | cons x xs ih => simp only [List.cons_append, feedAll, ih]

theorem feedAll_flushed (h : c.flushed = true) (chunks : List Text) :
    feedAll boundary c chunks = (c, List.replicate chunks.length []) := by
  induction chunks with
  | nil => rfl
  | cons chunk chunks ih =>
    rw [feedAll, feed_flushed h]
    dsimp only
    rw [ih]
    rfl

/-- As long as no boundary shows up, output is collected. -/
theorem feedAll_silent (hf : c.flushed = false)
    (h : ∀ j < chunks.length, boundary (c.text ++ (chunks.take (j + 1)).flatten) = none) :
    feedAll boundary c chunks =
      (⟨c.text ++ chunks.flatten, false⟩, List.replicate chunks.length []) := by
  induction chunks generalizing c with
  | nil =>
    obtain ⟨text, flushed⟩ := c
    obtain rfl : flushed = false := hf
    simp [feedAll]
  | cons chunk chunks ih =>
    have hfirst : boundary (c.text ++ chunk) = none := by simpa using h 0 (by simp)
    have hrest : ∀ j < chunks.length,
        boundary (c.text ++ chunk ++ (chunks.take (j + 1)).flatten) = none := fun j hj => by
      simpa using h (j + 1) (by simpa using hj)
    rw [feedAll, feed_none hf hfirst]
    dsimp only
    rw [ih rfl hrest, List.flatten_cons, List.append_assoc]
    rfl

/-! ## The chunk that completes a boundary -/

/-- Chunk `k` is the first with which a boundary shows up, at an offset of the output so far. -/
structure EndsAt (boundary : Text → Option Nat) (chunks : List Text) (k o : Nat) : Prop where
  within : k < chunks.length
  found : boundary (chunks.take (k + 1)).flatten = some o
  before : ∀ j < k, boundary (chunks.take (j + 1)).flatten = none

theorem silent_of_not_endsAt (h : ∀ k o, ¬ EndsAt boundary chunks k o) :
    ∀ j < chunks.length, boundary (chunks.take (j + 1)).flatten = none := by
  intro j hj
  induction j using Nat.strongRecOn with
  | ind j ih =>
    cases hb : boundary (chunks.take (j + 1)).flatten with
    | none => rfl
    | some o => exact absurd ⟨hj, hb, fun i hi => ih i hi (by omega)⟩ (h j o)

/-- Collecting the first chunks, none of which completes a boundary. -/
theorem feedAll_take {n : Nat} (hn : n ≤ chunks.length)
    (h : ∀ j < n, boundary (chunks.take (j + 1)).flatten = none) :
    feedAll boundary empty (chunks.take n) =
      (⟨(chunks.take n).flatten, false⟩, List.replicate n []) := by
  have hlength : (chunks.take n).length = n := List.length_take_of_le hn
  rw [feedAll_silent rfl fun j hj => ?_, hlength]
  · rfl
  · rw [hlength] at hj
    rw [List.take_take, Nat.min_eq_left (by omega)]
    exact h j hj

/-- From the chunk on that completes a boundary, the capture is flushed and the message given. -/
theorem feedAll_endsAt (h : EndsAt boundary chunks k o) {n : Nat} (hkn : k < n)
    (hn : n ≤ chunks.length) :
    feedAll boundary empty (chunks.take n) = (⟨[], true⟩, List.replicate k [] ++
      [.flush, .summary (.ofOutput ((chunks.take (k + 1)).flatten.take o))] ::
        List.replicate (n - k - 1) []) := by
  have hk := h.within
  have hsplit : chunks.take n =
      chunks.take k ++ chunks[k] :: (chunks.take n).drop (k + 1) := by
    have hcut := List.take_append_drop k (chunks.take n)
    rwa [List.take_take, Nat.min_eq_left (by omega),
      List.drop_eq_getElem_cons (by rw [List.length_take]; omega), List.getElem_take,
      eq_comm] at hcut
  have hcollected : (chunks.take k).flatten ++ chunks[k] = (chunks.take (k + 1)).flatten := by
    rw [List.take_succ_eq_append_getElem hk, List.flatten_append, List.flatten_singleton]
  have hlength : ((chunks.take n).drop (k + 1)).length = n - k - 1 := by
    rw [List.length_drop, List.length_take]
    omega
  have hfound := h.found
  rw [← hcollected] at hfound
  rw [hsplit, feedAll_append, feedAll_take (by omega) h.before, feedAll, feed_some rfl hfound]
  dsimp only
  rw [feedAll_flushed rfl, hlength, hcollected]

/-! ## The message and the cutting -/

/-- What output leads to in which a boundary shows up only when it is complete. -/
theorem feedAll_whole (hne : chunks ≠ [])
    (h : ∀ p, p <+: chunks.flatten → p ≠ chunks.flatten → boundary p = none) :
    (feedAll boundary empty chunks).1 =
        (if (boundary chunks.flatten).isSome then ⟨[], true⟩ else ⟨chunks.flatten, false⟩) ∧
      (feedAll boundary empty chunks).2.flatten = match boundary chunks.flatten with
        | none => []
        | some o => [.flush, .summary (.ofOutput (chunks.flatten.take o))] := by
  have hpart : ∀ j, (chunks.take (j + 1)).flatten <+: chunks.flatten := fun j =>
    ⟨(chunks.drop (j + 1)).flatten, by rw [← List.flatten_append, List.take_append_drop]⟩
  by_cases hend : ∃ k o, EndsAt boundary chunks k o
  · obtain ⟨k, o, hend⟩ := hend
    have hall : (chunks.take (k + 1)).flatten = chunks.flatten := by
      refine Decidable.byContradiction fun hother => ?_
      have hfound := hend.found
      rw [h _ (hpart k) hother] at hfound
      cases hfound
    have hfound := hend.found
    have hfed := feedAll_endsAt hend hend.within (Nat.le_refl _)
    rw [hall] at hfound hfed
    rw [List.take_length] at hfed
    rw [hfed, hfound]
    simp
  · have hsilent := silent_of_not_endsAt fun k o hko => hend ⟨k, o, hko⟩
    have hfed := feedAll_take (Nat.le_refl _) hsilent
    have hpos : 0 < chunks.length := List.length_pos_iff.2 hne
    have hlast := hsilent (chunks.length - 1) (by omega)
    rw [Nat.sub_add_cancel hpos, List.take_length] at hlast
    rw [List.take_length] at hfed
    rw [hfed, hlast]
    simp

/-- The chunk with which a boundary first shows up flushes the capture and then gives the one
message, about the output before that boundary; later chunks do nothing, and up to there, or for
ever, output is only collected. So two cuttings of the same output lead to the same, if no boundary
shows up in a part that the output starts with. -/
theorem feedAll_spec (boundary : Text → Option Nat) (chunks : List Text) :
    (∀ k o, EndsAt boundary chunks k o → ∀ n ≤ chunks.length,
      feedAll boundary empty (chunks.take n) =
        if n ≤ k then (⟨(chunks.take n).flatten, false⟩, List.replicate n [])
        else (⟨[], true⟩, List.replicate k [] ++
          [.flush, .summary (.ofOutput ((chunks.take (k + 1)).flatten.take o))] ::
            List.replicate (n - k - 1) [])) ∧
    ((∀ k o, ¬ EndsAt boundary chunks k o) → ∀ n ≤ chunks.length,
      feedAll boundary empty (chunks.take n) =
        (⟨(chunks.take n).flatten, false⟩, List.replicate n [])) ∧
    ∀ chunks', chunks'.flatten = chunks.flatten → (chunks' = [] ↔ chunks = []) →
      (∀ p, p <+: chunks.flatten → p ≠ chunks.flatten → boundary p = none) →
      (feedAll boundary empty chunks').1 = (feedAll boundary empty chunks).1 ∧
      (feedAll boundary empty chunks').2.flatten = (feedAll boundary empty chunks).2.flatten := by
  refine ⟨fun k o hend n hn => ?_, fun hnever n hn => ?_, fun chunks' hsame hempty hwhole => ?_⟩
  · split
    · rename_i hnk
      exact feedAll_take hn fun j hj => hend.before j (by omega)
    · rename_i hkn
      exact feedAll_endsAt hend (by omega) hn
  · exact feedAll_take hn fun j hj => silent_of_not_endsAt hnever j (by omega)
  · by_cases hne : chunks = []
    · rw [hne, hempty.2 hne]
      exact ⟨rfl, rfl⟩
    have hne' : chunks' ≠ [] := fun h => hne (hempty.1 h)
    have hfed := feedAll_whole hne hwhole
    have hfed' := feedAll_whole hne' (by rwa [hsame])
    rw [hsame] at hfed'
    exact ⟨hfed'.1.trans hfed.1.symm, hfed'.2.trans hfed.2.symm⟩

end ReplSend.Capture
