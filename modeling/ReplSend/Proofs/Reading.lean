import ReplSend.Proofs.Readiness
import ReplSend.Proofs.Text.Decoding
import ReplSend.Reader

/-!
# Reading output piece by piece

However the output of a process falls into reads, what is passed on of it is the text of all the
bytes (`chunks_eq_decode`). What is held back after a read and what is still to come decode to what
is still to be passed on (`decodes_chunksFrom`), so a read may cut a character, or what is not one,
anywhere.
-/

namespace ReplSend

variable {e : Encoding} {t : Text} {p held : Bytes} {parts : List Bytes} {more : List Read}

namespace Read

/-! ## What is passed on -/

theorem flatten_chunk (t : Text) : (chunk t).flatten = t := by
  unfold chunk
  split
  · rename_i hempty
    exact (List.isEmpty_iff.1 hempty).symm
  · exact List.flatten_singleton

theorem ne_nil_of_mem_chunk {c : Text} (h : c ∈ chunk t) : c ≠ [] := by
  unfold chunk at h
  split at h
  · cases h
  · rename_i hfull
    rw [List.mem_singleton.1 h]
    exact fun hnil => hfull (List.isEmpty_iff.2 hnil)

theorem ne_nil_of_mem_chunksFrom {c : Text} {reads : List Read}
    (h : c ∈ chunksFrom e held reads) : c ≠ [] := by
  fun_induction chunksFrom e held reads with
  | case1 | case2 => exact ne_nil_of_mem_chunk h
  | case3 => cases h
  | case4 held bs rest hbs t held' hsome ih =>
    rcases List.mem_append.1 h with h | h
    · exact ne_nil_of_mem_chunk h
    · exact ih h

/-- The output in these parts, up to its end. -/
def delivering (parts : List Bytes) (more : List Read) : List Read :=
  parts.map .bytes ++ .bytes [] :: more

/-- What is passed on from now on is the text of what is held back and still to come. -/
theorem decodes_chunksFrom (hparts : ∀ p ∈ parts, p ≠ []) :
    e.Decodes (held ++ parts.flatten) (chunksFrom e held (delivering parts more)).flatten := by
  induction parts generalizing held with
  | nil =>
    simp only [delivering, List.map_nil, List.nil_append, List.flatten_nil, chunksFrom,
      flatten_chunk]
    exact Encoding.decodes_decodeSome e held []
  | cons p parts ih =>
    obtain ⟨a, p, rfl⟩ := List.exists_cons_of_ne_nil (hparts p List.mem_cons_self)
    have hread : e.Decodes (held ++ (a :: p) ++ parts.flatten)
        ((e.decodeSome held (a :: p) false).1 ++
          (chunksFrom e (e.decodeSome held (a :: p) false).2 (delivering parts more)).flatten) :=
      Encoding.decodes_of_decodeSome (ih fun q hq => hparts q (List.mem_cons_of_mem _ hq))
    rw [List.append_assoc] at hread
    simp only [delivering, List.map_cons, List.cons_append, chunksFrom, List.flatten_append,
      flatten_chunk, List.flatten_cons]
    exact hread

/-! ## Reads of limited size -/

/-- A read that is small enough is not cut. -/
theorem parts_of_length_le {size : Nat} (hp : p ≠ []) (hsize : p.length ≤ size) :
    Read.parts size p = [p] := by
  have hpos := List.length_pos_iff.2 hp
  have hone : (p.length + size - 1) / size = 1 := by
    rw [Nat.div_eq_of_lt_le] <;> omega
  simp [Read.parts, hone, List.take_of_length_le hsize]

theorem flatMap_limited (hparts : ∀ p ∈ parts, p ≠ [] ∧ p.length ≤ size) :
    (delivering parts more).flatMap limited = delivering parts (more.flatMap limited) := by
  induction parts with
  | nil => rfl
  | cons p parts ih =>
    obtain ⟨hp, hsize⟩ := hparts p List.mem_cons_self
    have hone : limited (.bytes p) = [.bytes p] := by
      obtain ⟨a, q, rfl⟩ := List.exists_cons_of_ne_nil hp
      simp only [limited, parts_of_length_le hp hsize, List.map_singleton]
    have hrest := ih fun q hq => hparts q (List.mem_cons_of_mem _ hq)
    simp only [delivering, List.map_cons, List.cons_append, List.flatMap_cons, hone] at hrest ⊢
    rw [hrest, List.nil_append]

end Read

/-! ## What is written down -/

namespace World

variable {τ : Type} {w w₀ : World τ} {n : Nat} {s : Session}

/-- All that is passed on is written down, as long as the session is not killed. -/
theorem text_dispatchAll (ht : s.transcript < w.transcripts.length)
    (hs : w.sessions[n]? = some s) (hk : s.killed = false) (chunks : List Text) :
    ((w.dispatchAll n chunks).transcriptAt s.transcript).text =
      (w.transcriptAt s.transcript).text ++ chunks.flatten := by
  induction chunks generalizing w s with
  | nil => exact (List.append_nil _).symm
  | cons chunk chunks ih =>
    obtain ⟨s', hs', hsame⟩ := uncaptured_dispatch (n := n) hs chunk
    have htranscript : s'.transcript = s.transcript := congrArg (·.transcript) hsame
    have hk' : s'.killed = s.killed := congrArg (·.killed) hsame
    have hrest := ih (w := w.dispatch n chunk) (s := s')
      (by rw [htranscript, length_transcripts_dispatch]; exact ht) hs' (hk'.trans hk)
    rw [htranscript, text_dispatch ht hs hk, if_pos rfl] at hrest
    rw [List.flatten_cons, ← List.append_assoc]
    exact hrest

section Initial

variable {settings : Settings τ} {start : τ} {host : Host} {scripts : List Script}
  {notice : Notice} {projectRoot : Option (Option Text)}

/-- However the output of a process falls into reads, no part that is passed on is empty, and
together they are what decoding all the bytes at once gives: the one text that the bytes stand for.
The transcript of the session grows by that text, unless the session is killed. -/
theorem chunks_eq_decode (h₀ : initial? settings start host scripts notice projectRoot = .ok w₀)
    (hw : Course w₀ w) (hs : w.sessions[n]? = some s) (hk : s.killed = false) (e : Encoding)
    (hparts : ∀ p ∈ parts, p ≠ [] ∧ p.length ≤ Read.size) (more : List Read) :
    (∀ c ∈ Read.chunks e (Read.delivering parts more), c ≠ []) ∧
    (Read.chunks e (Read.delivering parts more)).flatten = e.decode parts.flatten ∧
    (∀ t, e.Decodes parts.flatten t ↔ t = e.decode parts.flatten) ∧
    ((w.dispatchAll n (Read.chunks e (Read.delivering parts more))).transcriptAt
      s.transcript).text = (w.transcriptAt s.transcript).text ++ e.decode parts.flatten := by
  have hdecodes := Encoding.decodes_decode e parts.flatten
  have hread : (Read.chunks e (Read.delivering parts more)).flatten =
      e.decode parts.flatten := by
    rw [Read.chunks, Read.flatMap_limited hparts]
    exact (Read.decodes_chunksFrom fun p hp => (hparts p hp).1).unique hdecodes
  refine ⟨fun c hc => Read.ne_nil_of_mem_chunksFrom hc, hread, fun t => ⟨?_, ?_⟩, ?_⟩
  · exact fun h => h.unique hdecodes
  · rintro rfl
    exact hdecodes
  · have huntouched := (untouched_initial h₀).2
    have hsuccession := Course.succession hw huntouched.owned huntouched.succession
    rw [text_dispatchAll (hsuccession.transcript hs) hs hk, hread]

end Initial

/-- The only session has just been started. -/
def started : World Float := beginning.after [.getOrCreate none none]

/-- A character and a surrogate are each cut in two, and the last character has no end. -/
def cutReads : List Bytes := [[0x61, 0xc3], [0xa9, 0xed], [0xa0, 0x80], [0xf0, 0x9f]]

theorem chunks_eq_decode_cut :
    (∀ p ∈ cutReads, p ≠ [] ∧ p.length ≤ Read.size) ∧
      ∃ s, started.sessions[0]? = some s ∧ s.killed = false ∧
        ((started.dispatchAll 0 (Read.chunks .utf8 (Read.delivering cutReads []))).transcriptAt
          s.transcript).text = 'a' :: 'é' :: List.replicate 4 Encoding.replacement := by
  have hparts : ∀ p ∈ cutReads, p ≠ [] ∧ p.length ≤ Read.size := by decide
  have hopen : (started.sessions[0]?).any (fun s => s.killed = false ∧
      (started.transcriptAt s.transcript).text = []) = true := by decide +kernel
  obtain ⟨s, hs, hempty⟩ := (Option.any_eq_true _ _).1 hopen
  obtain ⟨hk, hempty⟩ := of_decide_eq_true hempty
  obtain ⟨-, -, -, htext⟩ := chunks_eq_decode (w := started) initial?_beginning
    (course_after _ _) hs hk .utf8 hparts []
  have hdecode : Encoding.utf8.decode cutReads.flatten =
      'a' :: 'é' :: List.replicate 4 Encoding.replacement := by decide +kernel
  refine ⟨hparts, s, hs, hk, ?_⟩
  rw [hempty, hdecode] at htext
  exact htext

end World

end ReplSend
