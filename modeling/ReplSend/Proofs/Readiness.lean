import ReplSend.Proofs.Owning
import ReplSend.Proofs.Prompt
import ReplSend.Proofs.Transcript

/-!
# What makes a session ready

A session is ready when a prompt ends its transcript. A transcript grows by output of the sessions
that write to it and by whole lines (`Change.text`), and no prompt ends a line; so with the default
prompt a session gets ready by output only (`isReady_spoken`). The output need not be its own: a
process that has exited and was replaced can still have something to say, unless it was killed.
-/

namespace ReplSend.World

variable {τ : Type} {w w' v : World τ} {m n t : Nat} {s s' : Session} {chunk : Text}

/-! ## How transcripts grow -/

theorem text_record (ht : t < w.transcripts.length) (transcript : Nat) :
    ((w.record transcript chunk).transcriptAt t).text =
      if transcript = t then (w.transcriptAt t).text ++ chunk else (w.transcriptAt t).text := by
  simp only [transcriptAt, record, List.getElem?_modify, List.getElem?_eq_getElem ht]
  by_cases hsame : transcript = t
  · simp [hsame]
  · simp [hsame]

theorem transcriptAt_congr (h : w'.transcripts = w.transcripts) (t : Nat) :
    w'.transcriptAt t = w.transcriptAt t := by
  rw [transcriptAt, h, transcriptAt]

/-- The state in which a new session takes its transcript: a line end stands before its output. -/
def lined (w : World τ) (t : Nat) : World τ :=
  if ((w.transcriptAt t).tail 1).isEmpty then w else w.record t ['\n']

theorem transcripts_addSession {target : Text} {script : Script} :
    (w.addSession target script).transcripts =
      ((w.transcriptFor target).2.lined (w.transcriptFor target).1).transcripts := rfl

theorem transcriptAt_transcriptFor (ht : t < w.transcripts.length) (target : Text) :
    (w.transcriptFor target).2.transcriptAt t = w.transcriptAt t := by
  unfold transcriptFor
  split
  · rfl
  · simp only [transcriptAt, List.getElem?_append_left ht]

theorem text_addSession (ht : t < w.transcripts.length) (target : Text) (script : Script) :
    ((w.addSession target script).transcriptAt t).text = (w.transcriptAt t).text ∨
      ((w.addSession target script).transcriptAt t).text = (w.transcriptAt t).text ++ ['\n'] := by
  have hlt : t < (w.transcriptFor target).2.transcripts.length := by
    refine Nat.lt_of_lt_of_le ht ?_
    unfold transcriptFor
    split <;> simp
  rw [transcriptAt_congr transcripts_addSession, ← transcriptAt_transcriptFor ht target, lined]
  split
  · exact .inl rfl
  · rw [text_record hlt]
    split
    · exact .inr rfl
    · exact .inl rfl

/-- Output goes into the transcript of its session. -/
theorem text_dispatch (ht : t < w.transcripts.length) (hs : w.sessions[m]? = some s)
    (hk : s.killed = false) (chunk : Text) :
    ((w.dispatch m chunk).transcriptAt t).text =
      if s.transcript = t then (w.transcriptAt t).text ++ chunk else (w.transcriptAt t).text := by
  have htranscripts :
      (w.dispatch m chunk).transcripts = (w.record s.transcript chunk).transcripts := by
    show (w.dispatch m chunk).outside.transcripts = _
    rw [outside_dispatch]
    simp [outside, received, hs, hk, note]
  rw [transcriptAt_congr htranscripts, text_record ht]

/-- The text of a transcript stays as it is, or lines are added, or output of a session that writes
to it. -/
theorem Change.text (h : Change w w') (ht : t < w.transcripts.length) :
    (w'.transcriptAt t).text = (w.transcriptAt t).text ∨
    (∃ lines, (w'.transcriptAt t).text = (w.transcriptAt t).text ++ (lines ++ ['\n'])) ∨
    ∃ m s chunk, w.sessions[m]? = some s ∧ s.killed = false ∧ s.transcript = t ∧
      w' = w.dispatch m chunk ∧ (w'.transcriptAt t).text = (w.transcriptAt t).text ++ chunk := by
  cases h with
  | look n =>
    rw [isReady_snd]
    exact .inl rfl
  | output m chunk =>
    rcases w.deaf_or_open m with hdeaf | ⟨s, hs, hk⟩
    · rw [hdeaf.dispatch]
      exact .inl rfl
    · rw [text_dispatch ht hs hk]
      by_cases hsame : s.transcript = t
      · rw [if_pos hsame]
        exact .inr (.inr ⟨m, s, chunk, hs, hk, hsame, rfl, rfl⟩)
      · rw [if_neg hsame]
        exact .inl rfl
  | echo transcript shown =>
    rw [text_record ht]
    split
    · exact .inr (.inl ⟨shown, rfl⟩)
    · exact .inl rfl
  | start target script =>
    refine (text_addSession ht target script).imp_right fun h => .inl ⟨[], ?_⟩
    exact h
  | _ => exact .inl rfl

/-- A new session finds no prompt. -/
theorem not_shown_addSession (target : Text) (script : Script) :
    ¬ Prompt.Shown ((w.addSession target script).transcriptAt (w.transcriptFor target).1).text := by
  rw [transcriptAt_congr transcripts_addSession]
  generalize (w.transcriptFor target).1 = t, (w.transcriptFor target).2 = v
  unfold lined
  split
  · rename_i hempty
    rw [List.isEmpty_iff, Transcript.tail_eq Int.one_pos, List.drop_eq_nil_iff] at hempty
    have hnil : (v.transcriptAt t).text = [] := List.eq_nil_of_length_eq_zero (by omega)
    rw [hnil]
    exact Prompt.not_shown_nil
  · rename_i hfull
    have hlt : t < v.transcripts.length := by
      refine Nat.lt_of_not_le fun hle => hfull ?_
      simp [transcriptAt, List.getElem?_eq_none hle, Transcript.empty, Transcript.tail,
        Transcript.ends]
    rw [text_record hlt, if_pos rfl]
    exact Prompt.not_shown_newline _

/-! ## Readiness under the default prompt -/

/-- A session is not ready unless a prompt shows in its transcript. -/
theorem shown_of_isReady (hp : w.prompt = Prompt.default) (h : (w.isReady n).1 = true) :
    ∃ s, w.sessions[n]? = some s ∧ Prompt.Shown (w.transcriptAt s.transcript).text := by
  rw [isReady_fst, promptShows] at h
  split at h
  · cases h
  · rename_i s hs
    rw [boundary, hp, Prompt.search_default_isSome] at h
    exact ⟨s, hs, h.of_suffix (Transcript.tail_suffix (by decide))⟩

/-- A session gets ready by the prompt of any session that writes to the same transcript. -/
theorem isReady_dispatch_prompt (hp : w.prompt = Prompt.default)
    (hlt : s'.transcript < w.transcripts.length)
    (hm : w.sessions[m]? = some s) (hn : w.sessions[n]? = some s')
    (hk : s.killed = false) (hsame : s.transcript = s'.transcript) :
    ((w.dispatch m ">>> ").isReady n).1 = true := by
  have hlater := later_dispatch (w := w) (n := m) ">>> "
  obtain ⟨s'', hs'', hl⟩ := hlater.sessions hn
  rw [isReady_fst, promptShows, hs'']
  dsimp only
  rw [boundary, hlater.prompt, hp, Prompt.search_default_isSome, hl.transcript,
    Transcript.tail_eq (by decide), text_dispatch hlt hm hk, if_pos hsame,
    List.drop_append_of_le_length]
  · exact Prompt.shown_prompt _
  · simp [Transcript.tailSize]

/-! ## A new session -/

/-- Between the two states session `m` has put out something that session `n` takes for its own:
both write to one transcript, and session `m` was not killed before. -/
structure Spoken (w w' : World τ) (m n : Nat) : Prop where
  output : ∃ chunk, .output m chunk ∈ since w w'
  spared : ∀ s, w.sessions[m]? = some s → s.killed = false
  shared : ∃ s s', w'.sessions[m]? = some s ∧ w'.sessions[n]? = some s' ∧
    s.transcript = s'.transcript

theorem Spoken.later (h : Spoken w v m n) (hl : Later w v) (hl' : Later v w') :
    Spoken w w' m n where
  output := by
    obtain ⟨chunk, hchunk⟩ := h.output
    exact ⟨chunk, by rw [hl.since_trans hl']; exact List.mem_append_right _ hchunk⟩
  spared := h.spared
  shared := by
    obtain ⟨s, s', hs, hs', hsame⟩ := h.shared
    obtain ⟨u, hu, hlater⟩ := hl'.sessions hs
    obtain ⟨u', hu', hlater'⟩ := hl'.sessions hs'
    exact ⟨u, u', hu, hu', by rw [hlater.transcript, hsame, hlater'.transcript]⟩

/-- What was heard in the second half of a time was heard in the whole. -/
theorem Spoken.sooner (h : Spoken v w' m n) (hl : Later w v) (hl' : Later v w') :
    Spoken w w' m n where
  output := by
    obtain ⟨chunk, hchunk⟩ := h.output
    exact ⟨chunk, by rw [hl.since_trans hl']; exact List.mem_append_left _ hchunk⟩
  spared s hs := by
    obtain ⟨s', hs', hlater⟩ := hl.sessions hs
    exact Bool.eq_false_iff.2 fun hk =>
      Bool.false_ne_true ((h.spared s' hs').symm.trans (hlater.killed hk))
  shared := h.shared

theorem Spoken.of_dispatch (hm : w.sessions[m]? = some s) (hk : s.killed = false)
    (hn : w.sessions[n]? = some s') (hsame : s.transcript = s'.transcript) (chunk : Text) :
    Spoken w (w.dispatch m chunk) m n where
  output := ⟨chunk, mem_since_dispatch hm hk chunk⟩
  spared _ hs := Option.some.inj (hm.symm.trans hs) ▸ hk
  shared := by
    obtain ⟨u, hu, hlater⟩ := (later_dispatch chunk).sessions hm
    obtain ⟨u', hu', hlater'⟩ := (later_dispatch chunk).sessions hn
    exact ⟨u, u', hu, hu', by rw [hlater.transcript, hsame, hlater'.transcript]⟩

/-- Of one transcript, as long as nothing is put out no prompt shows in it. -/
theorem Change.spoken_or_not_shown (hv : Course w v) (h : Change v w') (hsuccession : Succession v)
    (hbefore : ∀ s, v.sessions[n]? = some s → (∃ m, Spoken w v m n) ∨
      ¬ Prompt.Shown (v.transcriptAt s.transcript).text)
    (hs' : w'.sessions[n]? = some s') :
    (∃ m, Spoken w w' m n) ∨ ¬ Prompt.Shown (w'.transcriptAt s'.transcript).text := by
  have hl := Course.later hv
  cases hs : v.sessions[n]? with
  | none =>
    -- The session is started just now.
    have hstarted : ∃ target script, w' = v.addSession target script := by
      rcases h.tables with ⟨hlength, -⟩ | ⟨target, script, -, hw'⟩ | ⟨target, -, hw'⟩ |
        ⟨target, -, hw'⟩
      · obtain ⟨s, hs'', -⟩ := h.later.of_getElem? hlength hs'
        cases hs.symm.trans hs''
      · exact ⟨target, script, hw'⟩
      · rw [hw'] at hs'
        cases hs.symm.trans hs'
      · rw [hw'] at hs'
        cases hs.symm.trans hs'
    obtain ⟨target, script, rfl⟩ := hstarted
    rcases getElem?_addSession hs' with hs'' | ⟨-, rfl⟩
    · cases hs.symm.trans hs''
    · exact .inr (not_shown_addSession target script)
  | some s =>
    obtain ⟨u, hu, hlater⟩ := h.later.sessions hs
    obtain rfl := Option.some.inj (hs'.symm.trans hu)
    rcases hbefore s hs with ⟨m, hspoken⟩ | hnot
    · exact .inl ⟨m, hspoken.later hl h.later⟩
    rw [hlater.transcript]
    rcases h.text (hsuccession.transcript hs) with htext | ⟨lines, htext⟩ |
      ⟨m, sm, chunk, hm, hk, hsame, hw', htext⟩
    · rw [htext]
      exact .inr hnot
    · rw [htext, ← List.append_assoc]
      exact .inr (Prompt.not_shown_newline _)
    · have hspoken : Spoken v w' m n := hw' ▸ Spoken.of_dispatch hm hk hs hsame chunk
      exact .inl ⟨m, hspoken.sooner hl h.later⟩

theorem Course.spoken_or_not_shown (hw : Course w w') (ho : Owned w) (hsuccession : Succession w)
    (hnew : w.sessions[n]? = none) (hs' : w'.sessions[n]? = some s') :
    (∃ m, Spoken w w' m n) ∨ ¬ Prompt.Shown (w'.transcriptAt s'.transcript).text := by
  induction hw generalizing s' with
  | refl => cases hnew.symm.trans hs'
  | tail hcourse hstep ih =>
    exact hstep.spoken_or_not_shown hcourse (Course.succession hcourse ho hsuccession)
      (fun s hs => ih hs) hs'

section Initial

variable {settings : Settings τ} {start : τ} {host : Host} {scripts : List Script}
  {notice : Notice} {projectRoot : Option (Option Text)} {w₀ : World τ}

theorem prompt_of_course (h₀ : initial? settings start host scripts notice projectRoot = .ok w₀)
    (hdefault : settings.promptRegexp = Prompt.defaultRegexp) (hw : Course w₀ w) :
    w.prompt = Prompt.default := by
  obtain ⟨rfl, huntouched⟩ := untouched_initial h₀
  have hprompt := huntouched.prompt
  rw [hdefault, Prompt.pattern_defaultRegexp] at hprompt
  rw [hw.later.prompt, Except.ok.inj hprompt]

/-- A session that is ready has heard output since it was started, from a session of its target that
writes to the same transcript and was not killed before: from itself, from one that died earlier
and was replaced, or from one that replaced it. And a prompt of any such session makes it ready. -/
theorem isReady_spoken (h₀ : initial? settings start host scripts notice projectRoot = .ok w₀)
    (hdefault : settings.promptRegexp = Prompt.defaultRegexp) (hw : Course w₀ w)
    (hnew : w.sessions[n]? = none) (hw' : Course w w') :
    ((w'.isReady n).1 = true → ∃ m, Spoken w w' m n ∧
      ∀ s s', w'.sessions[m]? = some s → w'.sessions[n]? = some s' → s.name = s'.name ∧
        (m < n → s.alive = false) ∧ (n < m → s'.alive = false)) ∧
    ∀ m s s', w'.sessions[m]? = some s → w'.sessions[n]? = some s' →
      s.transcript = s'.transcript → s.killed = false →
      ((w'.dispatch m ">>> ").isReady n).1 = true := by
  have huntouched := (untouched_initial h₀).2
  have ho := Course.owned hw huntouched.owned
  have hsuccession := Course.succession hw huntouched.owned huntouched.succession
  have hsuccession' := Course.succession hw' ho hsuccession
  have hprompt := prompt_of_course h₀ hdefault (hw.trans hw')
  refine ⟨fun hready => ?_, fun m s s' hm hn hsame hk => ?_⟩
  · obtain ⟨u, hu, hshown⟩ := shown_of_isReady hprompt hready
    rcases hw'.spoken_or_not_shown ho hsuccession hnew hu with ⟨m, hspoken⟩ | hnot
    · refine ⟨m, hspoken, fun s s' hm hn => ?_⟩
      obtain ⟨t, t', ht, ht', hsame⟩ := hspoken.shared
      obtain rfl := Option.some.inj (hm.symm.trans ht)
      obtain rfl := Option.some.inj (hn.symm.trans ht')
      have hname := hsuccession'.name hm hn hsame
      exact ⟨hname, hsuccession'.order hm hn hname, hsuccession'.order hn hm hname.symm⟩
    · exact absurd hshown hnot
  · exact isReady_dispatch_prompt hprompt (hsuccession'.transcript hn) hm hn hk hsame

end Initial

/-- The process of the only session has exited. -/
def exited : World Float := beginning.after [.getOrCreate none none, .exit 0]

theorem isReady_spoken_exited :
    ((exited.after [.getOrCreate none none, .output 1 [">>> "]]).isReady 1).1 = true ∧
      ∃ m, Spoken exited (exited.after [.getOrCreate none none, .output 1 [">>> "]]) m 1 := by
  have hready :
      ((exited.after [.getOrCreate none none, .output 1 [">>> "]]).isReady 1).1 = true := by
    decide +kernel
  obtain ⟨m, hspoken, -⟩ := (isReady_spoken initial?_beginning rfl
    (course_after _ [.getOrCreate none none, .exit 0]) (by decide +kernel)
    (course_after _ _)).1 hready
  exact ⟨hready, m, hspoken⟩

/-- What is left in the pipe of an exited process reads as readiness of the one that replaced it. -/
theorem ready_unheard :
    ((exited.after [.getOrCreate none none, .output 0 [">>> "]]).isReady 1).1 = true ∧
      ∀ chunk, .output 1 chunk ∉
        (exited.after [.getOrCreate none none, .output 0 [">>> "]]).trace := by
  refine ⟨by decide +kernel, fun chunk hmem => ?_⟩
  have hall : (exited.after [.getOrCreate none none, .output 0 [">>> "]]).trace.all
      (fun e => match e with | .output 1 _ => false | _ => true) = true := by decide +kernel
  exact absurd (List.all_eq_true.1 hall _ hmem) (by simp)

end ReplSend.World
