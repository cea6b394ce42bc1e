import ReplSend.Proofs.Busy

/-!
# Two ways to find a prompt

Readiness looks for a prompt in the last characters of a transcript, a capture in all that was put
out since the echo of its request. The echo ends a line and no prompt reaches over a line end, so
they find the same one: a session that is ready has its capture flushed, and when a chunk of output
flushes it the session is ready, unless the prompt with its blanks is longer than what readiness
looks at (`flushed_of_isReady`).
-/

namespace ReplSend

namespace Prompt

variable {t : Text}

/-- The text ends in a prompt that has, together with the blanks after it, at most `size`
characters. -/
def ShownWithin (size : Int) (t : Text) : Prop :=
  ∃ q z : Text, IsPrompt q ∧ (∀ x ∈ z, IsBlank x) ∧ q ++ z <:+ t ∧ ((q ++ z).length : Int) ≤ size

/-- The last characters of a text end in what is short enough. -/
theorem suffix_drop_iff {u : Text} {n : Nat} :
    u <:+ t.drop (t.length - n) ↔ u <:+ t ∧ u.length ≤ n := by
  constructor
  · intro h
    have hlength := h.length_le
    rw [List.length_drop] at hlength
    exact ⟨h.trans (List.drop_suffix ..), by omega⟩
  · rintro ⟨hsuffix, hlength⟩
    have hle := hsuffix.length_le
    refine List.suffix_of_suffix_length_le hsuffix (List.drop_suffix ..) ?_
    rw [List.length_drop]
    omega

theorem shown_tail {r : Transcript} {size : Int} (h : 0 < size) :
    Shown (r.tail size) ↔ ShownWithin size r.text := by
  simp only [Shown, ShownWithin, Transcript.tail_eq h, suffix_drop_iff]
  refine exists_congr fun q => exists_congr fun z => and_congr_right fun _ =>
    and_congr_right fun _ => and_congr_right fun _ => ?_
  omega

theorem shownWithin_after_newline {before : Text} {size : Int} :
    ShownWithin size (before ++ '\n' :: t) ↔ ShownWithin size t := by
  constructor
  · rintro ⟨q, z, hq, hz, hsuffix, hle⟩
    exact ⟨q, z, hq, hz, hq.suffix_after_newline hz hsuffix, hle⟩
  · rintro ⟨q, z, hq, hz, hsuffix, hle⟩
    refine ⟨q, z, hq, hz, hsuffix.trans ?_, hle⟩
    exact (List.suffix_cons _ _).trans (List.suffix_append _ _)

end Prompt

namespace World

variable {τ : Type} {w w' u v : World τ} {m n c : Nat} {s : Session} {k : Capture} {r : Request}
  {chunk : Text}

/-- A session is ready when a prompt shows in its transcript that is short enough. -/
theorem isReady_iff (hp : w.prompt = Prompt.default) (hs : w.sessions[n]? = some s) :
    (w.isReady n).1 = true ↔
      Prompt.ShownWithin Transcript.tailSize (w.transcriptAt s.transcript).text := by
  rw [isReady_fst, promptShows, hs]
  dsimp only
  rw [boundary, hp, Prompt.search_default_isSome, Prompt.shown_tail (by decide)]

theorem Later.isFlushed (h : Later w w') (hf : w.isFlushed c = true) : w'.isFlushed c = true := by
  obtain ⟨k, hk, hkf⟩ := (Option.any_eq_true _ _).1 hf
  obtain ⟨k', hk', hlater⟩ := h.captures hk
  exact (Option.any_eq_true _ _).2 ⟨k', hk', hlater hkf⟩

/-! ## What a session collects -/

theorem Collects.not_flushed (h : Collects w n c s k) : w.isFlushed c = false := by
  rw [isFlushed, h.captured]
  exact h.unflushed

/-- Output of the session itself is collected, unless a prompt shows and ends the capture. -/
theorem Collects.output (h : Collects w n c s k) (hr : Registered w)
    (hlt : s.transcript < w.transcripts.length) (chunk : Text) :
    (w.boundary (k.text ++ chunk) = none ∧
        Collects (w.dispatch n chunk) n c s ⟨k.text ++ chunk, false⟩) ∨
      ((w.boundary (k.text ++ chunk)).isSome = true ∧
        (w.dispatch n chunk).isFlushed c = true) := by
  have hsame : ∀ {t : Session} {d : Nat} {l : Capture}, w.sessions[n]? = some t → w.Pending t d →
      w.captures[d]? = some l → t = s ∧ d = c ∧ l = k := by
    intro t d l ht hp hl
    obtain rfl := Option.some.inj (h.session.symm.trans ht)
    obtain rfl := Option.some.inj (h.capture.symm.trans hp.capture)
    exact ⟨rfl, rfl, Option.some.inj (hl.symm.trans h.captured)⟩
  cases hr.reception n chunk with
  | ignored hkilled => cases h.spared.symm.trans (hkilled s h.session)
  | unobserved t ht _ hi =>
    obtain rfl := Option.some.inj (h.session.symm.trans ht)
    cases hi.1.symm.trans h.capture
  | collected t d l ht _ hp hl hb hv =>
    obtain ⟨rfl, rfl, rfl⟩ := hsame ht hp hl
    obtain ⟨before, hbefore⟩ := h.text
    have htext := text_dispatch hlt ht h.spared chunk
    rw [if_pos rfl, hbefore, List.append_assoc, List.cons_append] at htext
    refine .inl ⟨hb, ?_, h.spared, h.capture, ?_, rfl, ?_, before, htext⟩
    · rw [hv]
      exact (congrArg (·[n]?) (sessions_received chunk)).trans ht
    · rw [hv]
      exact List.getElem?_set_self (List.getElem?_eq_some_iff.1 hl).1
    · rw [boundary, (later_dispatch chunk).prompt]
      exact hb
  | flushed t d l offset ht _ hp hl hb hv =>
    obtain ⟨rfl, rfl, rfl⟩ := hsame ht hp hl
    refine .inr ⟨by rw [hb]; rfl, ?_⟩
    rw [hv, isFlushed, captures_notify]
    exact (Option.any_eq_true _ _).2
      ⟨_, List.getElem?_set_self (List.getElem?_eq_some_iff.1 hl).1, rfl⟩

/-- What one session puts out is nothing to another. -/
theorem Registered.dispatch_other (hr : Registered w) (hm : m ≠ n) (chunk : Text) :
    (w.dispatch m chunk).sessions[n]? = w.sessions[n]? := by
  cases hr.reception m chunk with
  | ignored _ hv => rw [hv]
  | unobserved t _ _ _ hv => rw [hv, sessions_received]
  | collected t d l _ _ _ _ _ hv =>
    rw [hv]
    exact congrArg (·[n]?) (sessions_received chunk)
  | flushed t d l offset _ _ _ _ _ hv =>
    rw [hv, sessions_notify]
    refine (List.getElem?_modify_ne _ _ hm).trans ?_
    exact congrArg (·[n]?) (sessions_received chunk)

theorem Collects.elsewhere (h : Collects w n c s k) (hr : Registered w)
    (hlt : s.transcript < w.transcripts.length) (hm : m ≠ n)
    (hother : ∀ t, w.sessions[m]? = some t → t.transcript ≠ s.transcript) (chunk : Text) :
    Collects (w.dispatch m chunk) n c s k := by
  have hsession := (hr.dispatch_other hm chunk).trans h.session
  obtain ⟨t, ht, -, hkept⟩ := hr.pending_dispatch h.captured hsession h.capture
  refine ⟨hsession, h.spared, h.capture, hkept.resolve_right fun hsame => hm hsame.1, h.unflushed,
    ?_, ?_⟩
  · rw [boundary, (later_dispatch chunk).prompt]
    exact h.unended
  · rcases w.deaf_or_open m with hdeaf | ⟨t, ht, hopen⟩
    · rw [hdeaf.dispatch]
      exact h.text
    · rw [text_dispatch hlt ht hopen, if_neg (hother t ht)]
      exact h.text

theorem Collects.modifySession {f : Session → Session} (h : Collects w n c s k)
    (hf : ∀ t, w.sessions[m]? = some t → (f t).killed = t.killed ∧ (f t).capture = t.capture ∧
      (f t).transcript = t.transcript) : ∃ s', Collects (w.modifySession m f) n c s' k := by
  refine ⟨_, getElem?_modifySession h.session, ?_, ?_, h.captured, h.unflushed, h.unended, ?_⟩
  · split
    · rename_i hm
      exact (hf s (hm ▸ h.session)).1.trans h.spared
    · exact h.spared
  · split
    · rename_i hm
      exact (hf s (hm ▸ h.session)).2.1.trans h.capture
    · exact h.capture
  · split
    · rename_i hm
      rw [(hf s (hm ▸ h.session)).2.2]
      exact h.text
    · exact h.text

theorem Ongoing.collects (h : Ongoing n w w') (hr : Registered w) (hsuccession : Succession w)
    (hc : Collects w n c s k) : (∃ s' k', Collects w' n c s' k') ∨ w'.isFlushed c = true := by
  have hlt := hsuccession.transcript hc.session
  cases h with
  | note e => exact .inl ⟨s, k, hc.session, hc.spared, hc.capture, hc.captured, hc.unflushed,
      hc.unended, hc.text⟩
  | arrange => exact .inl ⟨s, k, hc.session, hc.spared, hc.capture, hc.captured, hc.unflushed,
      hc.unended, hc.text⟩
  | touch m f hf =>
    obtain ⟨s', hc'⟩ := hc.modifySession (m := m) (f := f) fun t ht =>
      ⟨(hf t ht).killed, (hf t ht).capture, (hf t ht).transcript⟩
    exact .inl ⟨s', k, hc'⟩
  | look m =>
    rw [isReady_snd]
    obtain ⟨s', hc'⟩ := hc.modifySession (m := m)
      (f := fun t => { t with everReady := t.everReady || w.promptShows m }) fun _ _ =>
        ⟨rfl, rfl, rfl⟩
    exact .inl ⟨s', k, hc'⟩
  | output m chunk hown =>
    by_cases hm : m = n
    · subst hm
      exact (hc.output hr hlt chunk).imp (fun hc' => ⟨s, _, hc'.2⟩) (·.2)
    · exact .inl ⟨s, k, hc.elsewhere hr hlt hm (fun t ht hsame => hm (hown t s ht hc.session hsame))
        chunk⟩

/-- As long as nothing else is sent to the session, it collects until the capture is flushed. -/
theorem Meanwhile.collects (h : Meanwhile n v u) (hr : Registered v) (ho : Owned v)
    (hsuccession : Succession v) (hc : Collects v n c s k) :
    (∃ s' k', Collects u n c s' k') ∨ u.isFlushed c = true := by
  induction h with
  | refl => exact .inl ⟨s, k, hc⟩
  | tail hmeanwhile hstep ih =>
    have hcourse := Meanwhile.course hmeanwhile
    rcases ih with ⟨s', k', hc'⟩ | hflushed
    · exact hstep.collects (hcourse.registered hr) (hcourse.succession ho hsuccession) hc'
    · exact .inr (hstep.change.later.isFlushed hflushed)

section Dispatch

variable (h : Collects w n c s k) (hp : w.prompt = Prompt.default)
  (hlt : s.transcript < w.transcripts.length) (chunk : Text)

include h hp hlt

/-- Output of the session itself flushes the capture when what was collected then ends in a
prompt. -/
theorem Collects.isFlushed_dispatch (hr : Registered w) :
    (w.dispatch n chunk).isFlushed c = true ↔ Prompt.Shown (k.text ++ chunk) := by
  rw [← Prompt.search_default_isSome, ← hp]
  rcases h.output hr hlt chunk with ⟨hnone, hcollects⟩ | ⟨hsome, hflushed⟩
  · rw [hcollects.not_flushed, show w.prompt.search _ = none from hnone]
    rfl
  · exact iff_of_true hflushed hsome

/-- It makes the session ready when that prompt is short enough. -/
theorem Collects.isReady_dispatch : ((w.dispatch n chunk).isReady n).1 = true ↔
    Prompt.ShownWithin Transcript.tailSize (k.text ++ chunk) := by
  have hlater := later_dispatch (w := w) (n := n) chunk
  obtain ⟨s', hs', hs⟩ := hlater.sessions h.session
  obtain ⟨before, hbefore⟩ := h.text
  rw [isReady_iff (hlater.prompt.trans hp) hs', hs.transcript,
    text_dispatch hlt h.session h.spared, if_pos rfl, hbefore, List.append_assoc, List.cons_append,
    Prompt.shownWithin_after_newline]

end Dispatch

/-! ## The two agree -/

section Initial

variable {settings : Settings τ} {start : τ} {host : Host} {scripts : List Script}
  {notice : Notice} {projectRoot : Option (Option Text)} {w₀ w₁ : World τ}

/-- After a capturing request that has left an echo, whatever goes on around the session while
nothing else is sent to it: when the session is ready the capture is flushed. A chunk flushes the
capture when what was put out since the echo then ends in a prompt, and makes the session ready, for
the first time, when that prompt is short enough. -/
theorem flushed_of_isReady
    (h₀ : initial? settings start host scripts notice projectRoot = .ok w₀)
    (hdefault : settings.promptRegexp = Prompt.defaultRegexp) (hw : Course w₀ w)
    (hr : Act.request n r w = (.ok (some c), w₁)) (hleft : w.Leaves r) :
    ∃ v, w.opened n r = .ok (some c, v) ∧ Meanwhile n v w₁ ∧ ∀ u, Meanwhile n v u →
      ((u.isReady n).1 = true → u.isFlushed c = true) ∧
      (u.isFlushed c = false →
        (∀ u₀, Meanwhile n v u₀ → Meanwhile n u₀ u → (u₀.isReady n).1 = false) ∧
        ∃ k, u.captures[c]? = some k ∧ ∀ chunk,
          ((u.dispatch n chunk).isFlushed c = true ↔ Prompt.Shown (k.text ++ chunk)) ∧
          (((u.dispatch n chunk).isReady n).1 = true ↔
            Prompt.ShownWithin Transcript.tailSize (k.text ++ chunk))) := by
  have huntouched := (untouched_initial h₀).2
  obtain ⟨v, bytes, file, hopened, rfl⟩ := request_eq_ok hr
  have hopening : Course w₀ v := hw.trans (course_opened hopened)
  have hregistered := hopening.registered huntouched.registered
  have howned := hopening.owned huntouched.owned
  have hsuccession := hopening.succession huntouched.owned huntouched.succession
  have hprompt : ∀ {u}, Meanwhile n v u → u.prompt = Prompt.default := fun hu =>
    prompt_of_course h₀ hdefault (hopening.trans hu.course)
  obtain ⟨s, k, hc⟩ := collects_opened (hw.succession huntouched.owned huntouched.succession)
    (prompt_of_course h₀ hdefault hw) hleft hopened
  have hcollects : ∀ {u}, Meanwhile n v u →
      (∃ s' k', Collects u n c s' k') ∨ u.isFlushed c = true := fun hu =>
    hu.collects hregistered howned hsuccession hc
  have hready : ∀ {u}, Meanwhile n v u → (u.isReady n).1 = true → u.isFlushed c = true := by
    intro u hu hready
    refine (hcollects hu).resolve_left fun ⟨s', k', hc'⟩ => ?_
    rw [hc'.screened.not_ready (hprompt hu) hc'.session hc'.capture] at hready
    cases hready
  refine ⟨v, hopened, (meanwhile_wrote bytes file).trans meanwhile_remembered, fun u hu =>
    ⟨hready hu, fun hopen => ⟨fun u₀ hu₀ hbetween => ?_, ?_⟩⟩⟩
  · refine Bool.eq_false_iff.2 fun hearly => ?_
    cases hopen.symm.trans (hbetween.course.later.isFlushed (hready hu₀ hearly))
  · rcases hcollects hu with ⟨s', k', hc'⟩ | hflushed
    · have hlt := (hu.course.succession howned hsuccession).transcript hc'.session
      exact ⟨k', hc'.captured, fun chunk =>
        ⟨hc'.isFlushed_dispatch (hprompt hu) hlt chunk (hu.course.registered hregistered),
          hc'.isReady_dispatch (hprompt hu) hlt chunk⟩⟩
    · cases hopen.symm.trans hflushed

end Initial

/-- The answer to a line and the next prompt arrive in one chunk. -/
theorem flushed_of_isReady_line : ∃ w₁,
    Act.request 0 ⟨"1 + 1", true, false, true⟩ prompted = (.ok (some 0), w₁) ∧
      (w₁.isReady 0).1 = false ∧ w₁.isFlushed 0 = false ∧
      ((w₁.dispatch 0 "2\n>>> ").isReady 0).1 = true ∧
      (w₁.dispatch 0 "2\n>>> ").isFlushed 0 = true := by
  have hopen : (Act.request 0 ⟨"1 + 1", true, false, true⟩ prompted).2.isFlushed 0 = false := by
    decide +kernel
  obtain ⟨v, -, hmeanwhile, hagree⟩ := flushed_of_isReady initial?_beginning rfl
    (course_after _ _) request_prompted leaves_prompted
  obtain ⟨hbefore, k, -, hchunk⟩ := (hagree _ hmeanwhile).2 hopen
  have hshown : Prompt.Shown (k.text ++ "2\n>>> ") :=
    (Prompt.shown_prompt "2\n").of_suffix (List.suffix_append _ _)
  have hwithin : Prompt.ShownWithin Transcript.tailSize (k.text ++ "2\n>>> ") :=
    ⟨">>> ", [], .inl rfl, nofun, ⟨k.text ++ "2\n", by rw [List.append_assoc]; rfl⟩, by decide⟩
  exact ⟨_, request_prompted, hbefore _ hmeanwhile .refl, hopen, (hchunk _).2.2 hwithin,
    (hchunk _).1.2 hshown⟩

end World

end ReplSend
