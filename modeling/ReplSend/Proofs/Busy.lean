import ReplSend.Proofs.Waiting

/-!
# Busy sessions

With the default prompt, a session whose capture is pending is not ready, provided that the request
left an echo and no other session wrote to the transcript: all that follows the echo is captured too
(`Screened`), and no prompt ends it. A send that is refused then has waited in vain. A request that
leaves no echo leaves the old prompt in its place, and the session as ready as it was
(`pending_not_ready`).
-/

namespace ReplSend

namespace World

variable {τ : Type} {w w' v v' : World τ} {n c : Nat} {s : Session} {r : Request}

/-- Something of the request is echoed. -/
def Leaves (w : World τ) (r : Request) : Prop :=
  w.settings.echoInput = true ∧ r.echo = true ∧ ∃ shown,
    Echo.prepare w.settings.echoHead w.settings.echoTail r.text = .ok shown ∧
      Text.allBlank shown = false

/-! ## What follows the echo is captured -/

/-- As long as the session has the capture, what stands in its transcript after some line end has
been captured, and no prompt ends what was captured. -/
def Screened (w : World τ) (n c : Nat) : Prop :=
  ∀ s, w.sessions[n]? = some s → s.capture = some c → ∃ k before out,
    w.captures[c]? = some k ∧ w.boundary k.text = none ∧
      (w.transcriptAt s.transcript).text = before ++ '\n' :: out ∧ out <:+ k.text

/-- Session `n` waits for the end of capture `c`, which holds all that stands in its transcript
after some line end. -/
structure Collects (w : World τ) (n c : Nat) (s : Session) (k : Capture) : Prop where
  session : w.sessions[n]? = some s
  spared : s.killed = false
  capture : s.capture = some c
  captured : w.captures[c]? = some k
  unflushed : k.flushed = false
  unended : w.boundary k.text = none
  text : ∃ before, (w.transcriptAt s.transcript).text = before ++ '\n' :: k.text

theorem Collects.screened {k : Capture} (h : Collects w n c s k) : Screened w n c := by
  intro t ht _
  obtain rfl := Option.some.inj (h.session.symm.trans ht)
  obtain ⟨before, hbefore⟩ := h.text
  exact ⟨k, before, k.text, h.captured, h.unended, hbefore, List.suffix_rfl⟩

theorem Screened.not_ready (h : Screened w n c) (hp : w.prompt = Prompt.default)
    (hs : w.sessions[n]? = some s) (hcapture : s.capture = some c) : (w.isReady n).1 = false := by
  obtain ⟨k, before, out, -, hb, htext, hout⟩ := h s hs hcapture
  refine Bool.eq_false_iff.2 fun hready => ?_
  obtain ⟨t, ht, hshown⟩ := shown_of_isReady hp hready
  obtain rfl := Option.some.inj (hs.symm.trans ht)
  rw [htext] at hshown
  have hfound := (Prompt.search_default_isSome _).2 (hshown.after_newline.of_suffix hout)
  rw [boundary, hp] at hb
  rw [hb] at hfound
  cases hfound

theorem Change.screened (h : Change v v') (hr : Registered v) (hsuccession : Succession v)
    (hc : c < v.captures.length) (hscreened : Screened v n c)
    (hunheard : ∀ m, m ≠ n → ¬ Spoken v v' m n) : Screened v' n c := by
  intro s' hs' hcapture'
  obtain ⟨s, hs, hcapture, hfed⟩ := h.pending hr (List.getElem?_eq_getElem hc) hs' hcapture'
  obtain ⟨k, before, out, hk, hb, htext, hout⟩ := hscreened s hs hcapture
  have ht := hsuccession.transcript hs
  obtain ⟨u, hu, hlater⟩ := h.later.sessions hs
  obtain rfl := Option.some.inj (hs'.symm.trans hu)
  rw [hlater.transcript, boundary, h.later.prompt]
  -- Output of the session itself goes into the transcript and into the capture.
  have hown : ∀ chunk, v' = v.dispatch n chunk → s.killed = false → ∃ k' before' out',
      v'.captures[c]? = some k' ∧ v.boundary k'.text = none ∧
        (v'.transcriptAt s.transcript).text = before' ++ '\n' :: out' ∧ out' <:+ k'.text := by
    rintro chunk rfl hopen
    obtain ⟨hk', hb'⟩ := hr.fed hs hopen hcapture hk hs' hcapture'
    refine ⟨_, before, out ++ chunk, hk', hb', ?_, ?_⟩
    · rw [text_dispatch ht hs hopen, if_pos rfl, htext, List.append_assoc, List.cons_append]
    · obtain ⟨fed, hfed⟩ := hout
      exact ⟨fed, by rw [← hfed, List.append_assoc]⟩
  rcases hfed with hkept | ⟨chunk, hv', hopen⟩
  · rw [← List.getElem?_eq_getElem hc, hk] at hkept
    rcases h.text ht with htext' | ⟨lines, htext'⟩ | ⟨m, sm, chunk, hm, hopen, hsame, hv', htext'⟩
    · exact ⟨k, before, out, hkept, hb, htext'.trans htext, hout⟩
    · refine ⟨k, before ++ '\n' :: out ++ lines, [], hkept, hb, ?_, List.nil_suffix⟩
      rw [htext', htext, List.append_assoc, List.append_assoc, List.append_assoc]
    · by_cases hmn : m = n
      · subst hmn
        obtain rfl := Option.some.inj (hs.symm.trans hm)
        exact hown chunk hv' hopen
      · exact absurd (hv' ▸ Spoken.of_dispatch hm hopen hs hsame chunk) (hunheard m hmn)
  · exact hown chunk hv' hopen

theorem Course.screened (h : Course v v') (hr : Registered v) (ho : Owned v)
    (hsuccession : Succession v) (hc : c < v.captures.length) (hscreened : Screened v n c)
    (hunheard : ∀ m, m ≠ n → ¬ Spoken v v' m n) : Screened v' n c := by
  induction h with
  | refl => exact hscreened
  | tail hcourse hstep ih =>
    have hl := Course.later hcourse
    obtain ⟨k, hk, -⟩ := hl.captures (List.getElem?_eq_getElem hc)
    refine hstep.screened (Course.registered hcourse hr) (Course.succession hcourse ho hsuccession)
      (List.getElem?_eq_some_iff.1 hk).1 (ih fun m hm hspoken => ?_) fun m hm hspoken => ?_
    · exact hunheard m hm (hspoken.later hl hstep.later)
    · exact hunheard m hm (hspoken.sooner hl hstep.later)

/-! ## Requests that leave an echo -/

theorem echoInput_of_leaves (hleft : w.Leaves r) (hs : w.sessions[n]? = some s) :
    ∃ shown, w.echoInput n r.text = .ok (w.record s.transcript (shown ++ ['\n'])) := by
  obtain ⟨-, -, shown, hshown, hblank⟩ := hleft
  refine ⟨Echo.withPrompts shown, ?_⟩
  simp only [echoInput, hshown, hblank, hs, Bool.false_eq_true, if_false]

theorem live_of_opened {p : Option Nat × World τ} (ho : w.opened n r = .ok p) :
    w.blocked n r = false ∧ w.isAlive n = true := by
  have hfree : w.blocked n r = false := by
    refine Bool.eq_false_iff.2 fun hb => ?_
    cases (opened_of_blocked hb).symm.trans ho
  refine ⟨hfree, ?_⟩
  cases hlive : w.isAlive n with
  | true => rfl
  | false => cases (opened_of_dead hfree hlive).symm.trans ho

/-- A capture is opened after the echo. -/
theorem collects_opened (hsuccession : Succession w) (hp : w.prompt = Prompt.default)
    (hleft : w.Leaves r) (ho : w.opened n r = .ok (some c, v)) : ∃ s k, Collects v n c s k := by
  obtain ⟨hfree, hlive⟩ := live_of_opened ho
  obtain ⟨s, hs, halive⟩ := (Option.any_eq_true _ _).1 hlive
  obtain ⟨shown, hshown⟩ := echoInput_of_leaves hleft hs
  rw [opened_echoed hfree hlive (by simp [hleft.1, hleft.2.1]), hshown] at ho
  obtain ⟨-, rfl, rfl⟩ := readied_eq_some (Except.ok.inj ho)
  have hlt := hsuccession.transcript hs
  refine ⟨_, .empty, (getElem?_modifySession hs).trans (by rw [if_pos rfl]), ?_, rfl,
    List.getElem?_concat_length, rfl, ?_, (w.transcriptAt s.transcript).text ++ shown, ?_⟩
  · exact (Bool.not_eq_true' _).mp (Bool.and_eq_true_iff.1 halive).1
  · show w.prompt.search [] = none
    rw [hp]
    exact Option.not_isSome_iff_eq_none.1 fun h =>
      Prompt.not_shown_nil ((Prompt.search_default_isSome _).1 h)
  · refine (text_record hlt s.transcript).trans ?_
    rw [if_pos rfl, List.append_assoc]
    rfl

theorem screened_opened (hsuccession : Succession w) (hp : w.prompt = Prompt.default)
    (hleft : w.Leaves r) (ho : w.opened n r = .ok (some c, v)) :
    Screened v n c ∧ c < v.captures.length := by
  obtain ⟨s, k, hcollects⟩ := collects_opened hsuccession hp hleft ho
  exact ⟨hcollects.screened, (List.getElem?_eq_some_iff.1 hcollects.captured).1⟩

/-! ## Requests that leave no echo -/

/-- A request that leaves no echo leaves the transcripts alone when it opens. -/
theorem transcripts_opened (hleft : ¬ w.Leaves r) (hs : r.echo = true) {o : Option Nat}
    (ho : w.opened n r = .ok (o, v)) : v.transcripts = w.transcripts := by
  have hreadied : ∀ u : World τ, (u.readied n r).2.transcripts = u.transcripts := fun u => by
    unfold readied
    split <;> rfl
  unfold opened at ho
  split at ho
  · cases ho
  split at ho
  · cases ho
  split at ho
  · rename_i hecho
    cases he : w.echoInput n r.text with
    | error line =>
      rw [he] at ho
      cases ho
    | ok u =>
      rw [he] at ho
      have hv : (u.readied n r).2 = v := congrArg Prod.snd (Except.ok.inj ho)
      rcases echoInput_eq_ok he with rfl | ⟨s, shown, -, hshown, hblank, -⟩
      · rw [← hv]
        exact hreadied _
      · exact absurd ⟨(Bool.and_eq_true_iff.1 hecho).1, hs, shown, hshown, hblank⟩ hleft
  · have hv : (w.readied n r).2 = v := congrArg Prod.snd (Except.ok.inj ho)
    rw [← hv]
    exact hreadied w

/-- Without output nothing is added to a transcript. -/
theorem transcripts_dispatchAll (chunks : List Text)
    (hsilent : ∀ chunk, .output n chunk ∉ since w (w.dispatchAll n chunks)) :
    (w.dispatchAll n chunks).transcripts = w.transcripts := by
  induction chunks with
  | nil => rfl
  | cons chunk chunks ih =>
    have hsame : w.dispatch n chunk = w := by
      rcases w.deaf_or_open n with hdeaf | ⟨s, hs, hk⟩
      · exact hdeaf.dispatch chunk
      · have hrest : Later (w.dispatch n chunk) (w.dispatchAll n (chunk :: chunks)) :=
          (Course.dispatchAll (n := n) .refl chunks).later
        refine absurd ?_ (hsilent chunk)
        rw [(later_dispatch chunk).since_trans hrest]
        exact List.mem_append_right _ (mem_since_dispatch hs hk chunk)
    have hall : w.dispatchAll n (chunk :: chunks) = w.dispatchAll n chunks := by
      show (w.dispatch n chunk).dispatchAll n chunks = _
      rw [hsame]
    rw [hall] at hsilent ⊢
    exact ih hsilent

theorem transcripts_wrote (bytes : Bytes) (file : Option Bytes)
    (hsilent : ∀ chunk, .output n chunk ∉ since w (w.wrote n bytes file)) :
    (w.wrote n bytes file).transcripts = w.transcripts := by
  -- Silence as a whole is silence while the answer is read.
  have hanswered : ∀ (u v : World τ) (chunks : List Text), Later w u →
      u.transcripts = w.transcripts → Later (u.dispatchAll n chunks) v →
      (∀ chunk, .output n chunk ∉ since w v) →
      (u.dispatchAll n chunks).transcripts = w.transcripts := by
    intro u v chunks hl ht hl' hsilent
    have hmid : Later u (u.dispatchAll n chunks) :=
      (Course.dispatchAll (n := n) .refl chunks).later
    refine (transcripts_dispatchAll chunks fun chunk hmem => hsilent chunk ?_).trans ht
    rw [(hl.trans hmid).since_trans hl', hl.since_trans hmid]
    exact List.mem_append_right _ (List.mem_append_left _ hmem)
  unfold wrote at hsilent ⊢
  split at hsilent
  · rfl
  rename_i s hs
  have hread : Later w ((w.note (.write n bytes file)).modifySession n fun s' =>
      { s' with process := { s'.process with
        script := { s.process.script with replies := s.process.script.replies.tail } } }) :=
    (later_note _).trans (later_modifySession fun _ _ => ⟨rfl, rfl, id, id⟩)
  dsimp only at hsilent ⊢
  split at hsilent
  · rename_i hends
    rw [if_pos hends]
    exact hanswered _ _ _ hread rfl course_ended.later hsilent
  · rename_i hends
    rw [if_neg hends]
    exact hanswered _ _ _ hread rfl (.refl _) hsilent

theorem transcripts_written (bytes : Bytes) (file : Option Bytes) (r : Request)
    (hsilent : ∀ chunk, .output n chunk ∉ since w ((w.wrote n bytes file).remembered n r)) :
    ((w.wrote n bytes file).remembered n r).transcripts = w.transcripts := by
  have hremembered : ∀ u : World τ, (u.remembered n r).transcripts = u.transcripts := fun u => by
    unfold remembered
    split <;> rfl
  rw [hremembered]
  refine transcripts_wrote bytes file fun chunk hmem => hsilent chunk ?_
  rw [(course_wrote (n := n) bytes file).later.since_trans course_remembered.later]
  exact List.mem_append_right _ hmem

/-- The prompt shows as before when the transcripts are as before. -/
theorem Later.isReady (h : Later w w') (ht : w'.transcripts = w.transcripts)
    (hs : w.sessions[n]? = some s) : (w'.isReady n).1 = (w.isReady n).1 := by
  obtain ⟨s', hs', hlater⟩ := h.sessions hs
  simp only [isReady_fst, promptShows, hs, hs', boundary, h.prompt, hlater.transcript,
    transcriptAt_congr ht]

section Initial

variable {settings : Settings τ} {start : τ} {host : Host} {scripts : List Script}
  {notice : Notice} {projectRoot : Option (Option Text)} {w₀ w₁ : World τ}

/-- After a capturing request that has left an echo the session is not ready as long as it has the
capture, unless output of another session gets into its transcript. -/
theorem not_ready_of_leaves
    (h₀ : initial? settings start host scripts notice projectRoot = .ok w₀)
    (hdefault : settings.promptRegexp = Prompt.defaultRegexp) (hw : Course w₀ w)
    (hr : Act.request n r w = (.ok (some c), w₁)) (hleft : w.Leaves r) (hu : Course w₁ v)
    (hs : v.sessions[n]? = some s) (hcapture : s.capture = some c)
    (hunheard : ∀ m, m ≠ n → ¬ Spoken w v m n) : (v.isReady n).1 = false := by
  have huntouched := (untouched_initial h₀).2
  have hregistered := Course.registered hw huntouched.registered
  have howned := Course.owned hw huntouched.owned
  have hsuccession := Course.succession hw huntouched.owned huntouched.succession
  obtain ⟨u, bytes, file, hopened, rfl⟩ := request_eq_ok hr
  have hopening := course_opened hopened
  have hafter : Course u v := (course_written bytes file r).trans hu
  obtain ⟨hscreened, hc⟩ := screened_opened hsuccession (prompt_of_course h₀ hdefault hw) hleft
    hopened
  have hend : Screened v n c := hafter.screened (hopening.registered hregistered)
    (hopening.owned howned) (hopening.succession howned hsuccession) hc hscreened
    fun m hm hspoken => hunheard m hm (hspoken.sooner hopening.later hafter.later)
  exact hend.not_ready (prompt_of_course h₀ hdefault (hw.trans (hopening.trans hafter))) hs hcapture

/-- After a capturing request that has left no echo, and no output, the session is just as ready as
before. -/
theorem isReady_of_not_leaves (hr : Act.request n r w = (.ok (some c), w₁))
    (hleft : ¬ w.Leaves r) (hsilent : ∀ chunk, .output n chunk ∉ since w w₁) :
    (w₁.isReady n).1 = (w.isReady n).1 := by
  obtain ⟨u, bytes, file, hopened, rfl⟩ := request_eq_ok hr
  have hopening := (course_opened hopened).later
  have hwritten := (course_written (n := n) (w := u) bytes file r).later
  obtain ⟨ts, hready⟩ := opened_eq_ok hopened
  have hcapturing := (readied_eq_some hready.symm).1
  have hecho : r.echo = true := (Bool.and_eq_true_iff.1 hcapturing).2
  obtain ⟨s, hs, -⟩ := (Option.any_eq_true _ _).1 (live_of_opened hopened).2
  refine (hopening.trans hwritten).isReady ?_ hs
  rw [transcripts_written bytes file r fun chunk hmem => hsilent chunk ?_,
    transcripts_opened hleft hecho hopened]
  rw [hopening.since_trans hwritten]
  exact List.mem_append_left _ hmem

/-- After a capturing request that has left an echo the session is not ready until the capture is
over, unless output of another session gets into its transcript; a send that finds it busy has given
up waiting for it. After one that has left none, as long as the process is silent, the session is
just as ready as before. -/
theorem pending_not_ready [Clock τ]
    (h₀ : initial? settings start host scripts notice projectRoot = .ok w₀)
    (hdefault : settings.promptRegexp = Prompt.defaultRegexp) (hw : Course w₀ w)
    (hr : Act.request n r w = (.ok (some c), w₁)) :
    (w.Leaves r → ∀ w₂, Course w₁ w₂ →
      (∃ s, w₂.sessions[n]? = some s ∧ s.capture = some c) →
      ((∀ m, m ≠ n → ¬ Spoken w w₂ m n) → (w₂.isReady n).1 = false) ∧
      ∀ b x name w₃, Act.SendsFor w₂ b x → (w₂.get (w₂.targetFor (some b))).1 = some n →
        x w₂ = (.error (.busy name), w₃) → (∀ m, m ≠ n → ¬ Spoken w w₃ m n) →
        Act.GaveUp w₂ w₃ n) ∧
    (¬ w.Leaves r → (∀ chunk, .output n chunk ∉ since w w₁) →
      (w₁.isReady n).1 = (w.isReady n).1) := by
  refine ⟨fun hleft w₂ hw₂ ⟨s, hs, hcapture⟩ => ⟨?_, ?_⟩, isReady_of_not_leaves hr⟩
  · exact not_ready_of_leaves h₀ hdefault hw hr hleft hw₂ hs hcapture
  · intro b x name w₃ hx hget hbusy hunheard
    obtain ⟨e, he, hcause⟩ | ⟨block, t, step, keepMain, hblock⟩ := hx.eq_sendBlock
    · obtain rfl := Except.error.inj (Prod.mk.inj (he.symm.trans hbusy)).1
      rcases hcause with ⟨_, hother⟩ | ⟨_, hother⟩ <;> cases hother
    rw [hblock] at hbusy
    obtain ⟨hwait, hlength, ⟨s', hs', hsome⟩, hend⟩ := Act.sendBlock_busy hget hbusy
    -- The capture in its way is the one that was pending before.
    have hrequest := Act.course_request (n := n) r w
    rw [hr] at hrequest
    have hregistered : Registered w₂ :=
      Course.registered (hw.trans (hrequest.trans hw₂)) (untouched_initial h₀).2.registered
    have hsame : s'.capture = some c :=
      (hwait.capture_eq hregistered hlength hs hs' hsome).trans hcapture
    have hnot := not_ready_of_leaves h₀ hdefault hw hr hleft (hw₂.trans hwait) hs' hsame hunheard
    exact hend.resolve_left (Bool.eq_false_iff.1 hnot)

end Initial

/-- The interpreter shows its prompt. -/
def prompted : World Float := beginning.after [.getOrCreate none none, .output 0 [">>> "]]

theorem leaves_prompted : prompted.Leaves ⟨"1 + 1", true, false, true⟩ :=
  ⟨by decide +kernel, rfl, "1 + 1", by decide +kernel, by decide +kernel⟩

theorem request_prompted : Act.request 0 ⟨"1 + 1", true, false, true⟩ prompted =
    (.ok (some 0), (Act.request 0 ⟨"1 + 1", true, false, true⟩ prompted).2) :=
  have hanswer : (Act.request 0 ⟨"1 + 1", true, false, true⟩ prompted).1 = .ok (some 0) := by
    decide +kernel
  Prod.ext hanswer rfl

/-- A line is echoed after the prompt; as long as it has no answer the session is busy. -/
theorem pending_not_ready_line : ∃ w₁,
    Act.request 0 ⟨"1 + 1", true, false, true⟩ prompted = (.ok (some 0), w₁) ∧
      (prompted.isReady 0).1 = true ∧ (w₁.isReady 0).1 = false := by
  have hone : (Act.request 0 ⟨"1 + 1", true, false, true⟩ prompted).2.sessions.length = 1 := by
    decide +kernel
  have hcapture : ((Act.request 0 ⟨"1 + 1", true, false, true⟩ prompted).2.sessions[0]?).any
      (·.capture = some 0) = true := by decide +kernel
  obtain ⟨s, hs, hpending⟩ := (Option.any_eq_true _ _).1 hcapture
  refine ⟨_, request_prompted, by decide +kernel, ?_⟩
  refine (((pending_not_ready initial?_beginning rfl (course_after _ _) request_prompted).1
    leaves_prompted _ .refl ⟨s, hs, by simpa using hpending⟩).1 fun m hm hspoken => ?_)
  obtain ⟨t, -, ht, -⟩ := hspoken.shared
  have hlt := (List.getElem?_eq_some_iff.1 ht).1
  omega

def script : Buffer := ⟨"x = 1\n", 0, "a.py", none, "utf-8"⟩

/-- A file is being loaded; the line that has it loaded is not shown. -/
def loading : World Float := prompted.after [.sendFile "a.py" (some script) none false]

/-- While a file is being loaded the session reads as ready, and the next send is refused without
any wait. -/
theorem ready_loading : (loading.sessions[0]?).any (·.capture.isSome) = true ∧
    (loading.isReady 0).1 = true ∧
    (Act.send script .statement false loading).1 = .error (.busy sharedTarget) ∧
    since loading (Act.send script .statement false loading).2 = [] := by
  decide +kernel

end World

end ReplSend
