import ReplSend.Proofs.Arriving
import ReplSend.Proofs.Capturing
import ReplSend.Proofs.Readiness

/-!
# Waiting, and being refused

Before a send its session is waited for, until it is ready or the wait is given up: with a warning,
or when the number of tests that the clock allows is used up (`awaitReady_spec`). Nothing is
captured meanwhile. A send that is refused because its session is busy has found, at the end of its
wait, a capture that was pending when it began (`sendBlock_busy`).
-/

namespace ReplSend

namespace World

variable {τ : Type} {w w' v : World τ} {n c : Nat} {s s' : Session}

/-! ## Waiting opens no capture -/

theorem Arrival.length_captures (h : Arrival w w') : w'.captures.length = w.captures.length := by
  cases h with
  | capture c k => exact List.length_set
  | _ => rfl

theorem length_captures_sleep [Clock τ] (time : τ) :
    (w.sleep time).captures.length = w.captures.length :=
  (arrivals_sleep time).congr (·.captures.length) Arrival.length_captures

theorem length_captures_isReady : (w.isReady n).2.captures.length = w.captures.length := by
  rw [isReady_snd]
  rfl

/-- Looking once more gives the same answer. -/
theorem isReady_isReady : ((w.isReady n).2.isReady n).1 = (w.isReady n).1 := by
  simp only [isReady_fst, isReady_snd]
  unfold promptShows
  cases hs : w.sessions[n]? with
  | none => simp [modifySession, hs]
  | some s =>
    rw [getElem?_modifySession hs, if_pos rfl]
    rfl

theorem Later.nameOf (h : Later w w') (hs : w.sessions[n]? = some s) :
    w'.nameOf n = w.nameOf n := by
  obtain ⟨s', hs', hlater⟩ := h.sessions hs
  rw [World.nameOf, World.nameOf, hs, hs']
  exact hlater.name

theorem sleep_count [Clock τ] (time : τ) : 0 < (since w (w.sleep time)).count .sleep := by
  have hticked : Later (w.passed time) (w.sleep time) :=
    (Later.refl _).foldl (fun w n => (course_tick (w := w) (n := n)).later) _
  obtain ⟨events, hevents⟩ := hticked.trace
  have hsince : since w (w.sleep time) = events ++ [.sleep] := by
    refine since_eq ?_
    rw [← hevents, List.append_assoc]
    rfl
  rw [hsince, List.count_append, List.count_singleton_self]
  exact Nat.succ_pos _

/-! ## While a capture is pending -/

/-- What a session puts out goes into the capture that it keeps. -/
theorem Registered.fed {k : Capture} {chunk : Text} (hr : Registered w)
    (hs : w.sessions[n]? = some s) (hopen : s.killed = false) (hcapture : s.capture = some c)
    (hk : w.captures[c]? = some k) (hs' : (w.dispatch n chunk).sessions[n]? = some s')
    (hcapture' : s'.capture = some c) :
    (w.dispatch n chunk).captures[c]? = some ⟨k.text ++ chunk, false⟩ ∧
      w.boundary (k.text ++ chunk) = none := by
  cases hr.reception n chunk with
  | ignored hkilled => cases hopen.symm.trans (hkilled s hs)
  | unobserved t ht _ hi =>
    obtain rfl := Option.some.inj (hs.symm.trans ht)
    cases hi.1.symm.trans hcapture
  | collected t d l ht _ hp hl hb hv =>
    obtain rfl := Option.some.inj (hs.symm.trans ht)
    obtain rfl := Option.some.inj (hcapture.symm.trans hp.capture)
    obtain rfl := Option.some.inj (hk.symm.trans hl)
    rw [hv]
    exact ⟨List.getElem?_set_self (List.getElem?_eq_some_iff.1 hk).1, hb⟩
  | flushed t d l offset ht _ hp hl hb hv =>
    obtain rfl := Option.some.inj (hs.symm.trans ht)
    obtain rfl := Option.some.inj (hcapture.symm.trans hp.capture)
    rw [hv, sessions_notify] at hs'
    rcases hr.getElem?_closed hs hp hs' with hi | ⟨-, hne⟩
    · cases hi.1.symm.trans hcapture'
    · exact absurd hcapture' hne

/-- A session that has a capture after a chunk of output has had it before, and the capture is as it
was, unless the output is its own. -/
theorem Registered.pending_dispatch {k : Capture} {m : Nat} {chunk : Text} (hr : Registered w)
    (hk : w.captures[c]? = some k) (hs' : (w.dispatch m chunk).sessions[n]? = some s')
    (hcapture : s'.capture = some c) :
    ∃ s, w.sessions[n]? = some s ∧ s.capture = some c ∧
      ((w.dispatch m chunk).captures[c]? = some k ∨ m = n ∧ s.killed = false) := by
  cases hr.reception m chunk with
  | ignored hs hv =>
    rw [hv] at hs' ⊢
    exact ⟨s', hs', hcapture, .inl hk⟩
  | unobserved s hs hopen hi hv =>
    rw [hv] at hs' ⊢
    rw [sessions_received] at hs'
    exact ⟨s', hs', hcapture, .inl (by rw [captures_received, hk])⟩
  | collected s d l hs hopen hp hl hb hv =>
    have hold : w.sessions[n]? = some s' := by
      rw [hv] at hs'
      rwa [← sessions_received (w := w) (n := m) chunk]
    refine ⟨s', hold, hcapture, ?_⟩
    by_cases hd : d = c
    · subst hd
      obtain rfl := hr.apart hs hold hp.capture hcapture
      obtain rfl := Option.some.inj (hs.symm.trans hold)
      exact .inr ⟨rfl, hopen⟩
    · rw [hv]
      exact .inl ((List.getElem?_set_ne hd).trans hk)
  | flushed s d l offset hs hopen hp hl hb hv =>
    rw [hv, sessions_notify] at hs'
    rcases hr.getElem?_closed hs hp hs' with hi | ⟨hold, hne⟩
    · cases hi.1.symm.trans hcapture
    · have hd : d ≠ c := fun hd => hne (hd ▸ hcapture)
      rw [hv, captures_notify]
      exact ⟨s', hold, hcapture, .inl ((List.getElem?_set_ne hd).trans hk)⟩

theorem capture_modifySession {m : Nat} {f : Session → Session}
    (hf : ∀ s, w.sessions[m]? = some s → (f s).capture = some c → s.capture = some c)
    (hs' : (w.modifySession m f).sessions[n]? = some s') (hcapture : s'.capture = some c) :
    ∃ s, w.sessions[n]? = some s ∧ s.capture = some c := by
  obtain ⟨s, hs, rfl⟩ := of_getElem?_modifySession hs'
  split at hcapture
  · rename_i hm
    exact ⟨s, hs, hf s (hm ▸ hs) hcapture⟩
  · exact ⟨s, hs, hcapture⟩

/-- A session has had its capture before, unless it is opened just now, and the capture is fed by
output of this session only. -/
theorem Change.pending {k : Capture} (h : Change w w') (hr : Registered w)
    (hk : w.captures[c]? = some k) (hs' : w'.sessions[n]? = some s')
    (hcapture : s'.capture = some c) :
    ∃ s, w.sessions[n]? = some s ∧ s.capture = some c ∧
      (w'.captures[c]? = some k ∨ ∃ chunk, w' = w.dispatch n chunk ∧ s.killed = false) := by
  cases h with
  | touch m f hf =>
    obtain ⟨s, hs, hc⟩ := capture_modifySession (fun s hs hc => (hf s hs).capture ▸ hc) hs' hcapture
    exact ⟨s, hs, hc, .inl hk⟩
  | look m =>
    rw [isReady_snd] at hs' ⊢
    obtain ⟨s, hs, hc⟩ := capture_modifySession (f := fun s =>
      { s with everReady := s.everReady || w.promptShows m }) (fun s _ hc => hc) hs' hcapture
    exact ⟨s, hs, hc, .inl hk⟩
  | output m chunk =>
    obtain ⟨s, hs, hc, hkept | ⟨rfl, hopen⟩⟩ := hr.pending_dispatch hk hs' hcapture
    · exact ⟨s, hs, hc, .inl hkept⟩
    · exact ⟨s, hs, hc, .inr ⟨chunk, rfl, hopen⟩⟩
  | start target script =>
    rcases getElem?_addSession hs' with hs | ⟨-, rfl⟩
    · exact ⟨s', hs, hcapture, .inl (by rw [captures_addSession, hk])⟩
    · cases hcapture
  | kill m =>
    obtain ⟨s, hs, hc⟩ := capture_modifySession (f := Session.cutOff) (fun s _ hc => nomatch hc)
      hs' hcapture
    exact ⟨s, hs, hc, .inl hk⟩
  | capture m =>
    have hlt := (List.getElem?_eq_some_iff.1 hk).1
    obtain ⟨s, hs, hc⟩ := capture_modifySession
      (fun s _ hc => absurd (Option.some.inj hc) (by omega)) hs' hcapture
    exact ⟨s, hs, hc, .inl ((List.getElem?_append_left hlt).trans hk)⟩
  | release m d =>
    obtain ⟨s, hs, hc⟩ := capture_modifySession (fun s _ hc => by
      simp only [Session.release] at hc
      split at hc
      · cases hc
      · exact hc) hs' hcapture
    exact ⟨s, hs, hc, .inl hk⟩
  | _ => exact ⟨s', hs', hcapture, .inl hk⟩

/-- A capture that a session has at last, and that there was at first, it has had at first. -/
theorem Course.capture_before (h : Course w w') (hr : Registered w) (hc : c < w.captures.length)
    (hs' : w'.sessions[n]? = some s') (hcapture : s'.capture = some c) :
    ∃ s, w.sessions[n]? = some s ∧ s.capture = some c := by
  induction h generalizing s' with
  | refl => exact ⟨s', hs', hcapture⟩
  | tail hcourse hstep ih =>
    obtain ⟨k, hk, -⟩ := (Course.later hcourse).captures (List.getElem?_eq_getElem hc)
    obtain ⟨s, hs, hbefore, -⟩ := hstep.pending (Course.registered hcourse hr) hk hs' hcapture
    exact ih hs hbefore

/-- When no capture is opened, a session that has one at last has had the same at first. -/
theorem Course.capture_eq (h : Course w w') (hr : Registered w)
    (hlength : w'.captures.length = w.captures.length) (hs : w.sessions[n]? = some s)
    (hs' : w'.sessions[n]? = some s') (hsome : s'.capture.isSome = true) :
    s'.capture = s.capture := by
  obtain ⟨c, hc⟩ := Option.isSome_iff_exists.1 hsome
  have hlt : c < w.captures.length := hlength ▸ (h.registered hr).capture_lt hs' hc
  obtain ⟨t, ht, hbefore⟩ := h.capture_before hr hlt hs' hc
  obtain rfl := Option.some.inj (hs.symm.trans ht)
  rw [hc, hbefore]

end World

namespace Act

open World (Course since Later)

variable {τ : Type} {w w' v : World τ} {n : Nat} {name : Text} {e : Failure}

/-! ## Why an operation fails -/

theorem offered_eq_error {data : Text} (h : w.offered n data = .error e) :
    e.kind ∈ [.sessionUnavailable, .foreign] := by
  unfold World.offered Session.taken at h
  split at h
  · cases h
    simp [Failure.kind]
  split at h
  · cases h
    simp [Failure.kind]
  split at h
  · cases h
    simp [Failure.kind]
  split at h
  · cases h
  · cases h
    simp [Failure.kind]

theorem transmission_eq_error {encoding t : Text} {keepMain : Bool}
    (h : w.transmission n encoding keepMain t = .error e) :
    e.kind ∈ [.sessionUnavailable, .foreign] := by
  have hmap : ∀ {α β : Type} {x : Except Failure α} {f : α → β}, x.map f = .error e →
      x = .error e := by
    intro α β x f h
    cases x with
    | ok a => cases h
    | error e' => exact congrArg Except.error (Except.error.inj h)
  unfold World.transmission at h
  split at h
  · exact offered_eq_error (hmap h)
  split at h
  · cases h
    simp [Failure.kind]
  split at h
  · cases h
    simp [Failure.kind]
  · exact offered_eq_error (hmap h)

theorem opened_eq_error {r : Request} (h : w.opened n r = .error e) :
    (w.blocked n r = true ∧ e.kind = .sessionBusy) ∨
      e.kind ∈ [.sessionUnavailable, .malformedBlock] := by
  unfold World.opened at h
  split at h
  · rename_i hb
    cases h
    exact .inl ⟨hb, rfl⟩
  split at h
  · cases h
    exact .inr (by simp [Failure.kind])
  split at h
  · unfold World.echoInput at h
    split at h
    · cases h
      exact .inr (by simp [Failure.kind])
    split at h
    · cases h
    split at h <;> cases h
  · cases h

/-- A request that finds its session busy, with a capture in its way, does nothing. -/
theorem request_eq_error {r : Request} (h : request n r w = (.error e, w')) :
    (w.blocked n r = true ∧ e.kind = .sessionBusy ∧ w' = w) ∨
      e.kind ∈ [.sessionUnavailable, .malformedBlock, .foreign] := by
  rw [request_apply] at h
  cases ho : w.opened n r with
  | error e' =>
    rw [ho] at h
    obtain ⟨he, rfl⟩ := Prod.mk.inj h
    obtain rfl := Except.error.inj he
    refine (opened_eq_error ho).imp (fun hb => ⟨hb.1, hb.2, rfl⟩) fun hkind => ?_
    simp only [List.mem_cons, List.not_mem_nil] at hkind ⊢
    tauto
  | ok p =>
    rw [ho] at h
    dsimp only at h
    split at h
    · cases h
    · rename_i e' he
      obtain rfl := Except.error.inj (Prod.mk.inj h).1
      have hkind := transmission_eq_error he
      simp only [List.mem_cons, List.not_mem_nil] at hkind ⊢
      tauto

theorem bind_error {α β : Type} {x : Except Failure α} {f : α → Except Failure β}
    (h : (x >>= f) = .error e) : x = .error e ∨ ∃ a, x = .ok a ∧ f a = .error e := by
  cases x with
  | error e' =>
    have he : (Except.error e' : Except Failure β) = .error e := h
    exact .inl (congrArg Except.error (Except.error.inj he))
  | ok a => exact .inr ⟨a, rfl, h⟩

theorem located_eq_error {r : Except LocateFault Block} (h : located r = .error e) :
    ∃ f, e = .locate f := by
  cases r with
  | ok block => cases h
  | error f => exact ⟨f, (Except.error.inj h).symm⟩

theorem required_eq_error {kind : BlockKind} {r : Except LocateFault (Option Block)}
    (h : required kind r = .error e) : ∃ f, e = .locate f := by
  rcases r with f | _ | block
  · exact ⟨f, (Except.error.inj h).symm⟩
  · exact ⟨_, (Except.error.inj h).symm⟩
  · cases h

theorem dedented_eq_error {t : Text} (h : dedented t = .error e) : ∃ line, e = .shallow line := by
  unfold dedented at h
  cases hd : Fragment.dedent t with
  | ok t' =>
    rw [hd] at h
    cases h
  | error line =>
    rw [hd] at h
    exact ⟨line, (Except.error.inj h).symm⟩

/-- A selection is not found, or it cannot be moved to the margin. -/
theorem fragment_eq_error {b : Buffer} {selection : Selection}
    (h : w.fragment b selection = .error e) :
    (∃ f, e = .locate f) ∨ ∃ line, e = .shallow line := by
  -- Some are moved to the margin after they are found, the others are found or not.
  have hmoved : ∀ {r : Except Failure Block} {f : Block → Text},
      (r = .error e → ∃ f, e = .locate f) →
      (do let block ← r; return (block, ← dedented (f block))) = Except.error e →
        (∃ f, e = .locate f) ∨ ∃ line, e = .shallow line := by
    intro r f hr h
    rcases bind_error h with hr' | ⟨block, -, h⟩
    · exact .inl (hr hr')
    rcases bind_error h with hd | ⟨t, -, h⟩
    · exact .inr (dedented_eq_error hd)
    · cases h
  have hfound : ∀ {r : Except LocateFault Block} {f : Block → Text},
      (do let block ← located r; return (block, f block)) = Except.error e →
        ∃ f, e = .locate f := by
    intro r f h
    rcases bind_error h with hr | ⟨block, -, h⟩
    · exact located_eq_error hr
    · cases h
  cases selection with
  | statement => exact hmoved located_eq_error h
  | topStatement => exact .inl (hfound h)
  | defun => exact hmoved required_eq_error h
  | defclass => exact hmoved required_eq_error h
  | group => exact .inl (hfound h)
  | cell =>
    rcases bind_error h with hr | ⟨block, -, h⟩
    · exact .inl (located_eq_error hr)
    dsimp only at h
    split at h
    · exact .inl ⟨_, (Except.error.inj h).symm⟩
    · cases h
  | region start stop => cases h
  | buffer keepMain => cases h

theorem ofFile_eq_error {host : Host} {path encoding : Text} {line : Int}
    (h : Buffer.ofFile host path line encoding = .error e) : e.kind = .foreign := by
  unfold Buffer.ofFile at h
  split at h
  · cases h
    rfl
  split at h
  · cases h
    rfl
  split at h
  · cases h
    rfl
  · cases h

/-- The session that is found for a target is the live one in the table. -/
theorem get_eq_some_iff {target : Text} :
    (w.get target).1 = some n ↔ w.table.get? target = some n ∧ w.isAlive n = true := by
  unfold World.get
  split
  · rename_i hnone
    simp [hnone]
  · rename_i m hm
    rw [hm, Option.some.injEq]
    split
    · rename_i hlive
      rw [Option.some.injEq]
      exact ⟨fun h => ⟨h, h ▸ hlive⟩, And.left⟩
    · rename_i hdead
      exact ⟨nofun, fun ⟨h, hlive⟩ => absurd (h ▸ hlive) hdead⟩

theorem get_eq_some {target : Text} (h : (w.get target).1 = some n) :
    w.get target = (some n, w) := by
  obtain ⟨hn, hlive⟩ := get_eq_some_iff.1 h
  simp only [World.get, hn, hlive, if_true]

theorem getOrCreate_apply (b : Buffer) :
    getOrCreate none (some b) w = match w.get (w.targetFor (some b)) with
      | (some n, v) => (.ok n, v)
      | (none, v) => spawn (w.targetFor (some b)) (some b) v := by
  unfold getOrCreate
  simp only [bind_apply, get_apply, Option.filter_none, Option.getD_none]
  rw [show change (·.get (w.targetFor (some b))) w =
    (.ok (w.get (w.targetFor (some b))).1, (w.get (w.targetFor (some b))).2) from rfl]
  dsimp only
  rcases w.get (w.targetFor (some b)) with ⟨_ | n, v⟩
  · rfl
  · rfl

/-! ## The wait -/

section Waiting

variable [Clock τ]

/-- What is logged when a wait is given up. -/
def timeoutText (name : Text) (timeout : τ) : Text :=
  "session.ready.timeout target=" ++ name ++ " waited=" ++ Clock.tenths timeout ++ ['s']

/-- The warning that session `n` did not get ready. -/
def timeout (w : World τ) (n : Nat) : Event :=
  .log .warning (timeoutText (w.nameOf n) w.settings.readyTimeout)

theorem timeout_later (h : Later w w') {s : Session} (hs : w.sessions[n]? = some s) :
    timeout w' n = timeout w n := by
  rw [timeout, timeout, h.nameOf hs, h.settings]

/-- One round of waiting. -/
theorem awaitReady_succ (deadline : τ) (limit : Nat) :
    awaitReady n deadline (limit + 1) w =
      if (w.isReady n).1 then (.ok (), (w.isReady n).2)
      else if Clock.le (Clock.sub deadline w.clock) Clock.zero || !w.isAlive n then
        (.ok (), w.note (timeout w n))
      else awaitReady n deadline limit
        (w.sleep (Clock.least w.settings.pollInterval (Clock.sub deadline w.clock))) := by
  have hkept : (w.isReady n).1 = false → (w.isReady n).2 = w := fun h => by
    unfold World.isReady at h ⊢
    split
    · rename_i hshows
      rw [if_pos hshows] at h
      cases h
    · rfl
  rw [awaitReady, bind_apply]
  simp only [change]
  cases hready : (w.isReady n).1 with
  | true => rfl
  | false =>
    rw [hkept hready]
    simp only [Bool.false_eq_true, if_false]
    rw [bind_apply, get_apply]
    dsimp only
    split
    · rfl
    · rfl

theorem awaitReady_spec {s : Session} (hs : w.sessions[n]? = some s) (deadline : τ) (limit : Nat) :
    ∃ v, awaitReady n deadline limit w = (.ok (), v) ∧ Course w v ∧
      v.captures.length = w.captures.length ∧
      ((v.isReady n).1 = true ∨ timeout w n ∈ since w v ∨
        limit ≤ (since w v).count .sleep) := by
  induction limit generalizing w s with
  | zero => exact ⟨w, rfl, .refl, rfl, .inr (.inr (Nat.zero_le _))⟩
  | succ limit ih =>
    rw [awaitReady_succ]
    split
    · rename_i hready
      refine ⟨_, rfl, World.course_isReady, World.length_captures_isReady, .inl ?_⟩
      rwa [World.isReady_isReady]
    split
    · refine ⟨_, rfl, Course.note .refl rfl, rfl, .inr (.inl ?_)⟩
      have hsince : since w (w.note (timeout w n)) = [timeout w n] := World.since_eq rfl
      rw [hsince]
      exact List.mem_singleton_self _
    · generalize htime : Clock.least w.settings.pollInterval (Clock.sub deadline w.clock) = time
      have hcourse := World.course_sleep (w := w) time
      obtain ⟨s', hs', -⟩ := hcourse.later.sessions hs
      obtain ⟨v, hv, hafter, hlength, hend⟩ := ih hs'
      have htext := timeout_later hcourse.later hs
      refine ⟨v, hv, hcourse.trans hafter, hlength.trans (World.length_captures_sleep time), ?_⟩
      rw [hcourse.later.since_trans hafter.later, List.mem_append, List.count_append, ← htext]
      have hslept := World.sleep_count (w := w) time
      exact hend.imp_right fun h => h.imp .inl fun h => by omega

/-- The wait has ended without a prompt: a warning tells so, or all tests have been made. -/
def GaveUp (w w' : World τ) (n : Nat) : Prop :=
  timeout w n ∈ since w w' ∨
    Clock.rounds w.settings.readyTimeout w.settings.pollInterval < (since w w').count .sleep

/-- The session is found, and waited for. -/
theorem ensureRunning_found {b : Buffer} (hget : (w.get (w.targetFor (some b))).1 = some n) :
    ∃ v, ensureRunning none (some b) w = (.ok n, v) ∧ Course w v ∧
      v.captures.length = w.captures.length ∧ ((v.isReady n).1 = true ∨ GaveUp w v n) := by
  obtain ⟨s, hs, -⟩ := (Option.any_eq_true _ _).1 (get_eq_some_iff.1 hget).2
  obtain ⟨v, hv, hcourse, hlength, hend⟩ := awaitReady_spec hs
    (Clock.add w.clock w.settings.readyTimeout)
    (Clock.rounds w.settings.readyTimeout w.settings.pollInterval + 1)
  refine ⟨v, ?_, hcourse, hlength, hend⟩
  have hfound : getOrCreate none (some b) w = (.ok n, w) := by
    rw [getOrCreate_apply, get_eq_some hget]
  simp only [ensureRunning, bind_apply, hfound, get_apply, hv, pure_apply]

/-! ## Sends -/

/-- A send for a buffer whose session is found busy has waited for it, and then met its capture. -/
theorem sendBlock_busy {b : Buffer} {block : Block} {t : Text} {step keepMain : Bool}
    (hget : (w.get (w.targetFor (some b))).1 = some n)
    (h : sendBlock b block t step keepMain w = (.error (.busy name), w')) :
    Course w w' ∧ w'.captures.length = w.captures.length ∧
      (∃ s, w'.sessions[n]? = some s ∧ s.capture.isSome = true) ∧
      ((w'.isReady n).1 = true ∨ GaveUp w w' n) := by
  obtain ⟨v, hv, hcourse, hlength, hend⟩ := ensureRunning_found hget
  rw [sendBlock, bind_apply, hv] at h
  dsimp only at h
  rw [bind_apply] at h
  rcases hr : request n ⟨t, true, false, keepMain⟩ v with ⟨e | c, u⟩
  · rw [hr] at h
    obtain ⟨he, rfl⟩ := Prod.mk.inj h
    rw [Except.error.inj he] at hr
    rcases request_eq_error hr with ⟨hblocked, -, rfl⟩ | hkind
    swap
    · simp [Failure.kind] at hkind
    refine ⟨hcourse, hlength, ?_, hend⟩
    have hany := (Bool.and_eq_true_iff.1 hblocked).2
    exact (Option.any_eq_true _ _).1 hany
  · -- What follows a request cannot fail.
    rw [hr] at h
    cases congrArg Prod.fst h

/-- The sends for a buffer: of a part of it, and of a file, its own or another one. -/
inductive SendsFor (w : World τ) (b : Buffer) : Act τ Outcome → Prop
  | selection (selection : Selection) (step : Bool) : SendsFor w b (send b selection step)
  | file (path : Text) (encoding : Option Text) (keepMain : Bool) :
      SendsFor w b (sendFile path (some b) encoding keepMain)
  | ownFile (path : Text) (encoding : Option Text) (keepMain : Bool)
      (h : Buffer.ofFile w.host path 1
        ((encoding.filter (!·.isEmpty)).getD w.settings.encoding) = .ok b) :
      SendsFor w b (sendFile path none encoding keepMain)

theorem send_apply (b : Buffer) (selection : Selection) (step : Bool) :
    send b selection step w = match w.fragment b selection with
      | .error e => (.error e, w)
      | .ok (block, t) =>
        sendBlock b block t (match selection with | .buffer _ => false | _ => step)
          selection.keepsMain w := by
  unfold send
  rw [bind_apply, get_apply]
  dsimp only
  rw [bind_apply, ofExcept_apply]
  rcases w.fragment b selection with e | ⟨block, t⟩
  · rfl
  · rfl

theorem sendFile_some (path : Text) (b : Buffer) (encoding : Option Text) (keepMain : Bool) :
    sendFile path (some b) encoding keepMain w = sendBlock b b.outline.whole
      (Loader.command (w.host.resolve path) ((encoding.filter (!·.isEmpty)).getD b.encoding)
        keepMain false) false keepMain w := by
  unfold sendFile
  rw [bind_apply, get_apply]
  dsimp only
  rw [bind_apply, pure_apply]

theorem sendFile_none (path : Text) (encoding : Option Text) (keepMain : Bool) :
    sendFile path none encoding keepMain w =
      match Buffer.ofFile w.host path 1
          ((encoding.filter (!·.isEmpty)).getD w.settings.encoding) with
      | .error e => (.error e, w)
      | .ok b => sendFile path (some b) encoding keepMain w := by
  conv_lhs => unfold sendFile
  rw [bind_apply, get_apply]
  dsimp only
  rw [bind_apply, ofExcept_apply]
  cases Buffer.ofFile w.host path 1 ((encoding.filter (!·.isEmpty)).getD w.settings.encoding) with
  | error e => rfl
  | ok b => exact (sendFile_some path b encoding keepMain).symm

/-- A send finds nothing to send, and fails, or it sends a block to the session of its buffer. -/
theorem SendsFor.eq_sendBlock {b : Buffer} {x : Act τ Outcome} (hx : SendsFor w b x) :
    (∃ e, x w = (.error e, w) ∧ ((∃ f, e = .locate f) ∨ ∃ line, e = .shallow line)) ∨
      ∃ block t step keepMain, x w = sendBlock b block t step keepMain w := by
  cases hx with
  | selection selection step =>
    rw [send_apply]
    rcases hf : w.fragment b selection with e | ⟨block, t⟩
    · exact .inl ⟨e, rfl, fragment_eq_error hf⟩
    · exact .inr ⟨block, t, _, _, rfl⟩
  | file path encoding keepMain =>
    rw [sendFile_some]
    exact .inr ⟨_, _, _, _, rfl⟩
  | ownFile path encoding keepMain hb =>
    rw [sendFile_none, hb]
    dsimp only
    rw [sendFile_some]
    exact .inr ⟨_, _, _, _, rfl⟩

end Waiting

end Act

end ReplSend
