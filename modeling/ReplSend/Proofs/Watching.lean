import ReplSend.Proofs.Lasting
import ReplSend.Proofs.Transcript

/-!
# The states of a session

The state of a session is not kept: whenever it is read it is made anew from the process, from the
end of the transcript and from what was seen before. What is read in the course of events is
nevertheless starting at first, then ready and busy in any order, and killed for ever after
(`states_of_watched`). What carries this is that nothing but a look that finds a prompt is
remembered (`Change.everReady`), so that what is remembered is just that an earlier look has found
one (`Watched.session`).
-/

namespace ReplSend

/-- Somebody looks at a session: whether it is ready, or what state it is in. -/
inductive Glance where
  | ready (found : Bool)
  | state (s : SessionState)
  deriving DecidableEq, Repr

namespace Glance

/-- A prompt was found. -/
def finds : Glance → Bool
  | ready found => found
  | state s => s = .ready

def state? : Glance → Option SessionState
  | ready _ => none
  | state s => some s

end Glance

theorem filterMap_state (gs : List Glance) (x : SessionState) :
    (gs ++ [Glance.state x]).filterMap Glance.state? = gs.filterMap Glance.state? ++ [x] :=
  List.filterMap_append

namespace SessionState

/-- The states are starting at first, then ready or busy, and at last killed. -/
structure Stretches (states early middle late : List SessionState) : Prop where
  eq : states = early ++ middle ++ late
  starting : ∀ s ∈ early, s = starting
  live : ∀ s ∈ middle, s = ready ∨ s = busy
  killed : ∀ s ∈ late, s = killed

variable {states early middle late : List SessionState}

theorem Stretches.nil : Stretches [] [] [] [] := ⟨rfl, nofun, nofun, nofun⟩

theorem Stretches.wait (h : Stretches states early [] []) :
    Stretches (states ++ [.starting]) (early ++ [.starting]) [] [] where
  eq := by simp [h.eq]
  starting := List.forall_mem_append.2 ⟨h.starting, by simp⟩
  live := nofun
  killed := nofun

theorem Stretches.go (h : Stretches states early middle []) {x : SessionState}
    (hx : x = .ready ∨ x = .busy) : Stretches (states ++ [x]) early (middle ++ [x]) [] where
  eq := by simp [h.eq]
  starting := h.starting
  live := List.forall_mem_append.2 ⟨h.live, by simpa using hx⟩
  killed := nofun

theorem Stretches.die (h : Stretches states early middle late) :
    Stretches (states ++ [.killed]) early middle (late ++ [.killed]) where
  eq := by simp [h.eq]
  starting := h.starting
  live := h.live
  killed := List.forall_mem_append.2 ⟨h.killed, by simp⟩

/-- The way of a session: starting, then ready and busy in any order, then killed for ever. -/
def IsWay (states : List SessionState) : Prop :=
  ∃ early middle late, Stretches states early middle late

end SessionState

namespace World

variable {τ : Type} {w w' v v' v₀ : World τ} {n : Nat} {s s' : Session} {gs : List Glance}

/-! ## What is remembered -/

/-- A look at session `n` finds a prompt and is the first to find one. -/
def Discovers (n : Nat) (w w' : World τ) : Prop :=
  (w.isReady n).1 = true ∧ w' = (w.isReady n).2 ∧ w' ≠ w

theorem everReady_modifySession {m : Nat} {f : Session → Session}
    (hs : w.sessions[n]? = some s) (hs' : (w.modifySession m f).sessions[n]? = some s')
    (hf : ∀ s, w.sessions[m]? = some s → (f s).everReady = s.everReady) :
    s'.everReady = s.everReady := by
  rw [getElem?_modifySession hs] at hs'
  obtain rfl := Option.some.inj hs'
  split
  · rename_i hm
    exact hf s (hm ▸ hs)
  · rfl

/-- Nothing but finding a prompt is remembered. -/
theorem Change.everReady (h : Change w w') (hs : w.sessions[n]? = some s)
    (hs' : w'.sessions[n]? = some s') : s'.everReady = s.everReady ∨ Discovers n w w' := by
  have hsame : w'.sessions = w.sessions → s'.everReady = s.everReady := fun hsessions => by
    rw [hsessions, hs] at hs'
    rw [Option.some.inj hs']
  cases h with
  | touch m f hf => exact .inl (everReady_modifySession hs hs' fun t ht => (hf t ht).everReady)
  | look m =>
    by_cases hm : m = n
    · subst hm
      cases hshown : w.promptShows m with
      | false =>
        left
        rw [isReady_snd, hshown] at hs'
        exact everReady_modifySession hs hs' fun t _ => Bool.or_false t.everReady
      | true =>
        by_cases hkept : (w.isReady m).2 = w
        · exact .inl (hsame (congrArg World.sessions hkept))
        · exact .inr ⟨(w.isReady_fst m).trans hshown, rfl, hkept⟩
    · left
      rw [isReady_snd, getElem?_modifySession hs, if_neg hm] at hs'
      rw [Option.some.inj hs']
  | output m chunk =>
    left
    obtain ⟨t, ht, hkept⟩ := uncaptured_dispatch (n := m) hs chunk
    rw [Option.some.inj (hs'.symm.trans ht)]
    exact congrArg (·.everReady) hkept
  | start target script =>
    left
    have hlt := (List.getElem?_eq_some_iff.1 hs).1
    rw [sessions_addSession, List.getElem?_append_left hlt, hs] at hs'
    rw [Option.some.inj hs']
  | kill m => exact .inl (everReady_modifySession hs hs' fun _ _ => rfl)
  | capture m =>
    have hs : ({ w with captures := w.captures ++ [.empty] } : World τ).sessions[n]? = some s := hs
    exact .inl (everReady_modifySession hs hs' fun _ _ => rfl)
  | release m c => exact .inl (everReady_modifySession hs hs' fun _ _ => rfl)
  | _ => exact .inl (hsame rfl)

/-! ## Reading the state -/

/-- The state of a session is made of four questions. -/
theorem state_eq (hs : w.sessions[n]? = some s) : w.state n =
    if s.alive = false then (.killed, w)
    else if w.promptShows n = true then (.ready, (w.isReady n).2)
    else (if s.everReady = true then .busy else .starting, w) := by
  have halive : w.isAlive n = s.alive := by simp [isAlive, hs]
  unfold state
  rw [halive]
  cases s.alive with
  | false => rfl
  | true =>
    unfold isReady
    cases w.promptShows n with
    | true => rfl
    | false => simp [hs]

theorem promptShows_eq (hs : w.sessions[n]? = some s) : w.promptShows n =
    (w.prompt.search ((w.transcriptAt s.transcript).text.drop
      ((w.transcriptAt s.transcript).text.length - 256))).isSome := by
  rw [promptShows, hs]
  dsimp only
  rw [Transcript.tail_eq (by decide)]
  rfl

/-- A session is ready exactly if it lives and a prompt ends its transcript. -/
theorem state_ready_iff : (w.state n).1 = .ready ↔ ∃ s, w.sessions[n]? = some s ∧
    s.alive = true ∧ (w.prompt.search ((w.transcriptAt s.transcript).text.drop
      ((w.transcriptAt s.transcript).text.length - 256))).isSome = true := by
  cases hs : w.sessions[n]? with
  | none => simp [state, isAlive, hs]
  | some s =>
    simp only [Option.some.injEq, exists_eq_left', ← promptShows_eq hs, state_eq hs]
    cases s.alive <;> cases w.promptShows n <;> cases s.everReady <;> simp

/-! ## Watching a session -/

/-- From one state to another session `n` is looked at now and then, and whatever else happens. The
first look that finds a prompt does not go unseen. -/
inductive Watched (n : Nat) (v : World τ) : List Glance → World τ → Prop
  | nil : Watched n v [] v
  | ready {gs : List Glance} {w : World τ} : Watched n v gs w →
      Watched n v (gs ++ [.ready (w.isReady n).1]) (w.isReady n).2
  | state {gs : List Glance} {w : World τ} : Watched n v gs w →
      Watched n v (gs ++ [.state (w.state n).1]) (w.state n).2
  | change {gs : List Glance} {w w' : World τ} : Watched n v gs w → Change w w' →
      ¬ Discovers n w w' → Watched n v gs w'

/-- Every course of events can be watched. -/
theorem Watched.of_course (h : Watched n v gs w) (hw : Course w w') :
    ∃ more, Watched n v (gs ++ more) w' := by
  induction hw with
  | refl => exact ⟨[], by rwa [List.append_nil]⟩
  | @tail u u' _ hchange ih =>
    obtain ⟨more, hmore⟩ := ih
    by_cases hdiscovers : Discovers n u u'
    · obtain ⟨-, rfl, -⟩ := hdiscovers
      refine ⟨more ++ [.ready (u.isReady n).1], ?_⟩
      rw [← List.append_assoc]
      exact hmore.ready
    · exact ⟨more, hmore.change hchange hdiscovers⟩

/-- A place in a list with one more element is the new one or a place before. -/
theorem eq_or_of_append_cons {α : Type} {before after l : List α} {a b : α}
    (h : before ++ a :: after = l ++ [b]) :
    (before = l ∧ a = b) ∨ ∃ rest, before ++ a :: rest = l := by
  rcases List.eq_nil_or_concat after with rfl | ⟨rest, c, rfl⟩
  · obtain ⟨hbefore, ha⟩ := List.append_inj' h rfl
    exact .inl ⟨hbefore, List.head_eq_of_cons_eq ha⟩
  · rw [List.concat_eq_append, ← List.cons_append, ← List.append_assoc] at h
    exact .inr ⟨rest, (List.append_inj' h rfl).1⟩

/-- What is seen at a glance is what there is to see then. -/
theorem Watched.glance {g : Glance} {before after : List Glance}
    (h : Watched n v (before ++ g :: after) w) : ∃ u, Watched n v before u ∧
      (g = .ready (u.isReady n).1 ∨ g = .state (u.state n).1) := by
  generalize hgs : before ++ g :: after = gs at h
  induction h generalizing after with
  | nil => simp at hgs
  | @ready gs u h ih =>
    rcases eq_or_of_append_cons hgs with ⟨rfl, rfl⟩ | ⟨rest, hrest⟩
    · exact ⟨u, h, .inl rfl⟩
    · exact ih hrest
  | @state gs u h ih =>
    rcases eq_or_of_append_cons hgs with ⟨rfl, rfl⟩ | ⟨rest, hrest⟩
    · exact ⟨u, h, .inr rfl⟩
    · exact ih hrest
  | change _ _ _ ih => exact ih hgs

section Session

variable {target : Text} {script : Script}

/-- What is remembered of a session is that a look has found a prompt. -/
theorem Watched.session (h : Watched v.sessions.length (v.addSession target script) gs w) :
    ∃ s, w.sessions[v.sessions.length]? = some s ∧ s.everReady = gs.any Glance.finds := by
  induction h with
  | nil =>
    rw [sessions_addSession]
    exact ⟨_, List.getElem?_concat_length .., rfl⟩
  | @ready gs u _ ih =>
    obtain ⟨s, hs, hever⟩ := ih
    refine ⟨_, by rw [isReady_snd, getElem?_modifySession hs, if_pos rfl], ?_⟩
    simp [hever, Glance.finds, isReady_fst]
  | @state gs u _ ih =>
    obtain ⟨s, hs, hever⟩ := ih
    rw [state_eq hs]
    split
    · exact ⟨s, hs, by simp [hever, Glance.finds]⟩
    split
    · rename_i hshown
      refine ⟨_, by rw [isReady_snd, getElem?_modifySession hs, if_pos rfl], ?_⟩
      simp [hever, hshown, Glance.finds]
    · refine ⟨s, hs, ?_⟩
      split <;> simp [hever, Glance.finds]
  | change _ hchange hnot ih =>
    obtain ⟨s, hs, hever⟩ := ih
    obtain ⟨s', hs', -⟩ := hchange.later.sessions hs
    exact ⟨s', hs', ((hchange.everReady hs hs').resolve_right hnot).trans hever⟩

/-- A session is busy only after a look has found a prompt. -/
theorem Watched.busy {before after : List Glance}
    (h : Watched v.sessions.length (v.addSession target script)
      (before ++ .state .busy :: after) w) : ∃ g ∈ before, g.finds = true := by
  obtain ⟨u, hu, hready | hstate⟩ := h.glance
  · cases hready
  obtain ⟨s, hs, hever⟩ := hu.session
  rw [state_eq hs] at hstate
  split at hstate
  · cases hstate
  split at hstate
  · cases hstate
  split at hstate
  · rename_i hseen
    exact List.any_eq_true.1 (hever ▸ hseen)
  · cases hstate

/-- The states read so far, in stretches: once past the first a look has found a prompt, and in the
last one the session is dead. -/
structure Way (n : Nat) (gs : List Glance) (w : World τ) (early middle late : List SessionState) :
    Prop where
  stretches : SessionState.Stretches (gs.filterMap Glance.state?) early middle late
  found : middle ≠ [] → gs.any Glance.finds = true
  dead : late ≠ [] → ∃ s, w.sessions[n]? = some s ∧ s.alive = false

variable {early middle late : List SessionState}

theorem Way.later (h : Way n gs w early middle late) (hl : Later w w') :
    Way n gs w' early middle late := by
  refine ⟨h.stretches, h.found, fun hlate => ?_⟩
  obtain ⟨s, hs, hdead⟩ := h.dead hlate
  obtain ⟨s', hs', hlater⟩ := hl.sessions hs
  refine ⟨s', hs', Bool.eq_false_iff.2 fun halive => ?_⟩
  rw [hlater.alive halive] at hdead
  cases hdead

theorem Way.ready (h : Way n gs w early middle late) (found : Bool) :
    Way n (gs ++ [.ready found]) w early middle late := by
  refine ⟨?_, fun hmiddle => ?_, h.dead⟩
  · rw [List.filterMap_append]
    exact (List.append_nil _).symm ▸ h.stretches
  · rw [List.any_append, h.found hmiddle, Bool.true_or]

theorem Way.wait (h : Way n gs w early [] []) :
    Way n (gs ++ [.state .starting]) w (early ++ [.starting]) [] [] := by
  refine ⟨?_, fun h => absurd rfl h, fun h => absurd rfl h⟩
  rw [filterMap_state]
  exact h.stretches.wait

theorem Way.go (h : Way n gs w early middle []) {x : SessionState} (hx : x = .ready ∨ x = .busy)
    (hfound : (gs ++ [Glance.state x]).any Glance.finds = true) :
    Way n (gs ++ [.state x]) w early (middle ++ [x]) [] := by
  refine ⟨?_, fun _ => hfound, fun h => absurd rfl h⟩
  rw [filterMap_state]
  exact h.stretches.go hx

theorem Way.die (h : Way n gs w early middle late) (hs : w.sessions[n]? = some s)
    (hdead : s.alive = false) :
    Way n (gs ++ [.state .killed]) w early middle (late ++ [.killed]) := by
  refine ⟨?_, fun hmiddle => ?_, fun _ => ⟨s, hs, hdead⟩⟩
  · rw [filterMap_state]
    exact h.stretches.die
  · rw [List.any_append, h.found hmiddle, Bool.true_or]

/-- The next state read goes on with the stretch that the session is in, or starts the next one. -/
theorem Way.state (h : Way n gs w early middle late) (hs : w.sessions[n]? = some s)
    (hever : s.everReady = gs.any Glance.finds) : ∃ early middle late,
      Way n (gs ++ [.state (w.state n).1]) w early middle late := by
  rw [state_eq hs]
  cases halive : s.alive with
  | false => exact ⟨_, _, _, h.die hs halive⟩
  | true =>
    have hlate : late = [] := by
      cases late with
      | nil => rfl
      | cons x rest =>
        obtain ⟨t, ht, hdead⟩ := h.dead (List.cons_ne_nil x rest)
        rw [Option.some.inj (ht.symm.trans hs), halive] at hdead
        cases hdead
    subst hlate
    cases hshown : w.promptShows n with
    | true => exact ⟨_, _, _, h.go (.inl rfl) (by simp [Glance.finds])⟩
    | false =>
      cases hseen : s.everReady with
      | true => exact ⟨_, _, _, h.go (.inr rfl) (by simp [← hever, hseen])⟩
      | false =>
        have hmiddle : middle = [] := by
          cases middle with
          | nil => rfl
          | cons x rest =>
            rw [hever, h.found (List.cons_ne_nil x rest)] at hseen
            cases hseen
        subst hmiddle
        exact ⟨_, _, _, h.wait⟩

theorem Watched.way (h : Watched v.sessions.length (v.addSession target script) gs w) :
    ∃ early middle late, Way v.sessions.length gs w early middle late := by
  induction h with
  | nil =>
    exact ⟨[], [], [], .nil, fun h => absurd rfl h, fun h => absurd rfl h⟩
  | @ready gs u h ih =>
    obtain ⟨early, middle, late, hway⟩ := ih
    exact ⟨early, middle, late, (hway.ready _).later later_isReady⟩
  | @state gs u h ih =>
    obtain ⟨early, middle, late, hway⟩ := ih
    obtain ⟨s, hs, hever⟩ := h.session
    obtain ⟨early, middle, late, hnext⟩ := hway.state hs hever
    exact ⟨early, middle, late, hnext.later course_state.later⟩
  | change h hchange hnot ih =>
    obtain ⟨early, middle, late, hway⟩ := ih
    exact ⟨early, middle, late, hway.later hchange.later⟩

/-- The states read from a session are a way from starting through ready and busy to killed. A
session is busy only after a look has found a prompt, and it is ready exactly if it lives and a
prompt ends its transcript. So it goes on with whatever is done next. -/
theorem states_of_watched [Clock τ]
    (h : Watched v.sessions.length (v.addSession target script) gs w) :
    SessionState.IsWay (gs.filterMap Glance.state?) ∧
    (∀ before after, gs = before ++ .state .busy :: after → ∃ g ∈ before, g.finds = true) ∧
    (∀ (u : World τ) m, (u.state m).1 = .ready ↔ ∃ s, u.sessions[m]? = some s ∧ s.alive = true ∧
      (u.prompt.search ((u.transcriptAt s.transcript).text.drop
        ((u.transcriptAt s.transcript).text.length - 256))).isSome = true) ∧
    ∀ history : List Action, ∃ more, Watched v.sessions.length (v.addSession target script)
      (gs ++ more) (w.after history) := by
  obtain ⟨early, middle, late, hway⟩ := h.way
  refine ⟨⟨early, middle, late, hway.stretches⟩, ?_, fun _ _ => state_ready_iff,
    fun history => h.of_course (course_after w history)⟩
  rintro before after rfl
  exact h.busy

end Session

theorem Watched.reads {x : SessionState} (h : Watched n v gs w) (hx : (w.state n).1 = x) :
    Watched n v (gs ++ [.state x]) (w.state n).2 :=
  hx ▸ h.state

/-- Only a session that is ready can be found so. -/
theorem not_discovers (h : (w.isReady n).1 = false) : ¬ Discovers n w w' :=
  fun hfound => Bool.false_ne_true (h.symm.trans hfound.1)

/-- A session with a prompt after which something has been put out. -/
def answering : World Float :=
  ((((beginning.addSession sharedTarget .default).state 0).2.dispatch 0 ">>> ").state 0).2.dispatch
    0 "1\n"

theorem watched_answering : Watched 0 (beginning.addSession sharedTarget .default)
    [.state .starting, .state .ready] answering := by
  have hstarting := (Watched.nil (n := 0)
    (v := beginning.addSession sharedTarget .default)).reads (x := .starting) (by decide +kernel)
  have hprompt := hstarting.change (.output _ 0 ">>> ") (not_discovers (by decide +kernel))
  have hready := hprompt.reads (x := .ready) (by decide +kernel)
  refine hready.change (.output _ 0 "1\n") fun ⟨_, hsame, _⟩ => ?_
  have hlength : answering.trace.length ≠ (((((beginning.addSession sharedTarget
      .default).state 0).2.dispatch 0 ">>> ").state 0).2.isReady 0).2.trace.length := by
    decide +kernel
  exact hlength (congrArg (fun w => w.trace.length) hsame)

/-- Four states are read in turn. -/
theorem states_of_watched_killed : ∃ w,
    Watched 0 (beginning.addSession sharedTarget .default)
      [.state .starting, .state .ready, .state .busy, .state .killed] w ∧
    SessionState.IsWay [.starting, .ready, .busy, .killed] := by
  have hbusy := watched_answering.reads (x := .busy) (by decide +kernel)
  have hkilled := (hbusy.change (.kill _ 0) (not_discovers (by decide +kernel))).reads
    (x := .killed) (by decide +kernel)
  exact ⟨_, hkilled, (states_of_watched (v := beginning) hkilled).1⟩

end World

end ReplSend
