import ReplSend.Proofs.Busy

/-!
# Requests that fail

A request can fail before it is echoed, when it is echoed, and when its text is transmitted, that is
after its capture is opened. Opening a capture and withdrawing it again is nothing to a session
(`withdrawn_readied`). So a request that fails leaves its echo behind at most, and one that finds
its session busy or dead leaves nothing (`request_undone`).
-/

namespace ReplSend

/-- A capture of its own is all that a session gets, and all that it loses. -/
theorem Session.release_installed {s : Session} {c : Nat} (hfree : s.capture = none)
    (hnew : c ∉ s.observers) :
    ({ s with capture := some c, observers := s.observers ++ [c] } : Session).release c = s := by
  have herase : (s.observers ++ [c]).erase c = s.observers := by
    rw [List.erase_append_right _ hnew, List.erase_cons_head, List.append_nil]
  simp only [release, herase, if_true, ← hfree]

namespace World

variable {τ : Type} {w w' : World τ} {n : Nat} {r : Request} {s : Session}

/-! ## What is begun and undone -/

theorem blocked_of_session (hs : w.sessions[n]? = some s) :
    w.blocked n r = (w.capturing n r && s.capture.isSome) := by
  simp only [blocked, hs, Option.any_some]

theorem withdrawn_readied (hs : w.sessions[n]? = some s)
    (hobservers : ∀ c ∈ s.observers, c < w.captures.length) (hfree : w.blocked n r = false) :
    (w.readied n r).2.withdrawn n (w.readied n r).1 =
      { w with captures := (w.readied n r).2.captures } := by
  cases hcapturing : w.capturing n r with
  | false =>
    rw [readied, hcapturing]
    rfl
  | true =>
    have hnone : s.capture = none := by
      simpa [blocked_of_session hs, hcapturing] using hfree
    have hopen : (w.installCapture n).2.isFlushed w.captures.length = false := by
      show ((w.captures ++ [Capture.empty])[w.captures.length]?).any _ = false
      rw [List.getElem?_concat_length]
      rfl
    rw [readied, hcapturing, if_pos rfl]
    show abandon _ n w.captures.length = _
    rw [abandon, hopen, if_neg Bool.false_ne_true]
    simp only [release, installCapture, modifySession, List.modify_modify_eq]
    congr 1
    refine List.ext_getElem? fun m => ?_
    rw [List.getElem?_modify]
    split
    · rename_i hm
      subst hm
      rw [hs]
      exact congrArg some
        (s.release_installed hnone fun hc => Nat.lt_irrefl _ (hobservers _ hc))
    · exact Option.map_id'

/-- Nothing is left of a request but its echo, if that was made, and the number of a capture. -/
structure Undone (w : World τ) (n : Nat) (r : Request) (w' : World τ) : Prop where
  echoed : ∃ v, (v = w ∨ w.echoInput n r.text = .ok v) ∧ w' = { v with captures := w'.captures }
  captures : w.captures <+: w'.captures

theorem Undone.refl (w : World τ) (n : Nat) (r : Request) : Undone w n r w :=
  ⟨⟨w, .inl rfl, rfl⟩, List.prefix_rfl⟩

theorem Undone.sessions_trace (h : Undone w n r w') :
    w'.sessions = w.sessions ∧ w'.trace = w.trace := by
  obtain ⟨v, rfl | hv, hw'⟩ := h.echoed
  · rw [hw']
    exact ⟨rfl, rfl⟩
  · obtain ⟨ts, rfl⟩ := transcripts_of_echoInput hv
    rw [hw']
    exact ⟨rfl, rfl⟩

theorem captures_readied : w.captures <+: (w.readied n r).2.captures := by
  unfold readied
  split
  · exact List.prefix_append _ _
  · exact List.prefix_rfl

/-- What opens a request is its echo, if that is wanted, and then its capture. -/
theorem opened_eq_readied {p : Option Nat × World τ} (h : w.opened n r = .ok p) :
    ∃ v, (v = w ∨ w.echoInput n r.text = .ok v) ∧ p = v.readied n r := by
  obtain ⟨hfree, hlive⟩ := live_of_opened h
  cases hecho : w.settings.echoInput && r.echo with
  | false =>
    rw [opened_unechoed hfree hlive hecho] at h
    exact ⟨w, .inl rfl, (Except.ok.inj h).symm⟩
  | true =>
    rw [opened_echoed hfree hlive hecho] at h
    cases hv : w.echoInput n r.text with
    | error e =>
      rw [hv] at h
      cases h
    | ok v =>
      rw [hv] at h
      exact ⟨v, .inr rfl, (Except.ok.inj h).symm⟩

/-- A request that has been opened is withdrawn when its text cannot be transmitted. -/
theorem undone_withdrawn (hs : w.sessions[n]? = some s)
    (hobservers : ∀ c ∈ s.observers, c < w.captures.length) {p : Option Nat × World τ}
    (h : w.opened n r = .ok p) : Undone w n r (p.2.withdrawn n p.1) := by
  have hfree := (live_of_opened h).1
  obtain ⟨v, hv, rfl⟩ := opened_eq_readied h
  obtain ⟨ts, rfl⟩ : ∃ ts, v = { w with transcripts := ts } := by
    rcases hv with rfl | hv
    · exact ⟨v.transcripts, rfl⟩
    · exact transcripts_of_echoInput hv
  have hwithdrawn : _ = ({ w with transcripts := ts, captures := _ } : World τ) :=
    withdrawn_readied (w := { w with transcripts := ts }) hs hobservers hfree
  rw [hwithdrawn]
  exact ⟨⟨_, hv, rfl⟩, captures_readied (w := { w with transcripts := ts })⟩

/-- A request that fails has been refused, or it has been opened and is withdrawn. -/
theorem withdrawn_of_request_eq_error {e : Failure} (h : Act.request n r w = (.error e, w')) :
    w' = w ∨ ∃ p, w.opened n r = .ok p ∧ w' = p.2.withdrawn n p.1 := by
  rw [Act.request_apply] at h
  split at h
  · exact .inl (Prod.mk.inj h).2.symm
  rename_i p hopened
  split at h
  · cases h
  · exact .inr ⟨_, hopened, (Prod.mk.inj h).2.symm⟩

theorem busy_iff_blocked :
    (∃ e w', Act.request n r w = (.error e, w') ∧ e.kind = .sessionBusy) ↔
      w.blocked n r = true := by
  constructor
  · rintro ⟨e, w', h, hbusy⟩
    rcases Act.request_eq_error h with ⟨hblocked, -, -⟩ | hother
    · exact hblocked
    · simp [hbusy] at hother
  · intro hblocked
    refine ⟨.busy (w.nameOf n), w, ?_, rfl⟩
    rw [Act.request_apply, opened_of_blocked hblocked]

/-- A request that fails leaves its session as it was, and nothing is written or passed on; if the
session is busy or dead, nothing has changed at all. Busy is a session whose output is to be
captured and is captured already. No observer has the number that the next capture gets. -/
theorem request_undone (hs : w.sessions[n]? = some s)
    (hobservers : ∀ c ∈ s.observers, c < w.captures.length) (r : Request) :
    (∀ e w', Act.request n r w = (.error e, w') →
      (w'.sessions[n]? = some s ∧ w'.trace = w.trace ∧ Undone w n r w') ∧
      (e.kind = .sessionBusy ∨ s.alive = false → w' = w)) ∧
    ((∃ e w', Act.request n r w = (.error e, w') ∧ e.kind = .sessionBusy) ↔
      w.capturing n r = true ∧ s.capture.isSome = true) := by
  refine ⟨fun e w' h => ?_, ?_⟩
  · have hfailed := withdrawn_of_request_eq_error h
    have hundone : Undone w n r w' := by
      rcases hfailed with rfl | ⟨p, hopened, rfl⟩
      · exact .refl w' n r
      · exact undone_withdrawn hs hobservers hopened
    obtain ⟨hsessions, htrace⟩ := hundone.sessions_trace
    refine ⟨⟨hsessions ▸ hs, htrace, hundone⟩, ?_⟩
    rintro (hbusy | hdead)
    · rcases Act.request_eq_error h with ⟨-, -, hsame⟩ | hother
      · exact hsame
      · simp [hbusy] at hother
    · refine hfailed.resolve_right fun ⟨p, hopened, _⟩ => ?_
      have hlive := (live_of_opened hopened).2
      rw [isAlive, hs, Option.any_some, hdead] at hlive
      cases hlive
  · rw [busy_iff_blocked, blocked_of_session hs, Bool.and_eq_true]

/-- An interpreter that runs but takes no more input. -/
def shut : World Float :=
  World.after { beginning with scripts := [{ Script.default with input := .broken }] }
    [.getOrCreate none none]

/-- A line is echoed and its output is to be captured when its transmission fails. While a file is
being loaded a line does not get that far. -/
theorem request_undone_shut :
    (∃ w', Act.request 0 ⟨"1 + 1", true, true, true⟩ shut =
        (.error (.inputRefused sharedTarget), w') ∧
      w'.sessions[0]? = shut.sessions[0]? ∧ w'.trace = shut.trace ∧
      w'.transcripts ≠ shut.transcripts ∧ w'.captures.length = 1) ∧
    (∃ s e, loading.sessions[0]? = some s ∧ s.observers = [0] ∧ loading.captures.length = 1 ∧
      Act.request 0 ⟨"1 + 1", true, true, true⟩ loading = (.error e, loading) ∧
      e.kind = .sessionBusy) := by
  constructor
  · have hanswer : (Act.request 0 ⟨"1 + 1", true, true, true⟩ shut).1 =
        .error (.inputRefused sharedTarget) := by
      decide +kernel
    have hfails : Act.request 0 ⟨"1 + 1", true, true, true⟩ shut =
        (.error (.inputRefused sharedTarget), _) := Prod.ext hanswer rfl
    have hunobserved : (shut.sessions[0]?).any (·.observers = []) = true := by decide +kernel
    obtain ⟨s, hs, hnone⟩ := (Option.any_eq_true _ _).1 hunobserved
    have hobservers : ∀ c ∈ s.observers, c < shut.captures.length := by
      rw [of_decide_eq_true hnone]
      exact nofun
    obtain ⟨⟨hsession, htrace, -⟩, -⟩ := (request_undone hs hobservers _).1 _ _ hfails
    refine ⟨_, hfails, hsession.trans hs.symm, htrace, ?_, ?_⟩ <;> decide +kernel
  · have hobserved : (loading.sessions[0]?).any
        (fun s => s.observers = [0] ∧ s.capture.isSome = true) = true := by decide +kernel
    have hone : loading.captures.length = 1 := by decide +kernel
    have hcapturing : loading.capturing 0 ⟨"1 + 1", true, true, true⟩ = true := by decide +kernel
    obtain ⟨s, hs, hzero⟩ := (Option.any_eq_true _ _).1 hobserved
    obtain ⟨hzero, hpending⟩ := of_decide_eq_true hzero
    have hobservers : ∀ c ∈ s.observers, c < loading.captures.length := by
      rw [hzero, hone]
      decide
    obtain ⟨hundone, hbusy⟩ := request_undone hs hobservers ⟨"1 + 1", true, true, true⟩
    obtain ⟨e, w', hfails, hkind⟩ := hbusy.2 ⟨hcapturing, hpending⟩
    obtain rfl := (hundone e w' hfails).2 (.inl hkind)
    exact ⟨s, e, hs, hzero, hone, hfails, hkind⟩

end World

end ReplSend
