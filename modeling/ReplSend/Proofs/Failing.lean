import ReplSend.Proofs.Sending
import ReplSend.Proofs.Waiting

/-!
# Sends that fail

A send that does not find its block changes nothing. A session that cannot be started leaves nothing
but the traces of the attempt, and the dead session in its place, if there was one, is dropped from
the table (`Unstarted`). Whatever a send fails of, nothing was written to a process and nothing is
remembered as sent (`send_eq_error`).
-/

namespace ReplSend

namespace World

variable {τ : Type} {w w' : World τ} {n : Nat} {e : Failure} {source : Option Buffer}

/-- The state after the target's session could not be started. Only the session in its place can be
missing from the table, one that has ended. -/
structure Unstarted (w w' : World τ) (target : Text) : Prop where
  rest : w' = { w with table := w'.table, scripts := w'.scripts, trace := w'.trace }
  table : w'.table = w.table ∨ (w'.table = w.table.drop target ∧
    ∃ n, w.table.get? target = some n ∧ w.isAlive n = false)

/-- What is dropped from the table when a session is looked up. -/
theorem unstarted_get (target : Text) : Unstarted w (w.get target).2 target := by
  unfold get
  split
  · exact ⟨rfl, .inl rfl⟩
  rename_i n hn
  split
  · exact ⟨rfl, .inl rfl⟩
  · rename_i hdead
    exact ⟨rfl, .inr ⟨rfl, n, hn, Bool.eq_false_iff.2 hdead⟩⟩

theorem Unstarted.attempt {v : World τ} {target : Text} (h : Unstarted w v target)
    (hw' : w' = { v with scripts := w'.scripts, trace := w'.trace }) : Unstarted w w' target where
  rest := by
    rw [hw', h.rest]
  table := by
    rw [hw']
    exact h.table

theorem workingDirectory_eq_error (h : w.workingDirectory source = .error e) :
    e.kind = .configuration := by
  unfold workingDirectory at h
  dsimp only at h
  split at h
  · cases h
  split at h
  · cases h
  split at h
  · cases h
  · cases h
    rfl

theorem interpreter_eq_error (h : w.interpreter = .error e) : e.kind = .configuration := by
  unfold interpreter at h
  split at h
  · cases h
  · cases h
    rfl

theorem quiet_withdrawn (c : Option Nat) : Quiet w (w.withdrawn n c) := by
  cases c with
  | none => exact .refl w
  | some c =>
    simp only [withdrawn, abandon]
    split
    · exact .refl w
    · exact (Quiet.refl w).modifySession _

end World

namespace Act

open World (Quiet Unstarted)

variable {τ : Type} {w w' : World τ} {n : Nat} {e : Failure} {b : Buffer}

/-! ## Sessions that are not started -/

theorem spawn_eq_error {target : Text} {source : Option Buffer}
    (h : spawn target source w = (.error e, w')) :
    e.kind = .configuration ∧ w' = { w with scripts := w'.scripts, trace := w'.trace } := by
  have hspawned := spawned w target source
  rw [h] at hspawned
  cases hspawned with
  | refused e he => exact ⟨he.elim World.workingDirectory_eq_error World.interpreter_eq_error, rfl⟩
  | faulted executable directory reason => exact ⟨rfl, rfl⟩

theorem getOrCreate_eq_error (h : getOrCreate none (some b) w = (.error e, w')) :
    e.kind = .configuration ∧ Unstarted w w' (w.targetFor (some b)) := by
  have hdropped := World.unstarted_get (w := w) (w.targetFor (some b))
  rw [getOrCreate_apply] at h
  rcases hfound : w.get (w.targetFor (some b)) with ⟨_ | n, v⟩
  · rw [hfound] at h hdropped
    obtain ⟨hkind, hw'⟩ := spawn_eq_error h
    exact ⟨hkind, hdropped.attempt hw'⟩
  · rw [hfound] at h
    cases congrArg Prod.fst h

theorem quiet_of_request_eq_error {r : Request} (h : request n r w = (.error e, w')) :
    Quiet w w' := by
  rw [request_apply] at h
  cases ho : w.opened n r with
  | error e' =>
    rw [ho] at h
    obtain rfl := (Prod.mk.inj h).2
    exact .refl w
  | ok p =>
    obtain ⟨ts, rfl⟩ := World.opened_eq_ok ho
    rw [ho] at h
    dsimp only at h
    split at h
    · cases h
    · obtain rfl := (Prod.mk.inj h).2
      have hechoed : Quiet w { w with transcripts := ts } := ⟨rfl, rfl, rfl, rfl⟩
      exact (hechoed.trans World.quiet_readied).trans (World.quiet_withdrawn _)

section Clock

variable [Clock τ]

/-- To wait in vain is not a failure. -/
theorem awaitReady_eq_ok (deadline : τ) (limit : Nat) :
    ∃ w', awaitReady n deadline limit w = (.ok (), w') := by
  induction limit generalizing w with
  | zero => exact ⟨w, rfl⟩
  | succ limit ih =>
    rw [awaitReady_succ]
    split
    · exact ⟨_, rfl⟩
    split
    · exact ⟨_, rfl⟩
    · exact ih

theorem ensureRunning_eq_error (h : ensureRunning none (some b) w = (.error e, w')) :
    e.kind = .configuration ∧ Unstarted w w' (w.targetFor (some b)) := by
  obtain h | ⟨n, v, -, h⟩ := bind_eq_error h
  · exact getOrCreate_eq_error h
  obtain h | ⟨u, v', hu, h⟩ := bind_eq_error h
  · cases h
  obtain h | ⟨_, _, -, h⟩ := bind_eq_error h
  · obtain ⟨w'', hok⟩ := awaitReady_eq_ok (w := v') (n := n)
      (Clock.add u.clock u.settings.readyTimeout)
      (Clock.rounds u.settings.readyTimeout u.settings.pollInterval + 1)
    cases hok.symm.trans h
  · cases h

/-! ## Sends -/

/-- A send for a block fails when its session cannot be started, or in its request. -/
theorem sendBlock_eq_error {block : Block} {t : Text} {step keepMain : Bool}
    (h : sendBlock b block t step keepMain w = (.error e, w')) :
    Quiet w w' ∧ ((e.kind = .configuration ∧ Unstarted w w' (w.targetFor (some b))) ∨
      e.kind ∈ [.sessionBusy, .sessionUnavailable, .malformedBlock, .foreign]) := by
  have hwait := quietly_ensureRunning (τ := τ) none (some b)
  obtain h | ⟨n, v, hv, h⟩ := bind_eq_error h
  · exact ⟨Keeps.of_eq hwait h, .inl (ensureRunning_eq_error h)⟩
  obtain h | ⟨c, u, -, h⟩ := bind_eq_error h
  · refine ⟨(Keeps.of_eq hwait hv).trans (quiet_of_request_eq_error h), .inr ?_⟩
    have hkind := request_eq_error h
    simp only [List.mem_cons, List.not_mem_nil] at hkind ⊢
    tauto
  · -- What follows a request cannot fail.
    cases congrArg Prod.fst h

/-- The sends of a driver: of a part of a buffer, and of a file. -/
inductive IsSend : Act τ Outcome → Prop
  | selection (b : Buffer) (selection : Selection) (step : Bool) : IsSend (send b selection step)
  | file (path : Text) (source : Option Buffer) (encoding : Option Text) (keepMain : Bool) :
      IsSend (sendFile path source encoding keepMain)

/-- Every send is for some buffer, unless the file that it is to come from cannot be read. -/
theorem IsSend.sendsFor {x : Act τ Outcome} (hx : IsSend x) (w : World τ) :
    (∃ b, SendsFor w b x) ∨ ∃ e, x w = (.error e, w) ∧ e.kind = .foreign := by
  cases hx with
  | selection b selection step => exact .inl ⟨b, .selection selection step⟩
  | file path source encoding keepMain =>
    cases source with
    | some b => exact .inl ⟨b, .file path encoding keepMain⟩
    | none =>
      cases hb : Buffer.ofFile w.host path 1
          ((encoding.filter (!·.isEmpty)).getD w.settings.encoding) with
      | ok b => exact .inl ⟨b, .ownFile path encoding keepMain hb⟩
      | error e =>
        refine .inr ⟨e, ?_, ofFile_eq_error hb⟩
        rw [sendFile_none, hb]

/-- A send that fails has written nothing and is not remembered. If it has not found its block
nothing has changed; if a session could not be started, no more than `Unstarted` says. -/
theorem send_eq_error {x : Act τ Outcome} (hx : IsSend x) (h : x w = (.error e, w')) :
    (e.kind = .noActiveBlock ∨ e.kind = .navigation → w' = w) ∧
    (e.kind = .configuration → ∃ b, SendsFor w b x ∧ Unstarted w w' (w.targetFor (some b))) ∧
    w'.sent = w.sent ∧ w'.writes = w.writes := by
  rcases hx.sendsFor w with ⟨b, hb⟩ | ⟨e', he', hkind⟩
  · rcases hb.eq_sendBlock with ⟨e', he', hcause⟩ | ⟨block, t, step, keepMain, hblock⟩
    · obtain ⟨he, rfl⟩ := Prod.mk.inj (h.symm.trans he')
      obtain rfl := Except.error.inj he
      refine ⟨fun _ => rfl, fun hkind => ?_, rfl, rfl⟩
      rcases hcause with ⟨f, rfl⟩ | ⟨line, rfl⟩
      · simp only [Failure.kind] at hkind
        split at hkind <;> cases hkind
      · cases hkind
    · obtain ⟨hquiet, ⟨hkind, hunstarted⟩ | hkind⟩ := sendBlock_eq_error (hblock.symm.trans h)
      · refine ⟨fun hother => ?_, fun _ => ⟨b, hb, hunstarted⟩, hquiet.sent, hquiet.writes⟩
        simp [hkind] at hother
      · refine ⟨fun hother => ?_, fun hother => ?_, hquiet.sent, hquiet.writes⟩
        · rcases hother with hother | hother <;> simp [hother] at hkind
        · simp [hother] at hkind
  · obtain ⟨he, rfl⟩ := Prod.mk.inj (h.symm.trans he')
    obtain rfl := Except.error.inj he
    exact ⟨fun _ => rfl, fun hother => (by cases hkind.symm.trans hother), rfl, rfl⟩

end Clock

/-- The interpreter has exited, and another one cannot be started. -/
def stalled : World Float :=
  { World.exited with scripts := [{ Script.default with startFault := some "out of memory" }] }

/-- A statement finds the dead session; it is dropped, and nothing takes its place. -/
theorem send_eq_error_stalled : ∃ w', send ⟨"x = 1\n", 0, "a.py", none, "utf-8"⟩ .statement false
      stalled = (.error (.notStarted "/bin/python3" "out of memory"), w') ∧
    w'.sessions = stalled.sessions ∧ w'.transcripts = stalled.transcripts ∧
    stalled.table ≠ [] ∧ w'.table = [] ∧ w'.sent = stalled.sent := by
  have hanswer : (send ⟨"x = 1\n", 0, "a.py", none, "utf-8"⟩ .statement false stalled).1 =
      .error (.notStarted "/bin/python3" "out of memory") := by
    decide +kernel
  have hsend : send ⟨"x = 1\n", 0, "a.py", none, "utf-8"⟩ .statement false stalled =
      (.error (.notStarted "/bin/python3" "out of memory"), _) := Prod.ext hanswer rfl
  obtain ⟨-, hstart, hsent, -⟩ := send_eq_error (.selection _ _ _) hsend
  obtain ⟨b, -, hunstarted⟩ := hstart rfl
  refine ⟨_, hsend, ?_, ?_, by decide +kernel, by decide +kernel, hsent⟩
  · exact (congrArg World.sessions hunstarted.rest).trans rfl
  · exact (congrArg World.transcripts hunstarted.rest).trans rfl

end Act

end ReplSend
