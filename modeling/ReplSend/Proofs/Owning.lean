import Mathlib.Data.List.Nodup
import ReplSend.Proofs.Lasting

/-!
# The table of live sessions

Whatever is done, and whatever happens to processes in between, the table names the live session of
each target: every live session is the entry under its own name, so that no target has two and none
is lost, and an entry that is not alive any more still has the name and the transcript of its target
(`Owned`). Killing all sessions therefore leaves none (`owned_after`).

Sessions of one target write to one transcript, one after another (`Succession`).
-/

namespace ReplSend.World

variable {τ : Type} {w w' : World τ} {n : Nat}

/-! ## What is in the table -/

structure Owned (w : World τ) : Prop where
  nodup : w.table.names.Nodup
  /-- An entry has the name and the transcript of its target. -/
  entry : ∀ {target : Text} {n : Nat}, (target, n) ∈ w.table → ∃ s : Session,
    w.sessions[n]? = some s ∧ s.name = target ∧ w.records.get? target = some s.transcript
  /-- A live session is the entry under its name. -/
  listed : ∀ {n : Nat} {s : Session}, w.sessions[n]? = some s → s.alive = true →
    (s.name, n) ∈ w.table

theorem Owned.later (h : Owned w) (hl : Later w w')
    (hlength : w'.sessions.length = w.sessions.length) (htable : w'.table = w.table)
    (hrecords : w'.records = w.records) : Owned w' where
  nodup := htable ▸ h.nodup
  entry hmem := by
    obtain ⟨s, hs, hname, hrecord⟩ := h.entry (htable ▸ hmem)
    obtain ⟨s', hs', hlater⟩ := hl.sessions hs
    exact ⟨s', hs', hlater.name.trans hname, by rw [hrecords, hrecord, hlater.transcript]⟩
  listed hs' halive := by
    obtain ⟨s, hs, hlater⟩ := hl.of_getElem? hlength hs'
    rw [htable, hlater.name]
    exact h.listed hs (hlater.alive halive)

theorem get?_records_addSession {target : Text} (script : Script) (other : Text) :
    (w.addSession target script).records.get? other =
      if target = other then some (w.transcriptFor target).1 else w.records.get? other := by
  rw [records_addSession, transcriptFor]
  split
  · rename_i t ht
    by_cases hname : target = other
    · rw [if_pos hname, ← hname, ht]
    · rw [if_neg hname]
  · exact Table.get?_put ..

theorem table_start {target : Text} (hnew : w.table.get? target = none) (script : Script) :
    (w.addSession target script).table = w.table ++ [(target, w.sessions.length)] := by
  rw [table_addSession, Table.put_of_get?_none hnew]

theorem Owned.start (h : Owned w) {target : Text} (hnew : w.table.get? target = none)
    (script : Script) : Owned (w.addSession target script) where
  nodup := by
    rw [table_start hnew, Table.names, List.map_append]
    exact h.nodup.append (List.nodup_singleton _)
      (List.disjoint_singleton.2 (Table.get?_eq_none_iff.1 hnew))
  entry {name n} hmem := by
    rw [table_start hnew, List.mem_append, List.mem_singleton] at hmem
    rw [get?_records_addSession, sessions_addSession]
    rcases hmem with hmem | hmem
    · obtain ⟨s, hs, hname, hrecord⟩ := h.entry hmem
      have hne : target ≠ name := Table.ne_of_get?_none hnew hmem
      exact ⟨s, (List.getElem?_append_left (List.getElem?_eq_some_iff.1 hs).1).trans hs, hname,
        (if_neg hne).trans hrecord⟩
    · obtain ⟨rfl, rfl⟩ := Prod.mk.inj hmem
      exact ⟨_, List.getElem?_concat_length, rfl, if_pos rfl⟩
  listed hs halive := by
    rw [table_start hnew, List.mem_append, List.mem_singleton]
    rcases getElem?_addSession hs with hs | ⟨rfl, rfl⟩
    · exact .inl (h.listed hs halive)
    · exact .inr rfl

theorem Owned.drop (h : Owned w) {target : Text}
    (hdead : ∀ n, w.table.get? target = some n → w.isAlive n = false) :
    Owned { w with table := w.table.drop target } where
  nodup := Table.nodup_names_drop h.nodup target
  entry hmem := h.entry (List.mem_filter.1 hmem).1
  listed {n s} hs halive := by
    have hmem := h.listed hs halive
    refine List.mem_filter.2 ⟨hmem, ?_⟩
    have hne : s.name ≠ target := fun hname => by
      have hn := hdead n (hname ▸ Table.get?_of_mem h.nodup hmem)
      rw [isAlive, show w.sessions[n]? = some s from hs, Option.any_some, halive] at hn
      cases hn
    simpa using hne

theorem Owned.forget (h : Owned w) {target : Text} (hnone : w.table.get? target = none) :
    Owned { w with records := w.records.drop target } where
  nodup := h.nodup
  entry {name n} hmem := by
    obtain ⟨s, hs, hname, hrecord⟩ := h.entry hmem
    have hne : target ≠ name := Table.ne_of_get?_none hnone hmem
    exact ⟨s, hs, hname, by rw [Table.get?_drop, if_neg hne, hrecord]⟩
  listed := h.listed

/-- Most changes start no session and leave the tables as they are. -/
theorem Change.tables (h : Change w w') :
    (w'.sessions.length = w.sessions.length ∧ w'.table = w.table ∧ w'.records = w.records ∧
      w'.transcripts.length = w.transcripts.length) ∨
    (∃ target script, w.table.get? target = none ∧ w' = w.addSession target script) ∨
    (∃ target, (∀ n, w.table.get? target = some n → w.isAlive n = false) ∧
      w' = { w with table := w.table.drop target }) ∨
    ∃ target, w.table.get? target = none ∧ w' = { w with records := w.records.drop target } := by
  cases h with
  | touch n f => exact .inl ⟨List.length_modify .., rfl, rfl, rfl⟩
  | look n =>
    rw [isReady_snd]
    exact .inl ⟨List.length_modify .., rfl, rfl, rfl⟩
  | output n chunk =>
    have houtside := outside_dispatch (w := w) (n := n) chunk
    have hreceived : (w.received n chunk).table = w.table ∧
        (w.received n chunk).records = w.records ∧
        (w.received n chunk).transcripts.length = w.transcripts.length := by
      obtain h | ⟨t, h⟩ := w.received_eq n chunk
      · rw [h]
        exact ⟨rfl, rfl, rfl⟩
      · rw [h]
        exact ⟨rfl, rfl, List.length_modify ..⟩
    exact .inl ⟨length_sessions_dispatch chunk, (congrArg World.table houtside).trans hreceived.1,
      (congrArg World.records houtside).trans hreceived.2.1,
      (congrArg (fun v => v.transcripts.length) houtside).trans hreceived.2.2⟩
  | echo transcript shown => exact .inl ⟨rfl, rfl, rfl, List.length_modify ..⟩
  | start target script hnone => exact .inr (.inl ⟨target, script, hnone, rfl⟩)
  | drop target hdead => exact .inr (.inr (.inl ⟨target, hdead, rfl⟩))
  | forget target hnone => exact .inr (.inr (.inr ⟨target, hnone, rfl⟩))
  | kill n => exact .inl ⟨List.length_modify .., rfl, rfl, rfl⟩
  | capture n => exact .inl ⟨List.length_modify .., rfl, rfl, rfl⟩
  | release n c => exact .inl ⟨List.length_modify .., rfl, rfl, rfl⟩
  | _ => exact .inl ⟨rfl, rfl, rfl, rfl⟩

theorem Change.owned (h : Change w w') (ho : Owned w) : Owned w' := by
  rcases h.tables with ⟨hlength, htable, hrecords, -⟩ | ⟨target, script, hnone, rfl⟩ |
    ⟨target, hdead, rfl⟩ | ⟨target, hnone, rfl⟩
  · exact ho.later h.later hlength htable hrecords
  · exact ho.start hnone script
  · exact ho.drop hdead
  · exact ho.forget hnone

theorem Course.owned (h : Course w w') (ho : Owned w) : Owned w' :=
  h.preserves Change.owned ho

theorem Untouched.owned (h : Untouched w) : Owned w where
  nodup := by simp [h.table, Table.names]
  entry hmem := by simp [h.table] at hmem
  listed hs := by simp [h.sessions] at hs

/-! ## Killing all -/

theorem table_killTarget (target : Text) (destroy : Bool) :
    (w.killTarget target destroy).2.table = w.table.drop target := by
  unfold killTarget
  cases hn : w.table.get? target with
  | none => cases destroy <;> exact (Table.drop_of_get?_none hn).symm
  | some n =>
    have htable : (({ w with table := w.table.drop target } : World τ).killSession n).table =
      w.table.drop target := table_killSession
    cases destroy <;> exact htable

theorem table_killEach (destroy : Bool) (targets : List Text) :
    (killEach destroy none targets w).2.table =
      w.table.filter fun p => !targets.contains p.1 := by
  induction targets generalizing w with
  | nil => exact (List.filter_eq_self.2 fun _ _ => rfl).symm
  | cons target targets ih =>
    rw [killEach, ih, table_killTarget, Table.drop, List.filter_filter]
    refine List.filter_congr fun p _ => ?_
    by_cases hp : p.1 = target <;> simp [hp]

/-- The sessions in the table have the names that they stand under. -/
theorem Owned.map_nameOf (h : Owned w) : w.table.map (fun p => w.nameOf p.2) = w.table.names := by
  refine List.map_congr_left fun p hp => ?_
  obtain ⟨s, hs, hname, -⟩ := h.entry hp
  simp [nameOf, hs, hname]

theorem Owned.killAll (h : Owned w) (destroy : Bool) :
    (w.killAll .none destroy).2.table = [] ∧
      ∀ n, (w.killAll .none destroy).2.isAlive n = false := by
  have hprune := course_prune.owned h
  have htable : (w.killAll .none destroy).2.table = [] := by
    show (killEach destroy none (w.prune.table.map fun p => w.prune.nameOf p.2) w.prune).2.table = _
    rw [table_killEach, hprune.map_nameOf]
    refine List.filter_eq_nil_iff.2 fun p hp => ?_
    simpa [Table.names] using ⟨p.2, hp⟩
  refine ⟨htable, fun n => ?_⟩
  cases hs : (w.killAll .none destroy).2.sessions[n]? with
  | none => simp [isAlive, hs]
  | some s =>
    cases hl : s.alive with
    | false => simp [isAlive, hs, hl]
    | true =>
      have hmem := ((course_killAll .none destroy).owned h).listed hs hl
      rw [htable] at hmem
      cases hmem

/-- After every history the table names just the live sessions, among others that have died in the
meantime; no target has two; and killing all leaves nothing. -/
theorem owned_after [Clock τ] {settings : Settings τ} {start : τ} {host : Host}
    {scripts : List Script} {notice : Notice} {projectRoot : Option (Option Text)} {w₀ : World τ}
    (h₀ : initial? settings start host scripts notice projectRoot = .ok w₀)
    (history : List Action) (h : Course (w₀.after history) w) :
    Owned w ∧
      (∀ {m n : Nat} {s s' : Session}, w.sessions[m]? = some s → w.sessions[n]? = some s' →
        s.alive = true → s'.alive = true → s.name = s'.name → m = n) ∧
      ∀ destroy, (w.killAll .none destroy).2.table = [] ∧
        ∀ n, (w.killAll .none destroy).2.isAlive n = false := by
  have ho : Owned w :=
    Course.owned ((course_after w₀ history).trans h) (untouched_initial h₀).2.owned
  refine ⟨ho, fun {m n s s'} hm hn hl hl' hname => ?_, ho.killAll⟩
  have hmem := Table.get?_of_mem ho.nodup (ho.listed hm hl)
  have hmem' := Table.get?_of_mem ho.nodup (ho.listed hn hl')
  rw [hname, hmem'] at hmem
  exact (Option.some.inj hmem).symm

/-- A process exits and is replaced, and one of another target is killed by itself: of three
sessions one lives, and the killed one is still in the table. -/
theorem owned_after_exit : ∃ history : List Action,
    (beginning.after history).table = [(sharedTarget, 1), (("Other" : Text), 2)] ∧
      (beginning.after history).sessions.map Session.alive = [false, true, false] ∧
      Owned (beginning.after history) :=
  ⟨[.getOrCreate none none, .exit 0, .getOrCreate none none, .getOrCreate (some "Other") none,
    .killSession 2], by decide +kernel, by decide +kernel,
    (owned_after initial?_beginning _ .refl).1⟩

/-! ## One transcript, one session after another -/

structure Succession (w : World τ) : Prop where
  transcript : ∀ {n : Nat} {s : Session}, w.sessions[n]? = some s →
    s.transcript < w.transcripts.length
  record : ∀ {target : Text} {t : Nat}, w.records.get? target = some t → t < w.transcripts.length
  apart : ∀ {target target' : Text} {t : Nat}, w.records.get? target = some t →
    w.records.get? target' = some t → target = target'
  named : ∀ {target : Text} {n : Nat} {s : Session}, w.records.get? target = some s.transcript →
    w.sessions[n]? = some s → s.name = target
  name : ∀ {m n : Nat} {s s' : Session}, w.sessions[m]? = some s → w.sessions[n]? = some s' →
    s.transcript = s'.transcript → s.name = s'.name
  /-- The next session of a target starts when the one before is dead. -/
  order : ∀ {m n : Nat} {s s' : Session}, w.sessions[m]? = some s → w.sessions[n]? = some s' →
    s.name = s'.name → m < n → s.alive = false

theorem Succession.later (h : Succession w) (hl : Later w w')
    (hlength : w'.sessions.length = w.sessions.length) (hrecords : w'.records = w.records)
    (htranscripts : w'.transcripts.length = w.transcripts.length) : Succession w' where
  transcript hs' := by
    obtain ⟨s, hs, hlater⟩ := hl.of_getElem? hlength hs'
    rw [htranscripts, hlater.transcript]
    exact h.transcript hs
  record ht := htranscripts ▸ h.record (hrecords ▸ ht)
  apart ht ht' := h.apart (hrecords ▸ ht) (hrecords ▸ ht')
  named ht hs' := by
    obtain ⟨s, hs, hlater⟩ := hl.of_getElem? hlength hs'
    rw [hlater.name]
    exact h.named (by rw [← hrecords, ht, hlater.transcript]) hs
  name hm' hn' hsame := by
    obtain ⟨s, hm, hlater⟩ := hl.of_getElem? hlength hm'
    obtain ⟨s', hn, hlater'⟩ := hl.of_getElem? hlength hn'
    rw [hlater.name, hlater'.name]
    exact h.name hm hn (by rw [← hlater.transcript, hsame, hlater'.transcript])
  order {m n s s'} hm' hn' hsame hlt := by
    obtain ⟨t, hm, hlater⟩ := hl.of_getElem? hlength hm'
    obtain ⟨t', hn, hlater'⟩ := hl.of_getElem? hlength hn'
    have hdead := h.order hm hn (by rw [← hlater.name, hsame, hlater'.name]) hlt
    exact Bool.eq_false_iff.2 fun hl => Bool.false_ne_true (hdead.symm.trans (hlater.alive hl))

theorem length_transcripts_addSession {target : Text} {script : Script} :
    (w.addSession target script).transcripts.length =
      (w.transcriptFor target).2.transcripts.length := by
  unfold addSession transcriptFor
  cases w.records.get? target <;> dsimp only <;> split <;> simp [record]

/-- A new session takes the transcript on record, or a new one. -/
theorem transcriptFor_spec (h : Succession w) (target : Text) :
    (w.transcriptFor target).1 < (w.transcriptFor target).2.transcripts.length ∧
      w.transcripts.length ≤ (w.transcriptFor target).2.transcripts.length ∧
      (w.records.get? target = some (w.transcriptFor target).1 ∨
        w.transcripts.length ≤ (w.transcriptFor target).1) := by
  unfold transcriptFor
  split
  · rename_i t ht
    exact ⟨h.record ht, Nat.le_refl _, .inl ht⟩
  · exact ⟨by simp, by simp, .inr (Nat.le_refl _)⟩

/-- Only the target itself is on record for the transcript that its new session gets. -/
theorem Succession.eq_of_record (h : Succession w) {target other : Text}
    (hother : w.records.get? other = some (w.transcriptFor target).1) : other = target := by
  obtain ⟨-, -, ht | hfresh⟩ := transcriptFor_spec h target
  · exact h.apart hother ht
  · exact absurd (h.record hother) (Nat.not_lt.2 hfresh)

/-- Only sessions of the target write to the transcript that its new session gets. -/
theorem Succession.eq_of_writer (h : Succession w) {target : Text} {s : Session}
    (hs : w.sessions[n]? = some s) (hsame : s.transcript = (w.transcriptFor target).1) :
    s.name = target := by
  obtain ⟨-, -, ht | hfresh⟩ := transcriptFor_spec h target
  · exact h.named (hsame ▸ ht) hs
  · exact absurd (h.transcript hs) (Nat.not_lt.2 (hsame ▸ hfresh))

theorem record_addSession {target other : Text} {script : Script} {t : Nat}
    (h : (w.addSession target script).records.get? other = some t) :
    (other = target ∧ t = (w.transcriptFor target).1) ∨ w.records.get? other = some t := by
  rw [get?_records_addSession] at h
  split at h
  · rename_i hname
    exact .inl ⟨hname.symm, (Option.some.inj h).symm⟩
  · exact .inr h

theorem Succession.start (h : Succession w) (ho : Owned w) {target : Text}
    (hnew : w.table.get? target = none) (script : Script) :
    Succession (w.addSession target script) where
  transcript hs := by
    obtain ⟨hlt, hle, -⟩ := transcriptFor_spec h target
    rw [length_transcripts_addSession]
    rcases getElem?_addSession hs with hs | ⟨-, rfl⟩
    · exact Nat.lt_of_lt_of_le (h.transcript hs) hle
    · exact hlt
  record ht := by
    obtain ⟨hlt, hle, -⟩ := transcriptFor_spec h target
    rw [length_transcripts_addSession]
    rcases record_addSession ht with ⟨-, rfl⟩ | ht
    · exact hlt
    · exact Nat.lt_of_lt_of_le (h.record ht) hle
  apart ht ht' := by
    rcases record_addSession ht with ⟨hname, rfl⟩ | hold
    · rcases record_addSession ht' with ⟨hname', -⟩ | hold'
      · exact hname.trans hname'.symm
      · exact hname.trans (h.eq_of_record hold').symm
    · rcases record_addSession ht' with ⟨hname', rfl⟩ | hold'
      · exact (h.eq_of_record hold).trans hname'.symm
      · exact h.apart hold hold'
  named ht hs := by
    rcases getElem?_addSession hs with hs | ⟨-, rfl⟩
    · rcases record_addSession ht with ⟨hname, hsame⟩ | hold
      · exact (h.eq_of_writer hs hsame).trans hname.symm
      · exact h.named hold hs
    · rcases record_addSession ht with ⟨hname, -⟩ | hold
      · exact hname.symm
      · exact (h.eq_of_record hold).symm
  name hm hn hsame := by
    rcases getElem?_addSession hm with hm | ⟨-, rfl⟩
    · rcases getElem?_addSession hn with hn | ⟨-, rfl⟩
      · exact h.name hm hn hsame
      · exact h.eq_of_writer hm hsame
    · rcases getElem?_addSession hn with hn | ⟨-, rfl⟩
      · exact (h.eq_of_writer hn hsame.symm).symm
      · rfl
  order hm hn hsame hmn := by
    rcases getElem?_addSession hm with hm | ⟨rfl, -⟩
    · rcases getElem?_addSession hn with hn | ⟨-, rfl⟩
      · exact h.order hm hn hsame hmn
      · -- A live session of the target would stand in the table.
        exact Bool.eq_false_iff.2 fun halive =>
          Table.ne_of_get?_none hnew (ho.listed hm halive) hsame.symm
    · have hn' := (List.getElem?_eq_some_iff.1 hn).1
      rw [sessions_addSession, List.length_append, List.length_singleton] at hn'
      omega

theorem Change.succession (h : Change w w') (ho : Owned w) (hs : Succession w) :
    Succession w' := by
  rcases h.tables with ⟨hlength, -, hrecords, htranscripts⟩ | ⟨target, script, hnone, rfl⟩ |
    ⟨target, hdead, rfl⟩ | ⟨target, hnone, rfl⟩
  · exact hs.later h.later hlength hrecords htranscripts
  · exact hs.start ho hnone script
  · exact ⟨hs.transcript, hs.record, hs.apart, hs.named, hs.name, hs.order⟩
  · have hkept : ∀ {other : Text} {t : Nat}, (w.records.drop target).get? other = some t →
        w.records.get? other = some t := by
      intro other t ht
      rw [Table.get?_drop] at ht
      split at ht
      · cases ht
      · exact ht
    exact ⟨hs.transcript, fun ht => hs.record (hkept ht),
      fun ht ht' => hs.apart (hkept ht) (hkept ht'), fun ht => hs.named (hkept ht), hs.name,
      hs.order⟩

theorem Course.succession (h : Course w w') (ho : Owned w) (hs : Succession w) :
    Succession w' := by
  have hboth : Owned w' ∧ Succession w' :=
    h.preserves (P := fun v => Owned v ∧ Succession v)
      (fun hstep hv => ⟨hstep.owned hv.1, hstep.succession hv.1 hv.2⟩) ⟨ho, hs⟩
  exact hboth.2

theorem Untouched.succession (h : Untouched w) : Succession w where
  transcript hs := by simp [h.sessions] at hs
  record ht := by simp [h.records] at ht
  apart ht := by simp [h.records] at ht
  named ht := by simp [h.records] at ht
  name hs := by simp [h.sessions] at hs
  order hs := by simp [h.sessions] at hs

end ReplSend.World
