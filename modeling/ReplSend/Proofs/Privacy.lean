import ReplSend.Proofs.Busy
import ReplSend.Proofs.Failing

/-!
# Private sessions

What is sent for a file goes to the session of the file's target, the live one in the table or a new
one, and a private target holds the name of the source. But the name that a buffer takes from its
file is the last part of the path: as long as the session of one private file lives, what is sent
for another goes to it exactly if the two paths end alike (`written_same_iff`).
-/

namespace ReplSend

/-- The buffer is one of the file at the path. -/
structure Buffer.IsOf (b : Buffer) (path : Text) : Prop where
  origin : b.path = some path
  name : b.name = Path.name path

theorem Buffer.IsOf.moveTo {b : Buffer} {path : Text} (h : b.IsOf path) (point : Int) :
    (b.moveTo point).IsOf path :=
  ⟨h.origin, h.name⟩

theorem Buffer.isOf_ofFile {host : Host} {path encoding : Text} {line : Int} {b : Buffer}
    (h : Buffer.ofFile host path line encoding = .ok b) : b.IsOf path := by
  unfold Buffer.ofFile at h
  split at h
  · cases h
  split at h
  · cases h
  split at h
  · cases h
  · cases h
    exact Buffer.IsOf.moveTo ⟨rfl, rfl⟩ _

/-- The action sends something for the file at the path: some of a buffer of it, the file itself, or
another file in the place of such a buffer. -/
inductive Action.Sends (path : Text) : Action → Prop
  | selection {b : Buffer} (h : b.IsOf path) (selection : Selection) (step : Bool) :
      Sends path (.send b selection step)
  | ownFile (encoding : Option Text) (keepMain : Bool) :
      Sends path (.sendFile path none encoding keepMain)
  | otherFile {b : Buffer} (h : b.IsOf path) (other : Text) (encoding : Option Text)
      (keepMain : Bool) : Sends path (.sendFile other (some b) encoding keepMain)

theorem privateTarget_inj {a b : Text} : privateTarget a = privateTarget b ↔ a = b := by
  simp [privateTarget]

namespace World

variable {τ : Type} {w w' u v : World τ} {m n : Nat} {s : Session} {path path' : Text}

/-- The source has a session of its own, and no target that it was given. -/
def IsPrivate (w : World τ) (source : Text) : Prop :=
  w.isDedicated source = true ∧ (w.sourceRecord source).target = none

instance {source : Text} : Decidable (w.IsPrivate source) :=
  inferInstanceAs (Decidable (_ ∧ _))

theorem IsPrivate.targetFor {b : Buffer} (h : w.IsPrivate (Path.name path)) (hb : b.IsOf path) :
    w.targetFor (some b) = privateTarget (Path.name path) := by
  obtain ⟨hdedicated, htarget⟩ := h
  rw [isDedicated] at hdedicated
  simp only [World.targetFor, hb.name, targetOf, htarget, hdedicated, if_true]

/-! ## What is written to a process -/

/-- Between the two states something was written to process `n`. -/
def WrittenTo (w w' : World τ) (n : Nat) : Prop :=
  ∃ e ∈ since w w', e.written?.map (·.1) = some n

instance : Decidable (WrittenTo w w' n) :=
  inferInstanceAs (Decidable (∃ e ∈ since w w', e.written?.map (·.1) = some n))

/-- What was written is the first of what has been written at last. -/
theorem WrittenTo.mem {written : List (Nat × Bytes × Option Bytes)} (h : WrittenTo w w' n)
    (hl : Later w w') (hw' : w'.writes = written ++ w.writes) : ∃ p ∈ written, p.1 = n := by
  have hwrites : (since w w').filterMap Event.written? ++ w.writes = written ++ w.writes := by
    rw [← hw', writes, writes, ← List.filterMap_append, ← hl.trace_eq]
  have hsince := List.append_cancel_right hwrites
  obtain ⟨e, he, hn⟩ := h
  obtain ⟨p, hp, rfl⟩ := Option.map_eq_some_iff.1 hn
  exact ⟨p, hsince ▸ List.mem_filterMap.2 ⟨e, he, hp⟩, rfl⟩

theorem not_writtenTo (hl : Later w w') (hw' : w'.writes = w.writes) : ¬ WrittenTo w w' n := by
  intro h
  obtain ⟨p, hp, -⟩ := h.mem hl (hw'.trans (List.nil_append _).symm)
  cases hp

end World

namespace Act

open World (Course Later Owned Quiet WrittenTo)

variable {τ : Type} {w w' u : World τ} {n : Nat} {b : Buffer}

/-! ## The session of a target -/

theorem spawn_eq_ok {target : Text} {source : Option Buffer}
    (h : spawn target source w = (.ok n, u)) :
    ∃ s, u.sessions[n]? = some s ∧ s.name = target := by
  have hspawned := spawned w target source
  rw [h] at hspawned
  cases hspawned with
  | started executable directory line script =>
    exact ⟨_, (congrArg (·[_]?) World.sessions_addSession).trans List.getElem?_concat_length, rfl⟩

/-- The session of a target has its name, and it is the live one in the table if there is one. -/
theorem getOrCreate_eq_ok (ho : Owned w) (h : getOrCreate none (some b) w = (.ok n, u)) :
    (∃ s, u.sessions[n]? = some s ∧ s.name = w.targetFor (some b)) ∧
      ∀ m, w.table.get? (w.targetFor (some b)) = some m → w.isAlive m = true → m = n := by
  rw [getOrCreate_apply] at h
  generalize w.targetFor (some b) = target at h ⊢
  rcases hfound : w.get target with ⟨_ | k, v⟩
  · rw [hfound] at h
    refine ⟨spawn_eq_ok h, fun m hm hlive => ?_⟩
    cases (congrArg Prod.fst hfound).symm.trans (get_eq_some_iff.2 ⟨hm, hlive⟩)
  · have hget := get_eq_some_iff.1 (congrArg Prod.fst hfound)
    cases hfound.symm.trans (get_eq_some (congrArg Prod.fst hfound))
    rw [hfound] at h
    obtain ⟨hn, rfl⟩ := Prod.mk.inj h
    obtain rfl := Except.ok.inj hn
    obtain ⟨s, hs, hname, -⟩ := ho.entry (Table.mem_of_get? hget.1)
    exact ⟨⟨s, hs, hname⟩, fun m hm _ => Option.some.inj (hm.symm.trans hget.1)⟩

section Clock

variable [Clock τ]

theorem ensureRunning_eq_ok (ho : Owned w) (h : ensureRunning none (some b) w = (.ok n, u)) :
    (∃ s, u.sessions[n]? = some s ∧ s.name = w.targetFor (some b)) ∧
      ∀ m, w.table.get? (w.targetFor (some b)) = some m → w.isAlive m = true → m = n := by
  obtain ⟨k, v, hk, h⟩ := bind_eq_ok h
  obtain ⟨_, _, hv, h⟩ := bind_eq_ok h
  cases hv
  obtain ⟨_, _, hwait, h⟩ := bind_eq_ok h
  cases h
  obtain ⟨⟨s, hs, hname⟩, hlisted⟩ := getOrCreate_eq_ok ho hk
  have hlater : Later v u := ((course_awaitReady _ _).of_eq hwait).later
  obtain ⟨s', hs', hsame⟩ := hlater.sessions hs
  exact ⟨⟨s', hs', hsame.name.trans hname⟩, hlisted⟩

/-- What is sent for a buffer is written to a session of the buffer's target that is alive then: to
the one in the table, if that is alive. -/
theorem sendBlock_writtenTo {block : Block} {t : Text} {step keepMain : Bool} (ho : Owned w)
    (h : WrittenTo w (sendBlock b block t step keepMain w).2 n) :
    ∃ u s, Course w u ∧ Course u (sendBlock b block t step keepMain w).2 ∧
      u.sessions[n]? = some s ∧ s.alive = true ∧ s.name = w.targetFor (some b) ∧
      ∀ m, w.table.get? (w.targetFor (some b)) = some m → w.isAlive m = true → m = n := by
  have hlater := (course_sendBlock b block t step keepMain w : Course w _).later
  rcases hrun : sendBlock b block t step keepMain w with ⟨e | o, w'⟩
  · rw [hrun] at h hlater
    exact absurd h (World.not_writtenTo hlater (sendBlock_eq_error hrun).1.writes)
  · rw [hrun] at h hlater
    obtain ⟨m, u, hu, hrest⟩ := bind_eq_ok hrun
    obtain ⟨c, v, hv, hend⟩ := bind_eq_ok hrest
    obtain ⟨⟨s, hs, hname⟩, hlisted⟩ := ensureRunning_eq_ok ho hu
    obtain ⟨bytes, file, -, hwrites, -⟩ := request_eq_ok hv
    obtain ⟨_, _, _, hopened, -⟩ := World.request_eq_ok hv
    have hwait : Course w u := (course_ensureRunning none (some b)).of_eq hu
    have hquiet : Quiet w u := Keeps.of_eq (quietly_ensureRunning none (some b)) hu
    have hrequest : Course u v := (course_request _).of_eq hv
    have hdone : Course v w' ∧ w'.writes = v.writes := by
      cases hend
      exact ⟨Course.note (World.course_markSent b block) rfl, rfl⟩
    have hone : w'.writes = [(m, bytes, file)] ++ w.writes := by
      rw [hdone.2, hwrites, hquiet.writes]
      rfl
    obtain ⟨p, hp, rfl⟩ := h.mem hlater hone
    obtain rfl := List.mem_singleton.1 hp
    obtain ⟨s', hs', halive⟩ := (Option.any_eq_true _ _).1 (World.live_of_opened hopened).2
    obtain rfl := Option.some.inj (hs.symm.trans hs')
    exact ⟨u, s, hwait, hrequest.trans hdone.1, hs, halive, hname, hlisted⟩

/-! ## Sends for a file -/

theorem SendsFor.snd_eq_sendBlock {x : Act τ Outcome} (hx : SendsFor w b x) :
    (x w).2 = w ∨ ∃ block t step keepMain, (x w).2 = (sendBlock b block t step keepMain w).2 := by
  rcases hx.eq_sendBlock with ⟨e, he, -⟩ | ⟨block, t, step, keepMain, hblock⟩
  · exact .inl (by rw [he])
  · exact .inr ⟨block, t, step, keepMain, by rw [hblock]⟩

end Clock

end Act

namespace Action

open Act World

variable {τ : Type} {w : World τ} {path : Text}

/-- To look whether a send is finished changes nothing. -/
theorem snd_finished (x : Act τ Outcome) :
    ((do let o ← x; return Answer.outcome o (← finished o.capture) : Act τ Answer) w).2 =
      (x w).2 := by
  rw [bind_apply]
  rcases x w with ⟨e | o, w'⟩
  · rfl
  · rfl

variable [Clock τ]

theorem Sends.act_eq {a : Action} (h : a.Sends path) (w : World τ) : (w.act a).2 = w ∨
    ∃ b block t step keepMain, b.IsOf path ∧
      (w.act a).2 = (sendBlock b block t step keepMain w).2 := by
  have hfor : ∀ {b : Buffer} {x : Act τ Outcome}, b.IsOf path → SendsFor w b x →
      (w.act a).2 = (x w).2 → (w.act a).2 = w ∨ ∃ b block t step keepMain, b.IsOf path ∧
        (w.act a).2 = (sendBlock b block t step keepMain w).2 := by
    intro b x hb hx hact
    rw [hact]
    exact hx.snd_eq_sendBlock.imp_right fun ⟨block, t, step, keepMain, hblock⟩ =>
      ⟨b, block, t, step, keepMain, hb, hblock⟩
  cases h with
  | selection hb selection step => exact hfor hb (.selection selection step) (snd_finished _)
  | otherFile hb other encoding keepMain =>
    exact hfor hb (.file other encoding keepMain) (snd_finished _)
  | ownFile encoding keepMain =>
    cases hread : Buffer.ofFile w.host path 1
        ((encoding.filter (!·.isEmpty)).getD w.settings.encoding) with
    | ok b =>
      exact hfor (Buffer.isOf_ofFile hread) (.ownFile path encoding keepMain hread) (snd_finished _)
    | error e =>
      refine .inl ((snd_finished _).trans ?_)
      rw [sendFile_none, hread]

/-- What is sent for a private file is written to a session of the private target. -/
theorem Sends.writtenTo {a : Action} {n : Nat} (h : a.Sends path) (ho : Owned w)
    (hp : w.IsPrivate (Path.name path)) (hw : WrittenTo w (w.act a).2 n) :
    ∃ u s, Course w u ∧ Course u (w.act a).2 ∧ u.sessions[n]? = some s ∧ s.alive = true ∧
      s.name = privateTarget (Path.name path) ∧
      ∀ m, w.table.get? (privateTarget (Path.name path)) = some m → w.isAlive m = true → m = n := by
  rcases h.act_eq w with hsame | ⟨b, block, t, step, keepMain, hb, hact⟩
  · rw [hsame] at hw
    exact absurd hw (not_writtenTo (.refl w) rfl)
  · rw [hact] at hw ⊢
    rw [← hp.targetFor hb]
    exact sendBlock_writtenTo ho hw

end Action

namespace World

variable {τ : Type} [Clock τ] {w v : World τ} {m n : Nat} {path path' : Text}

section Initial

variable {settings : Settings τ} {start : τ} {host : Host} {scripts : List Script}
  {notice : Notice} {projectRoot : Option (Option Text)} {w₀ : World τ}

/-- A private file has been sent to a process. What is sent later for another private file goes to
the same process exactly if that still lives and the last parts of the two paths agree. -/
theorem written_same_iff
    (h₀ : initial? settings start host scripts notice projectRoot = .ok w₀) (hw : Course w₀ w)
    {a b : Action} (ha : a.Sends path) (hp : w.IsPrivate (Path.name path))
    (hn : WrittenTo w (w.act a).2 n) (hv : Course (w.act a).2 v) (hb : b.Sends path')
    (hp' : v.IsPrivate (Path.name path')) (hm : WrittenTo v (v.act b).2 m) :
    m = n ↔ v.isAlive n = true ∧ Path.name path = Path.name path' := by
  have howned : Owned w := hw.owned (untouched_initial h₀).2.owned
  have howned' : Owned v := Course.owned ((course_act w a).trans hv) howned
  obtain ⟨u, s, -, hu, hs, -, hname, -⟩ := ha.writtenTo howned hp hn
  obtain ⟨u', s', hu', -, hs', halive', hname', hlisted⟩ := hb.writtenTo howned' hp' hm
  -- The session of the first file, when the second is sent.
  obtain ⟨t, ht, hlater⟩ := (Course.later (hu.trans hv)).sessions hs
  constructor
  · rintro rfl
    obtain ⟨t', ht', hlater'⟩ := hu'.later.sessions ht
    obtain rfl := Option.some.inj (hs'.symm.trans ht')
    refine ⟨(Option.any_eq_true _ _).2 ⟨t, ht, hlater'.alive halive'⟩, privateTarget_inj.1 ?_⟩
    rw [← hname, ← hname', hlater'.name, hlater.name]
  · rintro ⟨hlive, hsame⟩
    obtain ⟨t', ht', halive⟩ := (Option.any_eq_true _ _).1 hlive
    obtain rfl := Option.some.inj (ht.symm.trans ht')
    have hentry := Table.get?_of_mem howned'.nodup (howned'.listed ht halive)
    rw [hlater.name, hname, hsame] at hentry
    exact (hlisted n hentry hlive).symm

end Initial

/-! ## Two files of one name -/

/-- The settings give every source a session of its own; nothing is echoed or captured. -/
def dedicatedSettings : Settings Float :=
  { Settings.default with dedicated := true, echoInput := false, echoOutput := .never }

/-- A host with two files of one name in two directories. -/
def namesakes : World Float :=
  { beginning with
    settings := dedicatedSettings
    host := { Host.plain with files := [("/a/calc.py", [120, 10]), ("/b/calc.py", [121, 10])] } }

theorem initial?_namesakes :
    initial? dedicatedSettings 0.0 namesakes.host [] .event none = .ok namesakes :=
  initial?_default _ rfl rfl rfl

/-- The two files, as they are read. -/
def firstCalc : Buffer := ⟨"x\n", 0, "calc.py", some "a/calc.py", "utf-8"⟩

def secondCalc : Buffer := ⟨"y\n", 0, "calc.py", some "b/calc.py", "utf-8"⟩

theorem ofFile_firstCalc :
    Buffer.ofFile namesakes.host "a/calc.py" 1 "utf-8" = .ok firstCalc := by
  decide +kernel

theorem ofFile_secondCalc :
    Buffer.ofFile namesakes.host "b/calc.py" 1 "utf-8" = .ok secondCalc := by
  decide +kernel

/-- The session of the first file shows its prompt, and a line is sent. -/
def firstSent : List Action :=
  [.getOrCreate none (some firstCalc), .output 0 [">>> "], .send firstCalc .statement false]

theorem written_same_iff_namesakes :
    WrittenTo (namesakes.after (firstSent.take 2)) (namesakes.after firstSent) 0 ∧
      (namesakes.after firstSent).isAlive 0 = true ∧
      Path.name "a/calc.py" = Path.name "b/calc.py" := by
  have hfirst : WrittenTo (namesakes.after (firstSent.take 2)) (namesakes.after firstSent) 0 := by
    decide +kernel
  have hsecond : WrittenTo (namesakes.after firstSent)
      ((namesakes.after firstSent).act (.send secondCalc .statement false)).2 0 := by
    decide +kernel
  have hsame := written_same_iff initial?_namesakes (course_after _ (firstSent.take 2))
    (.selection (Buffer.isOf_ofFile ofFile_firstCalc) .statement false) (by decide +kernel) hfirst
    .refl (.selection (Buffer.isOf_ofFile ofFile_secondCalc) .statement false) (by decide +kernel)
    hsecond
  exact ⟨hfirst, hsame.1 rfl⟩

/-- Two different files, private all the time, are both sent to one process. -/
theorem not_private_namesakes : ∃ (settings : Settings Float) (host : Host) (w : World Float)
    (path path' : Text) (b b' : Buffer) (history : List Action) (n : Nat),
    initial? settings 0.0 host [] .event none = .ok w ∧
    host.resolve path ≠ host.resolve path' ∧
    Buffer.ofFile host path 1 "utf-8" = .ok b ∧ Buffer.ofFile host path' 1 "utf-8" = .ok b' ∧
    (∀ h, h <+: history ++ [.send b .statement false, .send b' .statement false] →
      (w.after h).IsPrivate b.name ∧ (w.after h).IsPrivate b'.name) ∧
    WrittenTo (w.after history) (w.after (history ++ [.send b .statement false])) n ∧
    WrittenTo (w.after (history ++ [.send b .statement false]))
      (w.after (history ++ [.send b .statement false, .send b' .statement false])) n := by
  refine ⟨_, _, namesakes, "a/calc.py", "b/calc.py", firstCalc, secondCalc, firstSent.take 2, 0,
    initial?_namesakes, by decide +kernel, ofFile_firstCalc, ofFile_secondCalc, fun h hh => ?_,
    by decide +kernel, by decide +kernel⟩
  have hall : ∀ k < 5, (namesakes.after
      ((firstSent ++ [Action.send secondCalc .statement false]).take k)).IsPrivate "calc.py" := by
    decide +kernel
  rw [List.prefix_iff_eq_take.1 hh]
  exact ⟨hall _ (Nat.lt_succ_of_le hh.length_le), hall _ (Nat.lt_succ_of_le hh.length_le)⟩

end World

end ReplSend
