import Mathlib.Data.Rat.Floor
import Mathlib.Tactic.Linarith
import ReplSend.Proofs.Quiet
import ReplSend.Proofs.Waiting

/-!
# How long a session is waited for

With exact fractions for times a wait is a run of naps, each as long as the poll interval or, when
less remains, as what remains (`Waits`). Whatever the process does meanwhile, a nap brings the
deadline nearer by a whole interval or reaches it (`ceil_remaining`), so the naps can be counted
beforehand, and the tests that the clock allows are never used up (`awaitReady_waits`).
-/

namespace ReplSend

/-- Exact fractions as times. -/
instance : Clock ℚ where
  zero := 0
  add := (· + ·)
  sub := (· - ·)
  le x y := decide (x ≤ y)
  tenths x :=
    let ds := Text.ofNat (Decimal.Ratio.scale ⟨x.num.natAbs, x.den⟩ 1).round
    let ds := List.replicate (2 - ds.length) '0' ++ ds
    (if x < 0 then ['-'] else []) ++ ds.take (ds.length - 1) ++ '.' :: ds.drop (ds.length - 1)
  rounds time interval := ⌈time / interval⌉₊

theorem Clock.least_eq_min (a b : ℚ) : Clock.least a b = min a b := by
  simp [Clock.least, Clock.le, min_def]

/-- The event is a sleep or a warning. -/
def Event.ofWait : Event → Bool
  | sleep | log .warning _ => true
  | _ => false

namespace World

section Sleep

variable {τ : Type} {w w' : World τ} {n : Nat}

/-- The sleeps and warnings so far, the latest first. -/
def waitTrace (w : World τ) : List Event := w.trace.filter Event.ofWait

theorem waitTrace_note_of_not {e : Event} (h : e.ofWait = false) : (w.note e).waitTrace = w.waitTrace :=
  List.filter_cons_of_neg (by simp [h])

theorem waitTrace_note {e : Event} (h : e.ofWait = true) : (w.note e).waitTrace = e :: w.waitTrace :=
  List.filter_cons_of_pos h

/-- A process never moves the clock. -/
theorem Arrival.clock (h : Arrival w w') : w'.clock = w.clock := by
  cases h <;> rfl

theorem Arrival.waitTrace (h : Arrival w w') : w'.waitTrace = w.waitTrace := by
  cases h with
  | note e he =>
    refine waitTrace_note_of_not ?_
    cases e with
    | log severity text =>
      cases severity with
      | info => rfl
      | _ => cases he
    | sleep => cases he
    | _ => rfl
  | _ => rfl

variable [Clock τ]

theorem clock_sleep (time : τ) : (w.sleep time).clock = Clock.add w.clock time :=
  (arrivals_sleep time).congr World.clock Arrival.clock

theorem waitTrace_sleep (time : τ) : (w.sleep time).waitTrace = .sleep :: w.waitTrace :=
  ((arrivals_sleep time).congr World.waitTrace Arrival.waitTrace).trans (waitTrace_note (w := w) rfl)

end Sleep

/-! ## The naps of a wait -/

variable {w w' : World ℚ} {n : Nat} {deadline : ℚ} {naps : List ℚ} {ready : Bool}

/-- How long a wait sleeps before it tests again. -/
def nap (w : World ℚ) (deadline : ℚ) : ℚ := min w.settings.pollInterval (deadline - w.clock)

/-- A wait for session `n`, with its naps in order and the answer of its last test. It ends when
the session is ready, and it is given up at the deadline, or when the session is not alive. -/
inductive Waits (n : Nat) (deadline : ℚ) : World ℚ → List ℚ → Bool → World ℚ → Prop
  | ready (w : World ℚ) (h : (w.isReady n).1 = true) : Waits n deadline w [] true (w.isReady n).2
  | giveUp (w : World ℚ) (h : (w.isReady n).1 = false)
      (hend : deadline ≤ w.clock ∨ w.isAlive n = false) :
      Waits n deadline w [] false (w.note (Act.timeout w n))
  | sleep (w w' : World ℚ) (naps : List ℚ) (ready : Bool) (h : (w.isReady n).1 = false)
      (hlive : w.isAlive n = true) (hearly : w.clock < deadline)
      (hrest : Waits n deadline (w.sleep (w.nap deadline)) naps ready w') :
      Waits n deadline w (w.nap deadline :: naps) ready w'

theorem clock_nap : (w.sleep (w.nap deadline)).clock = w.clock + w.nap deadline := clock_sleep _

theorem clock_nap_le : (w.sleep (w.nap deadline)).clock ≤ deadline := by
  have hnap : w.nap deadline ≤ deadline - w.clock := min_le_right _ _
  rw [clock_nap]
  linarith

theorem pollInterval_nap : (w.sleep (w.nap deadline)).settings.pollInterval =
    w.settings.pollInterval :=
  congrArg Settings.pollInterval (quiet_sleep _).settings

/-- A whole interval less remains after a nap, or nothing. -/
theorem ceil_remaining (hp : 0 < w.settings.pollInterval) (hearly : w.clock < deadline) :
    ⌈(deadline - (w.sleep (w.nap deadline)).clock) / w.settings.pollInterval⌉₊ + 1 ≤
      ⌈(deadline - w.clock) / w.settings.pollInterval⌉₊ := by
  have hpos : 0 < (deadline - w.clock) / w.settings.pollInterval := div_pos (by linarith) hp
  have hceil := Nat.ceil_pos.2 hpos
  rw [clock_nap, nap, ← sub_sub]
  rcases le_total w.settings.pollInterval (deadline - w.clock) with hle | hle
  · rw [min_eq_left hle, sub_div, div_self hp.ne', Nat.ceil_sub_one]
    omega
  · rw [min_eq_right hle, sub_self, zero_div, Nat.ceil_zero]
    exact hceil

theorem Waits.length_le (h : Waits n deadline w naps ready w')
    (hp : 0 < w.settings.pollInterval) :
    naps.length ≤ ⌈(deadline - w.clock) / w.settings.pollInterval⌉₊ := by
  induction h with
  | ready => exact Nat.zero_le _
  | giveUp => exact Nat.zero_le _
  | sleep w w' naps ready _ _ hearly _ ih =>
    have hrest := ih (hp.trans_eq pollInterval_nap.symm)
    rw [pollInterval_nap] at hrest
    exact (Nat.succ_le_succ hrest).trans (ceil_remaining hp hearly)

/-- The clock moves by the naps. -/
theorem Waits.clock (h : Waits n deadline w naps ready w') : w'.clock = w.clock + naps.sum := by
  induction h with
  | ready w => rw [isReady_snd, List.sum_nil, add_zero]; rfl
  | giveUp w => exact (add_zero _).symm
  | sleep w w' naps ready _ _ _ _ ih => rw [ih, clock_nap, List.sum_cons, add_assoc]

theorem Waits.clock_le (h : Waits n deadline w naps ready w') (hw : w.clock ≤ deadline) :
    w'.clock ≤ deadline := by
  induction h with
  | ready w => rwa [isReady_snd]
  | giveUp w => exact hw
  | sleep w w' naps ready _ _ _ _ ih => exact ih clock_nap_le

/-- The answer is still the same when the wait is over. -/
theorem Waits.isReady (h : Waits n deadline w naps ready w') : (w'.isReady n).1 = ready := by
  induction h with
  | ready w h => exact isReady_isReady.trans h
  | giveUp w h => rwa [isReady_fst] at h ⊢
  | sleep _ _ _ _ _ _ _ _ ih => exact ih

/-- A live session is not given up before the deadline. -/
theorem Waits.clock_eq (h : Waits n deadline w naps false w') (hw : w.clock ≤ deadline)
    (hlive : w'.isAlive n = true) : w'.clock = deadline := by
  generalize hready : false = ready at h
  induction h with
  | ready => cases hready
  | giveUp w h hend =>
    rcases hend with hlate | hdead
    · exact le_antisymm hw hlate
    · exact absurd (hdead.symm.trans hlive) nofun
  | sleep _ _ _ _ _ _ _ _ ih => exact ih clock_nap_le hlive hready

/-- A wait is seen as one sleep for each nap, and then a warning if it is given up. -/
theorem Waits.waitTrace (h : Waits n deadline w naps ready w') :
    w'.waitTrace = (if ready then [] else [Act.timeout w' n]) ++
      List.replicate naps.length .sleep ++ w.waitTrace := by
  induction h with
  | ready w =>
    rw [isReady_snd]
    rfl
  | giveUp w => exact waitTrace_note rfl
  | sleep w w' naps ready _ _ _ _ ih =>
    rw [ih, waitTrace_sleep, List.length_cons, List.replicate_succ', ← List.append_assoc,
      List.append_assoc _ [_] _]
    rfl

end World

namespace Act

open World (Waits since)

variable {n : Nat} {w v : World ℚ} {deadline : ℚ}

/-- With more tests allowed than intervals remain, the tests are not used up. -/
theorem awaitReady_waits {limit : Nat} (hp : 0 < w.settings.pollInterval)
    (hlimit : ⌈(deadline - w.clock) / w.settings.pollInterval⌉₊ < limit) :
    ∃ naps ready w', awaitReady n deadline limit w = (.ok (), w') ∧
      Waits n deadline w naps ready w' := by
  induction limit generalizing w with
  | zero => exact absurd hlimit (Nat.not_lt_zero _)
  | succ limit ih =>
    rw [awaitReady_succ]
    cases hready : (w.isReady n).1 with
    | true => exact ⟨[], true, _, rfl, .ready w hready⟩
    | false =>
    simp only [Bool.false_eq_true, if_false]
    split
    · rename_i hend
      refine ⟨[], false, _, rfl, .giveUp w hready ?_⟩
      simpa [Clock.le, Clock.sub, Clock.zero] using hend
    · rename_i hgoing
      obtain ⟨hearly, hlive⟩ : w.clock < deadline ∧ w.isAlive n = true := by
        simpa [Clock.le, Clock.sub, Clock.zero] using hgoing
      have hnap : Clock.least w.settings.pollInterval (Clock.sub deadline w.clock) =
        w.nap deadline := Clock.least_eq_min _ _
      rw [hnap]
      have hless := World.ceil_remaining hp hearly
      obtain ⟨naps, ready, w', hrun, hrest⟩ :=
        ih (w := w.sleep (w.nap deadline)) (hp.trans_eq World.pollInterval_nap.symm)
          (by rw [World.pollInterval_nap]; omega)
      exact ⟨_, ready, w', hrun, .sleep w w' naps ready hready hlive hearly hrest⟩

/-- Whatever the processes do meanwhile, the session that a target has or gets is waited for, with
no more naps than intervals begin before the time is over, and no longer than that time. It is what
is answered, ready or not. A warning is given just when the last test has failed, and if the session
is still alive then the whole time has been slept. -/
theorem ensureRunning_waits {target : Option Text} {source : Option Buffer}
    (hT : 0 ≤ w.settings.readyTimeout) (hp : 0 < w.settings.pollInterval)
    (h : getOrCreate target source w = (.ok n, v)) :
    ∃ naps ready w', ensureRunning target source w = (.ok n, w') ∧
      Waits n (v.clock + w.settings.readyTimeout) v naps ready w' ∧
      naps.length ≤ ⌈w.settings.readyTimeout / w.settings.pollInterval⌉₊ ∧
      naps.sum ≤ w.settings.readyTimeout ∧
      w'.clock = v.clock + naps.sum ∧
      (since v w').filter Event.ofWait =
        (if ready then [] else [timeout w' n]) ++ List.replicate naps.length .sleep ∧
      (w'.isReady n).1 = ready ∧
      (ready = false → w'.isAlive n = true → naps.sum = w.settings.readyTimeout) := by
  have hsettings : v.settings = w.settings :=
    (Keeps.of_eq (quietly_getOrCreate target source) h).settings
  have hv : v.clock ≤ v.clock + w.settings.readyTimeout := le_add_of_nonneg_right hT
  have hpoll : 0 < v.settings.pollInterval := hsettings ▸ hp
  have hremains : ⌈(v.clock + w.settings.readyTimeout - v.clock) / v.settings.pollInterval⌉₊ =
      ⌈w.settings.readyTimeout / w.settings.pollInterval⌉₊ := by
    rw [add_sub_cancel_left, hsettings]
  obtain ⟨naps, ready, w', hrun, hwaits⟩ :=
    awaitReady_waits (n := n) hpoll (Nat.lt_succ_of_le hremains.le)
  have hclock := hwaits.clock
  refine ⟨naps, ready, w', ?_, hwaits, ?_, ?_, hclock, ?_, hwaits.isReady, ?_⟩
  · have hwait : awaitReady n (Clock.add v.clock w.settings.readyTimeout)
        (Clock.rounds w.settings.readyTimeout w.settings.pollInterval + 1) v = (.ok (), w') := hrun
    simp only [ensureRunning, bind_apply, h, get_apply, hsettings, hwait, pure_apply]
  · rw [← hremains]
    exact hwaits.length_le hpoll
  · have hle := hwaits.clock_le hv
    linarith
  · have hlater := ((course_awaitReady _ _).of_eq hrun).later
    refine (List.append_left_inj v.waitTrace).1 ?_
    rw [World.waitTrace, ← List.filter_append, ← hlater.trace_eq]
    exact hwaits.waitTrace
  · rintro rfl hlive
    have heq := hwaits.clock_eq hv hlive
    linarith

/-- A quarter of a second is left for a prompt, and what is printed is none. -/
def loading : World ℚ :=
  { World.beginning with
    settings := { Settings.default with readyTimeout := 1 / 4, pollInterval := 1 / 10 }
    clock := 0
    scripts := [{ Script.default with ticks := [["Loading"]] }] }

theorem ensureRunning_waits_loading :
    0 ≤ loading.settings.readyTimeout ∧ 0 < loading.settings.pollInterval ∧
      ∃ v naps w', getOrCreate none none loading = (.ok 0, v) ∧
        ensureRunning none none loading = (.ok 0, w') ∧
        Waits 0 (v.clock + loading.settings.readyTimeout) v naps false w' ∧
        naps.length ≤ 3 ∧ naps.sum = 1 / 4 := by
  have htimeout : 0 ≤ loading.settings.readyTimeout := by decide +kernel
  have hinterval : 0 < loading.settings.pollInterval := by decide +kernel
  have hcreate : getOrCreate none none loading = (.ok 0, (getOrCreate none none loading).2) :=
    Prod.ext rfl rfl
  obtain ⟨naps, ready, w', hrun, hwaits, hlength, -, -, -, hready, hsum⟩ :=
    ensureRunning_waits htimeout hinterval hcreate
  have hend : w' = (ensureRunning none none loading).2 := (congrArg Prod.snd hrun).symm
  have hnone : ready = false := by
    rw [← hready, hend]
    decide +kernel
  have hlive : w'.isAlive 0 = true := by
    rw [hend]
    decide +kernel
  have hthree : ⌈loading.settings.readyTimeout / loading.settings.pollInterval⌉₊ = 3 := by
    decide +kernel
  exact ⟨htimeout, hinterval, _, naps, w', hcreate, hrun, hnone ▸ hwaits,
    hlength.trans hthree.le, hsum hnone hlive⟩

end Act

end ReplSend
