import Mathlib.Logic.Relation
import ReplSend.Proofs.Act

/-!
# What a process makes of the state

While time passes for a process its output arrives, its captures are fed and it may end. All this is
a chain of small changes of the state (`Arrival`): an event of output, a longer transcript, another
capture, another session. What each of them keeps is kept over the whole (`arrivals_tick`).
-/

namespace ReplSend

/-- The event is output of a process, or tells what came of it. -/
def Event.ofOutput : Event → Bool
  | output .. | notify _ | log .info _ => true
  | _ => false

namespace World

variable {τ α : Type} {v w : World τ} {n : Nat}

/-- A small change that comes of the output or the end of a process. -/
inductive Arrival : World τ → World τ → Prop
  | note (w : World τ) (e : Event) (h : e.ofOutput = true) : Arrival w (w.note e)
  | record (w : World τ) (transcript : Nat) (chunk : Text) : Arrival w (w.record transcript chunk)
  | capture (w : World τ) (c : Nat) (k : Capture) :
      Arrival w { w with captures := w.captures.set c k }
  | session (w : World τ) (n : Nat) (f : Session → Session) : Arrival w (w.modifySession n f)

abbrev Arrivals : World τ → World τ → Prop := Relation.ReflTransGen Arrival

/-- What each small change leaves as it is, a chain of them leaves so. -/
theorem Arrivals.congr (h : Arrivals v w) (f : World τ → α)
    (hf : ∀ {v w : World τ}, Arrival v w → f w = f v) : f w = f v := by
  induction h with
  | refl => rfl
  | tail _ hstep ih => exact (hf hstep).trans ih

theorem Arrivals.foldl {f : World τ → α → World τ} (h : Arrivals v w)
    (hf : ∀ w a, Arrivals w (f w a)) (l : List α) : Arrivals v (l.foldl f w) :=
  List.foldlRecOn l f h fun _ hu a _ => hu.trans (hf _ a)

theorem arrivals_notify (m : Message) : Arrivals w (w.notify m) := by
  unfold notify
  split
  · exact .single (.note w _ rfl)
  · exact .single (.note w _ rfl)

theorem arrivals_signal (c : Nat) (s : Signal) : Arrivals w (signal n c w s) := by
  cases s with
  | flush => exact .single (.session w n _)
  | summary m => exact arrivals_notify m

theorem arrivals_feed (c : Nat) (chunk : Text) : Arrivals w (w.feed n c chunk) := by
  unfold feed
  split
  · exact .refl
  · exact Arrivals.foldl (.single (.capture w c _)) (fun _ s => arrivals_signal c s) _

theorem arrivals_dispatch (chunk : Text) : Arrivals w (w.dispatch n chunk) := by
  unfold dispatch
  split
  · exact .refl
  split
  · exact .refl
  · refine Arrivals.foldl ?_ (fun _ c => arrivals_feed c chunk) _
    exact .tail (.single (.record w _ chunk)) (.note _ _ rfl)

theorem Arrivals.dispatchAll (h : Arrivals v w) (chunks : List Text) :
    Arrivals v (w.dispatchAll n chunks) :=
  h.foldl (fun _ chunk => arrivals_dispatch chunk) chunks

theorem arrivals_tick : Arrivals w (w.tick n) := by
  unfold tick
  split
  · exact .refl
  split
  · exact .refl
  rename_i s hs hended
  have hseen : Arrivals w (w.modifySession n fun s' =>
      { s' with process := ⟨{ s.process.script with ticks := s.process.script.ticks.tail },
        s.process.ticksSeen + 1, false⟩ }) := .single (.session w n _)
  dsimp only
  split
  · exact (hseen.dispatchAll _).tail (.session _ n _)
  · exact hseen.dispatchAll _

/-- The clock has moved on, and no process has lived through it yet. -/
def passed [Clock τ] (w : World τ) (time : τ) : World τ :=
  { w.note .sleep with clock := Clock.add w.clock time }

theorem arrivals_sleep [Clock τ] (time : τ) : Arrivals (w.passed time) (w.sleep time) :=
  Arrivals.foldl .refl (fun _ _ => arrivals_tick) _

end World

end ReplSend
