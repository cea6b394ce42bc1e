import ReplSend.Sending
import ReplSend.Proofs.Arriving

/-!
# What writes nothing

Most operations write nothing to any process, leave the settings and the host as they are and
remember nothing as sent (`Quiet`); among them is all that happens while a session is started and
waited for.
-/

namespace ReplSend

/-- What is written, if anything: the process, the bytes and the contents of the file. -/
def Event.written? : Event → Option (Nat × Bytes × Option Bytes)
  | write process bytes file => some (process, bytes, file)
  | _ => none

namespace World

variable {τ α : Type} {v w : World τ} {n : Nat}

/-- All that was written, the latest first. -/
def writes (w : World τ) : List (Nat × Bytes × Option Bytes) := w.trace.filterMap Event.written?

structure Quiet (w w' : World τ) : Prop where
  settings : w'.settings = w.settings
  host : w'.host = w.host
  writes : w'.writes = w.writes
  sent : w'.sent = w.sent

theorem Quiet.refl (w : World τ) : Quiet w w := ⟨rfl, rfl, rfl, rfl⟩

theorem Quiet.trans {w w' w'' : World τ} (h : Quiet w w') (h' : Quiet w' w'') : Quiet w w'' :=
  ⟨h'.settings.trans h.settings, h'.host.trans h.host, h'.writes.trans h.writes,
    h'.sent.trans h.sent⟩

instance : Std.Refl (@Quiet τ) := ⟨Quiet.refl⟩

instance : IsTrans (World τ) Quiet := ⟨fun _ _ _ => Quiet.trans⟩

/-! ## Events and output -/

theorem Quiet.note (h : Quiet v w) {e : Event} (he : e.written? = none) : Quiet v (w.note e) :=
  h.trans ⟨rfl, rfl, List.filterMap_cons_none he, rfl⟩

theorem Quiet.modifySession (h : Quiet v w) (f : Session → Session) :
    Quiet v (w.modifySession n f) :=
  h.trans ⟨rfl, rfl, rfl, rfl⟩

theorem Arrival.quiet (h : Arrival v w) : Quiet v w := by
  cases h with
  | note e he =>
    refine (Quiet.refl v).note ?_
    cases e with
    | write process bytes file => cases he
    | _ => rfl
  | _ => exact ⟨rfl, rfl, rfl, rfl⟩

theorem Arrivals.quiet (h : Arrivals v w) : Quiet v w :=
  Relation.reflTransGen_le_of_le (fun _ _ h => h.quiet) _ _ h

theorem Quiet.dispatchAll (h : Quiet v w) (chunks : List Text) :
    Quiet v (w.dispatchAll n chunks) :=
  h.trans (Arrivals.dispatchAll .refl chunks).quiet

theorem quiet_sleep [Clock τ] (time : τ) : Quiet w (w.sleep time) :=
  have hpassed : Quiet w (w.passed time) := ⟨rfl, rfl, rfl, rfl⟩
  hpassed.trans (arrivals_sleep time).quiet

/-! ## Sessions -/

theorem quiet_isReady : Quiet w (w.isReady n).2 := by
  rw [isReady_snd]
  exact (Quiet.refl w).modifySession _

theorem quiet_get (target : Text) : Quiet w (w.get target).2 := by
  unfold get
  split
  · exact .refl w
  split
  · exact .refl w
  · exact ⟨rfl, rfl, rfl, rfl⟩

theorem quiet_transcriptFor (target : Text) : Quiet w (w.transcriptFor target).2 := by
  unfold transcriptFor
  split
  · exact .refl w
  · exact ⟨rfl, rfl, rfl, rfl⟩

theorem quiet_addSession (target : Text) (script : Script) :
    Quiet w (w.addSession target script) := by
  refine (quiet_transcriptFor target).trans ?_
  unfold addSession
  dsimp only
  split
  · exact ⟨rfl, rfl, rfl, rfl⟩
  · exact ⟨rfl, rfl, rfl, rfl⟩

end World

namespace Act

variable {τ α : Type} {n : Nat}

open World (Quiet)

/-- The operation writes nothing. -/
def Quietly (x : Act τ α) : Prop := ∀ w, Quiet w (x w).2

theorem quietly_spawn (target : Text) (source : Option Buffer) :
    Quietly (spawn target source : Act τ Nat) := by
  refine keeps_get.bind fun w => (keeps_ofExcept _).bind fun directory =>
    (keeps_ofExcept _).bind fun executable => ?_
  refine Keeps.bind (keeps_update fun w => ?_) fun _ => ?_
  · exact ⟨rfl, rfl, rfl, rfl⟩
  split
  · exact keeps_throw _
  · refine (keeps_update fun w => ?_).bind fun _ => keeps_pure _
    exact (World.quiet_addSession target _).note rfl

theorem quietly_getOrCreate (target : Option Text) (source : Option Buffer) :
    Quietly (getOrCreate target source : Act τ Nat) := by
  refine keeps_get.bind fun w => (keeps_change fun w => World.quiet_get _).bind fun found => ?_
  cases found with
  | some n => exact keeps_pure n
  | none => exact quietly_spawn _ source

theorem quietly_awaitReady [Clock τ] (deadline : τ) (limit : Nat) :
    Quietly (awaitReady n deadline limit) := by
  induction limit with
  | zero => exact keeps_pure ()
  | succ limit ih =>
    refine (keeps_change fun w => World.quiet_isReady).bind fun ready => ?_
    cases ready with
    | true => exact keeps_pure ()
    | false =>
      refine keeps_get.bind fun w => ?_
      dsimp only
      split
      · exact keeps_update fun w => (Quiet.refl w).note rfl
      · exact (keeps_update fun w => World.quiet_sleep _).bind fun _ => ih

theorem quietly_ensureRunning [Clock τ] (target : Option Text) (source : Option Buffer) :
    Quietly (ensureRunning target source : Act τ Nat) :=
  Keeps.bind (quietly_getOrCreate target source) fun n => keeps_get.bind fun _ =>
    Keeps.bind (quietly_awaitReady _ _) fun _ => keeps_pure n

end Act

end ReplSend
