import ReplSend.Proofs.Course

/-!
# Which target a source leads to

A source has a flag, that it has a session of its own, and may be given a target. Both are kept
under the source's name, and each call rebuilds the two together (`sourceRecord_act`). So a history
of calls is read for each name by itself: the flag starts from the settings and is set and turned
by the calls on the name in turn, and the target is the one given last (`targetFor_after`).
-/

namespace ReplSend

/-- A call that says where the text of a source goes. -/
inductive Naming where
  | dedicate (source : Buffer) (enabled : Bool)
  | toggle (source : Buffer)
  /-- A target is given, or taken back. -/
  | give (source : Buffer) (target : Option Text)

namespace Naming

/-- The name of the source that is called on. -/
def source : Naming → Text
  | dedicate b _ | toggle b | give b _ => b.name

def action : Naming → Action
  | dedicate b enabled => .setDedicated b enabled
  | toggle b => .toggleDedicated b
  | give b target => .setLocalTarget b target

/-! ## What the calls on one source come to -/

/-- The calls on sources of one name. -/
def about (name : Text) (calls : List Naming) : List Naming := calls.filter (·.source = name)

/-- The flag after a call. -/
def turn : Bool → Naming → Bool
  | _, dedicate _ enabled => enabled
  | flag, toggle _ => !flag
  | flag, give .. => flag

/-- The flag after calls on one source, each in turn. -/
def flag (calls : List Naming) (start : Bool) : Bool := calls.foldl turn start

/-- The name that a call gives; `some none` takes it back. -/
def given? : Naming → Option (Option Text)
  | give _ target => some target
  | _ => none

/-- The target given by the last of the calls that give one, if its name is not empty. -/
def lastGiven (calls : List Naming) : Option Text :=
  (calls.filterMap given?).getLast?.join.filter (!·.isEmpty)

/-- What is kept of the source after a call. -/
def amend (r : SourceRecord) (c : Naming) : SourceRecord :=
  ⟨turn r.dedicated c, c.given?.elim r.target (·.filter (!·.isEmpty))⟩

variable {calls : List Naming} {r : SourceRecord} {name : Text}

theorem dedicated_foldl_amend : (calls.foldl amend r).dedicated = flag calls r.dedicated := by
  induction calls generalizing r with
  | nil => rfl
  | cons c calls ih => exact ih

/-- The target of the record holds until a call gives one. -/
theorem target_foldl_amend : (calls.foldl amend r).target =
    (calls.filterMap given?).getLast?.elim r.target (·.filter (!·.isEmpty)) := by
  induction calls generalizing r with
  | nil => rfl
  | cons c calls ih =>
    rw [List.foldl_cons, ih]
    cases hc : c.given? with
    | none => rw [List.filterMap_cons_none hc, amend, hc]; rfl
    | some target =>
      rw [List.filterMap_cons_some hc, List.getLast?_cons, amend, hc]
      cases (calls.filterMap given?).getLast? <;> rfl

theorem target_foldl_amend_of_none (hr : r.target = none) :
    (calls.foldl amend r).target = lastGiven calls := by
  rw [target_foldl_amend, hr, lastGiven]
  cases (calls.filterMap given?).getLast? <;> rfl

theorem lastGiven_ne_nil {t : Text} (h : lastGiven calls = some t) : t.isEmpty = false := by
  simpa using (Option.filter_eq_some_iff.1 h).2

end Naming

namespace World

variable {τ : Type} {w : World τ} {name : Text} {settings : Settings τ} {start : τ} {host : Host}
  {scripts : List Script} {notice : Notice} {projectRoot : Option (Option Text)} {w₀ : World τ}

/-- Nothing is known of any source at the beginning. -/
theorem sourceRecord_initial
    (h₀ : initial? settings start host scripts notice projectRoot = .ok w₀) (name : Text) :
    w₀.sourceRecord name = ⟨settings.dedicated, none⟩ := by
  unfold initial? at h₀
  split at h₀
  · cases h₀
    rfl
  all_goals cases h₀

/-- A target that a source is given never has an empty name, so it is the one used. -/
theorem targetOf_eq (h : ∀ t, (w.sourceRecord name).target = some t → t.isEmpty = false) :
    w.targetOf name = (w.sourceRecord name).target.getD
      (if w.isDedicated name then privateTarget name else sharedTarget) := by
  rw [targetOf, isDedicated]
  cases ht : (w.sourceRecord name).target with
  | none => rfl
  | some t => simp [h t ht]

/-! ## One call -/

theorem sourceRecord_put (r : SourceRecord) (source : Text) :
    ({ w with sources := w.sources.put source r }).sourceRecord name =
      if source = name then r else w.sourceRecord name := by
  rw [sourceRecord, Table.get?_put]
  split <;> rfl

/-- A flag alone is kept with the target that was there before. -/
theorem sourceRecord_setDedicated (source : Text) (enabled : Bool) :
    (w.setDedicated source enabled).sourceRecord name =
      if source = name then ⟨enabled, (w.sourceRecord name).target⟩ else w.sourceRecord name := by
  rw [setDedicated, sourceRecord_put]
  refine ite_congr rfl (fun h => ?_) fun _ => rfl
  rw [h, sourceRecord]
  cases w.sources.get? name <;> rfl

variable [Clock τ]

/-- A call on a source changes what is kept of that source, and of no other. -/
theorem sourceRecord_act (c : Naming) : (w.act c.action).2.sourceRecord name =
    if c.source = name then Naming.amend (w.sourceRecord name) c else w.sourceRecord name := by
  cases c with
  | dedicate b enabled => exact sourceRecord_setDedicated b.name enabled
  | toggle b =>
    refine (sourceRecord_setDedicated b.name _).trans (ite_congr rfl (fun h => ?_) fun _ => rfl)
    obtain rfl : b.name = name := h
    rfl
  | give b target =>
    refine (sourceRecord_put _ b.name).trans (ite_congr rfl (fun h => ?_) fun _ => rfl)
    obtain rfl : b.name = name := h
    rfl

/-- To give a source a target or take it back does not touch the flag of any source. -/
theorem isDedicated_act_give (b : Buffer) (target : Option Text) :
    (w.act (.setLocalTarget b target)).2.isDedicated name = w.isDedicated name := by
  rw [isDedicated, isDedicated]
  refine (congrArg SourceRecord.dedicated (sourceRecord_act (.give b target))).trans ?_
  split <;> rfl

/-- To set or turn the flag of a source does not touch the target of any source. -/
theorem target_act_of_given?_eq_none {c : Naming} (h : c.given? = none) :
    ((w.act c.action).2.sourceRecord name).target = (w.sourceRecord name).target := by
  rw [sourceRecord_act]
  split
  · rw [Naming.amend, h]
    rfl
  · rfl

/-! ## Histories of calls -/

/-- What is kept of a source is read off the calls on that source. -/
theorem sourceRecord_after (calls : List Naming) :
    (w.after (calls.map Naming.action)).sourceRecord name =
      (Naming.about name calls).foldl Naming.amend (w.sourceRecord name) := by
  induction calls generalizing w with
  | nil => rfl
  | cons c calls ih =>
    refine ih.trans ?_
    rw [sourceRecord_act, Naming.about, Naming.about, List.filter_cons]
    by_cases h : c.source = name <;> simp [h]

/-- After any calls on any sources, the target of a source is what the calls on its own name make
it: the one given last, if its name is not empty; else a private one or the shared one, by the flag.
No call changes both the flag and the target of a source. -/
theorem targetFor_after
    (h₀ : initial? settings start host scripts notice projectRoot = .ok w₀)
    (calls : List Naming) (b : Buffer) :
    let w := w₀.after (calls.map Naming.action)
    let own := Naming.about b.name calls
    w.act (.targetFor (some b)) = (.ok (.text (some ((Naming.lastGiven own).getD
        (if Naming.flag own settings.dedicated then privateTarget b.name else sharedTarget)))), w) ∧
      w.act (.isDedicated b) = (.ok (.flag (Naming.flag own settings.dedicated)), w) ∧
      ∀ (v : World τ) (source : Buffer) (name : Text),
        (∀ target, (v.act (.setLocalTarget source target)).2.isDedicated name =
          v.isDedicated name) ∧
        (∀ enabled, ((v.act (.setDedicated source enabled)).2.sourceRecord name).target =
          (v.sourceRecord name).target) ∧
        ((v.act (.toggleDedicated source)).2.sourceRecord name).target =
          (v.sourceRecord name).target := by
  intro w own
  have hrecord : w.sourceRecord b.name = own.foldl Naming.amend ⟨settings.dedicated, none⟩ := by
    rw [sourceRecord_after, sourceRecord_initial h₀]
  have hflag : w.isDedicated b.name = Naming.flag own settings.dedicated := by
    rw [isDedicated, hrecord, Naming.dedicated_foldl_amend]
  have htarget : (w.sourceRecord b.name).target = Naming.lastGiven own := by
    rw [hrecord, Naming.target_foldl_amend_of_none rfl]
  have hfor : w.targetFor (some b) = (Naming.lastGiven own).getD
      (if Naming.flag own settings.dedicated then privateTarget b.name else sharedTarget) := by
    rw [targetFor, targetOf_eq fun t ht => Naming.lastGiven_ne_nil (htarget ▸ ht), htarget, hflag]
  refine ⟨?_, ?_, fun v source name => ⟨fun target => isDedicated_act_give source target,
    fun enabled => target_act_of_given?_eq_none (c := .dedicate source enabled) rfl,
    target_act_of_given?_eq_none (c := .toggle source) rfl⟩⟩
  · rw [← hfor]
    rfl
  · rw [← hflag]
    rfl

def scratch : Buffer := ⟨[], 0, "a.py", none, "utf-8"⟩

/-- The flag is turned while a source has a target, which is then taken back; a source of another
name is called on in between. -/
def namings : List Naming :=
  [.give scratch (some "Shell"), .toggle scratch,
    .give { scratch with name := "b.py" } (some "Other"), .give scratch (some "")]

theorem targetFor_after_namings :
    initial? Settings.default 0.0 .plain [] .event none = .ok beginning ∧
      ((beginning.after (namings.map Naming.action)).act (.targetFor (some scratch))).1 =
        .ok (.text (some "Python[a.py]")) := by
  refine ⟨initial?_beginning, ?_⟩
  rw [(targetFor_after initial?_beginning namings scratch).1]
  rfl

end World

end ReplSend
