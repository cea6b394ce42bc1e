import ReplSend.Proofs.Course
import ReplSend.Proofs.Pattern.Framing
import ReplSend.Settings.Load

/-!
# What accepted settings are good for

A setting that holds a pattern is accepted if its text is the written form of one (`Accepted`), and
settings that have been loaded are accepted (`accepted_of_load`). The state at the beginning needs
the prompt pattern within its frame, where not every pattern can stand: `initial?_of_accepted` says
for which accepted settings there is no such state.
-/

namespace ReplSend.Settings

/-! ## Checked values -/

section

variable {α β : Type} {f : Checked (α → β)} {a : Checked α} {b : β}

theorem Checked.apply_eq_ok (h : f.apply a = .ok b) :
    ∃ g x, f = .ok g ∧ a = .ok x ∧ g x = b := by
  unfold Checked.apply at h
  split at h
  · rename_i g x
    cases h
    exact ⟨g, x, rfl, rfl, rfl⟩
  all_goals cases h

theorem Checked.ofExcept_eq_ok {name : Text} {r : Except FieldFault α} {x : α}
    (h : Checked.ofExcept name r = .ok x) : r = .ok x := by
  cases r with
  | ok y =>
    cases h
    rfl
  | error e => cases h

end

/-! ## Patterns that pass -/

variable {named : Text → Option Char} {g : Given} {name default t u : Text}

/-- A text passes as it is, if it is the written form of a pattern. -/
theorem checkPattern_eq_ok :
    checkPattern named t = .ok u ↔ u = t ∧ ∃ p, Pattern.parse named t = .ok p := by
  unfold checkPattern
  cases Pattern.parse named t with
  | ok p => exact ⟨fun h => ⟨(Except.ok.inj h).symm, p, rfl⟩, fun h => by rw [h.1]⟩
  | error f => cases f <;> exact ⟨nofun, nofun⟩

theorem checkPattern_of_isOk (h : (Pattern.parse named t).isOk = true) :
    checkPattern named t = .ok t := by
  unfold checkPattern
  cases hp : Pattern.parse named t with
  | ok p => rfl
  | error f =>
    rw [hp] at h
    cases h

/-- Each pattern in the settings passes. -/
structure Accepted {τ : Type} (named : Text → Option Char) (s : Settings τ) : Prop where
  prompt : checkPattern named s.promptRegexp = .ok s.promptRegexp
  cellBoundary : checkPattern named s.cellBoundary = .ok s.cellBoundary
  cellBeginning : checkPattern named s.cellBeginning = .ok s.cellBeginning

theorem accepted_default : Settings.default.Accepted named := ⟨rfl, rfl, rfl⟩

theorem accepted_default_prompt (h : checkPattern named t = .ok t) :
    { Settings.default with promptRegexp := t }.Accepted named :=
  { accepted_default with prompt := h }

theorem regexp_eq_ok {v : Value} (h : regexp named v = .ok t) : checkPattern named t = .ok t := by
  cases v with
  | text u =>
    obtain ⟨rfl, hread⟩ := checkPattern_eq_ok.1 (show checkPattern named u = .ok t from h)
    exact checkPattern_eq_ok.2 ⟨rfl, hread⟩
  | _ => cases h

/-- A field that holds a pattern is given one or keeps its default. -/
theorem checkPattern_of_field (hdefault : checkPattern named default = .ok default)
    (h : field g name default (regexp named) = .ok t) : checkPattern named t = .ok t := by
  unfold field at h
  split at h
  · cases h
    exact hdefault
  · exact regexp_eq_ok (Checked.ofExcept_eq_ok h)

theorem accepted_of_ofGiven {s : Settings Float} (h : ofGiven named g = .ok s) :
    s.Accepted named := by
  unfold ofGiven at h
  obtain ⟨_, _, h₁, -, rfl⟩ := Checked.apply_eq_ok h
  obtain ⟨_, _, h₂, hbeginning, rfl⟩ := Checked.apply_eq_ok h₁
  obtain ⟨_, _, h₃, hboundary, rfl⟩ := Checked.apply_eq_ok h₂
  obtain ⟨_, _, h₄, -, rfl⟩ := Checked.apply_eq_ok h₃
  obtain ⟨_, _, h₅, -, rfl⟩ := Checked.apply_eq_ok h₄
  obtain ⟨_, _, h₆, -, rfl⟩ := Checked.apply_eq_ok h₅
  obtain ⟨_, _, h₇, -, rfl⟩ := Checked.apply_eq_ok h₆
  obtain ⟨_, _, h₈, -, rfl⟩ := Checked.apply_eq_ok h₇
  obtain ⟨_, _, h₉, -, rfl⟩ := Checked.apply_eq_ok h₈
  obtain ⟨_, _, h₁₀, -, rfl⟩ := Checked.apply_eq_ok h₉
  obtain ⟨_, _, h₁₁, hprompt, rfl⟩ := Checked.apply_eq_ok h₁₀
  obtain ⟨_, _, h₁₂, -, rfl⟩ := Checked.apply_eq_ok h₁₁
  obtain ⟨_, _, h₁₃, -, rfl⟩ := Checked.apply_eq_ok h₁₂
  obtain ⟨_, _, h₁₄, -, rfl⟩ := Checked.apply_eq_ok h₁₃
  obtain ⟨_, _, h₁₅, -, rfl⟩ := Checked.apply_eq_ok h₁₄
  cases h₁₅
  exact ⟨checkPattern_of_field accepted_default.prompt hprompt,
    checkPattern_of_field accepted_default.cellBoundary hboundary,
    checkPattern_of_field accepted_default.cellBeginning hbeginning⟩

theorem accepted_of_load {overrides : List (Text × Value)} {environment : Table Text}
    {file : Option Bytes} {s : Settings Float} (h : load named overrides environment file = .ok s) :
    s.Accepted named := by
  unfold load at h
  simp only [bind, Except.bind] at h
  split at h
  · cases h
  split at h
  · cases h
  split at h
  · rename_i hgiven
    cases h
    exact accepted_of_ofGiven hgiven
  · cases h

/-! ## A prompt pattern alone -/

/-- Nothing but a prompt pattern is given. -/
def onlyPrompt (t : Text) : Given := [("prompt_regexp", .text t)]

theorem ofOverrides_onlyPrompt (t : Text) : ofOverrides (onlyPrompt t) = onlyPrompt t := by
  have hname : Text.lowerAscii "prompt_regexp" = "prompt_regexp" := by decide +kernel
  simp only [onlyPrompt, ofOverrides, List.reverse_singleton, List.map_singleton, hname]

theorem get?_onlyPrompt : (onlyPrompt t).get? "prompt_regexp" = some (.text t) := by
  simp only [onlyPrompt, Given.get?, List.find?_cons, decide_true, Option.map_some]

theorem get?_onlyPrompt_other : ∀ name ∈ (["interpreter", "interpreter_args",
    "starting_directory", "dedicated", "encoding", "ready_timeout", "poll_interval", "echo_input",
    "echo_output", "echo_input_lines_head", "echo_input_lines_tail", "cell_boundary_regexp",
    "codecell_beginning_regexp", "log_level"] : List Text), (onlyPrompt t).get? name = none := by
  intro name hname
  have hne : ("prompt_regexp" : Text) ≠ name := by
    revert name
    decide +kernel
  simp only [onlyPrompt, Given.get?, List.find?_cons, hne, decide_false, List.find?_nil,
    Option.map_none]

theorem ofGiven_onlyPrompt (t : Text) : ofGiven named (onlyPrompt t) =
    match checkPattern named t with
    | .ok t => .ok { Settings.default with promptRegexp := t }
    | .error f => .faulty [("prompt_regexp", f)] := by
  have hother := get?_onlyPrompt_other (t := t)
  simp only [List.forall_mem_cons, List.not_mem_nil, false_imp_iff, implies_true, and_true]
    at hother
  have hregexp : regexp named (.text t) = checkPattern named t := rfl
  simp only [ofGiven, field, textList, echoChoice, hother, get?_onlyPrompt, hregexp]
  cases checkPattern named t <;> rfl

theorem ofNamed_nil : ofNamed [] = .ok [] := rfl

/-- A prompt pattern that does not pass is reported under the name of its field, unless the rule
itself cannot deal with it. -/
theorem load_onlyPrompt (t : Text) : load named (onlyPrompt t) [] none =
    match checkPattern named t with
    | .ok t => .ok { Settings.default with promptRegexp := t }
    | .error .excessive => .error .excessive
    | .error f => .error (.invalid [("prompt_regexp", f)]) := by
  unfold load
  simp only [bind, Except.bind, List.map_nil, ofNamed_nil, ofFile, ofOverrides_onlyPrompt,
    List.append_nil, ofGiven_onlyPrompt]
  cases checkPattern named t with
  | ok t => rfl
  | error f => cases f <;> rfl

end ReplSend.Settings

namespace ReplSend.World

open Pattern Settings

variable {τ : Type} {s : Settings τ} {host : Host} (start : τ) (scripts : List Script)
  (notice : Notice) (projectRoot : Option (Option Text))

theorem initial?_eq_error (hs : s.Accepted host.named) (hsets : SetsOptions s.promptRegexp) :
    initial? s start host scripts notice projectRoot = .error (.badPattern .malformed) := by
  obtain ⟨-, p, hp⟩ := checkPattern_eq_ok.1 hs.prompt
  unfold initial?
  rw [Prompt.pattern_of_parse hp, if_pos hsets]

theorem initial?_eq_ok (hs : s.Accepted host.named) (hsets : ¬ SetsOptions s.promptRegexp) :
    ∃ p w, parse host.named s.promptRegexp = .ok p ∧
      initial? s start host scripts notice projectRoot = .ok w ∧ w.prompt = Prompt.framed p := by
  obtain ⟨-, p, hp⟩ := checkPattern_eq_ok.1 hs.prompt
  obtain ⟨-, boundary, hboundary⟩ := checkPattern_eq_ok.1 hs.cellBoundary
  obtain ⟨-, beginning, hbeginning⟩ := checkPattern_eq_ok.1 hs.cellBeginning
  unfold initial?
  rw [Prompt.pattern_of_parse hp, if_neg hsets, hboundary, hbeginning]
  exact ⟨p, _, hp, rfl, rfl⟩

/-- Accepted settings give a state at the beginning, with the prompt pattern in its frame, unless
the prompt pattern starts with options for the whole pattern. -/
theorem initial?_of_accepted (hs : s.Accepted host.named) :
    (initial? s start host scripts notice projectRoot = .error (.badPattern .malformed) ↔
      SetsOptions s.promptRegexp) ∧
    (¬ SetsOptions s.promptRegexp → ∃ p w, parse host.named s.promptRegexp = .ok p ∧
      initial? s start host scripts notice projectRoot = .ok w ∧ w.prompt = Prompt.framed p) := by
  refine ⟨⟨fun herror => Decidable.byContradiction fun hsets => ?_,
    initial?_eq_error start scripts notice projectRoot hs⟩,
    initial?_eq_ok start scripts notice projectRoot hs⟩
  obtain ⟨p, w, -, hw, -⟩ := initial?_eq_ok start scripts notice projectRoot hs hsets
  rw [hw] at herror
  cases herror

/-- Three equal marks at the start of a line, of which one is written. -/
def marks : Text := "(?#prompt)(?<=\\n)(>|#)\\1\\1 "

theorem initial?_of_accepted_marks :
    { Settings.default with promptRegexp := marks }.Accepted Host.plain.named ∧
    ¬ SetsOptions marks ∧ ∃ p w, parse Host.plain.named marks = .ok p ∧
      initial? { Settings.default with promptRegexp := marks } 0.0 .plain [] .event none = .ok w ∧
      w.prompt = Prompt.framed p := by
  have hs : { Settings.default with promptRegexp := marks }.Accepted Host.plain.named :=
    accepted_default_prompt (checkPattern_of_isOk (by decide +kernel))
  have hsets : ¬ SetsOptions marks := by decide +kernel
  exact ⟨hs, hsets, (initial?_of_accepted 0.0 [] .event none hs).2 hsets⟩

/-- The prompt in any letter case, with the option for the whole pattern. -/
def caseless : Text := "(?i)>>> "

/-- A prompt pattern that is accepted but that cannot be read within its frame. -/
theorem initial?_caseless :
    { Settings.default with promptRegexp := caseless }.Accepted Host.plain.named ∧
    initial? { Settings.default with promptRegexp := caseless } 0.0 .plain [] .event none =
      .error (.badPattern .malformed) := by
  have hs : { Settings.default with promptRegexp := caseless }.Accepted Host.plain.named :=
    accepted_default_prompt (checkPattern_of_isOk (by decide +kernel))
  exact ⟨hs, initial?_eq_error _ _ _ _ hs (by decide +kernel)⟩

end ReplSend.World
