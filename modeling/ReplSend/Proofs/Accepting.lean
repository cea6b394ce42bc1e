import ReplSend.Proofs.Transmitting

/-!
# Texts that a live process does not take

A text can be beyond the encoding of its session. A line is then said to be refused by the process,
although the process is alive and reads; a longer text is said to be beyond the encoding, as it is,
since it goes into a file. A loading command is refused like any line (`plainSend_unavailable`). In
most encodings what can be encoded hangs on the characters alone, and ASCII can be
(`Codec.Regular`): a loading command is then refused only for the path of the file or the name of
the encoding.
-/

namespace ReplSend

namespace Codec

/-- Whether a text can be encoded hangs on its characters alone, those of ASCII can be encoded, and
a file takes what can be encoded. -/
structure Regular (c : Codec) : Prop where
  append : ∀ {t u : Text}, c.encode? (t ++ u) = none ↔ c.encode? t = none ∨ c.encode? u = none
  ascii : ∀ {t : Text}, t.IsAscii → c.encode? t ≠ none
  written : ∀ {t : Text}, c.written? t = none ↔ c.encode? t = none

/-- The text cannot be encoded in the form in which it is passed on: a simple line as a line, any
longer text as a file. -/
def Lacks (c : Codec) (t : Text) : Prop :=
  if isSimpleLine t then c.encode? (withoutLineEnds t ++ ['\n']) = none else c.written? t = none

end Codec

theorem Encoding.regular_codec (e : Encoding) : e.codec.Regular :=
  ⟨encode?_append_eq_none, encode?_ne_none_of_isAscii, Iff.rfl⟩

namespace Codec.Regular

variable {c : Codec} {t path encoding : Text} {keepMain delete : Bool}

/-! ## What can be encoded of a line -/

theorem encode?_line (hc : c.Regular) :
    c.encode? (withoutLineEnds t ++ ['\n']) = none ↔ c.encode? t = none := by
  obtain ⟨k, hk⟩ := t.exists_replicate_newline
  have hend : c.encode? ['\n'] ≠ none := hc.ascii (by decide)
  have hends : c.encode? (List.replicate k '\n') ≠ none :=
    hc.ascii fun d hd => by
      rw [List.eq_of_mem_replicate hd]
      decide
  conv_rhs => rw [hk, hc.append]
  rw [hc.append]
  simp only [hend, hends, or_false]
  rfl

theorem lacks_iff (hc : c.Regular) : c.Lacks t ↔ c.encode? t = none := by
  unfold Lacks
  split
  · exact hc.encode?_line
  · exact hc.written

theorem encode?_literal (hc : c.Regular) :
    c.encode? (Loader.literal t) = none ↔ c.encode? t = none := by
  have hquotes : c.encode? "'''" ≠ none := hc.ascii (by decide)
  simp only [Loader.literal, hc.append, hquotes, false_or, or_false]

/-- A loading command can be encoded if what it quotes can. -/
theorem encode?_command (hc : c.Regular) :
    c.encode? (Loader.command path encoding keepMain delete ++ ['\n']) = none ↔
      c.encode? path = none ∨ c.encode? encoding = none := by
  have hfilter : c.encode? (if keepMain then [] else Loader.mainFilter) ≠ none := by
    refine hc.ascii ?_
    split <;> decide +kernel
  have hremove : c.encode? (if delete then "os.remove(" ++ Loader.literal path ++ ");" else []) =
      none → c.encode? path = none := by
    split
    · simp (disch := decide) only [hc.append, hc.ascii, hc.encode?_literal, false_or, or_false,
        imp_self]
    · exact fun h => absurd h (hc.ascii (by decide))
  unfold Loader.command
  simp (disch := decide) only [hc.append, hc.ascii, hc.encode?_literal, hfilter, false_or,
    or_false]
  tauto

end Codec.Regular

namespace World

variable {τ : Type} {w : World τ} {n : Nat} {s : Session} {c : Codec} {t : Text}

/-! ## What a live process that reads does not take -/

theorem offered_of_open (hs : w.sessions[n]? = some s) (hopen : s.process.script.input = .open)
    (hc : w.host.codecs.find? s.encoding = some c) (data : Text) :
    w.offered n data = match c.encode? data with
      | some bytes => .ok bytes
      | none => .error (.inputRefused s.name) := by
  simp only [offered, hs, Session.taken, hopen, hc, reduceCtorEq, if_false]
  cases c.encode? data <;> rfl

theorem transmission_of_unknown (hs : w.sessions[n]? = some s)
    (hopen : s.process.script.input = .open) (hc : w.host.codecs.find? s.encoding = none)
    (keepMain : Bool) : w.transmission n s.encoding keepMain t = .error .unknownEncoding := by
  have hoffered : ∀ data, w.offered n data = .error .unknownEncoding := fun data => by
    simp only [offered, hs, Session.taken, hopen, hc, reduceCtorEq, if_false]
  rw [transmission, hoffered, hc]
  split <;> rfl

theorem transmission_of_simple (hs : w.sessions[n]? = some s)
    (hopen : s.process.script.input = .open) (hc : w.host.codecs.find? s.encoding = some c)
    (hsimple : isSimpleLine t = true) (keepMain : Bool) :
    (c.Lacks t → w.transmission n s.encoding keepMain t = .error (.inputRefused s.name)) ∧
    (¬ c.Lacks t → ∃ sent, w.transmission n s.encoding keepMain t = .ok sent) := by
  rw [Codec.Lacks, if_pos hsimple, transmission, if_pos hsimple, offered_of_open hs hopen hc]
  cases c.encode? (withoutLineEnds t ++ ['\n']) with
  | none => exact ⟨fun _ => rfl, fun h => absurd rfl h⟩
  | some bytes => exact ⟨fun h => absurd h (Option.some_ne_none _), fun _ => ⟨_, rfl⟩⟩

theorem transmission_of_long (hs : w.sessions[n]? = some s)
    (hopen : s.process.script.input = .open) (hc : w.host.codecs.find? s.encoding = some c)
    (hlong : isSimpleLine t = false) (keepMain : Bool) :
    (c.Lacks t → w.transmission n s.encoding keepMain t = .error .unencodable) ∧
    (¬ c.Lacks t →
      c.encode? (Loader.command w.host.temporary s.encoding keepMain true ++ ['\n']) = none →
      w.transmission n s.encoding keepMain t = .error (.inputRefused s.name)) ∧
    (¬ c.Lacks t →
      c.encode? (Loader.command w.host.temporary s.encoding keepMain true ++ ['\n']) ≠ none →
      ∃ sent, w.transmission n s.encoding keepMain t = .ok sent) := by
  simp only [Codec.Lacks, transmission, hlong, Bool.false_eq_true, if_false, hc,
    offered_of_open hs hopen hc]
  cases c.written? t with
  | none => exact ⟨fun _ => rfl, fun h => absurd rfl h, fun h => absurd rfl h⟩
  | some file =>
    refine ⟨fun h => absurd h (Option.some_ne_none _), fun _ hrefused => ?_, fun _ htaken => ?_⟩
    · rw [hrefused]
      rfl
    · obtain ⟨bytes, hbytes⟩ := Option.ne_none_iff_exists'.1 htaken
      rw [hbytes]
      exact ⟨_, rfl⟩

end World

namespace Act

variable {τ : Type} {w w' : World τ} {n : Nat} {s : Session} {t : Text} {e : Failure}

theorem plainSend_apply (hs : w.sessions[n]? = some s) (hlive : s.alive = true) :
    plainSend n t w = match w.transmission n s.encoding true t with
      | .ok (bytes, file) => (.ok (), w.wrote n bytes file)
      | .error e => (.error e, w) := by
  have halive : w.isAlive n = true := by
    rw [World.isAlive, hs]
    exact hlive
  have hencoding : (w.sessions[n]?).elim [] (·.encoding) = s.encoding := by rw [hs]; rfl
  simp only [plainSend, requireLive, bind_apply, get_apply, halive, if_true, pure_apply]
  rw [hencoding]
  exact transmit_apply

theorem plainSend_eq_error (hs : w.sessions[n]? = some s) (hlive : s.alive = true) :
    plainSend n t w = (.error e, w') ↔
      w.transmission n s.encoding true t = .error e ∧ w' = w := by
  rw [plainSend_apply hs hlive]
  constructor
  · intro h
    split at h
    · cases h
    · rename_i he
      cases h
      exact ⟨he, rfl⟩
  · rintro ⟨he, rfl⟩
    rw [he]

/-- A plain send to a live session whose process reads fails as if there was none exactly if the
encoding lacks a line, or does not lack a longer text, but its loading command. A text that the
encoding lacks is told so only if it is not a line. In a regular encoding the text is lacked if it
cannot be encoded, and the loading command if the path of the file or the name of the encoding
cannot. -/
theorem plainSend_unavailable (hs : w.sessions[n]? = some s) (hlive : s.alive = true)
    (hopen : s.process.script.input = .open) (t : Text) :
    ((∃ e w', plainSend n t w = (.error e, w') ∧ e.kind = .sessionUnavailable) ↔
      ∃ c, w.host.codecs.find? s.encoding = some c ∧
        if isSimpleLine t then c.Lacks t
        else ¬ c.Lacks t ∧
          c.encode? (Loader.command w.host.temporary s.encoding true true ++ ['\n']) = none) ∧
    (∀ c, w.host.codecs.find? s.encoding = some c → c.Lacks t → plainSend n t w =
      (.error (if isSimpleLine t then .inputRefused s.name else .unencodable), w)) ∧
    ∀ c, w.host.codecs.find? s.encoding = some c → c.Regular →
      (c.Lacks t ↔ c.encode? t = none) ∧
      (c.encode? (Loader.command w.host.temporary s.encoding true true ++ ['\n']) = none ↔
        c.encode? w.host.temporary = none ∨ c.encode? s.encoding = none) := by
  rw [← and_assoc]
  refine ⟨?_, fun c _ hc => ⟨hc.lacks_iff, hc.encode?_command⟩⟩
  simp only [plainSend_eq_error hs hlive]
  cases hc : w.host.codecs.find? s.encoding with
  | none =>
    rw [World.transmission_of_unknown hs hopen hc true]
    simp [Failure.kind]
  | some c =>
    simp only [Option.some.injEq, exists_eq_left', forall_eq']
    cases hsimple : isSimpleLine t with
    | true =>
      obtain ⟨hrefused, htaken⟩ := World.transmission_of_simple hs hopen hc hsimple true
      by_cases hlacks : c.Lacks t
      · simp [hrefused hlacks, hlacks, Failure.kind]
      · obtain ⟨sent, hsent⟩ := htaken hlacks
        simp [hsent, hlacks]
    | false =>
      obtain ⟨hbeyond, hrefused, htaken⟩ :=
        World.transmission_of_long hs hopen hc hsimple true
      by_cases hlacks : c.Lacks t
      · simp [hbeyond hlacks, hlacks, Failure.kind]
      by_cases hcommand :
          c.encode? (Loader.command w.host.temporary s.encoding true true ++ ['\n']) = none
      · simp [hrefused hlacks hcommand, hlacks, hcommand, Failure.kind]
      · obtain ⟨sent, hsent⟩ := htaken hlacks hcommand
        simp [hsent, hlacks, hcommand]

/-- An interpreter that waits for input in ASCII. -/
def waitingAscii : World Float := .waiting { Settings.default with encoding := "ascii" }

/-- The process is blamed for a letter in a line, and only for that. -/
theorem plainSend_unavailable_accented :
    (∃ e w', plainSend 0 "x = 'é'" waitingAscii = (.error e, w') ∧
      e.kind = .sessionUnavailable) ∧
    plainSend 0 "x = 'é'\ny = 2" waitingAscii = (.error .unencodable, waitingAscii) := by
  have hs : waitingAscii.sessions[0]? = some (.start sharedTarget .default 0 "ascii") := rfl
  have hascii : Codecs.basic.find? "ascii" = some Encoding.ascii.codec :=
    Codecs.known _ (by decide +kernel)
  have hregular := Encoding.ascii.regular_codec
  obtain ⟨hline, -, hline'⟩ := plainSend_unavailable hs rfl rfl "x = 'é'"
  obtain ⟨-, hlong, hlong'⟩ := plainSend_unavailable hs rfl rfl "x = 'é'\ny = 2"
  constructor
  · exact hline.2 ⟨_, hascii, (hline' _ hascii hregular).1.2 (by decide +kernel)⟩
  · rw [hlong _ hascii ((hlong' _ hascii hregular).1.2 (by decide +kernel))]
    have hsimple : isSimpleLine "x = 'é'\ny = 2" = false := by decide +kernel
    rw [hsimple]
    rfl

/-- A live process that reads is reported as none, and two texts beyond the same encoding are
reported in two ways. -/
theorem not_plainSend_available : waitingAscii.isAlive 0 = true ∧
    (waitingAscii.sessions[0]?).any (·.process.script.input = .open) = true ∧
    (plainSend 0 "x = 'é'" waitingAscii).1 = .error (.inputRefused sharedTarget) ∧
    (plainSend 0 "x = 'é'\ny = 2" waitingAscii).1 = .error .unencodable ∧
    (Failure.inputRefused sharedTarget).kind = .sessionUnavailable ∧
    Failure.unencodable.kind = .foreign := by
  decide +kernel

end Act

end ReplSend
