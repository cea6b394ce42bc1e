import ReplSend.Fragment
import ReplSend.Proofs.Text.Encoding
import ReplSend.Text.Codec

/-!
# How source is read

An interpreter decodes the bytes of a source file in the encoding that a cookie in one of the first
two lines names, or else in UTF-8 (`Codecs.read?`). A cookie is the same in every encoding here, so
what is read of an encoded text depends on what the text itself declares (`read?_of_encode?`).
-/

namespace ReplSend.Cookie

/-- A character of the name of an encoding. -/
def isNameChar (c : Char) : Bool := c.isAlphanum || c == '-' || c == '_' || c == '.'

def opening : Text := "# -*- coding: "

def closing : Text := " -*-"

/-- The encoding that a line names. -/
def named? (line : Text) : Option Text :=
  match Text.dropOpening? opening line with
  | none => none
  | some rest =>
    if rest.takeWhile isNameChar ≠ [] ∧ rest.dropWhile isNameChar = closing then
      some (rest.takeWhile isNameChar)
    else none

/-- The encoding that a text declares for itself in its first two lines. -/
def declared? (t : Text) : Option Text := ((Text.lines t).take 2).findSome? named?

/-! ## Cookies -/

structure IsName (name : Text) : Prop where
  ne_nil : name ≠ []
  chars : ∀ c ∈ name, isNameChar c = true

theorem dropOpening?_eq_some {p t r : Text} : Text.dropOpening? p t = some r ↔ t = p ++ r := by
  unfold Text.dropOpening?
  constructor
  · intro h
    split at h
    · rename_i hp
      obtain ⟨s, rfl⟩ := List.isPrefixOf_iff_prefix.1 hp
      simpa [eq_comm] using h
    · cases h
  · rintro rfl
    simp

theorem named?_eq_some {line name : Text} :
    named? line = some name ↔ IsName name ∧ line = opening ++ (name ++ closing) := by
  unfold named?
  constructor
  · intro h
    split at h
    · cases h
    rename_i rest hrest
    split at h
    · rename_i hn
      cases h
      refine ⟨⟨hn.1, fun c hc => List.all_eq_true.1 List.all_takeWhile c hc⟩, ?_⟩
      rw [dropOpening?_eq_some.1 hrest, ← hn.2, List.takeWhile_append_dropWhile]
    · cases h
  · rintro ⟨hname, rfl⟩
    have htake : (name ++ closing).takeWhile isNameChar = name := by
      rw [List.takeWhile_append_of_pos hname.chars]
      simp [closing, isNameChar]
    have hdrop : (name ++ closing).dropWhile isNameChar = closing := by
      rw [List.dropWhile_append_of_pos hname.chars]
      rfl
    rw [dropOpening?_eq_some.2 rfl]
    simp only [htake, hdrop]
    rw [if_pos ⟨hname.ne_nil, trivial⟩]

theorem IsName.isAscii {name : Text} (h : IsName name) : name.IsAscii := by
  intro c hc
  have hchar : (c.isUpper || c.isLower || c.isDigit || c == '-' || c == '_' || c == '.') = true :=
    h.chars c hc
  have hle : ∀ {b : Char}, c.val ≤ b.val → c.toNat ≤ b.toNat := UInt32.le_iff_toNat_le.1
  simp only [Bool.or_eq_true, beq_iff_eq] at hchar
  rcases hchar with ((((h | h) | h) | rfl) | rfl) | rfl
  · exact Nat.lt_of_le_of_lt (hle (b := 'Z') (of_decide_eq_true h).2) (by decide)
  · have hz := of_decide_eq_true (Bool.and_eq_true_iff.1 h).2
    exact Nat.lt_of_le_of_lt (hle (b := 'z') hz) (by decide)
  · exact Nat.lt_of_le_of_lt (Char.isDigit_iff_toNat.1 h).2 (by decide)
  all_goals decide

/-! ## Cookies in bytes -/

/-- The bytes as characters, one for each. -/
def view (bs : Bytes) : Text := bs.map fun b => Char.ofNat b.toNat

theorem view_append (a b : Bytes) : view (a ++ b) = view a ++ view b := List.map_append

/-- A character seen through its bytes in UTF-8. -/
def veil (c : Char) : Text := view (String.utf8EncodeChar c)

theorem veil_of_lt {c : Char} (h : c.toNat < 128) : veil c = [c] := by
  have hle : c.val.toNat ≤ 0x7f := Nat.le_of_lt_succ h
  have hb : (UInt8.ofNat c.val.toNat).toNat = c.toNat := Encoding.toNat_ofNat_of_lt (by omega)
  simp only [veil, String.utf8EncodeChar, if_pos hle, view, List.map_cons, List.map_nil, hb,
    c.ofNat_toNat]

/-- Nothing of a character beyond ASCII looks like ASCII. -/
theorem veil_of_ge {c : Char} (h : 128 ≤ c.toNat) :
    veil c ≠ [] ∧ ∀ d ∈ veil c, 128 ≤ d.toNat := by
  have hbytes : ∀ b ∈ String.utf8EncodeChar c, 128 ≤ b.toNat := by
    have hnot : ¬ c.val.toNat ≤ 0x7f := Nat.not_le.2 h
    have hbyte : ∀ n, 128 ≤ n → n < 256 → 128 ≤ (UInt8.ofNat n).toNat := fun n h1 h2 => by
      rw [Encoding.toNat_ofNat_of_lt h2]
      exact h1
    unfold String.utf8EncodeChar
    simp only [if_neg hnot]
    split
    · intro b hb
      simp only [List.mem_cons, List.not_mem_nil, or_false] at hb
      rcases hb with rfl | rfl <;> exact hbyte _ (by omega) (by omega)
    split
    · intro b hb
      simp only [List.mem_cons, List.not_mem_nil, or_false] at hb
      rcases hb with rfl | rfl | rfl <;> exact hbyte _ (by omega) (by omega)
    · intro b hb
      simp only [List.mem_cons, List.not_mem_nil, or_false] at hb
      rcases hb with rfl | rfl | rfl | rfl <;> exact hbyte _ (by omega) (by omega)
  constructor
  · intro hnil
    have hlen := congrArg List.length hnil
    rw [veil, view, List.length_map, String.length_utf8EncodeChar, List.length_nil] at hlen
    have := c.utf8Size_pos
    omega
  · intro d hd
    obtain ⟨b, hb, rfl⟩ := List.mem_map.1 hd
    rw [Encoding.toNat_char]
    exact hbytes b hb

/-- A text seen through its bytes in UTF-8. -/
theorem view_utf8 {t : Text} {bs : Bytes} (h : Encoding.utf8.encode? t = some bs) :
    view bs = t.flatMap veil := by
  induction t generalizing bs with
  | nil =>
    cases h
    rfl
  | cons c t ih =>
    obtain ⟨b, bs, hb, hbs, rfl⟩ := Encoding.encode?_cons.1 h
    cases hb
    rw [view_append, ih hbs]
    rfl

theorem view_encodeChar {e : Encoding} {c : Char} {b : Bytes} (he : e ≠ .utf8)
    (h : e.encodeChar? c = some b) : view b = [c] := by
  obtain ⟨hlt, rfl⟩ : c.toNat < 256 ∧ b = [c.toNat.toUInt8] := by
    cases e with
    | utf8 => exact absurd rfl he
    | latin1 =>
      simp only [Encoding.encodeChar?, Option.ite_none_right_eq_some, Option.some.injEq] at h
      exact ⟨h.1, h.2.symm⟩
    | ascii =>
      simp only [Encoding.encodeChar?, Option.ite_none_right_eq_some, Option.some.injEq] at h
      exact ⟨by omega, h.2.symm⟩
  have hb : c.toNat.toUInt8.toNat = c.toNat := Encoding.toNat_ofNat_of_lt hlt
  simp only [view, List.map_cons, List.map_nil, hb, c.ofNat_toNat]

theorem view_single {e : Encoding} {t : Text} {bs : Bytes} (he : e ≠ .utf8)
    (h : e.encode? t = some bs) : view bs = t := by
  induction t generalizing bs with
  | nil =>
    cases h
    rfl
  | cons c t ih =>
    obtain ⟨b, bs, hb, hbs, rfl⟩ := Encoding.encode?_cons.1 h
    rw [view_append, ih hbs, view_encodeChar he hb]
    rfl

/-! ## A cookie is the same in every encoding -/

theorem flatMap_veil_eq {l m : Text} (hm : m.IsAscii) : l.flatMap veil = m ↔ l = m := by
  induction l generalizing m with
  | nil => simp [eq_comm]
  | cons c l ih =>
    rcases Nat.lt_or_ge c.toNat 128 with hc | hc
    · rw [List.flatMap_cons, veil_of_lt hc]
      cases m with
      | nil => simp
      | cons d m =>
        have hm' : Text.IsAscii m := fun x hx => hm x (List.mem_cons_of_mem _ hx)
        simp [ih hm']
    · obtain ⟨hne, hge⟩ := veil_of_ge hc
      obtain ⟨d, ds, hd⟩ := List.exists_cons_of_ne_nil hne
      have hdge : 128 ≤ d.toNat := hge d (by simp [hd])
      rw [List.flatMap_cons, hd]
      constructor
      · rintro rfl
        have := hm d (by simp)
        omega
      · rintro rfl
        have := hm c (by simp)
        omega

theorem named?_flatMap_veil (line : Text) : named? (line.flatMap veil) = named? line := by
  refine Option.ext fun name => ?_
  rw [named?_eq_some, named?_eq_some]
  refine and_congr_right fun hname => flatMap_veil_eq ?_
  intro c hc
  rcases List.mem_append.1 hc with hc | hc
  · exact (show opening.IsAscii by decide) c hc
  rcases List.mem_append.1 hc with hc | hc
  · exact hname.isAscii c hc
  · exact (show closing.IsAscii by decide) c hc

theorem lines_append {p t l : Text} {ls : List Text} (hp : '\n' ∉ p) (h : Text.lines t = l :: ls) :
    Text.lines (p ++ t) = (p ++ l) :: ls := by
  induction p with
  | nil => exact h
  | cons c p ih =>
    rw [List.mem_cons, not_or] at hp
    rw [List.cons_append, Text.lines, if_neg (Ne.symm hp.1), ih hp.2]
    rfl

theorem lines_flatMap_veil (t : Text) :
    Text.lines (t.flatMap veil) = (Text.lines t).map (·.flatMap veil) := by
  induction t with
  | nil => rfl
  | cons c t ih =>
    obtain ⟨l, ls, hl⟩ := List.exists_cons_of_ne_nil (Text.lines_ne_nil t)
    rw [hl, List.map_cons] at ih
    rw [List.flatMap_cons, Text.lines]
    split
    · rename_i hc
      subst hc
      rw [veil_of_lt (by decide), List.singleton_append, Text.lines, if_pos rfl, ih, hl]
      rfl
    · rename_i hc
      have hnot : '\n' ∉ veil c := by
        rcases Nat.lt_or_ge c.toNat 128 with hlt | hge
        · rw [veil_of_lt hlt, List.mem_singleton]
          exact Ne.symm hc
        · intro hmem
          exact absurd ((veil_of_ge hge).2 _ hmem) (by decide)
      rw [lines_append hnot ih, hl]
      rfl

theorem declared?_view {e : Encoding} {t : Text} {bs : Bytes} (h : e.encode? t = some bs) :
    declared? (view bs) = declared? t := by
  by_cases he : e = .utf8
  · subst he
    unfold declared?
    rw [view_utf8 h, lines_flatMap_veil, ← List.map_take, List.findSome?_map]
    congr 1
    exact funext named?_flatMap_veil
  · rw [view_single he h]

/-- A text declares the encoding whose cookie it was given. -/
theorem declared?_withCookie {name : Text} (h : IsName name) (t : Text) :
    declared? (Fragment.withCookie t name) = some name := by
  have hline : '\n' ∉ opening ++ (name ++ closing) := by
    simp only [List.mem_append, not_or]
    refine ⟨by decide, fun hn => ?_, by decide⟩
    exact absurd (h.chars _ hn) (by decide)
  have htext : Fragment.withCookie t name = (opening ++ (name ++ closing)) ++ '\n' :: t := by
    have hend : (" -*-\n" : Text) = closing ++ ['\n'] := by decide
    have hopen : Fragment.withCookie t name = opening ++ name ++ " -*-\n" ++ t := rfl
    rw [hopen, hend]
    simp only [List.append_assoc, List.singleton_append]
  have hrest : Text.lines ('\n' :: t) = [] :: Text.lines t := by
    rw [Text.lines, if_pos rfl]
  rw [declared?, htext, lines_append hline hrest, List.take_succ_cons, List.findSome?_cons,
    List.append_nil, named?_eq_some.2 ⟨h, rfl⟩]

end ReplSend.Cookie

namespace ReplSend

/-- The name that settings and buffers give an encoding. -/
def Encoding.label : Encoding → Text
  | utf8 => "utf-8"
  | latin1 => "latin-1"
  | ascii => "ascii"

theorem Encoding.ofName?_label (e : Encoding) : ofName? e.label = some e := by
  cases e <;> decide +kernel

theorem Encoding.isName_label (e : Encoding) : Cookie.IsName e.label := by
  cases e <;> exact ⟨by decide, List.all_eq_true.1 (by decide)⟩

/-! ## Reading source -/

namespace Codecs

variable {k : Codecs} {e : Encoding} {name t : Text} {bs : Bytes}

/-- The text in the encoding of this name. -/
def encode? (k : Codecs) (name t : Text) : Option Bytes := (k.find? name).bind (·.encode? t)

/-- The text of the bytes in the encoding of this name. -/
def decode? (k : Codecs) (name : Text) (bs : Bytes) : Option Text :=
  (k.find? name).bind (·.decode? bs)

theorem encode?_of_known (h : Encoding.ofName? name = some e) : k.encode? name t = e.encode? t := by
  rw [encode?, k.known h]
  rfl

theorem decode?_of_known (h : Encoding.ofName? name = some e) :
    k.decode? name bs = e.decode? bs := by
  rw [decode?, k.known h]
  rfl

/-- The bytes of a source file, decoded. -/
def read? (k : Codecs) (bs : Bytes) : Option Text :=
  match Cookie.declared? (Cookie.view bs) with
  | none => Encoding.utf8.decode? bs
  | some name => k.decode? name bs

/-- What is read of a file that is decoded and encoded again, both in the encoding of this name. -/
def load? (k : Codecs) (name : Text) (file : Bytes) : Option Text :=
  ((k.decode? name file).bind (k.encode? name)).bind k.read?

/-- A text in an encoding declares that encoding, or has nothing to declare. -/
def Declares (k : Codecs) (e : Encoding) (t : Text) : Prop :=
  match Cookie.declared? t with
  | none => e = .utf8 ∨ t.IsAscii
  | some name =>
    match Encoding.ofName? name with
    | some d => d = e ∨ t.IsAscii
    | none => (e.encode? t).bind (k.decode? name) = some t

theorem declares_of_declared? {d : Encoding} (ht : Cookie.declared? t = some name)
    (hd : Encoding.ofName? name = some d) : k.Declares e t ↔ d = e ∨ t.IsAscii := by
  rw [Declares, ht]
  simp only [hd]

theorem load?_eq_some (hn : Encoding.ofName? name = some e) (h : e.encode? t = some bs) :
    k.load? name bs = some t ↔ k.Declares e t := by
  unfold load? read? Declares
  rw [decode?_of_known hn, Encoding.decode?_encode? h, Option.bind_some, encode?_of_known hn, h,
    Option.bind_some, Cookie.declared?_view h]
  split
  · rw [Encoding.decode?_of_encode? h, eq_comm]
  · rename_i d _
    split
    · rename_i e' he'
      rw [decode?_of_known he', Encoding.decode?_of_encode? h]
    · rw [Option.bind_some]

end Codecs

end ReplSend
