import ReplSend.Text.Encoding

/-!
# Encodings and what they decode

Decoding takes back what encoding did (`decode?_encode?`). Bytes of one encoding decode to the same
text under another exactly when the text is ASCII (`decode?_of_encode?`), which is a matter of
length for UTF-8 and Latin-1: only ASCII characters take one byte in the former.
-/

namespace ReplSend

def Text.IsAscii (t : Text) : Prop := ∀ c ∈ t, c.toNat < 128

instance (t : Text) : Decidable t.IsAscii :=
  decidable_of_iff (t.all (fun c => c.toNat < 128) = true) <| by simp [Text.IsAscii]

namespace Encoding

variable {e : Encoding} {c : Char} {t : Text} {bs rest : Bytes} {n limit : Nat}

/-! ## One character -/

theorem toNat_ofNat_of_lt (h : n < 256) : (UInt8.ofNat n).toNat = n := by
  rw [UInt8.toNat_ofNat']
  exact Nat.mod_eq_of_lt h

theorem isContinuation_iff {b : UInt8} :
    isContinuation b = true ↔ 128 ≤ b.toNat ∧ b.toNat < 192 := by
  simp only [isContinuation, UInt8.le_iff_toNat_le, Bool.and_eq_true, decide_eq_true_eq,
    UInt8.reduceToNat]
  omega

theorem isSecond_iff {a b : UInt8} : isSecond a b = true ↔
    128 ≤ b.toNat ∧ b.toNat < 192 ∧ (a.toNat = 0xe0 → 0xa0 ≤ b.toNat) ∧
      (a.toNat = 0xed → b.toNat < 0xa0) ∧ (a.toNat = 0xf0 → 0x90 ≤ b.toNat) ∧
      (a.toNat = 0xf4 → b.toNat < 0x90) := by
  rw [isSecond, Bool.and_eq_true, isContinuation_iff]
  simp only [UInt8.le_iff_toNat_le, UInt8.lt_iff_toNat_lt, ← UInt8.toNat_inj, UInt8.reduceToNat]
  repeat' split
  all_goals
    simp only [decide_eq_true_eq, and_true]
    omega

theorem join_eq (high : Nat) (b : UInt8) : join high b = high * 64 + (b.toNat - 0x80) := rfl

theorem utf8Piece_one {a : UInt8} (h : a.toNat < 0x80) :
    utf8Piece (a :: rest) = .char (Char.ofNat a.toNat) 1 := by
  simp only [utf8Piece, UInt8.lt_iff_toNat_lt, UInt8.reduceToNat]
  rw [if_pos h]

theorem utf8Piece_two {a b : UInt8} (h1 : 0xc2 ≤ a.toNat) (h2 : a.toNat < 0xe0)
    (hb : isContinuation b = true) :
    utf8Piece (a :: b :: rest) = .char (Char.ofNat (join (a.toNat - 0xc0) b)) 2 := by
  simp only [utf8Piece, UInt8.lt_iff_toNat_lt, UInt8.reduceToNat]
  rw [if_neg (by omega), if_neg (by omega), if_pos h2, if_pos hb]

theorem utf8Piece_three {a b c : UInt8} (h1 : 0xe0 ≤ a.toNat) (h2 : a.toNat < 0xf0)
    (hb : isSecond a b = true) (hc : isContinuation c = true) :
    utf8Piece (a :: b :: c :: rest) =
      .char (Char.ofNat (join (join (a.toNat - 0xe0) b) c)) 3 := by
  simp only [utf8Piece, UInt8.lt_iff_toNat_lt, UInt8.reduceToNat, hb, hc]
  rw [if_neg (by omega), if_neg (by omega), if_neg (by omega), if_pos h2]
  rfl

theorem utf8Piece_four {a b c d : UInt8} (h1 : 0xf0 ≤ a.toNat) (h2 : a.toNat < 0xf5)
    (hb : isSecond a b = true) (hc : isContinuation c = true) (hd : isContinuation d = true) :
    utf8Piece (a :: b :: c :: d :: rest) =
      .char (Char.ofNat (join (join (join (a.toNat - 0xf0) b) c) d)) 4 := by
  simp only [utf8Piece, UInt8.lt_iff_toNat_lt, UInt8.reduceToNat, hb, hc, hd]
  rw [if_neg (by omega), if_neg (by omega), if_neg (by omega), if_neg (by omega), if_pos h2]
  rfl

theorem utf8Piece_encodeChar (c : Char) (rest : Bytes) :
    utf8Piece (String.utf8EncodeChar c ++ rest) = .char c (String.utf8EncodeChar c).length := by
  have hvalid : c.val.toNat < 0xd800 ∨ 0xdfff < c.val.toNat ∧ c.val.toNat < 0x110000 := c.valid
  have hc : Char.ofNat c.val.toNat = c := c.ofNat_toNat
  unfold String.utf8EncodeChar
  generalize c.val.toNat = v at hvalid hc
  have h1 := toNat_ofNat_of_lt (n := v % 64 + 0x80) (by omega)
  have h2 := toNat_ofNat_of_lt (n := v / 64 % 64 + 0x80) (by omega)
  have h3 := toNat_ofNat_of_lt (n := v / 4096 % 64 + 0x80) (by omega)
  simp only
  generalize UInt8.ofNat (v % 64 + 0x80) = b1 at h1
  generalize UInt8.ofNat (v / 64 % 64 + 0x80) = b2 at h2
  generalize UInt8.ofNat (v / 4096 % 64 + 0x80) = b3 at h3
  split
  · have ha := toNat_ofNat_of_lt (n := v) (by omega)
    refine (utf8Piece_one (by omega)).trans ?_
    rw [ha, hc]
    rfl
  split
  · have ha := toNat_ofNat_of_lt (n := v / 64 % 0x20 + 0xc0) (by omega)
    generalize UInt8.ofNat (v / 64 % 0x20 + 0xc0) = a at ha
    have hjoin : join (a.toNat - 0xc0) b1 = v := by
      simp only [join_eq]
      omega
    refine (utf8Piece_two (by omega) (by omega) (isContinuation_iff.2 (by omega))).trans ?_
    rw [hjoin, hc]
    rfl
  split
  · have ha := toNat_ofNat_of_lt (n := v / 4096 % 0x10 + 0xe0) (by omega)
    generalize UInt8.ofNat (v / 4096 % 0x10 + 0xe0) = a at ha
    have hjoin : join (join (a.toNat - 0xe0) b2) b1 = v := by
      simp only [join_eq]
      omega
    refine (utf8Piece_three (by omega) (by omega) (isSecond_iff.2 (by omega))
      (isContinuation_iff.2 (by omega))).trans ?_
    rw [hjoin, hc]
    rfl
  · have ha := toNat_ofNat_of_lt (n := v / 262144 % 0x08 + 0xf0) (by omega)
    generalize UInt8.ofNat (v / 262144 % 0x08 + 0xf0) = a at ha
    have hjoin : join (join (join (a.toNat - 0xf0) b3) b2) b1 = v := by
      simp only [join_eq]
      omega
    refine (utf8Piece_four (by omega) (by omega) (isSecond_iff.2 (by omega))
      (isContinuation_iff.2 (by omega)) (isContinuation_iff.2 (by omega))).trans ?_
    rw [hjoin, hc]
    rfl

/-- A character is read back from its bytes, whatever follows them. -/
theorem piece_encodeChar (h : e.encodeChar? c = some bs) (rest : Bytes) :
    e.piece (bs ++ rest) = .char c bs.length := by
  cases e with
  | utf8 =>
    cases h
    exact utf8Piece_encodeChar c rest
  | latin1 =>
    simp only [encodeChar?, Option.ite_none_right_eq_some, Option.some.injEq] at h
    obtain ⟨hlt, rfl⟩ := h
    have hb : c.toNat.toUInt8.toNat = c.toNat := toNat_ofNat_of_lt hlt
    simp only [List.singleton_append, piece, hb, c.ofNat_toNat, List.length_singleton]
  | ascii =>
    simp only [encodeChar?, Option.ite_none_right_eq_some, Option.some.injEq] at h
    obtain ⟨hlt, rfl⟩ := h
    have hb : c.toNat.toUInt8.toNat = c.toNat := toNat_ofNat_of_lt (by omega)
    simp only [List.singleton_append, piece, UInt8.lt_iff_toNat_lt, hb, c.ofNat_toNat,
      List.length_singleton, UInt8.reduceToNat]
    rw [if_pos hlt]

/-! ## Spellings -/

/-- The bytes fall into one run for each character: a single byte except in UTF-8, and a single
byte for ASCII only except in Latin-1. -/
inductive Spells (e : Encoding) : Text → Bytes → Prop where
  | nil : Spells e [] []
  | cons {c : Char} {b : Bytes} {t : Text} {bs : Bytes} : 1 ≤ b.length →
      (e ≠ .utf8 → b.length = 1) → (e ≠ .latin1 → b.length = 1 → c.toNat < 128) →
      Spells e t bs → Spells e (c :: t) (b ++ bs)

theorem Spells.length_le (h : e.Spells t bs) : t.length ≤ bs.length := by
  induction h with
  | nil => exact Nat.le_refl _
  | cons hb _ _ _ ih =>
    simp only [List.length_cons, List.length_append]
    omega

theorem Spells.length_eq (h : e.Spells t bs) (he : e ≠ .utf8) : t.length = bs.length := by
  induction h with
  | nil => rfl
  | cons _ hone _ _ ih =>
    simp only [List.length_cons, List.length_append, hone he, ih]
    omega

theorem Spells.isAscii (h : e.Spells t bs) (he : e ≠ .latin1) (hlen : t.length = bs.length) :
    t.IsAscii := by
  induction h with
  | nil => exact nofun
  | cons hb _ hascii hrest ih =>
    have := hrest.length_le
    simp only [List.length_cons, List.length_append] at hlen
    intro c hc
    rcases List.mem_cons.1 hc with rfl | hc
    · exact hascii he (by omega)
    · exact ih (by omega) c hc

/-! ## Encoding a text -/

theorem encode?_cons {r : Bytes} : e.encode? (c :: t) = some r ↔
    ∃ b bs, e.encodeChar? c = some b ∧ e.encode? t = some bs ∧ r = b ++ bs := by
  simp only [encode?, List.mapM_cons]
  cases e.encodeChar? c with
  | none => simp
  | some b =>
    cases t.mapM e.encodeChar? with
    | none => simp
    | some bss => simp [eq_comm]

theorem spells_encodeChar (h : e.encodeChar? c = some bs) : 1 ≤ bs.length ∧
    (e ≠ .utf8 → bs.length = 1) ∧ (e ≠ .latin1 → bs.length = 1 → c.toNat < 128) := by
  cases e with
  | utf8 =>
    cases h
    rw [String.length_utf8EncodeChar]
    refine ⟨c.utf8Size_pos, fun h => absurd rfl h, fun _ h => ?_⟩
    have hle := UInt32.le_iff_toNat_le.1 (Char.utf8Size_eq_one_iff.1 h)
    exact Nat.lt_succ_of_le hle
  | latin1 =>
    simp only [encodeChar?, Option.ite_none_right_eq_some, Option.some.injEq] at h
    obtain ⟨hlt, rfl⟩ := h
    simp
  | ascii =>
    simp only [encodeChar?, Option.ite_none_right_eq_some, Option.some.injEq] at h
    obtain ⟨hlt, rfl⟩ := h
    simp [hlt]

theorem spells_of_encode? (h : e.encode? t = some bs) : e.Spells t bs := by
  induction t generalizing bs with
  | nil =>
    cases h
    exact .nil
  | cons c t ih =>
    obtain ⟨b, bs, hb, hbs, rfl⟩ := encode?_cons.1 h
    obtain ⟨h1, h2, h3⟩ := spells_encodeChar hb
    exact .cons h1 h2 h3 (ih hbs)

/-- The encodings agree on ASCII. -/
theorem encode?_of_isAscii (h : t.IsAscii) :
    e.encode? t = some (t.map fun c => c.toNat.toUInt8) := by
  induction t with
  | nil => rfl
  | cons c t ih =>
    have hc : c.toNat < 128 := h c List.mem_cons_self
    have hchar : e.encodeChar? c = some [c.toNat.toUInt8] := by
      cases e with
      | utf8 =>
        have hle : c.val.toNat ≤ 0x7f := Nat.le_of_lt_succ hc
        simp only [encodeChar?, String.utf8EncodeChar, if_pos hle]
        rfl
      | latin1 => exact if_pos (by omega)
      | ascii => exact if_pos hc
    exact encode?_cons.2 ⟨_, _, hchar, ih fun d hd => h d (List.mem_cons_of_mem _ hd), rfl⟩

/-- A text can be encoded if both of its parts can. -/
theorem encode?_append_eq_none {t' : Text} :
    e.encode? (t ++ t') = none ↔ e.encode? t = none ∨ e.encode? t' = none := by
  simp only [encode?, List.mapM_append, Option.map_eq_none_iff]
  cases t.mapM e.encodeChar? with
  | none => simp
  | some bss => cases t'.mapM e.encodeChar? <;> simp

theorem encode?_ne_none_of_isAscii (h : t.IsAscii) : e.encode? t ≠ none := by
  rw [encode?_of_isAscii h]
  exact Option.some_ne_none _

/-! ## Decoding bytes -/

theorem decodeWithin?_encode? (h : e.encode? t = some bs) (hl : bs.length ≤ limit) :
    e.decodeWithin? limit bs = some t := by
  induction t generalizing bs limit with
  | nil =>
    cases h
    cases limit <;> rfl
  | cons c t ih =>
    obtain ⟨b, bs, hb, hbs, rfl⟩ := encode?_cons.1 h
    have hpos := (spells_encodeChar hb).1
    rw [List.length_append] at hl
    obtain ⟨limit, rfl⟩ : ∃ k, limit = k + 1 := ⟨limit - 1, by omega⟩
    have hne : b ++ bs ≠ [] := by
      intro hnil
      rw [(List.append_eq_nil_iff.1 hnil).1] at hpos
      cases hpos
    have hrest : e.decodeWithin? limit bs = some t := ih hbs (by omega)
    rw [decodeWithin?.eq_3 _ _ _ hne, piece_encodeChar hb bs]
    simp only [List.drop_left, hrest, Option.map_some]

/-- Decoding takes back what encoding did. -/
theorem decode?_encode? (h : e.encode? t = some bs) : e.decode? bs = some t :=
  decodeWithin?_encode? h (Nat.le_refl _)

theorem toNat_char (b : UInt8) : (Char.ofNat b.toNat).toNat = b.toNat := by
  have hb := b.toNat_lt
  have hvalid : b.toNat.isValidChar := .inl (by omega)
  rw [Char.ofNat, dif_pos hvalid]
  rfl

theorem utf8Piece_char {used : Nat} (h : utf8Piece bs = .char c used) :
    1 ≤ used ∧ used ≤ bs.length ∧ (used = 1 → c.toNat < 128) := by
  revert h
  fun_cases utf8Piece bs <;> intro h
  case case2 a rest ha =>
    cases h
    exact ⟨Nat.le_refl _, by simp, fun _ => (toNat_char a).symm ▸ UInt8.lt_iff_toNat_lt.1 ha⟩
  all_goals simp only [Piece.char.injEq, reduceCtorEq] at h
  all_goals
    obtain ⟨-, rfl⟩ := h
    exact ⟨by decide, by simp, nofun⟩

theorem spells_piece {used : Nat} (h : e.piece bs = .char c used) :
    1 ≤ used ∧ used ≤ bs.length ∧ (e ≠ .utf8 → used = 1) ∧
      (e ≠ .latin1 → used = 1 → c.toNat < 128) := by
  cases e with
  | utf8 =>
    obtain ⟨h1, h2, h3⟩ := utf8Piece_char h
    exact ⟨h1, h2, fun h => absurd rfl h, fun _ => h3⟩
  | latin1 =>
    cases bs with
    | nil => cases h
    | cons a rest =>
      cases h
      simp
  | ascii =>
    cases bs with
    | nil => cases h
    | cons a rest =>
      simp only [piece] at h
      split at h
      · rename_i ha
        cases h
        exact ⟨Nat.le_refl _, by simp, fun _ => rfl, fun _ _ =>
          (toNat_char a).symm ▸ UInt8.lt_iff_toNat_lt.1 ha⟩
      · cases h

theorem spells_of_decodeWithin? (h : e.decodeWithin? limit bs = some t) : e.Spells t bs := by
  induction limit generalizing bs t with
  | zero =>
    cases bs with
    | nil =>
      cases h
      exact .nil
    | cons => cases h
  | succ limit ih =>
    cases bs with
    | nil =>
      cases h
      exact .nil
    | cons a rest =>
      rw [decodeWithin?.eq_3 _ _ _ (List.cons_ne_nil a rest)] at h
      split at h
      · rename_i c used hp
        obtain ⟨t, ht, rfl⟩ := Option.map_eq_some_iff.1 h
        obtain ⟨h1, h2, h3, h4⟩ := spells_piece hp
        have hlen : ((a :: rest).take used).length = used := by
          rw [List.length_take]
          omega
        rw [← List.take_append_drop used (a :: rest)]
        exact .cons (by omega) (by rwa [hlen]) (by rwa [hlen]) (ih ht)
      · cases h

/-- What one encoding writes another reads as the same text only if the text is ASCII. -/
theorem decode?_of_encode? {d : Encoding} (h : e.encode? t = some bs) :
    d.decode? bs = some t ↔ d = e ∨ t.IsAscii := by
  constructor
  · intro hd
    have he := spells_of_encode? h
    have hd := spells_of_decodeWithin? hd
    by_cases hde : d = e
    · exact .inl hde
    -- One of the two is not UTF-8 and one is not Latin-1.
    have hlen : t.length = bs.length := by
      by_cases hu : d = .utf8
      · exact he.length_eq fun h => hde (hu.trans h.symm)
      · exact hd.length_eq hu
    right
    by_cases hl : d = .latin1
    · exact he.isAscii (fun h => hde (hl.trans h.symm)) hlen
    · exact hd.isAscii hl hlen
  · rintro (rfl | ht)
    · exact decode?_encode? h
    · rw [encode?_of_isAscii ht] at h
      cases h
      exact decode?_encode? (encode?_of_isAscii ht)

end Encoding

end ReplSend
