import ReplSend.Proofs.Text.Encoding

/-!
# Decoding with replacement

What text some bytes stand for when all that is not valid is replaced is a matter of the characters
and their bytes alone (`Decodes`): a character is read where one begins, and otherwise one U+FFFD
stands for the longest run of bytes that begin a character (`Begins`), or for a single byte that
begins none. This determines the text (`Decodes.unique`). Decoding finds it, all at once
(`decodes_decode`) or up to what is held back (`decodes_of_decodeSome`).
-/

namespace ReplSend.Encoding

variable {e : Encoding} {c : Char} {t u : Text} {b bs rest held : Bytes} {n limit used : Nat}

/-- The bytes are the first ones of a character, or all of them. -/
def Begins (e : Encoding) (bs : Bytes) : Prop := ∃ c b, e.encodeChar? c = some b ∧ bs <+: b

theorem Begins.of_isPrefix (h : e.Begins b) (hp : bs <+: b) : e.Begins bs := by
  obtain ⟨c, d, hd, hb⟩ := h
  exact ⟨c, d, hd, hp.trans hb⟩

/-- No character is at the start of `bs`, and `b` are the bytes there that one replacement stands
for. -/
structure Malformed (e : Encoding) (b bs : Bytes) : Prop where
  isPrefix : b <+: bs
  ne_nil : b ≠ []
  begins : b.length = 1 ∨ e.Begins b
  longest : ∀ d, d <+: bs → b.length < d.length → ¬ e.Begins d
  none : ∀ c d, e.encodeChar? c = some d → ¬ d <+: bs

/-- The bytes decode to the text, with replacements. -/
inductive Decodes (e : Encoding) : Bytes → Text → Prop where
  | nil : Decodes e [] []
  | char {c : Char} {b bs : Bytes} {t : Text} : e.encodeChar? c = some b → Decodes e bs t →
      Decodes e (b ++ bs) (c :: t)
  | invalid {b bs : Bytes} {t : Text} : Malformed e b (b ++ bs) → Decodes e bs t →
      Decodes e (b ++ bs) (replacement :: t)

theorem Malformed.length_le {d : Bytes} (h : e.Malformed b bs) (h' : e.Malformed d bs) :
    b.length ≤ d.length := by
  rcases h.begins with hone | hb
  · have := List.length_pos_iff.2 h'.ne_nil
    omega
  · exact Nat.le_of_not_lt fun hlt => h'.longest b h.isPrefix hlt hb

theorem Decodes.unique (h : e.Decodes bs t) (h' : e.Decodes bs u) : t = u := by
  generalize hbs : bs = ds at h'
  induction h generalizing u ds with
  | nil =>
    cases h' with
    | nil => rfl
    | char hc =>
      have := (spells_encodeChar hc).1
      simp [(List.append_eq_nil_iff.1 hbs.symm).1] at this
    | invalid hb => exact absurd (List.append_eq_nil_iff.1 hbs.symm).1 hb.ne_nil
  | @char c b bs t hc _ ih =>
    cases h' with
    | nil =>
      have := (spells_encodeChar hc).1
      simp [(List.append_eq_nil_iff.1 hbs).1] at this
    | @char c' b' bs' t' hc' hrest =>
      have hpiece := piece_encodeChar hc bs
      rw [hbs, piece_encodeChar hc' bs', Piece.char.injEq] at hpiece
      obtain ⟨rfl, hlength⟩ := hpiece
      rw [ih _ (List.append_inj hbs hlength.symm).2 hrest]
    | invalid hb => exact absurd ⟨bs, hbs⟩ (hb.none c b hc)
  | @invalid b bs t hb _ ih =>
    cases h' with
    | nil => exact absurd (List.append_eq_nil_iff.1 hbs).1 hb.ne_nil
    | @char c' b' bs' t' hc' _ => exact absurd ⟨bs', hbs.symm⟩ (hb.none c' b' hc')
    | @invalid b' bs' t' hb' hrest =>
      have hlength : b.length = b'.length :=
        Nat.le_antisymm (hb.length_le (hbs ▸ hb')) ((hbs ▸ hb').length_le hb)
      rw [ih _ (List.append_inj hbs hlength).2 hrest]

/-! ## The bytes of a character -/

theorem toNat_val_ofNat (h : n.isValidChar) : (Char.ofNat n).val.toNat = n := by
  rw [Char.ofNat, dif_pos h]
  rfl

theorem ofNat_eq {b : UInt8} (h : n = b.toNat) : UInt8.ofNat n = b := by
  rw [h, UInt8.ofNat_toNat]

theorem encodeChar_one {a : UInt8} (h : a.toNat < 0x80) :
    String.utf8EncodeChar (Char.ofNat a.toNat) = [a] := by
  have hv := toNat_val_ofNat (n := a.toNat) (.inl (by omega))
  simp only [String.utf8EncodeChar, hv]
  rw [if_pos (by omega), ofNat_eq rfl]

theorem encodeChar_two {a b : UInt8} (h1 : 0xc2 ≤ a.toNat) (h2 : a.toNat < 0xe0)
    (hb : isContinuation b = true) :
    String.utf8EncodeChar (Char.ofNat (join (a.toNat - 0xc0) b)) = [a, b] := by
  rw [isContinuation_iff] at hb
  rw [join_eq]
  have hv := toNat_val_ofNat (n := (a.toNat - 0xc0) * 64 + (b.toNat - 0x80)) (.inl (by omega))
  simp only [String.utf8EncodeChar, hv]
  rw [if_neg (by omega), if_pos (by omega), ofNat_eq (b := a) (by omega),
    ofNat_eq (b := b) (by omega)]

theorem encodeChar_three {a b c : UInt8} (h1 : 0xe0 ≤ a.toNat) (h2 : a.toNat < 0xf0)
    (hb : isSecond a b = true) (hc : isContinuation c = true) :
    String.utf8EncodeChar (Char.ofNat (join (join (a.toNat - 0xe0) b) c)) = [a, b, c] := by
  rw [isContinuation_iff] at hc
  rw [isSecond_iff] at hb
  rw [join_eq, join_eq]
  have hv := toNat_val_ofNat
    (n := ((a.toNat - 0xe0) * 64 + (b.toNat - 0x80)) * 64 + (c.toNat - 0x80))
    (by unfold Nat.isValidChar; omega)
  simp only [String.utf8EncodeChar, hv]
  rw [if_neg (by omega), if_neg (by omega), if_pos (by omega), ofNat_eq (b := a) (by omega),
    ofNat_eq (b := b) (by omega), ofNat_eq (b := c) (by omega)]

theorem encodeChar_four {a b c d : UInt8} (h1 : 0xf0 ≤ a.toNat) (h2 : a.toNat < 0xf5)
    (hb : isSecond a b = true) (hc : isContinuation c = true) (hd : isContinuation d = true) :
    String.utf8EncodeChar (Char.ofNat (join (join (join (a.toNat - 0xf0) b) c) d)) =
      [a, b, c, d] := by
  rw [isContinuation_iff] at hc hd
  rw [isSecond_iff] at hb
  rw [join_eq, join_eq, join_eq]
  have hv := toNat_val_ofNat (n := (((a.toNat - 0xf0) * 64 + (b.toNat - 0x80)) * 64 +
    (c.toNat - 0x80)) * 64 + (d.toNat - 0x80)) (.inr (by omega))
  simp only [String.utf8EncodeChar, hv]
  rw [if_neg (by omega), if_neg (by omega), if_neg (by omega), ofNat_eq (b := a) (by omega),
    ofNat_eq (b := b) (by omega), ofNat_eq (b := c) (by omega), ofNat_eq (b := d) (by omega)]

/-! ## The beginnings of characters -/

theorem isContinuation_least : isContinuation 0x80 = true := by decide

theorem exists_isSecond (a : UInt8) : ∃ b, isSecond a b = true := by
  by_cases he : a.toNat = 0xe0
  · refine ⟨0xa0, isSecond_iff.2 ?_⟩
    simp only [UInt8.reduceToNat]
    omega
  by_cases hf : a.toNat = 0xf0
  · refine ⟨0x90, isSecond_iff.2 ?_⟩
    simp only [UInt8.reduceToNat]
    omega
  · refine ⟨0x80, isSecond_iff.2 ?_⟩
    simp only [UInt8.reduceToNat]
    omega

theorem begins_three {a b c : UInt8} (h1 : 0xf0 ≤ a.toNat) (h2 : a.toNat < 0xf5)
    (hb : isSecond a b = true) (hc : isContinuation c = true) : utf8.Begins [a, b, c] :=
  ⟨_, _, congrArg some (encodeChar_four h1 h2 hb hc isContinuation_least), [0x80], rfl⟩

theorem begins_two {a b : UInt8} (h1 : 0xe0 ≤ a.toNat) (h2 : a.toNat < 0xf5)
    (hb : isSecond a b = true) : utf8.Begins [a, b] := by
  rcases Nat.lt_or_ge a.toNat 0xf0 with hlt | hge
  · exact ⟨_, _, congrArg some (encodeChar_three h1 hlt hb isContinuation_least), [0x80], rfl⟩
  · exact (begins_three hge h2 hb isContinuation_least).of_isPrefix ⟨[0x80], rfl⟩

theorem begins_one {a : UInt8} (h1 : 0xc2 ≤ a.toNat) (h2 : a.toNat < 0xf5) :
    utf8.Begins [a] := by
  rcases Nat.lt_or_ge a.toNat 0xe0 with hlt | hge
  · exact ⟨_, _, congrArg some (encodeChar_two h1 hlt isContinuation_least), [0x80], rfl⟩
  · obtain ⟨b, hb⟩ := exists_isSecond a
    exact (begins_two hge h2 hb).of_isPrefix ⟨[b], rfl⟩

/-! ## One piece of UTF-8 -/

theorem utf8Piece_eq_char (h : utf8Piece bs = .char c used) :
    String.utf8EncodeChar c = bs.take used := by
  revert h
  fun_cases utf8Piece bs <;> intro h
  all_goals simp only [Piece.char.injEq, reduceCtorEq] at h
  all_goals
    obtain ⟨rfl, rfl⟩ := h
    simp only [UInt8.lt_iff_toNat_lt, Nat.not_lt, UInt8.reduceToNat, Bool.not_eq_true',
      Bool.not_eq_false] at *
  case case2 ha => exact encodeChar_one ha
  case case5 hb _ hlow hhigh => exact encodeChar_two hlow hhigh hb
  case case10 hc _ _ hlow hhigh hb => exact encodeChar_three hlow hhigh hb hc
  case case17 hd _ _ _ hlow hhigh hb hc => exact encodeChar_four hlow hhigh hb hc hd

theorem utf8Piece_eq_incomplete (h : utf8Piece bs = .incomplete) :
    bs = [] ∨ utf8.Begins bs := by
  revert h
  fun_cases utf8Piece bs <;> intro h
  all_goals simp only [reduceCtorEq] at h
  case case1 => exact .inl rfl
  all_goals
    right
    simp only [UInt8.lt_iff_toNat_lt, Nat.not_lt, UInt8.reduceToNat, Bool.not_eq_true',
      Bool.not_eq_false] at *
  case case4 => exact begins_one (by omega) (by omega)
  case case7 => exact begins_one (by omega) (by omega)
  case case9 hb => exact begins_two (by omega) (by omega) hb
  case case12 => exact begins_one (by omega) (by omega)
  case case14 hb => exact begins_two (by omega) (by omega) hb
  case case16 hlow hhigh hb hc => exact begins_three hlow hhigh hb hc

theorem utf8Piece_eq_invalid (h : utf8Piece bs = .invalid used) :
    1 ≤ used ∧ used ≤ bs.length ∧ (used = 1 ∨ utf8.Begins (bs.take used)) := by
  revert h
  fun_cases utf8Piece bs <;> intro h
  all_goals simp only [Piece.invalid.injEq, reduceCtorEq] at h
  all_goals
    subst h
    refine ⟨by decide, by simp, ?_⟩
  case case11 | case15 =>
    simp only [UInt8.lt_iff_toNat_lt, Nat.not_lt, UInt8.reduceToNat, Bool.not_eq_true',
      Bool.not_eq_false] at *
    exact .inr (begins_two (by omega) (by omega) (by assumption))
  case case18 =>
    simp only [UInt8.lt_iff_toNat_lt, Nat.not_lt, UInt8.reduceToNat, Bool.not_eq_true',
      Bool.not_eq_false] at *
    rename_i hlow hhigh hb hc
    exact .inr (begins_three hlow hhigh hb hc)
  all_goals exact .inl rfl

/-- What is invalid is so by the next byte, if not by itself. -/
theorem utf8Piece_of_invalid (h : utf8Piece bs = .invalid used) {ds : Bytes}
    (hp : bs.take (used + 1) <+: ds) : utf8Piece ds = .invalid used := by
  revert h hp
  fun_cases utf8Piece bs <;> intro h
  all_goals simp only [Piece.invalid.injEq, reduceCtorEq] at h
  all_goals
    subst h
    rintro ⟨x, rfl⟩
    simp [utf8Piece, *]

/-! ## One piece -/

theorem piece_eq_char (h : e.piece bs = .char c used) :
    e.encodeChar? c = some (bs.take used) := by
  cases e with
  | utf8 => exact congrArg some (utf8Piece_eq_char h)
  | latin1 =>
    cases bs with
    | nil => cases h
    | cons a bs =>
      cases h
      have := a.toNat_lt
      simp [encodeChar?, toNat_char, this]
  | ascii =>
    cases bs with
    | nil => cases h
    | cons a bs =>
      simp only [piece] at h
      split at h
      · rename_i ha
        cases h
        have hlt : a.toNat < 128 := UInt8.lt_iff_toNat_lt.1 ha
        simp [encodeChar?, toNat_char, hlt]
      · cases h

theorem piece_eq_incomplete (h : e.piece bs = .incomplete) : bs = [] ∨ e.Begins bs := by
  cases e with
  | utf8 => exact utf8Piece_eq_incomplete h
  | latin1 =>
    cases bs with
    | nil => exact .inl rfl
    | cons => cases h
  | ascii =>
    cases bs with
    | nil => exact .inl rfl
    | cons a bs =>
      simp only [piece] at h
      split at h <;> cases h

theorem piece_eq_invalid (h : e.piece bs = .invalid used) :
    1 ≤ used ∧ used ≤ bs.length ∧ (used = 1 ∨ e.Begins (bs.take used)) ∧
      ∀ ds, bs.take (used + 1) <+: ds → e.piece ds = .invalid used := by
  cases e with
  | utf8 =>
    obtain ⟨h1, h2, h3⟩ := utf8Piece_eq_invalid h
    exact ⟨h1, h2, h3, fun ds hp => utf8Piece_of_invalid h hp⟩
  | latin1 =>
    cases bs with
    | nil => cases h
    | cons => cases h
  | ascii =>
    cases bs with
    | nil => cases h
    | cons a bs =>
      simp only [piece] at h
      split at h
      · cases h
      · rename_i ha
        cases h
        refine ⟨by decide, by simp, .inl rfl, ?_⟩
        rintro ds ⟨x, rfl⟩
        exact if_neg ha

/-- What is found invalid at the start of some bytes is replaced by one character, whatever
follows. -/
theorem malformed_of_piece (h : e.piece bs = .invalid used) (rest : Bytes) :
    e.Malformed (bs.take used) (bs ++ rest) := by
  obtain ⟨hpos, hle, hbegins, hstable⟩ := piece_eq_invalid h
  have hlength : (bs.take used).length = used := by
    rw [List.length_take]
    omega
  have hfollowed : bs.take (used + 1) <+: bs ++ rest :=
    (List.take_prefix _ _).trans (List.prefix_append _ _)
  refine ⟨(List.take_prefix _ _).trans (List.prefix_append _ _), ?_, ?_, ?_, ?_⟩
  · exact List.ne_nil_of_length_pos (by omega)
  · rwa [hlength]
  · rintro d hd hlong ⟨c, b, hb, hp⟩
    -- A character that begins with one byte more would be read here.
    have hseen : bs.take (used + 1) <+: d := by
      refine List.prefix_of_prefix_length_le hfollowed hd ?_
      rw [List.length_take]
      omega
    have hchar := piece_encodeChar hb []
    rw [List.append_nil, hstable b (hseen.trans hp)] at hchar
    cases hchar
  · rintro c d hd ⟨x, hx⟩
    have hchar := piece_encodeChar hd x
    rw [hx, hstable _ hfollowed] at hchar
    cases hchar

theorem malformed_of_incomplete (h : e.piece bs = .incomplete) (hbs : bs ≠ []) :
    e.Malformed bs bs := by
  refine ⟨List.prefix_rfl, hbs, .inr ((piece_eq_incomplete h).resolve_left hbs), ?_, ?_⟩
  · intro d hd hlong
    have := hd.length_le
    omega
  · rintro c d hd ⟨x, rfl⟩
    rw [piece_encodeChar hd x] at h
    cases h

/-! ## Decoding -/

/-- Nothing is held back of the last bytes. -/
theorem held_of_last {last : Bool} (hlast : last = true) (hl : bs.length ≤ limit) :
    (e.decodeWithin last limit bs).2 = [] := by
  fun_induction decodeWithin e last limit bs with
  | case1 bs => exact List.eq_nil_of_length_eq_zero (Nat.le_zero.1 hl)
  | case2 => rfl
  | case3 limit bs c used hp t held hdrop _ ih =>
    have hpos := (spells_piece hp).1
    have hheld := ih (by rw [List.length_drop]; omega)
    simp only [hp, hdrop] at hheld ⊢
    exact hheld
  | case4 limit bs used hp hsurrogate =>
    rw [hlast] at hsurrogate
    cases hsurrogate
  | case5 limit bs used hp hsurrogate t held hdrop _ ih =>
    have hpos := (piece_eq_invalid hp).1
    have hheld := ih (by rw [List.length_drop]; omega)
    simp only [hp, if_neg hsurrogate, hdrop] at hheld ⊢
    exact hheld
  | case6 limit bs hp => simp only [hp, if_pos hlast]
  | case7 limit bs hp hnot => exact absurd hlast hnot

/-- What is decoded and what is held back stand for the bytes, with others after them if these are
not the last. -/
theorem decodes_of_decodeWithin {last : Bool} (h : e.decodeWithin last limit bs = (t, held))
    (hl : bs.length ≤ limit) (hrest : last = true → rest = []) (hu : e.Decodes (held ++ rest) u) :
    e.Decodes (bs ++ rest) (t ++ u) := by
  fun_induction decodeWithin e last limit bs generalizing t held with
  | case1 bs =>
    obtain ⟨rfl, rfl⟩ := Prod.mk.inj h
    exact hu
  | case2 =>
    obtain ⟨rfl, rfl⟩ := Prod.mk.inj h
    exact hu
  | case3 limit bs c used hp t' held' hdrop _ ih =>
    simp only [hp, hdrop] at h
    obtain ⟨rfl, rfl⟩ := Prod.mk.inj h
    have hpos := (spells_piece hp).1
    have hread := Decodes.char (piece_eq_char hp) (ih hdrop (by rw [List.length_drop]; omega) hu)
    rwa [← List.append_assoc, List.take_append_drop] at hread
  | case4 limit bs used hp hsurrogate =>
    simp only [hp, if_pos hsurrogate] at h
    obtain ⟨rfl, rfl⟩ := Prod.mk.inj h
    exact hu
  | case5 limit bs used hp hsurrogate t' held' hdrop _ ih =>
    simp only [hp, if_neg hsurrogate, hdrop] at h
    obtain ⟨rfl, rfl⟩ := Prod.mk.inj h
    have hpos := (piece_eq_invalid hp).1
    have hbad := malformed_of_piece hp rest
    have hsplit : bs ++ rest = bs.take used ++ (bs.drop used ++ rest) := by
      rw [← List.append_assoc, List.take_append_drop]
    rw [hsplit] at hbad ⊢
    exact .invalid hbad (ih hdrop (by rw [List.length_drop]; omega) hu)
  | case6 limit bs hp hlast hbs =>
    simp only [hp, if_pos hlast] at h
    obtain ⟨rfl, rfl⟩ := Prod.mk.inj h
    obtain rfl := hrest hlast
    exact .invalid (by rw [List.append_nil]; exact malformed_of_incomplete hp hbs) hu
  | case7 limit bs hp hlast =>
    simp only [hp, if_neg hlast] at h
    obtain ⟨rfl, rfl⟩ := Prod.mk.inj h
    exact hu

/-- What a piece decodes to and what is held back of it stand for the bytes so far. -/
theorem decodes_of_decodeSome {next : Bytes}
    (hu : e.Decodes ((e.decodeSome held next false).2 ++ rest) u) :
    e.Decodes (held ++ next ++ rest) ((e.decodeSome held next false).1 ++ u) :=
  decodes_of_decodeWithin (rfl : e.decodeWithin false _ _ = _) (Nat.le_of_eq List.length_append)
    nofun hu

theorem decodes_decodeSome (e : Encoding) (held next : Bytes) :
    e.Decodes (held ++ next) (e.decodeSome held next true).1 := by
  have hlimit : (held ++ next).length ≤ held.length + next.length :=
    Nat.le_of_eq List.length_append
  have hnone : (e.decodeSome held next true).2 = [] := held_of_last rfl hlimit
  have hend : e.Decodes ((e.decodeSome held next true).2 ++ []) [] := by
    rw [hnone]
    exact .nil
  have hread := decodes_of_decodeWithin (rfl : e.decodeWithin true _ _ = _) hlimit
    (fun _ => rfl) hend
  rwa [List.append_nil, List.append_nil] at hread

/-- Decoding all at once finds the text. -/
theorem decodes_decode (e : Encoding) (bs : Bytes) : e.Decodes bs (e.decode bs) :=
  decodes_decodeSome e [] bs

/-- Two halves of a truncated surrogate are replaced one by one. -/
example : utf8.decode [0xed, 0xa0] = [replacement, replacement] := by decide +kernel

end ReplSend.Encoding
