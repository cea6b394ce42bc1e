import ReplSend.Pattern.Parse

/-!
# Patterns with more text behind them

Each part of a pattern is read from the start of a text, and the same way when a closing parenthesis
and more text follow it (`Stable`): a rule for each way in which readers are put together, and then
the readers one by one.
-/

namespace ReplSend.Pattern

variable {α : Type} {named : Text → Option Char}

/-- What is read from the start of a text, and where the reading stops, stay the same when the text
goes on with a closing parenthesis. -/
structure Stable (read : Text → Option (α × Text)) : Prop where
  append : ∀ {t a rest}, read t = some (a, rest) →
    ∀ v, read (t ++ ')' :: v) = some (a, rest ++ ')' :: v)
  length_le : ∀ {t a rest}, read t = some (a, rest) → rest.length ≤ t.length

section

variable {β : Type} {mark : Char} {f g : Text → Option (α × Text)}

theorem stable_some (a : α) : Stable fun t => some (a, t) where
  append := by
    rintro t _ _ ⟨⟩ v
    rfl
  length_le := by
    rintro t _ _ ⟨⟩
    exact Nat.le_refl _

theorem stable_none : Stable fun _ => (none : Option (α × Text)) := ⟨nofun, nofun⟩

theorem Stable.ite {c : Prop} [Decidable c] (hf : Stable f) (hg : Stable g) :
    Stable fun t => if c then f t else g t := by
  by_cases hc : c
  · simpa only [hc, if_true] using hf
  · simpa only [hc, if_false] using hg

theorem Stable.bind {g : α → Text → Option (β × Text)} (hf : Stable f) (hg : ∀ a, Stable (g a)) :
    Stable fun t => (f t).bind fun (a, rest) => g a rest where
  append := by
    intro t b rest h v
    obtain ⟨⟨a, rest'⟩, ha, hb⟩ := Option.bind_eq_some_iff.1 h
    exact Option.bind_eq_some_iff.2 ⟨_, hf.append ha v, (hg a).append hb v⟩
  length_le := by
    intro t b rest h
    obtain ⟨⟨a, rest'⟩, ha, hb⟩ := Option.bind_eq_some_iff.1 h
    exact Nat.le_trans ((hg a).length_le hb) (hf.length_le ha)

theorem Stable.map (hf : Stable f) (k : α → β) :
    Stable fun t => (f t).map fun (a, rest) => (k a, rest) where
  append := by
    intro t b rest h v
    obtain ⟨⟨a, rest'⟩, ha, hb⟩ := Option.map_eq_some_iff.1 h
    cases hb
    exact Option.map_eq_some_iff.2 ⟨_, hf.append ha v, rfl⟩
  length_le := by
    intro t b rest h
    obtain ⟨⟨a, rest'⟩, ha, hb⟩ := Option.map_eq_some_iff.1 h
    cases hb
    exact hf.length_le ha

/-- Readers that look at the first character. -/
theorem Stable.of_cons (hnil : f [] = none) (hcons : ∀ c, Stable fun t => f (c :: t)) :
    Stable f where
  append := by
    intro t a rest h v
    cases t with
    | nil =>
      rw [hnil] at h
      cases h
    | cons c t => exact (hcons c).append h v
  length_le := by
    intro t a rest h
    cases t with
    | nil =>
      rw [hnil] at h
      cases h
    | cons c t => exact Nat.le_succ_of_le ((hcons c).length_le h)

/-- Readers that look whether a mark comes first. -/
theorem Stable.of_mark (hclose : ')' ≠ mark) (hmark : Stable fun t => f (mark :: t))
    (hg : Stable g) (hfg : ∀ t : Text, t.head? ≠ some mark → f t = g t) : Stable f where
  append := by
    intro t a rest h v
    by_cases ht : t.head? = some mark
    · obtain ⟨u, rfl⟩ := List.head?_eq_some_iff.1 ht
      exact hmark.append h v
    · have hv : (t ++ ')' :: v).head? ≠ some mark := by
        cases t with
        | nil => simpa using hclose
        | cons c t => exact ht
      rw [hfg t ht] at h
      rw [hfg _ hv]
      exact hg.append h v
  length_le := by
    intro t a rest h
    by_cases ht : t.head? = some mark
    · obtain ⟨u, rfl⟩ := List.head?_eq_some_iff.1 ht
      exact Nat.le_succ_of_le (hmark.length_le h)
    · rw [hfg t ht] at h
      exact hg.length_le h

theorem length_lt_of_cons (hnil : f [] = none) (hcons : ∀ c, Stable fun t => f (c :: t)) {t : Text}
    {a : α} {rest : Text} (h : f t = some (a, rest)) : rest.length < t.length := by
  cases t with
  | nil =>
    rw [hnil] at h
    cases h
  | cons c t => exact Nat.lt_succ_of_le ((hcons c).length_le h)

end

/-! ## Runs of characters -/

theorem isDigit_close : Char.isDigit ')' = false := by decide

theorem takeWhile_close {p : Char → Bool} (hp : p ')' = false) (t v : Text) :
    (t ++ ')' :: v).takeWhile p = t.takeWhile p := by
  induction t with
  | nil => simp [hp]
  | cons c t ih => simp [List.takeWhile_cons, ih]

theorem dropWhile_close {p : Char → Bool} (hp : p ')' = false) (t v : Text) :
    (t ++ ')' :: v).dropWhile p = t.dropWhile p ++ ')' :: v := by
  induction t with
  | nil => simp [hp]
  | cons c t ih =>
    simp only [List.cons_append, List.dropWhile_cons, ih]
    split <;> rfl

/-- What hangs on a run of characters and on what follows it. -/
theorem stable_takeWhile {p : Char → Bool} (hp : p ')' = false)
    {g : Text → Text → Option (α × Text)} (hg : ∀ run, Stable (g run)) :
    Stable fun t => g (t.takeWhile p) (t.dropWhile p) where
  append := by
    intro t a rest h v
    rw [takeWhile_close hp, dropWhile_close hp]
    exact (hg _).append h v
  length_le := by
    intro t a rest h
    exact Nat.le_trans ((hg _).length_le h) (List.dropWhile_sublist p).length_le

theorem run_close {p : Char → Bool} (hp : p ')' = false) (n : Nat) (t v : Text) :
    run n p (t ++ ')' :: v) = run n p t := by
  rw [run, run, ← List.take_takeWhile, ← List.take_takeWhile, takeWhile_close hp]

theorem drop_run_append {p : Char → Bool} (n : Nat) (t v : Text) :
    (t ++ v).drop (run n p t).length = t.drop (run n p t).length ++ v := by
  refine List.drop_append_of_le_length ?_
  have h1 := (List.takeWhile_sublist p (l := t.take n)).length_le
  have h2 := List.length_take_le' n t
  exact Nat.le_trans h1 h2

/-- What hangs on the next few characters of a kind is read the same way whatever follows. -/
theorem stable_run {p : Char → Bool} (hp : p ')' = false) (n : Nat)
    {read : Text → Option (α × Text)} (g : Text → Option α)
    (hread : ∀ t, read t = (g (run n p t)).map fun a => (a, t.drop (run n p t).length)) :
    Stable read where
  append := by
    intro t a rest h v
    rw [hread, Option.map_eq_some_iff] at h
    obtain ⟨a', ha, hrest⟩ := h
    cases hrest
    rw [hread, run_close hp, drop_run_append, ha]
    rfl
  length_le := by
    intro t a rest h
    rw [hread, Option.map_eq_some_iff] at h
    obtain ⟨a', -, hrest⟩ := h
    cases hrest
    rw [List.length_drop]
    exact Nat.sub_le _ _

section

variable {mark c d : Char} {t a rest : Text}

theorem until?_mark : until? mark (mark :: t) = some ([], t) := by
  rw [until?.eq_def]
  simp only [if_true]

theorem until?_escape (h : '\\' ≠ mark) : until? mark ('\\' :: d :: t) =
    (until? mark t).map fun (u, rest) => ('\\' :: d :: u, rest) := by
  rw [until?, if_neg h, if_pos rfl]

theorem until?_of_ne (h : c ≠ mark) (hc : c ≠ '\\') : until? mark (c :: t) =
    (until? mark t).map fun (u, rest) => (c :: u, rest) := by
  rw [until?.eq_def]
  simp only [if_neg h, if_neg hc]

/-- A closing mark is found where it is, whatever follows. -/
theorem until?_append (h : until? mark t = some (a, rest)) (v : Text) :
    until? mark (t ++ v) = some (a, rest ++ v) := by
  fun_induction until? mark t generalizing a rest with
  | case1 => cases h
  | case2 t =>
    cases h
    exact until?_mark
  | case3 => cases h
  | case4 d t hmark ih =>
    obtain ⟨⟨a', rest'⟩, ha, hb⟩ := Option.map_eq_some_iff.1 h
    cases hb
    rw [List.cons_append, List.cons_append, until?_escape hmark, ih ha]
    rfl
  | case5 c t hmark hescape ih =>
    obtain ⟨⟨a', rest'⟩, ha, hb⟩ := Option.map_eq_some_iff.1 h
    cases hb
    rw [List.cons_append, until?_of_ne hmark hescape, ih ha]
    rfl

theorem length_of_until? (h : until? mark t = some (a, rest)) : rest.length < t.length := by
  fun_induction until? mark t generalizing a rest with
  | case1 => cases h
  | case2 t =>
    cases h
    exact Nat.lt_succ_self _
  | case3 => cases h
  | case4 d t hmark ih =>
    obtain ⟨⟨a', rest'⟩, ha, hb⟩ := Option.map_eq_some_iff.1 h
    cases hb
    exact Nat.lt_succ_of_lt (Nat.lt_succ_of_lt (ih ha))
  | case5 c t hmark hescape ih =>
    obtain ⟨⟨a', rest'⟩, ha, hb⟩ := Option.map_eq_some_iff.1 h
    cases hb
    exact Nat.lt_succ_of_lt (ih ha)

theorem skipLine?_newline : skipLine? ('\n' :: t) = some t := by
  rw [skipLine?.eq_def]
  simp only [if_true]

theorem skipLine?_escape : skipLine? ('\\' :: d :: t) = skipLine? t := by
  rw [skipLine?, if_neg (by decide), if_pos rfl]

theorem skipLine?_of_ne (h : c ≠ '\n') (hc : c ≠ '\\') : skipLine? (c :: t) = skipLine? t := by
  rw [skipLine?.eq_def]
  simp only [if_neg h, if_neg hc]

/-- A line that ends within the text ends there whatever follows. -/
theorem skipLine?_append (h : skipLine? t = some rest) (hne : rest ≠ []) (v : Text) :
    skipLine? (t ++ v) = some (rest ++ v) := by
  fun_induction skipLine? t with
  | case1 =>
    cases h
    exact absurd rfl hne
  | case2 t =>
    cases h
    exact skipLine?_newline
  | case3 => cases h
  | case4 d t hline ih => exact skipLine?_escape.trans (ih h)
  | case5 c t hline hescape ih => exact (skipLine?_of_ne hline hescape).trans (ih h)

theorem length_of_skipLine? (h : skipLine? t = some rest) : rest.length ≤ t.length := by
  fun_induction skipLine? t with
  | case1 =>
    cases h
    exact Nat.le_refl _
  | case2 t =>
    cases h
    exact Nat.le_succ _
  | case3 => cases h
  | case4 d t hline ih => exact Nat.le_succ_of_le (Nat.le_succ_of_le (ih h))
  | case5 c t hline hescape ih => exact Nat.le_succ_of_le (ih h)

end

theorem stable_until? (mark : Char) : Stable (until? mark) :=
  ⟨fun h _ => until?_append h _, fun h => Nat.le_of_lt (length_of_until? h)⟩

/-! ## Escapes -/

theorem length_of_mapM {β : Type} {f : α → Option β} {l : List α} {bs : List β}
    (h : l.mapM f = some bs) : bs.length = l.length := by
  induction l generalizing bs with
  | nil =>
    cases h
    rfl
  | cons a l ih =>
    rw [List.mapM_cons] at h
    obtain ⟨b, -, h⟩ := Option.bind_eq_some_iff.1 h
    obtain ⟨bs', hbs, h⟩ := Option.bind_eq_some_iff.1 h
    cases h
    rw [List.length_cons, List.length_cons, ih hbs]

theorem hexadecimal?_eq_some {n code : Nat} {t rest : Text} :
    hexadecimal? n t = some (code, rest) ↔ ∃ digits, (t.take n).mapM hexValue? = some digits ∧
      digits.length = n ∧ digits.foldl (fun v d => 16 * v + d) 0 = code ∧ code < 0x110000 ∧
      t.drop n = rest := by
  unfold hexadecimal?
  refine Option.bind_eq_some_iff.trans (exists_congr fun digits => and_congr_right fun _ => ?_)
  constructor
  · intro h
    simp only at h
    split at h
    · split at h
      · cases h
        exact ⟨‹_›, rfl, ‹_›, rfl⟩
      · cases h
    · cases h
  · rintro ⟨rfl, rfl, hcode, rfl⟩
    simp [hcode]

theorem stable_hexadecimal? (n : Nat) : Stable (hexadecimal? n) where
  append := by
    intro t code rest h v
    obtain ⟨digits, hdigits, hlength, hcode, hlt, rfl⟩ := hexadecimal?_eq_some.1 h
    have hlong : n ≤ t.length := by
      have := length_of_mapM hdigits
      rw [List.length_take] at this
      omega
    refine hexadecimal?_eq_some.2 ⟨digits, ?_, hlength, hcode, hlt, ?_⟩
    · rw [List.take_append_of_le_length hlong, hdigits]
    · rw [List.drop_append_of_le_length hlong]
  length_le := by
    intro t code rest h
    obtain ⟨-, -, -, -, -, rfl⟩ := hexadecimal?_eq_some.1 h
    rw [List.length_drop]
    exact Nat.sub_le _ _

theorem stable_named? : Stable (named? named) := by
  have hname (name : Text) : Stable fun t => if name.isEmpty then none else
      (named name).map fun c => (c.toNat, t) := by
    cases named name with
    | none => exact stable_none.ite stable_none
    | some c => exact stable_none.ite (stable_some _)
  exact .of_cons rfl fun c => ((stable_until? '}').bind hname).ite stable_none

theorem stable_codeEscape? (c : Char) : Stable (codeEscape? named c) := by
  unfold codeEscape?
  cases control? c with
  | some x => exact stable_some _
  | none =>
    exact (stable_hexadecimal? 2).ite <| (stable_hexadecimal? 4).ite <|
      (stable_hexadecimal? 8).ite <| stable_named?.ite <| stable_none.ite <| stable_none.ite <|
      stable_some _

theorem isOctal_close : isOctal ')' = false := by decide

theorem stable_classEscape? (ascii : Bool) (c : Char) : Stable (classEscape? named ascii c) := by
  unfold classEscape?
  cases category? c with
  | some k => exact stable_some _
  | none =>
    refine (stable_some _).ite <| Stable.ite ?_ ?_
    · refine stable_run isOctal_close 2 (fun more => if octalValue (c :: more) > 0o377 then none
        else some (.range (octalValue (c :: more)) (octalValue (c :: more)))) fun t => ?_
      dsimp only
      split <;> rfl
    · exact (stable_codeEscape? c).map fun n => ClassItem.range n n

theorem stable_digitEscape? (o : Options) (c : Char) : Stable (digitEscape? o c) := by
  have hreference : Stable fun t => some (Escape.reference
      (decimalValue (c :: run 1 Char.isDigit t)), t.drop (run 1 Char.isDigit t).length) :=
    stable_run isDigit_close 1 (fun digits => some (.reference (decimalValue (c :: digits))))
      fun t => rfl
  constructor
  · intro t e rest h v
    unfold digitEscape? at h ⊢
    dsimp only at h ⊢
    rw [run_close isOctal_close]
    split at h
    · rename_i hthree
      have hlength : (run 2 isOctal t).length = 2 := by simp at hthree; omega
      rw [if_pos hthree, ← hlength, drop_run_append, hlength]
      split at h
      · cases h
      · rename_i hcode
        cases h
        rw [if_neg hcode]
    · rename_i hthree
      rw [if_neg hthree]
      exact hreference.append h v
  · intro t e rest h
    unfold digitEscape? at h
    dsimp only at h
    split at h
    · split at h
      · cases h
      · cases h
        rw [List.length_drop]
        exact Nat.sub_le _ _
    · exact hreference.length_le h

theorem stable_escape? (o : Options) (c : Char) : Stable (escape? named o c) := by
  unfold escape?
  cases category? c with
  | some k => exact stable_some _
  | none =>
    refine (stable_some _).ite <| (stable_some _).ite <| (stable_some _).ite <|
      (stable_some _).ite <| Stable.ite ?_ <| (stable_digitEscape? o c).ite ?_
    · exact stable_run isOctal_close 2 (fun more => some (.piece (code o (octalValue more))))
        fun t => rfl
    · exact (stable_codeEscape? c).map fun n => Escape.piece (code o n)

/-! ## Classes -/

theorem stable_classItem?_cons (ascii : Bool) (c : Char) :
    Stable fun t => classItem? named ascii (c :: t) :=
  Stable.ite (.of_cons rfl fun x => stable_classEscape? ascii x) (stable_some _)

theorem stable_classItem? (ascii : Bool) : Stable (classItem? named ascii) :=
  .of_cons rfl (stable_classItem?_cons ascii)

variable {ascii : Bool} {items : List ClassItem} {limit m n : Nat} {rest t : Text}

/-- The class goes on after an item. -/
def classGoesOn? (named : Text → Option Char) (ascii : Bool) (limit : Nat)
    (items : List ClassItem) (item : ClassItem) : Text → Option (List ClassItem × Text)
  | '-' :: ']' :: rest => some ((.range '-'.toNat '-'.toNat :: item :: items).reverse, rest)
  | '-' :: rest => (classItem? named ascii rest).bind fun (item', rest) =>
    (range? item item').bind fun r => classItems? named ascii limit (r :: items) rest
  | rest => classItems? named ascii limit (item :: items) rest

theorem classItems?_succ (h : t.head? = some ']' → items = []) :
    classItems? named ascii (limit + 1) items t =
      (classItem? named ascii t).bind fun (item, rest) =>
        classGoesOn? named ascii limit items item rest := by
  unfold classItems?
  split
  · cases h rfl
  refine Option.bind_congr fun ⟨item, rest⟩ _ => ?_
  dsimp only
  fun_cases classGoesOn? named ascii limit items item rest with
  | case1 => rfl
  | case2 rest hrest =>
    split
    · rename_i h
      exact absurd (List.cons.inj h).2 (hrest _)
    · rename_i h
      obtain ⟨-, rfl⟩ := List.cons.inj h
      rfl
    · rename_i _ h
      exact absurd rfl (h _)
  | case3 rest h1 h2 =>
    split
    · exact absurd rfl (h1 _)
    · exact absurd rfl (h2 _)
    · rfl

theorem stable_classGoesOn? (hitems : ∀ items, Stable (classItems? named ascii n items))
    (items : List ClassItem) (item : ClassItem) :
    Stable (classGoesOn? named ascii n items item) := by
  have hclassItem : Stable (classItem? named ascii) := stable_classItem? ascii
  have hitem (item' : ClassItem) : Stable fun t =>
      (range? item item').bind fun r => classItems? named ascii n (r :: items) t := by
    cases range? item item' with
    | none => exact stable_none
    | some r => exact hitems (r :: items)
  have hrange : Stable fun t => classGoesOn? named ascii n items item ('-' :: t) := by
    refine .of_mark (show ')' ≠ ']' by decide) (stable_some _)
      (hclassItem.bind hitem) fun t ht => ?_
    cases t with
    | nil => rfl
    | cons c t => simp [classGoesOn?, show c ≠ ']' by simpa using ht]
  refine .of_mark (show ')' ≠ '-' by decide) hrange (hitems (item :: items)) fun t ht => ?_
  cases t with
  | nil => rfl
  | cons c t => simp [classGoesOn?, show c ≠ '-' by simpa using ht]

theorem stable_classItems? (n : Nat) (items : List ClassItem) :
    Stable (classItems? named ascii n items) := by
  induction n generalizing items with
  | zero => exact stable_none
  | succ n ih =>
    have hnext (items : List ClassItem) : Stable fun t =>
        (classItem? named ascii t).bind fun (item, rest) =>
          classGoesOn? named ascii n items item rest :=
      (stable_classItem? ascii).bind (stable_classGoesOn? ih items)
    cases items with
    | nil =>
      have hfirst : classItems? named ascii (n + 1) [] = fun t => _ :=
        funext fun t => classItems?_succ fun _ => rfl
      rw [hfirst]
      exact hnext []
    | cons item items =>
      exact .of_mark (show ')' ≠ ']' by decide) (stable_some _) (hnext (item :: items))
        fun t ht => classItems?_succ fun h => absurd h ht

theorem length_of_classItem? {item : ClassItem} (h : classItem? named ascii t = some (item, rest)) :
    rest.length < t.length :=
  length_lt_of_cons rfl (stable_classItem?_cons ascii) h

/-- The number of items does not hang on the limit, if it is beyond the length of the text. -/
theorem classItems?_limit (hn : t.length < n) (hm : t.length < m) :
    classItems? named ascii n items t = classItems? named ascii m items t := by
  induction n generalizing m items t with
  | zero => cases hn
  | succ n ih =>
    obtain _ | m := m
    · cases hm
    by_cases hclose : t.head? = some ']' → items = []
    · rw [classItems?_succ hclose, classItems?_succ hclose]
      refine Option.bind_congr fun ⟨item, t'⟩ hitem => ?_
      have hlength := length_of_classItem? hitem
      dsimp only
      fun_cases classGoesOn? named ascii n items item t' with
      | case1 => rfl
      | case2 u hne =>
        simp only [classGoesOn?]
        refine Option.bind_congr fun ⟨item', u'⟩ hitem' => Option.bind_congr fun _ _ => ?_
        have hlength' := length_of_classItem? hitem'
        simp only [List.length_cons] at hlength ⊢
        exact ih (by omega) (by omega)
      | case3 =>
        simp only [classGoesOn?]
        exact ih (by omega) (by omega)
    · obtain ⟨hhead, hne⟩ := Classical.not_imp.1 hclose
      obtain ⟨t, rfl⟩ := List.head?_eq_some_iff.1 hhead
      cases items with
      | nil => exact absurd rfl hne
      | cons item items => rfl

theorem stable_charClass? (o : Options) : Stable (charClass? named o) := by
  have hread : Stable fun t => classItems? named o.ascii (t.length + 1) [] t := by
    refine ⟨fun {t items rest} h v => ?_, fun h => (stable_classItems? _ _).length_le h⟩
    refine (stable_classItems? _ _).append ?_ v
    rw [← h]
    refine classItems?_limit ?_ (Nat.lt_succ_self _)
    rw [List.length_append]
    omega
  have hitems (negated : Bool) :=
    hread.map fun items => (⟨.one ⟨negated, items, o.casing⟩, .plain⟩ : Piece)
  refine .of_mark (show ')' ≠ '^' by decide) (hitems true) (hitems false) fun t ht => ?_
  cases t with
  | nil => rfl
  | cons c t => simp [charClass?, show c ≠ '^' by simpa using ht]

/-! ## Quantifiers -/

theorem bounds?_close (t v : Text) : bounds? (t ++ ')' :: v) =
    (bounds? t).map fun (low, high, after) => (low, high, after ++ ')' :: v) := by
  unfold bounds?
  rw [takeWhile_close isDigit_close, dropWhile_close isDigit_close]
  dsimp only
  cases t.dropWhile Char.isDigit with
  | nil => rfl
  | cons c u =>
    by_cases hcomma : c = ','
    · subst hcomma
      simp only [List.cons_append, takeWhile_close isDigit_close, dropWhile_close isDigit_close]
      cases u.dropWhile Char.isDigit with
      | nil => rfl
      | cons d u => by_cases hd : d = '}' <;> simp [hd]
    · by_cases hbrace : c = '}'
      · subst hbrace
        simp only [List.cons_append]
        split <;> rfl
      · simp [hcomma, hbrace]

/-- The same bounds with more text behind them. -/
def extended (v : Text) : Nat × Option Nat × Text → Nat × Option Nat × Text
  | (least, most, after) => (least, most, after ++ ')' :: v)

theorem braces_close {t : Text} {q : Option (Nat × Option Nat × Text)} (h : braces t = .ok q)
    (v : Text) : braces (t ++ ')' :: v) = .ok (q.map (extended v)) := by
  unfold braces at h ⊢
  rw [bounds?_close]
  cases hb : bounds? t with
  | none =>
    rw [hb] at h
    cases h
    rfl
  | some b =>
    obtain ⟨low, high, after⟩ := b
    rw [hb] at h
    dsimp only [Option.map_some] at h ⊢
    split at h
    · cases h
    -- a closing parenthesis is not a backslash at the end
    have hafter : after ++ ')' :: v ≠ ['\\'] := by cases after <;> simp
    rw [if_neg hafter]
    cases hcounts : counts low high with
    | error f =>
      rw [hcounts] at h
      cases h
    | ok n =>
      rw [hcounts] at h
      cases h
      rfl

theorem quantifier_close {c : Char} {t : Text} {q : Option (Nat × Option Nat × Text)}
    (h : quantifier c t = .ok q) (v : Text) :
    quantifier c (t ++ ')' :: v) = .ok (q.map (extended v)) := by
  unfold quantifier at h ⊢
  iterate 3
    split at h
    · rename_i hc
      cases h
      rw [if_pos hc]
      rfl
    rename_i hc
    rw [if_neg hc]
  split at h
  · rename_i hc
    rw [if_pos hc]
    exact braces_close h v
  · rename_i hc
    cases h
    rw [if_neg hc]
    rfl

theorem greed_close (t v : Text) :
    greed (t ++ ')' :: v) = ((greed t).1, (greed t).2 ++ ')' :: v) := by
  cases t with
  | nil => rfl
  | cons c t =>
    by_cases hlazy : c = '?'
    · subst hlazy
      rfl
    · by_cases hpossessive : c = '+'
      · subst hpossessive
        rfl
      · simp [greed, hlazy, hpossessive]

theorem length_of_bounds? {t low high after : Text} (h : bounds? t = some (low, high, after)) :
    after.length ≤ t.length := by
  have hdrop (u : Text) : (u.dropWhile Char.isDigit).length ≤ u.length :=
    (List.dropWhile_sublist _).length_le
  have ht := hdrop t
  unfold bounds? at h
  dsimp only at h
  split at h
  · rename_i rest hcomma
    have hrest := hdrop rest
    rw [hcomma, List.length_cons] at ht
    split at h
    · rename_i hbrace
      cases h
      rw [hbrace, List.length_cons] at hrest
      omega
    · cases h
  · rename_i rest hbrace
    rw [hbrace, List.length_cons] at ht
    split at h
    · cases h
    · cases h
      omega
  · cases h

theorem length_of_quantifier {c : Char} {t rest : Text} {least : Nat} {most : Option Nat}
    (h : quantifier c t = .ok (some (least, most, rest))) : rest.length ≤ t.length := by
  unfold quantifier at h
  iterate 3
    split at h
    · cases h
      exact Nat.le_refl _
  split at h
  · unfold braces at h
    split at h
    · cases h
    rename_i low high after hbounds
    split at h
    · cases h
    cases hcounts : counts low high with
    | error f =>
      rw [hcounts] at h
      cases h
    | ok n =>
      rw [hcounts] at h
      cases h
      exact length_of_bounds? hbounds
  · cases h

theorem length_of_greed (t : Text) : (greed t).2.length ≤ t.length := by
  fun_cases greed t
  · exact Nat.le_succ _
  · exact Nat.le_succ _
  · exact Nat.le_refl _

/-! ## Openings of groups -/

theorem stable_optionsOff? (on off : Text) : Stable (optionsOff? on off) :=
  .of_cons rfl fun _ => stable_none.ite <| stable_none.ite <| stable_some _

theorem isLetter_close : Options.isLetter ')' = false := by decide

theorem stable_optionsOn?_cons (on : Text) (c : Char) : Stable fun t => optionsOn? on (c :: t) := by
  have hoff : Stable fun t =>
      optionsOff? on (t.takeWhile Options.isLetter) (t.dropWhile Options.isLetter) :=
    stable_takeWhile isLetter_close fun off => stable_optionsOff? on off
  exact hoff.ite <| stable_none.ite <| (stable_some _).ite <|
    (stable_none.ite (stable_some _)).ite stable_none

theorem stable_options? : Stable options? := by
  have hon (on : Text) : Stable fun t =>
      if on.contains 'a' && on.contains 'u' then none else optionsOn? on t :=
    stable_none.ite (.of_cons rfl (stable_optionsOn?_cons on))
  exact stable_takeWhile isLetter_close hon

/-- Options are never empty. -/
theorem length_of_options? {t rest : Text} {op : Opening} (h : options? t = some (op, rest)) :
    rest.length < t.length := by
  unfold options? at h
  dsimp only at h
  split at h
  · cases h
  · exact Nat.lt_of_lt_of_le (length_lt_of_cons rfl (stable_optionsOn?_cons _) h)
      (List.dropWhile_sublist _).length_le

theorem stable_groupName? (mark : Char) : Stable (groupName? mark) := by
  have hname (name : Text) : Stable fun t =>
      if Text.isIdentifier name then some (name, t) else none := (stable_some name).ite stable_none
  exact (stable_until? mark).bind hname

theorem stable_nameOpening? : Stable nameOpening? :=
  .of_cons rfl fun _ => ((stable_groupName? '>').map fun name => Opening.group (some name)).ite <|
    ((stable_groupName? ')').map Opening.reference).ite stable_none

theorem stable_behindOpening? : Stable behindOpening? :=
  .of_cons rfl fun _ => (stable_some _).ite <| (stable_some _).ite stable_none

theorem stable_extension? (c : Char) : Stable (extension? c) := by
  unfold extension?
  cases mark? c with
  | some op => exact stable_some op
  | none =>
    refine stable_nameOpening?.ite <| stable_behindOpening?.ite <|
      ((stable_until? ')').map Opening.condition).ite <|
      ((stable_until? ')').map fun _ => Opening.comment).ite ?_
    exact ⟨fun h v => stable_options?.append h v,
      fun h => Nat.le_of_lt_succ (length_of_options? h)⟩

theorem stable_opening? : Stable opening? := by
  have hquestion : Stable fun t => opening? ('?' :: t) := .of_cons rfl stable_extension?
  refine .of_mark (show ')' ≠ '?' by decide) hquestion (stable_some (.group none)) fun t ht => ?_
  cases t with
  | nil => rfl
  | cons c t => exact if_neg (by simpa using ht)

end ReplSend.Pattern
