import ReplSend.Text.Basic

/-!
# Tables

Values under names, in the order in which the names came in. A name that is given a new value
keeps its place.
-/

namespace ReplSend

abbrev Table (α : Type) := List (Text × α)

namespace Table

variable {α : Type}

def get? (t : Table α) (name : Text) : Option α := (t.find? (·.1 = name)).map (·.2)

def put (t : Table α) (name : Text) (a : α) : Table α :=
  match t with
  | [] => [(name, a)]
  | (n, b) :: t => if n = name then (n, a) :: t else (n, b) :: put t name a

def drop (t : Table α) (name : Text) : Table α := t.filter (·.1 ≠ name)

def names (t : Table α) : List Text := t.map (·.1)

@[simp] theorem get?_nil (name : Text) : get? ([] : Table α) name = none := rfl

theorem get?_cons (n : Text) (a : α) (t : Table α) (name : Text) :
    get? ((n, a) :: t) name = if n = name then some a else get? t name := by
  by_cases h : n = name <;> simp [get?, h]

theorem get?_put (t : Table α) (name other : Text) (a : α) :
    (t.put name a).get? other = if name = other then some a else t.get? other := by
  induction t with
  | nil => simp [put, get?_cons]
  | cons p t ih =>
    obtain ⟨n, b⟩ := p
    by_cases h : n = name
    · subst h
      by_cases h' : n = other <;> simp [put, get?_cons, h']
    · by_cases h' : n = other
      · subst h'
        simp [put, h, get?_cons, Ne.symm h]
      · simp [put, h, h', get?_cons, ih]

theorem get?_drop (t : Table α) (name other : Text) :
    (t.drop name).get? other = if name = other then none else t.get? other := by
  induction t with
  | nil => simp [drop]
  | cons p t ih =>
    obtain ⟨n, b⟩ := p
    simp only [drop] at ih ⊢
    by_cases h : n = name
    · subst h
      by_cases h' : n = other
      · subst h'; simpa [get?_cons] using ih
      · simpa [get?_cons, h'] using ih
    · by_cases h' : n = other
      · subst h'
        simp [h, get?_cons, Ne.symm h]
      · simpa [h, h', get?_cons] using ih

theorem get?_eq_none_iff {t : Table α} {name : Text} : t.get? name = none ↔ name ∉ t.names := by
  induction t with
  | nil => simp [names]
  | cons p t ih =>
    rw [get?_cons]
    by_cases h : p.1 = name
    · simp [names, h]
    · simpa [names, h, Ne.symm h] using ih

theorem ne_of_get?_none {t : Table α} {name other : Text} {a : α} (h : t.get? name = none)
    (hmem : (other, a) ∈ t) : name ≠ other := fun heq =>
  get?_eq_none_iff.1 h (heq ▸ List.mem_map_of_mem (f := fun p => p.1) hmem)

theorem mem_of_get? {t : Table α} {name : Text} {a : α} (h : t.get? name = some a) :
    (name, a) ∈ t := by
  obtain ⟨p, hp, rfl⟩ := Option.map_eq_some_iff.1 h
  obtain rfl : p.1 = name := by simpa using List.find?_some hp
  exact List.mem_of_find?_eq_some hp

theorem get?_of_mem {t : Table α} {name : Text} {a : α} (hn : t.names.Nodup)
    (h : (name, a) ∈ t) : t.get? name = some a := by
  induction t with
  | nil => cases h
  | cons p t ih =>
    obtain ⟨hp, hn⟩ : p.1 ∉ names t ∧ (names t).Nodup := List.nodup_cons.1 hn
    rw [get?_cons]
    rcases List.mem_cons.1 h with rfl | h
    · exact if_pos rfl
    · have hmem : name ∈ names t := List.mem_map_of_mem h
      have hne : p.1 ≠ name := fun hname => hp (hname ▸ hmem)
      rw [if_neg hne]
      exact ih hn h

/-- A new name comes last. -/
theorem put_of_get?_none {t : Table α} {name : Text} (h : t.get? name = none) (a : α) :
    t.put name a = t ++ [(name, a)] := by
  induction t with
  | nil => rfl
  | cons p t ih =>
    rw [get?_cons] at h
    split at h
    · cases h
    · rename_i hname
      simp [put, hname, ih h]

theorem nodup_names_drop {t : Table α} (h : t.names.Nodup) (name : Text) :
    (t.drop name).names.Nodup :=
  h.sublist (List.Sublist.map _ List.filter_sublist)

theorem drop_of_get?_none {t : Table α} {name : Text} (h : t.get? name = none) :
    t.drop name = t := by
  refine List.filter_eq_self.2 fun p hp => ?_
  simpa using (ne_of_get?_none h hp).symm

end Table

end ReplSend
