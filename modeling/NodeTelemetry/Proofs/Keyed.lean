import NodeTelemetry.Keyed

/-!
# Laws of keyed collections

What looking up a name gives after each operation, and which operations keep the names in ascending
order. A collection made from pairs has the last value of each name (`find?_ofList`), and its names
ascend, whatever the order of the pairs was (`sorted_ofList`).
-/

namespace NodeTelemetry.Keyed

variable {α : Type}

/-- The names ascend, so each is there once. -/
def Sorted (m : Keyed α) : Prop := m.Pairwise fun p q => p.1 < q.1

instance (m : Keyed α) : Decidable (Sorted m) := inferInstanceAs (Decidable (List.Pairwise _ _))

/-- The last value that some pairs give to a name. -/
def lastOf (name : String) (pairs : List (String × α)) : Option α :=
  (pairs.reverse.find? fun p => name == p.1).map (·.2)

/-! ### Looking up -/

theorem find?_cons (name k : String) (a : α) (m : Keyed α) :
    find? name ((k, a) :: m) = if name = k then some a else find? name m := rfl

/-- A name that is looked up stands in the collection. -/
theorem mem_of_find? {name : String} {m : Keyed α} {a : α} (h : find? name m = some a) :
    (name, a) ∈ m := by
  induction m with
  | nil => cases h
  | cons p m ih =>
    obtain ⟨k, b⟩ := p
    rw [find?_cons] at h
    by_cases hk : name = k
    · rw [if_pos hk, Option.some.injEq] at h
      rw [hk, h]
      exact List.mem_cons_self
    · rw [if_neg hk] at h
      exact List.mem_cons_of_mem _ (ih h)

/-- A name that is before all others is not found. -/
theorem find?_eq_none_of_lt {name : String} {m : Keyed α} (h : ∀ p ∈ m, name < p.1) :
    find? name m = none := by
  cases hfind : find? name m with
  | none => rfl
  | some a => exact absurd (h _ (mem_of_find? hfind)) (String.lt_irrefl _)

theorem find?_insert_self (name : String) (a : α) (m : Keyed α) :
    find? name (insert name a m) = some a := by
  induction m with
  | nil => exact if_pos rfl
  | cons p m ih =>
    obtain ⟨k, b⟩ := p
    unfold insert
    by_cases hlt : name < k
    · rw [if_pos hlt]
      exact if_pos rfl
    by_cases heq : name = k
    · rw [if_neg hlt, if_pos heq]
      exact if_pos rfl
    · rw [if_neg hlt, if_neg heq, find?_cons, if_neg heq]
      exact ih

theorem find?_insert_of_ne {name other : String} (h : other ≠ name) (a : α) (m : Keyed α) :
    find? other (insert name a m) = find? other m := by
  induction m with
  | nil => exact if_neg h
  | cons p m ih =>
    obtain ⟨k, b⟩ := p
    unfold insert
    by_cases hlt : name < k
    · rw [if_pos hlt, find?_cons, if_neg h]
    by_cases heq : name = k
    · rw [if_neg hlt, if_pos heq, find?_cons, if_neg h, find?_cons, if_neg (heq ▸ h)]
    · rw [if_neg hlt, if_neg heq, find?_cons, find?_cons, ih]

theorem find?_insert (name other : String) (a : α) (m : Keyed α) :
    find? other (insert name a m) = (if other = name then some a else none).or (find? other m) := by
  by_cases h : other = name
  · rw [if_pos h, h, find?_insert_self]
    rfl
  · rw [if_neg h, find?_insert_of_ne h]
    rfl

theorem find?_erase_self (name : String) (m : Keyed α) : find? name (erase name m) = none := by
  cases hfind : find? name (erase name m) with
  | none => rfl
  | some a =>
    have hmem := (List.mem_filter.mp (mem_of_find? hfind)).2
    simp at hmem

theorem find?_erase_of_ne {name other : String} (h : other ≠ name) (m : Keyed α) :
    find? other (erase name m) = find? other m := by
  induction m with
  | nil => rfl
  | cons p m ih =>
    obtain ⟨k, b⟩ := p
    unfold erase at ih ⊢
    by_cases hk : k = name
    · rw [List.filter_cons_of_neg (by simp [hk]), ih, find?_cons, if_neg (hk ▸ h)]
    · rw [List.filter_cons_of_pos (by simp [hk]), find?_cons, find?_cons, ih]

/-- A change of every value, which may depend on its name. -/
theorem find?_map {β : Type} (f : String → α → β) (name : String) (m : Keyed α) :
    find? name (m.map fun p => (p.1, f p.1 p.2)) = (find? name m).map (f name) := by
  induction m with
  | nil => rfl
  | cons p m ih =>
    obtain ⟨k, a⟩ := p
    rw [List.map_cons, find?_cons, find?_cons, ih]
    by_cases h : name = k
    · rw [if_pos h, if_pos h, h]
      rfl
    · rw [if_neg h, if_neg h]

/-! ### Order -/

theorem Sorted.erase {m : Keyed α} (h : Sorted m) (name : String) : Sorted (m.erase name) :=
  List.Pairwise.filter _ h

theorem mem_insertNew {name : String} {a : α} {m : Keyed α} {p : String × α}
    (h : p ∈ insertNew name a m) : p = (name, a) ∨ p ∈ m := by
  induction m with
  | nil => exact .inl (List.mem_singleton.mp h)
  | cons q m ih =>
    obtain ⟨k, b⟩ := q
    unfold insertNew at h
    by_cases hlt : name < k
    · rw [if_pos hlt] at h
      exact List.mem_cons.mp h
    by_cases heq : name = k
    · rw [if_neg hlt, if_pos heq] at h
      exact .inr h
    · rw [if_neg hlt, if_neg heq] at h
      rcases List.mem_cons.mp h with h | h
      · exact .inr (h ▸ List.mem_cons_self)
      · exact (ih h).imp_right (List.mem_cons_of_mem _)

theorem Sorted.insertNew {m : Keyed α} (h : Sorted m) (name : String) (a : α) :
    Sorted (insertNew name a m) := by
  induction m with
  | nil => exact List.pairwise_singleton _ _
  | cons q m ih =>
    obtain ⟨k, b⟩ := q
    obtain ⟨hk, hm⟩ := List.pairwise_cons.mp h
    unfold Keyed.insertNew
    by_cases hlt : name < k
    · rw [if_pos hlt]
      refine List.pairwise_cons.mpr ⟨fun p hp => ?_, h⟩
      rcases List.mem_cons.mp hp with rfl | hp
      · exact hlt
      · exact String.lt_trans hlt (hk p hp)
    by_cases heq : name = k
    · rw [if_neg hlt, if_pos heq]
      exact h
    · rw [if_neg hlt, if_neg heq]
      refine List.pairwise_cons.mpr ⟨fun p hp => ?_, ih hm⟩
      rcases mem_insertNew hp with rfl | hp
      · exact Std.lt_of_le_of_ne (String.not_lt.mp hlt) (Ne.symm heq)
      · exact hk p hp

theorem mem_insert {name : String} {a : α} {m : Keyed α} {p : String × α}
    (h : p ∈ insert name a m) : p = (name, a) ∨ p ∈ m := by
  induction m with
  | nil => exact .inl (List.mem_singleton.mp h)
  | cons q m ih =>
    obtain ⟨k, b⟩ := q
    unfold insert at h
    by_cases hlt : name < k
    · rw [if_pos hlt] at h
      exact List.mem_cons.mp h
    by_cases heq : name = k
    · rw [if_neg hlt, if_pos heq] at h
      exact (List.mem_cons.mp h).imp_right (List.mem_cons_of_mem _)
    · rw [if_neg hlt, if_neg heq] at h
      rcases List.mem_cons.mp h with h | h
      · exact .inr (h ▸ List.mem_cons_self)
      · exact (ih h).imp_right (List.mem_cons_of_mem _)

theorem Sorted.insert {m : Keyed α} (h : Sorted m) (name : String) (a : α) :
    Sorted (insert name a m) := by
  induction m with
  | nil => exact List.pairwise_singleton _ _
  | cons q m ih =>
    obtain ⟨k, b⟩ := q
    obtain ⟨hk, hm⟩ := List.pairwise_cons.mp h
    unfold Keyed.insert
    by_cases hlt : name < k
    · rw [if_pos hlt]
      refine List.pairwise_cons.mpr ⟨fun p hp => ?_, h⟩
      rcases List.mem_cons.mp hp with rfl | hp
      · exact hlt
      · exact String.lt_trans hlt (hk p hp)
    by_cases heq : name = k
    · rw [if_neg hlt, if_pos heq]
      exact List.pairwise_cons.mpr ⟨fun p hp => heq ▸ hk p hp, hm⟩
    · rw [if_neg hlt, if_neg heq]
      refine List.pairwise_cons.mpr ⟨fun p hp => ?_, ih hm⟩
      rcases mem_insert hp with rfl | hp
      · exact Std.lt_of_le_of_ne (String.not_lt.mp hlt) (Ne.symm heq)
      · exact hk p hp

/-- In order, each pair is what its name is looked up as. -/
theorem Sorted.find?_of_mem {m : Keyed α} (h : Sorted m) {name : String} {a : α}
    (hmem : (name, a) ∈ m) : find? name m = some a := by
  induction m with
  | nil => cases hmem
  | cons q m ih =>
    obtain ⟨k, b⟩ := q
    obtain ⟨hk, hm⟩ := List.pairwise_cons.mp h
    rw [find?_cons]
    rcases List.mem_cons.mp hmem with heq | hmem
    · obtain ⟨rfl, rfl⟩ := Prod.mk.inj heq
      rw [if_pos rfl]
    · have hne : name ≠ k := fun he => String.lt_irrefl name (he ▸ hk _ hmem)
      rw [if_neg hne]
      exact ih hm hmem

/-! ### Names -/

/-- The names of a collection. -/
def names (m : Keyed α) : List String := m.map Prod.fst

/-- A name of a collection has a value. -/
theorem find?_of_mem_names {name : String} {m : Keyed α} (h : name ∈ m.names) :
    ∃ a, find? name m = some a := by
  induction m with
  | nil => cases h
  | cons p m ih =>
    obtain ⟨k, a⟩ := p
    rw [find?_cons]
    by_cases hk : name = k
    · exact ⟨a, if_pos hk⟩
    · rw [if_neg hk]
      exact ih ((List.mem_cons.mp h).resolve_left hk)

theorem names_erase (name : String) (m : Keyed α) :
    (m.erase name).names = m.names.filter (· != name) := by
  unfold names erase
  rw [List.filter_map]
  rfl

/-- A new name is one more. -/
theorem names_insert_of_none {name : String} {m : Keyed α} (h : find? name m = none) (a : α) :
    (insert name a m).names.Perm (name :: m.names) := by
  induction m with
  | nil => exact List.Perm.refl _
  | cons p m ih =>
    obtain ⟨k, b⟩ := p
    rw [find?_cons] at h
    unfold insert
    by_cases hlt : name < k
    · rw [if_pos hlt]
      exact List.Perm.refl _
    by_cases heq : name = k
    · rw [if_pos heq] at h
      cases h
    · rw [if_neg heq] at h
      rw [if_neg hlt, if_neg heq]
      exact ((ih h).cons k).trans (List.Perm.swap name k _)

/-- A name that has a value is there already. -/
theorem Sorted.names_insert_of_some {name : String} {m : Keyed α} (hm : Sorted m) {b : α}
    (h : find? name m = some b) (a : α) : (Keyed.insert name a m).names = m.names := by
  induction m with
  | nil => cases h
  | cons p m ih =>
    obtain ⟨k, c⟩ := p
    obtain ⟨hk, hm⟩ := List.pairwise_cons.mp hm
    rw [find?_cons] at h
    unfold Keyed.insert
    by_cases heq : name = k
    · obtain rfl := heq
      rw [if_neg (String.lt_irrefl name), if_pos rfl]
      rfl
    · rw [if_neg heq] at h
      have hlt : ¬name < k := String.lt_asymm (hk _ (mem_of_find? h))
      rw [if_neg hlt, if_neg heq]
      exact congrArg (k :: ·) (ih hm h)

/-- Without a name that has a value there is one name less. -/
theorem Sorted.names_of_find? {name : String} {m : Keyed α} (hm : Sorted m) {a : α}
    (h : find? name m = some a) : m.names.Perm (name :: (m.erase name).names) := by
  induction m with
  | nil => cases h
  | cons p m ih =>
    obtain ⟨k, b⟩ := p
    obtain ⟨hk, hm⟩ := List.pairwise_cons.mp hm
    rw [find?_cons] at h
    by_cases heq : name = k
    · obtain rfl := heq
      have hkeep : ∀ q ∈ m, (q.1 != name) = true := fun q hq =>
        bne_iff_ne.mpr fun he => String.lt_irrefl name (he ▸ hk q hq)
      have herase : Keyed.erase name ((name, b) :: m) = m := by
        unfold Keyed.erase
        rw [List.filter_cons_of_neg (by simp), List.filter_eq_self.mpr hkeep]
      rw [herase]
      exact List.Perm.refl _
    · rw [if_neg heq] at h
      have herase : Keyed.erase name ((k, b) :: m) = (k, b) :: Keyed.erase name m :=
        List.filter_cons_of_pos (bne_iff_ne.mpr (Ne.symm heq))
      rw [herase]
      exact ((ih hm h).cons k).trans (List.Perm.swap name k _)

/-- A name that has a value keeps it. -/
theorem find?_insertNew {m : Keyed α} (h : Sorted m) (name other : String) (a : α) :
    find? other (Keyed.insertNew name a m) =
      (find? other m).or (if other = name then some a else none) := by
  induction m with
  | nil => rfl
  | cons q m ih =>
    obtain ⟨k, b⟩ := q
    obtain ⟨hk, hm⟩ := List.pairwise_cons.mp h
    unfold Keyed.insertNew
    by_cases hlt : name < k
    · rw [if_pos hlt, find?_cons]
      by_cases ho : other = name
      · have hnone : find? name ((k, b) :: m) = none := by
          refine find?_eq_none_of_lt fun p hp => ?_
          rcases List.mem_cons.mp hp with rfl | hp
          · exact hlt
          · exact String.lt_trans hlt (hk p hp)
        rw [if_pos ho, ho, hnone, if_pos rfl]
        rfl
      · rw [if_neg ho, if_neg ho, Option.or_none]
    by_cases heq : name = k
    · rw [if_neg hlt, if_pos heq, find?_cons]
      by_cases ho : other = k
      · rw [if_pos ho]
        rfl
      · rw [if_neg ho, if_neg (heq ▸ ho), Option.or_none]
    · rw [if_neg hlt, if_neg heq, find?_cons, find?_cons]
      by_cases ho : other = k
      · rw [if_pos ho, if_pos ho]
        rfl
      · rw [if_neg ho, if_neg ho, ih hm]

/-- A collection has only pairs that were given. -/
theorem mem_of_mem_ofList {pairs : List (String × α)} {p : String × α} (h : p ∈ ofList pairs) :
    p ∈ pairs := by
  induction pairs with
  | nil => exact h
  | cons q pairs ih =>
    rcases mem_insertNew h with heq | hmem
    · rw [heq]
      exact List.mem_cons_self
    · exact List.mem_cons_of_mem _ (ih hmem)

/-- A collection made from pairs is in order. -/
theorem sorted_ofList (pairs : List (String × α)) : Sorted (ofList pairs) := by
  induction pairs with
  | nil => exact List.Pairwise.nil
  | cons p pairs ih => exact ih.insertNew p.1 p.2

/-- Pairs in order are the collection made from them. -/
theorem Sorted.ofList_eq {m : Keyed α} (h : Sorted m) : ofList m = m := by
  induction m with
  | nil => rfl
  | cons p m ih =>
    obtain ⟨hp, hm⟩ := List.pairwise_cons.mp h
    show Keyed.insertNew p.1 p.2 (ofList m) = _
    rw [ih hm]
    cases m with
    | nil => rfl
    | cons q m => exact if_pos (hp q List.mem_cons_self)

/-- A pair counts only if no later one has its name. -/
theorem find?_ofList_cons (name k : String) (a : α) (pairs : List (String × α)) :
    find? name (ofList ((k, a) :: pairs)) =
      (find? name (ofList pairs)).or (if name = k then some a else none) :=
  find?_insertNew (sorted_ofList pairs) k name a

/-- A value is the last one of its name only if no later one is. -/
theorem lastOf_cons (name k : String) (a : α) (pairs : List (String × α)) :
    lastOf name ((k, a) :: pairs) = (lastOf name pairs).or (if name = k then some a else none) := by
  unfold lastOf
  rw [List.reverse_cons, List.find?_append, List.find?_singleton, Option.map_or]
  by_cases h : name = k
  · rw [if_pos h, if_pos (beq_iff_eq.mpr h)]
    rfl
  · rw [if_neg h, if_neg (by simpa using h)]
    rfl

/-- Of several values for one name the last one stands. -/
theorem find?_ofList (name : String) (pairs : List (String × α)) :
    find? name (ofList pairs) = lastOf name pairs := by
  induction pairs with
  | nil => rfl
  | cons p pairs ih =>
    obtain ⟨k, a⟩ := p
    rw [find?_ofList_cons, ih, lastOf_cons]

/-- A name that is given has a value. -/
theorem find?_ofList_of_mem {name : String} {a : α} {pairs : List (String × α)}
    (h : (name, a) ∈ pairs) : ∃ b, find? name (ofList pairs) = some b ∧ (name, b) ∈ pairs := by
  cases hfind : find? name (ofList pairs) with
  | some b => exact ⟨b, rfl, mem_of_mem_ofList (mem_of_find? hfind)⟩
  | none =>
    rw [find?_ofList, lastOf, Option.map_eq_none_iff, List.find?_eq_none] at hfind
    exact absurd (beq_self_eq_true name) (hfind _ (List.mem_reverse.mpr h))

/-! ### Last values -/

/-- The last value of a name, and the pairs after it. -/
theorem lastOf_eq_some {name : String} {a : α} {pairs : List (String × α)} :
    lastOf name pairs = some a ↔
      ∃ before after, pairs = before ++ (name, a) :: after ∧ ∀ p ∈ after, p.1 ≠ name := by
  simp only [lastOf, Option.map_eq_some_iff, List.find?_eq_some_iff_append]
  constructor
  · rintro ⟨⟨k, b⟩, ⟨hk, later, earlier, hpairs, hlater⟩, rfl⟩
    obtain rfl : name = k := by simpa using hk
    refine ⟨earlier.reverse, later.reverse, ?_, fun p hp => ?_⟩
    · simpa using congrArg List.reverse hpairs
    · have hne : name ≠ p.1 := by simpa using hlater p (List.mem_reverse.mp hp)
      exact hne.symm
  · rintro ⟨before, after, rfl, hafter⟩
    refine ⟨(name, a), ⟨by simp, after.reverse, before.reverse, by simp, fun p hp => ?_⟩, rfl⟩
    have hne := hafter p (List.mem_reverse.mp hp)
    simpa using hne.symm

/-- The last value of a name among the pairs that some elements give comes from one of them, and no
later one gives the name a value. -/
theorem lastOf_filterMap_eq_some {β : Type} {name : String} {a : α}
    {f : β → Option (String × α)} {bs : List β} :
    lastOf name (bs.filterMap f) = some a ↔
      ∃ before b after, bs = before ++ b :: after ∧ f b = some (name, a) ∧
        ∀ c ∈ after, ∀ other, f c ≠ some (name, other) := by
  rw [lastOf_eq_some]
  constructor
  · rintro ⟨pairs, later, hpairs, hlater⟩
    obtain ⟨before, rest, rfl, -, hrest⟩ := List.filterMap_eq_append_iff.mp hpairs
    obtain ⟨skipped, b, after, rfl, -, hb, rfl⟩ := List.filterMap_eq_cons_iff.mp hrest
    refine ⟨before ++ skipped, b, after, by simp, hb, fun c hc other hother => ?_⟩
    exact hlater (name, other) (List.mem_filterMap.mpr ⟨c, hc, hother⟩) rfl
  · rintro ⟨before, b, after, rfl, hb, hafter⟩
    refine ⟨before.filterMap f, after.filterMap f, by simp [hb], ?_⟩
    rintro ⟨k, other⟩ hp rfl
    obtain ⟨c, hc, hother⟩ := List.mem_filterMap.mp hp
    exact hafter c hc other hother

/-! ### Collections with the same values -/

theorem find?_eq_none {name : String} {m : Keyed α} : find? name m = none ↔ name ∉ m.names := by
  constructor
  · intro h hmem
    obtain ⟨a, ha⟩ := find?_of_mem_names hmem
    rw [h] at ha
    cases ha
  · intro h
    cases hfind : find? name m with
    | none => rfl
    | some a => exact absurd (List.mem_map_of_mem (mem_of_find? hfind)) h

theorem Sorted.nodup_names {m : Keyed α} (h : Sorted m) : m.names.Nodup := by
  refine List.pairwise_map.mpr (List.Pairwise.imp (fun hlt heq => ?_) h)
  rw [heq] at hlt
  exact String.lt_irrefl _ hlt

/-- **Collections in order are equal if they have the same values.** -/
theorem Sorted.ext {m n : Keyed α} (hm : Sorted m) (hn : Sorted n)
    (h : ∀ name, find? name m = find? name n) : m = n := by
  induction m generalizing n with
  | nil =>
    cases n with
    | nil => rfl
    | cons q n =>
      have hq := h q.1
      rw [find?_cons, if_pos rfl] at hq
      cases hq
  | cons p m ih =>
    obtain ⟨hp, htail⟩ := List.pairwise_cons.mp hm
    cases n with
    | nil =>
      have hp := h p.1
      rw [find?_cons, if_pos rfl] at hp
      cases hp
    | cons q n =>
      obtain ⟨hq, hrest⟩ := List.pairwise_cons.mp hn
      -- a first name that is before the other is not found there
      have hnot : ∀ {p q : String × α} {m n : Keyed α}, (∀ r ∈ n, q.1 < r.1) →
          find? p.1 (p :: m) = find? p.1 (q :: n) → ¬p.1 < q.1 := by
        intro p q m n hq hsame hlt
        have hnone : find? p.1 (q :: n) = none := find?_eq_none_of_lt fun r hr => by
          rcases List.mem_cons.mp hr with rfl | hr
          · exact hlt
          · exact String.lt_trans hlt (hq r hr)
        rw [hnone, find?_cons, if_pos rfl] at hsame
        cases hsame
      have hname : p.1 = q.1 := String.le_antisymm
        (String.not_lt.mp (hnot hp (h q.1).symm)) (String.not_lt.mp (hnot hq (h p.1)))
      have hvalue := h p.1
      rw [find?_cons, find?_cons, if_pos rfl, if_pos hname] at hvalue
      have hsame : ∀ name, find? name m = find? name n := by
        intro name
        by_cases heq : name = p.1
        · rw [find?_eq_none_of_lt (heq ▸ hp), find?_eq_none_of_lt ((heq.trans hname) ▸ hq)]
        · have hfind := h name
          rwa [find?_cons, find?_cons, if_neg heq, if_neg (hname ▸ heq)] at hfind
      rw [ih htail hrest hsame, Prod.ext hname (Option.some.inj hvalue)]

/-- Collections in order have their pairs in one order. -/
theorem Sorted.eq_of_perm {m n : Keyed α} (hm : Sorted m) (hn : Sorted n) (h : m.Perm n) : m = n :=
  h.eq_of_pairwise (fun _ _ _ _ hlt hgt => absurd (String.lt_trans hlt hgt) (String.lt_irrefl _))
    hm hn

/-- A new name is one more. -/
theorem perm_insertNew {name : String} {m : Keyed α} (h : name ∉ m.names) (a : α) :
    (insertNew name a m).Perm ((name, a) :: m) := by
  induction m with
  | nil => exact List.Perm.refl _
  | cons p m ih =>
    obtain ⟨k, b⟩ := p
    obtain ⟨hne, hrest⟩ := not_or.mp (mt List.mem_cons.mpr h)
    unfold insertNew
    by_cases hlt : name < k
    · rw [if_pos hlt]
    · rw [if_neg hlt, if_neg hne]
      exact ((ih hrest).cons _).trans (List.Perm.swap _ _ _)

/-- A collection made from pairs with a name each has all of them. -/
theorem perm_ofList {pairs : List (String × α)} (h : (names pairs).Nodup) :
    (ofList pairs).Perm pairs := by
  induction pairs with
  | nil => exact List.Perm.refl _
  | cons p pairs ih =>
    obtain ⟨hnew, hrest⟩ := List.nodup_cons.mp h
    have hnot : p.1 ∉ (ofList pairs).names := fun hmem => hnew (((ih hrest).map _).mem_iff.mp hmem)
    exact (perm_insertNew hnot p.2).trans ((ih hrest).cons p)

/-- In whatever order the pairs are given, the collection is the same. -/
theorem Sorted.ofList_eq_of_perm {m : Keyed α} (h : Sorted m) {pairs : List (String × α)}
    (hpairs : pairs.Perm m) : ofList pairs = m := by
  have hnodup : (names pairs).Nodup := (hpairs.map Prod.fst).nodup_iff.mpr h.nodup_names
  exact (sorted_ofList pairs).eq_of_perm h ((perm_ofList hnodup).trans hpairs)

/-- Where each name has one value, it is the one that is found. -/
theorem find?_ofList_of_nodup {pairs : List (String × α)} (h : (names pairs).Nodup)
    (name : String) : find? name (ofList pairs) = find? name pairs := by
  induction pairs with
  | nil => rfl
  | cons p pairs ih =>
    obtain ⟨k, a⟩ := p
    obtain ⟨hnew, hrest⟩ := List.nodup_cons.mp h
    rw [find?_ofList_cons, ih hrest, find?_cons]
    by_cases hk : name = k
    · rw [if_pos hk, if_pos hk, find?_eq_none.mpr (hk ▸ hnew)]
      rfl
    · rw [if_neg hk, if_neg hk, Option.or_none]

end NodeTelemetry.Keyed
