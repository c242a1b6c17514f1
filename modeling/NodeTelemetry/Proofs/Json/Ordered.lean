import NodeTelemetry.Proofs.Json.Sound
import NodeTelemetry.Proofs.Json.Writer

/-!
# Values in the order of their names

A value that is read has the members of each of its objects in the order of their names, each name
once (`InOrder`). Any other value has a form in this order, `Json.ordered`, in which the last of
several members of one name stands. The form is as deep as the value and has no other numbers, and a
value in order is its own form.
-/

namespace NodeTelemetry.Json

mutual

/-- A value with the members of all its objects in the order of their names, each name once. -/
def ordered : Json → Json
  | arr vs => arr (orderedItems vs)
  | obj ms => ofMembers (orderedMembers ms)
  | v => v

/-- Items, each in order. -/
def orderedItems : List Json → List Json
  | [] => []
  | v :: vs => ordered v :: orderedItems vs

/-- Members with values in order. -/
def orderedMembers : List (String × Json) → List (String × Json)
  | [] => []
  | (k, v) :: ms => (k, ordered v) :: orderedMembers ms

end

theorem ordered_arr (vs : List Json) : (arr vs).ordered = arr (vs.map ordered) := by
  have hitems : orderedItems vs = vs.map ordered := by
    induction vs with
    | nil => rfl
    | cons v vs ih => rw [orderedItems, ih, List.map_cons]
  rw [ordered, hitems]

theorem ordered_obj (ms : List (String × Json)) :
    (obj ms).ordered = ofMembers (ms.map fun m => (m.1, m.2.ordered)) := by
  have hmembers : orderedMembers ms = ms.map fun m => (m.1, m.2.ordered) := by
    induction ms with
    | nil => rfl
    | cons m ms ih => rw [orderedMembers, ih, List.map_cons]
  rw [ordered, hmembers]

theorem ordered_scalar {v : Json} (h : ¬v.HasParts) : v.ordered = v := by
  cases v with
  | arr | obj => exact absurd trivial h
  | null | bool | int | real | str => simp only [ordered]

/-! ### Values in order -/

/-- The members of each object are in the order of their names, each name once. -/
inductive InOrder : Json → Prop where
  /-- A value without parts. -/
  | scalar (v : Json) (h : ¬v.HasParts) : InOrder v
  /-- An array of such values. -/
  | arr (vs : List Json) (items : ∀ v ∈ vs, InOrder v) : InOrder (arr vs)
  /-- An object of such values. -/
  | obj (ms : List (String × Json)) (sorted : Keyed.Sorted ms) (members : ∀ m ∈ ms, InOrder m.2) :
    InOrder (obj ms)

/-- An object in order has values in order. -/
theorem InOrder.members {ms : List (String × Json)} (h : (Json.obj ms).InOrder) :
    ∀ m ∈ ms, m.2.InOrder := by
  cases h with
  | scalar _ h => exact absurd trivial h
  | obj _ _ hmembers => exact hmembers

/-- So it has its members. -/
theorem InOrder.sorted {ms : List (String × Json)} (h : (Json.obj ms).InOrder) :
    Keyed.Sorted ms := by
  cases h with
  | scalar _ h => exact absurd trivial h
  | obj _ hsorted _ => exact hsorted

/-- Values in order make an object in order, whatever the order of its members. -/
theorem inOrder_ofMembers {ms : List (String × Json)} (h : ∀ m ∈ ms, m.2.InOrder) :
    (ofMembers ms).InOrder :=
  .obj _ (Keyed.sorted_ofList ms) fun m hm => h m (Keyed.mem_of_mem_ofList hm)

theorem InOrder.ordered_eq {v : Json} (h : v.InOrder) : v.ordered = v := by
  induction v using ind with
  | null | bool | int | real | str => exact ordered_scalar id
  | arr vs ih =>
    cases h with
    | scalar _ h => exact absurd trivial h
    | arr _ hitems =>
      rw [ordered_arr, List.map_congr_left fun v hv => ih v hv (hitems v hv), List.map_id']
  | obj ms ih =>
    cases h with
    | scalar _ h => exact absurd trivial h
    | obj _ hsorted hmembers =>
      rw [ordered_obj, List.map_congr_left fun m hm =>
        congrArg (Prod.mk m.1) (ih m hm (hmembers m hm)), List.map_id']
      exact congrArg Json.obj (Keyed.Sorted.ofList_eq hsorted)

/-- Members with values in order are the same in order. -/
theorem map_ordered_eq {ms : List (String × Json)} (h : ∀ m ∈ ms, m.2.InOrder) :
    (ms.map fun m => (m.1, m.2.ordered)) = ms := by
  rw [List.map_congr_left fun m hm => congrArg (Prod.mk m.1) (h m hm).ordered_eq, List.map_id']

theorem inOrder_ordered (v : Json) : v.ordered.InOrder := by
  induction v using ind with
  | null | bool | int | real | str =>
    rw [ordered_scalar id]
    exact .scalar _ id
  | arr vs ih =>
    rw [ordered_arr]
    exact .arr _ (List.forall_mem_map.mpr ih)
  | obj ms ih =>
    rw [ordered_obj]
    exact inOrder_ofMembers (List.forall_mem_map.mpr ih)

/-- A reader gives values in order. -/
theorem gives_inOrder (fuel depth : Nat) (gs : List Glyph) :
    Gives InOrder (Reader.value fuel depth gs) :=
  Reader.gives_value_of (fun _ _ _ => .scalar _) (fun _ vs => .arr vs)
    (fun _ _ => inOrder_ofMembers) fuel depth gs

/-- **A value that is read is in order.** -/
theorem inOrder_of_read {text : List Glyph} {v : Json} (h : read text = .ok v) : v.InOrder :=
  of_readWhole (fun fuel => gives_inOrder fuel maxDepth) h

/-- The members of a text are values in order that leave one level free. -/
theorem readable_and_inOrder_of_writes {text : List Glyph} {pairs : List (String × Json)}
    (h : Writes text pairs) : ∀ m ∈ pairs, m.2.Readable (maxDepth - 1) ∧ m.2.InOrder := by
  obtain ⟨inner, left, -, hmembers, -⟩ := h
  have hreadable := Reader.gives_members (Reader.gives_value (fuelFor text) (maxDepth - 1))
    (fuelFor text) (fuelFor text) true (List.forall_mem_nil _) inner pairs left hmembers
  have hinOrder := Reader.gives_members (gives_inOrder (fuelFor text) (maxDepth - 1))
    (fuelFor text) (fuelFor text) true (List.forall_mem_nil _) inner pairs left hmembers
  exact fun m hm => ⟨hreadable m hm, hinOrder m hm⟩

/-! ### What the order keeps -/

/-- A value without real numbers. -/
inductive RealFree : Json → Prop where
  /-- `null`. -/
  | null : RealFree null
  /-- A truth value. -/
  | bool (b : Bool) : RealFree (bool b)
  /-- An integer. -/
  | int (i : Int) : RealFree (int i)
  /-- A string. -/
  | str (s : String) : RealFree (str s)
  /-- An array of such values. -/
  | arr (vs : List Json) (items : ∀ v ∈ vs, RealFree v) : RealFree (arr vs)
  /-- An object of such values. -/
  | obj (ms : List (String × Json)) (members : ∀ m ∈ ms, RealFree m.2) : RealFree (obj ms)

theorem realFree_arr {vs : List Json} : (arr vs).RealFree ↔ ∀ v ∈ vs, v.RealFree :=
  ⟨fun h => by cases h with | arr _ hitems => exact hitems, .arr vs⟩

theorem realFree_obj {ms : List (String × Json)} : (obj ms).RealFree ↔ ∀ m ∈ ms, m.2.RealFree :=
  ⟨fun h => by cases h with | obj _ hmembers => exact hmembers, .obj ms⟩

mutual

instance decidableRealFree : (v : Json) → Decidable v.RealFree
  | null => isTrue .null
  | bool b => isTrue (.bool b)
  | int i => isTrue (.int i)
  | real _ => isFalse fun h => nomatch h
  | str s => isTrue (.str s)
  | arr vs => @decidable_of_iff _ _ realFree_arr.symm (decidableRealFreeItems vs)
  | obj ms => @decidable_of_iff _ _ realFree_obj.symm (decidableRealFreeMembers ms)

/-- Whether all items are without real numbers. -/
def decidableRealFreeItems : (vs : List Json) → Decidable (∀ v ∈ vs, v.RealFree)
  | [] => isTrue fun _ h => nomatch h
  | v :: vs => @decidable_of_iff _ _ List.forall_mem_cons.symm
    (@instDecidableAnd _ _ (decidableRealFree v) (decidableRealFreeItems vs))

/-- Whether the values of all members are. -/
def decidableRealFreeMembers : (ms : List (String × Json)) → Decidable (∀ m ∈ ms, m.2.RealFree)
  | [] => isTrue fun _ h => nomatch h
  | (_, v) :: ms => @decidable_of_iff _ _ List.forall_mem_cons.symm
    (@instDecidableAnd _ _ (decidableRealFree v) (decidableRealFreeMembers ms))

end

theorem RealFree.ordered {v : Json} (h : v.RealFree) : v.ordered.RealFree := by
  induction v using ind with
  | null | bool | int | real | str =>
    rw [ordered_scalar id]
    exact h
  | arr vs ih =>
    rw [ordered_arr]
    have hitems := realFree_arr.mp h
    exact .arr _ (List.forall_mem_map.mpr fun v hv => ih v hv (hitems v hv))
  | obj ms ih =>
    rw [ordered_obj]
    have hmembers := realFree_obj.mp h
    refine .obj _ fun m hm => ?_
    obtain ⟨n, hn, rfl⟩ := List.mem_map.mp (Keyed.mem_of_mem_ofList hm)
    exact ih n hn (hmembers n hn)

theorem Readable.ordered {depth : Nat} {v : Json} (h : v.Readable depth) :
    v.ordered.Readable depth := by
  induction v using ind generalizing depth with
  | null | bool | int | real | str =>
    rw [ordered_scalar id]
    exact h
  | arr vs ih =>
    obtain ⟨hsound, hwithin⟩ := h
    cases hsound with
    | arr _ hitems =>
      cases depth with
      | zero => exact hwithin.elim
      | succ depth =>
        rw [ordered_arr]
        exact readable_arr (List.forall_mem_map.mpr fun v hv => ih v hv ⟨hitems v hv, hwithin v hv⟩)
  | obj ms ih =>
    obtain ⟨hsound, hwithin⟩ := h
    cases hsound with
    | obj _ hmembers =>
      cases depth with
      | zero => exact hwithin.elim
      | succ depth =>
        rw [ordered_obj]
        refine readable_obj fun m hm => ?_
        obtain ⟨n, hn, rfl⟩ := List.mem_map.mp (Keyed.mem_of_mem_ofList hm)
        exact ih n hn ⟨hmembers n hn, hwithin n hn⟩

end NodeTelemetry.Json
