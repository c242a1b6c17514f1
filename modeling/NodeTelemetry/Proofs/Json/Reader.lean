import NodeTelemetry.Json.Typed

/-!
# Objects as they are read

A text reads as an object if and only if, blanks aside, it is an opening bracket and members up to
the closing one; the object is the collection of these members, so of several values for one name
the last one stands (`read_eq_obj`). The other brackets and words begin with characters of their
own, and what begins with a digit or a sign is read as a number.
-/

namespace NodeTelemetry.Json

/-- What a reader gives, if it gives anything, has a property. -/
def Gives {α : Type} (p : α → Prop) (r : Except Fault (α × List Glyph)) : Prop :=
  ∀ a rest, r = .ok (a, rest) → p a

/-- A value is a number. -/
def IsNumber : Json → Prop
  | int _ | real _ => True
  | _ => False

namespace Reader

theorem gives_error {α : Type} (p : α → Prop) (e : Fault) : Gives p (.error e) :=
  fun _ _ h => nomatch h

theorem gives_ok {α : Type} {p : α → Prop} {a : α} (h : p a) (rest : List Glyph) :
    Gives p (.ok (a, rest)) := by
  intro b rest' heq
  obtain ⟨rfl, -⟩ := Prod.mk.inj (Except.ok.inj heq)
  exact h

theorem gives_bind {α β : Type} {p : β → Prop} {r : Except Fault (α × List Glyph)}
    {f : α × List Glyph → Except Fault (β × List Glyph)}
    (h : ∀ a rest, Gives p (f (a, rest))) : Gives p (r >>= f) := by
  cases r with
  | error e => exact gives_error p e
  | ok a => exact h a.1 a.2

/-- A value of another kind than wanted is refused. -/
theorem gives_mismatch {α : Type} (wanted : String) (gs : List Glyph) :
    Gives (fun _ : α => False) (mismatch wanted gs) := by
  unfold mismatch
  split
  · exact gives_bind fun _ _ => gives_error _ _
  · exact gives_bind fun _ _ => gives_error _ _
  · exact gives_bind fun _ _ => gives_error _ _
  · exact gives_bind fun _ _ => gives_error _ _
  · exact gives_error _ _
  · exact gives_error _ _
  · split
    · refine gives_bind fun v rest => ?_
      cases v with
      | null | bool | int | real | str | arr | obj => exact gives_error _ _
    · exact gives_error _ _
  · exact gives_error _ _

/-! ### Numbers -/

theorem isNumber_finishReal (negative : Bool) (n : Nat) (exponent : Int) (gs : List Glyph) :
    Gives IsNumber (finishReal negative n exponent gs) := by
  unfold finishReal
  split
  · exact gives_ok trivial gs
  · exact gives_error _ _

theorem isNumber_exponentPart (negative : Bool) (n : Nat) (before : Int) (gs : List Glyph) :
    Gives IsNumber (exponentPart negative n before gs) := by
  unfold exponentPart
  split
  split
  · exact gives_error _ _
  · split
    · split
      · exact isNumber_finishReal _ _ _ _
      · split
        · exact gives_error _ _
        · exact gives_ok trivial _
    · exact gives_error _ _

theorem isNumber_fractionPart (negative : Bool) (n : Nat) (before : Int) (gs : List Glyph) :
    Gives IsNumber (fractionPart negative n before gs) := by
  unfold fractionPart
  split
  · dsimp only
    split
    · exact isNumber_exponentPart _ _ _ _
    · exact isNumber_finishReal _ _ _ _
  · split
    · exact gives_error _ _
    · exact gives_error _ _

theorem isNumber_ofDigits (negative : Bool) (n : Nat) : IsNumber (ofDigits negative n) := by
  unfold ofDigits
  split
  · split
    · exact trivial
    · exact trivial
  · exact trivial

theorem isNumber_afterInteger (negative : Bool) (n dropped : Nat) (gs : List Glyph) :
    Gives IsNumber (afterInteger negative n dropped gs) := by
  unfold afterInteger
  split
  · exact isNumber_fractionPart _ _ _ _
  · split
    · exact isNumber_exponentPart _ _ _ _
    · split
      · exact gives_ok (isNumber_ofDigits _ _) _
      · exact isNumber_finishReal _ _ _ _

theorem isNumber_unsignedNumber (negative : Bool) (gs : List Glyph) :
    Gives IsNumber (unsignedNumber negative gs) := by
  unfold unsignedNumber
  split
  · exact gives_error _ _
  · split
    · exact gives_error _ _
    · split
      · exact gives_error _ _
      · exact isNumber_afterInteger _ _ _ _
    · exact isNumber_afterInteger _ _ _ _

theorem isNumber_number (gs : List Glyph) : Gives IsNumber (number gs) := by
  unfold number
  split
  · exact isNumber_unsignedNumber _ _
  · exact isNumber_unsignedNumber _ _

/-! ### Objects -/

/-- Only what an opening bracket begins is read as an object. -/
theorem members_value_of_ne {fuel depth : Nat} {gs : List Glyph}
    (h : ∀ inner, skipBlanks gs ≠ .scalar '\x7b' :: inner) :
    Gives (·.members? = none) (value fuel depth gs) := by
  have hplain : ∀ (v : Json) (rest : List Glyph), v.members? = none →
      Gives (·.members? = none) (.ok (v, rest)) := fun v rest hv =>
    @gives_ok Json (·.members? = none) v hv rest
  unfold value
  split
  · exact gives_error _ _
  · exact gives_bind fun _ rest => hplain null rest rfl
  · exact gives_bind fun _ rest => hplain (bool true) rest rfl
  · exact gives_bind fun _ rest => hplain (bool false) rest rfl
  · exact gives_bind fun s rest => hplain (str s) rest rfl
  · split
    · exact gives_error _ _
    · exact gives_bind fun vs rest => hplain (arr vs) rest rfl
  · exact absurd ‹_› (h _)
  · split
    · intro v rest hv
      have hnumber := isNumber_number _ v rest hv
      cases v with
      | int i => rfl
      | real x => rfl
      | null | bool | str | arr | obj => exact hnumber.elim
    · exact gives_error _ _

theorem value_bracket (fuel depth : Nat) {gs inner : List Glyph}
    (h : skipBlanks gs = .scalar '\x7b' :: inner) :
    value fuel (depth + 1) gs =
      (members fuel (value fuel depth) fuel true [] inner).map fun r => (ofMembers r.1, r.2) := by
  rw [value, h]
  show (members fuel (value fuel depth) fuel true [] inner >>= _) = _
  cases members fuel (value fuel depth) fuel true [] inner with
  | error e => rfl
  | ok r => rfl

/-- What was read before the rest of the members stands before it. -/
theorem members_acc {α : Type} (limit : Nat) (item : Reader α) (fuel : Nat) (first : Bool)
    (acc : List (String × α)) (gs : List Glyph) :
    members limit item fuel first acc gs =
      (members limit item fuel first [] gs).map fun r => (acc.reverse ++ r.1, r.2) := by
  induction fuel generalizing first acc gs with
  | zero => rfl
  | succ fuel ih =>
    rw [members, members]
    cases nextKey limit first gs with
    | error f => rfl
    | ok r =>
      obtain ⟨key?, gs⟩ := r
      cases key? with
      | none =>
        show Except.ok (acc.reverse, gs.tail) = .ok (acc.reverse ++ [].reverse, gs.tail)
        rw [List.reverse_nil, List.append_nil]
      | some k =>
        simp only [bind, Except.bind]
        cases colon gs with
        | error f => rfl
        | ok r =>
          dsimp only
          cases item r.2 with
          | error f => rfl
          | ok a =>
            dsimp only
            rw [ih, ih false [(k, a.1)]]
            cases members limit item fuel false [] a.2 with
            | error f => rfl
            | ok r =>
              show Except.ok (((k, a.1) :: acc).reverse ++ r.1, r.2) =
                .ok (acc.reverse ++ ([(k, a.1)].reverse ++ r.1), r.2)
              rw [List.reverse_cons, List.append_assoc]
              rfl

end Reader

/-- A text is an object with some members, in the order in which they are written. -/
def Writes (text : List Glyph) (pairs : List (String × Json)) : Prop :=
  ∃ inner left, Reader.skipBlanks text = .scalar '\x7b' :: inner ∧
    Reader.members (fuelFor text) (Reader.value (fuelFor text) (maxDepth - 1)) (fuelFor text) true []
      inner = .ok (pairs, left) ∧
    Reader.skipBlanks left = []

theorem readWhole_eq_ok {α : Type} {reader : (fuel : Nat) → Reader α} {text : List Glyph} {a : α} :
    readWhole reader text = .ok a ↔
      ∃ left, reader (fuelFor text) text = .ok (a, left) ∧ Reader.skipBlanks left = [] := by
  unfold readWhole
  cases reader (fuelFor text) text with
  | error f => simp
  | ok r =>
    obtain ⟨b, rest⟩ := r
    constructor
    · intro h
      cases hrest : Reader.skipBlanks rest with
      | nil =>
        simp only [hrest, Except.ok.injEq] at h
        exact ⟨rest, h ▸ rfl, hrest⟩
      | cons g gs => simp [hrest] at h
    · rintro ⟨left, h, hleft⟩
      obtain ⟨rfl, rfl⟩ := Prod.mk.inj (Except.ok.inj h)
      simp only [hleft]

/-- What is read from a whole text is what the reader gives. -/
theorem of_readWhole {α : Type} {p : α → Prop} {reader : (fuel : Nat) → Reader α}
    (h : ∀ fuel gs, Gives p (reader fuel gs)) {text : List Glyph} {a : α}
    (hread : readWhole reader text = .ok a) : p a := by
  obtain ⟨left, hvalue, -⟩ := readWhole_eq_ok.mp hread
  exact h _ _ a left hvalue

/-- **A text reads as an object if and only if it is one**, and then of several values for one name
the last one stands. -/
theorem read_eq_obj (text : List Glyph) (ms : List (String × Json)) :
    read text = .ok (.obj ms) ↔ ∃ pairs, Writes text pairs ∧ ms = Keyed.ofList pairs := by
  unfold read
  rw [readWhole_eq_ok]
  constructor
  · rintro ⟨left, hvalue, hleft⟩
    by_cases hbracket : ∃ inner, Reader.skipBlanks text = .scalar '\x7b' :: inner
    · obtain ⟨inner, hinner⟩ := hbracket
      rw [show maxDepth = maxDepth - 1 + 1 from rfl, Reader.value_bracket _ _ hinner] at hvalue
      cases hmembers : Reader.members (fuelFor text) (Reader.value (fuelFor text) (maxDepth - 1))
          (fuelFor text) true [] inner with
      | error e =>
        rw [hmembers] at hvalue
        cases hvalue
      | ok r =>
        rw [hmembers] at hvalue
        obtain ⟨hms, rfl⟩ := Prod.mk.inj (Except.ok.inj hvalue)
        exact ⟨r.1, ⟨inner, r.2, hinner, hmembers, hleft⟩, (obj.inj hms).symm⟩
    · have hnone := Reader.members_value_of_ne (fun inner h => hbracket ⟨inner, h⟩) _ _ hvalue
      cases hnone
  · rintro ⟨pairs, ⟨inner, left, hinner, hmembers, hleft⟩, rfl⟩
    refine ⟨left, ?_, hleft⟩
    rw [show maxDepth = maxDepth - 1 + 1 from rfl, Reader.value_bracket _ _ hinner, hmembers]
    rfl

end NodeTelemetry.Json
