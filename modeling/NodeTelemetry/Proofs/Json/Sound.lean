import NodeTelemetry.Proofs.Binary.Rounding
import NodeTelemetry.Proofs.Json.Reader
import NodeTelemetry.Proofs.Keyed

/-!
# What a reader can give

Whatever the text is, a value that is read from it has numbers of 64 bits only (`Sound`), and its
brackets are nested at most as deep as the reader goes (`Within`). Both are kept by every step of the
reader, and are put together for a whole value in `gives_value`.
-/

namespace NodeTelemetry.Json

open Text

/-- A value whose brackets are nested at most so deep. -/
def Within : Nat → Json → Prop
  | 0, arr _ | 0, obj _ => False
  | depth + 1, arr vs => ∀ v ∈ vs, Within depth v
  | depth + 1, obj ms => ∀ m ∈ ms, Within depth m.2
  | _, null | _, bool _ | _, int _ | _, real _ | _, str _ => True

instance decidableWithin : (depth : Nat) → (v : Json) → Decidable (Within depth v)
  | 0, arr _ | 0, obj _ => inferInstanceAs (Decidable False)
  | depth + 1, arr vs => @List.decidableBAll _ _ (fun v => decidableWithin depth v) vs
  | depth + 1, obj ms =>
    @List.decidableBAll _ (fun m : String × Json => Within depth m.2)
      (fun m => decidableWithin depth m.2) ms
  | 0, null | 0, bool _ | 0, int _ | 0, real _ | 0, str _ => inferInstanceAs (Decidable True)
  | _ + 1, null | _ + 1, bool _ | _ + 1, int _ | _ + 1, real _ | _ + 1, str _ =>
    inferInstanceAs (Decidable True)

/-- A value whose numbers have 64 bits. -/
inductive Sound : Json → Prop where
  /-- `null`. -/
  | null : Sound null
  /-- A truth value. -/
  | bool (b : Bool) : Sound (bool b)
  /-- An integer of 64 bits, with a sign or without. -/
  | int (i : Int) (low : -(maxInteger + 1) ≤ i) (high : i ≤ maxWord) : Sound (int i)
  /-- A number of 64 bits. -/
  | real (x : Binary) (fits : x.Fits) : Sound (real x)
  /-- A string. -/
  | str (s : String) : Sound (str s)
  /-- An array of such values. -/
  | arr (vs : List Json) (items : ∀ v ∈ vs, Sound v) : Sound (arr vs)
  /-- An object of such values. -/
  | obj (ms : List (String × Json)) (members : ∀ m ∈ ms, Sound m.2) : Sound (obj ms)

/-- A value that a reader of some depth can give. -/
def Readable (depth : Nat) (v : Json) : Prop := v.Sound ∧ v.Within depth

theorem readable_arr {depth : Nat} {vs : List Json} (h : ∀ v ∈ vs, v.Readable depth) :
    (arr vs).Readable (depth + 1) :=
  ⟨.arr vs fun v hv => (h v hv).1, fun v hv => (h v hv).2⟩

theorem readable_obj {depth : Nat} {ms : List (String × Json)}
    (h : ∀ m ∈ ms, m.2.Readable depth) : (obj ms).Readable (depth + 1) :=
  ⟨.obj ms fun m hm => (h m hm).1, fun m hm => (h m hm).2⟩

/-- The members of an object that can be read can be read one level below. -/
theorem Readable.members {depth : Nat} {ms : List (String × Json)}
    (h : (obj ms).Readable (depth + 1)) : ∀ m ∈ ms, m.2.Readable depth := by
  obtain ⟨hsound, hwithin⟩ := h
  cases hsound with
  | obj _ hmembers => exact fun m hm => ⟨hmembers m hm, hwithin m hm⟩

/-- A value with parts. -/
def HasParts : Json → Prop
  | arr _ | obj _ => True
  | null | bool _ | int _ | real _ | str _ => False

/-- A value without parts is within any depth. -/
theorem within_of_scalar {v : Json} (h : ¬v.HasParts) (depth : Nat) : v.Within depth := by
  cases v with
  | arr | obj => exact absurd trivial h
  | null | bool | int | real | str =>
    cases depth with
    | zero => trivial
    | succ depth => trivial

theorem readable_scalar {v : Json} (hsound : v.Sound) (h : ¬v.HasParts) (depth : Nat) :
    v.Readable depth := ⟨hsound, within_of_scalar h depth⟩

namespace Reader

/-! ### Numbers -/

theorem fits_scale {x : Binary} (hx : x.Fits) (exponent : Int) (fuel : Nat) {y : Binary}
    (h : scale x exponent fuel = some y) : y.Fits := by
  induction fuel generalizing x exponent with
  | zero => exact Option.some.inj h ▸ hx
  | succ fuel ih =>
    unfold scale at h
    dsimp only at h
    split at h
    · split at h
      · split at h
        · exact Option.some.inj h ▸ Binary.fits_mul _ _
        · cases h
      · exact Option.some.inj h ▸ Binary.fits_div _ _
    · split at h
      · exact Option.some.inj h ▸ hx
      · split at h
        · cases h
        · exact ih (Binary.fits_div _ _) _ h

theorem sound_finishReal (negative : Bool) (n : Nat) (exponent : Int) (gs : List Glyph) :
    Gives Sound (finishReal negative n exponent gs) := by
  unfold finishReal
  split
  · rename_i x hx
    refine gives_ok (.real x ?_) gs
    obtain ⟨y, hy, rfl⟩ := Option.map_eq_some_iff.mp hx
    have hfits := fits_scale (Binary.fits_ofNat n) exponent 4 hy
    cases negative with
    | true => exact hfits.neg
    | false => exact hfits
  · exact gives_error _ _

theorem sound_exponentPart (negative : Bool) (n : Nat) (before : Int) (gs : List Glyph) :
    Gives Sound (exponentPart negative n before gs) := by
  unfold exponentPart
  split
  split
  · exact gives_error _ _
  · split
    · split
      · exact sound_finishReal _ _ _ _
      · split
        · exact gives_error _ _
        · exact gives_ok (.real _ (Binary.fits_zero negative)) _
    · exact gives_error _ _

theorem sound_fractionPart (negative : Bool) (n : Nat) (before : Int) (gs : List Glyph) :
    Gives Sound (fractionPart negative n before gs) := by
  unfold fractionPart
  split
  · dsimp only
    split
    · exact sound_exponentPart _ _ _ _
    · exact sound_finishReal _ _ _ _
  · split
    · exact gives_error _ _
    · exact gives_error _ _

theorem sound_ofDigits (negative : Bool) {n : Nat} (h : n ≤ maxWord) :
    Sound (ofDigits negative n) := by
  unfold ofDigits
  split
  · split
    · rename_i hrange
      refine .int _ ?_ ?_
      · omega
      · omega
    · exact .real _ (Binary.fits_ofNat n).neg
  · exact .int _ (by unfold maxInteger; omega) (by omega)

theorem sound_afterInteger (negative : Bool) {n : Nat} (h : n ≤ maxWord) (dropped : Nat)
    (gs : List Glyph) : Gives Sound (afterInteger negative n dropped gs) := by
  unfold afterInteger
  split
  · exact sound_fractionPart _ _ _ _
  · split
    · exact sound_exponentPart _ _ _ _
    · split
      · exact gives_ok (sound_ofDigits negative h) _
      · exact sound_finishReal _ _ _ _

/-- A significand is a word. -/
theorem significand_le {n : Nat} (h : n ≤ maxWord) (taken : Nat) (gs : List Glyph) :
    (significand n taken gs).1 ≤ maxWord := by
  induction gs generalizing n taken with
  | nil => exact h
  | cons g gs ih =>
    unfold significand
    split
    · exact h
    · split
      · exact h
      · rename_i hle
        exact ih (Nat.le_of_not_lt hle) _

theorem sound_unsignedNumber (negative : Bool) (gs : List Glyph) :
    Gives Sound (unsignedNumber negative gs) := by
  unfold unsignedNumber
  cases gs with
  | nil => exact gives_error _ _
  | cons g rest =>
    dsimp only
    split
    · exact gives_error _ _
    · split
      · exact gives_error _ _
      · exact sound_afterInteger negative (Nat.zero_le _) _ _
    · exact sound_afterInteger negative (significand_le (Nat.zero_le _) 0 (g :: rest)) _ _

/-- A number that is read has 64 bits. -/
theorem sound_number (gs : List Glyph) : Gives Sound (number gs) := by
  unfold number
  split
  · exact sound_unsignedNumber _ _
  · exact sound_unsignedNumber _ _

/-! ### Values with parts -/

/-- What comes of a part that has a property. -/
theorem gives_bind_of {α β : Type} {q : α → Prop} {p : β → Prop}
    {r : Except Fault (α × List Glyph)} {f : α × List Glyph → Except Fault (β × List Glyph)}
    (hr : Gives q r) (h : ∀ a rest, q a → Gives p (f (a, rest))) : Gives p (r >>= f) := by
  cases r with
  | error e => exact gives_error p e
  | ok a => exact h a.1 a.2 (hr a.1 a.2 rfl)

/-- The items of an array are what the reader of an item gives. -/
theorem gives_items {α : Type} {p : α → Prop} {item : Reader α} (h : ∀ gs, Gives p (item gs))
    (fuel : Nat) (first : Bool) {acc : List α} (hacc : ∀ a ∈ acc, p a) (gs : List Glyph) :
    Gives (fun as => ∀ a ∈ as, p a) (items item fuel first acc gs) := by
  induction fuel generalizing first acc gs with
  | zero => exact gives_error _ _
  | succ fuel ih =>
    refine gives_bind fun more rest => ?_
    cases more with
    | false =>
      refine gives_ok (fun a ha => ?_) _
      exact hacc a (List.mem_reverse.mp ha)
    | true =>
      exact gives_bind_of (h rest) fun a rest ha =>
        ih false (List.forall_mem_cons.mpr ⟨ha, hacc⟩) rest

/-- The values of the members of an object are what the reader of a value gives. -/
theorem gives_members {α : Type} {p : α → Prop} {item : Reader α} (h : ∀ gs, Gives p (item gs))
    (limit fuel : Nat) (first : Bool) {acc : List (String × α)} (hacc : ∀ m ∈ acc, p m.2)
    (gs : List Glyph) :
    Gives (fun ms => ∀ m ∈ ms, p m.2) (members limit item fuel first acc gs) := by
  induction fuel generalizing first acc gs with
  | zero => exact gives_error _ _
  | succ fuel ih =>
    refine gives_bind fun key rest => ?_
    cases key with
    | none =>
      refine gives_ok (fun m hm => ?_) _
      exact hacc m (List.mem_reverse.mp hm)
    | some k =>
      refine gives_bind fun _ rest => ?_
      exact gives_bind_of (h rest) fun a rest ha =>
        ih false (List.forall_mem_cons.mpr ⟨ha, hacc⟩) rest

/-- A number that is read is a number of 64 bits, whatever else it is. -/
theorem gives_number {p : Json → Prop} (h : ∀ v : Json, v.Sound → ¬v.HasParts → p v)
    (gs : List Glyph) : Gives p (number gs) := by
  intro v rest hv
  have hnumber := isNumber_number gs v rest hv
  refine h v (sound_number gs v rest hv) fun hparts => ?_
  cases v with
  | arr | obj => exact hnumber.elim
  | null | bool | int | real | str => exact hparts.elim

/-- **What is put together as the reader puts it together holds of every value that is read**: it
holds of values without parts, it passes from items to their array one level up, and from the values
of members to their object. -/
theorem gives_value_of {p : Nat → Json → Prop}
    (scalar : ∀ (depth : Nat) (v : Json), v.Sound → ¬v.HasParts → p depth v)
    (arr : ∀ (depth : Nat) (vs : List Json), (∀ v ∈ vs, p depth v) → p (depth + 1) (.arr vs))
    (obj : ∀ (depth : Nat) (ms : List (String × Json)), (∀ m ∈ ms, p depth m.2) →
      p (depth + 1) (ofMembers ms))
    (fuel depth : Nat) (gs : List Glyph) : Gives (p depth) (value fuel depth gs) := by
  induction depth generalizing gs with
  | zero =>
    unfold value
    split
    · exact gives_error _ _
    · exact gives_bind fun _ rest => gives_ok (scalar 0 _ .null id) rest
    · exact gives_bind fun _ rest => gives_ok (scalar 0 _ (.bool true) id) rest
    · exact gives_bind fun _ rest => gives_ok (scalar 0 _ (.bool false) id) rest
    · exact gives_bind fun s rest => gives_ok (scalar 0 _ (.str s) id) rest
    · exact gives_error _ _
    · exact gives_error _ _
    · split
      · exact gives_number (scalar 0) _
      · exact gives_error _ _
  | succ depth ih =>
    unfold value
    split
    · exact gives_error _ _
    · exact gives_bind fun _ rest => gives_ok (scalar _ _ .null id) rest
    · exact gives_bind fun _ rest => gives_ok (scalar _ _ (.bool true) id) rest
    · exact gives_bind fun _ rest => gives_ok (scalar _ _ (.bool false) id) rest
    · exact gives_bind fun s rest => gives_ok (scalar _ _ (.str s) id) rest
    · exact gives_bind_of (gives_items ih fuel true (List.forall_mem_nil _) _) fun vs rest hvs =>
        gives_ok (arr depth vs hvs) rest
    · exact gives_bind_of (gives_members ih fuel fuel true (List.forall_mem_nil _) _)
        fun ms rest hms => gives_ok (obj depth ms hms) rest
    · split
      · exact gives_number (scalar _) _
      · exact gives_error _ _

/-- **A value that is read has numbers of 64 bits, and is nested at most as deep as the reader
goes.** -/
theorem gives_value (fuel depth : Nat) (gs : List Glyph) :
    Gives (Readable depth) (value fuel depth gs) :=
  gives_value_of (fun depth _ hsound hparts => readable_scalar hsound hparts depth)
    (fun _ _ => readable_arr)
    (fun _ _ hms => readable_obj fun m hm => hms m (Keyed.mem_of_mem_ofList hm)) fuel depth gs

end Reader

/-- A value that is read from a whole text. -/
theorem readable_of_read {text : List Glyph} {v : Json} (h : read text = .ok v) :
    v.Readable maxDepth := of_readWhole (fun fuel => Reader.gives_value fuel maxDepth) h

end NodeTelemetry.Json
