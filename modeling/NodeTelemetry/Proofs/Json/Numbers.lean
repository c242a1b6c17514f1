import NodeTelemetry.Json.Reader
import NodeTelemetry.Proofs.Json.Scaling

/-!
# Numbers read from what was written

What JSON writes for a number is read as a number: an integer as itself (`number_int`), a finite
number of 64 bits as some number (`number_real`). Digits are followed through the loops of the reader
first: they go into a significand while they fit, are skipped after that, or make up an exponent.
Then the layout of a number is taken apart into its digits (`laid_decimal`).
-/

namespace NodeTelemetry.Json

open Text

namespace Reader

/-! ### Digits -/

variable {cs : List Char} {rest : List Glyph}

theorem digit?_scalar {c : Char} (h : c.isDigit = true) :
    digit? (.scalar c) = some (digitValue c) := if_pos h

theorem startsWithDigit_cons {c : Char} {cs : List Char} (h : AllDigits (c :: cs))
    (rest : List Glyph) : startsWithDigit ((c :: cs).map .scalar ++ rest) = true := by
  show (digit? (.scalar c)).isSome = true
  rw [digit?_scalar (allDigits_cons.mp h).1]
  rfl

/-- A text without a digit in front is empty or has something else there. -/
theorem startsWithDigit_eq_false (h : startsWithDigit rest = false) :
    rest = [] ∨ ∃ g gs, rest = g :: gs ∧ digit? g = none := by
  cases rest with
  | nil => exact .inl rfl
  | cons g gs => exact .inr ⟨g, gs, rfl, Option.not_isSome_iff_eq_none.mp (Bool.eq_false_iff.mp h)⟩

/-- Digits go into a significand one after the other, all of them if they write a word. -/
theorem significand_digits (hcs : AllDigits cs) (hrest : startsWithDigit rest = false)
    (n taken : Nat) :
    ∃ j ≤ cs.length, (Nat.ofDigitChars 10 cs n ≤ maxWord → j = cs.length) ∧
      significand n taken (cs.map .scalar ++ rest) =
        (Nat.ofDigitChars 10 (cs.take j) n, taken + j, (cs.drop j).map .scalar ++ rest) := by
  induction cs generalizing n taken with
  | nil =>
    refine ⟨0, le_refl _, fun _ => rfl, ?_⟩
    obtain rfl | ⟨g, gs, rfl, hnone⟩ := startsWithDigit_eq_false hrest
    · rfl
    · show significand n taken (g :: gs) = _
      unfold significand
      rw [hnone]
      rfl
  | cons c cs ih =>
    obtain ⟨hc, hcs⟩ := allDigits_cons.mp hcs
    have hstep : significand n taken ((c :: cs).map .scalar ++ rest) =
        if maxWord < n * 10 + digitValue c then (n, taken, (c :: cs).map .scalar ++ rest)
        else significand (n * 10 + digitValue c) (taken + 1) (cs.map .scalar ++ rest) := by
      show significand n taken (.scalar c :: (cs.map .scalar ++ rest)) = _
      rw [significand, digit?_scalar hc]
      rfl
    rw [hstep, ofDigitChars_cons]
    by_cases hlarge : maxWord < n * 10 + digitValue c
    · rw [if_pos hlarge]
      exact ⟨0, Nat.zero_le _,
        fun hword => absurd (hlarge.trans_le (le_ofDigitChars cs _)) (Nat.not_lt.mpr hword), rfl⟩
    · rw [if_neg hlarge]
      obtain ⟨j, hj, hall, hsignificand⟩ := ih hcs (n * 10 + digitValue c) (taken + 1)
      refine ⟨j + 1, Nat.succ_le_succ hj, fun hword => congrArg Nat.succ (hall hword), ?_⟩
      rw [hsignificand, List.take_succ_cons, ofDigitChars_cons, Nat.add_assoc taken,
        Nat.add_comm 1 j, List.drop_succ_cons]

/-- Digits that are skipped are counted. -/
theorem skipDigits_digits (hcs : AllDigits cs) (hrest : startsWithDigit rest = false)
    (skipped : Nat) :
    skipDigits skipped (cs.map .scalar ++ rest) = (skipped + cs.length, rest) := by
  induction cs generalizing skipped with
  | nil =>
    obtain rfl | ⟨g, gs, rfl, hnone⟩ := startsWithDigit_eq_false hrest
    · rfl
    · show skipDigits skipped (g :: gs) = _
      unfold skipDigits
      rw [hnone]
      rfl
  | cons c cs ih =>
    obtain ⟨hc, hcs⟩ := allDigits_cons.mp hcs
    show skipDigits skipped (.scalar c :: (cs.map .scalar ++ rest)) = _
    unfold skipDigits
    rw [digit?_scalar hc, Option.isSome_some, if_pos rfl, ih hcs, List.length_cons,
      Nat.add_assoc, Nat.add_comm 1]

/-- The digits of an exponent are taken as long as they write one that is not too large. -/
theorem exponentDigits_digits (hcs : AllDigits cs) (hrest : startsWithDigit rest = false)
    (n : Nat) :
    exponentDigits n (cs.map .scalar ++ rest) = (some (Nat.ofDigitChars 10 cs n), rest) ∨
      maxExponent < Nat.ofDigitChars 10 cs n ∧ ∃ j,
        exponentDigits n (cs.map .scalar ++ rest) = (none, (cs.drop j).map .scalar ++ rest) := by
  induction cs generalizing n with
  | nil =>
    refine .inl ?_
    obtain rfl | ⟨g, gs, rfl, hnone⟩ := startsWithDigit_eq_false hrest
    · rfl
    · show exponentDigits n (g :: gs) = _
      unfold exponentDigits
      rw [hnone]
      rfl
  | cons c cs ih =>
    obtain ⟨hc, hcs⟩ := allDigits_cons.mp hcs
    have hstep : exponentDigits n ((c :: cs).map .scalar ++ rest) =
        if maxExponent < n * 10 + digitValue c then (none, cs.map .scalar ++ rest)
        else exponentDigits (n * 10 + digitValue c) (cs.map .scalar ++ rest) := by
      show exponentDigits n (.scalar c :: (cs.map .scalar ++ rest)) = _
      rw [exponentDigits, digit?_scalar hc]
    rw [hstep, ofDigitChars_cons]
    by_cases hlarge : maxExponent < n * 10 + digitValue c
    · rw [if_pos hlarge]
      exact .inr ⟨hlarge.trans_le (le_ofDigitChars cs _), 1, rfl⟩
    · rw [if_neg hlarge]
      rcases ih hcs (n * 10 + digitValue c) with h | ⟨hmax, j, h⟩
      · exact .inl h
      · exact .inr ⟨hmax, j + 1, h⟩

/-! ### What ends a number -/

/-- A text before which a value can end. -/
inductive Stops : List Glyph → Prop where
  /-- The end. -/
  | nil : Stops []
  /-- More values follow. -/
  | comma (gs : List Glyph) : Stops (.scalar ',' :: gs)
  /-- The array ends. -/
  | bracket (gs : List Glyph) : Stops (.scalar ']' :: gs)
  /-- The object ends. -/
  | brace (gs : List Glyph) : Stops (.scalar '\x7d' :: gs)
  /-- White space follows. -/
  | blank (g : Glyph) (gs : List Glyph) (h : isBlank g = true) : Stops (g :: gs)

/-- The four characters of white space. -/
theorem eq_of_isBlank {g : Glyph} (h : isBlank g = true) :
    g = .scalar ' ' ∨ g = .scalar '\n' ∨ g = .scalar '\t' ∨ g = .scalar '\r' := by
  cases g with
  | scalar c => simpa [isBlank, or_assoc] using h
  | broken bs => cases h

theorem Stops.no_digit (h : Stops rest) : startsWithDigit rest = false := by
  cases h with
  | nil => rfl
  | comma | bracket | brace => rfl
  | blank g gs h => rcases eq_of_isBlank h with rfl | rfl | rfl | rfl <;> rfl

theorem Stops.no_exponent (h : Stops rest) : exponent? rest = none := by
  cases h with
  | nil => rfl
  | comma | bracket | brace => rfl
  | blank g gs h => rcases eq_of_isBlank h with rfl | rfl | rfl | rfl <;> rfl

/-- Nothing follows the digits of an integer. -/
theorem Stops.afterInteger (h : Stops rest) (negative : Bool) (n : Nat) :
    afterInteger negative n 0 rest = .ok (ofDigits negative n, rest) := by
  cases h with
  | nil => rfl
  | comma | bracket | brace => rfl
  | blank g gs h => rcases eq_of_isBlank h with rfl | rfl | rfl | rfl <;> rfl

/-! ### Integers and reals -/

/-- The digits before a point, an exponent or the end. -/
theorem unsignedNumber_digits (hcs : AllDigits cs) (hcanonical : Canonical cs)
    (hword : Text.ofDigits cs ≤ maxWord) (hrest : startsWithDigit rest = false)
    (negative : Bool) :
    unsignedNumber negative (cs.map .scalar ++ rest) =
      afterInteger negative (Text.ofDigits cs) 0 rest := by
  rcases hcanonical with rfl | ⟨c, tail, rfl, hne⟩
  · show (if startsWithDigit rest then _ else afterInteger negative 0 0 rest) = _
    rw [hrest]
    rfl
  · obtain ⟨hc, htail⟩ := allDigits_cons.mp hcs
    have hzero : digitValue c ≠ 0 := fun h => hne ((digitValue_spec hc).2 h)
    obtain ⟨j, hj, hall, hsignificand⟩ := significand_digits hcs hrest 0 0
    obtain rfl := hall hword
    have hskip := skipDigits_digits allDigits_nil hrest 0
    rw [List.take_length, List.drop_length] at hsignificand
    rw [List.map_nil, List.nil_append] at hsignificand hskip
    rw [List.map_cons, List.cons_append] at hsignificand ⊢
    obtain ⟨d, hd⟩ := Nat.exists_eq_succ_of_ne_zero hzero
    unfold unsignedNumber
    dsimp only
    rw [digit?_scalar hc, hd]
    rw [hsignificand]
    dsimp only
    rw [hskip]
    exact congrArg (fun n => afterInteger negative n 0 rest) rfl

/-- A real number is read, up to a rest. -/
def ReadsReal (rest : List Glyph) (r : Except Fault (Json × List Glyph)) : Prop :=
  ∃ x, r = .ok (.real x, rest)

theorem readsReal_finishReal {n : Nat} {exponent : Int} (h : Scalable n exponent)
    (negative : Bool) : ReadsReal rest (finishReal negative n exponent rest) := by
  obtain ⟨x, hx⟩ := Option.isSome_iff_exists.mp (h negative)
  refine ⟨x, ?_⟩
  unfold finishReal
  rw [hx]

/-- An exponent after its sign. -/
theorem exponentPart_signed (negative : Bool) (n : Nat) (before : Int) (down : Bool)
    (hcs : AllDigits cs) (hne : cs ≠ []) (rest : List Glyph) :
    exponentPart negative n before
        (.scalar (if down then '-' else '+') :: (cs.map .scalar ++ rest)) =
      match exponentDigits 0 (cs.map .scalar ++ rest) with
      | (some k, rest) =>
        finishReal negative n (Reader.clamp (if down then before - k else before + k)) rest
      | (none, rest) =>
        if n ≠ 0 ∧ !down then .error (faultAt rest .numberOutOfRange)
        else .ok (.real (Binary.zero negative), (skipDigits 0 rest).2) := by
  obtain ⟨c, tail, rfl⟩ := List.exists_cons_of_ne_nil hne
  have hstarts := startsWithDigit_cons hcs rest
  cases down with
  | false =>
    show (if startsWithDigit ((c :: tail).map .scalar ++ rest) then _ else _) = _
    rw [hstarts]
    rfl
  | true =>
    show (if startsWithDigit ((c :: tail).map .scalar ++ rest) then _ else _) = _
    rw [hstarts]
    rfl

/-- The sign and the digits of an exponent. -/
theorem readsReal_exponentPart {n : Nat} {before top : Int} (h : Scalable n (before + top))
    (hsum : before + top ≤ 308) (htop : top ≤ maxExponent) (hrest : startsWithDigit rest = false)
    (negative : Bool) :
    ReadsReal rest (exponentPart negative n before
      (.scalar (if top < 0 then '-' else '+') :: ((decimal top.natAbs).map .scalar ++ rest))) := by
  have hdigits := allDigits_decimal top.natAbs
  have hpart := exponentPart_signed negative n before (top < 0) hdigits (decimal_ne_nil _) rest
  simp only [decide_eq_true_eq] at hpart
  rw [hpart]
  rcases exponentDigits_digits hdigits hrest 0 with hsome | ⟨hlarge, j, hnone⟩
  · have hvalue : Nat.ofDigitChars 10 (decimal top.natAbs) 0 = top.natAbs := ofDigits_decimal _
    have hsigned : (if top < 0 then before - (top.natAbs : Int) else before + top.natAbs) =
        before + top := by
      split
      · omega
      · omega
    rw [hsome, hvalue]
    dsimp only
    rw [hsigned]
    exact readsReal_finishReal (h.clamp hsum) negative
  · have hvalue : maxExponent < top.natAbs := by
      rwa [show Nat.ofDigitChars 10 (decimal top.natAbs) 0 = _ from ofDigits_decimal _] at hlarge
    have hneg : top < 0 := by omega
    have hskip := skipDigits_digits (hdigits.sublist (List.drop_sublist j _)) hrest 0
    refine ⟨Binary.zero negative, ?_⟩
    rw [hnone]
    dsimp only
    rw [if_neg (by simp [hneg]), hskip]

/-- The digits after a point, up to an exponent or the end. -/
theorem fractionPart_digits (hcs : AllDigits cs) (hne : cs ≠ [])
    (hrest : startsWithDigit rest = false) (negative : Bool) (n : Nat) (before : Int) :
    ∃ j ≤ cs.length, (Nat.ofDigitChars 10 cs n ≤ maxWord → j = cs.length) ∧
      fractionPart negative n before (cs.map .scalar ++ rest) =
        (exponent? rest).elim
          (finishReal negative (Nat.ofDigitChars 10 (cs.take j) n) (before - j) rest)
          (exponentPart negative (Nat.ofDigitChars 10 (cs.take j) n) (before - j)) := by
  obtain ⟨j, hj, hall, hsignificand⟩ := significand_digits hcs hrest n 0
  refine ⟨j, hj, hall, ?_⟩
  have hstarts : startsWithDigit (cs.map .scalar ++ rest) = true := by
    obtain ⟨c, tail, rfl⟩ := List.exists_cons_of_ne_nil hne
    exact startsWithDigit_cons hcs rest
  have hskip := skipDigits_digits (hcs.sublist (List.drop_sublist j _)) hrest 0
  unfold fractionPart
  rw [hstarts, hsignificand]
  dsimp only
  rw [hskip, if_pos rfl]
  dsimp only
  rw [Nat.zero_add]
  cases exponent? rest with
  | none => rfl
  | some rest => rfl

/-- A number with a point and without an exponent. -/
theorem readsReal_point {fs : List Char} (hcs : AllDigits cs) (hcanonical : Canonical cs)
    (hword : Text.ofDigits cs ≤ maxWord) (hfs : AllDigits fs) (hne : fs ≠ []) (hrest : Stops rest)
    (negative : Bool) :
    ReadsReal rest (unsignedNumber negative ((cs ++ '.' :: fs).map .scalar ++ rest)) := by
  obtain ⟨j, -, -, hpart⟩ :=
    fractionPart_digits hfs hne hrest.no_digit negative (Text.ofDigits cs) 0
  rw [hrest.no_exponent] at hpart
  have hnumber : unsignedNumber negative ((cs ++ '.' :: fs).map .scalar ++ rest) =
      fractionPart negative (Text.ofDigits cs) 0 (fs.map .scalar ++ rest) := by
    rw [List.map_append, List.append_assoc]
    exact unsignedNumber_digits hcs hcanonical hword rfl negative
  rw [hnumber, hpart]
  refine readsReal_finishReal ?_ negative
  rcases Nat.eq_zero_or_pos j with rfl | hpos
  · exact scalable_word hword
  · exact scalable_of_neg _ (by omega)

/-- A number with one digit before the point, if it has one, and an exponent. -/
theorem readsReal_exponent {c : Char} {fs : List Char} {top : Int} (hcs : AllDigits (c :: fs))
    (hcanonical : Canonical (c :: fs))
    (hscalable : ∀ j ≤ fs.length, (Text.ofDigits (c :: fs) ≤ maxWord → j = fs.length) →
      Scalable (Nat.ofDigitChars 10 (fs.take j) (digitValue c)) (top - j))
    (htop : top ≤ 308) (hrest : Stops rest) (negative : Bool) :
    ReadsReal rest (unsignedNumber negative
      ((c :: if fs = [] then [] else '.' :: fs).map .scalar ++
        .scalar 'e' :: .scalar (if top < 0 then '-' else '+') ::
          ((decimal top.natAbs).map .scalar ++ rest))) := by
  obtain ⟨hc, hfs⟩ := allDigits_cons.mp hcs
  have hone : AllDigits [c] := allDigits_cons.mpr ⟨hc, allDigits_nil⟩
  have hvalue : Text.ofDigits [c] = digitValue c := Nat.zero_add _
  have hword : Text.ofDigits [c] ≤ maxWord := by
    have hnine := (digitValue_spec hc).1
    unfold maxWord
    omega
  have hmax : top ≤ maxExponent := by
    unfold maxExponent
    omega
  by_cases hnil : fs = []
  · subst hnil
    rw [if_pos rfl, unsignedNumber_digits hone hcanonical hword rfl negative, hvalue]
    refine readsReal_exponentPart ?_ (by omega) hmax hrest.no_digit negative
    have h := hscalable 0 (le_refl _) fun _ => rfl
    rwa [show ((0 : Nat) : Int) + top = top - (0 : Nat) by omega]
  · rw [if_neg hnil]
    have hfirst : Canonical [c] := canonical_cons.mpr fun _ => rfl
    have hpoint := fun gs : List Glyph => unsignedNumber_digits hone hfirst hword
      (show startsWithDigit (.scalar '.' :: gs) = false from rfl) negative
    have hpart := fun gs : List Glyph => fractionPart_digits hfs hnil
      (show startsWithDigit (.scalar 'e' :: gs) = false from rfl) negative (digitValue c) 0
    rw [hvalue] at hpoint
    obtain ⟨j, hj, hall, hfraction⟩ := hpart
      (.scalar (if top < 0 then '-' else '+') :: ((decimal top.natAbs).map .scalar ++ rest))
    have hnumber : unsignedNumber negative ((c :: '.' :: fs).map .scalar ++
        .scalar 'e' :: .scalar (if top < 0 then '-' else '+') ::
          ((decimal top.natAbs).map .scalar ++ rest)) =
      exponentPart negative (Nat.ofDigitChars 10 (fs.take j) (digitValue c)) (0 - j)
        (.scalar (if top < 0 then '-' else '+') ::
          ((decimal top.natAbs).map .scalar ++ rest)) := (hpoint _).trans hfraction
    rw [hnumber]
    refine readsReal_exponentPart ?_ (by omega) hmax hrest.no_digit negative
    have h := hscalable j hj (ofDigits_cons c fs ▸ hall)
    rwa [show (0 : Int) - j + top = top - j by omega]

/-! ### Texts of decimals -/

/-- How JSON lays out a decimal. -/
inductive Laid (d : Binary.Decimal) : List Char → Prop where
  /-- At most one digit before the point, and an exponent, which is `top`. -/
  | exponent (c : Char) (fs : List Char) (digits : decimal d.digits = c :: fs) (top : Int)
      (htop : top = fs.length + d.exponent) :
    Laid d ((c :: if fs = [] then [] else '.' :: fs) ++
      'e' :: (if top < 0 then '-' else '+') :: decimal top.natAbs)
  /-- A few digits before the point, some after it, and no exponent. -/
  | point (cs fs : List Char) (whole : AllDigits cs) (canonical : Canonical cs)
      (few : cs.length ≤ 16) (part : AllDigits fs) (some : fs ≠ []) : Laid d (cs ++ '.' :: fs)

/-- The layout in terms of the first digit and of the power of ten at which it stands. -/
theorem decimal_numberLayout {d : Binary.Decimal} {c : Char} {fs : List Char}
    (hds : decimal d.digits = c :: fs) {top : Int} (htop : top = fs.length + d.exponent) :
    numberLayout.decimal d =
      if top < -5 ∨ 15 < top then
        (c :: if fs = [] then [] else '.' :: fs) ++
          'e' :: (if top < 0 then '-' else '+') :: decimal top.natAbs
      else if 0 ≤ d.exponent then
        (c :: (fs ++ List.replicate d.exponent.toNat '0')) ++ ['.', '0']
      else if 0 ≤ top then (c :: fs.take top.toNat) ++ '.' :: fs.drop top.toNat
      else '0' :: '.' :: (List.replicate (-top - 1).toNat '0' ++ c :: fs) := by
  have htop' : ((c :: fs).length : Int) - 1 + d.exponent = top := by
    rw [List.length_cons]
    omega
  unfold Binary.Layout.decimal
  rw [hds]
  dsimp only [numberLayout]
  rw [htop']
  refine if_congr ?_ ?_ (if_congr Iff.rfl rfl (if_congr Iff.rfl rfl rfl))
  · rw [Bool.or_eq_true, decide_eq_true_eq, decide_eq_true_eq]
  · have hsign : (if top < 0 then ['-'] else ['+']) = [if top < 0 then '-' else '+'] :=
      (apply_ite (fun sign : Char => [sign]) _ _ _).symm
    rw [List.append_assoc]
    cases fs with
    | nil => exact congrArg (fun sign => [c] ++ ('e' :: sign ++ decimal top.natAbs)) hsign
    | cons e fs =>
      exact congrArg (fun sign => c :: '.' :: e :: fs ++ ('e' :: sign ++ decimal top.natAbs)) hsign

/-- Every decimal is laid out so. The only one of zero has no zeros after it. -/
theorem laid_decimal {d : Binary.Decimal} (hzero : d.digits = 0 → d.exponent = 0) :
    Laid d (numberLayout.decimal d) := by
  have hdigits := allDigits_decimal d.digits
  have hvalue := ofDigits_decimal d.digits
  have hcanonical := canonical_decimal d.digits
  obtain ⟨c, fs, hds⟩ := List.exists_cons_of_ne_nil (decimal_ne_nil d.digits)
  obtain ⟨top, htop⟩ : ∃ top : Int, top = fs.length + d.exponent := ⟨_, rfl⟩
  rw [hds] at hdigits hvalue hcanonical
  rw [decimal_numberLayout hds htop]
  obtain ⟨hc, hfs⟩ := allDigits_cons.mp hdigits
  by_cases hexponent : top < -5 ∨ 15 < top
  · rw [if_pos hexponent]
    exact .exponent c fs hds top htop
  rw [if_neg hexponent]
  by_cases hwhole : 0 ≤ d.exponent
  · rw [if_pos hwhole]
    refine .point _ ['0'] (hdigits.append (allDigits_zeros _)) (canonical_cons.mpr fun hc => ?_) ?_
      (by decide) (by decide)
    · obtain rfl := canonical_cons.mp hcanonical hc
      rw [hc] at hvalue
      rw [hzero hvalue.symm]
      rfl
    · rw [List.length_cons, List.length_append, List.length_replicate]
      omega
  rw [if_neg hwhole]
  by_cases hone : 0 ≤ top
  · rw [if_pos hone]
    refine .point _ _ (allDigits_cons.mpr ⟨hc, hfs.sublist (List.take_sublist _ _)⟩)
      (canonical_cons.mpr fun hc => ?_) ?_ (hfs.sublist (List.drop_sublist _ _)) ?_
    · rw [canonical_cons.mp hcanonical hc, List.take_nil]
    · rw [List.length_cons, List.length_take]
      omega
    · rw [Ne, List.drop_eq_nil_iff]
      omega
  · rw [if_neg hone]
    exact .point ['0'] _ (by decide) (.inl rfl) (by decide)
      ((allDigits_zeros _).append hdigits) (by simp)

/-- A decimal as JSON writes it is read as some number, if all that the reader may make of it can be
scaled: its digits, or the first of them if they write no word. -/
theorem readsReal_decimal {d : Binary.Decimal} (hzero : d.digits = 0 → d.exponent = 0)
    (htop : ((decimal d.digits).length - 1 + d.exponent : Int) ≤ 308)
    (hscalable : ∀ n k : Nat, n * 10 ^ k ≤ d.digits → (d.digits ≤ maxWord → k = 0 ∧ n = d.digits) →
      Scalable n (d.exponent + k))
    (hrest : Stops rest) (negative : Bool) :
    ReadsReal rest
      (unsignedNumber negative ((numberLayout.decimal d).map .scalar ++ rest)) := by
  have hdigits := allDigits_decimal d.digits
  have hvalue := ofDigits_decimal d.digits
  have hcanonical := canonical_decimal d.digits
  have hlaid := laid_decimal hzero
  generalize numberLayout.decimal d = text at hlaid
  cases hlaid with
  | point cs fs hwhole hcanonical hfew hpart hsome =>
    exact readsReal_point hwhole hcanonical (ofDigits_le_maxWord hwhole hfew) hpart hsome hrest
      negative
  | exponent c fs hds top hdef =>
    rw [hds] at hdigits hvalue hcanonical htop
    rw [List.length_cons] at htop
    have hread := readsReal_exponent hdigits hcanonical (fun j hj hall => ?_)
      (by omega : top ≤ 308) hrest negative
    · rw [List.map_append, List.append_assoc]
      exact hread
    · rw [ofDigits_cons] at hvalue hall
      have h := hscalable (Nat.ofDigitChars 10 (fs.take j) (digitValue c)) (fs.length - j)
        (hvalue ▸ take_mul_le fs (digitValue c) j) fun hword => ?_
      · rwa [show d.exponent + ((fs.length - j : Nat) : Int) = top - j by omega] at h
      · obtain rfl := hall (hvalue ▸ hword)
        rw [List.take_length]
        exact ⟨Nat.sub_self _, hvalue⟩

/-! ### Texts of numbers -/

/-- What is read as a number without a sign begins with a digit. -/
theorem startsWithDigit_of_unsignedNumber {negative : Bool} {gs : List Glyph}
    {r : Json × List Glyph} (h : unsignedNumber negative gs = .ok r) :
    startsWithDigit gs = true := by
  cases gs with
  | nil => cases h
  | cons g gs =>
    show (digit? g).isSome = true
    cases hdigit : digit? g with
    | some d => rfl
    | none =>
      unfold unsignedNumber at h
      dsimp only at h
      rw [hdigit] at h
      cases h

/-- A number without a sign. -/
theorem number_of_ne_minus {g : Glyph} (h : g ≠ .scalar '-') (gs : List Glyph) :
    number (g :: gs) = unsignedNumber false (g :: gs) := by
  unfold number
  split
  · rename_i heq
    exact absurd (List.cons.inj heq).1 h
  · rfl

/-- What is read as a number begins with a sign or a digit. -/
theorem head_of_number {gs : List Glyph} {r : Json × List Glyph} (h : number gs = .ok r) :
    ∃ c tail, gs = .scalar c :: tail ∧ (c = '-' ∨ c.isDigit = true) := by
  cases gs with
  | nil => cases h
  | cons g gs =>
    by_cases hminus : g = .scalar '-'
    · exact ⟨'-', gs, by rw [hminus], .inl rfl⟩
    · have hunsigned := (number_of_ne_minus hminus gs).symm.trans h
      have hstarts : (digit? g).isSome = true := startsWithDigit_of_unsignedNumber hunsigned
      cases g with
      | broken bs => cases hstarts
      | scalar c =>
        refine ⟨c, gs, rfl, .inr (Decidable.not_not.mp fun hdigit => ?_)⟩
        rw [digit?, if_neg hdigit] at hstarts
        cases hstarts

/-- A number after its sign, if it has one. -/
theorem number_signed (negative : Bool) {gs : List Glyph} {r : Json × List Glyph}
    (h : unsignedNumber negative gs = .ok r) :
    number ((if negative then ['-'] else []).map .scalar ++ gs) = .ok r := by
  cases negative with
  | true => exact h
  | false =>
    cases gs with
    | nil => cases h
    | cons g gs =>
      have hne : g ≠ .scalar '-' := by
        rintro rfl
        cases startsWithDigit_of_unsignedNumber h
      exact (number_of_ne_minus hne gs).trans h

/-- **What JSON writes for an integer of 64 bits is read as this integer.** -/
theorem number_int {i : Int} (hlow : -(maxInteger + 1) ≤ i) (hhigh : i ≤ maxWord)
    (hrest : Stops rest) :
    number ((signed i).map .scalar ++ rest) = .ok (.int i, rest) := by
  have hword : Text.ofDigits (decimal i.natAbs) ≤ maxWord := by
    rw [ofDigits_decimal]
    unfold maxInteger at hlow
    unfold maxWord at hhigh ⊢
    omega
  have hunsigned : unsignedNumber (i < 0) ((decimal i.natAbs).map .scalar ++ rest) =
      .ok (.int i, rest) := by
    rw [unsignedNumber_digits (allDigits_decimal _) (canonical_decimal _) hword hrest.no_digit,
      hrest.afterInteger, ofDigits_decimal]
    unfold ofDigits
    by_cases hneg : i < 0
    · rw [if_pos (decide_eq_true hneg), if_pos (by omega)]
      congr 3
      omega
    · rw [if_neg (by simpa using hneg)]
      congr 3
      omega
  have hsigned : signed i = (if decide (i < 0) then ['-'] else []) ++ decimal i.natAbs := by
    unfold signed
    by_cases hneg : i < 0
    · rw [if_pos hneg, if_pos (decide_eq_true hneg)]
      rfl
    · rw [if_neg hneg, if_neg (by simpa using hneg)]
      rfl
  rw [hsigned, List.map_append, List.append_assoc]
  exact number_signed _ hunsigned

/-- **What JSON writes for a finite number of 64 bits is read as a number.** It need not be the same
one, as the reader rounds twice. -/
theorem number_real {negative : Bool} {m : Nat} {e : Int}
    (hfits : (Binary.finite negative m e).Fits) (hrest : Stops rest) :
    ReadsReal rest
      (number ((numberLayout.render .double (.finite negative m e)).map .scalar ++ rest)) := by
  have hunsigned : ReadsReal rest (unsignedNumber negative
      ((numberLayout.decimal
        (if m = 0 then ⟨0, 0⟩ else Binary.Shortest.digits .double m e)).map .scalar ++ rest)) := by
    by_cases hm : m = 0
    · rw [if_pos hm]
      refine readsReal_decimal (fun _ => rfl) (by decide) (fun n k hn hword => ?_) hrest negative
      obtain ⟨rfl, rfl⟩ := hword (by decide)
      exact scalable_word (Nat.zero_le _)
    · rw [if_neg hm]
      have hpos : 0 < m := Nat.pos_of_ne_zero hm
      obtain ⟨hdigits, htop⟩ := digits_range hpos hfits rfl
      exact readsReal_decimal (fun hzero => absurd hzero hdigits.ne') htop
        (fun n k => scalable_digits hpos hfits) hrest negative
  obtain ⟨x, hx⟩ := hunsigned
  refine ⟨x, ?_⟩
  show number (((if negative then ['-'] else []) ++ _).map .scalar ++ rest) = _
  rw [List.map_append, List.append_assoc]
  exact number_signed negative hx

end Reader

end NodeTelemetry.Json
