import NodeTelemetry.Json.Reader

/-!
# Strings read from what was written

A string is read from its quoted form, whatever its characters are (`stringRest_quote`): each
character from its escaped form (`stringRest_escapeChar`), a control character without a letter of
its own from its code point.
-/

namespace NodeTelemetry.Json

open Text

namespace Reader

variable {rest : List Glyph}

/-- A hexadecimal digit that is written is read. -/
theorem hexDigit?_hexDigit : ∀ n < 16, hexDigit? (.scalar (hexDigit n)) = some n := by decide

/-- A control character is read from its code point. -/
theorem codePoint_control {c : Char} (h : c.toNat < 0x20) :
    codePoint ([.scalar '0', .scalar '0', .scalar (hexDigit (c.toNat / 16)),
      .scalar (hexDigit (c.toNat % 16))] ++ rest) = .ok (c, rest) := by
  have hhigh := hexDigit?_hexDigit (c.toNat / 16) (by omega)
  have hlow := hexDigit?_hexDigit (c.toNat % 16) (by omega)
  have hsize : ∀ a < 2, ∀ b < 16, Glyph.totalSize [.scalar '0', .scalar '0',
      .scalar (hexDigit a), .scalar (hexDigit b)] = 4 := by decide
  have hfour : hexFour ([.scalar '0', .scalar '0', .scalar (hexDigit (c.toNat / 16)),
      .scalar (hexDigit (c.toNat % 16))] ++ rest) = .ok (c.toNat, rest) := by
    unfold hexFour
    dsimp only [List.cons_append, List.nil_append, List.take]
    rw [hsize _ (by omega) _ (by omega), hhigh, hlow]
    show Except.ok (((0 * 16 + 0) * 16 + c.toNat / 16) * 16 + c.toNat % 16, rest) = _
    congr 2
    omega
  unfold codePoint
  rw [hfour]
  dsimp only [bind, Except.bind]
  rw [if_neg (by omega), if_pos (.inl (by omega)), Char.ofNat_toNat]
  rfl

/-- A character that an escape stands for. -/
theorem stringRest_escape {gs : List Glyph} {c : Char} (h : escape gs = .ok (c, rest)) (fuel : Nat)
    (acc : List Char) :
    stringRest (fuel + 1) acc 0 (.scalar '\\' :: gs) = stringRest fuel (c :: acc) 0 rest := by
  rw [stringRest, h]
  rfl

/-- One character of a string is read from its escaped form. -/
theorem stringRest_escapeChar (fuel : Nat) (acc : List Char) (c : Char) :
    stringRest (fuel + 1) acc 0 ((escapeChar c).map .scalar ++ rest) =
      stringRest fuel (c :: acc) 0 rest := by
  unfold escapeChar
  split
  case h_8 hquote hbackslash _ _ _ _ _ =>
    split
    · rename_i hcontrol
      have hescape : escape (.scalar 'u' :: ([.scalar '0', .scalar '0',
          .scalar (hexDigit (c.toNat / 16)), .scalar (hexDigit (c.toNat % 16))] ++ rest)) =
        .ok (c, rest) := codePoint_control hcontrol
      exact stringRest_escape hescape fuel acc
    · rename_i hplain
      show stringRest (fuel + 1) acc 0 (.scalar c :: rest) = _
      rw [stringRest]
      · rw [if_neg hplain]
        rfl
      · exact hquote
      · exact hbackslash
  all_goals rfl

/-- **A string is read from its quoted form**, after the opening quote. -/
theorem stringRest_quote (cs : List Char) (acc : List Char) {fuel : Nat} (h : cs.length < fuel) :
    stringRest fuel acc 0 ((cs.flatMap escapeChar ++ ['"']).map .scalar ++ rest) =
      .ok (String.ofList (acc.reverse ++ cs), rest) := by
  induction cs generalizing fuel acc with
  | nil =>
    obtain ⟨fuel, rfl⟩ := Nat.exists_eq_succ_of_ne_zero (Nat.ne_of_gt h)
    rw [List.append_nil]
    rfl
  | cons c cs ih =>
    obtain ⟨fuel, rfl⟩ := Nat.exists_eq_succ_of_ne_zero (Nat.ne_of_gt (Nat.zero_lt_of_lt h))
    rw [List.flatMap_cons, List.append_assoc, List.map_append, List.append_assoc,
      stringRest_escapeChar, ih (c :: acc) (Nat.lt_of_succ_lt_succ h), List.reverse_cons,
      List.append_assoc]
    rfl

end Reader

end NodeTelemetry.Json
