import NodeTelemetry.Text.Utf8

/-!
# Reading back an encoded text

The bytes of a text are well-formed UTF-8, so the decoder reads them as the characters of the text,
one scalar value for each. The proof follows the machine through one encoded character: its first
byte says how many tails are due and where the first of them must lie, and each tail adds its six
bits. Between characters the machine holds nothing, so a text is read character by character.

Main statements: `decode_ofString` and `lossy_ofString`.
-/

namespace NodeTelemetry.Utf8

/-! ### The machine on one character -/

/-- A byte below 128 is a character of its own. -/
theorem start_ascii : ∀ n < 128, start (UInt8.ofNat n) = .inl (.scalar (Char.ofNat n)) := by
  decide

/-- A byte that begins two has five bits and one tail due. -/
theorem start_two : ∀ n < 32, 2 ≤ n →
    start (UInt8.ofNat (n + 0xC0)) = .inr ⟨[UInt8.ofNat (n + 0xC0)], n, 1, 0x80, 0xBF⟩ := by
  decide

/-- A byte that begins three has four bits and two tails due. The first tail leaves out the overlong
forms and the surrogates. -/
theorem start_three : ∀ n < 16,
    start (UInt8.ofNat (n + 0xE0)) =
      .inr ⟨[UInt8.ofNat (n + 0xE0)], n, 2, if n = 0 then 0xA0 else 0x80,
        if n = 13 then 0x9F else 0xBF⟩ := by
  decide

/-- A byte that begins four has three bits and three tails due. The first tail leaves out the
overlong forms and the values that are too large. -/
theorem start_four : ∀ n < 5,
    start (UInt8.ofNat (n + 0xF0)) =
      .inr ⟨[UInt8.ofNat (n + 0xF0)], n, 3, if n = 0 then 0x90 else 0x80,
        if n = 4 then 0x8F else 0xBF⟩ := by
  decide

namespace Decoder

/-- A tail in range adds its bits. -/
theorem push_tail (done : List Glyph) (p : Partial) {n : Nat} (hn : n < 64)
    (hleast : p.least.toNat ≤ n + 0x80) (hgreatest : n + 0x80 ≤ p.greatest.toNat) :
    push ⟨done, some p⟩ (UInt8.ofNat (n + 0x80)) =
      if p.due = 1 then ⟨.scalar (Char.ofNat (p.value * 64 + n)) :: done, none⟩
      else ⟨done, some ⟨UInt8.ofNat (n + 0x80) :: p.seen, p.value * 64 + n, p.due - 1, 0x80,
        0xBF⟩⟩ := by
  have hb : (UInt8.ofNat (n + 0x80)).toNat = n + 0x80 := by
    rw [UInt8.toNat_ofNat']
    omega
  have hrange : p.least ≤ UInt8.ofNat (n + 0x80) ∧ UInt8.ofNat (n + 0x80) ≤ p.greatest := by
    rw [UInt8.le_iff_toNat_le, UInt8.le_iff_toNat_le, hb]
    exact ⟨hleast, hgreatest⟩
  unfold push
  simp only [if_pos hrange, hb, Nat.add_sub_cancel]

variable {seen : List UInt8} {value n : Nat} {least greatest : UInt8}

/-- A tail that is not the last one due. -/
theorem push_more (done : List Glyph) {due : Nat} (hn : n < 64) (hleast : least.toNat ≤ n + 0x80)
    (hgreatest : n + 0x80 ≤ greatest.toNat) :
    push ⟨done, some ⟨seen, value, due + 2, least, greatest⟩⟩ (UInt8.ofNat (n + 0x80)) =
      ⟨done, some ⟨UInt8.ofNat (n + 0x80) :: seen, value * 64 + n, due + 1, 0x80, 0xBF⟩⟩ :=
  push_tail done ⟨seen, value, due + 2, least, greatest⟩ hn hleast hgreatest

/-- The last tail completes the character. -/
theorem push_last (done : List Glyph) (hn : n < 64) :
    push ⟨done, some ⟨seen, value, 1, 0x80, 0xBF⟩⟩ (UInt8.ofNat (n + 0x80)) =
      ⟨.scalar (Char.ofNat (value * 64 + n)) :: done, none⟩ :=
  push_tail done ⟨seen, value, 1, 0x80, 0xBF⟩ hn (Nat.le_add_left _ _) (Nat.le_of_lt_succ (by
    show n + 0x80 < 0xC0
    omega))

theorem push_first (done : List Glyph) {b : UInt8} {p : Partial} (h : start b = .inr p) :
    push ⟨done, none⟩ b = ⟨done, some p⟩ := by
  simp only [push, begin, h]

/-- The bytes of a character are read as that character. -/
theorem foldl_push_char (done : List Glyph) (c : Char) :
    (String.utf8EncodeChar c).foldl push ⟨done, none⟩ = ⟨.scalar c :: done, none⟩ := by
  have hc : Char.ofNat c.val.toNat = c := Char.ofNat_toNat c
  have hvalid : c.val.toNat < 0xD800 ∨ 0xDFFF < c.val.toNat ∧ c.val.toNat < 0x110000 := c.valid
  unfold String.utf8EncodeChar
  generalize c.val.toNat = v at hc hvalid
  have htail : v % 64 < 64 := Nat.mod_lt _ (by decide)
  have htail' : v / 64 % 64 < 64 := Nat.mod_lt _ (by decide)
  have htail'' : v / 4096 % 64 < 64 := Nat.mod_lt _ (by decide)
  by_cases h1 : v ≤ 0x7F
  · simp only [if_pos h1, List.foldl_cons, List.foldl_nil]
    simp only [push, begin, start_ascii v (by omega), hc]
  by_cases h2 : v ≤ 0x7FF
  · simp only [if_neg h1, if_pos h2, List.foldl_cons, List.foldl_nil]
    rw [push_first done (start_two (v / 64 % 32) (by omega) (by omega)),
      push_last done htail,
      show v / 64 % 32 * 64 + v % 64 = v by omega, hc]
  by_cases h3 : v ≤ 0xFFFF
  · simp only [if_neg h1, if_neg h2, if_pos h3, List.foldl_cons, List.foldl_nil]
    rw [push_first done (start_three (v / 4096 % 16) (by omega)),
      push_more done htail' ?least ?greatest,
      push_last done htail,
      show (v / 4096 % 16 * 64 + v / 64 % 64) * 64 + v % 64 = v by omega, hc]
    case least =>
      -- no overlong form
      show (ite (v / 4096 % 16 = 0) (0xA0 : UInt8) 0x80).toNat ≤ v / 64 % 64 + 0x80
      split
      · show 0xA0 ≤ _
        omega
      · exact Nat.le_add_left _ _
    case greatest =>
      -- no surrogate
      show v / 64 % 64 + 0x80 ≤ (ite (v / 4096 % 16 = 13) (0x9F : UInt8) 0xBF).toNat
      split
      · show _ ≤ 0x9F
        omega
      · show _ ≤ 0xBF
        omega
  · simp only [if_neg h1, if_neg h2, if_neg h3, List.foldl_cons, List.foldl_nil]
    rw [push_first done (start_four (v / 262144 % 8) (by omega)),
      push_more done htail'' ?least ?greatest,
      push_more done htail' (Nat.le_add_left _ _) (show _ ≤ 0xBF by omega),
      push_last done htail,
      show ((v / 262144 % 8 * 64 + v / 4096 % 64) * 64 + v / 64 % 64) * 64 + v % 64 = v by omega,
      hc]
    case least =>
      show (ite (v / 262144 % 8 = 0) (0x90 : UInt8) 0x80).toNat ≤ v / 4096 % 64 + 0x80
      split
      · show 0x90 ≤ _
        omega
      · exact Nat.le_add_left _ _
    case greatest =>
      show v / 4096 % 64 + 0x80 ≤ (ite (v / 262144 % 8 = 4) (0x8F : UInt8) 0xBF).toNat
      split
      · show _ ≤ 0x8F
        omega
      · show _ ≤ 0xBF
        omega

/-- The bytes of a text are read as its characters. -/
theorem foldl_push_chars (done : List Glyph) (cs : List Char) :
    (cs.flatMap String.utf8EncodeChar).foldl push ⟨done, none⟩ =
      ⟨(cs.map Glyph.scalar).reverse ++ done, none⟩ := by
  induction cs generalizing done with
  | nil => rfl
  | cons c cs ih =>
    rw [List.flatMap_cons, List.foldl_append, foldl_push_char, ih, List.map_cons,
      List.reverse_cons, List.append_assoc]
    rfl

end Decoder

/-! ### Texts -/

theorem ofString_append (s t : String) : ofString (s ++ t) = ofString s ++ ofString t := by
  unfold ofString
  rw [String.toList_append, List.flatMap_append]

/-- The bytes of a character are at least 32 if the character is. -/
theorem printable_char {c : Char} (hc : 0x20 ≤ c.toNat) {b : UInt8}
    (hb : b ∈ String.utf8EncodeChar c) : 0x20 ≤ b.toNat := by
  have hc' : 0x20 ≤ c.val.toNat := hc
  unfold String.utf8EncodeChar at hb
  generalize c.val.toNat = v at hb hc'
  -- of the bytes of a character only a lone one is below 128
  have htail : ∀ n, n + 0x80 < 256 → 0x20 ≤ (UInt8.ofNat (n + 0x80)).toNat := by
    intro n hn
    rw [UInt8.toNat_ofNat', Nat.mod_eq_of_lt hn]
    omega
  by_cases h1 : v ≤ 0x7F
  · simp only [if_pos h1, List.mem_singleton] at hb
    rw [hb, UInt8.toNat_ofNat']
    omega
  by_cases h2 : v ≤ 0x7FF
  · simp only [if_neg h1, if_pos h2, List.mem_cons, List.not_mem_nil, or_false] at hb
    rcases hb with rfl | rfl
    · exact htail (v / 64 % 32 + 0x40) (by omega)
    · exact htail _ (by omega)
  by_cases h3 : v ≤ 0xFFFF
  · simp only [if_neg h1, if_neg h2, if_pos h3, List.mem_cons, List.not_mem_nil, or_false] at hb
    rcases hb with rfl | rfl | rfl
    · exact htail (v / 4096 % 16 + 0x60) (by omega)
    · exact htail _ (by omega)
    · exact htail _ (by omega)
  · simp only [if_neg h1, if_neg h2, if_neg h3, List.mem_cons, List.not_mem_nil, or_false] at hb
    rcases hb with rfl | rfl | rfl | rfl
    · exact htail (v / 262144 % 8 + 0x70) (by omega)
    · exact htail _ (by omega)
    · exact htail _ (by omega)
    · exact htail _ (by omega)

/-- A text of printable characters has printable bytes. -/
theorem printable_ofString {s : String} (h : ∀ c ∈ s.toList, 0x20 ≤ c.toNat) :
    ∀ b ∈ ofString s, 0x20 ≤ b.toNat := by
  intro b hb
  obtain ⟨c, hc, hb⟩ := List.mem_flatMap.mp hb
  exact printable_char (h c hc) hb

/-- An encoded text is read as its characters. -/
theorem decode_ofString (s : String) : decode (ofString s) = Glyph.ofString s := by
  show (Decoder.finish ((s.toList.flatMap String.utf8EncodeChar).foldl Decoder.push ⟨[], none⟩)) = _
  rw [Decoder.foldl_push_chars, List.append_nil]
  exact List.reverse_reverse _

/-- An encoded text is shown as it was. -/
theorem lossy_ofString (s : String) : lossy (ofString s) = s := by
  unfold lossy
  rw [decode_ofString]
  unfold Glyph.ofString
  rw [List.map_map, show Glyph.shown ∘ Glyph.scalar = id from rfl, List.map_id, String.ofList_toList]

/-- An encoded text is read as this text. -/
theorem text?_ofString (s : String) : text? (ofString s) = some s := by
  have hscalar : (Glyph.ofString s).all Glyph.isScalar = true := by
    simp [Glyph.ofString, Glyph.isScalar]
  have hshown : lossy (ofString s) = s := lossy_ofString s
  unfold lossy at hshown
  simp only [text?, decode_ofString] at hshown ⊢
  rw [if_pos hscalar, hshown]

end NodeTelemetry.Utf8
