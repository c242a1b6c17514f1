import Mathlib.Algebra.Order.Ring.Nat
import NodeTelemetry.Text.Utf8

/-!
# Bytes below 128 in a byte text

A byte below 128 is a glyph of its own wherever it stands: it ends a glyph that is being read as
broken and then stands for itself (`decode_append_ascii`). In turn no other byte brings a character
below 128 (`notMem_lossy`), since the table of well-formed sequences leaves out the overlong forms.

Both rest on what the decoder holds between two bytes (`Partial.Long`): the next byte is at least
128, and so is the value that comes of the least bytes that may follow.
-/

namespace NodeTelemetry.Utf8

/-! ### Glyphs that are being read -/

/-- A glyph of several bytes, of which some are due, stands for no character below 128. -/
structure Partial.Long (p : Partial) : Prop where
  /-- Some byte is due. -/
  due_pos : 0 < p.due
  /-- The next byte is none of those below 128. -/
  le_least : 0x80 ≤ p.least.toNat
  /-- The least value that can come of it is at least 128. -/
  le_value : 0x80 ≤ (p.value * 64 + (p.least.toNat - 0x80)) * 64 ^ (p.due - 1)

instance (p : Partial) : Decidable p.Long :=
  decidable_of_iff (0 < p.due ∧ 0x80 ≤ p.least.toNat ∧
      0x80 ≤ (p.value * 64 + (p.least.toNat - 0x80)) * 64 ^ (p.due - 1))
    ⟨fun h => ⟨h.1, h.2.1, h.2.2⟩, fun h => ⟨h.due_pos, h.le_least, h.le_value⟩⟩

/-- A property of bytes is checked value by value. -/
theorem forall_byte {P : UInt8 → Prop} (h : ∀ n < 256, P (UInt8.ofNat n)) (b : UInt8) : P b := by
  have hb := h b.toNat b.toNat_lt
  rwa [UInt8.ofNat_toNat] at hb

/-- What a byte begins, if it is no glyph of its own. -/
theorem long_of_start {b : UInt8} {p : Partial} (h : start b = .inr p) : p.Long := by
  have hall : ∀ b, ∀ p ∈ (start b).getRight?, p.Long := forall_byte (by decide +kernel)
  exact hall b p (by rw [h]; rfl)

/-- What a byte begins, if it is a glyph of its own. -/
theorem glyph_of_start {b : UInt8} {g : Glyph} (h : start b = .inl g) :
    g = .scalar (Char.ofNat b.toNat) ∨ g = .broken [b] := by
  have hall : ∀ b, ∀ g ∈ (start b).getLeft?,
      g = .scalar (Char.ofNat b.toNat) ∨ g = .broken [b] := forall_byte (by decide +kernel)
  exact hall b g (by rw [h]; rfl)

/-- The tails that follow add to the value, and leave what is held long. -/
theorem Partial.Long.next {p : Partial} (h : p.Long) {b : UInt8} (hb : p.least ≤ b)
    (hdue : p.due ≠ 1) (seen : List UInt8) :
    (⟨seen, p.value * 64 + (b.toNat - 0x80), p.due - 1, 0x80, 0xBF⟩ : Partial).Long := by
  have hpos := h.due_pos
  have hleast := h.le_least
  have hle : p.least.toNat ≤ b.toNat := UInt8.le_iff_toNat_le.mp hb
  have htail : 0x80 ≤ (0x80 : UInt8).toNat ∧ (0x80 : UInt8).toNat - 0x80 = 0 := by decide
  have hvalue : (p.value * 64 + (p.least.toNat - 0x80)) * 64 ^ (p.due - 1) ≤
      ((p.value * 64 + (b.toNat - 0x80)) * 64 + ((0x80 : UInt8).toNat - 0x80)) *
        64 ^ (p.due - 1 - 1) := by
    rw [htail.2, Nat.add_zero, Nat.mul_assoc, ← Nat.pow_succ',
      show (p.due - 1 - 1).succ = p.due - 1 by omega]
    exact Nat.mul_le_mul_right _ (by omega)
  exact ⟨Nat.sub_pos_of_lt (by omega), htail.1, Nat.le_trans h.le_value hvalue⟩

/-- The last tail completes a character from 128 on. -/
theorem Partial.Long.last {p : Partial} (h : p.Long) {b : UInt8} (hb : p.least ≤ b)
    (hdue : p.due = 1) : 0x80 ≤ p.value * 64 + (b.toNat - 0x80) := by
  have hvalue := h.le_value
  have hle : p.least.toNat ≤ b.toNat := UInt8.le_iff_toNat_le.mp hb
  rw [hdue, Nat.sub_self, Nat.pow_zero, Nat.mul_one] at hvalue
  omega

namespace Decoder

/-- **What a byte does**: it begins a glyph, behind one that is broken if some byte was due, it
completes a character, or it is a tail behind which another one is due. -/
theorem push_cases (d : Decoder) (b : UInt8) :
    (d.pending = none ∧ d.push b = begin d.done b) ∨
    ∃ p, d.pending = some p ∧
      (d.push b = begin (.broken p.seen.reverse :: d.done) b ∨
        p.least ≤ b ∧ p.due = 1 ∧
          d.push b = ⟨.scalar (Char.ofNat (p.value * 64 + (b.toNat - 0x80))) :: d.done, none⟩ ∨
        p.least ≤ b ∧ p.due ≠ 1 ∧
          d.push b = ⟨d.done, some ⟨b :: p.seen, p.value * 64 + (b.toNat - 0x80), p.due - 1, 0x80,
            0xBF⟩⟩) := by
  unfold push
  cases hpending : d.pending with
  | none => exact .inl ⟨rfl, rfl⟩
  | some p =>
    refine .inr ⟨p, rfl, ?_⟩
    dsimp only
    by_cases hrange : p.least ≤ b ∧ b ≤ p.greatest
    · rw [if_pos hrange]
      by_cases hdue : p.due = 1
      · exact .inr (.inl ⟨hrange.1, hdue, if_pos hdue⟩)
      · exact .inr (.inr ⟨hrange.1, hdue, if_neg hdue⟩)
    · exact .inl (if_neg hrange)

/-- What a decoder holds is long. -/
def Sound (d : Decoder) : Prop := ∀ p, d.pending = some p → p.Long

theorem sound_empty : empty.Sound := nofun

theorem sound_begin (done : List Glyph) (b : UInt8) : (begin done b).Sound := by
  intro p hp
  unfold begin at hp
  cases hstart : start b with
  | inl g =>
    rw [hstart] at hp
    cases hp
  | inr q =>
    rw [hstart] at hp
    obtain rfl := Option.some.inj hp
    exact long_of_start hstart

theorem Sound.push {d : Decoder} (h : d.Sound) (b : UInt8) : (d.push b).Sound := by
  rcases push_cases d b with
    ⟨-, hpush⟩ | ⟨p, hp, hpush | ⟨-, -, hpush⟩ | ⟨hleast, hdue, hpush⟩⟩
  · rw [hpush]
    exact sound_begin _ b
  · rw [hpush]
    exact sound_begin _ b
  · rw [hpush]
    exact nofun
  · rw [hpush]
    intro q hq
    obtain rfl := Option.some.inj hq
    exact (h p hp).next hleast hdue _

theorem Sound.foldl {d : Decoder} (h : d.Sound) (bs : List UInt8) :
    (bs.foldl Decoder.push d).Sound := by
  induction bs generalizing d with
  | nil => exact h
  | cons b bs ih => exact ih (h.push b)

theorem finish_begin_ascii (done : List Glyph) {b : UInt8} (hb : b < 0x80) :
    (begin done b).finish = done.reverse ++ [.scalar (Char.ofNat b.toNat)] := by
  unfold begin
  rw [show start b = .inl (.scalar (Char.ofNat b.toNat)) from if_pos hb]
  exact List.reverse_cons

/-- A byte below 128 ends what is being read, and is a glyph of its own. -/
theorem Sound.finish_push {d : Decoder} (h : d.Sound) {b : UInt8} (hb : b < 0x80) :
    (d.push b).finish = d.finish ++ [.scalar (Char.ofNat b.toNat)] := by
  have hnotTail (p : Partial) (hp : d.pending = some p) : ¬p.least ≤ b := by
    intro hleast
    have hle := Nat.le_trans (h p hp).le_least (UInt8.le_iff_toNat_le.mp hleast)
    exact absurd hle (Nat.not_le_of_lt (UInt8.lt_iff_toNat_lt.mp hb))
  rcases push_cases d b with
    ⟨hp, hpush⟩ | ⟨p, hp, hpush | ⟨hleast, -, -⟩ | ⟨hleast, -, -⟩⟩
  · rw [hpush, finish_begin_ascii _ hb, finish, hp]
  · rw [hpush, finish_begin_ascii _ hb, finish, hp]
  · exact absurd hleast (hnotTail p hp)
  · exact absurd hleast (hnotTail p hp)

/-! ### Characters below 128 -/

/-- Nothing that is read is shown as the character. -/
structure Without (c : Char) (d : Decoder) : Prop where
  /-- What is held is long. -/
  sound : d.Sound
  /-- No glyph that is completed is shown as the character. -/
  shown_ne : ∀ g ∈ d.done, g.shown ≠ c

section Without

variable {c : Char} (hpos : 0 < c.toNat) (hc : c.toNat < 0x80)

include hpos in
/-- A value is shown as the character of that value only. -/
theorem ofNat_ne {n : Nat} (hn : n ≠ c.toNat) : Char.ofNat n ≠ c := by
  have hvalue : (Char.ofNat n).toNat = n ∨ (Char.ofNat n).toNat = 0 := by
    unfold Char.ofNat
    by_cases hvalid : n.isValidChar
    · rw [dif_pos hvalid]
      exact .inl rfl
    · rw [dif_neg hvalid]
      exact .inr rfl
  rintro rfl
  rcases hvalue with h | h
  · exact hn h.symm
  · exact absurd hpos (by omega)

include hc in
theorem broken_ne (bytes : List UInt8) : (Glyph.broken bytes).shown ≠ c := by
  intro h
  rw [← h] at hc
  exact absurd hc (show ¬Char.toNat '\ufffd' < 0x80 by decide)

include hpos hc

theorem without_begin {done : List Glyph} (h : ∀ g ∈ done, g.shown ≠ c) {b : UInt8}
    (hb : b.toNat ≠ c.toNat) : (begin done b).Without c := by
  refine ⟨sound_begin done b, ?_⟩
  unfold begin
  cases hstart : start b with
  | inr p => exact h
  | inl g =>
    refine List.forall_mem_cons.mpr ⟨?_, h⟩
    rcases glyph_of_start hstart with rfl | rfl
    · exact ofNat_ne hpos hb
    · exact broken_ne hc _

theorem Without.push {d : Decoder} (h : d.Without c) {b : UInt8} (hb : b.toNat ≠ c.toNat) :
    (d.push b).Without c := by
  rcases push_cases d b with
    ⟨-, hpush⟩ | ⟨p, hp, hpush | ⟨hleast, hdue, hpush⟩ | ⟨-, -, hpush⟩⟩
  · rw [hpush]
    exact without_begin hpos hc h.shown_ne hb
  · rw [hpush]
    exact without_begin hpos hc (List.forall_mem_cons.mpr ⟨broken_ne hc _, h.shown_ne⟩) hb
  · have hlast := (h.sound p hp).last hleast hdue
    refine ⟨h.sound.push b, ?_⟩
    rw [hpush]
    exact List.forall_mem_cons.mpr ⟨ofNat_ne hpos (by omega), h.shown_ne⟩
  · refine ⟨h.sound.push b, ?_⟩
    rw [hpush]
    exact h.shown_ne

theorem Without.foldl {d : Decoder} (h : d.Without c) {bs : List UInt8}
    (hbs : ∀ b ∈ bs, b.toNat ≠ c.toNat) : (bs.foldl Decoder.push d).Without c := by
  induction bs generalizing d with
  | nil => exact h
  | cons b bs ih =>
    obtain ⟨hb, hbs⟩ := List.forall_mem_cons.mp hbs
    exact ih (h.push hpos hc hb) hbs

omit hpos in
theorem Without.finish {d : Decoder} (h : d.Without c) : ∀ g ∈ d.finish, g.shown ≠ c := by
  intro g hg
  unfold Decoder.finish at hg
  cases hpending : d.pending with
  | none =>
    rw [hpending] at hg
    exact h.shown_ne g (List.mem_reverse.mp hg)
  | some p =>
    rw [hpending] at hg
    rcases List.mem_cons.mp (List.mem_reverse.mp hg) with rfl | hg
    · exact broken_ne hc _
    · exact h.shown_ne g hg

end Without

end Decoder

/-- A byte below 128 after any bytes. -/
theorem decode_append_ascii (bs : List UInt8) {b : UInt8} (hb : b < 0x80) :
    decode (bs ++ [b]) = decode bs ++ [.scalar (Char.ofNat b.toNat)] := by
  unfold decode
  rw [List.foldl_append]
  exact (Decoder.sound_empty.foldl bs).finish_push hb

theorem toList_lossy (bs : List UInt8) : (lossy bs).toList = (decode bs).map Glyph.shown :=
  String.toList_ofList

/-- A byte below 128 at the end is shown as its character. -/
theorem lossy_append_ascii (bs : List UInt8) {b : UInt8} (hb : b < 0x80) :
    (lossy (bs ++ [b])).toList = (lossy bs).toList ++ [Char.ofNat b.toNat] := by
  rw [toList_lossy, toList_lossy, decode_append_ascii bs hb, List.map_append]
  rfl

/-- A character below 128, but for NUL, is shown only where its byte stands. -/
theorem notMem_lossy {c : Char} (hpos : 0 < c.toNat) (hc : c.toNat < 0x80) {bs : List UInt8}
    (h : ∀ b ∈ bs, b.toNat ≠ c.toNat) : c ∉ (lossy bs).toList := by
  have hempty : Decoder.empty.Without c := ⟨Decoder.sound_empty, fun _ hg => nomatch hg⟩
  intro hmem
  rw [toList_lossy] at hmem
  obtain ⟨g, hg, hshown⟩ := List.mem_map.mp hmem
  exact (hempty.foldl hpos hc h).finish hc g hg hshown

end NodeTelemetry.Utf8
