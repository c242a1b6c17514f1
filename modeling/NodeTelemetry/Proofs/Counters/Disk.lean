import Mathlib.Algebra.BigOperators.Group.List.Basic
import NodeTelemetry.Counters.Disk
import NodeTelemetry.Proofs.Text.Digits

/-!
# Totals of the block devices as exact sums

The totals are added up line by line, and each product and each sum is held at the largest word. What
comes out is the exact sum over all lines, held once (`parse_eq_sums`). The reason is that a total
that is held already stays the same if what was added to it before is not held (`saturate_add`), so
the totals so far are at all times the held form of exact ones. That is the invariant of the
induction on the lines (`foldl_addLine`).

From the sums all else follows: they do not depend on the order of the lines, they only grow with
further lines, and a line that is too short adds nothing.
-/

namespace NodeTelemetry.DiskTotals

/-! ### What a line counts -/

/-- The sectors that a word counts: the number that its digits write, which may stand behind a sign
`+`, and none if it is no word of 64 bits. -/
def sectors (word : List Char) : Nat :=
  let digits := Text.behindPlus word
  if digits ≠ [] ∧ Text.AllDigits digits ∧ Text.ofDigits digits ≤ Text.maxWord then
    Text.ofDigits digits
  else 0

/-- A line is that of a block device if it has at least ten words. -/
def IsDevice (line : List Char) : Prop := 10 ≤ (Text.words line).length

instance (line : List Char) : Decidable (IsDevice line) := inferInstanceAs (Decidable (_ ≤ _))

/-- The sectors that the words of some lines at a place count together, short lines left out. Places
are counted from zero. -/
def sectorsAt (place : Nat) (lines : List (List Char)) : Nat :=
  ((lines.filter IsDevice).map fun line => sectors ((Text.words line).getD place [])).sum

theorem getD_word? (word : List Char) : (Text.word? word).getD 0 = sectors word := by
  have hiff := Text.word?_eq_some word
  unfold sectors
  dsimp only
  cases hword : Text.word? word with
  | none =>
    rw [if_neg]
    · rfl
    · rintro ⟨hne, hdigits, hle⟩
      have hsome := (hiff _).mpr ⟨hne, hdigits, rfl, hle⟩
      rw [hword] at hsome
      cases hsome
  | some n =>
    obtain ⟨hne, hdigits, rfl, hle⟩ := (hiff n).mp hword
    rw [if_pos ⟨hne, hdigits, hle⟩]
    rfl

theorem sectorsAt_cons (place : Nat) (line : List Char) (lines : List (List Char)) :
    sectorsAt place (line :: lines) =
      (if IsDevice line then sectors ((Text.words line).getD place []) else 0) +
        sectorsAt place lines := by
  unfold sectorsAt
  by_cases h : IsDevice line
  · rw [if_pos h, List.filter_cons_of_pos (by simpa using h), List.map_cons, List.sum_cons]
  · rw [if_neg h, List.filter_cons_of_neg (by simpa using h), Nat.zero_add]

theorem sectorsAt_append (place : Nat) (lines others : List (List Char)) :
    sectorsAt place (lines ++ others) = sectorsAt place lines + sectorsAt place others := by
  unfold sectorsAt
  rw [List.filter_append, List.map_append, List.sum_append]

/-- Only the lines of block devices count, in any order. -/
theorem sectorsAt_congr {lines others : List (List Char)}
    (h : (others.filter IsDevice).Perm (lines.filter IsDevice)) (place : Nat) :
    sectorsAt place others = sectorsAt place lines := (h.map _).sum_eq

/-! ### Held numbers -/

/-- It does not matter whether what is added was held before. -/
theorem saturate_add (m n : Nat) : saturate (saturate m + saturate n) = saturate (m + n) := by
  unfold saturate
  omega

theorem addSectors_saturate (m : Nat) (word : List Char) :
    addSectors (saturate m) word = saturate (m + sectorBytes * sectors word) := by
  unfold addSectors
  rw [getD_word?, saturate_add, Nat.mul_comm]

/-- A line of a block device adds what its sixth and its tenth word count, and no other line adds
anything. -/
theorem addLine_eq (totals : Nat × Nat) (line : List Char) :
    addLine totals line =
      if IsDevice line then
        (addSectors totals.1 ((Text.words line).getD 5 []),
          addSectors totals.2 ((Text.words line).getD 9 []))
      else totals := by
  unfold addLine
  by_cases h : IsDevice line
  · rw [if_pos h]
    unfold IsDevice at h
    generalize Text.words line = words at h
    match words, h with
    | _ :: _ :: _ :: _ :: _ :: _ :: _ :: _ :: _ :: _ :: _, _ => rfl
  · rw [if_neg h]
    split
    · rename_i hwords
      refine absurd ?_ h
      unfold IsDevice
      rw [hwords]
      simp only [List.length_cons]
      omega
    · rfl

/-- One line moves held totals as it moves exact ones. -/
theorem addLine_saturate (m n : Nat) (line : List Char) :
    addLine (saturate m, saturate n) line =
      (saturate (m + sectorBytes * sectorsAt 5 [line]),
        saturate (n + sectorBytes * sectorsAt 9 [line])) := by
  rw [addLine_eq, sectorsAt_cons, sectorsAt_cons]
  by_cases h : IsDevice line
  · rw [if_pos h, if_pos h, if_pos h, addSectors_saturate, addSectors_saturate]
    rfl
  · rw [if_neg h, if_neg h, if_neg h]
    rfl

/-- **Held totals are the held form of exact ones**, after any lines. -/
theorem foldl_addLine (lines : List (List Char)) (m n : Nat) :
    lines.foldl addLine (saturate m, saturate n) =
      (saturate (m + sectorBytes * sectorsAt 5 lines),
        saturate (n + sectorBytes * sectorsAt 9 lines)) := by
  induction lines generalizing m n with
  | nil => rfl
  | cons line lines ih =>
    have hsplit (place : Nat) :
        sectorsAt place (line :: lines) = sectorsAt place [line] + sectorsAt place lines :=
      sectorsAt_append place [line] lines
    rw [List.foldl_cons, addLine_saturate, ih, hsplit, hsplit, Nat.mul_add, Nat.mul_add,
      Nat.add_assoc, Nat.add_assoc]

theorem toNat_ofNat_saturate (n : Nat) : (UInt64.ofNat (saturate n)).toNat = saturate n := by
  refine UInt64.toNat_ofNat_of_lt' (Nat.lt_of_le_of_lt (Nat.min_le_left Text.maxWord n) ?_)
  decide

/-- The totals are what the held sums are. -/
theorem parse_eq (content : String) :
    parse content =
      ⟨UInt64.ofNat (saturate (sectorBytes * sectorsAt 5 (Text.lines content.toList))),
        UInt64.ofNat (saturate (sectorBytes * sectorsAt 9 (Text.lines content.toList)))⟩ := by
  have hfold := foldl_addLine (Text.lines content.toList) 0 0
  rw [Nat.zero_add, Nat.zero_add] at hfold
  unfold parse
  rw [show ((0, 0) : Nat × Nat) = (saturate 0, saturate 0) from rfl, hfold]

/-- **The totals are exact sums, held once.** For every text the bytes read are 512 times the exact
sum of the sixth words of its lines and the bytes written are 512 times that of the tenth words, over
all lines of at least ten words, each held at the largest word; a word that is no number counts as
none. So another text has the same totals if it has the same such lines in any order, whatever its
shorter lines are, and it has no smaller ones if it has the lines of the first text and others
between them. -/
theorem parse_eq_sums (content : String) :
    let lines := Text.lines content.toList
    let totals := parse content
    totals.readBytes.toNat = min (2 ^ 64 - 1) (512 * sectorsAt 5 lines) ∧
      totals.writeBytes.toNat = min (2 ^ 64 - 1) (512 * sectorsAt 9 lines) ∧
      ∀ other : String,
        let others := Text.lines other.toList
        ((others.filter IsDevice).Perm (lines.filter IsDevice) → parse other = totals) ∧
        (others.Perm lines → parse other = totals) ∧
        ∀ added, others.Perm (lines ++ added) →
          totals.readBytes ≤ (parse other).readBytes ∧
            totals.writeBytes ≤ (parse other).writeBytes := by
  intro lines totals
  have hparse : totals = ⟨UInt64.ofNat (saturate (sectorBytes * sectorsAt 5 lines)),
      UInt64.ofNat (saturate (sectorBytes * sectorsAt 9 lines))⟩ := parse_eq content
  have hsame (other : String)
      (h : ((Text.lines other.toList).filter IsDevice).Perm (lines.filter IsDevice)) :
      parse other = totals := by
    rw [hparse, parse_eq, sectorsAt_congr h, sectorsAt_congr h]
  refine ⟨?_, ?_, fun other => ⟨hsame other, fun h => hsame other (h.filter _), ?_⟩⟩
  · rw [hparse]
    exact toNat_ofNat_saturate _
  · rw [hparse]
    exact toNat_ofNat_saturate _
  · intro added h
    have hgrows (place : Nat) : saturate (sectorBytes * sectorsAt place lines) ≤
        saturate (sectorBytes * sectorsAt place (Text.lines other.toList)) := by
      have hsum : sectorsAt place (Text.lines other.toList) =
          sectorsAt place lines + sectorsAt place added := by
        rw [sectorsAt_congr (h.filter _), sectorsAt_append]
      rw [hsum]
      unfold saturate sectorBytes
      omega
    rw [hparse, parse_eq]
    constructor
    · rw [UInt64.le_iff_toNat_le, toNat_ofNat_saturate, toNat_ofNat_saturate]
      exact hgrows 5
    · rw [UInt64.le_iff_toNat_le, toNat_ofNat_saturate, toNat_ofNat_saturate]
      exact hgrows 9

/-- Two devices and a short line between them. The first device has read more than can be shown, and
the tenth word of the second one is no number. -/
def twoDevices : String :=
  "8 0 sda 1 0 18446744073709551615 0 1 0 3\r\n8 1\n259 0 nvme0n1 5 0 +7 1 6 0 x 2 0\n"

/-- The same devices the other way round, with a blank line in place of the short one. -/
def twoDevicesReversed : String :=
  "259 0 nvme0n1 5 0 +7 1 6 0 x 2 0\n\n8 0 sda 1 0 18446744073709551615 0 1 0 3"

/-- A further device before them. -/
def thirdDevice : String := "7 0 loop0 1 0 1 0 1 0 1\n" ++ twoDevices

theorem parse_eq_sums_two :
    (parse twoDevices).readBytes.toNat = 2 ^ 64 - 1 ∧
      (parse twoDevices).writeBytes.toNat = 1536 ∧
      ((Text.lines twoDevicesReversed.toList).filter IsDevice).Perm
        ((Text.lines twoDevices.toList).filter IsDevice) ∧
      parse twoDevicesReversed = parse twoDevices ∧
      (Text.lines thirdDevice.toList).Perm
        (Text.lines twoDevices.toList ++ ["7 0 loop0 1 0 1 0 1 0 1".toList]) ∧
      (parse twoDevices).readBytes ≤ (parse thirdDevice).readBytes := by
  obtain ⟨hread, hwrite, hother⟩ := parse_eq_sums twoDevices
  have hsame : ((Text.lines twoDevicesReversed.toList).filter IsDevice).Perm
      ((Text.lines twoDevices.toList).filter IsDevice) := by decide
  have hmore : (Text.lines thirdDevice.toList).Perm
      (Text.lines twoDevices.toList ++ ["7 0 loop0 1 0 1 0 1 0 1".toList]) := by decide
  exact ⟨hread.trans (by decide), hwrite.trans (by decide), hsame,
    (hother twoDevicesReversed).1 hsame, hmore, ((hother thirdDevice).2.2 _ hmore).1⟩

end NodeTelemetry.DiskTotals
