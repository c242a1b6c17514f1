import NodeTelemetry.Client.Frames

/-!
# Bytes cut at empty lines

Bytes are cut at two line feeds in a row, at the leftmost such place first and then, behind it, at
the leftmost one again. What stands between the cuts are the pieces; what follows the last cut is
the tail, which has no two line feeds in a row. This says exactly where the cuts are (`Cut`), and
`cut` finds them.

The tail is all that has to be kept of some bytes when others follow (`cut_append`): the pieces stay
as they are, and the next ones are those of the tail and what follows it. So each piece belongs to
the part in which the last of its two line feeds stands (`placed_between`).
-/

namespace NodeTelemetry.Client

/-! ### Two line feeds in a row -/

/-- Bytes without two line feeds in a row. -/
def Plain (bs : List UInt8) : Prop := ¬[0x0A, 0x0A] <:+: bs

theorem plain_nil : Plain [] := by
  intro h
  have hlength := h.length_le
  exact absurd hlength (by decide)

theorem plain_cons (b : UInt8) (bs : List UInt8) :
    Plain (b :: bs) ↔ ¬(b = 0x0A ∧ bs.head? = some 0x0A) ∧ Plain bs := by
  have hhead : [0x0A] <+: bs ↔ bs.head? = some 0x0A := by
    cases bs with
    | nil => simp
    | cons c cs => simp [List.cons_prefix_cons, eq_comm]
  unfold Plain
  rw [List.infix_cons_iff, List.cons_prefix_cons, hhead, not_or, eq_comm]

/-- It does not matter from which side the bytes are read. -/
theorem plain_reverse (bs : List UInt8) : Plain bs.reverse ↔ Plain bs :=
  not_congr (@List.reverse_infix _ [0x0A, 0x0A] bs)

/-! ### Cuts -/

/-- The pieces with the line feeds that end them. -/
def joined (pieces : List (List UInt8)) : List UInt8 := pieces.flatMap (· ++ [0x0A, 0x0A])

theorem joined_cons_append (p : List UInt8) (pieces : List (List UInt8)) (rest : List UInt8) :
    joined (p :: pieces) ++ rest = p ++ 0x0A :: 0x0A :: (joined pieces ++ rest) := by
  unfold joined
  rw [List.flatMap_cons, List.append_assoc, List.append_assoc]
  rfl

/-- The bytes are cut into pieces and a tail: at each of the leftmost two line feeds in a row, and
nowhere else. -/
structure Cut (bytes : List UInt8) (pieces : List (List UInt8)) (tail : List UInt8) : Prop where
  /-- Nothing else is between the pieces. -/
  joined_eq : joined pieces ++ tail = bytes
  /-- Each cut is the leftmost one behind the cut before. -/
  leftmost : ∀ p ∈ pieces, Plain (p ++ [0x0A])
  /-- Behind the last cut there is none. -/
  plain_tail : Plain tail

/-- A byte more at the beginning of what was cut. -/
def ahead (b : UInt8) : List (List UInt8) × List UInt8 → List (List UInt8) × List UInt8
  | ([], tail) => ([], b :: tail)
  | (p :: pieces, tail) => ((b :: p) :: pieces, tail)

/-- Cuts bytes: the pieces and the tail. -/
def cut : List UInt8 → List (List UInt8) × List UInt8
  | [] => ([], [])
  | [b] => ([], [b])
  | b :: c :: rest =>
    if b = 0x0A ∧ c = 0x0A then ([] :: (cut rest).1, (cut rest).2)
    else ahead b (cut (c :: rest))

theorem head?_piece (p rest : List UInt8) :
    (p ++ 0x0A :: rest).head? = (p ++ [0x0A]).head? := by
  rw [List.head?_append, List.head?_append, List.head?_cons, List.head?_cons]

theorem cut_cons {b : UInt8} {bs : List UInt8} (h : ¬(b = 0x0A ∧ bs.head? = some 0x0A)) :
    cut (b :: bs) = ahead b (cut bs) := by
  cases bs with
  | nil => rfl
  | cons c cs =>
    rw [cut, if_neg]
    rintro ⟨rfl, rfl⟩
    exact h ⟨rfl, rfl⟩

/-- Without two line feeds in a row there is only a tail. -/
theorem cut_of_plain {bs : List UInt8} (h : Plain bs) : cut bs = ([], bs) := by
  induction bs with
  | nil => rfl
  | cons b bs ih =>
    obtain ⟨hb, hbs⟩ := (plain_cons b bs).mp h
    rw [cut_cons hb, ih hbs]
    rfl

/-- The first piece. -/
theorem cut_piece {p : List UInt8} (h : Plain (p ++ [0x0A])) (rest : List UInt8) :
    cut (p ++ 0x0A :: 0x0A :: rest) = (p :: (cut rest).1, (cut rest).2) := by
  induction p with
  | nil => rfl
  | cons b p ih =>
    rw [List.cons_append, plain_cons] at h
    rw [List.cons_append, cut_cons (by rw [head?_piece]; exact h.1), ih h.2]
    rfl

theorem cut_joined {pieces : List (List UInt8)} (h : ∀ p ∈ pieces, Plain (p ++ [0x0A]))
    (rest : List UInt8) :
    cut (joined pieces ++ rest) = (pieces ++ (cut rest).1, (cut rest).2) := by
  induction pieces with
  | nil => rfl
  | cons p pieces ih =>
    obtain ⟨hp, hpieces⟩ := List.forall_mem_cons.mp h
    rw [joined_cons_append, cut_piece hp, ih hpieces]
    rfl

/-- **Cuts are unique.** -/
theorem Cut.eq_cut {bytes : List UInt8} {pieces : List (List UInt8)} {tail : List UInt8}
    (h : Cut bytes pieces tail) : cut bytes = (pieces, tail) := by
  rw [← h.joined_eq, cut_joined h.leftmost, cut_of_plain h.plain_tail, List.append_nil]

/-- A byte more in front of what was cut makes no further cut. -/
theorem Cut.ahead {b : UInt8} {bs : List UInt8} {r : List (List UInt8) × List UInt8}
    (h : Cut bs r.1 r.2) (hb : ¬(b = 0x0A ∧ bs.head? = some 0x0A)) :
    Cut (b :: bs) (ahead b r).1 (ahead b r).2 := by
  obtain ⟨_ | ⟨p, pieces⟩, tail⟩ := r
  · obtain ⟨rfl, -, htail⟩ := h
    exact ⟨rfl, nofun, (plain_cons b tail).mpr ⟨hb, htail⟩⟩
  · obtain ⟨rfl, hpieces, htail⟩ := h
    obtain ⟨hp, hpieces⟩ := List.forall_mem_cons.mp hpieces
    rw [joined_cons_append, head?_piece] at hb
    have hfirst : Plain (b :: p ++ [0x0A]) := (plain_cons b (p ++ [0x0A])).mpr ⟨hb, hp⟩
    exact ⟨rfl, List.forall_mem_cons.mpr ⟨hfirst, hpieces⟩, htail⟩

/-- **Bytes are cut.** -/
theorem cut_cut (bytes : List UInt8) : Cut bytes (cut bytes).1 (cut bytes).2 := by
  induction bytes using cut.induct with
  | case1 => exact ⟨rfl, nofun, plain_nil⟩
  | case2 b => exact ⟨rfl, nofun, (plain_cons b []).mpr ⟨nofun, plain_nil⟩⟩
  | case3 b c rest hlf ih =>
    obtain ⟨rfl, rfl⟩ := hlf
    rw [cut, if_pos ⟨rfl, rfl⟩]
    exact ⟨congrArg (0x0A :: 0x0A :: ·) ih.joined_eq,
      List.forall_mem_cons.mpr ⟨(plain_cons 0x0A []).mpr ⟨nofun, plain_nil⟩, ih.leftmost⟩,
      ih.plain_tail⟩
  | case4 b c rest hlf ih =>
    rw [cut, if_neg hlf]
    exact ih.ahead fun h => hlf ⟨h.1, Option.some.inj h.2⟩

/-- **Only the tail is needed when other bytes follow.** -/
theorem cut_append (x y : List UInt8) :
    cut (x ++ y) = ((cut x).1 ++ (cut ((cut x).2 ++ y)).1, (cut ((cut x).2 ++ y)).2) := by
  have h := cut_cut x
  rw [← cut_joined h.leftmost, ← List.append_assoc, h.joined_eq]

/-! ### Places -/

/-- Each piece with the place of the line feed that ends it, if the first byte has the place `k`. -/
def placed (k : Nat) : List (List UInt8) → List (Nat × List UInt8)
  | [] => []
  | p :: pieces => (k + p.length + 1, p) :: placed (k + p.length + 2) pieces

theorem length_joined_cons (p : List UInt8) (pieces : List (List UInt8)) :
    (joined (p :: pieces)).length = p.length + 2 + (joined pieces).length := by
  have h := congrArg List.length (joined_cons_append p pieces [])
  simp only [List.append_nil, List.length_append, List.length_cons] at h
  omega

theorem map_snd_placed (k : Nat) (pieces : List (List UInt8)) :
    (placed k pieces).map Prod.snd = pieces := by
  induction pieces generalizing k with
  | nil => rfl
  | cons p pieces ih => exact congrArg (p :: ·) (ih _)

theorem placed_append (k : Nat) (ps qs : List (List UInt8)) :
    placed k (ps ++ qs) = placed k ps ++ placed (k + (joined ps).length) qs := by
  induction ps generalizing k with
  | nil => rfl
  | cons p ps ih =>
    rw [List.cons_append, placed, placed, ih, length_joined_cons, List.cons_append,
      show k + p.length + 2 + (joined ps).length = k + (p.length + 2 + (joined ps).length) by omega]

/-- The pieces end within the bytes that they and their line feeds take. -/
theorem placed_lt {k : Nat} {pieces : List (List UInt8)} :
    ∀ e ∈ placed k pieces, k < e.1 ∧ e.1 < k + (joined pieces).length := by
  induction pieces generalizing k with
  | nil => exact nofun
  | cons p pieces ih =>
    refine List.forall_mem_cons.mpr ⟨?_, fun e he => ?_⟩
    · rw [length_joined_cons]
      omega
    · have h := ih e he
      rw [length_joined_cons]
      omega

/-- No piece ends within what had no two line feeds in a row. -/
theorem le_placed {t : List UInt8} (h : Plain t) (y : List UInt8) (k : Nat) :
    ∀ e ∈ placed k (cut (t ++ y)).1, k + t.length ≤ e.1 := by
  have hcut := cut_cut (t ++ y)
  generalize cut (t ++ y) = r at hcut
  obtain ⟨_ | ⟨p, pieces⟩, tail⟩ := r
  · exact nofun
  · -- if the first piece ended within `t`, its two line feeds would stand in `t`
    have hlong : t.length ≤ p.length + 1 := by
      refine Nat.le_of_not_lt fun hlt => h ?_
      have hjoined := hcut.joined_eq
      rw [joined_cons_append] at hjoined
      have hprefix : p ++ [0x0A, 0x0A] <+: t :=
        List.prefix_of_prefix_length_le ⟨joined pieces ++ tail, by simpa using hjoined⟩
          (List.prefix_append t y) (by rw [List.length_append]; exact hlt)
      exact (List.suffix_append p [0x0A, 0x0A]).isInfix.trans hprefix.isInfix
    refine List.forall_mem_cons.mpr ⟨by dsimp only; omega, fun e he => ?_⟩
    have hlt := placed_lt e he
    omega

/-- The pieces of `x` end in `x`, and those that come of its tail and what follows end behind it. -/
theorem placed_cut_append (x y : List UInt8) :
    placed 0 (cut (x ++ y)).1 = placed 0 (cut x).1 ++
        placed (joined (cut x).1).length (cut ((cut x).2 ++ y)).1 ∧
      (∀ e ∈ placed 0 (cut x).1, e.1 < x.length) ∧
      ∀ e ∈ placed (joined (cut x).1).length (cut ((cut x).2 ++ y)).1, x.length ≤ e.1 := by
  have hlength := congrArg List.length (cut_cut x).joined_eq
  rw [List.length_append] at hlength
  refine ⟨?_, fun e he => ?_, fun e he => ?_⟩
  · rw [cut_append, placed_append, Nat.zero_add]
  · have hlt := placed_lt e he
    omega
  · have hle := le_placed (cut_cut x).plain_tail y _ e he
    omega

/-- **Each piece belongs to the part in which it ends**: of the bytes `x`, `y` and `z`, the pieces
whose last line feed stands in `y` are those that come of `y` and the tail that was left of `x`. -/
theorem placed_between (x y z : List UInt8) :
    (placed 0 (cut (x ++ y ++ z)).1).filter (fun e => x.length ≤ e.1 ∧ e.1 < (x ++ y).length) =
      placed (joined (cut x).1).length (cut ((cut x).2 ++ y)).1 := by
  obtain ⟨hz, hinside, hbehind⟩ := placed_cut_append (x ++ y) z
  obtain ⟨hy, hbefore, hwithin⟩ := placed_cut_append x y
  rw [hy] at hz hinside
  rw [hz, List.filter_append, List.filter_append, List.filter_eq_nil_iff.mpr fun e he => ?before,
    List.filter_eq_self.mpr fun e he => ?within, List.filter_eq_nil_iff.mpr fun e he => ?behind,
    List.nil_append, List.append_nil]
  case before =>
    have hlt := hbefore e he
    simp only [decide_eq_true_eq]
    omega
  case within =>
    exact decide_eq_true ⟨hwithin e he, hinside e (List.mem_append_right _ he)⟩
  case behind =>
    have hle := hbehind e he
    simp only [decide_eq_true_eq]
    omega

end NodeTelemetry.Client
