import NodeTelemetry.Json.Typed
import NodeTelemetry.Proofs.Json.Enclosed
import NodeTelemetry.Proofs.Json.Ordered

/-!
# Values read from what was written

A text of a value, in whatever layout, is read again as long as its brackets are not nested deeper
than the reader goes, and refused if they are (`Reader.readsIf_text`). This holds wherever the text
stands, so it passes from the parts of a value to the value, which is the step of the induction.

What is read is the value that was written, with the members of its objects in the order of their
names (`Reader.Rereads`). Only real numbers may differ, in their last digit.
-/

namespace NodeTelemetry.Json

namespace Reader

variable {α β : Type} {rest : List Glyph}

/-! ### Numbers as values -/

/-- What begins with a sign or a digit is read as a number. -/
theorem value_number {gs : List Glyph} {r : Json × List Glyph} (h : number gs = .ok r)
    (fuel depth : Nat) : Begins gs ∧ value fuel depth gs = .ok r := by
  obtain ⟨c, tail, rfl, hc⟩ := head_of_number h
  have hplain : ∀ d ∈ [' ', '\n', '\t', '\r', ']', 'n', 't', 'f', '"', '[', '\x7b'], c ≠ d := by
    rintro d hd rfl
    rcases hc with rfl | hdigit
    · exact absurd hd (by decide)
    · have hnone : [' ', '\n', '\t', '\r', ']', 'n', 't', 'f', '"', '[', '\x7b'].any
        Char.isDigit = false := by decide
      exact absurd (List.any_eq_true.mpr ⟨c, hd, hdigit⟩) (by rw [hnone]; decide)
  have hblank : isBlank (.scalar c) = false := by
    have hspace := hplain ' ' (by decide)
    have hfeed := hplain '\n' (by decide)
    have htab := hplain '\t' (by decide)
    have hreturn := hplain '\r' (by decide)
    simp [isBlank, hspace, hfeed, htab, hreturn]
  have hbegins : Begins (.scalar c :: tail) :=
    ⟨_, _, rfl, hblank, fun heq => hplain ']' (by decide) (Glyph.scalar.inj heq)⟩
  refine ⟨hbegins, ?_⟩
  have hskip := hbegins.skipBlanks []
  rw [List.append_nil] at hskip
  have hfirst : Glyph.scalar c = .scalar '-' ∨ (digit? (.scalar c)).isSome = true := by
    rcases hc with rfl | hdigit
    · exact .inl rfl
    · exact .inr (by rw [digit?_scalar hdigit]; rfl)
  have hne : ∀ d ∈ [' ', '\n', '\t', '\r', ']', 'n', 't', 'f', '"', '[', '\x7b'],
      ∀ gs, Glyph.scalar c :: tail ≠ .scalar d :: gs := fun d hd gs heq =>
    hplain d hd (Glyph.scalar.inj (List.cons.inj heq).1)
  unfold value
  rw [hskip]
  split
  · rename_i heq
    cases heq
  · exact absurd ‹_› (hne 'n' (by decide) _)
  · exact absurd ‹_› (hne 't' (by decide) _)
  · exact absurd ‹_› (hne 'f' (by decide) _)
  · exact absurd ‹_› (hne '"' (by decide) _)
  · exact absurd ‹_› (hne '[' (by decide) _)
  · exact absurd ‹_› (hne '\x7b' (by decide) _)
  · rename_i heq
    obtain ⟨rfl, rfl⟩ := List.cons.inj heq
    rw [if_pos hfirst]
    exact h

/-! ### Lengths -/

theorem length_le_flatMap_escapeChar (cs : List Char) :
    cs.length ≤ (cs.flatMap escapeChar).length := by
  have hone : ∀ c, 1 ≤ (escapeChar c).length := by
    intro c
    unfold escapeChar
    split
    case h_8 =>
      split
      · simp
      · simp
    all_goals decide
  induction cs with
  | nil => exact Nat.zero_le _
  | cons c cs ih =>
    have hc := hone c
    rw [List.flatMap_cons, List.length_append, List.length_cons]
    omega

/-- A quoted string is longer than the string. -/
theorem length_lt_quote (s : String) : s.toList.length < (quote s).toList.length := by
  have hle := length_le_flatMap_escapeChar s.toList
  rw [quote, String.toList_ofList, List.length_append, List.length_cons]
  omega

/-- Texts with gaps before them are at least as long as their number, and as each of them. -/
theorem length_join (gap : String) (ss : List String) :
    ss.length ≤ (String.join (ss.map fun t => "," ++ gap ++ t)).toList.length ∧
      ∀ s ∈ ss, s.toList.length ≤
        (String.join (ss.map fun t => "," ++ gap ++ t)).toList.length := by
  induction ss with
  | nil => exact ⟨Nat.zero_le _, List.forall_mem_nil _⟩
  | cons s ss ih =>
    obtain ⟨hcount, heach⟩ := ih
    rw [List.map_cons, String.join_cons, String.toList_append, List.length_append,
      String.toList_append, List.length_append, String.toList_append, List.length_append,
      show (",".toList.length = 1) from rfl]
    refine ⟨by rw [List.length_cons]; omega, fun u hu => ?_⟩
    rcases List.mem_cons.mp hu with rfl | hu
    · omega
    · have hle := heach u hu
      omega

/-- Texts between brackets are at least as long as their number without the first, and as each of
them. -/
theorem length_enclosed (w : Spacing) (level : Nat) (ss : List String) :
    ss.length ≤ (w.enclosed level ss).toList.length + 1 ∧
      ∀ s ∈ ss, s.toList.length ≤ (w.enclosed level ss).toList.length := by
  cases ss with
  | nil => exact ⟨Nat.zero_le _, List.forall_mem_nil _⟩
  | cons s ss =>
    obtain ⟨hcount, heach⟩ := length_join (w.gap (level + 1)) ss
    rw [Spacing.enclosed, String.toList_append, List.length_append, String.toList_append,
      List.length_append, String.toList_append, List.length_append]
    refine ⟨by rw [List.length_cons]; omega, fun u hu => ?_⟩
    rcases List.mem_cons.mp hu with rfl | hu
    · omega
    · have hle := heach u hu
      omega

theorem length_member (w : Spacing) (name text : String) :
    name.toList.length < (w.member name text).toList.length ∧
      text.toList.length < (w.member name text).toList.length := by
  have hlength : (w.member name text).toList.length =
      (name.toList.flatMap escapeChar).length + 3 + w.colon.toList.length +
        text.toList.length := by
    unfold Spacing.member quote
    rw [String.toList_append, String.toList_append, String.toList_append, String.toList_ofList,
      List.length_append, List.length_append, List.length_append, List.length_append,
      List.length_cons]
    rfl
  have hkey := length_le_flatMap_escapeChar name.toList
  omega

theorem length_between (l r s : String) (hl : l.toList.length = 1) (hr : r.toList.length = 1) :
    (l ++ s ++ r).toList.length = s.toList.length + 2 := by
  rw [String.toList_append, String.toList_append, List.length_append, List.length_append, hl, hr]
  omega

/-! ### Values without parts -/

/-- A text that is read as some number is read at any depth. -/
theorem readsIf_number {fuel depth : Nat} {p : Prop} (hp : p) {r : Json → Prop} {t : List Glyph}
    (h : ∀ rest, Stops rest → ∃ v, r v ∧ number (t ++ rest) = .ok (v, rest)) :
    ReadsIf (value fuel depth) p r t := by
  obtain ⟨v, -, hv⟩ := h [] .nil
  have hbegins := (value_number hv fuel depth).1
  rw [List.append_nil] at hbegins
  refine ⟨hbegins, fun _ rest hrest => ?_, fun hnot => absurd hp hnot⟩
  obtain ⟨u, hr, hu⟩ := h rest hrest
  exact ⟨u, hr, (value_number hu fuel depth).2⟩

theorem reads_null (fuel depth : Nat) : Reads (value fuel depth) (Glyph.ofString "null") .null :=
  ⟨⟨_, _, rfl, rfl, by decide⟩, fun rest _ => by
    show value fuel depth (.scalar 'n' :: .scalar 'u' :: .scalar 'l' :: .scalar 'l' :: rest) = _
    rw [value]
    rfl⟩

theorem reads_bool (b : Bool) (fuel depth : Nat) :
    Reads (value fuel depth) (Glyph.ofString (scalarText (.bool b))) (.bool b) := by
  cases b with
  | false =>
    refine ⟨⟨_, _, rfl, rfl, by decide⟩, fun rest _ => ?_⟩
    show value fuel depth (.scalar 'f' :: .scalar 'a' :: .scalar 'l' :: .scalar 's' ::
      .scalar 'e' :: rest) = _
    rw [value]
    rfl
  | true =>
    refine ⟨⟨_, _, rfl, rfl, by decide⟩, fun rest _ => ?_⟩
    show value fuel depth (.scalar 't' :: .scalar 'r' :: .scalar 'u' :: .scalar 'e' :: rest) = _
    rw [value]
    rfl

theorem reads_int {i : Int} (hlow : -((Text.maxInteger : Int) + 1) ≤ i) (hhigh : i ≤ Text.maxWord)
    (fuel depth : Nat) :
    Reads (value fuel depth) (Glyph.ofString (scalarText (.int i))) (.int i) := by
  have hread : ∀ rest, Stops rest →
      number (Glyph.ofString (scalarText (.int i)) ++ rest) = .ok (.int i, rest) := by
    intro rest hrest
    rw [show scalarText (.int i) = String.ofList (Text.signed i) from rfl, Glyph.ofString_ofList]
    exact number_int hlow hhigh hrest
  have hbegins := (value_number (hread [] .nil) fuel depth).1
  rw [List.append_nil] at hbegins
  exact ⟨hbegins, fun rest hrest => (value_number (hread rest hrest) fuel depth).2⟩

theorem reads_str {s : String} {fuel : Nat} (hfuel : (quote s).toList.length < fuel)
    (depth : Nat) : Reads (value fuel depth) (Glyph.ofString (scalarText (.str s))) (.str s) := by
  have hkey : s.toList.length < fuel := Nat.lt_trans (length_lt_quote s) hfuel
  rw [show scalarText (.str s) = quote s from rfl, ofString_quote]
  refine ⟨⟨_, _, rfl, rfl, by decide⟩, fun rest _ => ?_⟩
  show value fuel depth (.scalar '"' ::
    ((s.toList.flatMap escapeChar ++ ['"']).map .scalar ++ rest)) = _
  rw [value]
  show (string fuel ((s.toList.flatMap escapeChar ++ ['"']).map .scalar ++ rest) >>= _) = _
  rw [string_quote hkey]
  rfl

/-! ### Values with parts -/

section Parts

variable {w : Spacing} {text : Nat → Json → String} {r : Json → Json → Prop} {fuel level : Nat}

theorem ofString_arr (h : Lays w text) (level : Nat) (vs : List Json) (rest : List Glyph) :
    Glyph.ofString (text level (arr vs)) ++ rest =
      .scalar '[' :: (Glyph.ofString (w.enclosed level (vs.map (text (level + 1)))) ++
        .scalar ']' :: rest) := by
  rw [h.arr, Glyph.ofString_append, Glyph.ofString_append, List.append_assoc, List.append_assoc]
  rfl

theorem ofString_obj (h : Lays w text) (level : Nat) (ms : List (String × Json))
    (rest : List Glyph) :
    Glyph.ofString (text level (obj ms)) ++ rest =
      .scalar '\x7b' :: (Glyph.ofString
        (w.enclosed level (ms.map fun m => w.member m.1 (text (level + 1) m.2))) ++
          .scalar '\x7d' :: rest) := by
  rw [h.obj, Glyph.ofString_append, Glyph.ofString_append, List.append_assoc, List.append_assoc]
  rfl

theorem begins_arr (h : Lays w text) (level : Nat) (vs : List Json) :
    Begins (Glyph.ofString (text level (arr vs))) := by
  have htext := ofString_arr h level vs []
  rw [List.append_nil] at htext
  exact ⟨_, _, htext, rfl, by decide⟩

theorem begins_obj (h : Lays w text) (level : Nat) (ms : List (String × Json)) :
    Begins (Glyph.ofString (text level (obj ms))) := by
  have htext := ofString_obj h level ms []
  rw [List.append_nil] at htext
  exact ⟨_, _, htext, rfl, by decide⟩

/-- The items of an array that is short enough for the steps of the reader. -/
theorem items_text {item : Reader α} {t : β → String} {p : β → Prop} {q : β → α → Prop}
    {bs : List β} (hfuel : (w.enclosed level (bs.map t)).toList.length + 2 < fuel)
    (hitems : ∀ b ∈ bs, (t b).toList.length < fuel →
      ReadsIf item (p b) (q b) (Glyph.ofString (t b))) (rest : List Glyph) :
    ((∀ b ∈ bs, p b) → ∃ as : List α, List.Forall₂ q bs as ∧
      items item fuel true []
        (Glyph.ofString (w.enclosed level (bs.map t)) ++ .scalar ']' :: rest) = .ok (as, rest)) ∧
    (¬(∀ b ∈ bs, p b) → ∃ left, items item fuel true []
        (Glyph.ofString (w.enclosed level (bs.map t)) ++ .scalar ']' :: rest) =
          .error ⟨.recursionLimit, left⟩) := by
  obtain ⟨hcount, heach⟩ := length_enclosed w level (bs.map t)
  rw [List.length_map] at hcount
  refine items_enclosed w level (fun b hb => hitems b hb ?_) (by omega) rest
  have hle := heach _ (List.mem_map_of_mem hb)
  omega

/-- An array is read one level up from its items. -/
theorem readsIf_arr (h : Lays w text) {vs : List Json}
    (hfuel : (text level (arr vs)).toList.length < fuel)
    (hitems : ∀ depth, ∀ v ∈ vs, (text (level + 1) v).toList.length < fuel →
      ReadsIf (value fuel depth) (v.Within depth) (r v) (Glyph.ofString (text (level + 1) v)))
    (depth : Nat) :
    ReadsIf (value fuel depth) ((arr vs).Within depth)
      (fun u => ∃ us, List.Forall₂ r vs us ∧ u = arr us)
      (Glyph.ofString (text level (arr vs))) := by
  rw [h.arr, length_between _ _ _ rfl rfl] at hfuel
  cases depth with
  | zero =>
    refine ⟨begins_arr h level vs, fun h => h.elim, fun _ rest _ => ?_⟩
    rw [ofString_arr h, value]
    exact ⟨_, rfl⟩
  | succ depth =>
    have hvalue : ∀ rest, value fuel (depth + 1) (Glyph.ofString (text level (arr vs)) ++ rest) =
        (items (value fuel depth) fuel true []
          (Glyph.ofString (w.enclosed level (vs.map (text (level + 1)))) ++
            .scalar ']' :: rest)).map fun r => (arr r.1, r.2) := by
      intro rest
      rw [ofString_arr h, value]
      show (items _ _ _ _ _ >>= _) = _
      cases items (value fuel depth) fuel true []
        (Glyph.ofString (w.enclosed level (vs.map (text (level + 1)))) ++ .scalar ']' :: rest) with
      | error e => rfl
      | ok r => rfl
    refine ⟨begins_arr h level vs, fun hwithin rest _ => ?_, fun hwithin rest _ => ?_⟩
    · obtain ⟨us, hr, hus⟩ := (items_text hfuel (hitems depth) rest).1 hwithin
      exact ⟨arr us, ⟨us, hr, rfl⟩, by rw [hvalue, hus]; rfl⟩
    · obtain ⟨e, he⟩ := (items_text hfuel (hitems depth) rest).2 hwithin
      exact ⟨e, by rw [hvalue, he]; rfl⟩

/-- The members of an object that is short enough for the steps of the reader. -/
theorem members_text {item : Reader α} {t : β → String} {p : β → Prop} {q : β → α → Prop}
    {ms : List (String × β)} (hitem : ∀ gs, item (Glyph.ofString w.colon ++ gs) = item gs)
    (hfuel : (w.enclosed level (ms.map fun m => w.member m.1 (t m.2))).toList.length + 2 < fuel)
    (hmembers : ∀ m ∈ ms, (t m.2).toList.length < fuel →
      ReadsIf item (p m.2) (q m.2) (Glyph.ofString (t m.2))) (rest : List Glyph) :
    ((∀ m ∈ ms, p m.2) → ∃ ns, MembersRead q ms ns ∧
      members fuel item fuel true []
        (Glyph.ofString (w.enclosed level (ms.map fun m => w.member m.1 (t m.2))) ++
          .scalar '\x7d' :: rest) = .ok (ns, rest)) ∧
    (¬(∀ m ∈ ms, p m.2) → ∃ left,
      members fuel item fuel true []
        (Glyph.ofString (w.enclosed level (ms.map fun m => w.member m.1 (t m.2))) ++
          .scalar '\x7d' :: rest) = .error ⟨.recursionLimit, left⟩) := by
  obtain ⟨hcount, heach⟩ := length_enclosed w level (ms.map fun m => w.member m.1 (t m.2))
  rw [List.length_map] at hcount
  refine members_enclosed w hitem level (fun m hm => ?_) (by omega) rest
  have hle := heach _ (List.mem_map_of_mem hm)
  obtain ⟨hkey, htext⟩ := length_member w m.1 (t m.2)
  exact ⟨by omega, hmembers m hm (by omega)⟩

/-- An object is read one level up from the values of its members. -/
theorem readsIf_obj (h : Lays w text) {ms : List (String × Json)}
    (hfuel : (text level (obj ms)).toList.length < fuel)
    (hmembers : ∀ depth, ∀ m ∈ ms, (text (level + 1) m.2).toList.length < fuel →
      ReadsIf (value fuel depth) (m.2.Within depth) (r m.2)
        (Glyph.ofString (text (level + 1) m.2)))
    (depth : Nat) :
    ReadsIf (value fuel depth) ((obj ms).Within depth)
      (fun u => ∃ ns, MembersRead r ms ns ∧ u = ofMembers ns)
      (Glyph.ofString (text level (obj ms))) := by
  rw [h.obj, length_between _ _ _ rfl rfl] at hfuel
  cases depth with
  | zero =>
    refine ⟨begins_obj h level ms, fun h => h.elim, fun _ rest _ => ?_⟩
    rw [ofString_obj h, value]
    exact ⟨_, rfl⟩
  | succ depth =>
    have hvalue : ∀ rest, value fuel (depth + 1) (Glyph.ofString (text level (obj ms)) ++ rest) =
        (members fuel (value fuel depth) fuel true []
          (Glyph.ofString (w.enclosed level
            (ms.map fun m => w.member m.1 (text (level + 1) m.2))) ++
              .scalar '\x7d' :: rest)).map fun r => (ofMembers r.1, r.2) := fun rest =>
      (congrArg _ (ofString_obj h level ms rest)).trans (value_bracket fuel depth rfl)
    have hitem : ∀ gs, value fuel depth (Glyph.ofString w.colon ++ gs) = value fuel depth gs :=
      value_blank w.blank_colon fuel depth
    refine ⟨begins_obj h level ms, fun hwithin rest _ => ?_, fun hwithin rest _ => ?_⟩
    · obtain ⟨ns, hr, hns⟩ := (members_text hitem hfuel (hmembers depth) rest).1 hwithin
      exact ⟨ofMembers ns, ⟨ns, hr, rfl⟩, by rw [hvalue, hns]; rfl⟩
    · obtain ⟨e, he⟩ := (members_text hitem hfuel (hmembers depth) rest).2 hwithin
      exact ⟨e, by rw [hvalue, he]; rfl⟩

end Parts

/-! ### Whole values -/

variable {w : Spacing} {text : Nat → Json → String}

/-- A value that is read for a written one is its form in order, unless there are real numbers. -/
def Rereads (v u : Json) : Prop := v.RealFree → u = v.ordered

theorem eq_map_of_forall₂ {p : α → Prop} {f : α → β} {as : List α} {bs : List β}
    (h : List.Forall₂ (fun a b => p a → b = f a) as bs) (hp : ∀ a ∈ as, p a) :
    bs = as.map f := by
  induction h with
  | nil => rfl
  | cons hab _ ih =>
    obtain ⟨ha, has⟩ := List.forall_mem_cons.mp hp
    rw [List.map_cons, hab ha, ih has]

theorem rereads_arr {vs us : List Json} (h : List.Forall₂ Rereads vs us) :
    Rereads (arr vs) (arr us) := by
  intro hfree
  rw [ordered_arr, eq_map_of_forall₂ h (realFree_arr.mp hfree)]

/-- Members without real numbers are read with the values in order. -/
theorem eq_of_membersRead {ms ns : List (String × Json)} (h : MembersRead Rereads ms ns)
    (hfree : (obj ms).RealFree) : ns = ms.map fun m => (m.1, m.2.ordered) := by
  have heq : List.Forall₂ (fun m n => m.2.RealFree → n = (m.1, m.2.ordered)) ms ns :=
    h.imp fun m n hmn hm => by rw [← hmn.1, ← hmn.2 hm]
  exact eq_map_of_forall₂ heq (realFree_obj.mp hfree)

theorem rereads_obj {ms ns : List (String × Json)} (h : MembersRead Rereads ms ns) :
    Rereads (obj ms) (ofMembers ns) := by
  intro hfree
  rw [ordered_obj, eq_of_membersRead h hfree]

/-- **The text of a value is read if and only if its brackets are not nested too deep**, and then as
the value, but for real numbers and the order of members. -/
theorem readsIf_text (h : Lays w text) {v : Json} (hsound : v.Sound) {fuel : Nat}
    (level depth : Nat) (hfuel : (text level v).toList.length < fuel) :
    ReadsIf (value fuel depth) (v.Within depth) (Rereads v) (Glyph.ofString (text level v)) := by
  have hself : ∀ v : Json, ¬v.HasParts → Rereads v v := fun v hparts _ =>
    (ordered_scalar hparts).symm
  induction v using ind generalizing level depth with
  | null =>
    rw [h.scalar level _ id]
    exact (reads_null fuel depth).readsIf (within_of_scalar id depth) (hself _ id)
  | bool b =>
    rw [h.scalar level _ id]
    exact (reads_bool b fuel depth).readsIf (within_of_scalar id depth) (hself _ id)
  | int i =>
    cases hsound with
    | int _ hlow hhigh =>
      rw [h.scalar level _ id]
      exact (reads_int hlow hhigh fuel depth).readsIf (within_of_scalar id depth) (hself _ id)
  | real x =>
    cases hsound with
    | real _ hfits =>
      have hwithin : Within depth (.real x) := within_of_scalar id depth
      have hany : ∀ u, Rereads (.real x) u := fun _ hfree => by cases hfree
      rw [h.scalar level _ id]
      cases x with
      | finite negative m e =>
        refine readsIf_number hwithin fun rest hrest => ?_
        show ∃ v, Rereads _ v ∧
          number (Glyph.ofString (realText (.finite negative m e)) ++ rest) = .ok (v, rest)
        rw [realText, Glyph.ofString_ofList]
        obtain ⟨y, hy⟩ := number_real hfits hrest
        exact ⟨.real y, hany _, hy⟩
      | infinite | nan => exact (reads_null fuel depth).readsIf hwithin (hany _)
  | str s =>
    rw [h.scalar level _ id] at hfuel ⊢
    exact (reads_str hfuel depth).readsIf (within_of_scalar id depth) (hself _ id)
  | arr vs ih =>
    cases hsound with
    | arr _ hitems =>
      have hread := readsIf_arr h hfuel (fun d v hv => ih v hv (hitems v hv) (level + 1) d) depth
      refine hread.imp ?_
      rintro _ ⟨us, hus, rfl⟩
      exact rereads_arr hus
  | obj ms ih =>
    cases hsound with
    | obj _ hmembers =>
      have hread :=
        readsIf_obj h hfuel (fun d m hm => ih m hm (hmembers m hm) (level + 1) d) depth
      refine hread.imp ?_
      rintro _ ⟨ns, hns, rfl⟩
      exact rereads_obj hns

/-- A list is read from the text of the array of its items if and only if each of them is. -/
theorem listOf_arr (h : Lays w text) {item : (depth : Nat) → Reader α} {depth : Nat}
    {f : β → Json} {p : β → Prop} {q : β → α → Prop} {bs : List β} (level : Nat) {fuel : Nat}
    (hfuel : (text level (arr (bs.map f))).toList.length < fuel)
    (hitems : ∀ b ∈ bs, (text (level + 1) (f b)).toList.length < fuel →
      ReadsIf (item depth) (p b) (q b) (Glyph.ofString (text (level + 1) (f b)))) :
    ((∀ b ∈ bs, p b) → ∃ as : List α, List.Forall₂ q bs as ∧
      listOf fuel item (depth + 1) (Glyph.ofString (text level (arr (bs.map f)))) =
        .ok (as, [])) ∧
    (¬(∀ b ∈ bs, p b) → ∃ left,
      listOf fuel item (depth + 1) (Glyph.ofString (text level (arr (bs.map f)))) =
        .error ⟨.recursionLimit, left⟩) := by
  have htext := ofString_arr h level (bs.map f) []
  rw [List.append_nil, List.map_map] at htext
  rw [h.arr, length_between _ _ _ rfl rfl, List.map_map] at hfuel
  rw [htext]
  exact items_text hfuel hitems []

theorem keyedOf_blank {ws : List Glyph} (h : Blank ws) (fuel : Nat)
    (item : (depth : Nat) → Reader α) (depth : Nat) (gs : List Glyph) :
    keyedOf fuel item depth (ws ++ gs) = keyedOf fuel item depth gs := by
  unfold keyedOf
  rw [skipBlanks_blank h]

theorem keyedOf_brace (fuel : Nat) (item : (depth : Nat) → Reader α) (depth : Nat)
    (gs : List Glyph) :
    keyedOf fuel item (depth + 1) (.scalar '\x7b' :: gs) =
      (members fuel (item depth) fuel true [] gs).map fun r => (Keyed.ofList r.1, r.2) := by
  show (members fuel (item depth) fuel true [] gs >>= _) = _
  cases members fuel (item depth) fuel true [] gs with
  | error e => rfl
  | ok r => rfl

/-- Values by name are read from the text of the object that has them, if each of them is. -/
theorem keyedOf_obj (h : Lays w text) {item : (depth : Nat) → Reader α} {depth : Nat}
    (hitem : ∀ gs, item depth (Glyph.ofString w.colon ++ gs) = item depth gs) {f : β → Json}
    {q : β → α → Prop} {ms : List (String × β)} (level : Nat) {fuel : Nat}
    (hfuel : (text level (obj (ms.map fun m => (m.1, f m.2)))).toList.length < fuel)
    (hmembers : ∀ m ∈ ms, (text (level + 1) (f m.2)).toList.length < fuel →
      ReadsIf (item depth) True (q m.2) (Glyph.ofString (text (level + 1) (f m.2))))
    (rest : List Glyph) :
    ∃ ns, MembersRead q ms ns ∧
      keyedOf fuel item (depth + 1)
        (Glyph.ofString (text level (obj (ms.map fun m => (m.1, f m.2)))) ++ rest) =
          .ok (Keyed.ofList ns, rest) := by
  have hmap : (ms.map fun m => (m.1, f m.2)).map
      (fun m => w.member m.1 (text (level + 1) m.2)) =
        ms.map fun m => w.member m.1 (text (level + 1) (f m.2)) := List.map_map
  rw [h.obj, length_between _ _ _ rfl rfl, hmap] at hfuel
  obtain ⟨ns, hns, hread⟩ := (members_text (t := fun b => text (level + 1) (f b))
    (p := fun _ => True) hitem hfuel hmembers rest).1 fun _ _ => trivial
  refine ⟨ns, hns, ?_⟩
  rw [ofString_obj h, hmap, keyedOf_brace, hread]
  rfl

/-- A list of values is read from the text of their array if and only if each leaves one level
free. -/
theorem listOf_text (h : Lays w text) {vs : List Json} (hsound : ∀ v ∈ vs, v.Sound)
    (level depth : Nat) {fuel : Nat} (hfuel : (text level (arr vs)).toList.length < fuel) :
    ((∀ v ∈ vs, v.Within depth) → ∃ us : List Json, List.Forall₂ Rereads vs us ∧
      listOf fuel (value fuel) (depth + 1) (Glyph.ofString (text level (arr vs))) =
        .ok (us, [])) ∧
    (¬(∀ v ∈ vs, v.Within depth) → ∃ left,
      listOf fuel (value fuel) (depth + 1) (Glyph.ofString (text level (arr vs))) =
        .error ⟨.recursionLimit, left⟩) := by
  have hsame : (text level (arr (vs.map id))).toList.length < fuel := by rwa [List.map_id]
  have hlist := listOf_arr h level hsame fun v hv _ =>
    readsIf_text h (hsound v hv) (level + 1) depth ‹_›
  rwa [List.map_id] at hlist

end Reader

/-! ### Whole texts -/

theorem lt_fuelFor (text : String) : text.toList.length < fuelFor (Glyph.ofString text) := by
  unfold fuelFor Glyph.ofString
  rw [List.length_map]
  exact Nat.lt_succ_self _

/-- **A value without real numbers is read from its text as it was written**, with the members of its
objects in the order of their names. White space may follow the text. -/
theorem read_text {w : Spacing} {text : Nat → Json → String} (h : Lays w text) {v : Json}
    (hreadable : v.Readable maxDepth) (hfree : v.RealFree) (level : Nat) {ws : List Glyph}
    (hblank : Blank ws) : read (Glyph.ofString (text level v) ++ ws) = .ok v.ordered := by
  have hfuel : (text level v).toList.length < fuelFor (Glyph.ofString (text level v) ++ ws) := by
    have hlt := lt_fuelFor (text level v)
    unfold fuelFor at hlt ⊢
    rw [List.length_append]
    omega
  have hstops := Reader.stops_blank hblank .nil
  have hskip := Reader.skipBlanks_blank hblank []
  rw [List.append_nil] at hstops hskip
  obtain ⟨u, hu, hvalue⟩ :=
    (Reader.readsIf_text h hreadable.1 level maxDepth hfuel).ok hreadable.2 ws hstops
  rw [hu hfree] at hvalue
  exact readWhole_eq_ok.mpr ⟨ws, hvalue, hskip⟩

/-- So it is read from its compact text. -/
theorem read_compact {v : Json} (hreadable : v.Readable maxDepth) (hfree : v.RealFree) :
    read (Glyph.ofString v.compact) = .ok v.ordered := by
  have hread := read_text lays_compact hreadable hfree 0 (List.forall_mem_nil _)
  rwa [List.append_nil] at hread

/-- The text of an object has its members, in the order in which they were written. -/
theorem writes_text {w : Spacing} {text : Nat → Json → String} (h : Lays w text)
    {ms : List (String × Json)} (hreadable : (obj ms).Readable maxDepth)
    (hfree : (obj ms).RealFree) (level : Nat) :
    Writes (Glyph.ofString (text level (obj ms))) (ms.map fun m => (m.1, m.2.ordered)) := by
  have hfuel := lt_fuelFor (text level (obj ms))
  have htext := Reader.ofString_obj h level ms []
  rw [List.append_nil] at htext
  obtain ⟨hsound, hwithin⟩ := hreadable
  cases hsound with
  | obj _ hmembers =>
    have hread : ∀ m ∈ ms, (text (level + 1) m.2).toList.length <
        fuelFor (Glyph.ofString (text level (obj ms))) →
        Reader.ReadsIf (Reader.value (fuelFor (Glyph.ofString (text level (obj ms))))
          (maxDepth - 1)) (m.2.Within (maxDepth - 1)) (Reader.Rereads m.2)
          (Glyph.ofString (text (level + 1) m.2)) := fun m hm =>
      Reader.readsIf_text h (hmembers m hm) (level + 1) (maxDepth - 1)
    rw [h.obj, Reader.length_between _ _ _ rfl rfl, ← h.obj] at hfuel
    obtain ⟨ns, hns, hvalue⟩ :=
      (Reader.members_text (Reader.value_blank w.blank_colon _ _) hfuel hread []).1 hwithin
    rw [Reader.eq_of_membersRead hns hfree] at hvalue
    exact ⟨_, [], by rw [htext]; rfl, hvalue, rfl⟩

end NodeTelemetry.Json
