import NodeTelemetry.Proofs.Json.Layout
import NodeTelemetry.Proofs.Json.Numbers
import NodeTelemetry.Proofs.Json.Strings

/-!
# Parts read from between brackets

What stands between the brackets of an array or of an object is read part by part. If every part is
read from its text wherever the text stands, as long as something follows that can end a value
(`Reader.ReadsIf`), the items of an array are read from their texts with commas between
(`Reader.items_enclosed`), and so are the members of an object (`Reader.members_enclosed`). The white
space of the layout is skipped. If a part is refused for its depth, so are all.
-/

namespace NodeTelemetry

theorem Glyph.ofString_append (s t : String) :
    Glyph.ofString (s ++ t) = Glyph.ofString s ++ Glyph.ofString t := by
  unfold Glyph.ofString
  rw [String.toList_append, List.map_append]

theorem Glyph.ofString_ofList (cs : List Char) :
    Glyph.ofString (String.ofList cs) = cs.map .scalar := by
  unfold Glyph.ofString
  rw [String.toList_ofList]

namespace Json

namespace Reader

variable {α β : Type} {ws rest : List Glyph}

/-! ### White space -/

theorem skipBlanks_blank (h : Blank ws) (gs : List Glyph) : skipBlanks (ws ++ gs) = skipBlanks gs :=
  List.dropWhile_append_of_pos h

theorem stops_blank (h : Blank ws) {gs : List Glyph} (hgs : Stops gs) : Stops (ws ++ gs) := by
  cases ws with
  | nil => exact hgs
  | cons g ws => exact .blank g _ (h g List.mem_cons_self)

theorem nextItem_blank (h : Blank ws) (first : Bool) (gs : List Glyph) :
    nextItem first (ws ++ gs) = nextItem first gs := by
  unfold nextItem
  rw [skipBlanks_blank h]

theorem nextKey_blank (h : Blank ws) (fuel : Nat) (first : Bool) (gs : List Glyph) :
    nextKey fuel first (ws ++ gs) = nextKey fuel first gs := by
  unfold nextKey
  rw [skipBlanks_blank h]

theorem value_blank (h : Blank ws) (fuel depth : Nat) (gs : List Glyph) :
    value fuel depth (ws ++ gs) = value fuel depth gs := by
  unfold value
  rw [skipBlanks_blank h]

/-- White space behind a comma. -/
theorem nextItem_comma_blank (h : Blank ws) (gs : List Glyph) :
    nextItem false (.scalar ',' :: (ws ++ gs)) = nextItem false (.scalar ',' :: gs) := by
  have hcomma : ∀ gs, skipBlanks (.scalar ',' :: gs) = .scalar ',' :: gs := fun _ => rfl
  simp [nextItem, hcomma, skipBlanks_blank h]

theorem nextKey_comma_blank (h : Blank ws) (fuel : Nat) (gs : List Glyph) :
    nextKey fuel false (.scalar ',' :: (ws ++ gs)) = nextKey fuel false (.scalar ',' :: gs) := by
  have hcomma : ∀ gs, skipBlanks (.scalar ',' :: gs) = .scalar ',' :: gs := fun _ => rfl
  simp [nextKey, hcomma, skipBlanks_blank h]

/-! ### Texts of values, one after the other -/

/-- A text that begins with neither a blank nor a closing bracket. -/
def Begins (t : List Glyph) : Prop :=
  ∃ g gs, t = g :: gs ∧ isBlank g = false ∧ g ≠ .scalar ']'

theorem Begins.skipBlanks {t : List Glyph} (h : Begins t) (rest : List Glyph) :
    skipBlanks (t ++ rest) = t ++ rest := by
  obtain ⟨g, gs, rfl, hblank, -⟩ := h
  exact List.dropWhile_cons_of_neg (by rw [hblank]; decide)

/-- A text is read up to whatever may end it if something holds, and then as something related to
it; it is refused if not. -/
structure ReadsIf (item : Reader α) (p : Prop) (r : α → Prop) (t : List Glyph) : Prop where
  /-- A value begins. -/
  begins : Begins t
  /-- It is read. -/
  ok : p → ∀ rest, Stops rest → ∃ a, r a ∧ item (t ++ rest) = .ok (a, rest)
  /-- It is refused for its depth. -/
  error : ¬p → ∀ rest, Stops rest → ∃ left, item (t ++ rest) = .error ⟨.recursionLimit, left⟩

theorem ReadsIf.imp {item : Reader α} {p : Prop} {r q : α → Prop} {t : List Glyph}
    (h : ReadsIf item p r t) (hq : ∀ a, r a → q a) : ReadsIf item p q t where
  begins := h.begins
  ok hp rest hrest := by
    obtain ⟨a, hr, ha⟩ := h.ok hp rest hrest
    exact ⟨a, hq a hr, ha⟩
  error := h.error

/-- A text is read as a value up to whatever may end it. -/
structure Reads (item : Reader α) (t : List Glyph) (a : α) : Prop where
  /-- A value begins. -/
  begins : Begins t
  /-- It is read. -/
  ok : ∀ rest, Stops rest → item (t ++ rest) = .ok (a, rest)

theorem Reads.readsIf {item : Reader α} {t : List Glyph} {a : α} (h : Reads item t a) {p : Prop}
    (hp : p) {r : α → Prop} (hr : r a) : ReadsIf item p r t :=
  ⟨h.begins, fun _ rest hrest => ⟨a, hr, h.ok rest hrest⟩, fun hnot => absurd hp hnot⟩

/-- Texts, a comma and a gap before each. -/
def listed (gap : List Glyph) (text : β → String) (bs : List β) : List Glyph :=
  bs.flatMap fun b => .scalar ',' :: (gap ++ Glyph.ofString (text b))

theorem listed_cons (gap : List Glyph) (text : β → String) (b : β) (bs : List β)
    (rest : List Glyph) :
    listed gap text (b :: bs) ++ rest =
      .scalar ',' :: (gap ++ (Glyph.ofString (text b) ++ (listed gap text bs ++ rest))) := by
  unfold listed
  rw [List.flatMap_cons, List.cons_append, List.cons_append, List.append_assoc, List.append_assoc]

theorem ofString_enclosed (w : Spacing) (level : Nat) (text : β → String) (b : β) (bs : List β) :
    Glyph.ofString (w.enclosed level ((b :: bs).map text)) =
      Glyph.ofString (w.gap (level + 1)) ++ (Glyph.ofString (text b) ++
        (listed (Glyph.ofString (w.gap (level + 1))) text bs ++ Glyph.ofString (w.gap level))) := by
  have htail : Glyph.ofString
      (String.join ((bs.map text).map fun t => "," ++ w.gap (level + 1) ++ t)) =
        listed (Glyph.ofString (w.gap (level + 1))) text bs := by
    unfold listed
    rw [Glyph.ofString, String.toList_join, List.map_map, List.flatMap_map, List.map_flatMap]
    refine List.flatMap_congr fun c _ => ?_
    show Glyph.ofString ("," ++ w.gap (level + 1) ++ text c) = _
    rw [Glyph.ofString_append, Glyph.ofString_append, List.append_assoc]
    rfl
  rw [List.map_cons, Spacing.enclosed, Glyph.ofString_append, Glyph.ofString_append,
    Glyph.ofString_append, htail, List.append_assoc, List.append_assoc]

variable {gap close : List Glyph}

theorem stops_listed (hclose : Blank close) (text : β → String) (bs : List β)
    (rest : List Glyph) :
    Stops (listed gap text bs ++ (close ++ .scalar ']' :: rest)) ∧
      Stops (listed gap text bs ++ (close ++ .scalar '\x7d' :: rest)) := by
  cases bs with
  | nil => exact ⟨stops_blank hclose (.bracket rest), stops_blank hclose (.brace rest)⟩
  | cons b bs => exact ⟨.comma _, .comma _⟩

/-! ### Arrays -/

/-- The way to the first item is the one behind a comma. -/
theorem nextItem_begins {t : List Glyph} (h : Begins t) (rest : List Glyph) :
    nextItem true (t ++ rest) = .ok (true, t ++ rest) ∧
      nextItem false (.scalar ',' :: (t ++ rest)) = .ok (true, t ++ rest) := by
  have hskip := h.skipBlanks rest
  obtain ⟨g, gs, rfl, hblank, hbracket⟩ := h
  rw [List.cons_append] at hskip ⊢
  constructor
  · unfold nextItem
    rw [hskip]
    split
    · rename_i heq
      cases heq
    · rename_i heq
      exact absurd (List.cons.inj heq).1 hbracket
    · rename_i heq
      obtain ⟨rfl, rfl⟩ := List.cons.inj heq
      rfl
  · unfold nextItem
    rw [show skipBlanks (.scalar ',' :: (g :: (gs ++ rest))) = .scalar ',' :: (g :: (gs ++ rest))
      from rfl]
    split
    · rename_i heq
      cases heq
    · rename_i heq
      exact absurd (List.cons.inj heq).1 (by decide)
    · rename_i heq
      obtain ⟨rfl, rfl⟩ := List.cons.inj heq
      rw [if_neg (by decide), if_pos rfl, hskip]
      split
      · rename_i heq
        cases heq
      · rename_i heq
        exact absurd (List.cons.inj heq).1 hbracket
      · rfl

theorem items_succ {item : Reader α} (fuel : Nat) {first : Bool} (acc : List α)
    {gs rest : List Glyph} (h : nextItem first gs = .ok (true, rest)) :
    items item (fuel + 1) first acc gs =
      item rest >>= fun r => items item fuel false (r.1 :: acc) r.2 := by
  rw [items, h]
  rfl

theorem items_close {item : Reader α} (h : Blank ws) (fuel : Nat) (first : Bool) (acc : List α)
    (rest : List Glyph) :
    items item (fuel + 1) first acc (ws ++ .scalar ']' :: rest) = .ok (acc.reverse, rest) := by
  rw [items, nextItem_blank h]
  rfl

section Items

variable {item : Reader α} {text : β → String} {p : β → Prop} {r : β → α → Prop} {bs : List β}

theorem items_listed_ok (hgap : Blank gap) (hclose : Blank close)
    (h : ∀ b ∈ bs, ReadsIf item (p b) (r b) (Glyph.ofString (text b))) (hp : ∀ b ∈ bs, p b)
    {fuel : Nat} (hfuel : bs.length < fuel) (acc : List α) (rest : List Glyph) :
    ∃ as : List α, List.Forall₂ r bs as ∧
      items item fuel false acc (listed gap text bs ++ (close ++ .scalar ']' :: rest)) =
        .ok (acc.reverse ++ as, rest) := by
  induction bs generalizing fuel acc with
  | nil =>
    obtain ⟨fuel, rfl⟩ := Nat.exists_eq_succ_of_ne_zero (Nat.ne_of_gt hfuel)
    refine ⟨[], .nil, ?_⟩
    rw [List.append_nil]
    exact items_close hclose fuel false acc rest
  | cons b bs ih =>
    obtain ⟨fuel, rfl⟩ := Nat.exists_eq_succ_of_ne_zero (Nat.ne_of_gt (Nat.zero_lt_of_lt hfuel))
    obtain ⟨hb, hbs⟩ := List.forall_mem_cons.mp h
    obtain ⟨hpb, hpbs⟩ := List.forall_mem_cons.mp hp
    obtain ⟨a, hr, ha⟩ := hb.ok hpb _ (stops_listed hclose text bs rest).1
    obtain ⟨as, hrs, has⟩ := ih hbs hpbs (Nat.lt_of_succ_lt_succ hfuel) (a :: acc)
    refine ⟨a :: as, .cons hr hrs, ?_⟩
    rw [listed_cons, items_succ fuel acc
      ((nextItem_comma_blank hgap _).trans (nextItem_begins hb.begins _).2), ha]
    show items item fuel false (a :: acc) _ = _
    rw [has, List.reverse_cons, List.append_assoc]
    rfl

theorem items_listed_error (hgap : Blank gap) (hclose : Blank close)
    (h : ∀ b ∈ bs, ReadsIf item (p b) (r b) (Glyph.ofString (text b))) (hp : ∃ b ∈ bs, ¬p b)
    {fuel : Nat} (hfuel : bs.length < fuel) (acc : List α) (rest : List Glyph) :
    ∃ left, items item fuel false acc
      (listed gap text bs ++ (close ++ .scalar ']' :: rest)) = .error ⟨.recursionLimit, left⟩ := by
  induction bs generalizing fuel acc with
  | nil =>
    obtain ⟨b, hb, -⟩ := hp
    cases hb
  | cons b bs ih =>
    obtain ⟨fuel, rfl⟩ := Nat.exists_eq_succ_of_ne_zero (Nat.ne_of_gt (Nat.zero_lt_of_lt hfuel))
    obtain ⟨hb, hbs⟩ := List.forall_mem_cons.mp h
    rw [listed_cons, items_succ fuel acc
      ((nextItem_comma_blank hgap _).trans (nextItem_begins hb.begins _).2)]
    by_cases hpb : p b
    · obtain ⟨a, -, ha⟩ := hb.ok hpb _ (stops_listed hclose text bs rest).1
      obtain ⟨c, hc, hpc⟩ := hp
      have hmem : c ∈ bs := (List.mem_cons.mp hc).resolve_left fun heq => hpc (heq ▸ hpb)
      obtain ⟨e, he⟩ := ih hbs ⟨c, hmem, hpc⟩ (Nat.lt_of_succ_lt_succ hfuel) (a :: acc)
      rw [ha]
      exact ⟨e, he⟩
    · obtain ⟨e, he⟩ := hb.error hpb _ (stops_listed hclose text bs rest).1
      rw [he]
      exact ⟨e, rfl⟩

/-- The items of an array, up to its closing bracket. -/
theorem items_enclosed (w : Spacing) (level : Nat)
    (h : ∀ b ∈ bs, ReadsIf item (p b) (r b) (Glyph.ofString (text b)))
    {fuel : Nat} (hfuel : bs.length < fuel) (rest : List Glyph) :
    ((∀ b ∈ bs, p b) → ∃ as : List α, List.Forall₂ r bs as ∧
      items item fuel true []
        (Glyph.ofString (w.enclosed level (bs.map text)) ++ .scalar ']' :: rest) =
          .ok (as, rest)) ∧
    (¬(∀ b ∈ bs, p b) → ∃ left, items item fuel true []
        (Glyph.ofString (w.enclosed level (bs.map text)) ++ .scalar ']' :: rest) =
          .error ⟨.recursionLimit, left⟩) := by
  obtain ⟨fuel, rfl⟩ := Nat.exists_eq_succ_of_ne_zero (Nat.ne_of_gt (Nat.zero_lt_of_lt hfuel))
  have hgap := w.blank_gap (level + 1)
  have hclose := w.blank_gap level
  cases bs with
  | nil => exact ⟨fun _ => ⟨[], .nil, rfl⟩, fun hp => absurd (List.forall_mem_nil _) hp⟩
  | cons b bs =>
    -- the first item is read like one behind a comma
    have hsame : items item (fuel + 1) true []
        (Glyph.ofString (w.enclosed level ((b :: bs).map text)) ++ .scalar ']' :: rest) =
      items item (fuel + 1) false [] (listed (Glyph.ofString (w.gap (level + 1))) text (b :: bs) ++
        (Glyph.ofString (w.gap level) ++ .scalar ']' :: rest)) := by
      have hbegins := (List.forall_mem_cons.mp h).1.begins
      rw [ofString_enclosed, listed_cons, List.append_assoc, List.append_assoc, List.append_assoc,
        items_succ fuel [] ((nextItem_blank hgap _ _).trans (nextItem_begins hbegins _).1),
        items_succ fuel [] ((nextItem_comma_blank hgap _).trans (nextItem_begins hbegins _).2)]
    rw [hsame]
    refine ⟨fun hp => items_listed_ok hgap hclose h hp hfuel [] rest, fun hp => ?_⟩
    have hex : ∃ c ∈ b :: bs, ¬p c := by simpa only [not_forall, exists_prop] using hp
    exact items_listed_error hgap hclose h hex hfuel [] rest

end Items

/-! ### Objects -/

theorem ofString_quote (k : String) :
    Glyph.ofString (quote k) =
      .scalar '"' :: (k.toList.flatMap escapeChar ++ ['"']).map .scalar := by
  unfold Glyph.ofString quote
  rw [String.toList_ofList]
  rfl

theorem string_quote {fuel : Nat} {k : String} (h : k.toList.length < fuel) (rest : List Glyph) :
    string fuel ((k.toList.flatMap escapeChar ++ ['"']).map .scalar ++ rest) = .ok (k, rest) := by
  unfold string
  rw [stringRest_quote k.toList [] h, List.reverse_nil, List.nil_append, String.ofList_toList]

theorem nextKey_string {fuel : Nat} {k : String} {gs : List Glyph}
    (h : string fuel gs = .ok (k, rest)) :
    nextKey fuel true (.scalar '"' :: gs) = .ok (some k, rest) ∧
      nextKey fuel false (.scalar ',' :: .scalar '"' :: gs) = .ok (some k, rest) := by
  constructor
  · simp [nextKey, skipBlanks, isBlank, h]
  · simp [nextKey, skipBlanks, isBlank, h]

/-- The way to the first key is the one behind a comma. -/
theorem nextKey_quote {fuel : Nat} {k : String} (h : k.toList.length < fuel) :
    nextKey fuel true (Glyph.ofString (quote k) ++ rest) = .ok (some k, rest) ∧
      nextKey fuel false (.scalar ',' :: (Glyph.ofString (quote k) ++ rest)) =
        .ok (some k, rest) := by
  rw [ofString_quote]
  exact nextKey_string (string_quote h rest)

theorem members_succ {limit : Nat} {item : Reader α} (fuel : Nat) {first : Bool}
    (acc : List (String × α)) {k : String} {gs rest : List Glyph}
    (h : nextKey limit first gs = .ok (some k, .scalar ':' :: rest)) :
    members limit item (fuel + 1) first acc gs =
      item rest >>= fun r => members limit item fuel false ((k, r.1) :: acc) r.2 := by
  rw [members, h]
  rfl

theorem members_close {limit : Nat} {item : Reader α} (h : Blank ws) (fuel : Nat) (first : Bool)
    (acc : List (String × α)) (rest : List Glyph) :
    members limit item (fuel + 1) first acc (ws ++ .scalar '\x7d' :: rest) =
      .ok (acc.reverse, rest) := by
  rw [members, nextKey_blank h]
  rfl

/-- A member's text after its quoted name. -/
theorem ofString_member (w : Spacing) (name text : String) (rest : List Glyph) :
    Glyph.ofString (w.member name text) ++ rest =
      Glyph.ofString (quote name) ++
        .scalar ':' :: (Glyph.ofString w.colon ++ (Glyph.ofString text ++ rest)) := by
  unfold Spacing.member
  rw [Glyph.ofString_append, Glyph.ofString_append, Glyph.ofString_append]
  simp only [List.append_assoc]
  rfl

section Members

variable {w : Spacing} {item : Reader α} {text : β → String} {limit : Nat} {q : β → Prop}
  {r : β → α → Prop} {ms : List (String × β)}

/-- Members read for written ones: the names are the same, the values are related. -/
def MembersRead {α β : Type} (r : β → α → Prop) : List (String × β) → List (String × α) → Prop :=
  List.Forall₂ fun m n => n.1 = m.1 ∧ r m.2 n.2

theorem members_listed_ok (hitem : ∀ gs, item (Glyph.ofString w.colon ++ gs) = item gs)
    (hgap : Blank gap) (hclose : Blank close)
    (h : ∀ m ∈ ms, m.1.toList.length < limit ∧
      ReadsIf item (q m.2) (r m.2) (Glyph.ofString (text m.2)))
    (hq : ∀ m ∈ ms, q m.2) {fuel : Nat} (hfuel : ms.length < fuel)
    (acc : List (String × α)) (rest : List Glyph) :
    ∃ ns, MembersRead r ms ns ∧ members limit item fuel false acc
      (listed gap (fun m => w.member m.1 (text m.2)) ms ++ (close ++ .scalar '\x7d' :: rest)) =
        .ok (acc.reverse ++ ns, rest) := by
  induction ms generalizing fuel acc with
  | nil =>
    obtain ⟨fuel, rfl⟩ := Nat.exists_eq_succ_of_ne_zero (Nat.ne_of_gt hfuel)
    refine ⟨[], .nil, ?_⟩
    rw [List.append_nil]
    exact members_close hclose fuel false acc rest
  | cons m ms ih =>
    obtain ⟨fuel, rfl⟩ := Nat.exists_eq_succ_of_ne_zero (Nat.ne_of_gt (Nat.zero_lt_of_lt hfuel))
    obtain ⟨⟨hkey, hm⟩, hms⟩ := List.forall_mem_cons.mp h
    obtain ⟨hqm, hqms⟩ := List.forall_mem_cons.mp hq
    obtain ⟨a, hr, ha⟩ := hm.ok hqm _ (stops_listed hclose _ ms rest).2
    obtain ⟨ns, hrs, hns⟩ := ih hms hqms (Nat.lt_of_succ_lt_succ hfuel) ((m.1, a) :: acc)
    refine ⟨(m.1, a) :: ns, .cons ⟨rfl, hr⟩ hrs, ?_⟩
    rw [listed_cons, ofString_member, members_succ fuel acc
      ((nextKey_comma_blank hgap limit _).trans (nextKey_quote hkey).2),
      hitem, ha]
    show members limit item fuel false ((m.1, a) :: acc) _ = _
    rw [hns, List.reverse_cons, List.append_assoc]
    rfl

theorem members_listed_error (hitem : ∀ gs, item (Glyph.ofString w.colon ++ gs) = item gs)
    (hgap : Blank gap) (hclose : Blank close)
    (h : ∀ m ∈ ms, m.1.toList.length < limit ∧
      ReadsIf item (q m.2) (r m.2) (Glyph.ofString (text m.2)))
    (hq : ∃ m ∈ ms, ¬q m.2) {fuel : Nat} (hfuel : ms.length < fuel)
    (acc : List (String × α)) (rest : List Glyph) :
    ∃ left, members limit item fuel false acc
      (listed gap (fun m => w.member m.1 (text m.2)) ms ++ (close ++ .scalar '\x7d' :: rest)) =
        .error ⟨.recursionLimit, left⟩ := by
  induction ms generalizing fuel acc with
  | nil =>
    obtain ⟨m, hm, -⟩ := hq
    cases hm
  | cons m ms ih =>
    obtain ⟨fuel, rfl⟩ := Nat.exists_eq_succ_of_ne_zero (Nat.ne_of_gt (Nat.zero_lt_of_lt hfuel))
    obtain ⟨⟨hkey, hm⟩, hms⟩ := List.forall_mem_cons.mp h
    have hstops : Stops (listed gap (fun m => w.member m.1 (text m.2)) ms ++
        (close ++ .scalar '\x7d' :: rest)) := (stops_listed hclose _ ms rest).2
    rw [listed_cons, ofString_member, members_succ fuel acc
      ((nextKey_comma_blank hgap limit _).trans (nextKey_quote hkey).2),
      hitem]
    by_cases hqm : q m.2
    · obtain ⟨a, -, ha⟩ := hm.ok hqm _ hstops
      obtain ⟨n, hn, hqn⟩ := hq
      have hmem : n ∈ ms := (List.mem_cons.mp hn).resolve_left fun heq => hqn (heq ▸ hqm)
      rw [ha]
      exact ih hms ⟨n, hmem, hqn⟩ (Nat.lt_of_succ_lt_succ hfuel) ((m.1, a) :: acc)
    · obtain ⟨e, he⟩ := hm.error hqm _ hstops
      rw [he]
      exact ⟨e, rfl⟩

/-- The members of an object, up to its closing bracket. -/
theorem members_enclosed (w : Spacing) (hitem : ∀ gs, item (Glyph.ofString w.colon ++ gs) = item gs)
    (level : Nat)
    (h : ∀ m ∈ ms, m.1.toList.length < limit ∧
      ReadsIf item (q m.2) (r m.2) (Glyph.ofString (text m.2)))
    {fuel : Nat} (hfuel : ms.length < fuel) (rest : List Glyph) :
    ((∀ m ∈ ms, q m.2) → ∃ ns, MembersRead r ms ns ∧
      members limit item fuel true []
        (Glyph.ofString (w.enclosed level (ms.map fun m => w.member m.1 (text m.2))) ++
          .scalar '\x7d' :: rest) = .ok (ns, rest)) ∧
    (¬(∀ m ∈ ms, q m.2) → ∃ left,
      members limit item fuel true []
        (Glyph.ofString (w.enclosed level (ms.map fun m => w.member m.1 (text m.2))) ++
          .scalar '\x7d' :: rest) = .error ⟨.recursionLimit, left⟩) := by
  obtain ⟨fuel, rfl⟩ := Nat.exists_eq_succ_of_ne_zero (Nat.ne_of_gt (Nat.zero_lt_of_lt hfuel))
  have hgap := w.blank_gap (level + 1)
  have hclose := w.blank_gap level
  cases ms with
  | nil => exact ⟨fun _ => ⟨[], .nil, rfl⟩, fun hq => absurd (List.forall_mem_nil _) hq⟩
  | cons m ms =>
    -- the first member is read like one behind a comma
    have hsame : members limit item (fuel + 1) true []
        (Glyph.ofString (w.enclosed level ((m :: ms).map fun m => w.member m.1 (text m.2))) ++
          .scalar '\x7d' :: rest) =
      members limit item (fuel + 1) false []
        (listed (Glyph.ofString (w.gap (level + 1))) (fun m => w.member m.1 (text m.2)) (m :: ms) ++
          (Glyph.ofString (w.gap level) ++ .scalar '\x7d' :: rest)) := by
      have hkey := (List.forall_mem_cons.mp h).1.1
      rw [ofString_enclosed, listed_cons, List.append_assoc, List.append_assoc, List.append_assoc,
        ofString_member,
        members_succ fuel [] ((nextKey_blank hgap limit _ _).trans (nextKey_quote hkey).1),
        members_succ fuel [] ((nextKey_comma_blank hgap limit _).trans (nextKey_quote hkey).2)]
    rw [hsame]
    refine ⟨fun hq => members_listed_ok hitem hgap hclose h hq hfuel [] rest, fun hq => ?_⟩
    have hex : ∃ n ∈ m :: ms, ¬q n.2 := by simpa only [not_forall, exists_prop] using hq
    exact members_listed_error hitem hgap hclose h hex hfuel [] rest

end Members

end Reader

end Json

end NodeTelemetry
