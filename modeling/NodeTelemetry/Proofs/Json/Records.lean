import NodeTelemetry.Json.Typed
import NodeTelemetry.Proofs.Json.RoundTrip

/-!
# Records read from what was written

A record is read member by member, and each member changes what is known of it. So if the members of
an object have the names of fields, no name twice and none of the necessary ones missing, and each of
them is read as a change (`Schema.Changes`), the text of the object is read as the record that all
changes make (`Schema.readsIf_obj`). The induction is on the members; the names that were seen are
carried along, for the next member must be none of them.
-/

namespace NodeTelemetry.Json

namespace Reader

variable {ws rest : List Glyph}

/-! ### Values of a known kind -/

/-- A string is read from its text, as long as the reader has steps for it. -/
theorem text_scalarText (h : Blank ws) {s : String} {fuel : Nat}
    (hfuel : (scalarText (.str s)).toList.length < fuel) (rest : List Glyph) :
    text fuel (ws ++ (Glyph.ofString (scalarText (.str s)) ++ rest)) = .ok (s, rest) := by
  have hkey : s.toList.length < fuel := Nat.lt_trans (length_lt_quote s) hfuel
  rw [show scalarText (.str s) = quote s from rfl, ofString_quote]
  unfold text textAs
  rw [skipBlanks_blank h]
  exact string_quote hkey rest

/-- What is read as a number is converted. -/
theorem numberAs_number {α : Type} {wanted : String} {convert : Json → Except Cause α}
    (h : Blank ws) {gs : List Glyph} {v : Json} (hnumber : number gs = .ok (v, rest)) {a : α}
    (hconvert : convert v = .ok a) : numberAs wanted convert (ws ++ gs) = .ok (a, rest) := by
  have hskip := (value_number hnumber 0 0).1.skipBlanks []
  rw [List.append_nil] at hskip
  obtain ⟨c, tail, rfl, hc⟩ := head_of_number hnumber
  have hstarts : startsNumber (.scalar c :: tail) = true := by
    rcases hc with rfl | hdigit
    · rfl
    · simp [startsNumber, digit?_scalar hdigit]
  unfold numberAs
  rw [skipBlanks_blank h, hskip]
  simp only [if_pos hstarts, hnumber, bind, Except.bind, hconvert]

/-- A word is read from its text. -/
theorem natural_scalarText (h : Blank ws) (n : UInt64) (hrest : Stops rest) :
    natural (ws ++ (Glyph.ofString (scalarText (.int n.toNat)) ++ rest)) = .ok (n, rest) := by
  have hnumber : number (Glyph.ofString (scalarText (.int n.toNat)) ++ rest) =
      .ok (.int n.toNat, rest) := by
    have hlt := n.toNat_lt
    rw [show scalarText (.int n.toNat) = String.ofList (Text.signed n.toNat) from rfl,
      Glyph.ofString_ofList]
    refine number_int ?_ ?_ hrest
    · unfold Text.maxInteger
      omega
    · unfold Text.maxWord
      omega
  refine numberAs_number h hnumber ?_
  show (if (n.toNat : Int) < 0 then _ else Except.ok (UInt64.ofNat (Int.toNat n.toNat))) = _
  rw [if_neg (by omega), Int.toNat_natCast, UInt64.ofNat_toNat]

/-- A finite number is read as some number. -/
theorem real_scalarText (h : Blank ws) {negative : Bool} {m : Nat} {e : Int}
    (hfits : (Binary.finite negative m e).Fits) (hrest : Stops rest) :
    ∃ y, real (ws ++ (Glyph.ofString (scalarText (.real (.finite negative m e))) ++ rest)) =
      .ok (y, rest) := by
  obtain ⟨y, hy⟩ := number_real hfits hrest
  have hnumber : number (Glyph.ofString (scalarText (.real (.finite negative m e))) ++ rest) =
      .ok (.real y, rest) := by
    show number (Glyph.ofString (realText (.finite negative m e)) ++ rest) = _
    rw [realText, Glyph.ofString_ofList]
    exact hy
  exact ⟨y, numberAs_number h hnumber rfl⟩

/-! ### What can be read -/

/-- Values by name that are read are in the order of their names. -/
theorem gives_keyedOf {α : Type} {p : α → Prop} {item : (depth : Nat) → Reader α}
    (h : ∀ depth gs, Gives p (item depth gs)) (fuel depth : Nat) (gs : List Glyph) :
    Gives (fun m => Keyed.Sorted m ∧ ∀ c ∈ m, p c.2) (keyedOf fuel item depth gs) := by
  unfold keyedOf
  split
  · exact gives_error _ _
  · split
    · exact gives_error _ _
    · refine gives_bind_of (gives_members (h _) fuel fuel true (List.forall_mem_nil _) _)
        fun ms rest hms => gives_ok ⟨Keyed.sorted_ofList ms, fun c hc => ?_⟩ rest
      exact hms c (Keyed.mem_of_mem_ofList hc)
  · exact fun a rest h => (gives_mismatch _ _ a rest h).elim

/-- An integer that is read has 64 bits. -/
theorem gives_integer (gs : List Glyph) :
    Gives (fun i => -((Text.maxInteger : Int) + 1) ≤ i ∧ i ≤ Text.maxInteger) (integer gs) := by
  unfold integer numberAs
  dsimp only
  split
  · exact gives_error _ _
  · split
    · refine gives_bind_of (sound_number _) fun v rest hv => ?_
      cases hv with
      | int i hlow hhigh =>
        dsimp only
        split
        · rename_i a ha
          by_cases hi : (Text.maxInteger : Int) < i
          · rw [if_pos hi] at ha
            cases ha
          · rw [if_neg hi] at ha
            cases ha
            exact gives_ok ⟨hlow, not_lt.mp hi⟩ rest
        · exact gives_error _ _
      | null | bool | real | str | arr | obj => exact gives_error _ _
    · exact fun a rest h => (gives_mismatch _ _ a rest h).elim

end Reader

open Reader

namespace Schema

variable {σ : Type} {s : Schema σ} {w : Spacing} {text : Json → String} {fuel depth : Nat}
  {rest : List Glyph}

/-- The reader of a field gives a change of the record with some property for the text of a value. -/
def FieldReads (w : Spacing) (text : Json → String) (fuel depth : Nat) (f : RecordField σ) (v : Json)
    (r : (σ → σ) → Prop) : Prop :=
  ∀ rest, Stops rest → ∃ change, r change ∧
    f.read fuel depth (Glyph.ofString w.colon ++ (Glyph.ofString (text v) ++ rest)) =
      .ok (change, rest)

/-- A field that sets what some reader gives is read as this change. -/
theorem fieldReads_of {α : Type} {f : RecordField σ} (reader : (fuel depth : Nat) → Reader α)
    (set : α → σ → σ) (hf : f.read = fun fuel depth gs => do
      let (a, rest) ← reader fuel depth gs
      return (set a, rest))
    {text : Json → String} {v : Json} {a : α}
    (hread : ∀ rest, Stops rest →
      reader fuel depth (Glyph.ofString w.colon ++ (Glyph.ofString (text v) ++ rest)) =
        .ok (a, rest)) :
    FieldReads w text fuel depth f v (· = set a) := by
  intro rest hrest
  refine ⟨_, rfl, ?_⟩
  rw [hf]
  show (reader fuel depth _ >>= _) = _
  rw [hread rest hrest]
  rfl

/-- A written member has the name of a field, and the reader of the field gives a change for its
value. -/
def Changes (s : Schema σ) (w : Spacing) (text : Json → String) (fuel depth : Nat)
    (m : String × Json) (r : (σ → σ) → Prop) : Prop :=
  ∃ f ∈ s.fields, f.name = m.1 ∧ FieldReads w text fuel depth f m.2 r

/-- No two fields have the same name. -/
def Distinct (s : Schema σ) : Prop := (s.fields.map RecordField.name).Nodup

instance (s : Schema σ) : Decidable s.Distinct := inferInstanceAs (Decidable (List.Nodup _))

/-- The record that some changes make, one after the other. -/
def changed (a : σ) (changes : List (σ → σ)) : σ := changes.foldl (fun a change => change a) a

/-- A record is made by changes with some properties, one for each. -/
def Made (rs : List ((σ → σ) → Prop)) (a b : σ) : Prop :=
  ∃ changes, List.Forall₂ (fun r change => r change) rs changes ∧ b = changed a changes

theorem made_nil {a b : σ} : Made [] a b ↔ b = a := by
  simp [Made, changed]

theorem made_cons {r : (σ → σ) → Prop} {rs : List ((σ → σ) → Prop)} {a b : σ} :
    Made (r :: rs) a b ↔ ∃ change, r change ∧ Made rs (change a) b := by
  constructor
  · rintro ⟨_, hchanges, rfl⟩
    cases hchanges with
    | cons hchange hrest => exact ⟨_, hchange, _, hrest, rfl⟩
  · rintro ⟨change, hchange, changes, hrest, rfl⟩
    exact ⟨change :: changes, .cons hchange hrest, rfl⟩

/-- A change that is known is made first. -/
theorem made_eq_cons {change : σ → σ} {rs : List ((σ → σ) → Prop)} {a b : σ} :
    Made ((· = change) :: rs) a b ↔ Made rs (change a) b := by
  simp [made_cons]

/-- No field that may not be absent is missing among some names. -/
def Complete (s : Schema σ) (names : List String) : Prop :=
  ∀ f ∈ s.fields, f.optional = false → f.name ∈ names

instance (s : Schema σ) (names : List String) : Decidable (s.Complete names) :=
  inferInstanceAs (Decidable (∀ f ∈ s.fields, f.optional = false → f.name ∈ names))

/-- A field is found by its name. -/
theorem find?_field (h : s.Distinct) {f : RecordField σ} (hf : f ∈ s.fields) :
    s.fields.find? (fun g => g.name == f.name) = some f := by
  unfold Distinct at h
  generalize s.fields = fs at h hf ⊢
  induction fs with
  | nil => cases hf
  | cons g gs ih =>
    obtain ⟨hnew, hgs⟩ := List.nodup_cons.mp h
    rcases List.mem_cons.mp hf with rfl | hf
    · exact List.find?_cons_of_pos (beq_self_eq_true _)
    · have hne : g.name ≠ f.name := fun heq => hnew (heq ▸ List.mem_map_of_mem hf)
      rw [List.find?_cons_of_neg (by simpa using hne)]
      exact ih hgs hf

theorem missing?_eq_none {names : List String} (h : s.Complete names) : s.missing? names = none := by
  unfold missing?
  rw [Option.map_eq_none_iff, List.find?_eq_none]
  intro f hf
  cases hoptional : f.optional with
  | true => simp
  | false => simp [h f hf hoptional]

/-! ### Members -/

theorem readMembers_succ (h : s.Distinct) (fuel : Nat) {limit : Nat} {first : Bool}
    {seen : List String} {a : σ} {f : RecordField σ} (hf : f ∈ s.fields) {gs : List Glyph}
    (hkey : nextKey limit first gs = .ok (some f.name, .scalar ':' :: rest))
    (hseen : f.name ∉ seen) :
    s.readMembers limit depth (fuel + 1) first seen a gs =
      f.read limit depth rest >>= fun r =>
        s.readMembers limit depth fuel false (f.name :: seen) (r.1 a) r.2 := by
  have hnot : seen.contains f.name = false := by simpa using hseen
  rw [readMembers, hkey]
  simp only [bind, Except.bind, find?_field h hf, hnot, Bool.false_eq_true, if_false]
  rfl

theorem readMembers_close {ws : List Glyph} (h : Blank ws) (fuel : Nat) {limit : Nat} {first : Bool}
    {seen : List String} (hcomplete : s.Complete seen) (a : σ) (rest : List Glyph) :
    s.readMembers limit depth (fuel + 1) first seen a (ws ++ .scalar '\x7d' :: rest) =
      .ok (a, rest) := by
  have hkey : nextKey limit first (ws ++ .scalar '\x7d' :: rest) =
      .ok (none, .scalar '\x7d' :: rest) := nextKey_blank h limit first (.scalar '\x7d' :: rest)
  rw [readMembers, hkey]
  simp only [bind, Except.bind, missing?_eq_none hcomplete]
  rfl

section Members

variable {limit : Nat} {gap close : List Glyph} {ms : List (String × Json)}
  {rs : List ((σ → σ) → Prop)}

/-- The members behind the first one, up to the closing bracket. -/
theorem readMembers_listed (h : s.Distinct) (hgap : Blank gap) (hclose : Blank close)
    (hkeys : ∀ m ∈ ms, m.1.toList.length < limit)
    (hchanges : List.Forall₂ (s.Changes w text limit depth) ms rs) {seen : List String}
    (hnodup : (ms.map Prod.fst ++ seen).Nodup) (hcomplete : s.Complete (ms.map Prod.fst ++ seen))
    {fuel : Nat} (hfuel : ms.length < fuel) (a : σ) (rest : List Glyph) :
    ∃ b, Made rs a b ∧ s.readMembers limit depth fuel false seen a
      (listed gap (fun m => w.member m.1 (text m.2)) ms ++ (close ++ .scalar '\x7d' :: rest)) =
        .ok (b, rest) := by
  induction hchanges generalizing seen fuel a with
  | nil =>
    obtain ⟨fuel, rfl⟩ := Nat.exists_eq_succ_of_ne_zero (Nat.ne_of_gt hfuel)
    exact ⟨a, made_nil.mpr rfl, readMembers_close hclose fuel hcomplete a rest⟩
  | @cons m r ms rs hm _ ih =>
    obtain ⟨fuel, rfl⟩ := Nat.exists_eq_succ_of_ne_zero (Nat.ne_of_gt (Nat.zero_lt_of_lt hfuel))
    obtain ⟨hkey, hrestKeys⟩ := List.forall_mem_cons.mp hkeys
    obtain ⟨k, v⟩ := m
    obtain ⟨f, hf, rfl, hread⟩ := hm
    obtain ⟨hnew, -⟩ := List.nodup_cons.mp hnodup
    -- the name just read stands before the others now, which is the same set of names
    have hperm : (ms.map Prod.fst ++ f.name :: seen).Perm (f.name :: (ms.map Prod.fst ++ seen)) :=
      List.perm_middle
    have hstops : Stops (listed gap (fun m => w.member m.1 (text m.2)) ms ++
        (close ++ .scalar '\x7d' :: rest)) := (stops_listed hclose _ ms rest).2
    obtain ⟨change, hr, hchange⟩ := hread _ hstops
    obtain ⟨b, hmade, hb⟩ := ih hrestKeys (hperm.nodup_iff.mpr hnodup)
      (fun f hf hoptional => hperm.mem_iff.mpr (hcomplete f hf hoptional))
      (Nat.lt_of_succ_lt_succ hfuel) (change a)
    refine ⟨b, made_cons.mpr ⟨change, hr, hmade⟩, ?_⟩
    rw [listed_cons, ofString_member, readMembers_succ h fuel hf
      ((nextKey_comma_blank hgap limit _).trans (nextKey_quote hkey).2)
      (fun hseen => hnew (List.mem_append_right _ hseen)), hchange]
    exact hb

/-- The members of a record, up to its closing bracket. -/
theorem readMembers_enclosed (h : s.Distinct) (level : Nat)
    (hkeys : ∀ m ∈ ms, m.1.toList.length < limit)
    (hchanges : List.Forall₂ (s.Changes w text limit depth) ms rs)
    (hnodup : (ms.map Prod.fst).Nodup) (hcomplete : s.Complete (ms.map Prod.fst))
    {fuel : Nat} (hfuel : ms.length < fuel) (rest : List Glyph) :
    ∃ b, Made rs s.blank b ∧ s.readMembers limit depth fuel true [] s.blank
      (Glyph.ofString (w.enclosed level (ms.map fun m => w.member m.1 (text m.2))) ++
        .scalar '\x7d' :: rest) = .ok (b, rest) := by
  obtain ⟨fuel, rfl⟩ := Nat.exists_eq_succ_of_ne_zero (Nat.ne_of_gt (Nat.zero_lt_of_lt hfuel))
  have hgap := w.blank_gap (level + 1)
  have hclose := w.blank_gap level
  rw [← List.append_nil (ms.map Prod.fst)] at hnodup hcomplete
  obtain ⟨b, hmade, hb⟩ :=
    readMembers_listed h hgap hclose hkeys hchanges hnodup hcomplete hfuel s.blank rest
  refine ⟨b, hmade, ?_⟩
  cases hchanges with
  | nil =>
    have hempty : Blank [] := List.forall_mem_nil _
    obtain rfl := made_nil.mp hmade
    exact readMembers_close hempty fuel hcomplete s.blank rest
  | @cons m r ms rs hm _ =>
    -- the first member is read like one behind a comma
    obtain ⟨k, v⟩ := m
    obtain ⟨f, hf, rfl, -⟩ := hm
    have hkey := (List.forall_mem_cons.mp hkeys).1
    rw [listed_cons, ofString_member, readMembers_succ h fuel hf
      ((nextKey_comma_blank hgap limit _).trans (nextKey_quote hkey).2)
      List.not_mem_nil] at hb
    rw [ofString_enclosed, List.append_assoc, List.append_assoc, List.append_assoc, ofString_member,
      readMembers_succ h fuel hf ((nextKey_blank hgap limit _ _).trans (nextKey_quote hkey).1)
        List.not_mem_nil]
    exact hb

end Members

/-! ### Records -/

/-- **A record is read from the text of its object**, in whatever layout. -/
theorem readsIf_obj {text : Nat → Json → String} (h : Lays w text) (hdistinct : s.Distinct)
    (level depth : Nat) {ms : List (String × Json)} {rs : List ((σ → σ) → Prop)}
    (hfuel : (text level (obj ms)).toList.length < fuel)
    (hchanges : List.Forall₂ (fun m r => (text (level + 1) m.2).toList.length < fuel →
      s.Changes w (text (level + 1)) fuel depth m r) ms rs)
    (hnodup : (ms.map Prod.fst).Nodup) (hcomplete : s.Complete (ms.map Prod.fst)) :
    ReadsIf (s.read fuel (depth + 1)) True (Made rs s.blank)
      (Glyph.ofString (text level (obj ms))) := by
  refine ⟨begins_obj h level ms, fun _ rest _ => ?_, fun hnot => absurd trivial hnot⟩
  rw [h.obj, length_between _ _ _ rfl rfl] at hfuel
  obtain ⟨hcount, heach⟩ :=
    length_enclosed w level (ms.map fun m => w.member m.1 (text (level + 1) m.2))
  rw [List.length_map] at hcount
  have hshort : ∀ m ∈ ms, m.1.toList.length < fuel ∧
      (text (level + 1) m.2).toList.length < fuel := by
    intro m hm
    have hle := heach _ (List.mem_map_of_mem hm)
    obtain ⟨hkey, htext⟩ := length_member w m.1 (text (level + 1) m.2)
    omega
  have hread : List.Forall₂ (s.Changes w (text (level + 1)) fuel depth) ms rs :=
    ((List.forall₂_and_left _ _).mpr ⟨hshort, hchanges⟩).imp fun _ _ hm => hm.2 hm.1.2
  rw [ofString_obj h]
  exact readMembers_enclosed hdistinct level (fun m hm => (hshort m hm).1) hread hnodup hcomplete
    (by omega) rest

/-! ### Records with all fields in order -/

/-- What a value is read as by the reader of its field. -/
abbrev FieldValue (σ : Type) := Json × ((σ → σ) → Prop)

/-- Members with the names of some fields and with given values. -/
def named (fs : List (RecordField σ)) (vs : List (FieldValue σ)) : List (String × Json) :=
  fs.zipWith (fun f v => (f.name, v.1)) vs

theorem names_named {fs : List (RecordField σ)} {vs : List (FieldValue σ)}
    (h : fs.length = vs.length) : (named fs vs).map Prod.fst = fs.map RecordField.name := by
  induction fs generalizing vs with
  | nil => rfl
  | cons f fs ih =>
    cases vs with
    | nil => cases h
    | cons v vs => exact congrArg (f.name :: ·) (ih (Nat.succ.inj h))

/-- The value of a field is read if the reader has steps for it. -/
def FieldRead (w : Spacing) (text : Json → String) (fuel depth : Nat) (f : RecordField σ)
    (v : FieldValue σ) : Prop :=
  (text v.1).toList.length < fuel → FieldReads w text fuel depth f v.1 v.2

theorem changes_named {fs : List (RecordField σ)} {vs : List (FieldValue σ)}
    (hfields : ∀ f ∈ fs, f ∈ s.fields)
    (h : List.Forall₂ (FieldRead w text fuel depth) fs vs) :
    List.Forall₂ (fun m r => (text m.2).toList.length < fuel →
      s.Changes w text fuel depth m r) (named fs vs) (vs.map Prod.snd) := by
  induction h with
  | nil => exact .nil
  | @cons f v fs vs hread _ ih =>
    obtain ⟨hf, hfs⟩ := List.forall_mem_cons.mp hfields
    exact .cons (fun hfuel => ⟨f, hf, rfl, hread hfuel⟩) (ih hfs)

/-- **A record is read from the object of its fields in their order.** -/
theorem readsIf_named {text : Nat → Json → String} (h : Lays w text) (hdistinct : s.Distinct)
    (level depth : Nat) {vs : List (FieldValue σ)} {ms : List (String × Json)}
    (hfuel : (text level (obj ms)).toList.length < fuel)
    (hread : List.Forall₂ (FieldRead w (text (level + 1)) fuel depth) s.fields vs)
    (hms : ms = named s.fields vs) :
    ReadsIf (s.read fuel (depth + 1)) True (Made (vs.map Prod.snd) s.blank)
      (Glyph.ofString (text level (obj ms))) := by
  subst hms
  have hnames := names_named hread.length_eq
  refine readsIf_obj h hdistinct level depth hfuel (changes_named (fun _ hf => hf) hread) ?_ ?_
  · rw [hnames]
    exact hdistinct
  · rw [hnames]
    exact fun f hf _ => List.mem_map_of_mem hf

/-! ### Records with members in any order -/

theorem changed_perm {cs ds : List (σ → σ)} (hperm : cs.Perm ds)
    (hcomm : ∀ c ∈ cs, ∀ d ∈ cs, ∀ a, c (d a) = d (c a)) (a : σ) : changed a cs = changed a ds :=
  hperm.foldl_eq' (fun c hc d hd a => (hcomm c hc d hd a).symm) a

theorem made_eq {cs : List (σ → σ)} {a b : σ} (h : Made (cs.map fun c => (· = c)) a b) :
    b = changed a cs := by
  obtain ⟨ds, hds, rfl⟩ := h
  rw [List.forall₂_map_left_iff] at hds
  have heq : List.Forall₂ Eq cs ds := hds.imp fun _ _ => Eq.symm
  rw [List.forall₂_eq_eq_eq] at heq
  rw [heq]

/-- **Changes that do not get in the way of each other make one record**, in whatever order the
members stand. -/
theorem reads_obj {text : Nat → Json → String} (h : Lays w text) (hdistinct : s.Distinct)
    (level depth : Nat) {ms ns : List (String × Json)} {cs : List (σ → σ)}
    (hchanges : List.Forall₂ (fun m c => (text (level + 1) m.2).toList.length < fuel →
      s.Changes w (text (level + 1)) fuel depth m (· = c)) ms cs)
    (hnodup : (ms.map Prod.fst).Nodup) (hcomplete : s.Complete (ms.map Prod.fst))
    (hcomm : ∀ c ∈ cs, ∀ d ∈ cs, ∀ a, c (d a) = d (c a)) (hperm : ns.Perm ms)
    (hfuel : (text level (obj ns)).toList.length < fuel) :
    Reads (s.read fuel (depth + 1)) (Glyph.ofString (text level (obj ns))) (changed s.blank cs) := by
  obtain ⟨ds, hreads, hds⟩ := List.perm_comp_forall₂ hperm hchanges
  have hnames := hperm.map Prod.fst
  have hmembers : List.Forall₂ (fun m r => (text (level + 1) m.2).toList.length < fuel →
      s.Changes w (text (level + 1)) fuel depth m r) ns (ds.map fun c => (· = c)) :=
    List.forall₂_map_right_iff.mpr hreads
  have hread := readsIf_obj h hdistinct level depth hfuel hmembers (hnames.nodup_iff.mpr hnodup)
    fun f hf hoptional => hnames.mem_iff.mpr (hcomplete f hf hoptional)
  refine ⟨hread.begins, fun rest hrest => ?_⟩
  obtain ⟨a, ha, hvalue⟩ := hread.ok trivial rest hrest
  rw [hvalue, made_eq ha, ← changed_perm hds.symm hcomm]

theorem read_blank {ws : List Glyph} (h : Blank ws) (s : Schema σ) (fuel depth : Nat)
    (gs : List Glyph) : s.read fuel depth (ws ++ gs) = s.read fuel depth gs := by
  unfold read
  rw [skipBlanks_blank h]

/-- What is read up to the end of a text is the record that the whole text is read as. -/
theorem readText_of_reads {text : String} {a : σ}
    (h : Reads (s.read (fuelFor (Glyph.ofString text)) maxDepth) (Glyph.ofString text) a) :
    s.readText (Glyph.ofString text) = .ok a := by
  have hread := h.ok [] .nil
  rw [List.append_nil] at hread
  exact readWhole_eq_ok.mpr ⟨[], hread, rfl⟩

/-! ### Records that can be read -/

section Gives

variable {p : σ → Prop}
  (hfields : ∀ f ∈ s.fields, ∀ fuel depth gs,
    Gives (fun change : σ → σ => ∀ a, p a → p (change a)) (f.read fuel depth gs))

include hfields

/-- The fields of an array. -/
theorem gives_readItems (fuel depth : Nat) {fs : List (RecordField σ)} (hfs : ∀ f ∈ fs, f ∈ s.fields)
    (done : Nat) {a : σ} (ha : p a) (gs : List Glyph) :
    Gives p (s.readItems fuel depth fs done a gs) := by
  induction fs generalizing done a gs with
  | nil => exact gives_bind fun _ rest => gives_ok ha rest
  | cons f fs ih =>
    obtain ⟨hf, hrest⟩ := List.forall_mem_cons.mp hfs
    refine gives_bind fun more rest => ?_
    cases more with
    | false => exact gives_error _ _
    | true =>
      exact gives_bind_of (hfields f hf fuel depth rest) fun change rest hchange =>
        ih hrest (done + 1) (hchange a ha) rest

/-- The members of an object. -/
theorem gives_readMembers (limit depth fuel : Nat) (first : Bool) (seen : List String) {a : σ}
    (ha : p a) (gs : List Glyph) : Gives p (s.readMembers limit depth fuel first seen a gs) := by
  induction fuel generalizing first seen a gs with
  | zero => exact gives_error _ _
  | succ fuel ih =>
    refine gives_bind fun key rest => ?_
    cases key with
    | none =>
      dsimp only
      split
      · exact gives_ok ha _
      · exact gives_error _ _
    | some k =>
      dsimp only
      split
      · exact gives_bind fun _ rest => gives_bind fun _ rest => ih false seen ha rest
      · rename_i f hf
        have hmem : f ∈ s.fields := List.mem_of_find?_eq_some hf
        split
        · exact gives_error _ _
        · refine gives_bind fun _ rest => ?_
          exact gives_bind_of (hfields f hmem limit depth rest) fun change rest hchange =>
            ih false (k :: seen) (hchange a ha) rest

/-- **A property that the fields keep holds of every record that is read**, in whatever form it is
written. -/
theorem gives_read (hblank : p s.blank) (fuel depth : Nat) (gs : List Glyph) :
    Gives p (s.read fuel depth gs) := by
  unfold read
  split
  · exact gives_error _ _
  · split
    · exact gives_error _ _
    · exact gives_readItems hfields fuel _ (fun _ hf => hf) 0 hblank _
  · split
    · exact gives_error _ _
    · exact gives_readMembers hfields fuel _ fuel true [] hblank _
  · exact fun a rest h => (gives_mismatch _ _ a rest h).elim

end Gives

end Schema

end NodeTelemetry.Json
