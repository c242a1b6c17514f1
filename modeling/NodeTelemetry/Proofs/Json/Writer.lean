import NodeTelemetry.Json.Writer

/-!
# What a compact text looks like

The compact writer appends to a text. Here its result is written down without that text: an array is
its items between brackets, joined by commas, and an object is its members between braces, each a
quoted name, a colon and a value.

From this follows what a reader of lines may rely on: a compact text has no control characters,
whatever the strings and names of the value hold (`control_free_compact`). Only quoted strings could
bring some in, and `escapeChar` writes each of them in printable characters.
-/

namespace NodeTelemetry.Json

open Text

/-! ### Values by structure -/

/-- What holds of every value without parts, of an array if it holds of its items, and of an object
if it holds of its members' values, holds of every value. -/
theorem ind {p : Json → Prop} (null : p .null) (bool : ∀ b, p (.bool b)) (int : ∀ i, p (.int i))
    (real : ∀ x, p (.real x)) (str : ∀ s, p (.str s))
    (arr : ∀ vs : List Json, (∀ v ∈ vs, p v) → p (.arr vs))
    (obj : ∀ ms : List (String × Json), (∀ m ∈ ms, p m.2) → p (.obj ms)) (v : Json) : p v :=
  Json.rec (motive_1 := p) (motive_2 := fun vs => ∀ v ∈ vs, p v)
    (motive_3 := fun ms => ∀ m ∈ ms, p m.2) (motive_4 := fun m => p m.2)
    null bool int real str arr obj
    (fun _ h => absurd h List.not_mem_nil)
    (fun _ _ hv hvs => List.forall_mem_cons.mpr ⟨hv, hvs⟩)
    (fun _ h => absurd h List.not_mem_nil)
    (fun _ _ hm hms => List.forall_mem_cons.mpr ⟨hm, hms⟩)
    (fun _ _ hv => hv) v

/-! ### The text without what stands before it -/

/-- The compact text of a member. -/
def memberText (m : String × Json) : String := quote m.1 ++ ":" ++ m.2.compact

/-- The writer appends the compact text. -/
def Appends (v : Json) : Prop := ∀ out : String, writeCompact out v = out ++ v.compact

theorem intercalate_cons (s : String) (ss : List String) :
    ",".intercalate (s :: ss) = s ++ String.join (ss.map ("," ++ ·)) := by
  induction ss generalizing s with
  | nil => simp
  | cons t ts ih =>
    rw [String.intercalate_cons_cons, ih, List.map_cons, String.join_cons]
    simp only [String.append_assoc]

theorem writeItems_eq {vs : List Json} (h : ∀ v ∈ vs, Appends v) (out : String) :
    writeItems out vs = out ++ String.join ((vs.map compact).map ("," ++ ·)) := by
  induction vs generalizing out with
  | nil => simp [writeItems]
  | cons v vs ih =>
    obtain ⟨hv, hvs⟩ := List.forall_mem_cons.mp h
    rw [writeItems, ih hvs, hv, String.push_eq_append, List.map_cons, List.map_cons,
      String.join_cons]
    simp only [String.append_assoc]
    rfl

theorem writeMembers_eq {ms : List (String × Json)} (h : ∀ m ∈ ms, Appends m.2) (out : String) :
    writeMembers out ms = out ++ String.join ((ms.map memberText).map ("," ++ ·)) := by
  induction ms generalizing out with
  | nil => simp [writeMembers]
  | cons m ms ih =>
    obtain ⟨k, v⟩ := m
    obtain ⟨hv, hms⟩ := List.forall_mem_cons.mp h
    rw [writeMembers, ih hms, hv, String.push_eq_append, String.push_eq_append, List.map_cons,
      List.map_cons, String.join_cons]
    simp only [memberText, String.append_assoc]
    rfl

/-- An array is appended as its items between brackets. -/
theorem writeCompact_arr {vs : List Json} (h : ∀ v ∈ vs, Appends v) (out : String) :
    writeCompact out (arr vs) = out ++ ("[" ++ ",".intercalate (vs.map compact) ++ "]") := by
  cases vs with
  | nil => simp [writeCompact]
  | cons v vs =>
    obtain ⟨hv, hvs⟩ := List.forall_mem_cons.mp h
    rw [writeCompact, writeItems_eq hvs, hv, String.push_eq_append, String.push_eq_append,
      List.map_cons, intercalate_cons]
    simp only [String.append_assoc]
    rfl

/-- An object is appended as its members between braces. -/
theorem writeCompact_obj {ms : List (String × Json)} (h : ∀ m ∈ ms, Appends m.2) (out : String) :
    writeCompact out (obj ms) =
      out ++ ("\x7b" ++ ",".intercalate (ms.map memberText) ++ "\x7d") := by
  cases ms with
  | nil => simp [writeCompact]
  | cons m ms =>
    obtain ⟨k, v⟩ := m
    obtain ⟨hv, hms⟩ := List.forall_mem_cons.mp h
    rw [writeCompact, writeMembers_eq hms, hv, String.push_eq_append, String.push_eq_append,
      String.push_eq_append, List.map_cons, intercalate_cons]
    simp only [memberText, String.append_assoc]
    rfl

/-- The writer appends the compact text of every value. -/
theorem appends (v : Json) : Appends v := by
  induction v using ind with
  | null | bool | int | real | str =>
    intro out
    simp only [compact, writeCompact, String.empty_append]
  | arr vs ih =>
    intro out
    rw [writeCompact_arr ih, compact, writeCompact_arr ih, String.empty_append]
  | obj ms ih =>
    intro out
    rw [writeCompact_obj ih, compact, writeCompact_obj ih, String.empty_append]

/-- The compact text of an array. -/
theorem compact_arr (vs : List Json) :
    (arr vs).compact = "[" ++ ",".intercalate (vs.map compact) ++ "]" := by
  rw [compact, writeCompact_arr fun v _ => appends v, String.empty_append]

/-- The compact text of an object. -/
theorem compact_obj (ms : List (String × Json)) :
    (obj ms).compact = "\x7b" ++ ",".intercalate (ms.map memberText) ++ "\x7d" := by
  rw [compact, writeCompact_obj fun m _ => appends m.2, String.empty_append]

/-- An object is written as a pair of braces exactly if it has no members. -/
theorem compact_obj_eq_braces {ms : List (String × Json)} :
    (obj ms).compact = "\x7b\x7d" ↔ ms = [] := by
  refine ⟨fun h => ?_, fun h => h ▸ rfl⟩
  cases ms with
  | nil => rfl
  | cons m ms =>
    -- the name of the first member begins with a quote, where the other text has its closing brace
    rw [compact_obj, List.map_cons, intercalate_cons, memberText, quote] at h
    have hchars := congrArg String.toList h
    simp at hchars

/-! ### No control characters -/

/-- A text without control characters. -/
def ControlFree (cs : List Char) : Prop := ∀ c ∈ cs, 0x20 ≤ c.toNat

instance (cs : List Char) : Decidable (ControlFree cs) :=
  List.decidableBAll (fun c : Char => 0x20 ≤ c.toNat) cs

namespace ControlFree

theorem nil : ControlFree [] := fun _ h => absurd h List.not_mem_nil

theorem append {cs ds : List Char} (hc : ControlFree cs) (hd : ControlFree ds) :
    ControlFree (cs ++ ds) := fun c h => (List.mem_append.mp h).elim (hc c) (hd c)

theorem cons {c : Char} {cs : List Char} (hc : 0x20 ≤ c.toNat) (hcs : ControlFree cs) :
    ControlFree (c :: cs) := List.forall_mem_cons.mpr ⟨hc, hcs⟩

theorem replicate {c : Char} (n : Nat) (hc : 0x20 ≤ c.toNat) : ControlFree (List.replicate n c) :=
  fun d h => by rwa [List.eq_of_mem_replicate h]

theorem sublist {cs ds : List Char} (h : cs.Sublist ds) (hd : ControlFree ds) : ControlFree cs :=
  fun c hc => hd c (h.subset hc)

theorem ite {p : Prop} [Decidable p] {cs ds : List Char} (hc : ControlFree cs)
    (hd : ControlFree ds) : ControlFree (if p then cs else ds) := by
  split
  · exact hc
  · exact hd

theorem flatMap {α : Type} {f : α → List Char} {as : List α} (h : ∀ a ∈ as, ControlFree (f a)) :
    ControlFree (as.flatMap f) := fun c hc => by
  obtain ⟨a, ha, hc⟩ := List.mem_flatMap.mp hc
  exact h a ha c hc

end ControlFree

theorem controlFree_decimal (n : Nat) : ControlFree (decimal n) := by
  intro c hc
  have hdigit : c.isDigit = true := Nat.isDigit_of_mem_toDigits (by decide) (by decide) hc
  rw [Char.isDigit, Bool.and_eq_true, decide_eq_true_eq, decide_eq_true_eq] at hdigit
  have hle : ('0' : Char).toNat ≤ c.toNat := UInt32.le_iff_toNat_le.mp hdigit.1
  exact Nat.le_trans (by decide) hle

theorem controlFree_signed (i : Int) : ControlFree (signed i) := by
  unfold signed
  split
  · exact .cons (by decide) (controlFree_decimal _)
  · exact controlFree_decimal _

/-- Digits, a point, an exponent and its sign are all that a layout writes. -/
theorem controlFree_layout (l : Binary.Layout) (d : Binary.Decimal) :
    ControlFree (l.decimal d) := by
  unfold Binary.Layout.decimal
  extract_lets ds top small large mantissa sign
  have hds : ControlFree ds := controlFree_decimal d.digits
  have hmantissa : ControlFree mantissa := by
    clear_value ds
    rcases ds with _ | ⟨c, _ | ⟨e, rest⟩⟩
    · exact hds
    · exact hds
    · exact .cons (hds c List.mem_cons_self)
        (.cons (by decide) (hds.sublist (List.sublist_cons_self _ _)))
  have hsign : ControlFree sign := .ite (by decide) (.ite (by decide) (by decide))
  refine .ite ?_ (.ite ?_ (.ite ?_ ?_))
  · exact (hmantissa.append (.cons (by decide) hsign)).append (controlFree_decimal _)
  · exact (hds.append (.replicate _ (by decide))).append (.ite (by decide) (by decide))
  · exact (hds.sublist (List.take_sublist _ _)).append
      (.cons (by decide) (hds.sublist (List.drop_sublist _ _)))
  · exact (ControlFree.cons (by decide) (.cons (by decide) (.replicate _ (by decide)))).append hds

theorem controlFree_render (l : Binary.Layout) (p : Binary.Precision) (x : Binary) :
    ControlFree (l.render p x) := by
  cases x with
  | nan => exact show ControlFree "NaN".toList by decide
  | infinite s =>
    exact .append (.ite (by decide) (by decide)) (show ControlFree "inf".toList by decide)
  | finite s m e => exact .append (.ite (by decide) (by decide)) (controlFree_layout l _)

/-- A quote, a backslash and every control character are escaped, all else is printable. -/
theorem controlFree_escapeChar (c : Char) : ControlFree (escapeChar c) := by
  have hhex : ∀ n < 0x20, ControlFree
      ['\\', 'u', '0', '0', hexDigit (n / 16), hexDigit (n % 16)] := by decide
  unfold escapeChar
  split
  case h_8 =>
    by_cases h : c.toNat < 0x20
    · rw [if_pos h]
      exact hhex _ h
    · rw [if_neg h]
      exact .cons (Nat.le_of_not_lt h) .nil
  all_goals decide

theorem controlFree_quote (s : String) : ControlFree (quote s).toList := by
  unfold quote
  rw [String.toList_ofList]
  exact .append (.cons (by decide) (.flatMap fun c _ => controlFree_escapeChar c)) (by decide)

theorem controlFree_intercalate {ss : List String} (h : ∀ s ∈ ss, ControlFree s.toList) :
    ControlFree (",".intercalate ss).toList := by
  cases ss with
  | nil => decide
  | cons s ss =>
    obtain ⟨hs, hss⟩ := List.forall_mem_cons.mp h
    rw [intercalate_cons, String.toList_append, String.toList_join, List.flatMap_map]
    refine hs.append (.flatMap fun t ht => ?_)
    rw [String.toList_append]
    exact .append (by decide) (hss t ht)

/-- **A compact text has no control characters**, whatever the strings and names of the value
hold. -/
theorem control_free_compact (v : Json) : ControlFree v.compact.toList := by
  induction v using ind with
  | null => decide
  | bool b => cases b <;> decide
  | int i =>
    show ControlFree ("" ++ String.ofList (signed i)).toList
    rw [String.empty_append, String.toList_ofList]
    exact controlFree_signed i
  | real x =>
    show ControlFree ("" ++ if x.isFinite then realText x else "null").toList
    rw [String.empty_append]
    split
    · rw [realText, String.toList_ofList]
      exact controlFree_render _ _ x
    · decide
  | str s =>
    show ControlFree ("" ++ quote s).toList
    rw [String.empty_append]
    exact controlFree_quote s
  | arr vs ih =>
    rw [compact_arr, String.toList_append, String.toList_append]
    refine .append (.append (by decide) (controlFree_intercalate fun s hs => ?_)) (by decide)
    obtain ⟨v, hv, rfl⟩ := List.mem_map.mp hs
    exact ih v hv
  | obj ms ih =>
    rw [compact_obj, String.toList_append, String.toList_append]
    refine .append (.append (by decide) (controlFree_intercalate fun s hs => ?_)) (by decide)
    obtain ⟨m, hm, rfl⟩ := List.mem_map.mp hs
    rw [memberText, String.toList_append, String.toList_append]
    exact ((controlFree_quote m.1).append (by decide)).append (ih m hm)

end NodeTelemetry.Json
