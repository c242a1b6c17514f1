import NodeTelemetry.Proofs.Event
import NodeTelemetry.Proofs.Json.RoundTrip

/-!
# Events that are read back

An event is written as one flat object, and there are two ways to read it back. `Event.ofValue` takes
it for a posted value: it looks up the kind and the time and keeps the rest. `Event.ofWritten`, and
`Event.readText` for a text, take its members one by one, in any order, and refuse a kind or a time
that comes twice. This module proves that both give the event that was written.

What the members leave in a draft depends on the values of their names only, as long as no name comes
twice (`Draft.addAll_of_nodup`); this is the induction. The members of an event have this property,
and each of them has the value that the event says (`Plain.find?_members`), whatever their order is.
A text is read as its members are (`readText_eq_ok`), so what holds of values holds of texts.
-/

namespace NodeTelemetry.Event

/-! ### Drafts -/

/-- The members that are neither kind nor time. -/
def others (pairs : List (String × Json)) : Keyed Json :=
  (Keyed.erase kindName pairs).erase timeName

theorem others_cons_kind (v : Json) (pairs : List (String × Json)) :
    others ((kindName, v) :: pairs) = others pairs := rfl

theorem others_cons_time (v : Json) (pairs : List (String × Json)) :
    others ((timeName, v) :: pairs) = others pairs := rfl

theorem others_cons {name : String} (hkind : name ≠ kindName) (htime : name ≠ timeName) (v : Json)
    (pairs : List (String × Json)) :
    others ((name, v) :: pairs) = (name, v) :: others pairs := by
  have hkeep : ∀ {other : String}, name ≠ other → ∀ m : Keyed Json,
      Keyed.erase other ((name, v) :: m) = (name, v) :: Keyed.erase other m := fun h m =>
    List.filter_cons_of_pos (bne_iff_ne.mpr h)
  unfold others
  rw [hkeep hkind, hkeep htime]

theorem find?_others_of_ne {name : String} (hkind : name ≠ kindName) (htime : name ≠ timeName)
    (m : Keyed Json) : Keyed.find? name (others m) = Keyed.find? name m := by
  unfold others
  rw [Keyed.find?_erase_of_ne htime, Keyed.find?_erase_of_ne hkind]

theorem find?_others_kind (m : Keyed Json) : Keyed.find? kindName (others m) = none := by
  unfold others
  rw [Keyed.find?_erase_of_ne (by decide), Keyed.find?_erase_self]

theorem find?_others_time (m : Keyed Json) : Keyed.find? timeName (others m) = none :=
  Keyed.find?_erase_self _ _

namespace Draft

theorem add_kind (draft : Draft) (v : Json) :
    draft.add kindName v = { draft with kind := some v } := if_pos rfl

theorem add_time (draft : Draft) (v : Json) :
    draft.add timeName v = { draft with time := some v } := rfl

theorem add_other {name : String} (hkind : name ≠ kindName) (htime : name ≠ timeName)
    (draft : Draft) (v : Json) :
    draft.add name v = { draft with fields := (name, v) :: draft.fields } := by
  unfold add
  rw [if_neg hkind, if_neg htime]

/-- A member does not stand in the way of members with other names. -/
theorem has_add_of_ne {name other : String} (h : other ≠ name) (draft : Draft) (v : Json) :
    (draft.add name v).has other = draft.has other := by
  by_cases hkind : name = kindName
  · subst hkind
    rw [add_kind]
    simp [has, h]
  by_cases htime : name = timeName
  · subst htime
    rw [add_time]
    simp [has, h]
  · rw [add_other hkind htime]
    rfl

/-- **Members with a name each are all added**, and the draft has the values of their names. -/
theorem addAll_of_nodup {draft : Draft} {pairs : List (String × Json)}
    (hnodup : (Keyed.names pairs).Nodup) (hnew : ∀ name ∈ Keyed.names pairs, draft.has name = false) :
    draft.addAll pairs = .ok
      ⟨(Keyed.find? kindName pairs).or draft.kind, (Keyed.find? timeName pairs).or draft.time,
        (others pairs).reverse ++ draft.fields⟩ := by
  induction pairs generalizing draft with
  | nil => rfl
  | cons p pairs ih =>
    obtain ⟨name, v⟩ := p
    obtain ⟨hfirst, hrest⟩ := List.nodup_cons.mp hnodup
    obtain ⟨hadd, hlater⟩ := List.forall_mem_cons.mp hnew
    have hnot : ¬draft.has name = true := by
      rw [hadd]
      exact Bool.false_ne_true
    have hnext : ∀ other ∈ Keyed.names pairs, (draft.add name v).has other = false := by
      intro other hother
      have hne : other ≠ name := fun heq => hfirst (heq ▸ hother)
      rw [has_add_of_ne hne]
      exact hlater other hother
    rw [addAll, if_neg hnot, ih hrest hnext]
    by_cases hkind : name = kindName
    · subst hkind
      rw [add_kind, others_cons_kind, Keyed.find?_eq_none.mpr hfirst]
      rfl
    by_cases htime : name = timeName
    · subst htime
      rw [add_time, others_cons_time, Keyed.find?_eq_none.mpr hfirst]
      rfl
    · rw [add_other hkind htime, others_cons hkind htime, Keyed.find?_cons, Keyed.find?_cons,
        if_neg (Ne.symm hkind), if_neg (Ne.symm htime), List.reverse_cons, List.append_assoc]
      rfl

end Draft

/-- Members with a name each are read as the event with the values of their names. -/
theorem ofWritten_obj {ms : List (String × Json)} (hnodup : (Keyed.names ms).Nodup)
    {kind time : Json} (hkind : Keyed.find? kindName ms = some kind)
    (htime : Keyed.find? timeName ms = some time) :
    ofWritten (.obj ms) = .ok ⟨kind, time, Keyed.ofList (others ms)⟩ := by
  have hnew : ∀ name ∈ Keyed.names ms, Draft.empty.has name = false := fun name _ => by
    simp [Draft.has, Draft.empty]
  show (Draft.empty.addAll ms >>= Draft.finish) = _
  rw [Draft.addAll_of_nodup hnodup hnew, hkind, htime]
  show Except.ok (Event.mk kind time (Keyed.ofList ((others ms).reverse ++ []).reverse)) = _
  rw [List.append_nil, List.reverse_reverse]

/-! ### Plain events -/

/-- An event that is read from members in order is plain. -/
theorem plain_of_sorted {ms : Keyed Json} (h : Keyed.Sorted ms) (kind time : Json) :
    Plain ⟨kind, time, others ms⟩ where
  sorted := (h.erase _).erase _
  kind_notMem := Keyed.find?_eq_none.mp (find?_others_kind ms)
  time_notMem := Keyed.find?_eq_none.mp (find?_others_time ms)

namespace Plain

variable {e : Event}

theorem others_members (h : e.Plain) : others e.members = e.fields := by
  have hkeep : ∀ {name : String}, name ∉ Keyed.names e.fields →
      Keyed.erase name e.fields = e.fields := fun hnot =>
    List.filter_eq_self.mpr fun p hp =>
      bne_iff_ne.mpr fun heq => hnot (heq ▸ List.mem_map_of_mem hp)
  rw [members, others_cons_kind, others_cons_time, others, hkeep h.kind_notMem,
    hkeep h.time_notMem]

/-- In any order the members leave the same ones over. -/
theorem others_ofList_members (h : e.Plain) : others (Keyed.ofList e.members) = e.fields := by
  refine (((Keyed.sorted_ofList e.members).erase _).erase _).ext h.sorted fun name => ?_
  show Keyed.find? name (others (Keyed.ofList e.members)) = _
  by_cases hkind : name = kindName
  · rw [hkind, find?_others_kind, Keyed.find?_eq_none.mpr h.kind_notMem]
  by_cases htime : name = timeName
  · rw [htime, find?_others_time, Keyed.find?_eq_none.mpr h.time_notMem]
  · rw [find?_others_of_ne hkind htime, h.find?_ofList_members, if_neg hkind, if_neg htime]

/-- **An event that is posted again is the same event.** -/
theorem ofValue_object (h : e.Plain) (now : Time.Instant) : ofValue now e.object = .ok e := by
  show ofValue now (.obj (Keyed.ofList e.members)) = _
  simp only [ofValue, h.find?_ofList_members]
  show Except.ok (Event.mk e.kind e.time (others (Keyed.ofList e.members))) = _
  rw [h.others_ofList_members]

/-- **An event that was written is read back**, in the order in which it is written and in the order
of its names. -/
theorem ofWritten_eq (h : e.Plain) :
    ofWritten e.toJson = .ok e ∧ ofWritten e.object = .ok e := by
  constructor
  · have hread := ofWritten_obj h.nodup_names_members (find?_members e kindName)
      (find?_members e timeName)
    rw [h.others_members, h.sorted.ofList_eq] at hread
    exact hread
  · have hnodup := (Keyed.sorted_ofList e.members).nodup_names
    have hread := ofWritten_obj hnodup (h.find?_ofList_members kindName)
      (h.find?_ofList_members timeName)
    rw [h.others_ofList_members, h.sorted.ofList_eq] at hread
    exact hread

end Plain

/-! ### Texts -/

/-- A member is added first, if none like it was met. -/
theorem Draft.addAll_cons_eq_ok {draft : Draft} {name : String} {v : Json}
    {pairs : List (String × Json)} {e : Event} :
    (draft.addAll ((name, v) :: pairs) >>= Draft.finish) = .ok e ↔
      draft.has name = false ∧ ((draft.add name v).addAll pairs >>= Draft.finish) = .ok e := by
  rw [addAll]
  cases draft.has name with
  | false => exact (and_iff_right rfl).symm
  | true =>
    refine iff_of_false (fun h => ?_) fun h => Bool.noConfusion h.1
    cases h

/-- A member that is read stands before the others. -/
theorem exists_members_cons {limit : Nat} {item : Json.Reader Json} {fuel : Nat} {name : String}
    {v : Json} {gs left : List Glyph} {p : List (String × Json) → Prop} :
    (∃ pairs, Json.Reader.members limit item fuel false [(name, v)] gs = .ok (pairs, left) ∧
        p pairs) ↔
      ∃ pairs, Json.Reader.members limit item fuel false [] gs = .ok (pairs, left) ∧
        p ((name, v) :: pairs) := by
  rw [Json.Reader.members_acc]
  cases Json.Reader.members limit item fuel false [] gs with
  | error f =>
    constructor
    · rintro ⟨_, h, -⟩
      cases h
    · rintro ⟨_, h, -⟩
      cases h
  | ok r =>
    constructor
    · rintro ⟨pairs, h, hp⟩
      obtain ⟨rfl, rfl⟩ := Prod.mk.inj (Except.ok.inj h)
      exact ⟨r.1, rfl, hp⟩
    · rintro ⟨pairs, h, hp⟩
      obtain ⟨rfl, rfl⟩ := Prod.mk.inj (Except.ok.inj h)
      exact ⟨_, rfl, hp⟩

/-- **The members of an event are read as those of any object**, and then added to the draft. -/
theorem readMembers_eq_ok {limit depth fuel : Nat} {first : Bool} {draft : Draft}
    {gs left : List Glyph} {e : Event} :
    readMembers limit depth fuel first draft gs = .ok (e, left) ↔
      ∃ pairs, Json.Reader.members limit (Json.Reader.value limit depth) fuel first [] gs =
          .ok (pairs, left) ∧
        (draft.addAll pairs >>= Draft.finish) = .ok e := by
  have hnever : ∀ {f : Json.Fault} {p : List (String × Json) → Prop},
      ¬∃ pairs, (Except.error f : Except _ (List (String × Json) × List Glyph)) =
        .ok (pairs, left) ∧ p pairs := by
    rintro f p ⟨_, h, -⟩
    cases h
  have hfault : ∀ f : Json.Fault,
      (Except.error f : Except _ (Event × List Glyph)) ≠ .ok (e, left) := by
    intro f h
    cases h
  induction fuel generalizing first draft gs with
  | zero => exact iff_of_false (hfault _) hnever
  | succ fuel ih =>
    rw [readMembers, Json.Reader.members]
    cases Json.Reader.nextKey limit first gs with
    | error f => exact iff_of_false (hfault _) hnever
    | ok r =>
      obtain ⟨key?, gs⟩ := r
      cases key? with
      | none =>
        simp only [bind, Except.bind]
        constructor
        · intro h
          cases hfinish : draft.finish with
          | error cause =>
            rw [hfinish] at h
            cases h
          | ok e' =>
            rw [hfinish] at h
            obtain ⟨rfl, rfl⟩ := Prod.mk.inj (Except.ok.inj h)
            exact ⟨[], rfl, hfinish⟩
        · rintro ⟨pairs, hpairs, hfinish⟩
          obtain ⟨rfl, rfl⟩ := Prod.mk.inj (Except.ok.inj hpairs)
          have hdone : draft.finish = .ok e := hfinish
          rw [hdone]
          rfl
      | some name =>
        simp only [bind, Except.bind]
        cases hhas : draft.has name with
        | true =>
          -- the reader stops at the name; the members may be read on, but they make no event
          refine iff_of_false (hfault _) ?_
          cases Json.Reader.colon gs with
          | error f => exact hnever
          | ok r =>
            dsimp only
            cases Json.Reader.value limit depth r.2 with
            | error f => exact hnever
            | ok v =>
              refine mt exists_members_cons.mp ?_
              rintro ⟨pairs, -, hadd⟩
              obtain ⟨hfree, -⟩ := Draft.addAll_cons_eq_ok.mp hadd
              rw [hhas] at hfree
              cases hfree
        | false =>
          rw [if_neg Bool.false_ne_true]
          cases Json.Reader.colon gs with
          | error f => exact iff_of_false (hfault _) hnever
          | ok r =>
            dsimp only
            cases Json.Reader.value limit depth r.2 with
            | error f => exact iff_of_false (hfault _) hnever
            | ok v =>
              refine ih.trans (Iff.trans ?_ exists_members_cons.symm)
              refine exists_congr fun pairs => and_congr_right fun _ => ?_
              exact (Draft.addAll_cons_eq_ok.trans (and_iff_right hhas)).symm

/-- **A text is read as an event if and only if its members make one.** -/
theorem readText_eq_ok {text : List Glyph} {e : Event} :
    readText text = .ok e ↔ ∃ pairs, Json.Writes text pairs ∧ ofWritten (.obj pairs) = .ok e := by
  unfold readText
  rw [Json.readWhole_eq_ok]
  by_cases hbracket : ∃ inner, Json.Reader.skipBlanks text = .scalar '\x7b' :: inner
  · obtain ⟨inner, hinner⟩ := hbracket
    have hread : read (Json.fuelFor text) Json.maxDepth text =
        readMembers (Json.fuelFor text) (Json.maxDepth - 1) (Json.fuelFor text) true .empty
          inner := by
      rw [read, hinner]
      rfl
    rw [hread]
    constructor
    · rintro ⟨left, hmembers, hleft⟩
      obtain ⟨pairs, hpairs, hadd⟩ := readMembers_eq_ok.mp hmembers
      exact ⟨pairs, ⟨inner, left, hinner, hpairs, hleft⟩, hadd⟩
    · rintro ⟨pairs, ⟨inner', left, hinner', hpairs, hleft⟩, hadd⟩
      rw [hinner] at hinner'
      obtain ⟨-, rfl⟩ := List.cons.inj hinner'
      exact ⟨left, readMembers_eq_ok.mpr ⟨pairs, hpairs, hadd⟩, hleft⟩
  · refine iff_of_false ?_ fun ⟨_, ⟨inner, _, hinner, _⟩, _⟩ => hbracket ⟨inner, hinner⟩
    rintro ⟨left, hread, -⟩
    unfold read at hread
    split at hread
    · cases hread
    · exact hbracket ⟨_, ‹_›⟩
    · exact Json.Reader.gives_mismatch _ _ _ _ hread

/-- A plain event without real numbers is read back from its compact text. -/
theorem Plain.readText_toJson {e : Event} (h : e.Plain) (hinOrder : ∀ m ∈ e.members, m.2.InOrder)
    (hreadable : e.toJson.Readable Json.maxDepth) (hfree : e.toJson.RealFree) :
    readText (Glyph.ofString e.toJson.compact) = .ok e := by
  have hwrites := Json.writes_text Json.lays_compact hreadable hfree 0
  have hsame : (e.members.map fun m => (m.1, m.2.ordered)) = e.members :=
    Json.map_ordered_eq hinOrder
  exact readText_eq_ok.mpr ⟨e.members, hsame ▸ hwrites, h.ofWritten_eq.1⟩

/-! ### Events that are read -/

/-- The values of a draft have some property, and none of the other members has the name of the kind
or of the time. -/
structure Draft.Keeps (p : Json → Prop) (draft : Draft) : Prop where
  /-- The kind has it, if it was met. -/
  kind : ∀ v, draft.kind = some v → p v
  /-- The time has it, if it was met. -/
  time : ∀ v, draft.time = some v → p v
  /-- The other members have it. -/
  fields : ∀ m ∈ draft.fields, m.1 ≠ kindName ∧ m.1 ≠ timeName ∧ p m.2

namespace Draft.Keeps

variable {p : Json → Prop} {draft : Draft}

theorem empty : Draft.empty.Keeps p where
  kind := nofun
  time := nofun
  fields := List.forall_mem_nil _

theorem add (h : draft.Keeps p) (name : String) {v : Json} (hv : p v) :
    (draft.add name v).Keeps p := by
  by_cases hkind : name = kindName
  · subst hkind
    rw [add_kind]
    exact ⟨fun u hu => Option.some.inj hu ▸ hv, h.time, h.fields⟩
  by_cases htime : name = timeName
  · subst htime
    rw [add_time]
    exact ⟨h.kind, fun u hu => Option.some.inj hu ▸ hv, h.fields⟩
  · rw [add_other hkind htime]
    exact ⟨h.kind, h.time, List.forall_mem_cons.mpr ⟨⟨hkind, htime, hv⟩, h.fields⟩⟩

/-- So the event is plain, and the values of its members have the property. -/
theorem finish (h : draft.Keeps p) {e : Event} (he : draft.finish = .ok e) :
    e.Plain ∧ ∀ m ∈ e.members, p m.2 := by
  obtain ⟨kind, time, fields⟩ := draft
  cases kind with
  | none => cases he
  | some kind =>
    cases time with
    | none => cases he
    | some time =>
      cases he
      have hfields : ∀ m ∈ Keyed.ofList fields.reverse,
          m.1 ≠ kindName ∧ m.1 ≠ timeName ∧ p m.2 := fun m hm =>
        h.fields m (List.mem_reverse.mp (Keyed.mem_of_mem_ofList hm))
      refine ⟨⟨Keyed.sorted_ofList _, fun hmem => ?_, fun hmem => ?_⟩, ?_⟩
      · obtain ⟨m, hm, hname⟩ := List.mem_map.mp hmem
        exact (hfields m hm).1 hname
      · obtain ⟨m, hm, hname⟩ := List.mem_map.mp hmem
        exact (hfields m hm).2.1 hname
      · exact List.forall_mem_cons.mpr ⟨h.kind _ rfl, List.forall_mem_cons.mpr ⟨h.time _ rfl,
          fun m hm => (hfields m hm).2.2⟩⟩

/-- Adding members whose values have the property keeps it. -/
theorem addAll (h : draft.Keeps p) {pairs : List (String × Json)} (hpairs : ∀ m ∈ pairs, p m.2)
    {e : Event} (he : (draft.addAll pairs >>= Draft.finish) = .ok e) :
    e.Plain ∧ ∀ m ∈ e.members, p m.2 := by
  induction pairs generalizing draft with
  | nil => exact h.finish he
  | cons m pairs ih =>
    obtain ⟨hm, hrest⟩ := List.forall_mem_cons.mp hpairs
    exact ih (h.add m.1 hm) hrest (addAll_cons_eq_ok.mp he).2

end Draft.Keeps

/-- **An event that is read is plain**, and its members are values in order that leave one level
free. -/
theorem plain_of_readText {text : List Glyph} {e : Event} (h : readText text = .ok e) :
    e.Plain ∧ ∀ m ∈ e.members, m.2.Readable (Json.maxDepth - 1) ∧ m.2.InOrder := by
  obtain ⟨pairs, hwrites, hadd⟩ := readText_eq_ok.mp h
  exact Draft.Keeps.empty.addAll (p := fun v => v.Readable (Json.maxDepth - 1) ∧ v.InOrder)
    (Json.readable_and_inOrder_of_writes hwrites) hadd

/-- **An event that is read is read again from what is written for it**, unless it has real
numbers. -/
theorem readText_toJson {text : List Glyph} {e : Event} (h : readText text = .ok e)
    (hfree : e.toJson.RealFree) : readText (Glyph.ofString e.toJson.compact) = .ok e := by
  obtain ⟨hplain, hmembers⟩ := plain_of_readText h
  exact hplain.readText_toJson (fun m hm => (hmembers m hm).2)
    (Json.readable_obj fun m hm => (hmembers m hm).1) hfree

/-! ### Posted objects -/

/-- The members of a posted object, with the time of arrival if it says no time. -/
def stamped (now : Time.Instant) (ms : Keyed Json) : Keyed Json :=
  if timeName ∈ Keyed.names ms then ms else Keyed.insert timeName (.str now.stamp) ms

theorem sorted_stamped (now : Time.Instant) {ms : Keyed Json} (h : Keyed.Sorted ms) :
    Keyed.Sorted (stamped now ms) := by
  unfold stamped
  split
  · exact h
  · exact h.insert _ _

theorem find?_stamped (now : Time.Instant) (ms : Keyed Json) (name : String) :
    Keyed.find? name (stamped now ms) =
      if name = timeName then some ((Keyed.find? timeName ms).getD (.str now.stamp))
      else Keyed.find? name ms := by
  unfold stamped
  by_cases hmem : timeName ∈ Keyed.names ms
  · rw [if_pos hmem]
    by_cases htime : name = timeName
    · obtain ⟨time, hfind⟩ := Keyed.find?_of_mem_names hmem
      rw [if_pos htime, htime, hfind]
      rfl
    · rw [if_neg htime]
  · rw [if_neg hmem, Keyed.find?_insert]
    by_cases htime : name = timeName
    · rw [if_pos htime, if_pos htime, Keyed.find?_eq_none.mpr hmem]
      rfl
    · rw [if_neg htime, if_neg htime]
      rfl

/-- An event has the members of the object that was posted, stamped. -/
theorem ofList_members_eq_stamped (now : Time.Instant) {ms : Keyed Json} (h : Keyed.Sorted ms)
    {kind : Json} (hkind : Keyed.find? kindName ms = some kind) :
    Keyed.ofList (Event.members ⟨kind, (Keyed.find? timeName ms).getD (.str now.stamp), others ms⟩) =
      stamped now ms := by
  have hplain := plain_of_sorted h kind ((Keyed.find? timeName ms).getD (.str now.stamp))
  refine (Keyed.sorted_ofList _).ext (sorted_stamped now h) fun name => ?_
  rw [hplain.find?_ofList_members, find?_stamped]
  by_cases hname : name = kindName
  · rw [if_pos hname, if_neg (by rw [hname]; decide), hname, hkind]
  by_cases htime : name = timeName
  · rw [if_neg hname, if_pos htime, if_pos htime]
  · rw [if_neg hname, if_neg htime, if_neg htime]
    exact find?_others_of_ne hname htime ms

/-- What the value of an object with a kind is read as. -/
theorem ofValue_obj {now : Time.Instant} {ms : Keyed Json} {kind : Json}
    (hkind : Keyed.find? kindName ms = some kind) :
    ofValue now (.obj ms) =
      .ok ⟨kind, (Keyed.find? timeName ms).getD (.str now.stamp), others ms⟩ := by
  simp only [ofValue, hkind]
  rfl

theorem ofValue_eq_notAnObject {now : Time.Instant} {v : Json} :
    ofValue now v = .error .notAnObject ↔ ∀ ms, v ≠ .obj ms := by
  cases v with
  | obj ms =>
    refine iff_of_false (fun h => ?_) fun h => h ms rfl
    cases hkind : Keyed.find? kindName ms with
    | none =>
      simp only [ofValue, hkind] at h
      cases h
    | some kind =>
      rw [ofValue_obj hkind] at h
      cases h
  | null | bool | int | real | str | arr =>
    refine iff_of_true rfl fun ms h => ?_
    cases h

theorem ofValue_eq_missingType {now : Time.Instant} {v : Json} :
    ofValue now v = .error .missingType ↔ ∃ ms, v = .obj ms ∧ kindName ∉ Keyed.names ms := by
  cases v with
  | obj ms =>
    cases hkind : Keyed.find? kindName ms with
    | none =>
      refine iff_of_true ?_ ⟨ms, rfl, Keyed.find?_eq_none.mp hkind⟩
      simp only [ofValue, hkind]
    | some kind =>
      rw [ofValue_obj hkind]
      refine iff_of_false (fun h => ?_) ?_
      · cases h
      · rintro ⟨_, heq, hnot⟩
        obtain rfl := Json.obj.inj heq
        rw [Keyed.find?_eq_none.mpr hnot] at hkind
        cases hkind
  | null | bool | int | real | str | arr =>
    refine iff_of_false (fun h => ?_) ?_
    · cases h
    · rintro ⟨_, heq, -⟩
      cases heq

/-- **An event is the object that was posted.** Let the objects of a value have their members in the
order of their names, as those of all values have that are read. The value is no event if it is not
an object, or if it is one without a kind. Else it is an event whose other members have neither the
name of the kind nor that of the time. It is written as one object that has each name once, with the
members that were posted and their values, and with the time of arrival only if no time was posted.
Posted again at any time this object is the same event, and it is read back as the same event, in the
order of its names and as it is written. So is its text, if there are no real numbers and if it is
nested no deeper than a text may be. -/
theorem keeps_posted_members (now : Time.Instant) {v : Json} (hv : v.InOrder) :
    (ofValue now v = .error .notAnObject ↔ ∀ ms, v ≠ .obj ms) ∧
    (ofValue now v = .error .missingType ↔ ∃ ms, v = .obj ms ∧ kindName ∉ Keyed.names ms) ∧
    ∀ ms, v = .obj ms → kindName ∈ Keyed.names ms →
      ∃ e, ofValue now v = .ok e ∧
        (kindName ∉ Keyed.names e.fields ∧ timeName ∉ Keyed.names e.fields) ∧
        (e.toJson = .obj e.members ∧ (Keyed.names e.members).Nodup ∧
          e.members.Perm (stamped now ms) ∧ e.object = .obj (stamped now ms)) ∧
        (∀ later, ofValue later e.object = .ok e) ∧
        (ofWritten e.object = .ok e ∧ ofWritten e.toJson = .ok e) ∧
        (v.Readable Json.maxDepth → v.RealFree →
          Json.read (Glyph.ofString e.toJson.compact) = .ok e.object ∧
            readText (Glyph.ofString e.toJson.compact) = .ok e) := by
  refine ⟨ofValue_eq_notAnObject, ofValue_eq_missingType, ?_⟩
  rintro ms rfl hmem
  have hsorted : Keyed.Sorted ms := hv.sorted
  obtain ⟨kind, hkind⟩ := Keyed.find?_of_mem_names hmem
  have hvalue : ofValue now (.obj ms) = .ok _ := ofValue_obj hkind
  have hplain := plain_of_sorted hsorted kind ((Keyed.find? timeName ms).getD (.str now.stamp))
  have hstamped := ofList_members_eq_stamped now hsorted hkind
  refine ⟨_, hvalue, ⟨hplain.kind_notMem, hplain.time_notMem⟩,
    ⟨rfl, hplain.nodup_names_members, ?_, congrArg Json.obj hstamped⟩,
    hplain.ofValue_object, hplain.ofWritten_eq.symm, fun hreadable hfree => ?_⟩
  · rw [← hstamped]
    exact (Keyed.perm_ofList hplain.nodup_names_members).symm
  · have hinOrder := forall_members_of_ofValue hvalue hv.members (.scalar _ id)
    have hkeptReadable : Json.Readable Json.maxDepth (.obj _) := Json.readable_obj
      (forall_members_of_ofValue hvalue hreadable.members (Json.readable_scalar (.str _) id _))
    have hkeptFree : Json.RealFree (.obj _) := .obj _
      (forall_members_of_ofValue hvalue (Json.realFree_obj.mp hfree) (.str _))
    have hread := Json.read_text Json.lays_compact hkeptReadable hkeptFree 0 (List.forall_mem_nil _)
    rw [List.append_nil, Json.ordered_obj, Json.map_ordered_eq hinOrder] at hread
    exact ⟨hread, hplain.readText_toJson hinOrder hkeptReadable hkeptFree⟩

/-- The members of an object without a time, and with no more than `null` for a kind. -/
def untimed : Keyed Json := [("a", .arr [.null]), ("type", .null)]

/-- An object without a time is kept with the time of its arrival, and no other comes later. -/
theorem keeps_posted_members_untimed :
    (Json.obj untimed).InOrder ∧ kindName ∈ Keyed.names untimed ∧
      stamped ⟨0, 0⟩ untimed =
        [("a", .arr [.null]), ("ts", .str "1970-01-01T00:00:00.000Z"), ("type", .null)] ∧
      ∃ e, ofValue ⟨0, 0⟩ (.obj untimed) = .ok e ∧ e.object = .obj (stamped ⟨0, 0⟩ untimed) ∧
        ofValue ⟨1, 0⟩ e.object = .ok e ∧
        readText (Glyph.ofString e.toJson.compact) = .ok e := by
  have hinOrder : (Json.obj untimed).InOrder :=
    .obj _ (by decide) (List.forall_mem_cons.mpr
      ⟨.arr _ (List.forall_mem_singleton.mpr (.scalar _ id)),
        List.forall_mem_singleton.mpr (.scalar _ id)⟩)
  have hreadable : (Json.obj untimed).Readable Json.maxDepth :=
    Json.readable_obj (List.forall_mem_cons.mpr
      ⟨Json.readable_arr (List.forall_mem_singleton.mpr (Json.readable_scalar .null id _)),
        List.forall_mem_singleton.mpr (Json.readable_scalar .null id _)⟩)
  have hkind : kindName ∈ Keyed.names untimed := by decide
  obtain ⟨e, hvalue, -, ⟨-, -, -, hobject⟩, hagain, -, htext⟩ :=
    (keeps_posted_members ⟨0, 0⟩ hinOrder).2.2 untimed rfl hkind
  exact ⟨hinOrder, hkind, by rfl, e, hvalue, hobject, hagain _, (htext hreadable (by decide)).2⟩

end NodeTelemetry.Event
