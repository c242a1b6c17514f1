import NodeTelemetry.Proofs.Lists
import NodeTelemetry.Proofs.Sampler.Health

/-!
# The last report of each component

The registry keeps one report for each component, and the status of the whole is a fold over these
reports. Neither depends on more than the last report of each component: `find?_after` says what the
registry keeps after any operations, and `isWorst_status` that the fold gives the worst of the last
status. The fold depends on the status that there are and not on their order (`worst_congr`), so it
does not matter in which order the reports are visited.
-/

namespace NodeTelemetry.Health

/-! ### The worst status -/

namespace Status

/-- How bad a status is. -/
def severity : Status → Nat
  | healthy => 0
  | degraded => 1
  | unhealthy => 2

theorem severity_injective {s t : Status} (h : s.severity = t.severity) : s = t := by
  cases s with
  | healthy | degraded | unhealthy => cases t <;> simp_all [severity]

@[simp] theorem severity_worse (s t : Status) :
    (s.worse t).severity = max s.severity t.severity := by
  cases s with
  | healthy | degraded | unhealthy => cases t <;> rfl

/-- The worse of two status is one of them. -/
theorem worse_eq_or (s t : Status) : s.worse t = s ∨ s.worse t = t := by
  cases s with
  | healthy | degraded | unhealthy => cases t <;> simp [worse]

/-- A status is the worst of those for which `p` holds, and healthy if there are none. -/
structure IsWorst (p : Status → Prop) (worst : Status) : Prop where
  /-- None of them is worse. -/
  severity_le : ∀ s, p s → s.severity ≤ worst.severity
  /-- It is one of them, unless there are none. -/
  reached : p worst ∨ worst = .healthy ∧ ∀ s, ¬p s

/-- There is one worst status only. -/
theorem IsWorst.unique {p : Status → Prop} {s t : Status} (hs : IsWorst p s) (ht : IsWorst p t) :
    s = t := by
  rcases hs.reached with hps | ⟨hhealthy, hnone⟩
  · rcases ht.reached with hpt | ⟨-, hnone⟩
    · exact severity_injective (Nat.le_antisymm (ht.severity_le s hps) (hs.severity_le t hpt))
    · exact absurd hps (hnone s)
  · rcases ht.reached with hpt | ⟨hhealthy', -⟩
    · exact absurd hpt (hnone t)
    · rw [hhealthy, hhealthy']

theorem severity_le_foldl_worse (ss : List Status) (s : Status) :
    ∀ t ∈ s :: ss, t.severity ≤ (ss.foldl worse s).severity := by
  induction ss generalizing s with
  | nil => simp
  | cons u ss ih =>
    intro t ht
    have hstart : (s.worse u).severity ≤ ((u :: ss).foldl worse s).severity :=
      ih _ _ List.mem_cons_self
    rw [severity_worse] at hstart
    simp only [List.mem_cons] at ht
    rcases ht with rfl | rfl | ht
    · exact Nat.le_trans (Nat.le_max_left _ _) hstart
    · exact Nat.le_trans (Nat.le_max_right _ _) hstart
    · exact ih _ _ (List.mem_cons_of_mem _ ht)

theorem foldl_worse_mem (ss : List Status) (s : Status) : ss.foldl worse s ∈ s :: ss := by
  induction ss generalizing s with
  | nil => simp
  | cons u ss ih =>
    have hmem : (u :: ss).foldl worse s ∈ s.worse u :: ss := ih _
    simp only [List.mem_cons] at hmem ⊢
    rcases hmem with heq | hmem
    · rw [heq]
      exact (worse_eq_or s u).imp_right .inl
    · exact .inr (.inr hmem)

/-- The fold of a list gives the worst status in it. -/
theorem isWorst_worst (ss : List Status) : IsWorst (· ∈ ss) (worst ss) := by
  have hle := severity_le_foldl_worse ss .healthy
  refine ⟨fun s hs => hle s (List.mem_cons_of_mem _ hs), ?_⟩
  rcases List.mem_cons.mp (foldl_worse_mem ss .healthy) with heq | hmem
  · cases ss with
    | nil => exact .inr ⟨rfl, by simp⟩
    | cons s ss =>
      -- nothing in the list is worse than healthy, so its first status is healthy
      refine .inl ?_
      have hfirst := hle s (List.mem_cons_of_mem _ List.mem_cons_self)
      rw [heq] at hfirst
      have hs : s = .healthy := severity_injective (Nat.le_zero.mp hfirst)
      show List.foldl worse .healthy (s :: ss) ∈ s :: ss
      rw [heq, hs]
      exact List.mem_cons_self
  · exact .inl hmem

/-- The worst status depends only on which status there are. -/
theorem worst_congr {ss ts : List Status} (h : ∀ s, s ∈ ss ↔ s ∈ ts) : worst ss = worst ts := by
  refine (isWorst_worst ss).unique ?_
  obtain ⟨hle, hreached⟩ := isWorst_worst ts
  exact ⟨fun s hs => hle s ((h s).mp hs),
    hreached.imp (h _).mpr fun ⟨heq, hnone⟩ => ⟨heq, fun s hs => hnone s ((h s).mp hs)⟩⟩

end Status

/-! ### Last reports -/

namespace Operation

/-- The report that an operation makes, and the component that it is about. -/
def report? : Operation → Option (String × Report)
  | register name now | setHealthy name now => some (name, ⟨.healthy, none, now⟩)
  | setDegraded name message now => some (name, ⟨.degraded, some message, now⟩)
  | setUnhealthy name message now => some (name, ⟨.unhealthy, some message, now⟩)
  | update name report => some (name, report)
  | setReady _ => none

/-- What an operation says of the listeners. -/
def ready? : Operation → Option Bool
  | setReady ready => some ready
  | _ => none

end Operation

/-- The last report on a component in some operations. -/
def lastReport (name : String) (os : List Operation) : Option Report :=
  Keyed.lastOf name (os.filterMap Operation.report?)

/-- What was last said of the listeners. -/
def lastReady (os : List Operation) : Option Bool := (os.filterMap Operation.ready?).getLast?

/-- A component was last reported to have a status. -/
def Reported (os : List Operation) (status : Status) : Prop :=
  ∃ name report, lastReport name os = some report ∧ report.status = status

theorem lastReport_cons (name : String) (o : Operation) (os : List Operation) :
    lastReport name (o :: os) = (lastReport name os).or (lastReport name [o]) := by
  unfold lastReport
  rw [filterMap_cons_toList, filterMap_cons_toList]
  cases o.report? with
  | none => exact Option.or_none.symm
  | some p =>
    rw [Option.toList_some, List.singleton_append, List.singleton_append, Keyed.lastOf_cons,
      Keyed.lastOf_cons]
    rfl

theorem lastReady_cons (o : Operation) (os : List Operation) :
    lastReady (o :: os) = (lastReady os).or o.ready? := by
  unfold lastReady
  rw [filterMap_cons_toList, List.getLast?_append]
  cases o.ready? with
  | none => rfl
  | some ready => rfl

namespace Registry

/-- The registry after some operations. -/
def after (r : Registry) (os : List Operation) : Registry := os.foldl Operation.apply r

theorem after_cons (r : Registry) (o : Operation) (os : List Operation) :
    r.after (o :: os) = (o.apply r).after os := rfl

/-- What one operation does: it inserts the report that it makes, and takes over what it says of the
listeners. -/
theorem apply_eq (o : Operation) (r : Registry) :
    o.apply r =
      ⟨o.report?.elim r.components fun p => Keyed.insert p.1 p.2 r.components,
        o.ready?.getD r.listening⟩ := by
  cases o with
  | register | setHealthy | setDegraded | setUnhealthy | update | setReady => rfl

theorem find?_apply (name : String) (o : Operation) (r : Registry) :
    Keyed.find? name (o.apply r).components =
      (lastReport name [o]).or (Keyed.find? name r.components) := by
  rw [apply_eq]
  unfold lastReport
  rw [filterMap_cons_toList]
  cases o.report? with
  | none => rfl
  | some p =>
    rw [Option.toList_some, List.singleton_append, Keyed.lastOf_cons]
    exact Keyed.find?_insert p.1 name p.2 r.components

/-- **The registry keeps the last report of each component.** -/
theorem find?_after (name : String) (os : List Operation) (r : Registry) :
    Keyed.find? name (r.after os).components =
      (lastReport name os).or (Keyed.find? name r.components) := by
  induction os generalizing r with
  | nil => rfl
  | cons o os ih => rw [after_cons, ih, find?_apply, lastReport_cons name o os, Option.or_assoc]

theorem listening_after (os : List Operation) (r : Registry) :
    (r.after os).listening = (lastReady os).getD r.listening := by
  induction os generalizing r with
  | nil => rfl
  | cons o os ih =>
    rw [after_cons, ih, lastReady_cons, apply_eq]
    cases lastReady os <;> rfl

theorem sorted_after {r : Registry} (h : Keyed.Sorted r.components) (os : List Operation) :
    Keyed.Sorted (r.after os).components := by
  induction os generalizing r with
  | nil => exact h
  | cons o os ih =>
    refine ih ?_
    rw [apply_eq]
    cases o.report? with
    | none => exact h
    | some p => exact h.insert p.1 p.2

/-- The reports that are kept are the last reports. -/
theorem mem_components_after {name : String} {report : Report} {os : List Operation} :
    (name, report) ∈ (empty.after os).components ↔ lastReport name os = some report := by
  have hfind : Keyed.find? name (empty.after os).components = lastReport name os :=
    (find?_after name os empty).trans Option.or_none
  have hsorted : Keyed.Sorted (empty.after os).components :=
    sorted_after (r := empty) List.Pairwise.nil os
  rw [← hfind]
  exact ⟨hsorted.find?_of_mem, Keyed.mem_of_find?⟩

theorem status?_after (name : String) (os : List Operation) :
    (empty.after os).status? name = (lastReport name os).map (·.status) := by
  unfold status?
  rw [find?_after]
  exact congrArg _ Option.or_none

/-- **The status of the whole is the worst of the last reports.** -/
theorem isWorst_status (os : List Operation) :
    Status.IsWorst (Reported os) (empty.after os).status := by
  have hmem (s : Status) :
      s ∈ (empty.after os).components.map (·.2.status) ↔ Reported os s := by
    constructor
    · intro hs
      obtain ⟨⟨name, report⟩, hp, rfl⟩ := List.mem_map.mp hs
      exact ⟨name, report, mem_components_after.mp hp, rfl⟩
    · rintro ⟨name, report, hlast, rfl⟩
      exact List.mem_map_of_mem (mem_components_after.mpr hlast)
  obtain ⟨hle, hreached⟩ := Status.isWorst_worst ((empty.after os).components.map (·.2.status))
  exact ⟨fun s hs => hle s ((hmem s).mpr hs),
    hreached.imp (hmem _).mp fun ⟨heq, hnone⟩ => ⟨heq, fun s hs => hnone s ((hmem s).mpr hs)⟩⟩

/-- The whole is unhealthy if a component was last reported to be. -/
theorem status_eq_unhealthy (os : List Operation) :
    (empty.after os).status = .unhealthy ↔ Reported os .unhealthy := by
  obtain ⟨hle, hreached⟩ := isWorst_status os
  constructor
  · intro h
    rw [h] at hreached
    exact hreached.resolve_right fun ⟨heq, _⟩ => nomatch heq
  · intro h
    have hworst : 2 ≤ (empty.after os).status.severity := hle _ h
    cases hs : (empty.after os).status with
    | unhealthy => rfl
    | healthy | degraded => simp [hs, Status.severity] at hworst

/-- The reports may be visited in any order. -/
theorem worst_of_perm (r : Registry) {visited : List (String × Report)}
    (h : visited.Perm r.components) : Status.worst (visited.map (·.2.status)) = r.status :=
  Status.worst_congr fun _ => (h.map _).mem_iff

end Registry

end NodeTelemetry.Health
