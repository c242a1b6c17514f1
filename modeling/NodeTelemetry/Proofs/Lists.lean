/-!
# Lists of what some elements give

A history, a log or a list of frames is often what the elements of another list give, where an
element gives one entry or none. In a proof that goes through the list, what the first element gives
stands before the rest.
-/

namespace NodeTelemetry

variable {α β : Type}

theorem filterMap_cons_toList (f : α → Option β) (a : α) (as : List α) :
    (a :: as).filterMap f = (f a).toList ++ as.filterMap f := by
  cases h : f a with
  | none => exact List.filterMap_cons_none h
  | some b => exact List.filterMap_cons_some h

end NodeTelemetry
