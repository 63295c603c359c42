import Vetting.Validator.Descriptor

/-!
# Vetting.Validator.Roll

A roll of descriptors: each stands under its qualified name, and the names stand in the order in
which they were entered. A name that is entered again keeps its place; struck off before, it comes
last.
-/

namespace Vetting

/-- Descriptors of different qualified names, in the order in which the names were entered. -/
structure Roll where
  entries : List Descriptor := []
  nodup : (entries.map (·.qualifiedName)).Nodup := by exact .nil

namespace Roll

/-- Take a name off the roll. -/
def strike (roll : Roll) (name : String) : Roll where
  entries := roll.entries.filter (·.qualifiedName != name)
  nodup := roll.nodup.sublist (List.filter_sublist.map _)

/-- Some descriptors with the one of a name exchanged for another of that name. -/
def exchange (ds : List Descriptor) (d : Descriptor) : List Descriptor :=
  ds.map fun e => if e.qualifiedName == d.qualifiedName then d else e

theorem qualifiedNames_exchange (ds : List Descriptor) (d : Descriptor) :
    (exchange ds d).map (·.qualifiedName) = ds.map (·.qualifiedName) := by
  rw [exchange, List.map_map]
  refine List.map_congr_left fun e _ => ?_
  by_cases h : e.qualifiedName = d.qualifiedName
  · simp [h]
  · simp [h]

theorem nodup_concat {ds : List Descriptor} {d : Descriptor}
    (hds : (ds.map (·.qualifiedName)).Nodup)
    (hnew : ∀ e ∈ ds, e.qualifiedName ≠ d.qualifiedName) :
    ((ds ++ [d]).map (·.qualifiedName)).Nodup := by
  rw [List.map_append, List.nodup_append]
  refine ⟨hds, by simp, ?_⟩
  intro name hname other hother
  obtain ⟨e, he, rfl⟩ := List.mem_map.1 hname
  obtain rfl : other = d.qualifiedName := by simpa using hother
  exact hnew e he

/-- Enter a descriptor. A name that is on the roll keeps its place. -/
def enter (roll : Roll) (d : Descriptor) : Roll :=
  if h : ∃ e ∈ roll.entries, e.qualifiedName = d.qualifiedName then
    { entries := exchange roll.entries d
      nodup := by
        rw [qualifiedNames_exchange]
        exact roll.nodup }
  else
    { entries := roll.entries ++ [d]
      nodup := nodup_concat roll.nodup fun e he hname => h ⟨e, he, hname⟩ }

/-- Enter a descriptor in the last place, whether or not its name is on the roll. -/
def renew (roll : Roll) (d : Descriptor) : Roll := (roll.strike d.qualifiedName).enter d

theorem entries_enter_of_new {roll : Roll} {d : Descriptor}
    (h : ∀ e ∈ roll.entries, e.qualifiedName ≠ d.qualifiedName) :
    (roll.enter d).entries = roll.entries ++ [d] := by
  rw [enter, dif_neg]
  rintro ⟨e, he, hname⟩
  exact h e he hname

theorem entries_renew (roll : Roll) (d : Descriptor) :
    (roll.renew d).entries =
      roll.entries.filter (·.qualifiedName != d.qualifiedName) ++ [d] := by
  rw [renew, entries_enter_of_new]
  · rfl
  · intro e he
    have hkept := (List.mem_filter.1 he).2
    simpa using hkept

end Roll

end Vetting
