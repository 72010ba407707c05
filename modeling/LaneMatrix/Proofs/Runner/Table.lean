import LaneMatrix.Proofs.Runner.Row
import LaneMatrix.Runner.Transcript

/-!
# The table

No row fails, so the parts of the table are what they are when all goes well: each row is measured
and displayed, the single rows one by one and the parallel rows with both measured first. That
order shows in neither list taken on its own: the displayed rows stand in the order of the table,
and so do the records.
-/

namespace LaneMatrix

namespace Row

/-- The events while a row is measured. -/
def measuring (row : Row) (s : Settings) : List Event :=
  .measure row :: (row.records s).map .log

theorem measured_eq {row : Row} {s : Settings} (hw : 0 < row.width) (ht : 0 < s.threads) :
    row.measured s = ⟨row.measuring s, none⟩ := by
  rw [measured, forecast_eq hw ht]
  rfl

theorem displayed_eq {row : Row} {s : Settings} (hw : 0 < row.width) (ht : 0 < s.threads) :
    row.displayed s = ⟨[.display row], none⟩ := by
  rw [displayed, forecast_eq hw ht]

/-- The table as it is since no row fails. -/
theorem table_eq {s : Settings} (ht : 0 < s.threads) :
    table s =
      single.flatMap (fun row => [⟨row.measuring s, none⟩, ⟨[.display row], none⟩]) ++
        threaded.map (fun row => ⟨row.measuring s, none⟩) ++
        threaded.map fun row => ⟨[.display row], none⟩ := by
  have hsingle : ∀ row ∈ single, 0 < row.width :=
    fun row hrow => width_pos_of_mem_all row (List.mem_append_left _ hrow)
  have hthreaded : ∀ row ∈ threaded, 0 < row.width :=
    fun row hrow => width_pos_of_mem_all row (List.mem_append_right _ hrow)
  rw [table]
  congr 1
  · congr 1
    · apply List.flatMap_congr
      intro row hrow
      rw [measured_eq (hsingle row hrow) ht, displayed_eq (hsingle row hrow) ht]
    · apply List.map_congr_left
      intro row hrow
      exact measured_eq (hthreaded row hrow) ht
  · apply List.map_congr_left
    intro row hrow
    exact displayed_eq (hthreaded row hrow) ht

theorem exit_of_mem_table {s : Settings} (ht : 0 < s.threads) :
    ∀ t ∈ table s, t.exit = none := by
  intro t h
  rw [table_eq ht, List.mem_append, List.mem_append, List.mem_flatMap, List.mem_map,
    List.mem_map] at h
  rcases h with (⟨row, -, hrow⟩ | ⟨row, -, rfl⟩) | ⟨row, -, rfl⟩
  · rcases List.mem_pair.mp hrow with rfl | rfl <;> rfl
  · rfl
  · rfl

theorem events_table {s : Settings} (ht : 0 < s.threads) :
    (table s).flatMap (fun t => t.events) =
      single.flatMap (fun row => row.measuring s ++ [.display row]) ++
        threaded.flatMap (fun row => row.measuring s) ++
        threaded.flatMap fun row => [.display row] := by
  simp only [table_eq ht, List.flatMap_append, List.flatMap_assoc, List.flatMap_map,
    List.flatMap_cons, List.flatMap_nil, List.append_nil]

theorem printed_measuring (row : Row) (s : Settings) :
    (row.measuring s).filterMap Event.printed? = [] := by
  rw [measuring, List.filterMap_eq_nil_iff]
  intro e he
  rcases List.mem_cons.mp he with rfl | he
  · rfl
  · obtain ⟨r, -, rfl⟩ := List.mem_map.mp he
    rfl

theorem recorded_measuring (row : Row) (s : Settings) :
    (row.measuring s).filterMap Event.record? = row.records s := by
  rw [measuring, List.filterMap_cons_none rfl, List.filterMap_map]
  exact List.filterMap_some

theorem printed_table {s : Settings} (ht : 0 < s.threads) :
    ((table s).flatMap fun t => t.events).filterMap Event.printed? = all.map .row := by
  have hdisplay (row : Row) : [Event.display row].filterMap Event.printed? = [.row row] := rfl
  simp only [events_table ht, List.filterMap_append, List.filterMap_flatMap, printed_measuring,
    hdisplay, List.nil_append, all, List.map_eq_flatMap, List.flatMap_append]
  rw [List.flatMap_eq_nil_iff.mpr fun _ _ => rfl, List.append_nil]

theorem recorded_table {s : Settings} (ht : 0 < s.threads) :
    ((table s).flatMap fun t => t.events).filterMap Event.record? =
      all.flatMap fun row => row.records s := by
  have hdisplay (row : Row) : [Event.display row].filterMap Event.record? = [] := rfl
  simp only [events_table ht, List.filterMap_append, List.filterMap_flatMap, recorded_measuring,
    hdisplay, List.append_nil, all, List.flatMap_append]
  rw [List.flatMap_eq_nil_iff.mpr fun _ _ => rfl, List.append_nil]

end Row

end LaneMatrix
