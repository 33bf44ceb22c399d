import Flowplan.Proofs.Work
import Flowplan.Requirement.Feed
import Mathlib.Data.List.TakeWhile

namespace Flowplan.Requirement

/-- A feed gives what its records state, unless one of them cannot be read; the ids that the records
before that one took are gone. -/
theorem on_ofFeed (records : List Json) (ids : Ids) :
    (ofFeed (.arr records)).on ids
      = (if records.all isWritable then .ok (ofRecords ids records).1
          else .error (.figure .tooManyDigits),
        (ofRecords ids (records.takeWhile isWritable)).2) := by
  unfold ofFeed
  rw [requireList, Work.on_lift_bind_ok rfl, Work.on_get_bind]
  by_cases writable : records.all isWritable
  · have hall : records.takeWhile isWritable = records :=
      List.takeWhile_eq_self_iff.mpr (List.all_eq_true.mp writable)
    simp only [hall, writable, if_true]
    rfl
  · simp only [writable]
    rfl

theorem on_ofFeed_of_writable {records : List Json} (writable : records.all isWritable)
    (ids : Ids) :
    (ofFeed (.arr records)).on ids
      = (.ok (ofRecords ids records).1, (ofRecords ids records).2) := by
  have hall : records.takeWhile isWritable = records :=
    List.takeWhile_eq_self_iff.mpr (List.all_eq_true.mp writable)
  rw [on_ofFeed, if_pos writable, hall]

theorem on_ofFeed_singleton (record : Json) (ids : Ids) :
    (ofFeed (.arr [record])).on ids
      = if isWritable record then (.ok (ofRecord record ids).1.toList, (ofRecord record ids).2)
        else (.error (.figure .tooManyDigits), ids) := by
  rw [on_ofFeed]
  by_cases writable : isWritable record
  · simp [writable, ofRecords, ofItems, Item.read]
  · simp [writable, ofRecords, ofItems]

theorem on_ofFeed_of_not_list {feed : Json} (h : ∀ records, feed ≠ .arr records) (ids : Ids) :
    (ofFeed feed).on ids
      = (.error (.precondition (.notList "requirements" feed.kind)), ids) := by
  cases feed with
  | arr records => exact absurd rfl (h records)
  | _ => rfl

end Flowplan.Requirement
