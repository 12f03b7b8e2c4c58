import UnitRouting.Proofs.Json.Built

/-! # What documents hold can be shown

The reader takes no integer beyond the digit limit, so every value that it gives can be shown to
people. -/

namespace UnitRouting

namespace Value

theorem fitsFields_iff {fields : Fields} :
    FitsFields fields ↔ ∀ field ∈ fields, field.2.Fits := by
  induction fields with
  | nil => simp only [FitsFields, List.not_mem_nil, false_implies, implies_true]
  | cons field rest ih => simp only [FitsFields, ih, List.forall_mem_cons]

theorem fits_of_get? {fields : Fields} (fits : FitsFields fields) {name : Text} {v : Value}
    (found : fields.get? name = some v) : v.Fits :=
  fitsFields_iff.mp fits _ (Fields.mem_of_get? found)

theorem fits_getD {fields : Fields} (fits : FitsFields fields) {fallback : Value}
    (fitsToo : fallback.Fits) (name : Text) : ((fields.get? name).getD fallback).Fits := by
  cases found : fields.get? name with
  | none => exact fitsToo
  | some v => exact fits_of_get? fits found

theorem fits_zero : (int 0).Fits := tenTo_pos numeralLimit

end Value

namespace Json

theorem fits_of_read {t : Text} {v : Value} (holds : read t = .ok v) : v.Fits := by
  have built : Built Value.Fits := by
    constructor
    case constant => simp [constants, Value.Fits]
    case int => exact fun _ short => short
    case float => exact fun _ => trivial
    case text => exact fun _ => trivial
    case list => exact fun _ => Value.fitsItems_iff.mpr
    case object => exact fun _ each => Value.fitsFields_iff.mpr each.values
  exact built.of_read holds

end Json

end UnitRouting
