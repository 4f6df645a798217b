import PagedSelect.Proofs.Keyed
import PagedSelect.Request.Wire
/-!
# JSON values

What a JSON text without fractions holds: nulls, flags, whole numbers, texts, lists and maps.  There is
no record in it to be opened, so it is written on the wire as it is.
-/

namespace PagedSelect.Value

mutual

def isJson : Value → Bool
  | null | bool _ | int _ | text _ => true
  | list items => areJson items
  | map members => holdJson members
  | _ => false

def areJson : List Value → Bool
  | [] => true
  | v :: r => v.isJson && areJson r

def holdJson : Members → Bool
  | [] => true
  | (_, v) :: r => v.isJson && holdJson r

end

mutual

theorem opened_of_isJson : ∀ v : Value, v.isJson = true → v.opened = v
  | null, _ | bool _, _ | int _, _ | text _, _ => rfl
  | list items, h => by rw [opened, openedItems_of_areJson items h]
  | map members, h => by rw [opened, openedMembers_of_holdJson members h]

theorem openedItems_of_areJson : ∀ items : List Value, areJson items = true → openedItems items = items
  | [], _ => rfl
  | v :: r, h => by
    obtain ⟨hv, hr⟩ := Bool.and_eq_true_iff.1 h
    rw [openedItems, opened_of_isJson v hv, openedItems_of_areJson r hr]

theorem openedMembers_of_holdJson : ∀ members : Members, holdJson members = true → openedMembers members = members
  | [], _ => rfl
  | (k, v) :: r, h => by
    obtain ⟨hv, hr⟩ := Bool.and_eq_true_iff.1 h
    rw [openedMembers, opened_of_isJson v hv, openedMembers_of_holdJson r hr]

end

theorem openedItems_eq_map (items : List Value) : openedItems items = items.map opened := by
  induction items with
  | nil => rfl
  | cons v r ih => rw [openedItems, ih, List.map_cons]

/-- Every member of a JSON map is JSON. -/
theorem isJson_of_get? {m : Members} {key : String} {v : Value} (hm : holdJson m = true)
    (h : Keyed.get? key m = some v) : v.isJson = true := by
  induction m with
  | nil => cases h
  | cons e r ih =>
    obtain ⟨he, hr⟩ := Bool.and_eq_true_iff.1 hm
    rw [Keyed.get?] at h
    split at h
    · cases h
      exact he
    · exact ih hr h

end PagedSelect.Value
