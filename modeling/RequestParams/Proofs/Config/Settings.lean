import RequestParams.Config
import RequestParams.Proofs.Text.Blank

/-!
# Settings from a lookup of variables

A setting that is looked up is either read from its text or left at the default. Both give a status
of a client or server error and a key with something to see in it, whatever the texts are.
-/

namespace RequestParams

namespace Config

/-- The settings of a default failure: the status is one of an error, the key is not blank. -/
structure IsUsable (c : Config) : Prop where
  status_ge : 400 ≤ c.failureStatus.toNat
  status_le : c.failureStatus.toNat ≤ 599
  key_visible : ∃ char ∈ c.errorKey.toList, Text.isBlank char = false

theorem status?_eq_some_iff (text : String) (status : UInt16) :
    status? text = some status ↔
      Text.uint16? (Text.trim text.toList) = some status ∧
        400 ≤ status.toNat ∧ status.toNat ≤ 599 := by
  rw [status?, Option.filter_eq_some_iff]
  have lower : (400 : UInt16) ≤ status ↔ 400 ≤ status.toNat := UInt16.le_iff_toNat_le
  have upper : status < (600 : UInt16) ↔ status.toNat < 600 := UInt16.lt_iff_toNat_lt
  rw [Bool.and_eq_true, decide_eq_true_iff, decide_eq_true_iff, lower, upper, Nat.lt_succ_iff]

theorem key?_eq_some_iff (text key : String) :
    key? text = some key ↔ key = text ∧ ∃ char ∈ text.toList, Text.isBlank char = false := by
  rw [key?, ← Text.isBlankText_eq_false_iff]
  cases Text.isBlankText text <;> simp [eq_comm]

/-- What holds of every value that is read and of the default holds of the setting. -/
theorem getD_bind_of_forall {α : Type} {read? : String → Option α} {P : α → Prop} {fallback : α}
    (of_read : ∀ text value, read? text = some value → P value) (of_fallback : P fallback)
    (text? : Option String) : P ((text?.bind read?).getD fallback) := by
  cases read : text?.bind read? with
  | none => exact of_fallback
  | some value =>
      obtain ⟨text, -, value_eq⟩ := Option.bind_eq_some_iff.mp read
      exact of_read text value value_eq

theorem isUsable_ofLookup (lookup : String → Option String) : (ofLookup lookup).IsUsable := by
  have status_bounds : 400 ≤ (ofLookup lookup).failureStatus.toNat ∧
      (ofLookup lookup).failureStatus.toNat ≤ 599 :=
    getD_bind_of_forall (P := fun status => 400 ≤ status.toNat ∧ status.toNat ≤ 599)
      (fun text status read => ((status?_eq_some_iff text status).mp read).2) (by decide)
      (lookup statusVariable)
  have key_visible : ∃ char ∈ (ofLookup lookup).errorKey.toList, Text.isBlank char = false := by
    refine getD_bind_of_forall
      (P := fun key : String => ∃ char ∈ key.toList, Text.isBlank char = false)
      (fun text key read => ?_) ⟨'e', by decide, by decide⟩ (lookup keyVariable)
    obtain ⟨rfl, visible⟩ := (key?_eq_some_iff text key).mp read
    exact visible
  exact ⟨status_bounds.1, status_bounds.2, key_visible⟩

end Config

end RequestParams
