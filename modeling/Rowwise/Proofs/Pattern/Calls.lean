import Rowwise.Pattern.Function

/-!
# Pattern — Calls

What a call of a function by its name gives, or may give if the function draws random numbers. The
statements about single functions are made in these terms, so that they speak of the table that
patterns look names up in.
-/

namespace Rowwise.Function

/-- The function of a name gives this for these arguments, and takes no random draws. -/
def Gives (name : Text) (args : List Text) (result : CallResult) : Prop :=
  ∃ function, lookup? name = some function ∧ ∀ draws, function.call args draws = (result, draws)

variable {name : Text} {function : Function} {args : List Text} {result outcome : CallResult}

/-- A call gives one thing only. -/
theorem gives_iff (hlookup : lookup? name = some function)
    (houtcome : ∀ draws, function.call args draws = (outcome, draws)) :
    Gives name args result ↔ result = outcome := by
  constructor
  · rintro ⟨other, hother, hresult⟩
    obtain rfl : function = other := Option.some.inj (hlookup.symm.trans hother)
    have hsame := (hresult ⟨id, 0⟩).symm.trans (houtcome ⟨id, 0⟩)
    exact (Prod.mk.inj hsame).1
  · rintro rfl
    exact ⟨function, hlookup, houtcome⟩

/-! ## Random draws -/

/-- The function of a name gives this for these arguments with some random draws. -/
def MayGive (name : Text) (args : List Text) (result : CallResult) : Prop :=
  ∃ function, lookup? name = some function ∧ ∃ draws, (function.call args draws).1 = result

/-- A call gives one of the outcomes of its function, whatever is drawn. -/
theorem mayGive_iff (hlookup : lookup? name = some function) :
    MayGive name args result ↔ ∃ draws, (function.call args draws).1 = result := by
  constructor
  · rintro ⟨other, hother, hresult⟩
    obtain rfl : function = other := Option.some.inj (hlookup.symm.trans hother)
    exact hresult
  · exact fun hresult => ⟨function, hlookup, hresult⟩

end Rowwise.Function
