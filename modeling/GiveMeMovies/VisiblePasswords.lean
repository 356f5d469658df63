import Mathlib.Algebra.Ring.Parity
import Mathlib.Data.List.DropRight

/-!
# Showing passwords

A button beside a password field shows and hides the password, and is marked while the password is
shown. The Register screen has two such fields with a button each, and one flag for both. A button
there is marked for a hidden password, or unmarked for one that is shown, when the flag was changed
by the other button in the meantime.
-/

namespace GiveMeMovies.VisiblePasswords

/-- The password fields of a screen, with their buttons. -/
structure PasswordForm (Field : Type) where
  visiblePasswordClick : Bool := true
  isSecureTextEntry : Field → Bool := fun _ => true
  isSelected : Field → Bool := fun _ => false

variable {Field : Type} [DecidableEq Field]

/-- The action of the button beside `field`. -/
def visibleAction (field : Field) (form : PasswordForm Field) : PasswordForm Field :=
  { visiblePasswordClick := !form.visiblePasswordClick
    isSecureTextEntry := Function.update form.isSecureTextEntry field
      (if form.visiblePasswordClick = true then false else true)
    isSelected := Function.update form.isSelected field (!form.isSelected field) }

inductive RegisterField where
  | passTxt
  | confirmPassTxt
  deriving DecidableEq

namespace WelcomeViewController

def visiblePassAction : PasswordForm Unit → PasswordForm Unit := visibleAction ()

end WelcomeViewController

namespace RegisterViewController

def visiblePassAction : PasswordForm RegisterField → PasswordForm RegisterField :=
  visibleAction .passTxt

def visibleConfirmPassAction : PasswordForm RegisterField → PasswordForm RegisterField :=
  visibleAction .confirmPassTxt

/-- The button beside the field is tapped. -/
def tap : RegisterField → PasswordForm RegisterField → PasswordForm RegisterField
  | .passTxt => visiblePassAction
  | .confirmPassTxt => visibleConfirmPassAction

theorem tap_eq (field : RegisterField) : tap field = visibleAction field := by
  cases field <;> rfl

end RegisterViewController

/-- The form after taps on the buttons of these fields. -/
def tapped (taps : List Field) : PasswordForm Field :=
  taps.foldl (fun form field => visibleAction field form) {}

/-- The taps up to the last one on the button of `field`. -/
def upToLast (field : Field) (taps : List Field) : List Field := taps.rdropWhile (· ≠ field)

variable {taps : List Field} {field tap : Field}

theorem tapped_concat (taps : List Field) (tap : Field) :
    tapped (taps ++ [tap]) = visibleAction tap (tapped taps) := by
  rw [tapped, List.foldl_append]
  rfl

theorem upToLast_concat_self (taps : List Field) (field : Field) :
    upToLast field (taps ++ [field]) = taps ++ [field] :=
  List.rdropWhile_concat_neg _ _ _ (by simp)

theorem upToLast_concat_of_ne (taps : List Field) (h : tap ≠ field) :
    upToLast field (taps ++ [tap]) = upToLast field taps :=
  List.rdropWhile_concat_pos _ _ _ (by simpa using h)

theorem visiblePasswordClick_tapped (taps : List Field) :
    (tapped taps).visiblePasswordClick = true ↔ Even taps.length := by
  induction taps using List.reverseRecOn with
  | nil => simp [tapped]
  | append_singleton taps tap ih =>
      rw [tapped_concat, List.length_append, List.length_singleton, Nat.even_add_one, ← ih]
      simp [visibleAction]

theorem isSelected_tapped (taps : List Field) (field : Field) :
    (tapped taps).isSelected field = true ↔ Odd (taps.count field) := by
  induction taps using List.reverseRecOn with
  | nil => simp [tapped]
  | append_singleton taps tap ih =>
      rw [tapped_concat]
      by_cases h : tap = field
      · subst h
        rw [List.count_append, List.count_singleton_self, Nat.odd_add_one, ← ih]
        simp [visibleAction]
      · rw [List.count_append, List.count_singleton, beq_false_of_ne h]
        simpa [visibleAction, Function.update_of_ne (Ne.symm h)] using ih

/-- The password is hidden by the last tap on its own button, or was never shown. -/
theorem isSecureTextEntry_tapped (taps : List Field) (field : Field) :
    (tapped taps).isSecureTextEntry field = true ↔ Even (upToLast field taps).length := by
  induction taps using List.reverseRecOn with
  | nil => simp [tapped, upToLast]
  | append_singleton taps tap ih =>
      rw [tapped_concat]
      by_cases h : tap = field
      · subst h
        rw [upToLast_concat_self, ← visiblePasswordClick_tapped, tapped_concat]
        simp [visibleAction]
      · rw [upToLast_concat_of_ne taps h, ← ih]
        simp [visibleAction, Function.update_of_ne (Ne.symm h)]

theorem shown_tapped (taps : List Field) (field : Field) :
    (tapped taps).isSecureTextEntry field = false ↔ Odd (upToLast field taps).length := by
  rw [← Bool.not_eq_true, isSecureTextEntry_tapped, Nat.not_even_iff_odd]

theorem count_upToLast (taps : List Field) (field : Field) :
    (upToLast field taps).count field = taps.count field := by
  induction taps using List.reverseRecOn with
  | nil => rfl
  | append_singleton taps tap ih =>
      by_cases h : tap = field
      · subst h
        rw [upToLast_concat_self]
      · rw [upToLast_concat_of_ne taps h, ih, List.count_append, List.count_singleton,
          beq_false_of_ne h]
        rfl

/-- The button is right as long as the other buttons had been tapped an even number of times before
its last tap. -/
theorem marked_iff (taps : List Field) (field : Field) :
    ((tapped taps).isSelected field = true ↔ (tapped taps).isSecureTextEntry field = false) ↔
      Even ((upToLast field taps).countP (· ≠ field)) := by
  have hlength : (upToLast field taps).length =
      taps.count field + (upToLast field taps).countP (· ≠ field) := by
    rw [← count_upToLast, List.count_eq_countP, List.length_eq_countP_add_countP (· == field)]
    simp
  rw [isSelected_tapped, shown_tapped, hlength, Nat.odd_add]
  by_cases hodd : Odd (taps.count field)
  · rw [iff_true_left hodd, iff_true_left hodd]
  · rw [iff_false_left hodd, iff_false_left hodd, not_not]

/-- The button is marked while the password is shown, and the flag tells what the next tap does. -/
def InStep (form : PasswordForm Unit) : Prop :=
  form.isSelected () = !form.isSecureTextEntry () ∧
    form.isSecureTextEntry () = form.visiblePasswordClick

theorem inStep_visiblePassAction {form : PasswordForm Unit} (h : InStep form) :
    InStep (WelcomeViewController.visiblePassAction form) := by
  obtain ⟨hmarked, hflag⟩ := h
  simp [InStep, WelcomeViewController.visiblePassAction, visibleAction, hmarked, hflag]

/-- The button of the log-in screen, which has the flag for itself. -/
theorem inStep_of_taps (n : ℕ) : InStep (WelcomeViewController.visiblePassAction^[n] {}) := by
  induction n with
  | zero => exact ⟨rfl, rfl⟩
  | succ n ih =>
      rw [Function.iterate_succ_apply']
      exact inStep_visiblePassAction ih

/-- What the two buttons of the Register screen have come to after any taps. -/
theorem register_of_taps (taps : List RegisterField) (field : RegisterField) :
    let form : PasswordForm RegisterField :=
      taps.foldl (fun form field => RegisterViewController.tap field form) {}
    (form.isSecureTextEntry field = false ↔ Odd (upToLast field taps).length) ∧
      (form.isSelected field = true ↔ Odd (taps.count field)) ∧
      ((form.isSelected field = true ↔ form.isSecureTextEntry field = false) ↔
        Even ((upToLast field taps).countP (· ≠ field))) := by
  have hform : taps.foldl (fun form field => RegisterViewController.tap field form) {} =
      tapped taps := by
    simp only [RegisterViewController.tap_eq]
    rfl
  rw [hform]
  exact ⟨shown_tapped taps field, isSelected_tapped taps field, marked_iff taps field⟩

end GiveMeMovies.VisiblePasswords
