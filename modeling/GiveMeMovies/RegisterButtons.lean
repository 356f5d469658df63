import GiveMeMovies.EventRun
import GiveMeMovies.RegisterController

/-!
# The buttons of the register screen

Create Account may be tapped only while its button is enabled. `editingChanged` disables it when the
email or one of the passwords is empty, and enables the check button of the terms when none is.
Create Account is enabled again by the next tap on the check button only, and a text that is cleared
on the way disables nothing.
-/

namespace GiveMeMovies.RegisterButtons

variable {Image Data : Type}

structure Button where
  isEnabled : Bool
  isSelected : Bool
  alpha : ℚ
  deriving DecidableEq

namespace Button

def enable (button : Button) : Button := { button with isEnabled := true, alpha := 1 }

def disable (button : Button) : Button := { button with isEnabled := false, alpha := 4 / 10 }

/-- A button is dimmed exactly while it is disabled. -/
def Dims (button : Button) : Prop := button.alpha = if button.isEnabled then 1 else 4 / 10

theorem dims_enable (button : Button) : button.enable.Dims := rfl

theorem dims_disable (button : Button) : button.disable.Dims := rfl

end Button

/-- The check button shrinks, is then ticked or unticked, and grows again. -/
inductive Animation where
  | shrinking
  | growing
  deriving DecidableEq

/-- The text fields whose edits the screen watches. -/
inductive TextField where
  | firstNameTxt
  | lastNameTxt
  | emailTxt
  | passTxt
  | confirmPassTxt
  deriving DecidableEq

namespace TextField

def text (textField : TextField) (fields : RegisterFields Image) : String :=
  match textField with
  | firstNameTxt => fields.firstNameTxt
  | lastNameTxt => fields.lastNameTxt
  | emailTxt => fields.emailTxt
  | passTxt => fields.passTxt
  | confirmPassTxt => fields.confirmPassTxt

def setText (textField : TextField) (text : String) (fields : RegisterFields Image) :
    RegisterFields Image :=
  match textField with
  | firstNameTxt => { fields with firstNameTxt := text }
  | lastNameTxt => { fields with lastNameTxt := text }
  | emailTxt => { fields with emailTxt := text }
  | passTxt => { fields with passTxt := text }
  | confirmPassTxt => { fields with confirmPassTxt := text }

/-- The fields that must not be empty. -/
def Required : TextField → Prop
  | firstNameTxt | lastNameTxt => False
  | emailTxt | passTxt | confirmPassTxt => True

instance : DecidablePred Required
  | firstNameTxt | lastNameTxt => instDecidableFalse
  | emailTxt | passTxt | confirmPassTxt => instDecidableTrue

@[simp] theorem text_setText (textField : TextField) (text : String)
    (fields : RegisterFields Image) : textField.text (textField.setText text fields) = text := by
  cases textField <;> rfl

@[simp] theorem setText_setText (textField : TextField) (text text' : String)
    (fields : RegisterFields Image) :
    textField.setText text (textField.setText text' fields) = textField.setText text fields := by
  cases textField <;> rfl

end TextField

structure Form (Image : Type) where
  fields : RegisterFields Image
  checkButton : Button
  createAcBtn : Button
  animation : Option Animation

namespace Form

/-- The email and both passwords are there. -/
def Complete (fields : RegisterFields Image) : Prop :=
  fields.emailTxt ≠ "" ∧ fields.passTxt ≠ "" ∧ fields.confirmPassTxt ≠ ""

instance (fields : RegisterFields Image) : Decidable (Complete fields) :=
  inferInstanceAs (Decidable (_ ∧ _ ∧ _))

/-- The storyboard leaves the texts empty and the check button unselected. -/
def awakeFromNib : Form Image where
  fields := {}
  checkButton := { isEnabled := true, isSelected := false, alpha := 1 }
  createAcBtn := { isEnabled := true, isSelected := false, alpha := 7 / 10 }
  animation := none

def createAccountButtonEnable (form : Form Image) : Form Image :=
  { form with checkButton := form.checkButton.disable, createAcBtn := form.createAcBtn.disable }

def viewDidLoad : Form Image := createAccountButtonEnable awakeFromNib

/-- The text that `editingChanged` clears. `characters` are the characters of a text. -/
def Clears (characters : String → List String) (text : String) : Prop :=
  (characters text).length = 5 ∧ (characters text).head? = some " "

instance (characters : String → List String) (text : String) :
    Decidable (Clears characters text) := inferInstanceAs (Decidable (_ ∧ _))

variable (characters : String → List String)

def editingChanged (textField : TextField) (form : Form Image) : Form Image :=
  if Clears characters (textField.text form.fields) then
    { form with fields := textField.setText "" form.fields }
  else if form.fields.emailTxt = "" ∨ form.fields.passTxt = "" ∨
      form.fields.confirmPassTxt = "" then
    { form with checkButton := form.checkButton.disable, createAcBtn := form.createAcBtn.disable }
  else { form with checkButton := form.checkButton.enable }

def checkAction (form : Form Image) : Form Image :=
  { form with
    createAcBtn := if form.checkButton.isSelected then form.createAcBtn.disable
      else form.createAcBtn.enable
    animation := some .shrinking }

/-- The completion of the first animation, which begins the second. -/
def shrunk (form : Form Image) : Form Image :=
  { form with
    checkButton := { form.checkButton with isSelected := !form.checkButton.isSelected }
    animation := some .growing }

def grown (form : Form Image) : Form Image := { form with animation := none }

end Form

inductive Event where
  | edit (textField : TextField) (text : String)
  | tap
  | shrunk
  | grown

variable (characters : String → List String)

/-- A button that is disabled or animated takes no taps. -/
def step (form : Form Image) : Event → Option (Form Image)
  | .edit textField text =>
      some (Form.editingChanged characters textField
        { form with fields := textField.setText text form.fields })
  | .tap =>
      if form.checkButton.isEnabled = true ∧ form.animation = none then some form.checkAction
      else none
  | .shrunk => if form.animation = some .shrinking then some form.shrunk else none
  | .grown => if form.animation = some .growing then some form.grown else none

variable {characters} {form form' : Form Image}

theorem step_tap : step characters form .tap = some form' ↔
    (form.checkButton.isEnabled = true ∧ form.animation = none) ∧ form' = form.checkAction := by
  simp only [step, Option.ite_none_right_eq_some, Option.some.injEq, @eq_comm _ form']

theorem step_shrunk : step characters form .shrunk = some form' ↔
    form.animation = some .shrinking ∧ form' = form.shrunk := by
  simp only [step, Option.ite_none_right_eq_some, Option.some.injEq, @eq_comm _ form']

theorem step_grown : step characters form .grown = some form' ↔
    form.animation = some .growing ∧ form' = form.grown := by
  simp only [step, Option.ite_none_right_eq_some, Option.some.injEq, @eq_comm _ form']

/-- Both buttons are dimmed exactly while they are disabled. -/
def Dims (form : Form Image) : Prop := form.checkButton.Dims ∧ form.createAcBtn.Dims

theorem dims_step {e : Event} (h : Dims form) (hstep : step characters form e = some form') :
    Dims form' := by
  obtain ⟨hcheck, hcreate⟩ := h
  cases e with
  | edit textField text =>
      cases hstep
      unfold Form.editingChanged
      split
      · exact ⟨hcheck, hcreate⟩
      · split
        · exact ⟨Button.dims_disable _, Button.dims_disable _⟩
        · exact ⟨Button.dims_enable _, hcreate⟩
  | tap =>
      obtain ⟨_, rfl⟩ := step_tap.mp hstep
      refine ⟨hcheck, ?_⟩
      unfold Form.checkAction
      dsimp only
      split
      · exact Button.dims_disable _
      · exact Button.dims_enable _
  | shrunk =>
      obtain ⟨_, rfl⟩ := step_shrunk.mp hstep
      exact ⟨hcheck, hcreate⟩
  | grown =>
      obtain ⟨_, rfl⟩ := step_grown.mp hstep
      exact ⟨hcheck, hcreate⟩

theorem dims_run {es : List Event}
    (hrun : EventRun.run (step characters) Form.viewDidLoad es = some form) : Dims form :=
  EventRun.run_invariant (fun _ _ _ h hstep => dims_step h hstep)
    ⟨Button.dims_disable _, Button.dims_disable _⟩ hrun

/-! ## The form that the button follows -/

namespace Form

/-- The terms are ticked once the animation that is running has ended. -/
def ticked (form : Form Image) : Bool :=
  form.checkButton.isSelected != decide (form.animation = some .shrinking)

/-- The button follows the form, with the tick that a running animation will leave. -/
def Anticipates (form : Form Image) : Prop :=
  form.createAcBtn.isEnabled = true ↔ form.ticked = true ∧ Complete form.fields

/-- While no animation is running, Create Account is enabled exactly if the terms are ticked and the
texts are there. -/
def Follows (form : Form Image) : Prop :=
  form.animation = none → (form.createAcBtn.isEnabled = true ↔
    form.checkButton.isSelected = true ∧ Complete form.fields)

theorem ticked_of_still {form : Form Image} (h : form.animation = none) :
    form.ticked = form.checkButton.isSelected := by
  simp [ticked, h]

theorem Anticipates.follows {form : Form Image} (h : form.Anticipates) : form.Follows := by
  intro hstill
  rw [← ticked_of_still hstill]
  exact h

variable {textField : TextField} {text : String} {fields : RegisterFields Image}

theorem not_complete_iff : ¬ Complete fields ↔
    fields.emailTxt = "" ∨ fields.passTxt = "" ∨ fields.confirmPassTxt = "" := by
  simp only [Complete, ne_eq]
  tauto

/-- An empty text in a required field. -/
theorem not_complete_setText (h : textField.Required) :
    ¬ Complete (textField.setText "" fields) := by
  cases textField with
  | firstNameTxt => exact absurd h id
  | lastNameTxt => exact absurd h id
  | _ => simp [Complete, TextField.setText]

theorem complete_setText (h : ¬ textField.Required) :
    Complete (textField.setText text fields) ↔ Complete fields := by
  cases textField with
  | firstNameTxt => exact Iff.rfl
  | lastNameTxt => exact Iff.rfl
  | _ => exact absurd trivial h

end Form

open Form

variable (characters) in
/-- The steps that keep the button to the form: no required text is cleared on the way while Create
Account is enabled, none completes the form while the terms are ticked, and the terms are not ticked
while a required text is missing. -/
def Admitted (form : Form Image) : Event → Prop
  | .edit textField text =>
      if Clears characters text then textField.Required → form.createAcBtn.isEnabled = false
      else Complete (textField.setText text form.fields) →
        Complete form.fields ∨ form.ticked = false
  | .tap => form.checkButton.isSelected = true ∨ Complete form.fields
  | .shrunk | .grown => True

instance (form : Form Image) : ∀ e, Decidable (Admitted characters form e)
  | .edit _ _ => inferInstanceAs (Decidable (ite _ _ _))
  | .tap => inferInstanceAs (Decidable (_ ∨ _))
  | .shrunk | .grown => instDecidableTrue

section Edit

variable {textField : TextField} {text : String}

theorem edit_clears (hclears : Clears characters text) :
    Form.editingChanged characters textField
        { form with fields := textField.setText text form.fields } =
      { form with fields := textField.setText "" form.fields } := by
  simp only [Form.editingChanged, TextField.text_setText, if_pos hclears,
    TextField.setText_setText]

theorem edit_completes (hclears : ¬ Clears characters text)
    (hcomplete : Complete (textField.setText text form.fields)) :
    Form.editingChanged characters textField
        { form with fields := textField.setText text form.fields } =
      { form with
        fields := textField.setText text form.fields
        checkButton := form.checkButton.enable } := by
  have hfilled := mt not_complete_iff.mpr (not_not.mpr hcomplete)
  simp only [Form.editingChanged, TextField.text_setText, if_neg hclears, if_neg hfilled]

theorem edit_leaves_missing (hclears : ¬ Clears characters text)
    (hcomplete : ¬ Complete (textField.setText text form.fields)) :
    Form.editingChanged characters textField
        { form with fields := textField.setText text form.fields } =
      { form with
        fields := textField.setText text form.fields
        checkButton := form.checkButton.disable
        createAcBtn := form.createAcBtn.disable } := by
  have hmissing := not_complete_iff.mp hcomplete
  simp only [Form.editingChanged, TextField.text_setText, if_neg hclears, if_pos hmissing]

theorem anticipates_edit (h : form.Anticipates) :
    (Form.editingChanged characters textField
        { form with fields := textField.setText text form.fields }).Anticipates ↔
      Admitted characters form (.edit textField text) := by
  by_cases hclears : Clears characters text
  · rw [edit_clears hclears, Admitted, if_pos hclears]
    by_cases hrequired : textField.Required
    · have hempty : ¬ Complete (textField.setText "" form.fields) := not_complete_setText hrequired
      simp [Anticipates, hempty, hrequired]
    · have hsame := @complete_setText Image textField "" form.fields hrequired
      have hfollows : Anticipates { form with fields := textField.setText "" form.fields } := by
        rw [Anticipates, hsame]
        exact h
      exact iff_of_true hfollows fun hreq => absurd hreq hrequired
  rw [Admitted, if_neg hclears]
  by_cases hcomplete : Complete (textField.setText text form.fields)
  · rw [edit_completes hclears hcomplete]
    change (form.createAcBtn.isEnabled = true ↔ form.ticked = true ∧ _) ↔ _
    have hbefore : form.createAcBtn.isEnabled = true ↔
        form.ticked = true ∧ Complete form.fields := h
    rw [hbefore]
    cases hticked : form.ticked with
    | false => simp
    | true => simp [hcomplete]
  · rw [edit_leaves_missing hclears hcomplete]
    simp [Anticipates, Button.disable, hcomplete]

end Edit

theorem anticipates_tap : form.checkAction.Anticipates ↔ Admitted characters form .tap := by
  cases hselected : form.checkButton.isSelected with
  | true =>
      simp [Anticipates, Admitted, Form.checkAction, ticked, Button.disable, hselected]
  | false =>
      simp [Anticipates, Admitted, Form.checkAction, ticked, Button.enable, hselected]

theorem anticipates_shrunk (hanimation : form.animation = some .shrinking) :
    form.shrunk.Anticipates ↔ form.Anticipates := by
  simp [Anticipates, ticked, Form.shrunk, hanimation]

theorem anticipates_grown (hanimation : form.animation = some .growing) :
    form.grown.Anticipates ↔ form.Anticipates := by
  simp [Anticipates, ticked, Form.grown, hanimation]

theorem anticipates_step {e : Event} (h : form.Anticipates)
    (hstep : step characters form e = some form') :
    form'.Anticipates ↔ Admitted characters form e := by
  cases e with
  | edit textField text =>
      cases hstep
      exact anticipates_edit h
  | tap =>
      obtain ⟨_, rfl⟩ := step_tap.mp hstep
      exact anticipates_tap
  | shrunk =>
      obtain ⟨hanimation, rfl⟩ := step_shrunk.mp hstep
      exact iff_of_true ((anticipates_shrunk hanimation).mpr h) trivial
  | grown =>
      obtain ⟨hanimation, rfl⟩ := step_grown.mp hstep
      exact iff_of_true ((anticipates_grown hanimation).mpr h) trivial

/-- While the button follows the form, a tap on Create Account finds neither the email nor a
password empty. -/
theorem validationError_of_enabled (ios : Platform Image Data) (h : form.Anticipates)
    (henabled : form.createAcBtn.isEnabled = true) :
    RegisterViewController.validationError ios form.fields ≠ some "Please enter your email" ∧
      RegisterViewController.validationError ios form.fields ≠ some "Please enter a password" := by
  obtain ⟨_, hemail, hpass, _⟩ := h.mp henabled
  unfold RegisterViewController.validationError
  rw [if_neg hemail, if_neg hpass]
  split_ifs <;> simp

theorem anticipates_viewDidLoad : (viewDidLoad : Form Image).Anticipates := by
  simp [Anticipates, viewDidLoad, createAccountButtonEnable, awakeFromNib, Button.disable, Complete]

/-- The button anticipates the form throughout exactly if every step is admitted. -/
theorem anticipates_iff_admitted {es : List Event} :
    EventRun.AllStates (step characters) Anticipates (viewDidLoad : Form Image) es ↔
      EventRun.AllSteps (step characters) (Admitted characters)
        (viewDidLoad : Form Image) es :=
  EventRun.allStates_iff_allSteps (I := fun _ => True) (fun _ _ _ _ _ => trivial)
    (fun _ _ _ _ h hstep => anticipates_step h hstep) trivial anticipates_viewDidLoad

theorem follows_of_admitted {es : List Event}
    (h : EventRun.AllSteps (step characters) (Admitted characters) (viewDidLoad : Form Image) es) :
    EventRun.AllStates (step characters) Follows (viewDidLoad : Form Image) es := by
  have hanticipates := anticipates_iff_admitted.mpr h
  exact hanticipates.imp fun _ hform => hform.follows

/-- The characters of an ASCII text. -/
def ascii (text : String) : List String := text.toList.map String.singleton

/-- The email and the passwords are typed, and the terms are ticked. -/
def filled : List Event :=
  [.edit .emailTxt "a", .edit .passTxt "b", .edit .confirmPassTxt "b", .tap, .shrunk, .grown]

theorem follows_of_admitted_filled :
    EventRun.AllStates (step ascii) Follows (viewDidLoad : Form ℕ) filled :=
  follows_of_admitted (by decide)

/-- Then the email is deleted and typed again. -/
def retyped : List Event := filled ++ [.edit .emailTxt "", .edit .emailTxt "a"]

theorem retyped_run : ∃ form : Form ℕ,
    EventRun.run (step ascii) viewDidLoad retyped = some form ∧ form.animation = none ∧
      form.checkButton.isSelected = true ∧ form.createAcBtn.isEnabled = false ∧
      Complete form.fields :=
  ⟨_, rfl, rfl, rfl, rfl, by decide⟩

theorem retyped_leaves_disabled :
    ¬ EventRun.AllStates (step ascii) Follows (viewDidLoad : Form ℕ) retyped := by
  intro h
  obtain ⟨form, hrun, hstill, hselected, hdisabled, hcomplete⟩ := retyped_run
  have henabled : form.createAcBtn.isEnabled = true :=
    (h.last hrun hstill).mpr ⟨hselected, hcomplete⟩
  rw [hdisabled] at henabled
  cases henabled

end GiveMeMovies.RegisterButtons
