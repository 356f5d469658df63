import GiveMeMovies.ProfileController
import GiveMeMovies.WelcomeController

/-!
# Contracts that let the screens be

Most handlers of the app do nothing but show an error. They keep to every contract that lets the
screens show alerts. To a contract that also lets the screens move keep the steps from one screen to
another.
-/

namespace GiveMeMovies

open Program UserManager

variable {Image Data : Type}

/-- The contract lets `f` change the app. -/
def Allows (C : Contract Image Data) (f : App Image → App Image) : Prop :=
  ∀ app, C.state app → C.state (f app) ∧ C.frame app (f app)

theorem Allows.within {C : Contract Image Data} {f : App Image → App Image} (h : Allows C f) :
    (Callback.Prog.modify f : Program Image Data).Within C := Callback.Prog.within_modify.mpr h

/-- Screens may show alerts, and the clock goes on. -/
structure Lenient (C : Contract Image Data) : Prop where
  error : ∀ self title msg, Allows C (App.showErrorWith self title msg)
  tick : Allows C App.tick

/-- Screens may also move, and the user sign out. -/
structure Mobile (C : Contract Image Data) : Prop extends Lenient C where
  pop : ∀ self, Allows C (App.pop self)
  push : ∀ self screen, Allows C (App.push self screen)
  home : ∀ self, Allows C (App.present self (.tabBar .home []))
  signOut : Allows C App.signOut

variable {C : Contract Image Data} {self : Controller}

namespace Lenient

variable (hC : Lenient C)

include hC

theorem within_error (title msg : Option String) :
    (showErrorWith self title msg : Program Image Data).Within C :=
  within_showErrorWith (hC.error self title msg)

theorem within_weakError (title msg : Option String) :
    (weakly self (showErrorWith self title msg) : Program Image Data).Within C :=
  within_weakly (hC.within_error title msg)

theorem within_anyDate {k : Date → Program Image Data} (h : ∀ now, (k now).Within C) :
    (date k).Within C := within_date hC.tick h

/-! ## Handlers that show an error or do nothing -/

theorem within_mailSent (a : Except AuthFailure Unit) :
    (RegisterViewController.mailSent self a : Program Image Data).Within C := by
  cases a with
  | error failure => exact hC.within_weakError _ _
  | ok _ => trivial

theorem within_userDeleted (a : Except AuthFailure Unit) :
    (EmailVerificationViewController.userDeleted self a : Program Image Data).Within C := by
  cases a with
  | error failure => exact hC.within_weakError _ _
  | ok _ => trivial

theorem within_authDeleted (a : Except AuthFailure Unit) :
    (ProfileViewController.authDeleted self a : Program Image Data).Within C := by
  cases a with
  | error failure => exact hC.within_weakError _ _
  | ok _ => trivial

theorem within_deleted (error : Option NSError) :
    (ProfileViewController.deleted self error : Program Image Data).Within C := by
  cases error with
  | some error => exact hC.within_error _ _
  | none => trivial

theorem within_photoNotSaved (error : Option NSError) :
    (ProfileInformationViewController.photoNotSaved self error : Program Image Data).Within C := by
  cases error with
  | some error => exact hC.within_error _ _
  | none => trivial

theorem within_noUser (error : Option NSError) :
    (WelcomeViewController.noUser self error : Program Image Data).Within C := by
  cases error with
  | some error => exact hC.within_weakError _ _
  | none => exact hC.within_weakError _ _

theorem within_documentDeleted (error : Option NSError) :
    (deleteAccountHandler (ProfileViewController.deleted self) error :
      Program Image Data).Within C := by
  cases error with
  | some error => exact hC.within_deleted (some error)
  | none => trivial

theorem within_deleteAccountCompletion (error : Option NSError) :
    (deleteAccountHandler (EmailVerificationViewController.deleteAccountCompletion self) error :
      Program Image Data).Within C := by
  cases error with
  | some error => exact hC.within_weakError _ _
  | none => trivial

/-! ## Handlers that also remove the overlay -/

variable (hspinner : Allows C App.removeLoadingSpinner)

include hspinner

theorem within_signInFailed (error : NSError) :
    (WelcomeViewController.signInFailed self error : Program Image Data).Within C := by
  unfold WelcomeViewController.signInFailed
  split
  · exact hC.within_error _ _
  · split
    · exact hC.within_error _ _
    · exact (hC.within_error _ _).append hspinner.within

theorem within_resent (a : Except AuthFailure Unit) :
    (EmailVerificationViewController.mailSent self a : Program Image Data).Within C := by
  cases a with
  | error failure =>
      exact within_weakly
        ((hspinner.within.append (hC.within_error _ _)).append hspinner.within)
  | ok _ => exact within_weakly hspinner.within

end Lenient

namespace Mobile

variable (hC : Mobile C)

include hC

theorem within_pop : (popViewController self : Program Image Data).Within C :=
  (hC.pop self).within

theorem within_push {screen : Screen} {viewDidLoad : Controller → Program Image Data}
    (h : ∀ controller, (viewDidLoad controller).Within C) :
    (pushViewController self screen viewDidLoad).Within C :=
  within_pushViewController (hC.push self screen) h

theorem within_goToHomeScreen : (goToHomeScreen self : Program Image Data).Within C :=
  (hC.home self).within

theorem within_signOut : (Callback.Prog.modify App.signOut : Program Image Data).Within C :=
  hC.signOut.within

theorem within_backToLoginScreen
    (hsplash : ∀ controller, (SplashViewController.viewDidLoad controller :
      Program Image Data).Within C) :
    (ProfileViewController.backToLoginScreen self : Program Image Data).Within C :=
  hC.within_push hsplash

theorem within_confirmLogOut
    (hsplash : ∀ controller, (SplashViewController.viewDidLoad controller :
      Program Image Data).Within C)
    (hspinner : Allows C (App.showLoadingSpinner self))
    (hremoved : Allows C App.removeLoadingSpinner) :
    (ProfileViewController.confirmLogOut self : Program Image Data).Within C := by
  refine within_weakly (hspinner.within.append fun app _ => ?_)
  dsimp only
  split
  · exact (hC.within_signOut.append hremoved.within).append (hC.within_backToLoginScreen hsplash)
  · trivial

end Mobile

end GiveMeMovies
