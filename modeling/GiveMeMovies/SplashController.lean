import GiveMeMovies.ImageView
import GiveMeMovies.Managers

/-!
# The splash screen

The splash screen is the root of the app and is also what a log out pushes. It looks at the
signed-in user when its view loads and again when its delay has passed.
-/

namespace GiveMeMovies

variable {Image Data : Type}

/-- `goToHomeScreen`, which several controllers repeat. -/
def goToHomeScreen (self : Controller) : Program Image Data :=
  Program.present self (.tabBar .home [])

/-- `UserManager.shared.user = user` -/
def setSharedUser (user : User) : Program Image Data :=
  .modify (fun app => { app with sharedUser := some user })

/-- What `loadUserData` of the Profile and the Welcome Info screen does with the user it gets. -/
def showUser (ios : Platform Image Data) (self : Controller) (placeholder : String)
    (user : User) : Program Image Data :=
  setSharedUser user ++ Program.weakly self (UIImageView.loadPhoto ios self placeholder user)

namespace SplashViewController

open Program UserManager

def loadUser (self : Controller) : Program Image Data :=
  guardUid (fun uid =>
    getUser .splashLoadUser self uid
      (fun user => setSharedUser user ++ weakly self (goToHomeScreen self))
      (fun _ => .done))

def deadlineSignedIn (self : Controller) : Program Image Data :=
  loadUser self ++
    guardUser (fun _ user =>
      if user.isEmailVerified then goToHomeScreen self
      else presentNew self .emailVerification .single)

/-- `performSegue(withIdentifier: "navSegue")` presents the navigation controller of Welcome. -/
def deadlineSignedOut (self : Controller) : Program Image Data :=
  presentNew self .welcome (fun welcome => .navigation [welcome])

def viewDidLoad (self : Controller) : Program Image Data :=
  .read (fun app =>
    if app.authUser.isSome then
      send .splashDeadline self .timer (fun _ => deadlineSignedIn self)
    else
      send .splashDeadline self .timer (fun _ => deadlineSignedOut self))

end SplashViewController

end GiveMeMovies
