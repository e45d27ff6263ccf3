import Rylus.SessionStore

/-!
# What the request handlers share

`ServeContext` holds the live access-code hash, the rate limiter and the
session store.  Hashing and verification belong to the argon2 crate and enter
as parameters.
-/

namespace Rylus

/-- The persisted fields `handle_post_config` reads and writes (Linux). -/
structure Config where
  accessCode : Option String
  bindAddress : String
  webPort : Nat
  tryVaapi : Bool
  tryNvenc : Bool
  waylandSupport : Bool

/-- `Config::parse_from(["rylus"])`. -/
def Config.fromDefaults : Config where
  accessCode := none
  bindAddress := "0.0.0.0"
  webPort := 1701
  tryVaapi := false
  tryNvenc := false
  waylandSupport := false

/-- The JSON body of `POST /api/config`.  A `bindAddress` that is present but
does not parse is `some none`; `accessCode` distinguishes absent, null and a
string. -/
structure SettingsUpdate where
  bindAddress : Option (Option String)
  webPort : Option Nat
  accessCode : Option (Option String)
  tryVaapi : Option Bool
  tryNvenc : Option Bool
  waylandSupport : Option Bool

/-- The parts of `ServeContext` that requests change, and `secure_cookies`. -/
structure ServeContext (IpAddr Token Hash : Type*) where
  rateLimiter : RateLimiter IpAddr
  sessionStore : SessionStore Token
  accessCodeHash : Option Hash
  secureCookies : Bool

/-- What the handlers take from outside: argon2, the peer address of every
request, and whether the session is a Wayland one. -/
structure ServeEnv (Req IpAddr Salt Hash : Type*) where
  hashAccessCode : Salt → String → Hash
  verifyAccessCode : String → Hash → Bool
  address : Req → IpAddr
  waylandSession : Bool

/-- Where `is_authed` stands once it has read the access-code hash. -/
inductive Admission (Token : Type*) where
  | admitted
  | refused
  | lookUp (token : Token)

/-- The first half of `is_authed`: everybody is admitted when no access code
is configured, a request without a session cookie is refused, and any other
request has its token looked up in the session store. -/
def ServeContext.startIsAuthed {IpAddr Token Hash : Type*}
    (context : ServeContext IpAddr Token Hash) (cookie : Option Token) :
    Admission Token :=
  match context.accessCodeHash, cookie with
  | none, _ => .admitted
  | some _, none => .refused
  | some _, some token => .lookUp token

end Rylus
