import PhantomFlow.Library.JsCase
import PhantomFlow.Library.Machine
import PhantomFlow.Library.OrderedMap

namespace PhantomFlow.Auth
open Library Library.Machine

structure User where
  id : String
  username : String
  email : String
  passwordHash : String
  role : String
  displayName : String
  isActive : Bool
  lastLoginAt : Option ℤ
  createdAt : ℤ
  deriving DecidableEq

structure SafeUser where
  id : String
  username : String
  email : String
  role : String
  displayName : String
  isActive : Bool
  lastLoginAt : Option ℤ
  createdAt : ℤ
  deriving DecidableEq

def User.toSafeUser (user : User) : SafeUser :=
  ⟨user.id,user.username,user.email,user.role,user.displayName,user.isActive,user.lastLoginAt,user.createdAt⟩

structure PublicUser where
  id : String
  username : String
  email : String
  role : String
  displayName : String
  deriving DecidableEq

def SafeUser.shown (user : SafeUser) : PublicUser := ⟨user.id,user.username,user.email,user.role,user.displayName⟩

structure JwtPayload where
  userId : String
  username : String
  role : String
  deriving DecidableEq

inductive JwtError where
  | tokenExpired
  | invalidToken
  | other
  deriving DecidableEq

-- The token library with the secret and the lifetime of the process; times are
-- milliseconds.
structure Jwt where
  sign : JwtPayload → ℤ → String
  verify : String → ℤ → Except JwtError JwtPayload

-- A signed token is verified until its lifetime, in seconds, has passed, nothing else is
-- verified, and no token has a blank in it.
structure Jwt.Lawful (jwt : Jwt) (lifetime : ℤ) : Prop where
  valid : ∀ payload issued now, now / 1000 < issued / 1000 + lifetime → jwt.verify (jwt.sign payload issued) now = .ok payload
  expired : ∀ payload issued now, issued / 1000 + lifetime ≤ now / 1000 →
    jwt.verify (jwt.sign payload issued) now = .error .tokenExpired
  signed : ∀ token now payload, jwt.verify token now = .ok payload → ∃ payload issued, token = jwt.sign payload issued
  plain : ∀ payload issued, ' ' ∉ (jwt.sign payload issued).toList

inductive BodyValue where
  | missing
  | text (value : String)
  | other (truthy : Bool)
  deriving DecidableEq

def BodyValue.truthy : BodyValue → Bool
  | .missing => false
  | .text value => value ≠ ""
  | .other truthy => truthy

structure PendingLogin where
  request : ℕ
  username : String
  password : String
  account : User
  memory : Bool
  deriving DecidableEq

structure Login where
  username : String
  password : String
  account : User
  issued : ℤ
  token : String
  deriving DecidableEq

-- `useMemoryStore` is there once the routes are initialized. `logins` remembers the
-- logins that succeeded, for what is said of them.
structure State where
  useMemoryStore : Option Bool
  memoryUsers : OrderedMap String User
  nextId : ℕ
  documents : List User
  pending : List PendingLogin
  logins : List Login

def initial : State := ⟨none,.empty,1,[],[],[]⟩

inductive Route where
  | logout
  | verify
  | me
  | guarded (allowedRoles : List String)
  deriving DecidableEq

inductive Answer where
  | done
  | waiting
  | refused (status : ℕ) (message : String)
  | loggedIn (token : String) (user : PublicUser)
  | verified (user : PublicUser)
  | profile (user : SafeUser)
  | reached (user : SafeUser)
  deriving DecidableEq

-- `database` is whatever else writes to the collection of accounts; `fails` says that
-- the database throws.
inductive Event where
  | initAuthRoutes (mongoAvailable : Bool)
  | seedDefaultAdmin (passwordHash : String) (now : ℤ)
  | createUser (username email passwordHash role displayName : String) (now : ℤ)
  | database (documents : List User)
  | login (request : ℕ) (username password : BodyValue) (fails : Bool)
  | compared (request : ℕ) (now : ℤ) (fails : Bool)
  | request (route : Route) (authorization : Option String) (now : ℤ) (fails : Bool)
  deriving DecidableEq

section Service
variable (tables : CaseTables)

def lower (text : String) : String := String.ofList (tables.toLowerCase text.toList)

def seedDefaultAdmin (s : State) (passwordHash : String) (now : ℤ) : State :=
  let user : User :=
    ⟨"user-default-admin","admin","admin@phantom-flow.local",passwordHash,"admin","Default Admin",true,none,now⟩
  { s with memoryUsers := s.memoryUsers.set "admin" user }

def createUser (s : State) (username email passwordHash role displayName : String) (now : ℤ) : State :=
  let user : User := ⟨"user-" ++ toString s.nextId ++ "-" ++ toString now,lower tables username,lower tables email,passwordHash,
    role,displayName,true,none,now⟩
  { s with memoryUsers := s.memoryUsers.set user.username user, nextId := s.nextId + 1 }

def findById (s : State) (memory : Bool) (id : String) (fails : Bool) : Option SafeUser :=
  if memory then (s.memoryUsers.values.find? (fun user => user.id = id)).map User.toSafeUser
  else if fails then none
  else (s.documents.find? (fun user => user.id = id)).map User.toSafeUser

-- The lookup of `UserService.validatePassword`, which skips accounts that are inactive.
def lookUp (s : State) (memory : Bool) (username : String) (fails : Bool) : Option User :=
  if memory then (s.memoryUsers.get (lower tables username)).filter (fun user => user.isActive)
  else if fails then none
  else s.documents.find? (fun user => user.username = lower tables username && user.isActive)

-- The last login of the account is noted, in memory of the one that now has the name.
-- A document that is gone cannot be saved.
def updateLastLogin (s : State) (login : PendingLogin) (now : ℤ) (fails : Bool) : Option State :=
  if login.memory then
    match s.memoryUsers.get (lower tables login.username) with
    | some user =>
      some { s with memoryUsers := s.memoryUsers.set (lower tables login.username) { user with lastLoginAt := some now } }
    | none => some s
  else if fails || !s.documents.any (fun user => user.id = login.account.id) then none
  else some { s with
    documents := s.documents.map (fun user =>
      if user.id = login.account.id then { user with lastLoginAt := some now } else user) }

end Service

section Routes
variable (jwt : Jwt) (compare : String → String → Bool) (tables : CaseTables)

def signToken (user : SafeUser) (now : ℤ) : String := jwt.sign ⟨user.id,user.username,user.role⟩ now

def bearer (decoded : JwtPayload) (now : ℤ) : SafeUser :=
  ⟨decoded.userId,decoded.username,"",decoded.role,decoded.username,true,none,now⟩

def authenticate (authorization : Option String) (now : ℤ) : Except Answer SafeUser :=
  match authorization.filter (fun header => header ≠ "") with
  | none => .error (.refused 401 "Authentication required. No authorization header provided.")
  | some header =>
    match header.toList.splitOn ' ' with
    | [scheme,token] =>
      if scheme = "Bearer".toList then
        match jwt.verify (String.ofList token) now with
        | .ok decoded => .ok (bearer decoded now)
        | .error .tokenExpired => .error (.refused 401 "Token has expired. Please login again.")
        | .error .invalidToken => .error (.refused 401 "Invalid token.")
        | .error .other => .error (.refused 500 "Internal server error during authentication.")
      else .error (.refused 401 "Invalid authorization header format. Expected: Bearer <token>")
    | _ => .error (.refused 401 "Invalid authorization header format. Expected: Bearer <token>")

def authorize (allowedRoles : List String) (authenticatedUser : Option SafeUser) : Except Answer SafeUser :=
  match authenticatedUser with
  | none => .error (.refused 401 "Authentication required.")
  | some user =>
    if user.role ∈ allowedRoles then .ok user
    else .error (.refused 403 ("Access denied. Required role(s): " ++ ", ".intercalate allowedRoles))

def postLogin (s : State) (request : ℕ) (username password : BodyValue) (fails : Bool) : State × Answer :=
  if username.truthy && password.truthy then
    match username,password with
    | .text name,.text word =>
      match s.useMemoryStore with
      | none => (s,.refused 500 "Auth service not initialized.")
      | some memory =>
        match lookUp tables s memory name fails with
        | none => (s,.refused 401 "Invalid username or password.")
        | some account => ({ s with pending := s.pending ++ [⟨request,name,word,account,memory⟩] },.waiting)
    | _,_ => (s,.refused 400 "Username and password must be strings.")
  else (s,.refused 400 "Username and password are required.")

def compared (s : State) (request : ℕ) (now : ℤ) (fails : Bool) : State × Answer :=
  match s.pending.find? (fun login => login.request = request) with
  | none => (s,.done)
  | some login =>
    let s := { s with pending := s.pending.erase login }
    if compare login.password login.account.passwordHash then
      match updateLastLogin tables s login now fails with
      | none => (s,.refused 401 "Invalid username or password.")
      | some s =>
        if login.account.isActive then
          let token := signToken jwt login.account.toSafeUser now
          ({ s with logins := s.logins ++ [⟨login.username,login.password,login.account,now,token⟩] },
            .loggedIn token login.account.toSafeUser.shown)
        else (s,.refused 403 "Account is disabled. Contact an administrator.")
    else (s,.refused 401 "Invalid username or password.")

def answer (s : State) (route : Route) (authorization : Option String) (now : ℤ) (fails : Bool) : Answer :=
  match authenticate jwt authorization now with
  | .error refusal => refusal
  | .ok user =>
    match route with
    | .logout => .reached user
    | .guarded allowedRoles =>
      match authorize allowedRoles (some user) with
      | .ok user => .reached user
      | .error refusal => refusal
    | .verify =>
      match s.useMemoryStore with
      | none => .verified user.shown
      | some memory =>
        match findById s memory user.id fails with
        | none => .refused 401 "User no longer exists."
        | some freshUser =>
          if freshUser.isActive then .verified freshUser.shown else .refused 403 "Account is disabled."
    | .me =>
      match s.useMemoryStore with
      | none => .profile user
      | some memory =>
        match findById s memory user.id fails with
        | none => .refused 404 "User not found."
        | some user => .profile user

def step (s : State) : Event → State × Answer
  | .initAuthRoutes mongoAvailable => ({ s with useMemoryStore := some (!mongoAvailable) },.done)
  | .seedDefaultAdmin passwordHash now => (seedDefaultAdmin s passwordHash now,.done)
  | .createUser username email passwordHash role displayName now =>
    (createUser tables s username email passwordHash role displayName now,.done)
  | .database documents => ({ s with documents := documents },.done)
  | .login request username password fails => postLogin tables s request username password fails
  | .compared request now fails => compared jwt compare tables s request now fails
  | .request route authorization now fails => (s,answer jwt s route authorization now fails)

end Routes
end PhantomFlow.Auth
