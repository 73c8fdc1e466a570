import PhantomFlow.Auth.Accounts

namespace PhantomFlow.Auth
open Library Library.Machine
variable {jwt : Jwt} {compare : String → String → Bool} {tables : CaseTables} {lifetime : ℤ}

section Tokens

end Tokens
def LookedUp (jwt : Jwt) (compare : String → String → Bool) (tables : CaseTables) (events : List Event)
    (username : String) (account : User) : Prop :=
  ∃ before, before <+: events ∧ ∃ memory fails,
    lookUp tables (exec (step jwt compare tables) initial before).1 memory username fails = some account

structure Genuine (jwt : Jwt) (compare : String → String → Bool) (tables : CaseTables) (events : List Event)
    (login : Login) : Prop where
  lookedUp : LookedUp jwt compare tables events login.username login.account
  named : login.account.username = lower tables login.username
  active : login.account.isActive = true
  password : compare login.password login.account.passwordHash = true
  signed : login.token = signToken jwt login.account.toSafeUser login.issued

def Named (s : State) : Prop := ∀ key user, s.memoryUsers.get key = some user → user.username = key

structure Accounted (jwt : Jwt) (compare : String → String → Bool) (tables : CaseTables) (events : List Event)
    (s : State) : Prop where
  named : Named s
  pending : ∀ login ∈ s.pending, LookedUp jwt compare tables events login.username login.account ∧
    login.account.username = lower tables login.username ∧ login.account.isActive = true
  logins : ∀ login ∈ s.logins, Genuine jwt compare tables events login

section Runs

theorem LookedUp.later (looked : LookedUp jwt compare tables events username account) (event : Event) :
    LookedUp jwt compare tables (events ++ [event]) username account := by
  obtain ⟨before,earlier,found⟩ := looked
  exact ⟨before,earlier.trans (List.prefix_append _ _),found⟩

theorem Genuine.later {login : Login} (genuine : Genuine jwt compare tables events login) (event : Event) :
    Genuine jwt compare tables (events ++ [event]) login :=
  ⟨genuine.lookedUp.later event,genuine.named,genuine.active,genuine.password,genuine.signed⟩

theorem Accounted.later {s : State} (accounted : Accounted jwt compare tables events s) (event : Event) :
    Accounted jwt compare tables (events ++ [event]) s :=
  ⟨accounted.named,fun login member => ⟨(accounted.pending login member).1.later event,(accounted.pending login member).2⟩,
    fun login member => (accounted.logins login member).later event⟩

theorem Named.set {s next : State} (named : Named s) (user : User)
    (users : next.memoryUsers = s.memoryUsers.set user.username user) : Named next := by
  intro key other found
  rw [users,OrderedMap.get_set] at found
  split at found
  · rename_i same
    cases found
    exact same.symm
  · exact named key other found

theorem Named.seeded {s : State} (named : Named s) (passwordHash : String) (now : ℤ) :
    Named (seedDefaultAdmin s passwordHash now) :=
  named.set
    ⟨"user-default-admin","admin","admin@phantom-flow.local",passwordHash,"admin","Default Admin",true,none,now⟩ rfl

theorem Named.created {s : State} (named : Named s) (username email passwordHash role displayName : String) (now : ℤ) :
    Named (createUser tables s username email passwordHash role displayName now) :=
  named.set ⟨"user-" ++ toString s.nextId ++ "-" ++ toString now,lower tables username,lower tables email,passwordHash,
    role,displayName,true,none,now⟩ rfl

end Runs

def Login.bearer (login : Login) (now : ℤ) : SafeUser := Auth.bearer ⟨login.account.id,login.account.username,login.account.role⟩ now

-- Tokens that are numbers written with strokes, one for each payload and moment.
namespace Strokes

def letters (text : String) : List ℕ := text.toList.map Char.toNat

def code (payload : JwtPayload) (issued : ℤ) : ℕ :=
  Encodable.encode ((letters payload.userId,letters payload.username),letters payload.role,issued)

def text (n : ℕ) : String := String.ofList (List.replicate n 'x')

def read (token : String) : Option (JwtPayload × ℤ) :=
  ((Encodable.decode token.toList.length : Option ((List ℕ × List ℕ) × List ℕ × ℤ)).map (fun parts =>
    ((⟨String.ofList (parts.1.1.map Char.ofNat),String.ofList (parts.1.2.map Char.ofNat),
      String.ofList (parts.2.1.map Char.ofNat)⟩ : JwtPayload),parts.2.2))).filter (fun parts =>
        decide (token = text (code parts.1 parts.2)))

theorem read_letters (word : String) : String.ofList ((letters word).map Char.ofNat) = word := by
  have back : Char.ofNat ∘ Char.toNat = id := funext Char.ofNat_toNat
  rw [letters,List.map_map,back,List.map_id,String.ofList_toList]

theorem read_text (payload : JwtPayload) (issued : ℤ) : read (text (code payload issued)) = some (payload,issued) := by
  have length : (text (code payload issued)).toList.length = code payload issued := by simp [text]
  unfold read
  rw [length,code,Encodable.encodek,Option.map_some]
  dsimp only
  rw [read_letters,read_letters,read_letters,Option.filter_some]
  exact if_pos (decide_eq_true rfl)

def judge (lifetime now : ℤ) : Option (JwtPayload × ℤ) → Except JwtError JwtPayload
  | some found => if now / 1000 < found.2 / 1000 + lifetime then .ok found.1 else .error .tokenExpired
  | none => .error .invalidToken

def tokens (lifetime : ℤ) : Jwt where
  sign payload issued := text (code payload issued)
  verify token now := judge lifetime now (read token)

theorem lawful (lifetime : ℤ) : (tokens lifetime).Lawful lifetime := by
  refine ⟨?_,?_,?_,?_⟩
  · intro payload issued now fresh
    unfold tokens
    dsimp only
    rw [read_text]
    exact if_pos fresh
  · intro payload issued now late
    unfold tokens
    dsimp only
    rw [read_text]
    exact if_neg (by dsimp only; omega)
  · intro token now payload verified
    unfold tokens at verified ⊢
    dsimp only at verified ⊢
    cases parts : read token with
    | none => rw [parts] at verified; cases verified
    | some found =>
        obtain ⟨_,same⟩ := Option.filter_eq_some_iff.mp parts
        exact ⟨found.1,found.2,of_decide_eq_true same⟩
  · intro payload issued
    unfold tokens
    dsimp only
    intro blank
    rw [text,String.toList_ofList] at blank
    exact absurd (List.eq_of_mem_replicate blank) (by decide)

end Strokes

end PhantomFlow.Auth
