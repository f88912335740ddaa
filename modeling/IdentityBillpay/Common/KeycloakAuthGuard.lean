import IdentityBillpay.Common.Guards
import IdentityBillpay.Common.NormalizeBearer

/-!
# KeycloakAuthGuard — who a request is from when Keycloak is mocked

With `AUTH_MOCK_MODE=true` a request passes `normalize-bearer.middleware.ts`,
`keycloak-auth.guard.ts` and `roles.guard.ts`; its tokens come from `mockLogin` of
`keycloak.service.ts`.

* `MOCK_USERS`, `findMockUserByToken` — the table of `mock-users.const.ts`;
* `KeycloakService.mockLogin` — the token of a user who knows the password;
* `KeycloakAuthGuard.canActivate` — the user of a header;
* `throughGuards` — the three in their order;
* `Wrapping`, `stripBearer_trim_eq_iff` — the headers that a token can be sent in;
* `throughGuards_iff` — who gets through, and with which header;
* `login_admitted` — a token that was logged in with is good for its own user only.
-/

namespace IdentityBillpay
namespace Common

open Js Keycloak
open Bbps (Actor)

/-! ## The table -/

structure MockUser where
  username : String
  password : String
  sub : String
  roles : List String
  deriving DecidableEq

def MOCK_USERS : List MockUser :=
  [⟨"mock-superadmin", "Mock@123", "00000000-0000-0000-0000-000000000001", ["BANK_SUPER_ADMIN"]⟩,
    ⟨"mock-admin", "Mock@123", "00000000-0000-0000-0000-000000000002", ["BANK_ADMIN"]⟩,
    ⟨"mock-bank-maker", "Mock@123", "00000000-0000-0000-0000-000000000003", ["BANK_MAKER"]⟩,
    ⟨"mock-bank-checker", "Mock@123", "00000000-0000-0000-0000-000000000004", ["BANK_CHECKER"]⟩,
    ⟨"mock-corporate-maker", "Mock@123", "00000000-0000-0000-0000-000000000005",
      ["CORPORATE_MAKER"]⟩,
    ⟨"mock-corporate-checker", "Mock@123", "00000000-0000-0000-0000-000000000006",
      ["CORPORATE_CHECKER"]⟩,
    ⟨"mock-customer", "Mock@123", "00000000-0000-0000-0000-000000000007", ["RETAIL_CUSTOMER"]⟩]

def findMockUserByUsername (username : String) : Option MockUser :=
  MOCK_USERS.find? fun user => user.username == username

/-- The class `.` of a pattern, for a whole character. -/
def isLineTerminator (c : Char) : Bool :=
  [0xA, 0xD, 0x2028, 0x2029].contains c.toNat

/-- The group of `/^mock-(.+)-token$/`, if the pattern matches. -/
def MOCK_TOKEN_PATTERN (token : List Char) : Option (List Char) := do
  let rest ← token.dropPrefix? "mock-".toList
  let name ← rest.dropSuffix? "-token".toList
  if name ≠ [] ∧ name.all fun c => !isLineTerminator c then some name else none

def findMockUserByToken (token : List Char) : Option MockUser :=
  (MOCK_TOKEN_PATTERN token).bind fun name => findMockUserByUsername (String.ofList name)

/-! ## Logging in -/

structure LoginDto where
  username : String
  password : String
  deriving DecidableEq

structure TokenResponseDto where
  accessToken : String
  expiresIn : Nat
  refreshExpiresIn : Nat
  refreshToken : String
  tokenType : String
  scope : String
  deriving DecidableEq

def accessTokenOf (username : String) : String :=
  "mock-" ++ username ++ "-token"

namespace KeycloakService

def mockLogin (dto : LoginDto) : Except HttpError TokenResponseDto :=
  match findMockUserByUsername dto.username with
  | none => .error (.unauthorized "Invalid user credentials")
  | some user =>
      if user.password ≠ dto.password then .error (.unauthorized "Invalid user credentials")
      else
        .ok { accessToken := accessTokenOf user.username
              expiresIn := 86400
              refreshExpiresIn := 172800
              refreshToken := "mock-" ++ user.username ++ "-refresh"
              tokenType := "Bearer"
              scope := "openid profile email" }

end KeycloakService

/-! ## The guards -/

/-- The claims that are attached to the request. -/
def MockUser.claims (user : MockUser) : Actor where
  sub := some user.sub
  realmAccessRoles := some user.roles
  roles := none

/-- `authHeader.toLowerCase().startsWith('bearer ') ? authHeader.slice(7).trim() : undefined`. -/
def bearerToken (authHeader : String) : Option (List Char) :=
  match stripWord "BEARER ".toList authHeader.toList with
  | some rest => some (trim rest)
  | none => none

namespace KeycloakAuthGuard

/-- The user that is attached to a request that gets through. -/
def canActivate (isPublic : Bool) (authorization : Option String) :
    Except HttpError (Option Actor) :=
  let token : Option (List Char) := authorization.bind bearerToken
  let mockUser : Option MockUser :=
    match token with
    | none => none
    -- An empty token is falsy.
    | some token => if token = [] then none else findMockUserByToken token
  match mockUser with
  | some user => .ok (some user.claims)
  | none =>
      if isPublic then .ok none
      else
        .error (.unauthorized
          "Invalid or missing mock bearer token — call POST /auth/login with a mock-* user first")

end KeycloakAuthGuard

/-- A request on its way to the handler: the middleware, and the two guards in their order. -/
def throughGuards (isPublic : Bool) (roleMetadata : Option RoleMetadata)
    (authorization : Option String) : Except HttpError (Option Actor) := do
  let user ← KeycloakAuthGuard.canActivate isPublic (normalizeBearerMiddleware authorization)
  let _ ← RolesGuard.canActivate roleMetadata user
  return user

example :
    throughGuards false (Auth ["BANK_ADMIN"]) (some " bearer  Bearer mock-mock-admin-token ") =
      .ok (some ⟨some "00000000-0000-0000-0000-000000000002", some ["BANK_ADMIN"], none⟩) ∧
    throughGuards false (Auth ["BANK_ADMIN"]) (some "Bearer mock-mock-customer-token") =
      .error (.forbidden "Mock user does not have the required role") := by
  decide +kernel

/-! ## The headers of a token -/

/-- What may stand in front of a token: white space, and prefixes in any case. -/
inductive Wrapping : List Char → Prop
  | nil : Wrapping []
  | white {c : Char} {front : List Char} (hc : isWhiteSpace c = true) (h : Wrapping front) :
      Wrapping (c :: front)
  | bearer {word front : List Char} {c : Char} (hword : word.map Char.toUpper = "BEARER".toList)
      (hc : isWhiteSpace c = true) (h : Wrapping front) : Wrapping (word ++ c :: front)

theorem Wrapping.append_white {front white : List Char} (h : Wrapping front)
    (hwhite : ∀ c ∈ white, isWhiteSpace c = true) : Wrapping (white ++ front) := by
  induction white with
  | nil => exact h
  | cons c white ih =>
      refine .white (hwhite c List.mem_cons_self) (ih fun d hd => ?_)
      exact hwhite d (List.mem_cons_of_mem _ hd)

/-- The text is `token` in a wrapping, and white space behind it. -/
def WrappedIn (token cs : List Char) : Prop :=
  ∃ front white, cs = front ++ token ++ white ∧ Wrapping front ∧
    ∀ c ∈ white, isWhiteSpace c = true

theorem trim_cons_white {c : Char} (hc : isWhiteSpace c = true) (cs : List Char) :
    trim (c :: cs) = trim cs := by
  simp [trim, hc]

/-- A text with a character that is no white space is not trimmed away. -/
theorem trim_append_ne_nil {front token white : List Char} (htrimmed : Trimmed token)
    (hne : token ≠ []) : trim (front ++ token ++ white) ≠ [] := by
  intro hnil
  cases token with
  | nil => exact hne rfl
  | cons c token =>
      have hc := trim_eq_nil_iff.1 hnil c (by simp)
      rw [htrimmed.1 c rfl] at hc
      cases hc

/-- The loop takes the whole wrapping away. -/
theorem stripBearer_wrapped {token cs : List Char} (htrimmed : Trimmed token) (hne : token ≠ [])
    (hstart : ¬ StartsWithBearer token) (h : WrappedIn token cs) :
    stripBearer (trim cs) = token := by
  rcases h with ⟨front, white, rfl, hfront, hwhite⟩
  induction hfront with
  | nil =>
      have hfronts : (token ++ white).dropWhile isWhiteSpace = token ++ white := by
        refine dropWhile_of_head fun c hc => htrimmed.1 c ?_
        rwa [List.head?_append_of_ne_nil _ hne] at hc
      have htrim : trim (token ++ white) = token := by
        rw [trim_eq, hfronts, trimEnd_append_white hwhite, trimEnd_of_getLast htrimmed.2]
      rw [List.nil_append, htrim, stripBearer_of_none (afterBearer_eq_none_iff.2 hstart)]
  | @white c front hc _ ih =>
      rw [List.cons_append, List.cons_append, trim_cons_white hc]
      exact ih
  | @bearer word front c hword hc _ ih =>
      have hsplit : word ++ c :: front ++ token ++ white =
          word ++ [c] ++ (front ++ token ++ white) := by
        simp
      have hspace : ∀ d ∈ [c], isWhiteSpace d = true := by
        intro d hd
        rw [List.mem_singleton.1 hd]
        exact hc
      rw [hsplit, stripBearer_prefixed hword (by simp) hspace (trim_append_ne_nil htrimmed hne)]
      exact ih

/-- Trimming takes white space from both ends. -/
theorem exists_trim_append (cs : List Char) : ∃ before after, cs = before ++ trim cs ++ after ∧
    (∀ c ∈ before, isWhiteSpace c = true) ∧ ∀ c ∈ after, isWhiteSpace c = true := by
  rcases exists_trimEnd_append (cs.dropWhile isWhiteSpace) with ⟨after, hparts, hafter⟩
  refine ⟨cs.takeWhile isWhiteSpace, after, ?_, fun c hc => List.mem_takeWhile_imp hc, hafter⟩
  rw [trim_eq, List.append_assoc, ← hparts, List.takeWhile_append_dropWhile]

/-- Whatever the loop leaves, it was wrapped. By induction along the rounds of the loop. -/
theorem wrappedIn_stripBearer (token : List Char) : WrappedIn (stripBearer token) token := by
  induction token using stripBearer.induct with
  | case1 token rest hafter ih =>
      rcases afterBearer_eq_some_iff.1 hafter with ⟨word, c, tail, htoken, hword, hc, hrest⟩
      rcases ih with ⟨front, white, htrim, hfront, hwhite⟩
      rcases exists_trim_append rest with ⟨before, after, hends, hbefore, hafters⟩
      refine ⟨word ++ c :: (tail.takeWhile isWhiteSpace ++ (before ++ front)), white ++ after, ?_,
        .bearer hword hc ?_, ?_⟩
      · rw [stripBearer_of_some hafter]
        calc token = word ++ c :: (tail.takeWhile isWhiteSpace ++ tail.dropWhile isWhiteSpace) := by
              rw [htoken, List.takeWhile_append_dropWhile]
          _ = word ++ c :: (tail.takeWhile isWhiteSpace ++ (before ++
                (front ++ stripBearer (trim rest) ++ white) ++ after)) := by
              rw [← htrim, ← hends, hrest]
          _ = word ++ c :: (tail.takeWhile isWhiteSpace ++ (before ++ front)) ++
                stripBearer (trim rest) ++ (white ++ after) := by
              simp
      · exact (hfront.append_white hbefore).append_white fun d hd => List.mem_takeWhile_imp hd
      · intro d hd
        rcases List.mem_append.1 hd with hd | hd
        · exact hwhite d hd
        · exact hafters d hd
  | case2 token hafter =>
      rw [stripBearer_of_none hafter]
      exact ⟨[], [], by simp, .nil, fun c hc => absurd hc List.not_mem_nil⟩

/-- The headers of a token: the token in a wrapping, and white space behind it. -/
theorem stripBearer_trim_eq_iff {token cs : List Char} (htrimmed : Trimmed token) (hne : token ≠ [])
    (hstart : ¬ StartsWithBearer token) : stripBearer (trim cs) = token ↔ WrappedIn token cs := by
  refine ⟨?_, stripBearer_wrapped htrimmed hne hstart⟩
  rintro rfl
  rcases wrappedIn_stripBearer (trim cs) with ⟨front, white, htrim, hfront, hwhite⟩
  rcases exists_trim_append cs with ⟨before, after, hends, hbefore, hafter⟩
  refine ⟨before ++ front, white ++ after, ?_, hfront.append_white hbefore, ?_⟩
  · calc cs = before ++ (front ++ stripBearer (trim cs) ++ white) ++ after := by
          rw [← htrim, ← hends]
      _ = before ++ front ++ stripBearer (trim cs) ++ (white ++ after) := by
          simp
  · intro d hd
    rcases List.mem_append.1 hd with hd | hd
    · exact hwhite d hd
    · exact hafter d hd

/-! ## Tokens -/

theorem MOCK_TOKEN_PATTERN_iff {token name : List Char} : MOCK_TOKEN_PATTERN token = some name ↔
    token = "mock-".toList ++ name ++ "-token".toList ∧ name ≠ [] ∧
      ∀ c ∈ name, isLineTerminator c = false := by
  constructor
  · intro h
    rcases Option.bind_eq_some_iff.1 h with ⟨rest, hrest, h₁⟩
    rcases Option.bind_eq_some_iff.1 h₁ with ⟨found, hfound, h₂⟩
    rcases List.dropPrefix?_eq_some_iff.1 hrest with ⟨front, rfl, hfront⟩
    rcases List.dropSuffix?_eq_some_iff.1 hfound with ⟨back, rfl, hback⟩
    split at h₂
    · next hname =>
        cases h₂
        rw [eq_of_beq hfront, eq_of_beq hback, ← List.append_assoc]
        exact ⟨rfl, hname.1, by simpa using hname.2⟩
    · cases h₂
  · rintro ⟨rfl, hne, hdots⟩
    have hrest : ("mock-".toList ++ name ++ "-token".toList).dropPrefix? "mock-".toList =
        some (name ++ "-token".toList) := by
      rw [List.append_assoc]
      exact List.dropPrefix?_append_of_beq _ (beq_self_eq_true _)
    have hname : (name ++ "-token".toList).dropSuffix? "-token".toList = some name :=
      List.dropSuffix?_eq_some_iff.2 ⟨_, rfl, beq_self_eq_true _⟩
    have hall : (name.all fun c => !isLineTerminator c) = true := by simpa using hdots
    refine Option.bind_eq_some_iff.2 ⟨_, hrest, Option.bind_eq_some_iff.2 ⟨_, hname, ?_⟩⟩
    exact if_pos ⟨hne, hall⟩

/-- The usernames of the table are all different. -/
theorem findMockUserByUsername_iff {username : String} {user : MockUser} :
    findMockUserByUsername username = some user ↔
      user ∈ MOCK_USERS ∧ user.username = username := by
  have htable : ∀ user ∈ MOCK_USERS, findMockUserByUsername user.username = some user := by decide
  constructor
  · intro h
    exact ⟨List.mem_of_find?_eq_some h, by simpa using List.find?_some h⟩
  · rintro ⟨huser, rfl⟩
    exact htable user huser

/-- A token names one user of the table. -/
theorem findMockUserByToken_iff {token : List Char} {user : MockUser} :
    findMockUserByToken token = some user ↔
      user ∈ MOCK_USERS ∧ token = (accessTokenOf user.username).toList := by
  have htable : ∀ user ∈ MOCK_USERS, user.username.toList ≠ [] ∧
      user.username.toList.all (fun c => !isLineTerminator c) = true := by decide
  have htext : (accessTokenOf user.username).toList =
      "mock-".toList ++ user.username.toList ++ "-token".toList := by
    rw [accessTokenOf, String.toList_append, String.toList_append]
  rw [htext]
  constructor
  · intro h
    rcases Option.bind_eq_some_iff.1 h with ⟨name, hname, hfind⟩
    rcases findMockUserByUsername_iff.1 hfind with ⟨huser, hsame⟩
    have hlist : user.username.toList = name := by rw [hsame, String.toList_ofList]
    rw [hlist]
    exact ⟨huser, (MOCK_TOKEN_PATTERN_iff.1 hname).1⟩
  · rintro ⟨huser, rfl⟩
    rcases htable user huser with ⟨hne, hline⟩
    have hname := MOCK_TOKEN_PATTERN_iff.2 ⟨rfl, hne, by simpa using hline⟩
    rw [findMockUserByToken, hname, Option.bind_some, String.ofList_toList]
    exact findMockUserByUsername_iff.2 ⟨huser, rfl⟩

/-- The tokens of the table are trimmed, and no prefix stands in front of them. -/
theorem accessTokenOf_plain {user : MockUser} (h : user ∈ MOCK_USERS) :
    Trimmed (accessTokenOf user.username).toList ∧ (accessTokenOf user.username).toList ≠ [] ∧
      ¬ StartsWithBearer (accessTokenOf user.username).toList := by
  have htable : ∀ user ∈ MOCK_USERS,
      (accessTokenOf user.username).toList.head?.all (fun c => !isWhiteSpace c) = true ∧
      (accessTokenOf user.username).toList.getLast?.all (fun c => !isWhiteSpace c) = true ∧
      (accessTokenOf user.username).toList ≠ [] ∧
      afterBearer (accessTokenOf user.username).toList = none := by
    decide
  rcases htable user h with ⟨hhead, hlast, hne, hafter⟩
  refine ⟨⟨fun c hc => ?_, fun c hc => ?_⟩, hne, afterBearer_eq_none_iff.1 hafter⟩
  · rw [Option.mem_def.1 hc] at hhead
    simpa using hhead
  · rw [Option.mem_def.1 hc] at hlast
    simpa using hlast

/-! ## Who gets through -/

/-- The header carries the token of the user. -/
def Carries (authorization : Option String) (user : MockUser) : Prop :=
  ∃ header, authorization = some header ∧
    WrappedIn (accessTokenOf user.username).toList header.toList

/-- A blank header stays as it is, and has no token. -/
theorem bearerToken_blank {header : String} (hblank : Blank header) :
    (normalizeBearerMiddleware (some header)).bind bearerToken = none := by
  rw [normalize_blank hblank, Option.bind_some, bearerToken]
  cases hstrip : stripWord "BEARER ".toList header.toList with
  | none => rfl
  | some rest =>
      -- White space has no letters.
      rcases stripWord_eq_some_iff.1 hstrip with ⟨word, hword, hupper⟩
      cases word with
      | nil => cases hupper
      | cons b word =>
          have hb : b.toUpper = 'B' := (List.cons_eq_cons.1 hupper).1
          have hspace := hblank b (by rw [hword]; exact List.mem_cons_self)
          rw [← toUpper_of_isWhiteSpace hspace, hb] at hspace
          cases hspace

/-- Behind the middleware, the guard finds the token that the loop has left. -/
theorem bearerToken_not_blank {header : String} (hblank : ¬ Blank header) :
    (normalizeBearerMiddleware (some header)).bind bearerToken =
      some (stripBearer (trim header.toList)) := by
  have htrimmed := (stripBearer_spec _ (trimmed_trim header.toList) (not_blank_iff.1 hblank)).1
  have hstrip : ∀ token : List Char, stripWord "BEARER ".toList
      ("Bearer " ++ String.ofList token).toList = some token := by
    intro token
    have hlist : (String.ofList token).toList = token := String.toList_ofList
    refine stripWord_eq_some_iff.2 ⟨"Bearer ".toList, ?_, by decide⟩
    rw [String.toList_append, hlist]
  rw [normalize_not_blank hblank, Option.bind_some, bearerToken, hstrip]
  exact congrArg some (trim_of_trimmed htrimmed)

/-- The guard attaches the user whose token the header carries. -/
theorem canActivate_normalized (isPublic : Bool) (authorization : Option String) :
    (∃ user ∈ MOCK_USERS, Carries authorization user ∧
      KeycloakAuthGuard.canActivate isPublic (normalizeBearerMiddleware authorization) =
        .ok (some user.claims)) ∨
    (∀ user ∈ MOCK_USERS, ¬ Carries authorization user) ∧
      KeycloakAuthGuard.canActivate isPublic (normalizeBearerMiddleware authorization) =
        KeycloakAuthGuard.canActivate isPublic none := by
  cases authorization with
  | none =>
      refine .inr ⟨?_, rfl⟩
      rintro user _ ⟨header, hheader, _⟩
      cases hheader
  | some header =>
      have hcarries : ∀ user ∈ MOCK_USERS, Carries (some header) user ↔
          findMockUserByToken (stripBearer (trim header.toList)) = some user := by
        intro user huser
        rcases accessTokenOf_plain huser with ⟨htrimmed, hne, hstart⟩
        rw [findMockUserByToken_iff, stripBearer_trim_eq_iff htrimmed hne hstart]
        constructor
        · rintro ⟨header', hsame, hwrapped⟩
          cases hsame
          exact ⟨huser, hwrapped⟩
        · exact fun h => ⟨header, rfl, h.2⟩
      unfold KeycloakAuthGuard.canActivate
      by_cases hblank : Blank header
      · -- Nothing but white space carries no token.
        rw [bearerToken_blank hblank]
        refine .inr ⟨fun user huser hcarry => ?_, rfl⟩
        have hfind := (hcarries user huser).1 hcarry
        rw [trim_eq_nil_iff.2 hblank, stripBearer_of_none rfl] at hfind
        cases hfind
      · have hne := (stripBearer_spec _ (trimmed_trim header.toList) (not_blank_iff.1 hblank)).2.1
        rw [bearerToken_not_blank hblank]
        simp only [if_neg hne]
        cases hfind : findMockUserByToken (stripBearer (trim header.toList)) with
        | some user =>
            have huser := (findMockUserByToken_iff.1 hfind).1
            exact .inl ⟨user, huser, (hcarries user huser).2 hfind, rfl⟩
        | none =>
            refine .inr ⟨fun user huser hcarry => ?_, rfl⟩
            rw [(hcarries user huser).1 hcarry] at hfind
            cases hfind

/-- Only one user's token is in a header. -/
theorem Carries.unique {authorization : Option String} {user user' : MockUser}
    (h : user ∈ MOCK_USERS) (h' : user' ∈ MOCK_USERS) (hcarry : Carries authorization user)
    (hcarry' : Carries authorization user') : user = user' := by
  have hinjective : ∀ user ∈ MOCK_USERS, ∀ user' ∈ MOCK_USERS,
      accessTokenOf user.username = accessTokenOf user'.username → user = user' := by
    decide
  rcases hcarry with ⟨header, rfl, hwrapped⟩
  rcases hcarry' with ⟨header', hsame, hwrapped'⟩
  cases hsame
  rcases accessTokenOf_plain h with ⟨htrimmed, hne, hstart⟩
  rcases accessTokenOf_plain h' with ⟨htrimmed', hne', hstart'⟩
  refine hinjective user h user' h' (String.toList_inj.1 ?_)
  exact (stripBearer_wrapped htrimmed hne hstart hwrapped).symm.trans
    (stripBearer_wrapped htrimmed' hne' hstart' hwrapped')

/-- The roles that a handler asks for: none, or one of the caller's. -/
theorem rolesGuard_claims (user : MockUser) (roles : List String) :
    RolesGuard.canActivate (Auth roles) (some user.claims) = .ok true ↔
      roles = [] ∨ ∃ role ∈ roles, role ∈ user.roles := by
  rw [rolesGuard_Auth, rolesGuard_any]
  refine or_congr_right ?_
  simp only [List.any_eq_true, List.contains_iff_mem, MockUser.claims, Option.getD_some]
  exact ⟨fun ⟨role, h, h'⟩ => ⟨role, h', h⟩, fun ⟨role, h, h'⟩ => ⟨role, h', h⟩⟩

/-- A guard lets a request through or throws. -/
theorem rolesGuard_ok_or_error (roleMetadata : Option RoleMetadata) (user : Option Actor) :
    RolesGuard.canActivate roleMetadata user = .ok true ∨
      RolesGuard.canActivate roleMetadata user =
        .error (.forbidden "Mock user does not have the required role") := by
  cases roleMetadata with
  | none => exact .inl rfl
  | some roleMetadata =>
      by_cases hnil : roleMetadata.roles.length = 0
      · exact .inl (if_pos hnil)
      · simp only [RolesGuard.canActivate, if_neg hnil]
        exact (ite_eq_or_eq _ _ _).symm

/-- With a user's token, the roles decide. -/
theorem throughGuards_carried {isPublic : Bool} {roles : List String}
    {authorization : Option String} {user : MockUser} (huser : user ∈ MOCK_USERS)
    (hcarry : Carries authorization user) (actor : Option Actor) :
    throughGuards isPublic (Auth roles) authorization = .ok actor ↔
      actor = some user.claims ∧ (roles = [] ∨ ∃ role ∈ roles, role ∈ user.roles) := by
  rcases canActivate_normalized isPublic authorization with ⟨user', huser', hcarry', hguard⟩ |
    ⟨hnone, _⟩
  · cases Carries.unique huser huser' hcarry hcarry'
    rw [throughGuards, hguard, ← rolesGuard_claims]
    change (RolesGuard.canActivate (Auth roles) (some user.claims) >>= fun _ =>
      .ok (some user.claims)) = .ok actor ↔ _
    rcases rolesGuard_ok_or_error (Auth roles) (some user.claims) with hroles | hroles
    · rw [hroles]
      change Except.ok (some user.claims) = .ok actor ↔ _
      simp [eq_comm]
    · rw [hroles]
      change (.error _ : Except HttpError (Option Actor)) = .ok actor ↔ _
      simp
  · exact absurd hcarry (hnone user huser)

/-- Without one, nobody is attached, and only a public handler without roles is reached. -/
theorem throughGuards_uncarried {isPublic : Bool} {roles : List String}
    {authorization : Option String} (hnone : ∀ user ∈ MOCK_USERS, ¬ Carries authorization user)
    (actor : Option Actor) :
    throughGuards isPublic (Auth roles) authorization = .ok actor ↔
      actor = none ∧ isPublic = true ∧ roles = [] := by
  rcases canActivate_normalized isPublic authorization with ⟨user, huser, hcarry, _⟩ |
    ⟨_, hguard⟩
  · exact absurd hcarry (hnone user huser)
  · rw [throughGuards, hguard]
    cases isPublic with
    | false =>
        constructor
        · intro h
          cases h
        · rintro ⟨_, hpublic, _⟩
          cases hpublic
    | true =>
        change (RolesGuard.canActivate (Auth roles) none >>= fun _ =>
          (.ok none : Except HttpError (Option Actor))) = .ok actor ↔ _
        cases roles with
        | nil =>
            change Except.ok none = .ok actor ↔ _
            simp [eq_comm]
        | cons role roles =>
            have hroles : RolesGuard.canActivate (Auth (role :: roles)) none =
                .error (.forbidden "Mock user does not have the required role") := by
              simp [RolesGuard.canActivate, Auth, anyOf]
            rw [hroles]
            constructor
            · intro h
              cases h
            · rintro ⟨_, _, hnil⟩
              cases hnil

/-- A handler is reached as a user of the table exactly if the header is the user's token in a
wrapping and the user has one of the roles asked for, if any are. Without such a token, a public
handler that asks for no roles is reached as nobody, and all others are refused. -/
theorem throughGuards_iff (isPublic : Bool) (roles : List String) (authorization : Option String) :
    (∀ actor, throughGuards isPublic (Auth roles) authorization = .ok (some actor) ↔
      ∃ user ∈ MOCK_USERS, Carries authorization user ∧ actor = user.claims ∧
        (roles = [] ∨ ∃ role ∈ roles, role ∈ user.roles)) ∧
    (throughGuards isPublic (Auth roles) authorization = .ok none ↔
      isPublic = true ∧ roles = [] ∧ ∀ user ∈ MOCK_USERS, ¬ Carries authorization user) := by
  by_cases hcarried : ∃ user ∈ MOCK_USERS, Carries authorization user
  · rcases hcarried with ⟨user, huser, hcarry⟩
    refine ⟨fun actor => ?_, ?_⟩
    · rw [throughGuards_carried huser hcarry, Option.some.injEq]
      constructor
      · exact fun h => ⟨user, huser, hcarry, h⟩
      · rintro ⟨user', huser', hcarry', h⟩
        rw [Carries.unique huser huser' hcarry hcarry']
        exact h
    · rw [throughGuards_carried huser hcarry]
      constructor
      · rintro ⟨hsome, _⟩
        cases hsome
      · exact fun h => absurd hcarry (h.2.2 user huser)
  · have hnone : ∀ user ∈ MOCK_USERS, ¬ Carries authorization user :=
      fun user huser hcarry => hcarried ⟨user, huser, hcarry⟩
    refine ⟨fun actor => ?_, ?_⟩
    · rw [throughGuards_uncarried hnone]
      constructor
      · rintro ⟨hsome, _⟩
        cases hsome
      · rintro ⟨user, huser, hcarry, _⟩
        exact absurd hcarry (hnone user huser)
    · rw [throughGuards_uncarried hnone]
      exact ⟨fun h => ⟨h.2.1, h.2.2, hnone⟩, fun h => ⟨rfl, h.1, h.2.1⟩⟩

/-- A token that somebody has logged in with lets its own user in, in whatever wrapping it is sent,
and nobody else; a refresh token lets nobody in. -/
theorem login_admitted {dto : LoginDto} {response : TokenResponseDto}
    (h : KeycloakService.mockLogin dto = .ok response) (roles : List String) {header : String} :
    (WrappedIn response.accessToken.toList header.toList →
      ∀ actor, throughGuards false (Auth roles) (some header) = .ok (some actor) ↔
        ∃ user ∈ MOCK_USERS, user.username = dto.username ∧ user.password = dto.password ∧
          actor = user.claims ∧ (roles = [] ∨ ∃ role ∈ roles, role ∈ user.roles)) ∧
    (WrappedIn response.refreshToken.toList header.toList →
      ∀ actor, throughGuards false (Auth roles) (some header) ≠ .ok actor) := by
  unfold KeycloakService.mockLogin at h
  split at h
  · cases h
  · next user hfind =>
      split at h
      · cases h
      · next hpassword =>
          cases h
          rcases findMockUserByUsername_iff.1 hfind with ⟨huser, hname⟩
          have hsame : user.password = dto.password := not_not.1 hpassword
          refine ⟨fun hwrapped actor => ?_, fun hwrapped actor hok => ?_⟩
          · have hcarry : Carries (some header) user := ⟨header, rfl, hwrapped⟩
            rw [throughGuards_carried huser hcarry, Option.some.injEq]
            constructor
            · exact fun hrest => ⟨user, huser, hname, hsame, hrest⟩
            · rintro ⟨user', huser', hname', _, hrest⟩
              have hfind' := findMockUserByUsername_iff.2 ⟨huser', hname'⟩
              rw [hfind] at hfind'
              cases hfind'
              exact hrest
          · -- A refresh token is no access token, and none is left of its wrapping.
            have hrefresh : ∀ user ∈ MOCK_USERS,
                ("mock-" ++ user.username ++ "-refresh").toList.head?.all
                    (fun c => !isWhiteSpace c) = true ∧
                ("mock-" ++ user.username ++ "-refresh").toList.getLast?.all
                    (fun c => !isWhiteSpace c) = true ∧
                ("mock-" ++ user.username ++ "-refresh").toList ≠ [] ∧
                afterBearer ("mock-" ++ user.username ++ "-refresh").toList = none ∧
                ∀ user' ∈ MOCK_USERS, "mock-" ++ user.username ++ "-refresh" ≠
                  accessTokenOf user'.username := by
              decide
            rcases hrefresh user huser with ⟨hhead, hlast, hne, hafter, hother⟩
            have htrimmed : Trimmed ("mock-" ++ user.username ++ "-refresh").toList := by
              refine ⟨fun c hc => ?_, fun c hc => ?_⟩
              · rw [Option.mem_def.1 hc] at hhead
                simpa using hhead
              · rw [Option.mem_def.1 hc] at hlast
                simpa using hlast
            have hstrip :=
              stripBearer_wrapped htrimmed hne (afterBearer_eq_none_iff.1 hafter) hwrapped
            have hnobody : ∀ user' ∈ MOCK_USERS, ¬ Carries (some header) user' := by
              rintro user' huser' ⟨header', hheader, hwrapped'⟩
              cases hheader
              rcases accessTokenOf_plain huser' with ⟨htrimmed', hne', hstart'⟩
              have hstrip' := stripBearer_wrapped htrimmed' hne' hstart' hwrapped'
              exact hother user' huser' (String.toList_inj.1 (hstrip.symm.trans hstrip'))
            cases ((throughGuards_uncarried hnobody actor).1 hok).2.1

theorem login_admitted_customer :
    throughGuards false (Auth ["RETAIL_CUSTOMER"]) (some "bearer mock-mock-customer-token") =
      .ok (some ⟨some "00000000-0000-0000-0000-000000000007", some ["RETAIL_CUSTOMER"], none⟩) :=
  ((@login_admitted ⟨"mock-customer", "Mock@123"⟩ _ rfl ["RETAIL_CUSTOMER"]
      "bearer mock-mock-customer-token").1
    ⟨"bearer ".toList, [], by decide,
      @Wrapping.bearer "bearer".toList [] ' ' (by decide) (by decide) .nil,
      fun c hc => absurd hc List.not_mem_nil⟩ _).2 (by decide)

end Common
end IdentityBillpay
