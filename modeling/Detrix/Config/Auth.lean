/-
**The authentication section of the configuration.**

Its modes, the users with static tokens, the settings for JSON web tokens, and the check that it
passes before it is used.
-/

import Detrix.Library.Text

namespace Detrix.Config

open Library

inductive AuthMode where
  | disabled | simple | external
  deriving DecidableEq

inductive UserRole where
  | admin | user

/-- `StaticUser`; the hash of the token is computed from it. -/
structure StaticUser where
  token : String
  userId : String
  role : UserRole

structure JwtConfig where
  jwksUrl : Option String
  issuer : Option String
  audience : Option String
  cacheTtlSeconds : Nat
  adminRoleClaim : Option String
  adminRoleValue : Option String

def JwtConfig.default : JwtConfig := ⟨none, none, none, 300, none, none⟩

structure AuthConfig where
  mode : Option AuthMode
  users : List StaticUser
  jwt : JwtConfig
  /-- The old `bearer_token`, if the file still has it. -/
  bearerTokenDeprecated : Option String

namespace AuthConfig

def default : AuthConfig := ⟨none, [], .default, none⟩

def effectiveMode (config : AuthConfig) : AuthMode := config.mode.getD .disabled

/-- `find_user_by_token`: all users are compared, and the last one that matches is taken. -/
def findUserByToken (config : AuthConfig) (digest : String → String) (token : String) :
    Option StaticUser :=
  config.users.foldl (fun found user => if digest token = digest user.token then some user else found)
    none

def minTokenLen : Nat := 16

def maxTokenLen : Nat := 512

/-- The loop over the users, with the tokens and ids that were seen. -/
def validateUsers (i : Nat) (tokens ids : List String) : List StaticUser → Except String Unit
  | [] => .ok ()
  | user :: rest =>
    let place := "api.auth.users[" ++ toString i ++ "]."
    let length := Text.byteLength user.token.toList
    if user.token = "" then .error (place ++ "token cannot be empty")
    else if length < minTokenLen then
      .error (place ++ "token is too short (minimum " ++ toString minTokenLen ++ " characters)")
    else if maxTokenLen < length then
      .error (place ++ "token exceeds maximum length of " ++ toString maxTokenLen ++ " characters")
    else if user.userId = "" then .error (place ++ "user_id cannot be empty")
    else if user.token ∈ tokens then
      .error (place ++ "token is a duplicate (tokens must be unique)")
    else if user.userId ∈ ids then
      .error (place ++ "user_id '" ++ user.userId ++ "' is a duplicate (user_ids must be unique)")
    else validateUsers (i + 1) (user.token :: tokens) (user.userId :: ids) rest

def validate (config : AuthConfig) : Except String Unit :=
  if config.bearerTokenDeprecated.isSome && config.users.isEmpty then
    .error ("Config error: 'bearer_token' is no longer supported. " ++
      "Use [[api.auth.users]] instead. See CHANGELOG.md.")
  else match config.effectiveMode with
    | .disabled => .ok ()
    | .simple =>
      if config.users.isEmpty then
        .error "api.auth.users must contain at least one user in simple mode"
      else validateUsers 0 [] [] config.users
    | .external =>
      if config.jwt.jwksUrl.isNone then
        .error "api.auth.jwt.jwks_url is required in external mode"
      else if config.jwt.adminRoleClaim.isSome ≠ config.jwt.adminRoleValue.isSome then
        .error ("api.auth.jwt.admin_role_claim and admin_role_value must both be set or " ++
          "both be omitted")
      else .ok ()

end AuthConfig

end Detrix.Config
