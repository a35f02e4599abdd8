import ClusterCache.Connection.UserAgent
import ClusterCache.Text.Base64
import ClusterCache.Yaml.Value

/-!
# Credentials

How a user of a cluster is known to it. Whatever lies in files or comes from other programs is not
at hand, so credentials of that sort are of no use. Of several sorts only the first that is given
counts: a provider of tokens, a name and a password, a token, a file with a token, a program.
-/

namespace ClusterCache

open Yaml (Value)

/-- Data that are given in base64, or else in a file. -/
structure Material where
  encoded : Option String
  file : Option String
deriving DecidableEq, Repr

namespace Material

def bytes? (material : Material) : Option (List UInt8) :=
  material.encoded.bind fun text => Text.Base64.decode? text.toList

def isAbsent (material : Material) : Bool := material.encoded.isNone && material.file.isNone

def ofFields? (fields : List (String × Value)) (name : String) : Option Material := do
  return { encoded := ← Value.optionalField? fields (name ++ "-data") Value.string?
           file := ← Value.optionalField? fields name Value.string? }

end Material

structure TokenProvider where
  name : String
  hasIdToken : Bool
deriving DecidableEq, Repr

namespace TokenProvider

def ofValue? (value : Value) : Option TokenProvider := do
  let fields ← value.fields?
  let name ← (← Value.field? fields "name" Value.string?)
  let settings ← Value.field? fields "config" fun config => do
    (← config.fields?).mapM fun (name, value) => do return (name, ← value.string?)
  return { name, hasIdToken := (settings.getD []).any fun setting => setting.1 = "id-token" }

def isUsable (provider : TokenProvider) : Bool :=
  (provider.name = "oidc" || provider.name = "gcp") && provider.hasIdToken

end TokenProvider

structure Credentials where
  provider : Option TokenProvider
  username : Option String
  password : Option String
  token : Option String
  tokenFile : Option String
  hasProgram : Bool
  certificate : Material
  key : Material
  /-- Whom the user stands in for, and groups of theirs. -/
  impersonated : List String
deriving DecidableEq, Repr

namespace Credentials

def anonymous : Credentials :=
  { provider := none, username := none, password := none, token := none, tokenFile := none,
    hasProgram := false, certificate := ⟨none, none⟩, key := ⟨none, none⟩, impersonated := [] }

def interaction? (value : Value) : Option Unit := do
  let name ←
    match value with
    | .string name => some name
    | .tagged name content =>
        match content.untagged with
        | .null => some name
        | _ => none
    | _ => none
  guard (name = "Never" || name = "IfAvailable" || name = "Always")

def texts? (value : Value) : Option Unit := do
  let _ ← (← value.fields?).mapM fun field => field.2.string?

/-- Checks the form of a program that hands out credentials. -/
def program? (value : Value) : Option Unit := do
  let fields ← value.fields?
  let _ ← Value.optionalField? fields "apiVersion" Value.string?
  let _ ← Value.optionalField? fields "command" Value.string?
  let _ ← Value.optionalField? fields "args" (Value.list? Value.string?)
  let _ ← Value.optionalField? fields "env" (Value.list? texts?)
  let _ ← Value.optionalField? fields "interactiveMode" interaction?
  let _ ← Value.field? fields "provideClusterInfo" Value.bool?

def ofValue? (value : Value) : Option Credentials := do
  let fields ← value.fields?
  let text (name : String) : Option (Option String) :=
    Value.optionalField? fields name Value.string?
  let groups ← Value.optionalField? fields "as-groups" (Value.list? Value.string?)
  return { provider := ← Value.optionalField? fields "auth-provider" TokenProvider.ofValue?
           username := ← text "username"
           password := ← text "password"
           token := ← text "token"
           tokenFile := ← text "tokenFile"
           hasProgram := (← Value.optionalField? fields "exec" program?).isSome
           certificate := ← Material.ofFields? fields "client-certificate"
           key := ← Material.ofFields? fields "client-key"
           impersonated := (← text "as").toList ++ groups.getD [] }

/-- The token or whatever else goes along with requests is at hand, or there is none. -/
def isAuthorized (credentials : Credentials) : Bool :=
  match credentials.provider with
  | some provider => provider.isUsable
  | none =>
      (credentials.username.isSome && credentials.password.isSome) || credentials.token.isSome
        || (credentials.tokenFile.isNone && !credentials.hasProgram)

def hasIdentity (credentials : Credentials) : Bool :=
  credentials.certificate.bytes?.isSome && credentials.key.bytes?.isSome

/-- Requests can be made with the credentials. No certificates are understood here. -/
def areUsable (credentials : Credentials) : Bool :=
  !credentials.hasIdentity && credentials.isAuthorized
    && credentials.impersonated.all UserAgent.isHeaderValue

end Credentials

end ClusterCache
