import OidcMiddleware.Go

/-!
# Keys, tokens, and what the package reads of them

The `jwx` library parses and verifies; it is a parameter (`Jwx`), and everything proved
holds for every behaviour of it. On top of it sit the package's own readers: the
protected header of the token's one signature, its key id and type, the signature
algorithm for a key, and verification, which turns the library's signature failure into
the sentinel `errSignatureVerification`.
-/

namespace OidcMiddleware

structure Key where
  keyType : String
  algorithm : String
  keyID : String
  material : String
  deriving DecidableEq, Repr

structure Headers where
  keyID : String
  type : String
  deriving DecidableEq, Repr

structure Signature where
  protectedHeaders : Headers
  deriving DecidableEq, Repr

structure Message where
  signatures : List Signature
  deriving DecidableEq, Repr

/-- A `jwt.Token`, by the claims the validator reads; `payload` stands for the rest. -/
structure Token where
  issuer : String
  audience : List String
  expiration : Int
  payload : String
  deriving DecidableEq, Repr

/-- The functions of `jwx` the package calls; their errors are known by their text. -/
structure Jwx (V : Type) where
  parseString : String → Except String Message
  parseVerified : String → String → Key → Except String Token
  accept : String → Except String String
  asMap : Token → Context → Except String (GoMap V)

section
variable {V : Type} (jwx : Jwx V)

def getHeadersFromTokenString (tokenString : String) : Except Error Headers :=
  match jwx.parseString tokenString with
  | .error err => .error (.wrapf "unable to parse tokenString: %w" [] (.lib err))
  | .ok msg =>
    match msg.signatures with
    | [signature] => .ok signature.protectedHeaders
    | _ => .error (.errorf "more than one signature in token" [])

/-- A field of the protected header that must be set: `getKeyIDFromTokenString` and
`getTokenTypeFromTokenString` differ only in the field and the message. -/
def getHeaderFromTokenString (field : Headers → String) (missing tokenString : String) :
    Except Error String :=
  match getHeadersFromTokenString jwx tokenString with
  | .error err => .error err
  | .ok headers => if field headers = "" then .error (.errorf missing []) else .ok (field headers)

def getKeyIDFromTokenString (tokenString : String) : Except Error String :=
  getHeaderFromTokenString jwx Headers.keyID "token header does not contain key id (kid)" tokenString

def getTokenTypeFromTokenString (tokenString : String) : Except Error String :=
  getHeaderFromTokenString jwx Headers.type "token header does not contain type (typ)" tokenString

def getSignatureAlgorithmFromString (s : String) : Except Error String :=
  match jwx.accept s with
  | .error err => .error (.lib err)
  | .ok alg => .ok alg

def getSignatureAlgorithm (kty keyAlg fallbackAlg : String) : Except Error String :=
  if keyAlg ≠ "" then getSignatureAlgorithmFromString jwx keyAlg
  else if fallbackAlg ≠ "" then .ok fallbackAlg
  else if kty = "RSA" then .ok "RS256"
  else if kty = "EC" then .ok "ES256"
  else .error (.errorf "unable to get signature algorithm with kty=%s, alg=%s, fallbackAlg=%s"
    [.str kty, .str keyAlg, .str fallbackAlg])

def getAndValidateTokenFromString (tokenString : String) (key : Key) (alg : String) :
    Except Error Token :=
  match jwx.parseVerified tokenString alg key with
  | .error err =>
    if stringsContains err signatureVerificationText then .error errSignatureVerification
    else .error (.lib err)
  | .ok token => .ok token

/-! ## Spec lemmas -/

theorem getHeaderFromTokenString_eq_ok {field : Headers → String} {missing tokenString v : String} :
    getHeaderFromTokenString jwx field missing tokenString = .ok v ↔
      ∃ msg signature, jwx.parseString tokenString = .ok msg ∧ msg.signatures = [signature] ∧
        field signature.protectedHeaders = v ∧ v ≠ "" := by
  unfold getHeaderFromTokenString getHeadersFromTokenString
  cases jwx.parseString tokenString with
  | error err => simp
  | ok msg =>
    obtain ⟨signatures⟩ := msg
    match signatures with
    | [signature] =>
      by_cases hf : field signature.protectedHeaders = "" <;> simp [hf, eq_comm]
      rintro rfl; exact hf
    | [] => simp
    | _ :: _ :: _ => simp

theorem getAndValidateTokenFromString_signature {tokenString : String} {key : Key} {alg : String} :
    (∃ err, getAndValidateTokenFromString jwx tokenString key alg = .error err ∧
      errorsIs err errSignatureVerification = true) ↔
    ∃ msg, jwx.parseVerified tokenString alg key = .error msg ∧
      stringsContains msg signatureVerificationText = true := by
  unfold getAndValidateTokenFromString
  cases jwx.parseVerified tokenString alg key with
  | ok token => simp
  | error msg =>
    cases hs : stringsContains msg signatureVerificationText <;>
      simp [hs, errorsIs, errSignatureVerification]

end

end OidcMiddleware
