import OidcMiddleware.Jwx

/-!
# The policy gates

The checks `ParseToken` makes of a verified token: audience membership, expiry with the
allowed drift, the issuer (never passed when none is configured), and the type in the
token's protected header. Each is given its meaning as a proposition.
-/

namespace OidcMiddleware

def isTokenAudienceValid (requiredAudience : String) (audiences : List String) : Bool :=
  if requiredAudience = "" then true else audiences.any (· == requiredAudience)

/-- `expiration.Round(0).Add(allowedDrift).After(time.Now())`, the clock reading `now`. -/
def isTokenExpirationValid (expiration allowedDrift now : Int) : Bool :=
  decide (now < expiration + allowedDrift)

def isTokenIssuerValid (requiredIssuer tokenIssuer : String) : Bool :=
  if requiredIssuer = "" then false else tokenIssuer == requiredIssuer

def isTokenTypeValid {V : Type} (jwx : Jwx V) (requiredTokenType tokenString : String) : Bool :=
  if requiredTokenType = "" then true
  else
    match getTokenTypeFromTokenString jwx tokenString with
    | .error _ => false
    | .ok tokenType => tokenType == requiredTokenType

@[simp] theorem isTokenAudienceValid_eq (requiredAudience : String) (audiences : List String) :
    isTokenAudienceValid requiredAudience audiences =
      decide (requiredAudience = "" ∨ requiredAudience ∈ audiences) := by
  unfold isTokenAudienceValid
  rw [Bool.eq_iff_iff]
  by_cases h : requiredAudience = "" <;> simp [h]

@[simp] theorem isTokenExpirationValid_eq (expiration allowedDrift now : Int) :
    isTokenExpirationValid expiration allowedDrift now = decide (now < expiration + allowedDrift) :=
  rfl

@[simp] theorem isTokenIssuerValid_eq (requiredIssuer tokenIssuer : String) :
    isTokenIssuerValid requiredIssuer tokenIssuer =
      decide (requiredIssuer ≠ "" ∧ tokenIssuer = requiredIssuer) := by
  unfold isTokenIssuerValid
  rw [Bool.eq_iff_iff]
  by_cases h : requiredIssuer = "" <;> simp [h]

@[simp] theorem isTokenTypeValid_eq_true {V : Type} {jwx : Jwx V} {requiredTokenType tokenString : String} :
    isTokenTypeValid jwx requiredTokenType tokenString = true ↔
      requiredTokenType = "" ∨
        ∃ msg signature, jwx.parseString tokenString = .ok msg ∧ msg.signatures = [signature] ∧
          signature.protectedHeaders.type = requiredTokenType := by
  unfold isTokenTypeValid
  by_cases hr : requiredTokenType = ""
  · simp [hr]
  · have typed : (match getTokenTypeFromTokenString jwx tokenString with
        | .error _ => false | .ok tokenType => tokenType == requiredTokenType) = true ↔
        getTokenTypeFromTokenString jwx tokenString = .ok requiredTokenType := by
      cases getTokenTypeFromTokenString jwx tokenString <;> simp
    rw [if_neg hr, typed]
    simp [hr, getTokenTypeFromTokenString, getHeaderFromTokenString_eq_ok]

end OidcMiddleware
