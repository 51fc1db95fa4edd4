import OidcMiddleware.Handler

/-!
# The stages of `parseToken`

One spec lemma for each stage, stating exactly when it succeeds and with what; the
theorems about `parseToken` are assembled from these and never unfold a stage. A stage
changes the handler only by `loadJwks`, which sets the jwks uri and the key handler.
-/

namespace OidcMiddleware

section
variable {σ κ V C : Type}

theorem loadJwks_handler (remote : Remote σ κ) (h : Handler κ V) (w : σ) :
    ∃ jwksUri keyHandler, (loadJwks remote h w).2.1 = { h with jwksUri := jwksUri, keyHandler := keyHandler } := by
  unfold loadJwks
  split
  · exact ⟨h.jwksUri, h.keyHandler, rfl⟩
  · split
    · exact ⟨_, h.keyHandler, rfl⟩
    · exact ⟨_, _, rfl⟩

end

section
variable {σ κ V C : Type} (env : Env σ κ V C)

theorem loadedKeyHandler_eq_ok {h h' : Handler κ V} {w w' : σ} {kh : κ} :
    loadedKeyHandler env h w = (.ok kh, h', w') ↔
      h.keyHandler = some kh ∧ h' = h ∧ w' = w ∨
      h.keyHandler = none ∧ loadJwks env.toRemote h w = (.ok kh, h', w') := by
  unfold loadedKeyHandler
  cases hk : h.keyHandler with
  | some kh₀ => simp [eq_comm]
  | none =>
    rcases hl : loadJwks env.toRemote h w with ⟨_ | kh₀, h₀, w₀⟩ <;> simp

theorem loadedKeyHandler_handler (h : Handler κ V) (w : σ) :
    ∃ jwksUri keyHandler,
      (loadedKeyHandler env h w).2.1 = { h with jwksUri := jwksUri, keyHandler := keyHandler } := by
  unfold loadedKeyHandler
  split
  · exact ⟨h.jwksUri, h.keyHandler, rfl⟩
  · obtain ⟨jwksUri, keyHandler, hh⟩ := loadJwks_handler env.toRemote h w
    refine ⟨jwksUri, keyHandler, ?_⟩
    split <;> rename_i heq <;> simpa [heq] using hh

theorem keyIDOf_eq_ok {h : Handler κ V} {tokenString keyID : String} :
    keyIDOf env h tokenString = .ok keyID ↔
      if h.disableKeyID then keyID = "" else
        ∃ msg signature, env.parseString tokenString = .ok msg ∧ msg.signatures = [signature] ∧
          signature.protectedHeaders.keyID = keyID ∧ keyID ≠ "" := by
  unfold keyIDOf
  cases h.disableKeyID
  · simp only [Bool.false_eq_true, if_false, getKeyIDFromTokenString, getHeaderFromTokenString_eq_ok]
  · simp [eq_comm]

theorem selectKey_eq_ok {h : Handler κ V} {kh : κ} {ctx : Context} {tokenString : String} {w w' : σ} {key : Key} {alg : String} :
    selectKey env h kh ctx tokenString w = (.ok (key, alg), w') ↔
      isTokenTypeValid env.toJwx h.requiredTokenType tokenString = true ∧
      ∃ keyID, keyIDOf env h tokenString = .ok keyID ∧ env.getKey kh ctx keyID w = (.ok key, w') ∧
        getSignatureAlgorithm env.toJwx key.keyType key.algorithm h.fallbackSignatureAlgorithm = .ok alg := by
  constructor
  · intro hs
    unfold selectKey at hs
    cases hv : isTokenTypeValid env.toJwx h.requiredTokenType tokenString
    · simp [hv] at hs
    simp only [hv, Bool.not_true, Bool.false_eq_true, if_false] at hs
    split at hs; · cases hs
    split at hs; · cases hs
    split at hs; · cases hs
    cases hs
    exact ⟨rfl, _, ‹_›, ‹_›, ‹_›⟩
  · rintro ⟨hv, keyID, hi, hg, ha⟩
    simp [selectKey, hv, hi, hg, ha]

theorem retryKey_eq_ok {h : Handler κ V} {kh : κ} {ctx : Context} {key updatedKey : Key} {w w' : σ} {alg : String} :
    retryKey env h kh ctx key w = (.ok (updatedKey, alg), w') ↔
      env.waitForUpdateKeySetAndGetKey kh ctx w = (.ok updatedKey, w') ∧
        getSignatureAlgorithm env.toJwx key.keyType key.algorithm h.fallbackSignatureAlgorithm = .ok alg := by
  unfold retryKey
  rcases env.waitForUpdateKeySetAndGetKey kh ctx w with ⟨_ | key₀, w₀⟩
  · simp
  · cases getSignatureAlgorithm env.toJwx key.keyType key.algorithm h.fallbackSignatureAlgorithm <;>
      simp [and_comm, and_left_comm, and_assoc]

theorem verifyToken_eq_ok {h : Handler κ V} {kh : κ} {ctx : Context} {tokenString : String} {key : Key} {alg : String} {w w' : σ} {token : Token} :
    verifyToken env h kh ctx tokenString key alg w = (.ok token, w') ↔
      getAndValidateTokenFromString env.toJwx tokenString key alg = .ok token ∧ w = w' ∨
      ∃ err, getAndValidateTokenFromString env.toJwx tokenString key alg = .error err ∧
        h.disableKeyID = true ∧ errorsIs err errSignatureVerification = true ∧
        ∃ updatedKey alg', retryKey env h kh ctx key w = (.ok (updatedKey, alg'), w') ∧
          getAndValidateTokenFromString env.toJwx tokenString updatedKey alg' = .ok token := by
  unfold verifyToken
  cases getAndValidateTokenFromString env.toJwx tokenString key alg with
  | ok t => simp
  | error err =>
    cases hd : h.disableKeyID
    · simp
    cases he : errorsIs err errSignatureVerification
    · simp [he]
    rcases retryKey env h kh ctx key w with ⟨_ | ⟨updatedKey, alg'⟩, w₀⟩ <;> simp [he, and_assoc, and_comm]
theorem validateToken_eq_ok {h : Handler κ V} {ctx : Context} {now : Int} {order : RangeOrder V}
    {token t : Token} :
    validateToken env h ctx now order token = .ok t ↔
      token = t ∧ now < token.expiration + h.allowedTokenDrift ∧
      (h.issuer ≠ "" ∧ token.issuer = h.issuer) ∧
      (h.requiredAudience = "" ∨ h.requiredAudience ∈ token.audience) ∧
      ∀ requiredClaims, h.requiredClaims = some requiredClaims →
        ∃ tokenClaims, env.asMap token ctx = .ok tokenClaims ∧
          isRequiredClaimsValid env.toCty order requiredClaims tokenClaims = .ok () := by
  constructor
  · intro hv
    unfold validateToken at hv
    split_ifs at hv with he hi ha
    simp only [isTokenExpirationValid_eq, isTokenIssuerValid_eq, isTokenAudienceValid_eq,
      Bool.not_eq_true', decide_eq_false_iff_not, not_not] at he hi ha
    split at hv
    · cases hv
      exact ⟨rfl, he, hi, ha, fun _ hr => by simp_all⟩
    · split at hv; · cases hv
      split at hv; · cases hv
      cases hv
      exact ⟨rfl, he, hi, ha, fun _ hr => by simp_all⟩
  · rintro ⟨rfl, he, hi, ha, hc⟩
    cases hr : h.requiredClaims with
    | none => simp [validateToken, he, hi, ha, hr]
    | some requiredClaims =>
      obtain ⟨tokenClaims, hm, hv⟩ := hc requiredClaims hr
      simp [validateToken, he, hi, ha, hr, hm, hv]

theorem parseToken_eq_ok {h h' : Handler κ V} {ctx : Context} {tokenString : String} {now : Int}
    {order : RangeOrder V} {w w' : σ} {t : Token} :
    parseToken env h ctx tokenString now order w = (.ok t, h', w') ↔
      ∃ kh w₁ key alg w₂, loadedKeyHandler env h w = (.ok kh, h', w₁) ∧
        selectKey env h' kh ctx tokenString w₁ = (.ok (key, alg), w₂) ∧
        verifyToken env h' kh ctx tokenString key alg w₂ = (.ok t, w') ∧
        validateToken env h' ctx now order t = .ok t := by
  constructor
  · intro hp
    unfold parseToken at hp
    split at hp; · cases hp
    split at hp; · cases hp
    split at hp; · cases hp
    simp only [Prod.mk.injEq] at hp
    obtain ⟨hp, rfl, rfl⟩ := hp
    obtain rfl := ((validateToken_eq_ok env).mp hp).1
    exact ⟨_, _, _, _, _, ‹_›, ‹_›, ‹_›, hp⟩
  · rintro ⟨kh, w₁, key, alg, w₂, hl, hs, hv, hp⟩
    simp [parseToken, hl, hs, hv, hp]

/-! ## The library's verification as an oracle -/

end

end OidcMiddleware
