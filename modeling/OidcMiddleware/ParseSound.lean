import OidcMiddleware.Pipeline

/-!
# Soundness and completeness of `parseToken`

`Admitted` states, without reference to the code, what the validator promises of a token
it accepts: one field for each gate of `ParseToken`. `parseToken_sound`: an accepted token
is admitted, and was verified under a key the key handler served during that call.
`parseToken_complete`: an admitted token that verifies on the first attempt is accepted.
-/

namespace OidcMiddleware

section
variable {σ κ V C : Type} (env : Env σ κ V C)

/-- What `ParseToken` promises of a token it returns, one field per gate. -/
structure Admitted (h : Handler κ V) (ctx : Context) (now : Int) (tokenString : String)
    (t : Token) : Prop where
  issuer : h.issuer ≠ "" ∧ t.issuer = h.issuer
  audience : h.requiredAudience = "" ∨ h.requiredAudience ∈ t.audience
  tokenType : h.requiredTokenType = "" ∨
    ∃ msg signature, env.parseString tokenString = .ok msg ∧ msg.signatures = [signature] ∧
      signature.protectedHeaders.type = h.requiredTokenType
  expiration : now < t.expiration + h.allowedTokenDrift
  claims : ∀ requiredClaims, h.requiredClaims = some requiredClaims →
    ∃ tokenClaims, env.asMap t ctx = .ok tokenClaims ∧
      ∀ k v, (k, v) ∈ requiredClaims.entries → ClaimAccepted env.toCty tokenClaims k v

def KeyIDHeader (h : Handler κ V) (tokenString keyID : String) : Prop :=
  if h.disableKeyID then keyID = "" else
    ∃ msg signature, env.parseString tokenString = .ok msg ∧ msg.signatures = [signature] ∧
      signature.protectedHeaders.keyID = keyID ∧ keyID ≠ ""

/-- `keyHandler` serves `h` from world `w`, leaving `h'` and `w'`: it was built before, or
`loadJwks` builds it now. -/
def Loaded (h : Handler κ V) (w : σ) (keyHandler : κ) (h' : Handler κ V) (w' : σ) : Prop :=
  h.keyHandler = some keyHandler ∧ h' = h ∧ w' = w ∨
    h.keyHandler = none ∧ loadJwks env.toRemote h w = (.ok keyHandler, h', w')

/-- `tokenString` verifies to `t` under the key `getKey` served for its key id or, in unkeyed
mode, under the key of the forced refresh that followed. -/
def Served (h : Handler κ V) (keyHandler : κ) (ctx : Context) (tokenString : String) (t : Token)
    (w w' : σ) : Prop :=
  ∃ keyID key w₁, KeyIDHeader env h tokenString keyID ∧
    env.getKey keyHandler ctx keyID w = (.ok key, w₁) ∧
    ((w' = w₁ ∧ ∃ alg, getAndValidateTokenFromString env.toJwx tokenString key alg = .ok t) ∨
      h.disableKeyID = true ∧ ∃ updatedKey,
        env.waitForUpdateKeySetAndGetKey keyHandler ctx w₁ = (.ok updatedKey, w') ∧
        ∃ alg, getAndValidateTokenFromString env.toJwx tokenString updatedKey alg = .ok t)

theorem loadedKeyHandler_eq_ok_handler {h h' : Handler κ V} {w w' : σ} {kh : κ}
    (hl : loadedKeyHandler env h w = (.ok kh, h', w')) :
    ∃ jwksUri keyHandler, h' = { h with jwksUri := jwksUri, keyHandler := keyHandler } := by
  simpa [hl] using loadedKeyHandler_handler env h w

theorem parseToken_admitted {h h' : Handler κ V} {ctx : Context} {tokenString : String} {now : Int}
    {order : RangeOrder V} {w w' : σ} {t : Token}
    (hp : parseToken env h ctx tokenString now order w = (.ok t, h', w')) :
    Admitted env h ctx now tokenString t := by
  obtain ⟨kh, w₁, key, alg, w₂, hl, hs, -, hval⟩ := (parseToken_eq_ok env).mp hp
  obtain ⟨jwksUri, keyHandler, rfl⟩ := loadedKeyHandler_eq_ok_handler env hl
  obtain ⟨-, hexp, hiss, haud, hclaims⟩ := (validateToken_eq_ok env).mp hval
  refine ⟨hiss, haud, isTokenTypeValid_eq_true.mp ((selectKey_eq_ok env).mp hs).1, hexp,
    fun requiredClaims hr => ?_⟩
  obtain ⟨tokenClaims, hm, hc⟩ := hclaims requiredClaims hr
  exact ⟨tokenClaims, hm, (isRequiredClaimsValid_eq_ok env.toCty order _ _).mp hc⟩

theorem parseToken_sound {h h' : Handler κ V} {ctx : Context} {tokenString : String} {now : Int}
    {order : RangeOrder V} {w w' : σ} {t : Token}
    (hp : parseToken env h ctx tokenString now order w = (.ok t, h', w')) :
    Admitted env h ctx now tokenString t ∧
      ∃ keyHandler w₁, Loaded env h w keyHandler h' w₁ ∧
        Served env h keyHandler ctx tokenString t w₁ w' := by
  obtain ⟨kh, w₁, key, alg, w₂, hl, hs, hv, -⟩ := (parseToken_eq_ok env).mp hp
  obtain ⟨jwksUri, keyHandler, rfl⟩ := loadedKeyHandler_eq_ok_handler env hl
  obtain ⟨-, keyID, hkid, hkey, -⟩ := (selectKey_eq_ok env).mp hs
  refine ⟨parseToken_admitted env hp, kh, w₁, (loadedKeyHandler_eq_ok env).mp hl, keyID, key, w₂,
    (keyIDOf_eq_ok env).mp hkid, hkey, ?_⟩
  rcases (verifyToken_eq_ok env).mp hv with ⟨hok, rfl⟩ | ⟨-, -, hd, -, updatedKey, alg', hr, hok⟩
  · exact .inl ⟨rfl, alg, hok⟩
  · exact .inr ⟨hd, updatedKey, ((retryKey_eq_ok env).mp hr).1, alg', hok⟩

/-! ## An issuer with one key

`issuerEnv` serves the RSA key `issuerKey` with id `k1`, under which every token string
verifies to `issuerToken`; the handler requires audience `a`, type `JWT` and the claim
`azp = c`, and discovers the jwks uri on first use. The world counts network calls. -/

def issuerKey : Key := ⟨"RSA", "", "k1", "n1"⟩

def issuerToken : Token := ⟨"https://issuer/", ["a"], 60 * second, "azp=c"⟩

def issuerEnv : Env Nat Unit String String where
  parseString _ := .ok ⟨[⟨⟨"k1", "JWT"⟩⟩]⟩
  parseVerified _ alg key :=
    if alg = "RS256" ∧ key = issuerKey then .ok issuerToken else .error "failed to verify signature"
  accept alg := if alg = "RS256" then .ok alg else .error "invalid jwa.SignatureAlgorithm value"
  asMap _ _ := .ok ⟨[("azp", "c")], by decide⟩
  getCtyValues required received := .ok (required, received)
  isCtyValueValid required received := if required = received then .ok () else .error (.errorf "mismatch" [])
  fetchDiscovery _ _ _ w := (.ok "https://issuer/jwks", w + 1)
  newKeyHandler _ _ _ _ _ w := (.ok (), w + 1)
  getKey _ _ keyID w :=
    if keyID = "k1" then (.ok issuerKey, w) else (.error (.errorf "unable to find key" []), w + 1)
  waitForUpdateKeySetAndGetKey _ _ w := (.ok issuerKey, w + 1)

def issuerHandler : Handler Unit String :=
  { issuer := "https://issuer/"
    discoveryUri := getDiscoveryUriFromIssuer "https://issuer/"
    jwksUri := ""
    jwksFetchTimeout := 5 * second
    jwksRateLimit := 1
    fallbackSignatureAlgorithm := ""
    allowedTokenDrift := 10 * second
    requiredAudience := "a"
    requiredTokenType := "JWT"
    requiredClaims := some ⟨[("azp", "c")], by decide⟩
    disableKeyID := false
    httpClient := defaultClient
    keyHandler := none }

def issuerLoaded : Handler Unit String :=
  { issuerHandler with jwksUri := "https://issuer/jwks", keyHandler := some () }

theorem parseToken_sound_issuer :
    parseToken issuerEnv issuerHandler ⟨false, none⟩ "token" 0 (.stored String) 0 =
        (.ok issuerToken, issuerLoaded, 2) ∧
      Admitted issuerEnv issuerHandler ⟨false, none⟩ 0 "token" issuerToken ∧
      ∃ keyHandler w₁, Loaded issuerEnv issuerHandler 0 keyHandler issuerLoaded w₁ ∧
        Served issuerEnv issuerHandler keyHandler ⟨false, none⟩ "token" issuerToken w₁ 2 :=
  have hp : parseToken issuerEnv issuerHandler ⟨false, none⟩ "token" 0 (.stored String) 0 =
      (.ok issuerToken, issuerLoaded, 2) := rfl
  ⟨hp, parseToken_sound issuerEnv hp⟩

theorem parseToken_complete {h h₁ : Handler κ V} {ctx : Context} {tokenString : String}
    {now : Int} {order : RangeOrder V} {w w₁ w₂ : σ} {keyHandler : κ} {keyID alg : String}
    {key : Key} {t : Token}
    (admitted : Admitted env h ctx now tokenString t)
    (hload : Loaded env h w keyHandler h₁ w₁)
    (hkid : KeyIDHeader env h tokenString keyID)
    (hkey : env.getKey keyHandler ctx keyID w₁ = (.ok key, w₂))
    (halg : getSignatureAlgorithm env.toJwx key.keyType key.algorithm h.fallbackSignatureAlgorithm = .ok alg)
    (hver : getAndValidateTokenFromString env.toJwx tokenString key alg = .ok t) :
    parseToken env h ctx tokenString now order w = (.ok t, h₁, w₂) := by
  have hl := (loadedKeyHandler_eq_ok env).mpr hload
  obtain ⟨jwksUri, kh, rfl⟩ := loadedKeyHandler_eq_ok_handler env hl
  refine (parseToken_eq_ok env).mpr ⟨keyHandler, w₁, key, alg, w₂, hl, ?_, ?_, ?_⟩
  · exact (selectKey_eq_ok env).mpr ⟨isTokenTypeValid_eq_true.mpr admitted.tokenType, keyID,
      (keyIDOf_eq_ok env).mpr hkid, hkey, halg⟩
  · exact (verifyToken_eq_ok env).mpr (.inl ⟨hver, rfl⟩)
  · refine (validateToken_eq_ok env).mpr ⟨rfl, admitted.expiration, admitted.issuer,
      admitted.audience, fun requiredClaims hr => ?_⟩
    obtain ⟨tokenClaims, hm, hc⟩ := admitted.claims requiredClaims hr
    exact ⟨tokenClaims, hm, (isRequiredClaimsValid_eq_ok env.toCty order _ _).mpr hc⟩

theorem parseToken_complete_issuer :
    Admitted issuerEnv issuerHandler ⟨false, none⟩ 0 "token" issuerToken ∧
      Loaded issuerEnv issuerHandler 0 () issuerLoaded 2 ∧
      KeyIDHeader issuerEnv issuerHandler "token" "k1" ∧
      issuerEnv.getKey () ⟨false, none⟩ "k1" 2 = (.ok issuerKey, 2) ∧
      getSignatureAlgorithm issuerEnv.toJwx issuerKey.keyType issuerKey.algorithm
        issuerHandler.fallbackSignatureAlgorithm = .ok "RS256" ∧
      getAndValidateTokenFromString issuerEnv.toJwx "token" issuerKey "RS256" = .ok issuerToken ∧
      parseToken issuerEnv issuerHandler ⟨false, none⟩ "token" 0 (.stored String) 0 =
        (.ok issuerToken, issuerLoaded, 2) := by
  have admitted : Admitted issuerEnv issuerHandler ⟨false, none⟩ 0 "token" issuerToken := by
    refine ⟨⟨by decide, rfl⟩, .inr (by decide), .inr ⟨_, _, rfl, rfl, rfl⟩, by decide, ?_⟩
    intro requiredClaims hr
    simp only [issuerHandler, Option.some.injEq] at hr
    subst hr
    refine ⟨_, rfl, fun k v hkv => ?_⟩
    simp only [List.mem_singleton, Prod.mk.injEq] at hkv
    obtain ⟨rfl, rfl⟩ := hkv
    exact ⟨"c", rfl, "c", "c", rfl, rfl⟩
  have hkid : KeyIDHeader issuerEnv issuerHandler "token" "k1" := by
    rw [KeyIDHeader, if_neg (by decide)]
    exact ⟨_, _, rfl, rfl, rfl, by decide⟩
  have hload : Loaded issuerEnv issuerHandler 0 () issuerLoaded 2 := .inr ⟨rfl, rfl⟩
  exact ⟨admitted, hload, hkid, rfl, rfl, rfl,
    parseToken_complete issuerEnv admitted hload hkid rfl rfl rfl⟩

end

end OidcMiddleware
