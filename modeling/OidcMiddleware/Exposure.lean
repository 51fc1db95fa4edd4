import OidcMiddleware.Refresh

/-!
# What a token can make the handler ask of the key handler

A token is attacker-chosen input. One that fails the type gate, or in keyed mode has no
usable key id, is rejected before the key handler is consulted
(`parseToken_rejects_before_key_lookup`). A forced refresh happens exactly in unkeyed mode,
after the key was found, when the library reports a signature failure
(`parseToken_refreshes_iff`).
-/

namespace OidcMiddleware

section
variable {σ κ V C : Type} (env : Env σ κ V C)

/-- The token's header stops `selectKey` before `GetKey`: the type gate fails, or no key id
can be read for the lookup. -/
def HeaderRejected (h : Handler κ V) (tokenString : String) : Prop :=
  isTokenTypeValid env.toJwx h.requiredTokenType tokenString = false ∨
    ∃ err, keyIDOf env h tokenString = .error err

variable {env}

theorem selectKey_of_headerRejected {h : Handler κ V} {tokenString : String}
    (hbad : HeaderRejected env h tokenString) (kh : κ) (ctx : Context) (w : σ) :
    ∃ err, selectKey env h kh ctx tokenString w = (.error err, w) := by
  cases hv : isTokenTypeValid env.toJwx h.requiredTokenType tokenString
  · exact ⟨.errorf "token type %q required" [.str h.requiredTokenType], by simp [selectKey, hv]⟩
  · obtain ⟨err, he⟩ := hbad.resolve_left (by simp [hv])
    exact ⟨err, by simp [selectKey, hv, he]⟩

theorem selectKey_getKey_of_headerRejected {h : Handler κ V} {tokenString : String}
    (hbad : HeaderRejected env h tokenString) (getKey : κ → Context → String → σ → Except Error Key × σ)
    (kh : κ) (ctx : Context) (w : σ) :
    selectKey { env with getKey := getKey } h kh ctx tokenString w = selectKey env h kh ctx tokenString w := by
  rcases hbad with hv | ⟨err, he⟩
  · simp [selectKey, hv]
  · have he' : keyIDOf { env with getKey := getKey } h tokenString = .error err := he
    by_cases hv : isTokenTypeValid env.toJwx h.requiredTokenType tokenString <;>
      simp [selectKey, hv, he, he']

theorem parseToken_rejects_before_key_lookup
    (getKey : κ → Context → String → σ → Except Error Key × σ)
    (waitForUpdateKeySetAndGetKey : κ → Context → σ → Except Error Key × σ)
    {h : Handler κ V} {tokenString : String} (hbad : HeaderRejected env h tokenString)
    (ctx : Context) (now : Int) (order : RangeOrder V) (w : σ) :
    parseToken { env with getKey := getKey, waitForUpdateKeySetAndGetKey := waitForUpdateKeySetAndGetKey }
        h ctx tokenString now order w = parseToken env h ctx tokenString now order w ∧
      ∃ err, parseToken env h ctx tokenString now order w = (.error err, (loadedKeyHandler env h w).2) := by
  have hl : loadedKeyHandler { env with getKey := getKey, waitForUpdateKeySetAndGetKey := waitForUpdateKeySetAndGetKey } h w =
      loadedKeyHandler env h w := rfl
  obtain ⟨jwksUri, keyHandler, hh⟩ := loadedKeyHandler_handler env h w
  unfold parseToken
  rw [hl]
  rcases hr : loadedKeyHandler env h w with ⟨_ | kh, h₁, w₁⟩
  · exact ⟨rfl, _, rfl⟩
  have hbad₁ : HeaderRejected env h₁ tokenString := by
    rw [hr] at hh
    subst hh
    exact hbad
  obtain ⟨err, he⟩ := selectKey_of_headerRejected hbad₁ kh ctx w₁
  have he' : selectKey { env with getKey := getKey, waitForUpdateKeySetAndGetKey := waitForUpdateKeySetAndGetKey }
      h₁ kh ctx tokenString w₁ = (.error err, w₁) :=
    (selectKey_getKey_of_headerRejected hbad₁ getKey kh ctx w₁).trans he
  simp only [he, he']
  exact ⟨trivial, err, rfl⟩

end

def accessTokenHandler : Handler Unit String := { issuerHandler with requiredTokenType := "at+jwt" }

def keylessEnv : Env Nat Unit String String :=
  { issuerEnv with
    getKey := fun _ _ _ w => (.error (.errorf "unable to find key" []), w + 1)
    waitForUpdateKeySetAndGetKey := fun _ _ w => (.error (.errorf "unable to find key" []), w + 1) }

theorem parseToken_rejects_before_key_lookup_issuer :
    HeaderRejected issuerEnv accessTokenHandler "token" ∧
      parseToken keylessEnv accessTokenHandler ⟨false, none⟩ "token" 0 (.stored String) 0 =
        parseToken issuerEnv accessTokenHandler ⟨false, none⟩ "token" 0 (.stored String) 0 ∧
      ∃ err, parseToken issuerEnv accessTokenHandler ⟨false, none⟩ "token" 0 (.stored String) 0 =
        (.error err, (loadedKeyHandler issuerEnv accessTokenHandler 0).2) :=
  have hbad : HeaderRejected issuerEnv accessTokenHandler "token" := Or.inl rfl
  ⟨hbad, parseToken_rejects_before_key_lookup keylessEnv.getKey keylessEnv.waitForUpdateKeySetAndGetKey
    hbad ⟨false, none⟩ 0 (.stored String) 0⟩

/-! ## Forced refreshes -/

section
variable {σ κ V C : Type} (env : Env σ κ V C)

/-- The condition `verifyToken` retries on, read off the library: unkeyed mode, and a first
verification failing with a message that names a signature failure. -/
def RetryForced (jwx : Jwx V) (h : Handler κ V) (tokenString : String) (key : Key) (alg : String) : Prop :=
  h.disableKeyID = true ∧ ∃ msg, jwx.parseVerified tokenString alg key = .error msg ∧
    stringsContains msg signatureVerificationText = true

/-- What makes `ParseToken` force a refresh: the key handler loads, a key is found for the
token, and its first verification fails as `RetryForced` says. -/
def RefreshForced (h : Handler κ V) (ctx : Context) (tokenString : String) (w : σ) : Prop :=
  ∃ kh h₁ w₁ key alg w₂, loadedKeyHandler env h w = (.ok kh, h₁, w₁) ∧
    selectKey env h₁ kh ctx tokenString w₁ = (.ok (key, alg), w₂) ∧
    RetryForced env.toJwx h tokenString key alg

variable {env}

theorem refreshForced_of_load_error {h h₁ : Handler κ V} {w w₁ : σ} {err : Error} {ctx : Context}
    {tokenString : String} (hr : loadedKeyHandler env h w = (.error err, h₁, w₁)) :
    ¬ RefreshForced env h ctx tokenString w := by
  rintro ⟨_, _, _, _, _, _, hr', _⟩
  rw [hr] at hr'
  cases hr'

theorem refreshForced_iff_of_loaded {h h₁ : Handler κ V} {w w₁ : σ} {kh : κ} {ctx : Context}
    {tokenString : String} (hr : loadedKeyHandler env h w = (.ok kh, h₁, w₁)) :
    RefreshForced env h ctx tokenString w ↔ ∃ key alg w₂,
      selectKey env h₁ kh ctx tokenString w₁ = (.ok (key, alg), w₂) ∧ RetryForced env.toJwx h tokenString key alg := by
  unfold RefreshForced
  rw [hr]
  constructor
  · rintro ⟨_, _, _, key, alg, w₂, ⟨⟩, hs, hf⟩
    exact ⟨key, alg, w₂, hs, hf⟩
  · rintro ⟨key, alg, w₂, hs, hf⟩
    exact ⟨kh, h₁, w₁, key, alg, w₂, rfl, hs, hf⟩

variable {count : σ → Nat} (hc : CountsRefreshes env count)
include hc

theorem verifyToken_count_cases (h : Handler κ V) (kh : κ) (ctx : Context)
    (tokenString : String) (key : Key) (alg : String) (w : σ) :
    RetryForced env.toJwx h tokenString key alg ∧
        count (verifyToken env h kh ctx tokenString key alg w).2 = count w + 1 ∨
      ¬ RetryForced env.toJwx h tokenString key alg ∧
        count (verifyToken env h kh ctx tokenString key alg w).2 = count w := by
  unfold RetryForced
  rw [← getAndValidateTokenFromString_signature]
  unfold verifyToken
  cases getAndValidateTokenFromString env.toJwx tokenString key alg with
  | ok token => simp
  | error err =>
    by_cases hr : h.disableKeyID = true ∧ errorsIs err errSignatureVerification = true
    · refine .inl ⟨⟨hr.1, err, rfl, hr.2⟩, ?_⟩
      simp only [hr, Bool.and_self, if_true]
      rw [← retryKey_count hc h kh ctx key w]
      split <;> rename_i heq <;> rw [heq]
    · refine .inr ⟨fun ⟨hd, _, he, hi⟩ => hr ⟨hd, by cases he; exact hi⟩, ?_⟩
      simp only [Bool.and_eq_true, hr, if_false]

theorem parseToken_refreshes_iff (h : Handler κ V) (ctx : Context) (tokenString : String)
    (now : Int) (order : RangeOrder V) (w : σ) :
    RefreshForced env h ctx tokenString w ∧
        count (parseToken env h ctx tokenString now order w).2.2 = count w + 1 ∨
      ¬ RefreshForced env h ctx tokenString w ∧
        count (parseToken env h ctx tokenString now order w).2.2 = count w := by
  have hl := loadedKeyHandler_count hc h w
  obtain ⟨jwksUri, keyHandler, hh⟩ := loadedKeyHandler_handler env h w
  unfold parseToken
  rcases hr : loadedKeyHandler env h w with ⟨_ | kh, h₁, w₁⟩ <;> rw [hr] at hl hh <;> dsimp only at hl hh ⊢
  · exact .inr ⟨refreshForced_of_load_error hr, hl⟩
  have hd : ∀ key alg, RetryForced env.toJwx h₁ tokenString key alg ↔ RetryForced env.toJwx h tokenString key alg := by
    subst hh
    exact fun _ _ => Iff.rfl
  rw [refreshForced_iff_of_loaded hr]
  have hs := selectKey_count hc h₁ kh ctx tokenString w₁
  rcases hs' : selectKey env h₁ kh ctx tokenString w₁ with ⟨_ | ⟨key, alg⟩, w₂⟩ <;> rw [hs'] at hs <;>
    dsimp only at hs ⊢
  · exact .inr ⟨fun ⟨_, _, _, hs'', _⟩ => (by cases hs''), hs.trans hl⟩
  rcases verifyToken_count_cases hc h₁ kh ctx tokenString key alg w₂ with ⟨hf, hv⟩ | ⟨hf, hv⟩
  · refine .inl ⟨⟨key, alg, w₂, rfl, (hd key alg).mp hf⟩, ?_⟩
    split <;> rename_i heq <;> rw [heq] at hv <;> dsimp only at hv ⊢ <;> omega
  · refine .inr ⟨fun ⟨_, _, _, hs'', hf'⟩ => ?_, ?_⟩
    · cases hs''
      exact hf ((hd key alg).mpr hf')
    · split <;> rename_i heq <;> rw [heq] at hv <;> dsimp only at hv ⊢ <;> omega

end

set_option maxRecDepth 2000 in
theorem parseToken_refreshes_iff_issuer :
    CountsRefreshes (countRefreshes issuerEnv) Prod.snd ∧
      (RefreshForced (countRefreshes issuerEnv) issuerHandler ⟨false, none⟩ "token" (0, 0) ∧
          (parseToken (countRefreshes issuerEnv) issuerHandler ⟨false, none⟩ "token" 0 (.stored String) (0, 0)).2.2.2 =
            0 + 1 ∨
        ¬ RefreshForced (countRefreshes issuerEnv) issuerHandler ⟨false, none⟩ "token" (0, 0) ∧
          (parseToken (countRefreshes issuerEnv) issuerHandler ⟨false, none⟩ "token" 0 (.stored String) (0, 0)).2.2.2 =
            0) ∧
    CountsRefreshes (countRefreshes rotationEnv) Prod.snd ∧
      RefreshForced (countRefreshes rotationEnv) rotationHandler ⟨false, none⟩ "token" (0, 0) ∧
      (parseToken (countRefreshes rotationEnv) rotationHandler ⟨false, none⟩ "token" 0 (.stored String) (0, 0)).2.2.2 =
        0 + 1 := by
  have fired : (parseToken (countRefreshes rotationEnv) rotationHandler ⟨false, none⟩ "token" 0 (.stored String)
      (0, 0)).2.2.2 = 1 := rfl
  refine ⟨countRefreshes_counts issuerEnv,
    parseToken_refreshes_iff (countRefreshes_counts issuerEnv) issuerHandler ⟨false, none⟩ "token" 0 (.stored String) (0, 0),
    countRefreshes_counts rotationEnv, ?_⟩
  rcases parseToken_refreshes_iff (countRefreshes_counts rotationEnv) rotationHandler ⟨false, none⟩ "token" 0
    (.stored String) (0, 0) with ⟨hf, hc⟩ | ⟨-, hc⟩
  · exact ⟨hf, hc⟩
  · omega

end OidcMiddleware
