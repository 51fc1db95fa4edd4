import OidcMiddleware.Lifecycle
import OidcMiddleware.KeyChoice

/-!
# Forced refreshes

A measure `count` of the world counts forced refreshes when only
`waitForUpdateKeySetAndGetKey` changes it, by one (`CountsRefreshes`). Every `ParseToken`
forces at most one refresh (`parseToken_refreshes_at_most_once`), so a run forces at most
as many as it has `ParseToken` calls (`run_refreshes`). `countRefreshes env` is `env` with
such a count kept beside its world.
-/

namespace OidcMiddleware

section
variable {σ κ V C : Type} (env : Env σ κ V C) (count : σ → Nat)

/-- `count` measures the forced refreshes: no other call of the network or the key handler
changes it, and each forced refresh adds one. -/
structure CountsRefreshes : Prop where
  fetchDiscovery : ∀ httpClient uri timeout w,
    count (env.fetchDiscovery httpClient uri timeout w).2 = count w
  newKeyHandler : ∀ httpClient uri timeout rateLimit disableKeyID w,
    count (env.newKeyHandler httpClient uri timeout rateLimit disableKeyID w).2 = count w
  getKey : ∀ keyHandler ctx keyID w, count (env.getKey keyHandler ctx keyID w).2 = count w
  waitForUpdateKeySetAndGetKey : ∀ keyHandler ctx w,
    count (env.waitForUpdateKeySetAndGetKey keyHandler ctx w).2 = count w + 1

def Call.isParseToken : Call V → Bool
  | .parseToken .. => true
  | _ => false

variable {env count} (hc : CountsRefreshes env count)
include hc

theorem getJwksUriFromDiscoveryUri_count (httpClient : HttpClient)
    (discoveryUri : String) (fetchTimeout : Int) (w : σ) :
    count (getJwksUriFromDiscoveryUri env.toRemote httpClient discoveryUri fetchTimeout w).2 = count w := by
  rw [← hc.fetchDiscovery httpClient discoveryUri fetchTimeout w]
  unfold getJwksUriFromDiscoveryUri
  split <;> rename_i heq <;> rw [heq]
  split <;> rfl

theorem loadJwks_count (h : Handler κ V) (w : σ) :
    count (loadJwks env.toRemote h w).2.2 = count w := by
  have hd : count (if h.jwksUri = "" then
      getJwksUriFromDiscoveryUri env.toRemote h.httpClient h.discoveryUri (5 * second) w
      else (.ok h.jwksUri, w)).2 = count w := by
    split
    · exact getJwksUriFromDiscoveryUri_count hc _ _ _ w
    · rfl
  unfold loadJwks
  split <;> rename_i heq <;> rw [heq] at hd
  · exact hd
  · rename_i jwksUri w₁
    calc _ = count (env.newKeyHandler h.httpClient jwksUri h.jwksFetchTimeout h.jwksRateLimit
            h.disableKeyID w₁).2 := by
          split <;> rename_i heq' <;> rw [heq']
      _ = count w := (hc.newKeyHandler _ _ _ _ _ _).trans hd

theorem loadedKeyHandler_count (h : Handler κ V) (w : σ) :
    count (loadedKeyHandler env h w).2.2 = count w := by
  unfold loadedKeyHandler
  split
  · rfl
  · rw [← loadJwks_count hc h w]
    split <;> rename_i heq <;> rw [heq]

theorem selectKey_count (h : Handler κ V) (kh : κ) (ctx : Context)
    (tokenString : String) (w : σ) : count (selectKey env h kh ctx tokenString w).2 = count w := by
  unfold selectKey
  split
  · rfl
  split
  · rfl
  rename_i keyID _
  rw [← hc.getKey kh ctx keyID w]
  split <;> rename_i heq <;> rw [heq]
  split <;> rfl

theorem retryKey_count (h : Handler κ V) (kh : κ) (ctx : Context)
    (key : Key) (w : σ) : count (retryKey env h kh ctx key w).2 = count w + 1 := by
  rw [← hc.waitForUpdateKeySetAndGetKey kh ctx w]
  unfold retryKey
  split <;> rename_i heq <;> rw [heq]
  split <;> rfl

theorem verifyToken_count (h : Handler κ V) (kh : κ) (ctx : Context)
    (tokenString : String) (key : Key) (alg : String) (w : σ) :
    count (verifyToken env h kh ctx tokenString key alg w).2 ≤ count w + 1 := by
  unfold verifyToken
  split
  · exact Nat.le_succ _
  split
  · rw [← retryKey_count hc h kh ctx key w]
    split <;> rename_i heq <;> rw [heq]
  · exact Nat.le_succ _

theorem parseToken_refreshes_at_most_once (h : Handler κ V)
    (ctx : Context) (tokenString : String) (now : Int) (order : RangeOrder V) (w : σ) :
    count (parseToken env h ctx tokenString now order w).2.2 ≤ count w + 1 := by
  have hl := loadedKeyHandler_count hc h w
  unfold parseToken
  split <;> rename_i heq <;> rw [heq] at hl
  · exact hl ▸ Nat.le_succ _
  rename_i kh h₁ w₁
  have hs := selectKey_count hc h₁ kh ctx tokenString w₁
  split <;> rename_i heq <;> rw [heq] at hs
  · exact hs ▸ hl ▸ Nat.le_succ _
  rename_i key alg w₂
  have hv := verifyToken_count hc h₁ kh ctx tokenString key alg w₂
  split <;> rename_i heq <;> rw [heq] at hv <;> simp only at hl hs hv ⊢ <;> omega


theorem step_count (s : Handler κ V × σ) (c : Call V) :
    count (step env s c).2 ≤ count s.2 + if c.isParseToken then 1 else 0 := by
  obtain ⟨h, w⟩ := s
  cases c with
  | parseToken ctx tokenString now order => exact parseToken_refreshes_at_most_once hc h ctx tokenString now order w
  | setIssuer issuer => exact Nat.le_refl _
  | setDiscoveryUri discoveryUri => exact Nat.le_refl _

theorem run_refreshes (s : Handler κ V × σ) (calls : List (Call V)) :
    count (run env s calls).2 ≤ count s.2 + calls.countP Call.isParseToken := by
  induction calls generalizing s with
  | nil => exact Nat.le_refl _
  | cons c calls ih =>
    have hs := step_count hc s c
    have := ih (step env s c)
    rw [run_cons, List.countP_cons]
    omega

end

/-- `env` with a count of its forced refreshes kept beside its world. -/
def countRefreshes {σ κ V C : Type} (env : Env σ κ V C) : Env (σ × Nat) κ V C where
  toJwx := env.toJwx
  toCty := env.toCty
  fetchDiscovery httpClient uri timeout w :=
    ((env.fetchDiscovery httpClient uri timeout w.1).1, (env.fetchDiscovery httpClient uri timeout w.1).2, w.2)
  newKeyHandler httpClient uri timeout rateLimit disableKeyID w :=
    ((env.newKeyHandler httpClient uri timeout rateLimit disableKeyID w.1).1,
      (env.newKeyHandler httpClient uri timeout rateLimit disableKeyID w.1).2, w.2)
  getKey keyHandler ctx keyID w :=
    ((env.getKey keyHandler ctx keyID w.1).1, (env.getKey keyHandler ctx keyID w.1).2, w.2)
  waitForUpdateKeySetAndGetKey keyHandler ctx w :=
    ((env.waitForUpdateKeySetAndGetKey keyHandler ctx w.1).1,
      (env.waitForUpdateKeySetAndGetKey keyHandler ctx w.1).2, w.2 + 1)

theorem countRefreshes_counts {σ κ V C : Type} (env : Env σ κ V C) :
    CountsRefreshes (countRefreshes env) Prod.snd :=
  ⟨fun _ _ _ _ => rfl, fun _ _ _ _ _ _ => rfl, fun _ _ _ _ => rfl, fun _ _ _ => rfl⟩

def rotationCalls : List (Call String) :=
  [.parseToken ⟨false, none⟩ "token" 0 (.stored String), .parseToken ⟨false, none⟩ "forged" 0 (.stored String)]

set_option maxRecDepth 2000 in
theorem run_refreshes_issuer :
    CountsRefreshes (countRefreshes issuerEnv) Prod.snd ∧
      (run (countRefreshes issuerEnv) (issuerHandler, 0, 0) issuerCalls).2.2 ≤
        0 + issuerCalls.countP Call.isParseToken ∧
    CountsRefreshes (countRefreshes rotationEnv) Prod.snd ∧
      (run (countRefreshes rotationEnv) (rotationHandler, 0, 0) rotationCalls).2.2 ≤
        0 + rotationCalls.countP Call.isParseToken ∧
      (run (countRefreshes rotationEnv) (rotationHandler, 0, 0) rotationCalls).2.2 = 2 :=
  ⟨countRefreshes_counts issuerEnv, run_refreshes (countRefreshes_counts issuerEnv) _ issuerCalls,
    countRefreshes_counts rotationEnv, run_refreshes (countRefreshes_counts rotationEnv) _ rotationCalls, rfl⟩

end OidcMiddleware
