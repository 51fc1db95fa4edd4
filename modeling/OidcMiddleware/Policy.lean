import OidcMiddleware.Lifecycle

/-!
# What acceptance depends on

The clock reaches `parseToken` only through the expiry gate, so a token accepted at one
reading is accepted, with the same effects, at every earlier one (`parseToken_earlier`). The
token policy (drift, audience, type, claims) is read only by the gates, so a handler that
asks less of a token accepts every token a stricter one accepts (`parseToken_relaxed`). An
empty required-claims map is not the nil default: it still has the claims read
(`parseToken_emptyRequiredClaims`). The order in which the runtime visits the required
claims reaches only the text of an error, over whole runs (`run_ignores_map_order`).
-/

namespace OidcMiddleware

section
variable {σ κ V C : Type} (env : Env σ κ V C)

theorem parseToken_earlier {h h' : Handler κ V} {ctx : Context} {tokenString : String}
    {now now' : Int} {order : RangeOrder V} {w w' : σ} {t : Token}
    (hp : parseToken env h ctx tokenString now order w = (.ok t, h', w')) (hle : now' ≤ now) :
    parseToken env h ctx tokenString now' order w = (.ok t, h', w') := by
  obtain ⟨kh, w₁, key, alg, w₂, hl, hs, hv, hval⟩ := (parseToken_eq_ok env).mp hp
  obtain ⟨-, hexp, rest⟩ := (validateToken_eq_ok env).mp hval
  exact (parseToken_eq_ok env).mpr ⟨kh, w₁, key, alg, w₂, hl, hs, hv,
    (validateToken_eq_ok env).mpr ⟨rfl, by omega, rest⟩⟩

theorem parseToken_earlier_issuer :
    parseToken issuerEnv issuerHandler ⟨false, none⟩ "token" 0 (.stored String) 0 =
        (.ok issuerToken, issuerLoaded, 2) ∧ (-5 * second : Int) ≤ 0 ∧
      parseToken issuerEnv issuerHandler ⟨false, none⟩ "token" (-5 * second) (.stored String) 0 =
        (.ok issuerToken, issuerLoaded, 2) :=
  have hp : parseToken issuerEnv issuerHandler ⟨false, none⟩ "token" 0 (.stored String) 0 =
      (.ok issuerToken, issuerLoaded, 2) := rfl
  have hle : (-5 * second : Int) ≤ 0 := by decide
  ⟨hp, hle, parseToken_earlier issuerEnv hp hle⟩

/-- `h'` is `h` asking no more of a token: a drift at least as large, and the audience, the
type and the claims that `h` requires, or none. -/
structure Relaxes (h h' : Handler κ V) : Prop where
  rest : h' = ({ h with
    allowedTokenDrift := h'.allowedTokenDrift
    requiredAudience := h'.requiredAudience
    requiredTokenType := h'.requiredTokenType
    requiredClaims := h'.requiredClaims } : Handler κ V)
  drift : h.allowedTokenDrift ≤ h'.allowedTokenDrift
  audience : h'.requiredAudience = "" ∨ h'.requiredAudience = h.requiredAudience
  tokenType : h'.requiredTokenType = "" ∨ h'.requiredTokenType = h.requiredTokenType
  claims : h'.requiredClaims = none ∨ h'.requiredClaims = h.requiredClaims

theorem loadJwks_withPolicy (remote : Remote σ κ) (h : Handler κ V) (w : σ) (allowedTokenDrift : Int)
    (requiredAudience requiredTokenType : String) (requiredClaims : Option (GoMap V)) :
    loadJwks remote
        { h with
          allowedTokenDrift := allowedTokenDrift
          requiredAudience := requiredAudience
          requiredTokenType := requiredTokenType
          requiredClaims := requiredClaims } w =
      ((loadJwks remote h w).1,
        { (loadJwks remote h w).2.1 with
          allowedTokenDrift := allowedTokenDrift
          requiredAudience := requiredAudience
          requiredTokenType := requiredTokenType
          requiredClaims := requiredClaims },
        (loadJwks remote h w).2.2) := by
  unfold loadJwks
  dsimp only
  generalize (if h.jwksUri = "" then getJwksUriFromDiscoveryUri remote h.httpClient h.discoveryUri (5 * second) w
    else (.ok h.jwksUri, w)) = discovered
  rcases discovered with ⟨_ | jwksUri, w₁⟩
  · rfl
  · dsimp only
    generalize remote.newKeyHandler h.httpClient jwksUri h.jwksFetchTimeout h.jwksRateLimit h.disableKeyID w₁ = r
    rcases r with ⟨_ | kh, w₂⟩ <;> rfl


theorem loadedKeyHandler_withPolicy (h : Handler κ V) (w : σ) (allowedTokenDrift : Int)
    (requiredAudience requiredTokenType : String) (requiredClaims : Option (GoMap V)) :
    loadedKeyHandler env
        { h with
          allowedTokenDrift := allowedTokenDrift
          requiredAudience := requiredAudience
          requiredTokenType := requiredTokenType
          requiredClaims := requiredClaims } w =
      ((loadedKeyHandler env h w).1,
        { (loadedKeyHandler env h w).2.1 with
          allowedTokenDrift := allowedTokenDrift
          requiredAudience := requiredAudience
          requiredTokenType := requiredTokenType
          requiredClaims := requiredClaims },
        (loadedKeyHandler env h w).2.2) := by
  unfold loadedKeyHandler
  dsimp only
  rw [loadJwks_withPolicy]
  split <;> rename_i heq <;> simp only [heq]
  generalize loadJwks env.toRemote h w = r
  rcases r with ⟨_ | kh, h₁, w₁⟩ <;> rfl

theorem loadedKeyHandler_withRequiredClaims (h : Handler κ V) (w : σ) (requiredClaims : Option (GoMap V)) :
    loadedKeyHandler env { h with requiredClaims := requiredClaims } w =
      ((loadedKeyHandler env h w).1, { (loadedKeyHandler env h w).2.1 with requiredClaims := requiredClaims },
        (loadedKeyHandler env h w).2.2) := by
  obtain ⟨jwksUri, keyHandler, hh⟩ := loadedKeyHandler_handler env h w
  have hp := loadedKeyHandler_withPolicy env h w h.allowedTokenDrift h.requiredAudience h.requiredTokenType
    requiredClaims
  rw [hh] at hp ⊢
  exact hp

theorem parseToken_relaxed {h h' h₁ : Handler κ V} {ctx : Context} {tokenString : String} {now : Int}
    {order : RangeOrder V} {w w₁ : σ} {t : Token} (hr : Relaxes h h')
    (hp : parseToken env h ctx tokenString now order w = (.ok t, h₁, w₁)) :
    ∃ h₁', Relaxes h₁ h₁' ∧ parseToken env h' ctx tokenString now order w = (.ok t, h₁', w₁) := by
  obtain ⟨hrest, hd, ha, ht, hc⟩ := hr
  obtain ⟨d, a, ty, c, rfl⟩ : ∃ d a ty c, h' = { h with
      allowedTokenDrift := d
      requiredAudience := a
      requiredTokenType := ty
      requiredClaims := c } := ⟨_, _, _, _, hrest⟩
  dsimp only at hd ha ht hc
  obtain ⟨kh, w₂, key, alg, w₃, hl, hs, hv, hval⟩ := (parseToken_eq_ok env).mp hp
  obtain ⟨jwksUri, keyHandler, hh⟩ := loadedKeyHandler_handler env h w
  rw [hl] at hh
  subst hh
  refine ⟨{ h with
      jwksUri := jwksUri
      keyHandler := keyHandler
      allowedTokenDrift := d
      requiredAudience := a
      requiredTokenType := ty
      requiredClaims := c }, ⟨rfl, hd, ha, ht, hc⟩, (parseToken_eq_ok env).mpr ⟨kh, w₂, key, alg, w₃, ?_, ?_, hv, ?_⟩⟩
  · rw [loadedKeyHandler_withPolicy, hl]
  · obtain ⟨htype, rest⟩ := (selectKey_eq_ok env).mp hs
    refine (selectKey_eq_ok env).mpr ⟨?_, rest⟩
    rcases ht with rfl | rfl
    · simp
    · exact htype
  · obtain ⟨-, hexp, hiss, haud, hclaims⟩ := (validateToken_eq_ok env).mp hval
    refine (validateToken_eq_ok env).mpr ⟨rfl, by dsimp only at hexp ⊢; omega, hiss, ?_, ?_⟩
    · rcases ha with rfl | rfl
      · exact .inl rfl
      · exact haud
    · rcases hc with rfl | rfl
      · simp
      · exact hclaims

def lenientHandler : Handler Unit String :=
  { issuerHandler with
    allowedTokenDrift := 20 * second
    requiredAudience := ""
    requiredTokenType := ""
    requiredClaims := none }

theorem parseToken_relaxed_issuer :
    Relaxes issuerHandler lenientHandler ∧
      parseToken issuerEnv issuerHandler ⟨false, none⟩ "token" 0 (.stored String) 0 =
        (.ok issuerToken, issuerLoaded, 2) ∧
      ∃ h₁', Relaxes issuerLoaded h₁' ∧
        parseToken issuerEnv lenientHandler ⟨false, none⟩ "token" 0 (.stored String) 0 = (.ok issuerToken, h₁', 2) :=
  have hr : Relaxes issuerHandler lenientHandler := ⟨rfl, by decide, .inl rfl, .inl rfl, .inl rfl⟩
  have hp : parseToken issuerEnv issuerHandler ⟨false, none⟩ "token" 0 (.stored String) 0 =
      (.ok issuerToken, issuerLoaded, 2) := rfl
  ⟨hr, hp, parseToken_relaxed issuerEnv hr hp⟩

/-! ## An empty required-claims map -/

/-- Lines 681-685 for a non-nil `RequiredClaims` map that requires nothing: the token's claims
must still be read. -/
def readClaims (ctx : Context) (token : Token) : Except Error Token :=
  match env.asMap token ctx with
  | .error err => .error (.wrapf "unable to get token claims: %w" [] (.lib err))
  | .ok _ => .ok token

theorem selectKey_withRequiredClaims (h : Handler κ V) (requiredClaims : Option (GoMap V)) :
    selectKey env { h with requiredClaims := requiredClaims } = selectKey env h := rfl

theorem verifyToken_withRequiredClaims (h : Handler κ V) (requiredClaims : Option (GoMap V)) :
    verifyToken env { h with requiredClaims := requiredClaims } = verifyToken env h := rfl

theorem validateToken_emptyRequiredClaims (h : Handler κ V) (ctx : Context) (now : Int)
    (order : RangeOrder V) (token : Token) :
    validateToken env { h with requiredClaims := some (GoMap.empty V) } ctx now order token =
      (validateToken env { h with requiredClaims := none } ctx now order token).bind (readClaims env ctx) := by
  unfold validateToken
  dsimp only
  split_ifs <;> try rfl
  show _ = readClaims env ctx token
  simp only [readClaims, isRequiredClaimsValid, RangeOrder.visit_empty]
  cases env.asMap token ctx <;> rfl

/-- An empty `RequiredClaims` map is not the nil default: the claims are still read. -/
theorem parseToken_emptyRequiredClaims (h : Handler κ V) (ctx : Context) (tokenString : String)
    (now : Int) (order : RangeOrder V) (w : σ) :
    parseToken env { h with requiredClaims := some (GoMap.empty V) } ctx tokenString now order w =
      ((parseToken env { h with requiredClaims := none } ctx tokenString now order w).1.bind (readClaims env ctx),
        { (parseToken env { h with requiredClaims := none } ctx tokenString now order w).2.1 with
          requiredClaims := some (GoMap.empty V) },
        (parseToken env { h with requiredClaims := none } ctx tokenString now order w).2.2) := by
  unfold parseToken
  rw [loadedKeyHandler_withRequiredClaims env h w (some (GoMap.empty V)),
    loadedKeyHandler_withRequiredClaims env h w none]
  rcases loadedKeyHandler env h w with ⟨_ | kh, h₁, w₁⟩
  · rfl
  dsimp only
  rw [selectKey_withRequiredClaims env h₁ (some (GoMap.empty V)), selectKey_withRequiredClaims env h₁ none]
  rcases selectKey env h₁ kh ctx tokenString w₁ with ⟨_ | ⟨key, alg⟩, w₂⟩
  · rfl
  dsimp only
  rw [verifyToken_withRequiredClaims env h₁ (some (GoMap.empty V)), verifyToken_withRequiredClaims env h₁ none]
  rcases verifyToken env h₁ kh ctx tokenString key alg w₂ with ⟨_ | t, w₃⟩
  · rfl
  exact Prod.ext (validateToken_emptyRequiredClaims env h₁ ctx now order t) rfl

/-! ## The order of the required-claims loop -/

theorem validateToken_order (h : Handler κ V) (ctx : Context) (now : Int) (order order' : RangeOrder V)
    (token t : Token) :
    validateToken env h ctx now order token = .ok t ↔ validateToken env h ctx now order' token = .ok t := by
  simp only [validateToken_eq_ok, isRequiredClaimsValid_eq_ok]

theorem parseToken_order (h : Handler κ V) (ctx : Context) (tokenString : String) (now : Int)
    (order order' : RangeOrder V) (w : σ) :
    (parseToken env h ctx tokenString now order w).2 = (parseToken env h ctx tokenString now order' w).2 ∧
      ∀ t, (parseToken env h ctx tokenString now order w).1 = .ok t ↔
        (parseToken env h ctx tokenString now order' w).1 = .ok t := by
  unfold parseToken
  rcases loadedKeyHandler env h w with ⟨_ | kh, h₁, w₁⟩
  · simp
  dsimp only
  rcases selectKey env h₁ kh ctx tokenString w₁ with ⟨_ | ⟨key, alg⟩, w₂⟩
  · simp
  dsimp only
  rcases verifyToken env h₁ kh ctx tokenString key alg w₂ with ⟨_ | token, w₃⟩
  · simp
  exact ⟨rfl, validateToken_order env h₁ ctx now order order' token⟩

inductive Call.SameUpToOrder : Call V → Call V → Prop
  | parseToken (ctx : Context) (tokenString : String) (now : Int) (order order' : RangeOrder V) :
      Call.SameUpToOrder (.parseToken ctx tokenString now order) (.parseToken ctx tokenString now order')
  | refl (c : Call V) : Call.SameUpToOrder c c

theorem step_order {c c' : Call V} (hc : c.SameUpToOrder c') (s : Handler κ V × σ) :
    step env s c = step env s c' := by
  obtain ⟨h, w⟩ := s
  cases hc with
  | parseToken ctx tokenString now order order' =>
    exact (parseToken_order env h ctx tokenString now order order' w).1
  | refl => rfl

theorem run_ignores_map_order (s : Handler κ V × σ) {calls calls' : List (Call V)}
    (hsame : List.Forall₂ Call.SameUpToOrder calls calls') :
    run env s calls = run env s calls' ∧
      ∀ ctx tokenString now (order order' : RangeOrder V) t,
        (parseToken env (run env s calls).1 ctx tokenString now order (run env s calls).2).1 = .ok t ↔
          (parseToken env (run env s calls').1 ctx tokenString now order' (run env s calls').2).1 = .ok t := by
  have hrun : run env s calls = run env s calls' := by
    induction hsame generalizing s with
    | nil => rfl
    | cons hc _ ih => rw [run_cons, run_cons, step_order env hc, ih]
  refine ⟨hrun, fun ctx tokenString now order order' t => ?_⟩
  rw [hrun]
  exact (parseToken_order env _ ctx tokenString now order order' _).2 t

end

def RangeOrder.reversed (V : Type) : RangeOrder V := ⟨fun m => m.entries.reverse, fun _ => List.reverse_perm _⟩

def reversedCalls : List (Call String) :=
  [.parseToken ⟨false, none⟩ "token" 0 (.reversed String), .setIssuer "https://issuer/v2",
    .setDiscoveryUri "https://issuer/v2/.well-known/openid-configuration"]

theorem run_ignores_map_order_issuer :
    List.Forall₂ Call.SameUpToOrder issuerCalls reversedCalls ∧
      run issuerEnv (issuerHandler, 0) issuerCalls = run issuerEnv (issuerHandler, 0) reversedCalls ∧
      ∀ ctx tokenString now (order order' : RangeOrder String) t,
        (parseToken issuerEnv (run issuerEnv (issuerHandler, 0) issuerCalls).1 ctx tokenString now order
            (run issuerEnv (issuerHandler, 0) issuerCalls).2).1 = .ok t ↔
          (parseToken issuerEnv (run issuerEnv (issuerHandler, 0) reversedCalls).1 ctx tokenString now order'
            (run issuerEnv (issuerHandler, 0) reversedCalls).2).1 = .ok t :=
  have hsame : List.Forall₂ Call.SameUpToOrder issuerCalls reversedCalls :=
    .cons (.parseToken _ _ _ _ _) (.cons (.refl _) (.cons (.refl _) .nil))
  ⟨hsame, run_ignores_map_order issuerEnv (issuerHandler, 0) hsame⟩

end OidcMiddleware
