import OidcMiddleware.ParseSound

/-!
# The handler over a run of calls

A handler from `newHandler` is valid: every setting holds a value its use accepts
(`newHandler_valid`). It is then driven by `ParseToken`, `SetIssuer` and `SetDiscoveryUri`
calls, over a world the network and the key handler change. Along every run whose setters
get non-empty values it stays valid (`run_valid`); no run changes a setting other than the
issuer, the discovery uri and what a load sets (`run_reconfigured`), and a key handler once
built is kept for good (`run_keyHandler`), so that no later call fetches the discovery
document or builds another (`run_of_loaded_ignores_load`). Loading lazily is loading at
construction deferred to the first `ParseToken` (`lazyLoad_defers_load`), and in keyed mode
no run forces a refresh of the key set (`run_keyed_never_refreshes`).
-/

namespace OidcMiddleware

theorem orDefault_ne {α : Type} [DecidableEq α] {zero default : α} (h : default ≠ zero) (x : α) :
    orDefault zero default x ≠ zero := by
  unfold orDefault
  split
  · exact h
  · assumption

theorem getDiscoveryUriFromIssuer_ne (issuer : String) : getDiscoveryUriFromIssuer issuer ≠ "" := by
  intro h
  have := congrArg String.length h
  simp only [getDiscoveryUriFromIssuer, String.length_append, String.length_empty,
    Nat.add_eq_zero] at this
  exact absurd this.2 (by decide)

section
variable {σ κ V C : Type}

/-- The settings of a handler hold values their uses accept, and a key handler it holds was
built for a jwks uri. -/
structure Valid (jwx : Jwx V) (h : Handler κ V) : Prop where
  issuer : h.issuer ≠ ""
  discoveryUri : h.discoveryUri ≠ ""
  jwksFetchTimeout : h.jwksFetchTimeout ≠ 0
  jwksRateLimit : h.jwksRateLimit ≠ 0
  allowedTokenDrift : h.allowedTokenDrift ≠ 0
  fallback : h.fallbackSignatureAlgorithm = "" ∨ ∃ alg, jwx.accept alg = .ok h.fallbackSignatureAlgorithm
  jwksUri : h.keyHandler ≠ none → h.jwksUri ≠ ""

theorem Valid.withJwksUri {jwx : Jwx V} {h : Handler κ V} (hv : Valid jwx h) {jwksUri : String}
    (hj : jwksUri ≠ "") (keyHandler : Option κ) :
    Valid jwx { h with jwksUri := jwksUri, keyHandler := keyHandler } :=
  ⟨hv.1, hv.2, hv.3, hv.4, hv.5, hv.6, fun _ => hj⟩

theorem withDefaults_valid (jwx : Jwx V) {opts : Options V} {fallback : String}
    (hi : opts.issuer ≠ "") (hf : fallback = "" ∨ ∃ alg, jwx.accept alg = .ok fallback) :
    Valid jwx (withDefaults opts fallback : Handler κ V) :=
  ⟨hi, orDefault_ne (getDiscoveryUriFromIssuer_ne _) _, orDefault_ne (by decide) _,
    orDefault_ne (by decide) _, orDefault_ne (by decide) _, hf, fun h => absurd rfl h⟩

theorem getJwksUriFromDiscoveryUri_ne {remote : Remote σ κ} {httpClient : HttpClient}
    {discoveryUri : String} {fetchTimeout : Int} {w w' : σ} {jwksUri : String}
    (hj : getJwksUriFromDiscoveryUri remote httpClient discoveryUri fetchTimeout w = (.ok jwksUri, w')) :
    jwksUri ≠ "" := by
  unfold getJwksUriFromDiscoveryUri at hj
  split at hj
  · cases hj
  · split at hj
    · cases hj
    · cases hj; assumption

theorem loadJwks_valid {jwx : Jwx V} (remote : Remote σ κ) {h : Handler κ V} (hv : Valid jwx h)
    (w : σ) : Valid jwx (loadJwks remote h w).2.1 := by
  unfold loadJwks
  split
  · exact hv
  · rename_i jwksUri _ hj
    have hne : jwksUri ≠ "" := by
      split at hj
      · exact getJwksUriFromDiscoveryUri_ne hj
      · cases hj; assumption
    split
    · exact hv.withJwksUri hne h.keyHandler
    · exact hv.withJwksUri hne _

theorem loadJwks_eq_ok {remote : Remote σ κ} {h h' : Handler κ V} {w w' : σ} {kh : κ}
    (hl : loadJwks remote h w = (.ok kh, h', w')) :
    ∃ jwksUri, h' = { h with jwksUri := jwksUri, keyHandler := some kh } := by
  unfold loadJwks at hl
  split at hl
  · cases hl
  · split at hl
    · cases hl
    · cases hl; exact ⟨_, rfl⟩

def issuerOptions : Options String :=
  { issuer := "https://issuer/", discoveryUri := "", jwksUri := "", jwksFetchTimeout := 0,
    jwksRateLimit := 0, fallbackSignatureAlgorithm := "", allowedTokenDrift := 0,
    lazyLoadJwks := false, requiredTokenType := "JWT", requiredAudience := "a",
    requiredClaims := some ⟨[("azp", "c")], by decide⟩, disableKeyID := false, httpClient := none }

theorem newHandler_valid (env : Env σ κ V C) {opts : Options V} {w w' : σ} {h : Handler κ V}
    (hn : newHandler env opts w = (.ok h, w')) : Valid env.toJwx h := by
  unfold newHandler at hn
  split at hn; · cases hn
  rename_i hi
  split at hn; · cases hn
  rename_i fallback hf
  have hv : Valid env.toJwx (withDefaults opts fallback : Handler κ V) := by
    refine withDefaults_valid env.toJwx hi ?_
    split at hf
    · unfold getSignatureAlgorithmFromString at hf
      split at hf
      · cases hf
      · cases hf; exact .inr ⟨_, ‹_›⟩
    · cases hf; exact .inl rfl
  split at hn
  · cases hn; exact hv
  · split at hn
    · cases hn
    · rename_i heq
      cases hn
      simpa [heq] using loadJwks_valid env.toRemote hv w

theorem newHandler_valid_issuer :
    newHandler issuerEnv issuerOptions 0 = (.ok issuerLoaded, 2) ∧ Valid issuerEnv.toJwx issuerLoaded :=
  have hn : newHandler issuerEnv issuerOptions 0 = (.ok issuerLoaded, 2) := rfl
  ⟨hn, newHandler_valid issuerEnv hn⟩

theorem issuerLoaded_valid : Valid issuerEnv.toJwx issuerLoaded :=
  ⟨by decide, getDiscoveryUriFromIssuer_ne _, by decide, by decide, by decide, .inl rfl, fun _ => by decide⟩

section
variable (env : Env σ κ V C)

theorem loadedKeyHandler_valid {h : Handler κ V} (hv : Valid env.toJwx h) (w : σ) :
    Valid env.toJwx (loadedKeyHandler env h w).2.1 := by
  unfold loadedKeyHandler
  split
  · exact hv
  · have := loadJwks_valid env.toRemote hv w
    split <;> rename_i heq <;> simpa [heq] using this

theorem loadedKeyHandler_of_loaded {h : Handler κ V} {kh : κ} (hk : h.keyHandler = some kh) (w : σ) :
    loadedKeyHandler env h w = (.ok kh, h, w) := by
  simp [loadedKeyHandler, hk]

theorem parseToken_handler (h : Handler κ V) (ctx : Context) (tokenString : String) (now : Int)
    (order : RangeOrder V) (w : σ) :
    (parseToken env h ctx tokenString now order w).2.1 = (loadedKeyHandler env h w).2.1 := by
  unfold parseToken
  split <;> rename_i heq <;> simp only [heq]
  split
  · rfl
  · split <;> rfl

theorem parseToken_of_empty_issuer {h : Handler κ V} (hi : h.issuer = "") (ctx : Context)
    (tokenString : String) (now : Int) (order : RangeOrder V) (w : σ) (t : Token) :
    (parseToken env h ctx tokenString now order w).1 ≠ .ok t := by
  intro hp
  rcases hpt : parseToken env h ctx tokenString now order w with ⟨r, h', w'⟩
  obtain rfl : r = .ok t := by rw [hpt] at hp; exact hp
  exact (parseToken_admitted env hpt).issuer.1 hi

theorem parseToken_of_empty_issuer_issuer :
    (setIssuer issuerLoaded "").issuer = "" ∧
      (parseToken issuerEnv (setIssuer issuerLoaded "") ⟨false, none⟩ "token" 0 (.stored String) 2).1 ≠
        .ok issuerToken :=
  ⟨rfl, parseToken_of_empty_issuer issuerEnv rfl ⟨false, none⟩ "token" 0 (.stored String) 2 issuerToken⟩

end

/-! ## Runs of calls -/

inductive Call (V : Type) where
  | parseToken (ctx : Context) (tokenString : String) (now : Int) (order : RangeOrder V)
  | setIssuer (issuer : String)
  | setDiscoveryUri (discoveryUri : String)

def Call.NonEmpty : Call V → Prop
  | .parseToken .. => True
  | .setIssuer issuer => issuer ≠ ""
  | .setDiscoveryUri discoveryUri => discoveryUri ≠ ""

/-- `h'` differs from `h` at most in what a call may change: the issuer and the discovery
uri, by a setter, and the jwks uri and the key handler, by a load. -/
def Reconfigured (h h' : Handler κ V) : Prop :=
  ∃ issuer discoveryUri jwksUri keyHandler, h' =
    { h with issuer := issuer, discoveryUri := discoveryUri, jwksUri := jwksUri, keyHandler := keyHandler }

theorem Reconfigured.refl (h : Handler κ V) : Reconfigured h h :=
  ⟨h.issuer, h.discoveryUri, h.jwksUri, h.keyHandler, rfl⟩

theorem Reconfigured.trans {h₁ h₂ h₃ : Handler κ V} :
    Reconfigured h₁ h₂ → Reconfigured h₂ h₃ → Reconfigured h₁ h₃ := by
  rintro ⟨-, -, -, -, rfl⟩ ⟨i, d, j, k, rfl⟩
  exact ⟨i, d, j, k, rfl⟩

section
variable (env : Env σ κ V C)

def step : Handler κ V × σ → Call V → Handler κ V × σ
  | (h, w), .parseToken ctx tokenString now order => (parseToken env h ctx tokenString now order w).2
  | (h, w), .setIssuer issuer => (setIssuer h issuer, w)
  | (h, w), .setDiscoveryUri discoveryUri => (setDiscoveryUri h discoveryUri, w)

def run (s : Handler κ V × σ) (calls : List (Call V)) : Handler κ V × σ := calls.foldl (step env) s

theorem run_cons (s : Handler κ V × σ) (c : Call V) (calls : List (Call V)) :
    run env s (c :: calls) = run env (step env s c) calls := rfl

theorem step_valid {s : Handler κ V × σ} {c : Call V} (hv : Valid env.toJwx s.1) (hc : c.NonEmpty) :
    Valid env.toJwx (step env s c).1 := by
  obtain ⟨h, w⟩ := s
  cases c with
  | parseToken ctx tokenString now order =>
    simpa only [step, parseToken_handler] using loadedKeyHandler_valid env hv w
  | setIssuer issuer => exact ⟨hc, hv.2, hv.3, hv.4, hv.5, hv.6, hv.7⟩
  | setDiscoveryUri discoveryUri => exact ⟨hv.1, hc, hv.3, hv.4, hv.5, hv.6, hv.7⟩

theorem run_valid {s : Handler κ V × σ} {calls : List (Call V)} (hv : Valid env.toJwx s.1)
    (hc : ∀ c ∈ calls, c.NonEmpty) : Valid env.toJwx (run env s calls).1 := by
  induction calls generalizing s with
  | nil => exact hv
  | cons c calls ih =>
    rw [run_cons]
    exact ih (step_valid env hv (hc c (List.mem_cons_self c calls)))
      fun c' hc' => hc c' (List.mem_cons_of_mem c hc')

def issuerCalls : List (Call String) :=
  [.parseToken ⟨false, none⟩ "token" 0 (.stored String), .setIssuer "https://issuer/v2",
    .setDiscoveryUri "https://issuer/v2/.well-known/openid-configuration"]

theorem run_valid_issuer :
    Valid issuerEnv.toJwx issuerLoaded ∧ (∀ c ∈ issuerCalls, c.NonEmpty) ∧
      Valid issuerEnv.toJwx (run issuerEnv (issuerLoaded, 2) issuerCalls).1 :=
  have hc : ∀ c ∈ issuerCalls, c.NonEmpty := by simp [issuerCalls, Call.NonEmpty]
  ⟨issuerLoaded_valid, hc, run_valid issuerEnv issuerLoaded_valid hc⟩

theorem step_reconfigured (s : Handler κ V × σ) (c : Call V) : Reconfigured s.1 (step env s c).1 := by
  obtain ⟨h, w⟩ := s
  cases c with
  | parseToken ctx tokenString now order =>
    obtain ⟨jwksUri, keyHandler, hh⟩ := loadedKeyHandler_handler env h w
    simp only [step, parseToken_handler, hh]
    exact ⟨_, _, jwksUri, keyHandler, rfl⟩
  | setIssuer issuer => exact ⟨issuer, _, _, _, rfl⟩
  | setDiscoveryUri discoveryUri => exact ⟨_, discoveryUri, _, _, rfl⟩

theorem run_reconfigured (s : Handler κ V × σ) (calls : List (Call V)) :
    Reconfigured s.1 (run env s calls).1 := by
  induction calls generalizing s with
  | nil => exact .refl _
  | cons c calls ih => exact (step_reconfigured env s c).trans (ih _)

theorem step_of_loaded {s : Handler κ V × σ} {kh : κ} (hk : s.1.keyHandler = some kh) (c : Call V) :
    (step env s c).1.keyHandler = some kh ∧ (step env s c).1.jwksUri = s.1.jwksUri := by
  obtain ⟨h, w⟩ := s
  cases c with
  | parseToken ctx tokenString now order =>
    simpa [step, parseToken_handler, loadedKeyHandler_of_loaded env hk] using hk
  | setIssuer issuer => exact ⟨hk, rfl⟩
  | setDiscoveryUri discoveryUri => exact ⟨hk, rfl⟩

theorem run_keyHandler {s : Handler κ V × σ} {kh : κ} (hk : s.1.keyHandler = some kh)
    (calls : List (Call V)) :
    (run env s calls).1.keyHandler = some kh ∧ (run env s calls).1.jwksUri = s.1.jwksUri := by
  induction calls generalizing s with
  | nil => exact ⟨hk, rfl⟩
  | cons c calls ih =>
    obtain ⟨hk', hj⟩ := step_of_loaded env hk c
    rw [run_cons, ← hj]
    exact ih hk'

theorem run_keyHandler_issuer :
    issuerLoaded.keyHandler = some () ∧
      (run issuerEnv (issuerLoaded, 2) issuerCalls).1.keyHandler = some () ∧
      (run issuerEnv (issuerLoaded, 2) issuerCalls).1.jwksUri = issuerLoaded.jwksUri :=
  ⟨rfl, run_keyHandler issuerEnv rfl issuerCalls⟩

/-! ## Loading lazily -/

theorem parseToken_of_load_ok {h h₁ : Handler κ V} {w w₁ : σ} {kh : κ} (hk : h.keyHandler = none)
    (hl : loadJwks env.toRemote h w = (.ok kh, h₁, w₁)) (ctx : Context) (tokenString : String)
    (now : Int) (order : RangeOrder V) :
    parseToken env h ctx tokenString now order w = parseToken env h₁ ctx tokenString now order w₁ := by
  have hl₀ : loadedKeyHandler env h w = (.ok kh, h₁, w₁) := by simp [loadedKeyHandler, hk, hl]
  obtain ⟨jwksUri, rfl⟩ := loadJwks_eq_ok hl
  have hk₁ : ({ h with jwksUri := jwksUri, keyHandler := some kh } : Handler κ V).keyHandler = some kh := rfl
  simp only [parseToken, hl₀, loadedKeyHandler_of_loaded env hk₁]

theorem parseToken_of_load_error {h h₁ : Handler κ V} {w w₁ : σ} {err : Error} (hk : h.keyHandler = none)
    (hl : loadJwks env.toRemote h w = (.error err, h₁, w₁)) (ctx : Context) (tokenString : String)
    (now : Int) (order : RangeOrder V) :
    parseToken env h ctx tokenString now order w = (.error (.wrapf "unable to load jwks: %w" [] err), h₁, w₁) := by
  simp [parseToken, loadedKeyHandler, hk, hl]

/-- Loading lazily is the load of `NewHandler` deferred to the first `ParseToken`, whose
failure is wrapped as `NewHandler` wraps it. -/
theorem lazyLoad_defers_load (opts : Options V) (w : σ) :
    (∀ err w', newHandler env { opts with lazyLoadJwks := true } w = (.error err, w') →
      newHandler env opts w = (.error err, w')) ∧
    ∀ lazy w', newHandler env { opts with lazyLoadJwks := true } w = (.ok lazy, w') →
      w' = w ∧ lazy.keyHandler = none ∧ ∀ ctx tokenString now order,
        (∀ eager w₁, newHandler env opts w = (.ok eager, w₁) →
          parseToken env lazy ctx tokenString now order w = parseToken env eager ctx tokenString now order w₁) ∧
        (∀ err w₁, newHandler env opts w = (.error err, w₁) →
          (parseToken env lazy ctx tokenString now order w).1 = .error err ∧
          (parseToken env lazy ctx tokenString now order w).2.2 = w₁) := by
  unfold newHandler
  by_cases hi : opts.issuer = ""
  · simp [hi]
  simp only [hi, if_false]
  split
  · simp
  rename_i fallback _
  refine ⟨fun _ _ he => by simp at he, ?_⟩
  rintro _ _ he
  simp only [if_true, Prod.mk.injEq, Except.ok.injEq] at he
  obtain ⟨rfl, rfl⟩ := he
  rw [show (withDefaults { opts with lazyLoadJwks := true } fallback : Handler κ V) =
    withDefaults opts fallback from rfl]
  refine ⟨rfl, rfl, fun ctx tokenString now order => ?_⟩
  cases opts.lazyLoadJwks
  · simp only [Bool.false_eq_true, if_false]
    split <;> rename_i hload <;>
      simp only [Prod.mk.injEq, Except.ok.injEq, Except.error.injEq, reduceCtorEq, false_and]
    · refine ⟨fun _ _ h => h.elim, ?_⟩
      rintro _ _ ⟨rfl, rfl⟩
      rw [parseToken_of_load_error env rfl hload]
      exact ⟨rfl, rfl⟩
    · refine ⟨?_, fun _ _ h => h.elim⟩
      rintro _ _ ⟨rfl, rfl⟩
      exact parseToken_of_load_ok env rfl hload ctx tokenString now order
  · simp only [if_true, Prod.mk.injEq, Except.ok.injEq, reduceCtorEq, false_and]
    refine ⟨?_, fun _ _ h => h.elim⟩
    rintro _ _ ⟨rfl, rfl⟩
    rfl

/-! ## What a run never asks of the network -/

theorem Reconfigured.disableKeyID {h h' : Handler κ V} (hr : Reconfigured h h') :
    h'.disableKeyID = h.disableKeyID := by
  obtain ⟨-, -, -, -, rfl⟩ := hr
  rfl

theorem step_of_loaded_ignores_load (fetch : HttpClient → String → Int → σ → Except Error String × σ)
    (build : HttpClient → String → Int → Nat → Bool → σ → Except Error κ × σ)
    {s : Handler κ V × σ} {kh : κ} (hk : s.1.keyHandler = some kh) (c : Call V) :
    step { env with fetchDiscovery := fetch, newKeyHandler := build } s c = step env s c := by
  obtain ⟨h, w⟩ := s
  cases c with
  | parseToken ctx tokenString now order =>
    simp only [step, parseToken, loadedKeyHandler_of_loaded _ hk]
    rfl
  | setIssuer issuer => rfl
  | setDiscoveryUri discoveryUri => rfl

theorem run_of_loaded_ignores_load (fetch : HttpClient → String → Int → σ → Except Error String × σ)
    (build : HttpClient → String → Int → Nat → Bool → σ → Except Error κ × σ)
    {s : Handler κ V × σ} {kh : κ} (hk : s.1.keyHandler = some kh) (calls : List (Call V)) :
    run { env with fetchDiscovery := fetch, newKeyHandler := build } s calls = run env s calls := by
  induction calls generalizing s with
  | nil => rfl
  | cons c calls ih =>
    rw [run_cons, run_cons, step_of_loaded_ignores_load env fetch build hk]
    exact ih (step_of_loaded env hk c).1

theorem run_of_loaded_ignores_load_issuer :
    issuerLoaded.keyHandler = some () ∧
      run { issuerEnv with
          fetchDiscovery := fun _ _ _ w => (.error (.errorf "offline" []), w)
          newKeyHandler := fun _ _ _ _ _ w => (.error (.errorf "offline" []), w) }
        (issuerLoaded, 2) issuerCalls = run issuerEnv (issuerLoaded, 2) issuerCalls :=
  ⟨rfl, run_of_loaded_ignores_load issuerEnv _ _ rfl issuerCalls⟩

theorem loadJwks_of_jwksUri (remote : Remote σ κ) {h : Handler κ V} (hj : h.jwksUri ≠ "") (w : σ) :
    (loadJwks remote h w).2.1.jwksUri = h.jwksUri := by
  unfold loadJwks
  simp only [hj, if_false]
  split <;> rfl

theorem step_of_jwksUri (fetch : HttpClient → String → Int → σ → Except Error String × σ)
    {s : Handler κ V × σ} (hj : s.1.jwksUri ≠ "") (c : Call V) :
    step { env with fetchDiscovery := fetch } s c = step env s c ∧ (step env s c).1.jwksUri = s.1.jwksUri := by
  obtain ⟨h, w⟩ := s
  cases c with
  | parseToken ctx tokenString now order =>
    have hl : loadedKeyHandler { env with fetchDiscovery := fetch } h w = loadedKeyHandler env h w := by
      simp only [loadedKeyHandler, loadJwks, hj, if_false]
    refine ⟨by simp only [step, parseToken, hl]; rfl, ?_⟩
    simp only [step, parseToken_handler, loadedKeyHandler]
    split
    · rfl
    · have := loadJwks_of_jwksUri env.toRemote hj w
      split <;> rename_i heq <;> simpa [heq] using this
  | setIssuer issuer => exact ⟨rfl, rfl⟩
  | setDiscoveryUri discoveryUri => exact ⟨rfl, rfl⟩

theorem run_of_jwksUri_ignores_discovery (fetch : HttpClient → String → Int → σ → Except Error String × σ)
    {s : Handler κ V × σ} (hj : s.1.jwksUri ≠ "") (calls : List (Call V)) :
    (run env s calls).1.jwksUri = s.1.jwksUri ∧
      run { env with fetchDiscovery := fetch } s calls = run env s calls := by
  induction calls generalizing s with
  | nil => exact ⟨rfl, rfl⟩
  | cons c calls ih =>
    obtain ⟨hs, hj'⟩ := step_of_jwksUri env fetch hj c
    obtain ⟨ih₁, ih₂⟩ := ih (hj'.symm ▸ hj)
    rw [run_cons, run_cons, hs, ih₂, ih₁, hj']
    exact ⟨rfl, rfl⟩

theorem run_of_jwksUri_ignores_discovery_issuer :
    ({ issuerHandler with jwksUri := "https://issuer/jwks" }, 0).1.jwksUri ≠ "" ∧
      ((run issuerEnv ({ issuerHandler with jwksUri := "https://issuer/jwks" }, 0) issuerCalls).1.jwksUri =
          "https://issuer/jwks" ∧
        run { issuerEnv with fetchDiscovery := fun _ _ _ w => (.error (.errorf "offline" []), w) }
            ({ issuerHandler with jwksUri := "https://issuer/jwks" }, 0) issuerCalls =
          run issuerEnv ({ issuerHandler with jwksUri := "https://issuer/jwks" }, 0) issuerCalls) :=
  have hj : ({ issuerHandler with jwksUri := "https://issuer/jwks" }, 0).1.jwksUri ≠ "" := by decide
  ⟨hj, run_of_jwksUri_ignores_discovery issuerEnv _ hj issuerCalls⟩

theorem verifyToken_keyed (refresh : κ → Context → σ → Except Error Key × σ) {h : Handler κ V}
    (hd : h.disableKeyID = false) (kh : κ) (ctx : Context) (tokenString : String) (key : Key)
    (alg : String) (w : σ) :
    verifyToken { env with waitForUpdateKeySetAndGetKey := refresh } h kh ctx tokenString key alg w =
      verifyToken env h kh ctx tokenString key alg w := by
  simp only [verifyToken, hd, Bool.false_and, Bool.false_eq_true, if_false]

theorem step_keyed (refresh : κ → Context → σ → Except Error Key × σ) {s : Handler κ V × σ}
    (hd : s.1.disableKeyID = false) (c : Call V) :
    step { env with waitForUpdateKeySetAndGetKey := refresh } s c = step env s c := by
  obtain ⟨h, w⟩ := s
  cases c with
  | parseToken ctx tokenString now order =>
    obtain ⟨jwksUri, keyHandler, hh⟩ := loadedKeyHandler_handler env h w
    have hl : loadedKeyHandler { env with waitForUpdateKeySetAndGetKey := refresh } h w =
      loadedKeyHandler env h w := rfl
    simp only [step, parseToken, hl]
    split
    · rfl
    · rename_i heq
      rw [heq] at hh
      subst hh
      have hd₁ : ({ h with jwksUri := jwksUri, keyHandler := keyHandler } : Handler κ V).disableKeyID =
        false := hd
      simp only [verifyToken_keyed env refresh hd₁]
      rfl
  | setIssuer issuer => rfl
  | setDiscoveryUri discoveryUri => rfl

theorem run_keyed_never_refreshes (refresh : κ → Context → σ → Except Error Key × σ)
    {s : Handler κ V × σ} (hd : s.1.disableKeyID = false) (calls : List (Call V)) :
    run { env with waitForUpdateKeySetAndGetKey := refresh } s calls = run env s calls := by
  induction calls generalizing s with
  | nil => rfl
  | cons c calls ih =>
    rw [run_cons, run_cons, step_keyed env refresh hd]
    exact ih ((step_reconfigured env s c).disableKeyID.trans hd)

theorem run_keyed_never_refreshes_issuer :
    issuerHandler.disableKeyID = false ∧
      run { issuerEnv with waitForUpdateKeySetAndGetKey := fun _ _ w => (.error (.errorf "offline" []), w) }
        (issuerHandler, 0) issuerCalls = run issuerEnv (issuerHandler, 0) issuerCalls :=
  ⟨rfl, run_keyed_never_refreshes issuerEnv _ rfl issuerCalls⟩

end

end

end OidcMiddleware
