import OidcMiddleware.Gates
import OidcMiddleware.Claims

/-!
# The handler

`newHandler` applies the defaults of `Options` and, unless loading is lazy, builds the key
handler; `parseToken` builds it on first use, finds the key and its algorithm, verifies
the token (once more after a forced refresh in unkeyed mode) and applies the gates. The
network and the key handler `κ` are a parameter (`Remote`) over a world state `σ` that each
of their calls may change; so are the clock reading `now` and the order of the loop over
the required claims.

`parseToken` is cut along the source into `loadedKeyHandler` (lines 613-618),
`selectKey` (620-642), `verifyToken` (644-664, the retry in `retryKey`) and
`validateToken` (666-693): the pair `selectKey` returns is the one the first
verification uses.
-/

namespace OidcMiddleware

/-- What the handler asks of the network and of the key handler `κ` it builds. -/
structure Remote (σ κ : Type) where
  /-- `getJwksUriFromDiscoveryUri` up to its last check: GET the discovery document within
  the timeout, read and decode it, and return its `jwks_uri`, empty when absent. -/
  fetchDiscovery : HttpClient → String → Int → σ → Except Error String × σ
  newKeyHandler : HttpClient → String → Int → Nat → Bool → σ → Except Error κ × σ
  getKey : κ → Context → String → σ → Except Error Key × σ
  waitForUpdateKeySetAndGetKey : κ → Context → σ → Except Error Key × σ

structure Env (σ κ V C : Type) extends Jwx V, Cty V C, Remote σ κ

/-- `Options`; durations in nanoseconds, a nil `HttpClient` as `none`. -/
structure Options (V : Type) where
  issuer : String
  discoveryUri : String
  jwksUri : String
  jwksFetchTimeout : Int
  jwksRateLimit : Nat
  fallbackSignatureAlgorithm : String
  allowedTokenDrift : Int
  lazyLoadJwks : Bool
  requiredTokenType : String
  requiredAudience : String
  requiredClaims : Option (GoMap V)
  disableKeyID : Bool
  httpClient : Option HttpClient

structure Handler (κ V : Type) where
  issuer : String
  discoveryUri : String
  jwksUri : String
  jwksFetchTimeout : Int
  jwksRateLimit : Nat
  fallbackSignatureAlgorithm : String
  allowedTokenDrift : Int
  requiredAudience : String
  requiredTokenType : String
  requiredClaims : Option (GoMap V)
  disableKeyID : Bool
  httpClient : HttpClient
  keyHandler : Option κ

def getDiscoveryUriFromIssuer (issuer : String) : String :=
  (if issuer.endsWith "/" then issuer.dropRight 1 else issuer) ++ "/.well-known/openid-configuration"

def orDefault {α : Type} [DecidableEq α] (zero default x : α) : α := if x = zero then default else x

section
variable {σ κ V C : Type}

def getJwksUriFromDiscoveryUri (remote : Remote σ κ) (httpClient : HttpClient)
    (discoveryUri : String) (fetchTimeout : Int) (w : σ) : Except Error String × σ :=
  match remote.fetchDiscovery httpClient discoveryUri fetchTimeout w with
  | (.error err, w) => (.error err, w)
  | (.ok jwksUri, w) => if jwksUri = "" then (.error (.errorf "JwksUri is empty" []), w) else (.ok jwksUri, w)

def loadJwks (remote : Remote σ κ) (h : Handler κ V) (w : σ) : Except Error κ × Handler κ V × σ :=
  match (if h.jwksUri = "" then getJwksUriFromDiscoveryUri remote h.httpClient h.discoveryUri (5 * second) w
      else (.ok h.jwksUri, w)) with
  | (.error err, w) =>
    (.error (.wrapf "unable to fetch jwksUri from discoveryUri (%s): %w" [.str h.discoveryUri] err), h, w)
  | (.ok jwksUri, w) =>
    match remote.newKeyHandler h.httpClient jwksUri h.jwksFetchTimeout h.jwksRateLimit h.disableKeyID w with
    | (.error err, w) =>
      (.error (.wrapf "unable to initialize keyHandler: %w" [] err), { h with jwksUri := jwksUri }, w)
    | (.ok keyHandler, w) =>
      (.ok keyHandler, { h with jwksUri := jwksUri, keyHandler := some keyHandler }, w)

/-- Lines 532-571 of `NewHandler`: the handler the options describe, each setting left at
its zero value given its default, with the fallback algorithm already accepted. -/
def withDefaults (opts : Options V) (fallbackSignatureAlgorithm : String) : Handler κ V :=
  { issuer := opts.issuer
    discoveryUri := orDefault "" (getDiscoveryUriFromIssuer opts.issuer) opts.discoveryUri
    jwksUri := opts.jwksUri
    jwksFetchTimeout := orDefault 0 (5 * second) opts.jwksFetchTimeout
    jwksRateLimit := orDefault 0 1 opts.jwksRateLimit
    fallbackSignatureAlgorithm := fallbackSignatureAlgorithm
    allowedTokenDrift := orDefault 0 (10 * second) opts.allowedTokenDrift
    requiredAudience := opts.requiredAudience
    requiredTokenType := opts.requiredTokenType
    requiredClaims := opts.requiredClaims
    disableKeyID := opts.disableKeyID
    httpClient := opts.httpClient.getD defaultClient
    keyHandler := none }

def newHandler (env : Env σ κ V C) (opts : Options V) (w : σ) : Except Error (Handler κ V) × σ :=
  if opts.issuer = "" then (.error (.errorf "issuer is empty" []), w)
  else
    match (if opts.fallbackSignatureAlgorithm ≠ "" then
        getSignatureAlgorithmFromString env.toJwx opts.fallbackSignatureAlgorithm else .ok "") with
    | .error err => (.error (.wrapf "FallbackSignatureAlgorithm not accepted: %w" [] err), w)
    | .ok fallbackSignatureAlgorithm =>
      if opts.lazyLoadJwks then (.ok (withDefaults opts fallbackSignatureAlgorithm), w)
      else
        match loadJwks env.toRemote (withDefaults opts fallbackSignatureAlgorithm) w with
        | (.error err, _, w) => (.error (.wrapf "unable to load jwks: %w" [] err), w)
        | (.ok _, h, w) => (.ok h, w)

def setIssuer (h : Handler κ V) (issuer : String) : Handler κ V := { h with issuer := issuer }

def setDiscoveryUri (h : Handler κ V) (discoveryUri : String) : Handler κ V :=
  { h with discoveryUri := discoveryUri }

/-! ## `ParseToken`

`parseToken` is cut along the source into stages: `loadedKeyHandler` (lines 613-618), the
type gate with `keyIDOf` (625-632), the key and its algorithm in `selectKey` (620-642),
`verifyToken` (644-664) with the forced refresh of its retry in `retryKey` (647-655), and
`validateToken` (666-693). -/

section
variable (env : Env σ κ V C)

def loadedKeyHandler (h : Handler κ V) (w : σ) : Except Error κ × Handler κ V × σ :=
  match h.keyHandler with
  | some keyHandler => (.ok keyHandler, h, w)
  | none =>
    match loadJwks env.toRemote h w with
    | (.error err, h, w) => (.error (.wrapf "unable to load jwks: %w" [] err), h, w)
    | (.ok keyHandler, h, w) => (.ok keyHandler, h, w)

def keyIDOf (h : Handler κ V) (tokenString : String) : Except Error String :=
  if h.disableKeyID then .ok "" else getKeyIDFromTokenString env.toJwx tokenString

def selectKey (h : Handler κ V) (keyHandler : κ) (ctx : Context) (tokenString : String) (w : σ) :
    Except Error (Key × String) × σ :=
  if !isTokenTypeValid env.toJwx h.requiredTokenType tokenString then
    (.error (.errorf "token type %q required" [.str h.requiredTokenType]), w)
  else
    match keyIDOf env h tokenString with
    | .error err => (.error err, w)
    | .ok keyID =>
      match env.getKey keyHandler ctx keyID w with
      | (.error err, w) => (.error (.wrapf "unable to get public key: %w" [] err), w)
      | (.ok key, w) =>
        match getSignatureAlgorithm env.toJwx key.keyType key.algorithm h.fallbackSignatureAlgorithm with
        | .error err => (.error err, w)
        | .ok alg => (.ok (key, alg), w)

def retryKey (h : Handler κ V) (keyHandler : κ) (ctx : Context) (key : Key) (w : σ) :
    Except Error (Key × String) × σ :=
  match env.waitForUpdateKeySetAndGetKey keyHandler ctx w with
  | (.error err, w) => (.error err, w)
  | (.ok updatedKey, w) =>
    match getSignatureAlgorithm env.toJwx key.keyType key.algorithm h.fallbackSignatureAlgorithm with
    | .error err => (.error err, w)
    | .ok alg => (.ok (updatedKey, alg), w)

def verifyToken (h : Handler κ V) (keyHandler : κ) (ctx : Context) (tokenString : String)
    (key : Key) (alg : String) (w : σ) : Except Error Token × σ :=
  match getAndValidateTokenFromString env.toJwx tokenString key alg with
  | .ok token => (.ok token, w)
  | .error err =>
    if h.disableKeyID && errorsIs err errSignatureVerification then
      match retryKey env h keyHandler ctx key w with
      | (.error err, w) => (.error err, w)
      | (.ok (updatedKey, alg), w) => (getAndValidateTokenFromString env.toJwx tokenString updatedKey alg, w)
    else (.error err, w)

def validateToken (h : Handler κ V) (ctx : Context) (now : Int) (order : RangeOrder V)
    (token : Token) : Except Error Token :=
  if !isTokenExpirationValid token.expiration h.allowedTokenDrift now then
    .error (.errorf "token has expired: %s" [.time token.expiration])
  else if !isTokenIssuerValid h.issuer token.issuer then
    .error (.errorf "required issuer %q was not found, received: %s" [.str h.issuer, .str token.issuer])
  else if !isTokenAudienceValid h.requiredAudience token.audience then
    .error (.errorf "required audience %q was not found, received: %v"
      [.str h.requiredAudience, .strs token.audience])
  else
    match h.requiredClaims with
    | none => .ok token
    | some requiredClaims =>
      match env.asMap token ctx with
      | .error err => .error (.wrapf "unable to get token claims: %w" [] (.lib err))
      | .ok tokenClaims =>
        match isRequiredClaimsValid env.toCty order requiredClaims tokenClaims with
        | .error err => .error (.wrapf "unable to validate required claims: %w" [] err)
        | .ok () => .ok token

/-- `ParseToken(ctx, tokenString)`, with the clock reading `now` and the order the runtime
picks for the loop over the required claims. -/
def parseToken (h : Handler κ V) (ctx : Context) (tokenString : String) (now : Int)
    (order : RangeOrder V) (w : σ) : Except Error Token × Handler κ V × σ :=
  match loadedKeyHandler env h w with
  | (.error err, h, w) => (.error err, h, w)
  | (.ok keyHandler, h, w) =>
    match selectKey env h keyHandler ctx tokenString w with
    | (.error err, w) => (.error err, h, w)
    | (.ok (key, alg), w) =>
      match verifyToken env h keyHandler ctx tokenString key alg w with
      | (.error err, w) => (.error err, h, w)
      | (.ok token, w) => (validateToken env h ctx now order token, h, w)

end

end

end OidcMiddleware
