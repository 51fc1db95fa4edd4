import OidcMiddleware.Go
import OidcMiddleware.Jwx
import OidcMiddleware.Gates
import OidcMiddleware.Claims
import OidcMiddleware.Handler
import OidcMiddleware.Pipeline
import OidcMiddleware.ParseSound
import OidcMiddleware.KeyChoice
import OidcMiddleware.Lifecycle
import OidcMiddleware.Refresh
import OidcMiddleware.Policy
import OidcMiddleware.Exposure
