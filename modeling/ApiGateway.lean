import ApiGateway.Access.Policy
import ApiGateway.Config.Basic
import ApiGateway.Config.Entries
import ApiGateway.Config.Environment
import ApiGateway.Config.Error
import ApiGateway.Config.Printer
import ApiGateway.Crypto.Hmac
import ApiGateway.Crypto.Sha256
import ApiGateway.Data.NameMap
import ApiGateway.Data.NameSet
import ApiGateway.Gateway.Client
import ApiGateway.Gateway.Cors
import ApiGateway.Gateway.Dispatch
import ApiGateway.Gateway.Error
import ApiGateway.Gateway.Forward
import ApiGateway.Gateway.Identity
import ApiGateway.Gateway.Session
import ApiGateway.Gateway.State
import ApiGateway.Http.Address
import ApiGateway.Http.Header
import ApiGateway.Http.Message
import ApiGateway.Http.Method
import ApiGateway.Http.Uri
import ApiGateway.Json.Record
import ApiGateway.Json.Tree
import ApiGateway.Json.Writer
import ApiGateway.Proofs.BreakerTimer
import ApiGateway.Proofs.BreakerContract
import ApiGateway.Proofs.Cors
import ApiGateway.Proofs.Forwarding
import ApiGateway.Proofs.Pipeline
import ApiGateway.Proofs.PrefixRouting
import ApiGateway.Proofs.RateLimit
import ApiGateway.Proofs.Startup
import ApiGateway.Proofs.WeightedChoice
import ApiGateway.Routing.Endpoint
import ApiGateway.Routing.Registry
import ApiGateway.Text.Base64Url
import ApiGateway.Text.Blank
import ApiGateway.Text.Case
import ApiGateway.Text.Numeral
import ApiGateway.Text.Utf8
import ApiGateway.Token.Authority
import ApiGateway.Token.Claims
import ApiGateway.Token.Codec
import ApiGateway.Token.Error
import ApiGateway.Token.Header
import ApiGateway.Token.Key
import ApiGateway.Traffic.Breaker
import ApiGateway.Traffic.Clock
import ApiGateway.Traffic.RateLimiter
import ApiGateway.Traffic.TimedBreaker
import ApiGateway.Proofs.AccessRules
import ApiGateway.Proofs.AccessChanges
import ApiGateway.Proofs.ForwardedClient
import ApiGateway.Proofs.ForwardedChain
import ApiGateway.Proofs.SettingsText
import ApiGateway.Proofs.EndpointList
import ApiGateway.Proofs.JsonStrings
import ApiGateway.Proofs.JsonRoundTrip
import ApiGateway.Proofs.TokenRoundTrip
import ApiGateway.Proofs.PrefixTable
import ApiGateway.Proofs.RestrictedRoutes
import ApiGateway.Proofs.RouteVariables
import ApiGateway.Proofs.EnvironmentSettings
import ApiGateway.Proofs.ListItems
