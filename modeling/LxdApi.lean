import LxdApi.Library.Interaction
import LxdApi.Library.UriReference
import LxdApi.Library.OrderedMap
import LxdApi.Library.ExclusiveMap
import LxdApi.Library.Machine
import LxdApi.Library.Relay
import LxdApi.Library.RelayChannels
import LxdApi.Library.RelayEndings
import LxdApi.Library.Pool
import LxdApi.Library.ReadModifyWrite
import LxdApi.Library.Writers
import LxdApi.Library.JsonText
import LxdApi.Library.Linearizable
import LxdApi.Library.Windows
import LxdApi.Library.TextReplace
import LxdApi.Library.Url
import LxdApi.Config
import LxdApi.Json
import LxdApi.Exceptions
import LxdApi.Envelope
import LxdApi.LxdClient
import LxdApi.LxdOperations
import LxdApi.OperationReferences
import LxdApi.Pagination
import LxdApi.PagedReads
import LxdApi.Routes
import LxdApi.InstanceRoutes
import LxdApi.ResourceRoutes
import LxdApi.Security
import LxdApi.Bcrypt
import LxdApi.Users
import LxdApi.Guards
import LxdApi.AuthRoutes
import LxdApi.UserPrograms
import LxdApi.Catalogue
import LxdApi.Admission
import LxdApi.PasswordLogins
import LxdApi.ConcurrentSeeding
import LxdApi.Registrations
import LxdApi.InstanceSchemas
import LxdApi.InstanceKinds
import LxdApi.WsUrls
import LxdApi.Credentials
import LxdApi.CredentialProvenance
import LxdApi.Revocation
import LxdApi.HandlerRuns
import LxdApi.ProjectScoping
import LxdApi.FailurePropagation
import LxdApi.StartedOperations
import LxdApi.WaitedOperations
import LxdApi.RequestTargets
import LxdApi.DeviceUpdates
import LxdApi.DeviceSequences
import LxdApi.DeviceFrames
import LxdApi.DeviceConflicts
import LxdApi.ErrorAnswers
import LxdApi.WaitFailures
import LxdApi.WaitTimeouts
import LxdApi.SessionSecrets
import LxdApi.SessionRelays
import LxdApi.RoundTrips
import LxdApi.ServerPrograms
import LxdApi.Linearizability
import LxdApi.Sessions
import LxdApi.Permissions
import LxdApi.SessionReach
import LxdApi.Library.PathPatterns
import LxdApi.ApiRoutes
import LxdApi.OperationLinks
import LxdApi.UserDirectory
import LxdApi.PasswordSecrecy
import LxdApi.Payloads
import LxdApi.ForwardedBodies
import LxdApi.Logging
import LxdApi.FollowedOperations
import LxdApi.Library.RelayContents
import LxdApi.SocketSessions
import LxdApi.Library.Keepers
import LxdApi.LxdHosts
import LxdApi.InstanceIsolation
import LxdApi.SpreadUpdates
import LxdApi.ProjectIsolation
import LxdApi.Observers
import LxdApi.Library.Retries
import LxdApi.DeviceRetries
