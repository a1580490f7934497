import KnativeMesh.Library.Joined
import KnativeMesh.Library.Index
import KnativeMesh.Library.Scatter
import KnativeMesh.Library.JsonTree
import KnativeMesh.Library.JsonSchema
import KnativeMesh.Library.Register
import KnativeMesh.Library.Paging
import KnativeMesh.Library.SharedHeap
import KnativeMesh.Library.Rekey
import KnativeMesh.Go
import KnativeMesh.GoJson
import KnativeMesh.UnstructuredObject
import KnativeMesh.Kubernetes
import KnativeMesh.Apimachinery
import KnativeMesh.Mesh
import KnativeMesh.Converters
import KnativeMesh.Builder
import KnativeMesh.Keys
import KnativeMesh.Passes
import KnativeMesh.Runs
import KnativeMesh.Listing
import KnativeMesh.Fetches
import KnativeMesh.ClusterContents
import KnativeMesh.Decoding
import KnativeMesh.References
import KnativeMesh.Registration
import KnativeMesh.Triggers
import KnativeMesh.Subscriptions
import KnativeMesh.Completeness
import KnativeMesh.Lookups
import KnativeMesh.SourceTypes
import KnativeMesh.Permissions
import KnativeMesh.PositionFree
import KnativeMesh.ListingOrder
import KnativeMesh.Provider
import KnativeMesh.Wire
import KnativeMesh.Entities
import KnativeMesh.EntityRefs
import KnativeMesh.MeshSchema
import KnativeMesh.Endpoint
import KnativeMesh.BearerTokens
import KnativeMesh.Credentials
import KnativeMesh.Sync
import KnativeMesh.Processor
import KnativeMesh.Consumers
import KnativeMesh.CatalogQueries
import KnativeMesh.Requests
import KnativeMesh.ProviderConfig
import KnativeMesh.Schedules
import KnativeMesh.Specification
import KnativeMesh.Namespaces
import KnativeMesh.Failures
import KnativeMesh.Annotations
import KnativeMesh.Swagger
import KnativeMesh.ConsumerGraph
import KnativeMesh.Growth
import KnativeMesh.Provenance
import KnativeMesh.Settled
import KnativeMesh.WireFidelity
import KnativeMesh.Pipeline
