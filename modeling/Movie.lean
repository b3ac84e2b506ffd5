import Movie.ActorCell
import Movie.ActorPathParser
import Movie.ActorRegistry
import Movie.ActorRestart
import Movie.ActorTreeSpawn
import Movie.AssociationDelivery
import Movie.ClusterEmission
import Movie.ClusterIsolation
import Movie.ClusterObservation
import Movie.ClusterViewRevision
import Movie.CompactionSafety
import Movie.DeadLetterCompleteness
import Movie.DuplicateArbitration
import Movie.DurablePhases
import Movie.EventWindow
import Movie.ExtensionCycles
import Movie.FeedPaging
import Movie.Futures
import Movie.HttpRendering
import Movie.IncarnationFreshness
import Movie.ProjectionAtLeastOnce
import Movie.ProjectionExactlyOnce
import Movie.StoreAdmission
import Movie.StreamStages
import Movie.TransportDelivery
import Movie.WireCanonicity
import Movie.WireTransport
import Movie.WorkerPoolQueues
