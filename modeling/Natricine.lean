import Natricine.Aws.Attributes
import Natricine.Aws.Envelope
import Natricine.Aws.FanOut
import Natricine.Aws.EndToEnd
import Natricine.Aws.Survival
import Natricine.Cqrs.Dispatch
import Natricine.Cqrs.FinishedWork
import Natricine.Cqrs.Independence
import Natricine.Cqrs.OneHandler
import Natricine.Cqrs.Release
import Natricine.Cqrs.Resolution
import Natricine.Cqrs.StartUp
import Natricine.Cqrs.Subscribers
import Natricine.Http.EndToEnd
import Natricine.Kafka.Commit
import Natricine.Kafka.EndToEnd
import Natricine.Kafka.Marshaling
import Natricine.Kafka.Seek
import Natricine.Kafka.Sessions
import Natricine.Otel.Transparency
import Natricine.PubSub.Closing
import Natricine.PubSub.FanOut
import Natricine.PubSub.InOrder
import Natricine.Redis.EndToEnd
import Natricine.Redis.Marshaling
import Natricine.Redis.Redelivery
import Natricine.Redis.Rereads
import Natricine.Redis.Sessions
import Natricine.Router.OnceOnly
import Natricine.Router.OwnSettlement
import Natricine.Router.PermanentError
import Natricine.Router.Recoverer
import Natricine.Router.RetrySemantics
import Natricine.Router.RunHandler
import Natricine.Router.Shutdown
import Natricine.Router.Signals
import Natricine.Service.FailedSettlement
import Natricine.Service.GracefulClose
import Natricine.Service.InOrder
import Natricine.Service.Lifecycle
import Natricine.Sql.AllOrNothing
import Natricine.Sql.Competing
import Natricine.Sql.Interleaved
import Natricine.Sql.Order
import Natricine.Sql.Quoting
import Natricine.Sql.RoundTrip
import Natricine.Sql.Settling
import Natricine.Sql.Statements
