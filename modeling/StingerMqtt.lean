import StingerMqtt.Kit.TSys
import StingerMqtt.Validation.MockSuite
import StingerMqtt.Validation.Leftovers
import StingerMqtt.Validation.VerifyPublish
import StingerMqtt.Validation.ParallelStarts
import StingerMqtt.Mock.MatchRelation
import StingerMqtt.Mock.DollarTopics
import StingerMqtt.Mock.RetainedStore
import StingerMqtt.Mock.FailedReceive
import StingerMqtt.Mock.IdExhaustion
import StingerMqtt.Mock.MisplacedHash
import StingerMqtt.PayloadLabel
import StingerMqtt.AvailabilityTopics
import StingerMqtt.Presence
import StingerMqtt.Concurrent.Identity
import StingerMqtt.Concurrent.Copies
import StingerMqtt.Concurrent.Retained
import StingerMqtt.Concurrent.Latest
import StingerMqtt.Concurrent.Sequential
import StingerMqtt.Concurrent.Locks
import StingerMqtt.Concurrent.Linear
import StingerMqtt.Concurrent.Termination
import StingerMqtt.Concurrent.Unretained
import StingerMqtt.Concurrent.Inspection
import StingerMqtt.Concurrent.Poison
import StingerMqtt.Validation.Waiting
import StingerMqtt.PresenceTracking
import StingerMqtt.BuilderRoundTrip
import StingerMqtt.Validation.BrokerEnd
import StingerMqtt.Validation.BrokerStarts
