import Basket.Library.Cluster
import Basket.Library.ClusterTraces
import Basket.Library.Linearizability
import Basket.Library.Iterator
import Basket.Library.SortedSequence
import Basket.Library.Tree
import Basket.Communication.Routing
import Basket.Communication.Deployment
import Basket.Map.Model
import Basket.RangeQuery
import Basket.Map.Linearizable
import Basket.Map.RangeQuery
import Basket.Set.Model
import Basket.Set.PopFirst
import Basket.Set.RangeQuery
import Basket.Library.MultiTree
import Basket.Multimap.Model
import Basket.Multimap.Contains
import Basket.UnorderedMap.Model
import Basket.UnorderedMap.OneMap
import Basket.AllData
import Basket.Queue.Fifo
import Basket.Library.PriorityQueue
import Basket.PriorityQueue.Model
import Basket.PriorityQueue.Order
import Basket.Sequencer.Model
import Basket.Sequencer.Numbers
import Basket.Common.CharStruct
import Basket.Common.ConfigurationManager
import Basket.Sequencer.RealTime
import Basket.Communication.Rpc
import Basket.Communication.Addresses
import Basket.Communication.RpcFactory
import Basket.Communication.Modulus
import Basket.Communication.Endpoints
import Basket.BackedFile
import Basket.Construction
import Basket.UnorderedMap.Callback
import Basket.Commute
import Basket.Queue.WaitForElement
import Basket.RangeOrder
import Basket.Multimap.Intervals
import Basket.Library.Machine
import Basket.Multimap.Refinement
import Basket.FailedPut
import Basket.FailedPop
import Basket.Queue.Placement
import Basket.Common.CharBuffer
import Basket.Set.SeekFirstN
import Basket.UnorderedMap.CallbackResult
import Basket.Common.ServerList
import Basket.Communication.ServerRing
import Basket.Common.CharOrder
import Basket.CharKey
import Basket.Library.Msgpack
import Basket.Wire
import Basket.Common.CharConstruction
import Basket.FunctionNames
import Basket.Bodies
import Basket.Library.CriticalSectionAnswers
import Basket.Library.Objects
import Basket.PriorityQueue.Sequential
import Basket.RangeCollect
import Basket.System
import Basket.Library.CriticalSection
import Basket.Library.CriticalSectionRefinement
import Basket.Library.Parts
import Basket.Library.Walk
import Basket.Map.Sequential
import Basket.Set.Sequential
import Basket.Multimap.Sequential
import Basket.UnorderedMap.Sequential
import Basket.GlobalClock.Model
import Basket.GlobalClock.RealTime
import Basket.Library.Segments
import Basket.Attachment
import Basket.Delivery
import Basket.Guarantees
import Basket.Communication.Startup
import Basket.Library.Failures
import Basket.Failures
import Basket.Library.Retention
import Basket.Overtaking
