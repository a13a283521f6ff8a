import AwsCrt.Lib.Machine
import AwsCrt.Lib.Cells
import AwsCrt.Lib.LittleEndian
import AwsCrt.Common.Event
import AwsCrt.Eventstream.Int64
import AwsCrt.Lib.JsString
import AwsCrt.Common.IotShared
import AwsCrt.Browser.Ws
import AwsCrt.Lib.JsCollections
import AwsCrt.Browser.HttpHeaders
import AwsCrt.Browser.ConnectionManager
import AwsCrt.Browser.TopicTrie
import AwsCrt.Crypto.Hash
import AwsCrt.Native.InputStream
import AwsCrt.Eventstream.Headers
import AwsCrt.Browser.Mqtt5Client
import AwsCrt.Eventstream.Client
import AwsCrt.Browser.Mqtt5Utils
import AwsCrt.Browser.ReconnectionScheduler
import AwsCrt.Mqtt.ReconnectBounds
import AwsCrt.Common.Cancel
import AwsCrt.Common.CancelOutcome
import AwsCrt.Lib.Packing
import AwsCrt.Mqtt.IotBuilder
import AwsCrt.Native.ClassBinder
import AwsCrt.Native.PacketStorage
import AwsCrt.Browser.MqttConnection
import AwsCrt.Native.Mqtt5Packets
import AwsCrt.Browser.PacketTransforms
import AwsCrt.Browser.TopicAliasing
import AwsCrt.Lib.SharedRef
import AwsCrt.Native.EventStreamBinding
import AwsCrt.Native.StreamBinding
